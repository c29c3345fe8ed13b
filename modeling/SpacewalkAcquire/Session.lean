import SpacewalkAcquire.Accounts

/-!
# Sessions

A `Session` holds what was established for all requests of a run: configuration, credentials, channels, headers and
connection. Each is obtained from the `Sources` when it is first needed and kept; what fails is tried again by the
next request that needs it.

* `SessionT` : computations that use a session and may fail; a failure keeps what was established before it;
* `Session.ensureServer`, `ensureCredentials`, `ensureChannels`, `baseChannel`, `ensureHeaders`, `ensureConnection` :
  what is established, now or earlier;
* `Session.close` : gives the connection up, and nothing else.
-/

namespace SpacewalkAcquire

/-- What was established for all requests of a run. -/
structure Session where
  server? : Option Server
  credentials? : Option Credentials
  channels? : Option (List Channel)
  headers? : Option (OrderedMap String String)
  connection? : Option Connection
  deriving DecidableEq

/-- Where a session gets what it establishes. -/
structure Sources (m : Type → Type) where
  configuration : m (Except Failure Server)
  accounts : Accounts m
  connect (server : Server) : m (Except Failure Connection)

/-- A session whose configuration was read beforehand has no other source for it. -/
def Sources.noConfiguration : Except Failure Server :=
  .error (.configuration "config" "no configuration source available")

def Sources.ofEnvironment {m : Type → Type} [Monad m] (env : Environment m) (accounts : Accounts m)
    (configuration : m (Except Failure Server)) : Sources m where
  configuration := configuration
  accounts := accounts
  connect server := Connection.prepare env server server.useTls

def Server.load {m : Type → Type} [Monad m] (env : Environment m) (file : String) : m (Except Failure Server) :=
  Server.ofFile file <$> env.readText file

/-- Computations that use a session and may fail. -/
abbrev SessionT (m : Type → Type) := ExceptT Failure (StateT Session m)

def SessionT.ofEnvironment {m : Type → Type} [Monad m] {α : Type} (step : m (Except Failure α)) : SessionT m α :=
  ExceptT.mk (StateT.lift step)

namespace Session

def new : Session := ⟨none, none, none, none, none⟩

def ofServer (server : Server) : Session := { new with server? := some server }

def isLoggedIn (s : Session) : Bool := s.credentials?.isSome

variable {m : Type → Type} [Monad m]

/-- The configuration that is established. -/
def currentServer : SessionT m Server := do
  match (← get).server? with
  | some server => return server
  | none => throw (.configuration "config" "configuration has not been loaded")

variable (sources : Sources m)

def ensureServer : SessionT m Server := do
  match (← get).server? with
  | some server => return server
  | none =>
    let server ← SessionT.ofEnvironment sources.configuration
    modify fun s => { s with server? := some server }
    return server

/-- The credentials; a system without any is `notRegistered`. -/
def ensureCredentials : SessionT m Credentials := do
  match (← get).credentials? with
  | some credentials => return credentials
  | none =>
    let server ← ensureServer sources
    match ← SessionT.ofEnvironment (sources.accounts.login server) with
    | none => throw .notRegistered
    | some credentials =>
      if credentials.isEmpty then throw .notRegistered
      modify fun s => { s with credentials? := some credentials }
      return credentials

/-- The channels, of which one must be a base channel. -/
def ensureChannels : SessionT m (List Channel) := do
  match (← get).channels? with
  | some channels => return channels
  | none =>
    let server ← ensureServer sources
    let channels ← SessionT.ofEnvironment (sources.accounts.channels server)
    discard <| liftExcept (Channel.baseLabel channels)
    modify fun s => { s with channels? := some channels }
    return channels

def baseChannel : SessionT m String := do
  liftExcept (Channel.baseLabel (← ensureChannels sources))

/-- The headers that every request for content must carry. They come from credentials received before. -/
def ensureHeaders : SessionT m (OrderedMap String String) := do
  match (← get).headers? with
  | some headers => return headers
  | none =>
    match (← get).credentials? with
    | none => throw (.authentication "login must complete before request headers are derived")
    | some credentials =>
      let headers ← liftExcept credentials.headers
      modify fun s => { s with headers? := some headers }
      return headers

def ensureConnection : SessionT m Connection := do
  match (← get).connection? with
  | some connection => return connection
  | none =>
    let server ← ensureServer sources
    let connection ← SessionT.ofEnvironment (sources.connect server)
    modify fun s => { s with connection? := some connection }
    return connection

/-- Gives the connection up. -/
def close : SessionT m Unit := modify fun s => { s with connection? := none }

end Session

end SpacewalkAcquire
