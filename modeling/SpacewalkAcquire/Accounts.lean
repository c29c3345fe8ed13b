import SpacewalkAcquire.Channel
import SpacewalkAcquire.Credentials
import SpacewalkAcquire.Environment
import SpacewalkAcquire.XmlRpc.Call
import SpacewalkAcquire.XmlRpc.Response

/-!
# Accounts

`Accounts m` is a service that knows the registered systems: it logs this one in and lists its channels.
`Accounts.xmlRpc` asks the server itself, presenting the identity in the system id file.

* `ServerAccount.login`, `ServerAccount.channels` : the two calls to the server;
* `Credentials.ofValue?` : the credentials in the answer to a login, its scalar members;
* `Channel.listOfValue` : the channels in the answer to a listing, which fails as a whole with the first bad entry.
-/

namespace SpacewalkAcquire

/-- A service that knows the registered systems. -/
structure Accounts (m : Type → Type) where
  /-- Credentials for this system, none if it is not registered. -/
  login (server : Server) : m (Except Failure (Option Credentials))
  channels (server : Server) : m (Except Failure (List Channel))

/-- The credentials in the answer to a login: the members of a `struct` that are scalars. -/
def Credentials.ofValue? (v : XmlRpc.Value) : Option Credentials :=
  v.members?.map fun members =>
    OrderedMap.ofList (members.filterMap fun p => p.2.scalarText?.map fun text => (p.1, text))

def Channel.ofValue (v : XmlRpc.Value) : Except Failure Channel := do
  let members ← match v.members? with
    | some members => pure members
    | none => throw (.channelResolution "channel entry is not a struct")
  let label ← match (members.get? "label").bind XmlRpc.Value.scalarText? with
    | some label => pure label
    | none => throw (.channelResolution "channel entry has no label")
  return ⟨label, ((members.get? "parent_channel").bind XmlRpc.Value.scalarText?).getD ""⟩

def Channel.listOfValue (v : XmlRpc.Value) : Except Failure (List Channel) :=
  match v.items? with
  | some items => items.mapM Channel.ofValue
  | none => .error (.channelResolution "channel list is not an array")

namespace ServerAccount

variable {m : Type → Type} [Monad m]

/-- The identity of this system, `none` if it has no file. -/
def systemId (env : Environment m) (server : Server) : ExceptT Failure m (Option String) := do
  match ← env.readText server.systemIdFile with
  | .ok identity => return some identity
  | .error .notFound => return none
  | .error e => throw (.pipe s!"Failed to read system id {server.systemIdFile}" e.message)

def callRequest (server : Server) (method : String) (parameters : List String) : Http.Request :=
  { (Http.Request.ofUrl .post server.base).withHeader "content-type" "text/xml" with
    body := Text.toUtf8 (XmlRpc.call method parameters) }

/-- The text of the server's answer to a call of `method`. -/
def call (decode : Http.Decoder) (env : Environment m) (server : Server) (method : String) (parameters : List String) :
    ExceptT Failure m String := do
  let connection ← ExceptT.mk (Connection.prepare env server (server.base.scheme = "https"))
  match ← ExceptT.lift (Http.send (env.exchange connection) (callRequest server method parameters)) with
  | .error why => throw (.network s!"{method} request failed: {why}" (some why))
  | .ok reply =>
    if !Http.isSuccess reply.status then
      throw (.network s!"{method} returned status {Http.statusText reply.status}" none)
    let body := reply.body
    if !body.complete then
      throw (.network s!"Failed to read {method} response: {Http.bodyFault}" (some Http.bodyFault))
    return decode (reply.textHeader? "content-type") body.chunks.flatten

def login (decode : Http.Decoder) (env : Environment m) (server : Server) : ExceptT Failure m (Option Credentials) := do
  match ← systemId env server with
  | none => return none
  | some identity =>
    let document ← call decode env server "up2date.login" [identity]
    match XmlRpc.decode document with
    | .error e => throw (.authentication s!"Login failed: {e.message}")
    | .ok v => return Credentials.ofValue? v

def channels (decode : Http.Decoder) (env : Environment m) (server : Server) : ExceptT Failure m (List Channel) := do
  match ← systemId env server with
  | none => throw .notRegistered
  | some identity =>
    let document ← call decode env server "up2date.listChannels" [identity]
    match XmlRpc.decode document with
    | .error e => throw (.channelResolution s!"listChannels failed: {e.message}")
    | .ok v => ExceptT.mk (pure (Channel.listOfValue v))

end ServerAccount

/-- The server itself as the service. -/
def Accounts.xmlRpc {m : Type → Type} [Monad m] (decode : Http.Decoder) (env : Environment m) : Accounts m where
  login server := (ServerAccount.login decode env server).run
  channels server := (ServerAccount.channels decode env server).run

end SpacewalkAcquire
