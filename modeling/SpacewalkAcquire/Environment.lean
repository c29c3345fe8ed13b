import SpacewalkAcquire.Files
import SpacewalkAcquire.Http.Redirect
import SpacewalkAcquire.Message.Wire
import SpacewalkAcquire.Server

/-!
# The surroundings of the method

An `Environment m` is what the method can do in a monad `m`: use files, exchange one HTTP request for a reply, and
write to the front end. All that the library does beyond pure computation goes through these operations, so a law
about every environment is a law about every behaviour of files, server and pipe.

* `Environment.readText` : a file as text;
* `Environment.send` : writes a message and flushes it;
* `Environment.lift` : the same operations in a larger monad.
-/

namespace SpacewalkAcquire

/-- What an HTTP connection may be used for. -/
structure Connection where
  /-- The certificates to trust, if the connection is to be encrypted. -/
  trusted : Option (List Bytes)
  timeout : Option Nat
  deriving DecidableEq, Repr

/-- What the method can do in its surroundings. -/
structure Environment (m : Type → Type) where
  readFile (path : String) : m (Except FileError Bytes)
  /-- Creates a file, or empties it. -/
  createFile (path : String) : m (Except FileError Unit)
  appendFile (path : String) (chunk : Bytes) : m (Except FileError Unit)
  /-- Makes sure that what was added to a file has reached it. -/
  flushFile (path : String) : m (Except FileError Unit)
  removeFile (path : String) : m (Except FileError Unit)
  /-- What is wrong with bytes that should be a certificate. -/
  certificateFault (content : Bytes) : m (Option String)
  /-- Sends one request, without following redirects. -/
  exchange (connection : Connection) (request : Http.Request) : m Http.Answer
  /-- Writes bytes to the front end; a failure is told in the system's words. -/
  write (bytes : Bytes) : m (Except String Unit)
  flush : m (Except String Unit)

namespace Environment

variable {m : Type → Type} [Monad m]

def readText (env : Environment m) (path : String) : m (Except FileError String) := do
  match ← env.readFile path with
  | .ok content => return (Text.ofUtf8? content).elim (.error .notText) .ok
  | .error e => return .error e

/-- Sends a message to the front end. -/
def send (env : Environment m) (message : Message) : m (Except Failure Unit) := do
  match ← env.write (Text.toUtf8 message.wire) with
  | .error why => return .error (.pipe "Failed to write to the front end" why)
  | .ok () =>
    match ← env.flush with
    | .error why => return .error (.pipe "Failed to flush output" why)
    | .ok () => return .ok ()

/-- The operations in a larger monad `n`. -/
def lift {n : Type → Type} [MonadLift m n] (env : Environment m) : Environment n where
  readFile path := liftM (env.readFile path)
  createFile path := liftM (env.createFile path)
  appendFile path chunk := liftM (env.appendFile path chunk)
  flushFile path := liftM (env.flushFile path)
  removeFile path := liftM (env.removeFile path)
  certificateFault content := liftM (env.certificateFault content)
  exchange connection request := liftM (env.exchange connection request)
  write bytes := liftM (env.write bytes)
  flush := liftM env.flush

end Environment

def readCertificates {m : Type → Type} [Monad m] (env : Environment m) :
    List String → m (Except Failure (List Bytes))
  | [] => return .ok []
  | file :: rest => do
    match ← env.readFile file with
    | .error e => return .error (.tls s!"cannot read CA certificate {file}: {e.message}")
    | .ok content =>
      match ← env.certificateFault content with
      | some fault => return .error (.tls s!"invalid CA certificate {file}: {fault}")
      | none => return (← readCertificates env rest).map (content :: ·)

/-- Prepares a connection. If `encrypted`, it trusts the server's certificates and no others. -/
def Connection.prepare {m : Type → Type} [Monad m] (env : Environment m) (server : Server) (encrypted : Bool) :
    m (Except Failure Connection) := do
  if !encrypted then return .ok ⟨none, server.timeout⟩
  else if server.certificateFiles.isEmpty then return .error (.tls "no CA certificate configured")
  else return (← readCertificates env server.certificateFiles).map fun trusted => ⟨some trusted, server.timeout⟩

end SpacewalkAcquire
