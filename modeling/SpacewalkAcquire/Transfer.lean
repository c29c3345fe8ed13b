import SpacewalkAcquire.Digest.Content
import SpacewalkAcquire.DocumentPath
import SpacewalkAcquire.Request
import SpacewalkAcquire.Session

/-!
# Transfers

`Transfer.fetch` serves one request: it establishes the session as far as needed, asks the server for the document,
and stores what arrives while its digests are computed. It tells the front end how far it has come.

* `Transfer.contentRequest` : the HTTP request for a document, with the headers of the session;
* `Transfer.store` : puts a body into a file; whatever fails, no part of the body remains;
* `Transfer.checkHost`, `logIn`, `locate`, `ask` : the stages of `announce`, after which the body can be received;
* `Transfer.receive` : stores the body and tells what is known of it;
* `Transfer.fetch` : the whole of it.
-/

namespace SpacewalkAcquire.Transfer

def isHeaderChar (c : Char) : Bool := c == '\t' || (32 ≤ c.toNat && c.toNat != 127)

/-- The headers of a session as HTTP headers, their names in small letters. -/
def httpHeaders (headers : OrderedMap String String) : Except Failure (OrderedMap String String) :=
  headers.entries.foldlM (fun collected header => do
    let name := String.ofList (Text.asciiLower header.1.toList)
    if header.2.toList.all isHeaderChar then return collected.insert name header.2
    else throw (.authentication s!"Invalid value for {name}: failed to parse header value")) .empty

def contentRequest (address : Url) (headers : OrderedMap String String) : Http.Request :=
  (Http.Request.ofUrl .get address).withHeaders headers

variable {m : Type → Type} [Monad m]

/-- Adds `chunks` to `file`, and to the digests of what is in it. -/
def appendChunks (env : Environment m) (file : String) (running : ContentDigest.Running) :
    List Bytes → ExceptT Failure m ContentDigest.Running
  | [] => return running
  | chunk :: rest => do
    match ← env.appendFile file chunk with
    | .error e => throw (.transfer s!"Failed to write {file}: {e.message}" (some e.message))
    | .ok () => appendChunks env file (running.update chunk) rest

/-- Puts `body` into a new file; on failure the file may hold a part of it. -/
def write (env : Environment m) (file : String) (body : Http.Body) : ExceptT Failure m ContentDigest := do
  match ← env.createFile file with
  | .error e => throw (.transfer s!"Cannot create {file}: {e.message}" (some e.message))
  | .ok () =>
    let running ← appendChunks env file .new body.chunks
    if !body.complete then throw (.transfer s!"Failed to read response body: {Http.bodyFault}" (some Http.bodyFault))
    else match ← env.flushFile file with
      | .error e => throw (.transfer s!"Failed to flush {file}: {e.message}" (some e.message))
      | .ok () => return running.finish

/-- Puts `body` into a new file, which is removed on failure. -/
def store (env : Environment m) (file : String) (body : Http.Body) : m (Except Failure ContentDigest) := do
  match ← (write env file body).run with
  | .ok digest => return .ok digest
  | .error failure =>
    discard <| env.removeFile file
    return .error failure

/-- The failure that a status other than success stands for. Its body is received and dropped. -/
def statusFailure (reply : Http.Reply) : Failure :=
  .httpStatus reply.status ((Http.reason? reply.status).getD "")
    (if reply.body.complete then none
      else some (.transfer s!"Failed to drain response: {Http.bodyFault}" (some Http.bodyFault)))

def checkHost (sources : Sources m) (request : Request) : SessionT m Unit := do
  let server ← Session.ensureServer sources
  if !server.serves request.uri then
    throw (.hostMismatch (request.uri.hostText?.getD "") server.netloc)

/-- Logs in unless that has been done, and tells about it by `say`. -/
def logIn (sources : Sources m) (say : Message → m (Except Failure Unit)) (uri : String) : SessionT m Unit := do
  if !(← get).isLoggedIn then
    SessionT.ofEnvironment (say (.status uri "Logging into the spacewalk server"))
    discard <| Session.ensureCredentials sources
    SessionT.ofEnvironment (say (.status uri "Logged in"))

def locate (sources : Sources m) (request : Request) : SessionT m (Connection × Http.Request) := do
  let document := DocumentPath.toBackend request.uri.pathText (← Session.baseChannel sources)
  let headers ← liftExcept (httpHeaders (← Session.ensureHeaders))
  let address ← liftExcept ((← Session.currentServer).contentAddress document)
  let connection ← Session.ensureConnection sources
  return (connection, contentRequest address headers)

/-- The server's reply, which must report success. -/
def ask (env : Environment m) (uri : String) (connection : Connection) (content : Http.Request) :
    SessionT m Http.Reply := do
  match ← SessionT.ofEnvironment (.ok <$> Http.send (env.exchange connection) content) with
  | .error why => throw (.network s!"Request for {uri} failed: {why}" (some why))
  | .ok reply => if reply.status ≠ Http.okStatus then throw (statusFailure reply) else return reply

def receive (env : Environment m) (request : Request) (reply : Http.Reply) : SessionT m Message.Outcome := do
  let digest ← SessionT.ofEnvironment (store env request.filename reply.body)
  return ⟨digest.size, reply.textHeader? "last-modified", digest.md5, digest.sha256⟩

/-- Goes as far as the announcement of the body, and says how far it has come by `say`. -/
def announce (env : Environment m) (sources : Sources m) (say : Message → m (Except Failure Unit))
    (request : Request) : SessionT m Http.Reply := do
  let uri := request.uri.text
  checkHost sources request
  logIn sources say uri
  let (connection, content) ← locate sources request
  SessionT.ofEnvironment (say (.status uri "Waiting for headers"))
  let reply ← ask env uri connection content
  SessionT.ofEnvironment (say (.uriStart uri reply.length? (reply.textHeader? "last-modified")))
  return reply

def fetch (env : Environment m) (sources : Sources m) (say : Message → m (Except Failure Unit)) (request : Request) :
    SessionT m Message.Outcome := do
  let reply ← announce env sources say request
  receive env request reply

end SpacewalkAcquire.Transfer
