import SpacewalkAcquire.Certificate
import SpacewalkAcquire.CommandLine
import SpacewalkAcquire.Http.Charset
import SpacewalkAcquire.Http.Wire
import Std.Async.DNS
import Std.Async.TCP

/-!
# The program

`main` is the acquire method on the system that it runs on: real files, plain HTTP over TCP, and the standard streams
as the pipe to the front end. It reads the input line by line and lets the library deal with every message as soon as
it is complete. Encrypted connections cannot be opened here; requests over them fail as unreachable.
-/

namespace SpacewalkAcquire.Program

def fileError : IO.Error → FileError
  | .noFileOrDirectory .. => .notFound
  | .inappropriateType _ code _ => if code = 21 then .isDirectory else .notDirectory
  | .permissionDenied .. => .denied
  | e => .other (toString e)

def onFile {α : Type} (action : IO α) : IO (Except FileError α) := do
  try
    return .ok (← action)
  catch e => return .error (fileError e)

def onPipe (action : IO Unit) : IO (Except String Unit) := do
  try
    action
    return .ok ()
  catch e => return .error (toString e)

def addressOf (host : Host) (port : UInt16) : IO Std.Net.SocketAddress := do
  match host with
  | .ipv4 a =>
    let n := a.value
    return .v4 ⟨⟨#v[(n >>> 24).toUInt8, (n >>> 16).toUInt8, (n >>> 8).toUInt8, n.toUInt8]⟩, port⟩
  | _ =>
    let found : Array Std.Net.IPAddr ← (Std.Async.DNS.getAddrInfo host.text (toString port.toNat)).block
    match found.toList with
    | .v4 a :: _ => return .v4 ⟨a, port⟩
    | .v6 a :: _ => return .v6 ⟨a, port⟩
    | [] => throw (IO.userError "dns error: no address")

/-- Everything that arrives on a connection until the other side closes it. -/
partial def receiveAll (client : Std.Async.TCP.Socket.Client) (received : ByteArray) : IO ByteArray := do
  match ← (client.recv? 65536).block with
  | some chunk => receiveAll client (received ++ chunk)
  | none => return received

/-- Sends one request over a connection of its own. -/
def exchange (request : Http.Request) : IO Http.Answer := do
  match request.url.scheme, request.url.host?, request.url.effectivePort? with
  | "http", some host, some port =>
    let connected : Except String Std.Async.TCP.Socket.Client ← try
        let client ← Std.Async.TCP.Socket.Client.mk
        (client.connect (← addressOf host port)).block
        pure (.ok client)
      catch e => pure (.error (toString e))
    match connected with
    | .error why => return .unreachable s!"error trying to connect: {why}"
    | .ok client =>
      try
        (client.send ⟨request.wire.toArray⟩).block
        let received ← receiveAll client .empty
        match Http.Reply.ofBytes? received.toList with
        | some reply => return .reply reply
        | none => return .broken "connection closed before message completed"
      catch e => return .broken s!"connection error: {e}"
  | scheme, _, _ => return .unreachable s!"error trying to connect: no way to speak {scheme}"

def environment : Environment IO where
  readFile path := onFile do return (← IO.FS.readBinFile path).toList
  createFile path := onFile (IO.FS.writeBinFile path .empty)
  appendFile path chunk := onFile do
    let file ← IO.FS.Handle.mk path .append
    file.write ⟨chunk.toArray⟩
  flushFile path := onFile do (← IO.FS.Handle.mk path .append).flush
  removeFile path := onFile (IO.FS.removeFile path)
  certificateFault content := return Certificate.fault? content
  exchange _ request := exchange request
  write bytes := onPipe do (← IO.getStdout).write ⟨bytes.toArray⟩
  flush := onPipe do (← IO.getStdout).flush

/-- The messages in the lines read so far, if they cannot change any more: at a blank line, at the end of the input,
or when one of them cannot be read. -/
def complete? (lines : Bytes) (atEnd blank : Bool) : Option (List (Except Failure Message)) :=
  let items := Message.readAll .closed lines
  let isBad : Except Failure Message → Bool
    | .ok _ => false
    | .error _ => true
  if atEnd || blank || items.any isBad then some items else none

/-- Deals with items until one stops the run. -/
def dealWith (sources : Sources IO) : List (Except Failure Message) → SessionT IO Method.Flow
  | [] => return .proceed
  | item :: rest => do
    match ← Method.step environment sources item with
    | .proceed => dealWith sources rest
    | .stop code => return .stop code

/-- The next line with its line feed; a last line may lack it, and at the end of the input there is no byte. -/
partial def readLine (input : IO.FS.Stream) (before : Bytes) : IO Bytes := do
  match (← input.read 1).toList with
  | [] => return before.reverse
  | b :: _ => if b = 10 then return (b :: before).reverse else readLine input (b :: before)

/-- Serves the front end until the input ends or an item stops the run. -/
partial def serve (sources : Sources IO) (input : IO.FS.Stream) (lines : Bytes) : SessionT IO Nat := do
  let line ← readLine input []
  match complete? (lines ++ line) line.isEmpty (line.all fun b => b = 13 || b = 10) with
  | none => serve sources input (lines ++ line)
  | some items =>
    match ← dealWith sources items with
    | .stop code => return code
    | .proceed => if line.isEmpty then return Method.success else serve sources input []

def run (sources : Sources IO) : SessionT IO Nat := do
  Method.start environment sources
  let code ← serve sources (← IO.getStdin) []
  Session.close
  return code

def usage : String := "Usage: spacewalk [OPTIONS]\n\nFor more information, try '--help'."

/-- Serves the front end with a configuration that is still to be read. -/
def serveWith (options : CommandLine.Options) (configuration log : Option String) : IO Nat := do
  let lookUp (name : String) : Option String :=
    if name = Settings.Location.variableName then configuration else log
  match ← CommandLine.prepare Http.contentText environment options lookUp with
  | .error failure =>
    IO.eprintln s!"Cannot continue: {failure.message}"
    return Method.fatal
  | .ok (session, sources) =>
    let (result, _) ← (run sources).run.run session
    if let .error failure := result then IO.eprintln s!"Cannot continue: {failure.message}"
    return Method.exitCode result

def execute (arguments : List String) : IO Nat := do
  let configuration ← IO.getEnv Settings.Location.variableName
  let log ← IO.getEnv CommandLine.logVariable
  match CommandLine.parse arguments with
  | .help => CommandLine.print environment (CommandLine.helpText log)
  | .version => CommandLine.print environment CommandLine.versionText
  | .misuse =>
    IO.eprintln usage
    return CommandLine.usageError
  | .serve options => serveWith options configuration log

end SpacewalkAcquire.Program

def main (arguments : List String) : IO UInt32 := return UInt32.ofNat (← SpacewalkAcquire.Program.execute arguments)
