import SpacewalkAcquire.Http.Status
import SpacewalkAcquire.OrderedMap
import SpacewalkAcquire.Text.Base64
import SpacewalkAcquire.Text.Blank
import SpacewalkAcquire.Text.Split
import SpacewalkAcquire.Url.Read

/-!
# HTTP requests and replies

* `Http.Request` : what is sent; `Request.ofUrl` turns credentials in a URL into an authorization header;
* `Http.Reply` : status, headers and the bytes that came behind them;
* `Reply.body` : the content, cut as the framing says, and whether it is complete;
* `Http.Answer` : what becomes of one request: no connection, a broken one, or a reply.
-/

namespace SpacewalkAcquire.Http

inductive Verb where
  | get
  | post
  deriving DecidableEq, Repr

def Verb.text : Verb → String
  | get => "GET"
  | post => "POST"

structure Request where
  verb : Verb
  url : Url
  /-- Values by name; names are in small letters. -/
  headers : OrderedMap String String
  body : Bytes
  deriving DecidableEq

namespace Request

def userAgent : String := "apt-transport-spacewalk/0.1.0"

/-- The text behind percent encoding, if its bytes are the form of one. -/
def decoded? (part : String) : Option String := Text.ofUtf8? (Percent.decode (Text.toUtf8 part))

/-- The authorization header for the credentials in a URL. -/
def authorization? (url : Url) : Option String := do
  let authority ← url.authority
  let username ← decoded? authority.username
  let password := authority.password.bind decoded?
  if username.isEmpty && password.isNone then none
  else some ("Basic " ++ Base64.encode (Text.toUtf8 (username ++ ":" ++ password.getD "")))

/-- A request without further headers. Credentials in the URL become a header. -/
def ofUrl (verb : Verb) (url : Url) : Request :=
  let headers := OrderedMap.empty.insert "user-agent" userAgent
  match authorization? url with
  | some value => ⟨verb, url.withoutUserinfo, headers.insert "authorization" value, []⟩
  | none => ⟨verb, url, headers, []⟩

/-- The request with one more header, or another value for it. -/
def withHeader (r : Request) (name value : String) : Request := { r with headers := r.headers.insert name value }

def withHeaders (r : Request) (headers : OrderedMap String String) : Request :=
  headers.entries.foldl (fun r p => r.withHeader p.1 p.2) r

end Request

/-- How the end of the content shows. -/
inductive Framing where
  | sized (length : Nat)
  | untilClose
  /-- The content comes in chunks; the last chunk arrived or did not. -/
  | chunked (terminated : Bool)
  deriving DecidableEq, Repr

structure Reply where
  status : UInt16
  headers : List (String × Bytes)
  framing : Framing
  /-- The bytes behind the headers, as they came. -/
  received : List Bytes
  deriving DecidableEq, Repr

/-- Content as it arrives, and whether all of it does. -/
structure Body where
  chunks : List Bytes
  complete : Bool
  deriving DecidableEq, Repr

def bodyFault : String := "request or response body error"

/-- The first bytes of some chunks, and how many are missing. -/
def takeBytes : Nat → List Bytes → List Bytes × Nat
  | n, [] => ([], n)
  | n, chunk :: rest =>
    if n = 0 then ([], 0)
    else
      let (taken, missing) := takeBytes (n - chunk.length) rest
      (chunk.take n :: taken, missing)

namespace Reply

/-- The statuses whose replies have no content, whatever their headers say. -/
def isBare (status : UInt16) : Bool := status < 200 || status == 204 || status == 304

def body (r : Reply) : Body :=
  if isBare r.status then ⟨[], true⟩
  else match r.framing with
    | .sized n =>
      let (chunks, missing) := takeBytes n r.received
      ⟨chunks, missing = 0⟩
    | .untilClose => ⟨r.received, true⟩
    | .chunked terminated => ⟨r.received, terminated⟩

def length? (r : Reply) : Option Nat :=
  match r.framing with
  | .sized n => some n
  | _ => none

def isPadding (b : UInt8) : Bool := b == 32 || b == 9

/-- The value of the first header of `name`, which is given in small letters. -/
def header? (r : Reply) (name : String) : Option Bytes :=
  (r.headers.find? fun p => Text.asciiLower p.1.toList = name.toList).map fun p =>
    ((p.2.dropWhile isPadding).reverse.dropWhile isPadding).reverse

def isPrintable (b : UInt8) : Bool := b == 9 || (32 ≤ b && b < 127)

/-- The value of a header as text, if it is printable ASCII. -/
def textHeader? (r : Reply) (name : String) : Option String := do
  let value ← r.header? name
  if value.all isPrintable then Text.ofUtf8? value else none

end Reply

/-- Content as text, given the value of its `content-type`. -/
abbrev Decoder := Option String → Bytes → String

/-- What becomes of one request. -/
inductive Answer where
  /-- The request did not reach a server. -/
  | unreachable (why : String)
  /-- The server gave no reply. -/
  | broken (why : String)
  | reply (r : Reply)
  deriving DecidableEq, Repr

end SpacewalkAcquire.Http
