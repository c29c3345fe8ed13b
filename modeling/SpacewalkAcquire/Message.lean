import SpacewalkAcquire.Failure
import SpacewalkAcquire.OrderedMap

/-!
# Messages of the acquire protocol

A `Message` is a code, a text and named fields. `Message.Kind` lists the six codes that this method sends or
understands; `capabilities`, `status`, `uriStart`, `uriDone` and `uriFailure` build what it sends.
-/

namespace SpacewalkAcquire

/-- One message between the front end and the method. -/
structure Message where
  code : UInt16
  text : String
  /-- Field values by name, in the order in which the names were first set. -/
  fields : OrderedMap String String
  deriving DecidableEq

namespace Message

/-- The codes that the method sends or understands. -/
inductive Kind where
  | capabilities
  | status
  | uriStart
  | uriDone
  | uriFailure
  | uriAcquire
  deriving DecidableEq, Repr

namespace Kind

def all : List Kind := [capabilities, status, uriStart, uriDone, uriFailure, uriAcquire]

def code : Kind → UInt16
  | capabilities => 100
  | status => 102
  | uriStart => 200
  | uriDone => 201
  | uriFailure => 400
  | uriAcquire => 600

/-- The text that follows the code. -/
def tag : Kind → String
  | capabilities => "Capabilities"
  | status => "Status"
  | uriStart => "URI Start"
  | uriDone => "URI Done"
  | uriFailure => "URI Failure"
  | uriAcquire => "URI Acquire"

def ofCode? (code : UInt16) : Option Kind := all.find? fun k => k.code == code

theorem ofCode?_code (k : Kind) : ofCode? k.code = some k := by cases k <;> decide

end Kind

def plain (code : UInt16) (text : String) : Message := ⟨code, text, .empty⟩

def ofKind (kind : Kind) : Message := plain kind.code kind.tag

def kind? (m : Message) : Option Kind := Kind.ofCode? m.code

def field? (m : Message) (name : String) : Option String := m.fields.get? name

/-- Sets a field; a repeated `name` keeps its place and takes the new value. -/
def set (m : Message) (name value : String) : Message := { m with fields := m.fields.insert name value }

def setIfSome (m : Message) (name : String) : Option String → Message
  | some value => m.set name value
  | none => m

/-- Announces the protocol version; the first message of a run. -/
def capabilities : Message :=
  (ofKind .capabilities).set "Version" "1.0" |>.set "Single-Instance" "true"

def status (uri note : String) : Message :=
  (ofKind .status).set "URI" uri |>.set "Message" note

def uriStart (uri : String) (size : Option Nat) (lastModified : Option String) : Message :=
  (ofKind .uriStart).set "URI" uri
    |>.setIfSome "Size" (size.map toString)
    |>.setIfSome "Last-Modified" lastModified

/-- What is known of a file that was fetched completely. -/
structure Outcome where
  size : Nat
  lastModified : Option String
  md5 : String
  sha256 : String
  deriving DecidableEq, Repr

def uriDone (uri filename : String) (outcome : Outcome) : Message :=
  (ofKind .uriDone).set "URI" uri
    |>.set "Filename" filename
    |>.set "Size" (toString outcome.size)
    |>.setIfSome "Last-Modified" outcome.lastModified
    |>.set "MD5-Hash" outcome.md5
    |>.set "MD5Sum-Hash" outcome.md5
    |>.set "SHA256-Hash" outcome.sha256

def uriFailure (uri : Option String) (failure : Failure) : Message :=
  (ofKind .uriFailure).setIfSome "URI" uri
    |>.set "Message" failure.report
    |>.setIfSome "FailReason" failure.reasonCode?

end Message

end SpacewalkAcquire
