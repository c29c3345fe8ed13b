import SpacewalkAcquire.Text.Blank
import SpacewalkAcquire.Xml.Token
import SpacewalkAcquire.XmlRpc.Value

/-!
# XML-RPC responses

A response is read by an automaton over the tokens of a document.

* `Position` : where the automaton stands: what it awaits, what it holds, and the `Frame`s of the values around;
* `Position.step` : the position behind a token, or what is wrong with the token;
* `decode` : the value of a response, the fault in it, or the first thing wrong.

The automaton stops behind the value of the response, so what follows does not matter.
-/

namespace SpacewalkAcquire.XmlRpc

inductive Malformation where
  /-- Something else was awaited; nothing was found if the document ends there. -/
  | unexpected (awaited : String) (found : Option Xml.Token)
  | wrongElement (awaited found : String)
  /-- A response holds neither parameters nor a fault. -/
  | unknownElement (name : String)
  | unknownType (name : String)
  | badInteger (text : String)
  | badDouble (text : String)
  | faultNotStruct
  deriving DecidableEq, Repr

def describe : Option Xml.Token → String
  | some (.start name) => s!"<{name}>"
  | some (.empty name) => s!"<{name}/>"
  | some (.close name) => s!"</{name}>"
  | some (.text content) => s!"text '{content}'"
  | none => "end of document"

def Malformation.message : Malformation → String
  | unexpected awaited found => s!"expected {awaited}, found {describe found}"
  | wrongElement awaited found => s!"expected <{awaited}>, found <{found}>"
  | unknownElement name => s!"unexpected element <{name}>"
  | unknownType name => s!"unknown value type <{name}>"
  | badInteger text => s!"invalid integer '{text}'"
  | badDouble text => s!"invalid double '{text}'"
  | faultNotStruct => "fault is not a struct"

inductive ResponseError where
  | fault (code : Int) (message : String)
  | malformed (what : Malformation)
  | xml (e : Xml.XmlError)
  deriving DecidableEq, Repr

def ResponseError.message : ResponseError → String
  | fault code message => s!"server fault {code}: {message}"
  | malformed what => s!"malformed XML-RPC response: {what.message}"
  | xml e => s!"XML error: {e.message}"

/-- The types of values that are written as text. -/
inductive ScalarType where
  | string
  | integer
  | boolean
  | double
  deriving DecidableEq, Repr

def ScalarType.ofName? (name : String) : Option ScalarType :=
  if name = "string" || name = "dateTime.iso8601" || name = "base64" then some .string
  else if name = "int" || name = "i4" || name = "i8" then some .integer
  else if name = "boolean" then some .boolean
  else if name = "double" then some .double
  else none

def ScalarType.read (type : ScalarType) (text : String) : Except Malformation Value :=
  let trimmed := Text.trim text
  match type with
  | string => .ok (.string text)
  | integer => match Text.readInteger? trimmed.toList with
    | some n => .ok (.integer n trimmed)
    | none => .error (.badInteger trimmed)
  | boolean => .ok (.boolean (trimmed = "1"))
  | double => match Binary64.read? trimmed with
    | some bits => .ok (.double bits trimmed)
    | none => .error (.badDouble trimmed)

/-- A value around the one being read. -/
inductive Frame where
  /-- An array with the items before, the last first. -/
  | item (before : List Value)
  /-- A struct with the members before, and the name of the member. -/
  | member (before : Bindings String Value) (name : String)

/-- Where the automaton stands. The values around the one being read come last, the innermost first. -/
inductive Position where
  /-- Before `<methodResponse>`. -/
  | response
  /-- Before `<params>` or `<fault>`. -/
  | body
  /-- Before `<param>`. -/
  | param
  /-- Before the `<value>` of the response or its fault. -/
  | outermost
  /-- Behind `<value>`. -/
  | value (around : List Frame)
  /-- Before `</value>`. -/
  | valueEnd (v : Value) (around : List Frame)
  /-- In the text of a scalar. -/
  | scalar (type : ScalarType) (tag text : String) (around : List Frame)
  /-- Before `</nil>`. -/
  | nilEnd (around : List Frame)
  /-- Before `<member>` or `</struct>`. -/
  | members (before : Bindings String Value) (around : List Frame)
  /-- Before `<name>`. -/
  | memberName (before : Bindings String Value) (around : List Frame)
  /-- In the text of a name. -/
  | nameText (before : Bindings String Value) (text : String) (around : List Frame)
  /-- Before the `<value>` of a member. -/
  | memberValue (before : Bindings String Value) (name : String) (around : List Frame)
  /-- Before `</member>`. -/
  | memberEnd (before : Bindings String Value) (name : String) (v : Value) (around : List Frame)
  /-- Before `<data>`. -/
  | arrayStart (around : List Frame)
  /-- Before `<value>` or `</data>`. -/
  | items (before : List Value) (around : List Frame)
  /-- Before `</array>`. -/
  | arrayEnd (content : List Value) (around : List Frame)

/-- The position behind a value that is complete. -/
inductive Progress where
  | at (p : Position)
  | done (v : Value)

namespace Position

def awaited : Position → String
  | response | body | param | outermost | memberName .. | memberValue .. => "an opening tag"
  | value _ => "a value"
  | valueEnd .. => "</value>"
  | scalar _ tag _ _ => s!"text inside <{tag}>"
  | nilEnd _ => "</nil>"
  | members .. => "<member> or </struct>"
  | nameText .. => "text inside <name>"
  | memberEnd .. => "</member>"
  | arrayStart _ => "<data>"
  | items .. => "<value> or </data>"
  | arrayEnd .. => "</array>"

/-- The position behind a value, its end tag included. -/
def behind (v : Value) : List Frame → Progress
  | [] => .done v
  | .item before :: around => .at (.items (v :: before) around)
  | .member before name :: around => .at (.memberEnd before name v around)

def element (name wanted : String) (p : Position) : Except Malformation Progress :=
  if name = wanted then .ok (.at p) else .error (.wrongElement wanted name)

def typed (name : String) (around : List Frame) : Except Malformation Position :=
  match ScalarType.ofName? name with
  | some type => .ok (.scalar type name "" around)
  | none =>
    if name = "nil" then .ok (.nilEnd around)
    else if name = "struct" then .ok (.members [] around)
    else if name = "array" then .ok (.arrayStart around)
    else .error (.unknownType name)

def ofEmpty (name : String) : Value :=
  if name = "nil" then .null
  else if name = "struct" then .struct []
  else if name = "array" then .array []
  else .string ""

def step (p : Position) (t : Xml.Token) : Except Malformation Progress :=
  match p, t with
  | response, .start name => element name "methodResponse" body
  | body, .start name =>
    if name = "params" then .ok (.at param)
    else if name = "fault" then .ok (.at outermost)
    else .error (.unknownElement name)
  | param, .start name => element name "param" outermost
  | outermost, .start name => element name "value" (value [])
  | value around, .text content => .ok (.at (valueEnd (.string content) around))
  | value around, .close name =>
    if name = "value" then .ok (behind (.string "") around) else .error (.unexpected p.awaited t)
  | value around, .empty name => .ok (.at (valueEnd (ofEmpty name) around))
  | value around, .start name => (typed name around).map .at
  | valueEnd v around, .close name =>
    if name = "value" then .ok (behind v around) else .error (.unexpected p.awaited t)
  | scalar type tag text around, .text content => .ok (.at (scalar type tag (text ++ content) around))
  | scalar type tag text around, .close name =>
    if name = tag then (type.read text).map fun v => .at (valueEnd v around)
    else .error (.unexpected p.awaited t)
  | nilEnd around, .close name =>
    if name = "nil" then .ok (.at (valueEnd .null around)) else .error (.unexpected p.awaited t)
  | members before around, .start name =>
    if name = "member" then .ok (.at (memberName before around)) else .error (.unexpected p.awaited t)
  | members before around, .close name =>
    if name = "struct" then .ok (.at (valueEnd (.struct before) around)) else .error (.unexpected p.awaited t)
  | memberName before around, .start name => element name "name" (nameText before "" around)
  | nameText before text around, .text content => .ok (.at (nameText before (text ++ content) around))
  | nameText before text around, .close name =>
    if name = "name" then .ok (.at (memberValue before text around)) else .error (.unexpected p.awaited t)
  | memberValue before key around, .start name => element name "value" (value (.member before key :: around))
  | memberEnd before key v around, .close name =>
    if name = "member" then .ok (.at (members (before.insert key v) around))
    else .error (.unexpected p.awaited t)
  | arrayStart around, .empty name =>
    if name = "data" then .ok (.at (arrayEnd [] around)) else .error (.unexpected p.awaited t)
  | arrayStart around, .start name =>
    if name = "data" then .ok (.at (items [] around)) else .error (.unexpected p.awaited t)
  | items before around, .start name =>
    if name = "value" then .ok (.at (value (.item before :: around))) else .error (.unexpected p.awaited t)
  | items before around, .close name =>
    if name = "data" then .ok (.at (arrayEnd before.reverse around)) else .error (.unexpected p.awaited t)
  | arrayEnd content around, .close name =>
    if name = "array" then .ok (.at (valueEnd (.array content) around)) else .error (.unexpected p.awaited t)
  | _, _ => .error (.unexpected p.awaited t)

/-- Runs the automaton from `p` to the end of the outermost value. -/
def run (p : Position) (ending : Xml.Ending) : List Xml.Token → Except ResponseError Value
  | [] => match ending with
    | .finished => .error (.malformed (.unexpected p.awaited none))
    | .failed e => .error (.xml e)
  | t :: rest => match p.step t with
    | .error what => .error (.malformed what)
    | .ok (.done v) => .ok v
    | .ok (.at p) => run p ending rest

end Position

def faultOf (v : Value) : ResponseError :=
  match v.members? with
  | none => .malformed .faultNotStruct
  | some members =>
    .fault ((members.get? "faultCode").bind Value.integer? |>.getD 0)
      ((members.get? "faultString").bind Value.scalarText? |>.getD "")

/-- The second start tag of a document is `<fault>`. -/
def holdsFault (tokens : List Xml.Token) : Bool := tokens[1]? = some (.start "fault")

def decode (document : String) : Except ResponseError Value :=
  let d := Xml.tokens document
  match Position.run .response d.ending d.tokens with
  | .error e => .error e
  | .ok v => if holdsFault d.tokens then .error (faultOf v) else .ok v

end SpacewalkAcquire.XmlRpc
