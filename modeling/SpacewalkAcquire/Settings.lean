import SpacewalkAcquire.Failure
import SpacewalkAcquire.OrderedMap
import SpacewalkAcquire.Text.Blank
import SpacewalkAcquire.Text.Numeral
import SpacewalkAcquire.Text.Split

/-!
# up2date settings

A settings file has one `key=value` pair on a line. Blank lines, lines that start with `#`, and description lines,
whose key holds a `[`, are skipped. A value is a list if it holds a semicolon, else an integer if it reads as one,
else a text.

* `Settings.Line.read` : what one line says;
* `Settings.read` : the settings of a whole text, or the first line that says nothing usable;
* `Settings.text?`, `integer?`, `list`, `flag` : a setting as the kind of value that its user needs.
-/

namespace SpacewalkAcquire

/-- The value of a setting. -/
inductive Setting where
  | text (s : String)
  | integer (n : Int)
  | list (items : List String)
  deriving DecidableEq, Repr

/-- Settings by key, in the order of the file. -/
abbrev Settings := OrderedMap String Setting

namespace Setting

/-- Reads the part of a line after the `=`. -/
def read (raw : List Char) : Setting :=
  let value := Text.trimWith Text.isBlank raw
  if ';' ∈ value then
    .list (((Text.splitOn ';' value).map (Text.trimWith Text.isBlank)).filter (· ≠ []) |>.map String.ofList)
  else match Text.readInteger? value with
    | some n => .integer n
    | none => .text (String.ofList value)

end Setting

namespace Settings

inductive LineError where
  | noSeparator (line : String)
  | emptyKey
  deriving DecidableEq, Repr

def LineError.message : LineError → String
  | noSeparator line => s!"expected 'key=value', found '{line}'"
  | emptyKey => "empty key"

inductive Line where
  | skipped
  | bad (error : LineError)
  | binding (key : String) (value : Setting)
  deriving DecidableEq, Repr

def Line.read (raw : List Char) : Line :=
  let line := Text.trimWith Text.isBlank raw
  if line.isEmpty || line.head? = some '#' then .skipped
  else match Text.cutAt '=' line with
    | none => .bad (.noSeparator (String.ofList line))
    | some (before, value) =>
      let key := Text.trimWith Text.isBlank before
      if '[' ∈ key then .skipped
      else if key.isEmpty then .bad .emptyKey
      else .binding (String.ofList key) (Setting.read value)

/-- Binds what the lines say, counting them from `number`; the first bad line ends the reading. -/
def readLines (number : Nat) (settings : Settings) : List (List Char) → Except Failure Settings
  | [] => .ok settings
  | line :: rest =>
    match Line.read line with
    | .skipped => readLines (number + 1) settings rest
    | .bad error => .error (.configuration s!"line {number}" error.message)
    | .binding key value => readLines (number + 1) (settings.insert key value) rest

def read (content : String) : Except Failure Settings :=
  readLines 1 .empty (Text.lines content.toList)

/-- The setting of `key` as a text that is not empty. -/
def text? (settings : Settings) (key : String) : Option String :=
  match settings.get? key with
  | some (.text s) => if s.isEmpty then none else some s
  | _ => none

def integer? (settings : Settings) (key : String) : Option Int :=
  match settings.get? key with
  | some (.integer n) => some n
  | _ => none

/-- The setting of `key` as a list; a single value is a list of one. -/
def list (settings : Settings) (key : String) : List String :=
  match settings.get? key with
  | some (.list items) => items
  | some (.text s) => if s.isEmpty then [] else [s]
  | some (.integer n) => [toString n]
  | none => []

def switchedOn : List (List Char) := ["true".toList, "yes".toList, "on".toList]

/-- The setting of `key` as a flag: an integer other than zero, or a text in `switchedOn`. -/
def flag (settings : Settings) (key : String) : Bool :=
  match settings.get? key with
  | some (.integer n) => n ≠ 0
  | some (.text s) => Text.asciiLower s.toList ∈ switchedOn
  | _ => false

end Settings

end SpacewalkAcquire
