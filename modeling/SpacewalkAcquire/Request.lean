import SpacewalkAcquire.Message
import SpacewalkAcquire.Url.Read

/-!
# Acquire requests

A `Request` is what an acquire message asks for: a URI, the file to store it in, and three hints. `Request.ofMessage`
reads one; `URI` and `Filename` are required.
-/

namespace SpacewalkAcquire

structure Request where
  uri : Url
  filename : String
  /-- The modification time of the copy that the front end has. -/
  lastModified : Option String
  indexFile : Bool
  /-- The front end can do without the file. -/
  failIgnore : Bool
  deriving DecidableEq, Repr

namespace Request

def affirmations : List (List Char) := ["true".toList, "yes".toList, "1".toList]

/-- The field `name`, if it is set and not empty. -/
def nonEmpty? (m : Message) (name : String) : Option String := (m.field? name).filter fun v => !v.isEmpty

def required (m : Message) (name : String) : Except Failure String :=
  match nonEmpty? m name with
  | some value => .ok value
  | none => .error (.missingField name)

def affirms (m : Message) (name : String) : Bool :=
  (m.field? name).any fun v => affirmations.contains (Text.asciiLower v.toList)

def ofMessage (m : Message) : Except Failure Request := do
  if m.kind? ≠ some .uriAcquire then
    throw (.malformed s!"expected an acquire message, got {m.code.toNat}")
  let raw ← required m "URI"
  let uri ← match Url.read raw with
    | .ok uri => pure uri
    | .error e => throw (.malformed s!"invalid URI '{raw}': {e.message}")
  let filename ← required m "Filename"
  return {
    uri := uri
    filename := filename
    lastModified := nonEmpty? m "Last-Modified"
    indexFile := affirms m "Index-File"
    failIgnore := affirms m "Fail-Ignore" }

end Request

end SpacewalkAcquire
