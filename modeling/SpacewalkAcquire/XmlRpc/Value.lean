import SpacewalkAcquire.OrderedMap
import SpacewalkAcquire.Text.Binary64

/-!
# XML-RPC values

A `Value` is a scalar, a struct or an array. Numbers keep the text in which they came, since credentials are signed
over that text; `Value.scalarText?` gives it back.
-/

namespace SpacewalkAcquire.XmlRpc

inductive Value where
  | string (s : String)
  | integer (n : Int) (text : String)
  | boolean (b : Bool)
  /-- A binary64 number by its bits. -/
  | double (bits : UInt64) (text : String)
  | struct (members : List (String × Value))
  | array (items : List Value)
  | null
  deriving Repr

namespace Value

instance : Inhabited Value := ⟨null⟩

def string? : Value → Option String
  | string s => some s
  | _ => none

def integer? : Value → Option Int
  | integer n _ => some n
  | _ => none

/-- The members of a struct, in the order in which their names first came. -/
def members? : Value → Option (Bindings String Value)
  | struct members => some members
  | _ => none

def items? : Value → Option (List Value)
  | array items => some items
  | _ => none

/-- The text of a scalar, of a number as it came. -/
def scalarText? : Value → Option String
  | string s => some s
  | integer _ text => some text
  | boolean b => some (if b then "1" else "0")
  | double _ text => some text
  | struct _ | array _ | null => none

end Value

end SpacewalkAcquire.XmlRpc
