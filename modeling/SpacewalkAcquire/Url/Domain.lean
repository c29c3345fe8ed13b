import SpacewalkAcquire.Text.Direction
import SpacewalkAcquire.Text.Joining
import SpacewalkAcquire.Text.Utf8
import SpacewalkAcquire.Url.Domain.Mapping
import SpacewalkAcquire.Url.Domain.Punycode

/-!
# Domain names

`Domain.toAscii?` is the ASCII form of a domain name, as UTS 46 gives it for URLs: the name is mapped and composed, its
labels between dots are checked, and labels beyond ASCII are written in Punycode behind `xn--`.

* `Domain.decodeLabel?`, `Domain.encodeLabel?` : a label as it reads, and its ASCII form;
* `Domain.isValid` : the rules for the characters of a label beyond ASCII.
-/

namespace SpacewalkAcquire.Domain

/-- The ASCII characters that no domain in a URL may hold. -/
def isForbidden (c : Char) : Bool :=
  c.toNat ≤ 0x20 || c.toNat == 0x7F ||
    ['%', '#', '/', ':', '<', '>', '?', '@', '[', '\\', ']', '^', '|'].contains c

def codedStart : List Char := ['x', 'n', '-', '-']

/-- The text mapped and composed. For ASCII this makes capitals small. -/
def normal? (cs : List Char) : Option (List Char) :=
  if cs.all Punycode.isAscii then some (Text.asciiLower cs) else (mapping? cs).map Text.composed

/-- The label starts with no mark, and its joiners stand where they may. ASCII is not looked at. -/
def isValid (label : List Char) : Bool :=
  label.all Punycode.isAscii || (!label.head?.any Text.isMark && Text.joinersFit [] label)

/-- The most characters of a label beyond ASCII. -/
def longestLabel : Nat := 1000

def longestCode : Nat := 2000

/-- The label as it reads. One in Punycode must not be too long, hold something beyond ASCII, and be as mapping would
leave it. -/
def decodeLabel? (label : List Char) : Option (List Char) :=
  match Text.stripStart? codedStart label with
  | none => if isValid label then some label else none
  | some coded =>
    match if coded.length ≤ longestCode then Punycode.decode? coded else none with
    | none => none
    | some decoded =>
      if !decoded.all Punycode.isAscii && normal? decoded = some decoded && isValid decoded then some decoded else none

/-- The ASCII form of a label. A label in ASCII may have any length. -/
def encodeLabel? (label : List Char) : Option (List Char) :=
  if label.all Punycode.isAscii then some label
  else if label.length ≤ longestLabel then some (codedStart ++ Punycode.encode label)
  else none

/-- Where one label has a character from right to left, every label `readsOneWay`. -/
def directionsFit (labels : List (List Char)) : Bool := !labels.any Text.hasRight || labels.all Text.readsOneWay

def toAscii? (bytes : Bytes) : Option String := do
  let name ← Text.ofUtf8? bytes
  let normal ← normal? name.toList
  if normal.any isForbidden then none
  else
    let labels ← (Text.splitOn '.' normal).mapM decodeLabel?
    if directionsFit labels then
      (labels.mapM encodeLabel?).map fun coded => String.ofList (List.intercalate ['.'] coded)
    else none

end SpacewalkAcquire.Domain
