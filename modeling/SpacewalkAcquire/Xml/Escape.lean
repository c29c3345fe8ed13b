import SpacewalkAcquire.Text.Quoted

/-!
# Character references in XML

* `Xml.escape` : a text with its five markup characters written as named references;
* `Xml.unescape` : the text in which every reference stands for its character.

A reference runs from `&` to the next `;` with no `&` between. It is one of the five names, or `#` and a decimal
number, or `#x` and a hexadecimal number. Errors count bytes of the UTF-8 form.
-/

namespace SpacewalkAcquire.Xml

/-- Why a reference stands for no character. -/
inductive ReferenceError where
  /-- There is no semicolon; the bytes from the ampersand to the end of the text. -/
  | unterminated (first last : Nat)
  | unknown (first last : Nat) (name : String)
  | nullCharacter (first last : Nat)
  | badDecimal (c : Char)
  | badHexadecimal (c : Char)
  | longDecimal
  | longHexadecimal
  | noCharacter (n : Nat)
  deriving DecidableEq, Repr

/-- The wording of an error that concerns a range of bytes. -/
def ReferenceError.atRange (first last : Nat) (text : String) : String :=
  s!"Error while escaping character at range {first}..{last}: {text}"

def ReferenceError.message : ReferenceError → String
  | unterminated first last => atRange first last "Cannot find ';' after '&'"
  | unknown first last name => atRange first last s!"Unrecognized escape symbol: {Text.quote name}"
  | nullCharacter first last => atRange first last "Null character entity not allowed"
  | badDecimal c => s!"'{c}' is not a valid decimal character"
  | badHexadecimal c => s!"'{c}' is not a valid hexadecimal character"
  | longDecimal => "Cannot convert decimal to utf8"
  | longHexadecimal => "Cannot convert hexadecimal to utf8"
  | noCharacter n => s!"'{n}' is not a valid codepoint"

/-- The named reference of a markup character, without `&` and `;`. -/
def nameOf? (c : Char) : Option String :=
  match c with
  | '<' => some "lt"
  | '>' => some "gt"
  | '&' => some "amp"
  | '\x27' => some "apos"
  | '"' => some "quot"
  | _ => none

def escapeChar (c : Char) : List Char :=
  match nameOf? c with
  | some name => '&' :: (name.toList ++ [';'])
  | none => [c]

def escape (s : String) : String := String.ofList (s.toList.flatMap escapeChar)

def namedChar? (name : List Char) : Option Char :=
  ['<', '>', '&', '\x27', '"'].find? fun c => (nameOf? c).map String.toList = some name

def digitValue? (c : Char) : Option Nat :=
  if c.isDigit then some (c.toNat - 48)
  else if 'a' ≤ c && c ≤ 'f' then some (c.toNat - 87)
  else if 'A' ≤ c && c ≤ 'F' then some (c.toNat - 55)
  else none

/-- The first byte of the UTF-8 form, read as a character. -/
def firstByte (c : Char) : Char := ((String.utf8EncodeChar c).head?.map fun b => Char.ofNat b.toNat).getD c

/-- The number that digits of `base` spell, or the first character that is no digit. -/
def readNumber (base : Nat) (n : Nat) : List Char → Except Char Nat
  | [] => .ok n
  | c :: rest =>
    match (digitValue? c).filter (· < base) with
    | some d => readNumber base (base * n + d) rest
    | none => .error (firstByte c)

/-- The number of a numeric reference, read without its `#`. -/
def referenceNumber (digits : List Char) : Except ReferenceError Nat :=
  match digits with
  | 'x' :: digits =>
    if (String.ofList digits).utf8ByteSize > 6 then .error .longHexadecimal
    else (readNumber 16 0 digits).mapError .badHexadecimal
  | _ =>
    if (String.ofList digits).utf8ByteSize > 7 then .error .longDecimal
    else (readNumber 10 0 digits).mapError .badDecimal

/-- The character for which the reference between two byte positions stands. -/
def resolve (first last : Nat) (name : List Char) : Except ReferenceError Char :=
  match name with
  | '#' :: digits => do
    let n ← referenceNumber digits
    if n = 0 then throw (.nullCharacter first last)
    if h : n.isValidChar then return Char.ofNatAux n h else throw (.noCharacter n)
  | _ =>
    match namedChar? name with
    | some c => .ok c
    | none => .error (.unknown (first + 1) last (String.ofList name))

/-- Reads on at a byte position of a text of `size` bytes, within the reference begun last if there is one. The
characters of that reference are held backwards. -/
def unescapeFrom (size : Nat) : Nat → Option (Nat × List Char) → List Char → Except ReferenceError (List Char)
  | _, none, [] => .ok []
  | _, some (first, _), [] => .error (.unterminated first size)
  | position, none, c :: rest =>
    if c = '&' then unescapeFrom size (position + 1) (some (position, [])) rest
    else do return c :: (← unescapeFrom size (position + c.utf8Size) none rest)
  | position, some (first, name), c :: rest =>
    if c = ';' then do
      let x ← resolve first position name.reverse
      return x :: (← unescapeFrom size (position + 1) none rest)
    else if c = '&' then .error (.unterminated first size)
    else unescapeFrom size (position + c.utf8Size) (some (first, c :: name)) rest

def unescape (cs : List Char) : Except ReferenceError String :=
  (unescapeFrom (String.ofList cs).utf8ByteSize 0 none cs).map String.ofList

end SpacewalkAcquire.Xml
