import SpacewalkAcquire.Text.Utf8

/-!
# Percent encoding

A component of a URL writes a character of its encode set, and every character beyond ASCII, as the bytes of its UTF-8
form, each a percent sign and two hexadecimal digits.

* `Percent.controls`, `query`, `specialQuery`, `fragment`, `path`, `userinfo` : the encode sets;
* `Percent.encode` : text into a component;
* `Percent.decode` : the bytes of a component; a percent sign without two digits behind it stands for itself.
-/

namespace SpacewalkAcquire.Percent

def controls (c : Char) : Bool := c.toNat < 0x20 || c.toNat == 0x7F

def fragment (c : Char) : Bool := controls c || [' ', '"', '<', '>', '\x60'].contains c

def query (c : Char) : Bool := controls c || [' ', '"', '#', '<', '>'].contains c

def specialQuery (c : Char) : Bool := query c || c == '\x27'

def path (c : Char) : Bool := fragment c || ['#', '?', '\x7b', '\x7d'].contains c

def userinfo (c : Char) : Bool := path c || ['/', ':', ';', '=', '@', '[', '\\', ']', '^', '|'].contains c

def hexDigit (n : Nat) : Char := if n < 10 then Char.ofNat (48 + n) else Char.ofNat (55 + n)

/-- A `%` and the two digits of a byte. -/
def encodeByte (b : UInt8) : List Char := ['%', hexDigit (b.toNat / 16), hexDigit (b.toNat % 16)]

def encodeChar (set : Char → Bool) (c : Char) : List Char :=
  if c.toNat < 0x80 && !set c then [c] else (String.utf8EncodeChar c).flatMap encodeByte

def encode (set : Char → Bool) (cs : List Char) : List Char := cs.flatMap (encodeChar set)

def hexValue? (n : Nat) : Option Nat :=
  if 48 ≤ n ∧ n ≤ 57 then some (n - 48)
  else if 65 ≤ n ∧ n ≤ 70 then some (n - 55)
  else if 97 ≤ n ∧ n ≤ 102 then some (n - 87)
  else none

def decode : Bytes → Bytes
  | 0x25 :: x :: y :: rest =>
    match hexValue? x.toNat, hexValue? y.toNat with
    | some hi, some lo => UInt8.ofNat (16 * hi + lo) :: decode rest
    | _, _ => 0x25 :: decode (x :: y :: rest)
  | b :: rest => b :: decode rest
  | [] => []

end SpacewalkAcquire.Percent
