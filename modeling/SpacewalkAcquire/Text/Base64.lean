import SpacewalkAcquire.Text.Utf8

/-!
# Base64

* `Base64.encode` : bytes as digits of six bits, four for every three bytes, the last group filled up with `=`;
* `Base64.decode?` : the bytes that digits stand for.
-/

namespace SpacewalkAcquire.Base64

def digit (n : Nat) : Char :=
  if n < 26 then Char.ofNat (65 + n)
  else if n < 52 then Char.ofNat (71 + n)
  else if n < 62 then Char.ofNat (n - 4)
  else if n = 62 then '+' else '/'

def digits : Bytes → List Char
  | a :: b :: c :: rest =>
    let n := 65536 * a.toNat + 256 * b.toNat + c.toNat
    digit (n / 262144) :: digit (n / 4096 % 64) :: digit (n / 64 % 64) :: digit (n % 64) :: digits rest
  | [a, b] =>
    let n := 1024 * a.toNat + 4 * b.toNat
    [digit (n / 4096), digit (n / 64 % 64), digit (n % 64), '=']
  | [a] => [digit (a.toNat / 4), digit (16 * a.toNat % 64), '=', '=']
  | [] => []

def encode (bytes : Bytes) : String := String.ofList (digits bytes)

def value? (c : Char) : Option Nat :=
  if c.isUpper then some (c.toNat - 65)
  else if c.isLower then some (c.toNat - 71)
  else if c.isDigit then some (c.toNat + 4)
  else if c = '+' then some 62
  else if c = '/' then some 63
  else none

/-- The bytes of complete groups of digits. -/
def decode? : List Char → Option Bytes
  | [] => some []
  | [a, b, '=', '='] => do
    let x ← value? a
    let y ← value? b
    return [UInt8.ofNat (4 * x + y / 16)]
  | [a, b, c, '='] => do
    let x ← value? a
    let y ← value? b
    let z ← value? c
    return [UInt8.ofNat (4 * x + y / 16), UInt8.ofNat (16 * y + z / 4)]
  | a :: b :: c :: d :: rest => do
    let x ← value? a
    let y ← value? b
    let z ← value? c
    let w ← value? d
    let bytes ← decode? rest
    return UInt8.ofNat (4 * x + y / 16) :: UInt8.ofNat (16 * y + z / 4) :: UInt8.ofNat (64 * z + w) :: bytes
  | _ => none

end SpacewalkAcquire.Base64
