import SpacewalkAcquire.Text.Numeral

/-!
# Decimal numerals as binary64 numbers

A binary64 number is held as its 64 bits.

* `Binary64.ofRatio num den` : the nearest number, of two equally near the one with the even last bit;
* `Binary64.read?` : a numeral with an optional sign, fraction and exponent, or `inf`, `infinity` or `nan`.
-/

namespace SpacewalkAcquire.Binary64

def infinity : UInt64 := 0x7FF0000000000000

def nan : UInt64 := 0x7FF8000000000000

def signBit : UInt64 := 0x8000000000000000

/-- The quotient of `num` and `den` rounded to the nearest integer, a half to the even one. -/
def roundQuotient (num den : Nat) : Nat :=
  let q := num / den
  let r := num % den
  if 2 * r < den then q else if 2 * r > den then q + 1 else q + q % 2

/-- The exponent of the last bit of the number nearest to a ratio of positive numbers: 53 bits from the first one,
but no less than the exponent of the least number. -/
def lastBit (num den : Nat) : Int :=
  let e : Int := (num.log2 : Int) - (den.log2 : Int)
  let reaches : Bool :=
    if e ≥ 0 then decide (num ≥ den * Nat.pow 2 e.toNat) else decide (num * Nat.pow 2 (-e).toNat ≥ den)
  max (-1074) (e - if reaches then 52 else 53)

/-- The number nearest to `num / den`. Its bits are the rounded significand above the least exponent, so a carry out of
the significand raises the exponent by itself. -/
def ofRatio (num den : Nat) : UInt64 :=
  if num = 0 then 0
  else
    let k := lastBit num den
    let q :=
      if k ≥ 0 then roundQuotient num (den * Nat.pow 2 k.toNat)
      else roundQuotient (num * Nat.pow 2 (-k).toNat) den
    let bits := (k + 1074).toNat * 4503599627370496 + q
    if bits ≥ infinity.toNat then infinity else UInt64.ofNat bits

/-- The number nearest to `digits * 10 ^ exponent`. Beyond the range of all numbers nothing is computed. -/
def ofDecimal (digits : Nat) (exponent : Int) : UInt64 :=
  if digits = 0 then 0
  else
    let magnitude : Int := (Nat.toDigits 10 digits).length + exponent
    if magnitude > 310 then infinity
    else if magnitude < -330 then 0
    else if exponent ≥ 0 then ofRatio (digits * Nat.pow 10 exponent.toNat) 1
    else ofRatio digits (Nat.pow 10 (-exponent).toNat)

def digitsValue (cs : List Char) : Nat := (Text.readDigits? cs).getD 0

/-- The exponent at the end of a numeral, zero if there is none. -/
def readExponent? (cs : List Char) : Option Int :=
  match cs with
  | [] => some 0
  | e :: rest =>
    if e ≠ 'e' && e ≠ 'E' then none
    else match rest with
      | '-' :: digits => (Text.readDigits? digits).map fun n => -(n : Int)
      | '+' :: digits => (Text.readDigits? digits).map Int.ofNat
      | digits => (Text.readDigits? digits).map Int.ofNat

/-- A numeral without sign: digits with at most one point among or around them, and an optional exponent. -/
def readNumber? (cs : List Char) : Option UInt64 := do
  let whole := cs.takeWhile Char.isDigit
  let behind := cs.dropWhile Char.isDigit
  let (fraction, tail) := match behind with
    | '.' :: rest => (rest.takeWhile Char.isDigit, rest.dropWhile Char.isDigit)
    | _ => ([], behind)
  if whole.isEmpty && fraction.isEmpty then none
  else
    let exponent ← readExponent? tail
    return ofDecimal (digitsValue (whole ++ fraction)) (exponent - fraction.length)

def readMagnitude? (cs : List Char) : Option UInt64 :=
  let small := cs.map Char.toLower
  if small = "inf".toList || small = "infinity".toList then some infinity
  else if small = "nan".toList then some nan
  else readNumber? cs

def read? (s : String) : Option UInt64 :=
  match s.toList with
  | '-' :: rest => (readMagnitude? rest).map (· ||| signBit)
  | '+' :: rest => readMagnitude? rest
  | cs => readMagnitude? cs

end SpacewalkAcquire.Binary64
