/-!
# Decimal numerals

* `Text.readDigits?` : a non-empty run of ASCII digits as a number;
* `Text.readUnsigned? top`, `Text.readSigned? bound` : numerals with an optional sign, refused beyond a bound.
-/

namespace SpacewalkAcquire.Text

def digitValue (c : Char) : Nat := c.toNat - 48

/-- A non-empty run of ASCII digits, read in base ten. -/
def readDigits? (cs : List Char) : Option Nat :=
  if cs.isEmpty || !cs.all Char.isDigit then none
  else some (cs.foldl (fun n c => 10 * n + digitValue c) 0)

/-- Digits with an optional plus sign, at most `top`. -/
def readUnsigned? (top : Nat) (cs : List Char) : Option Nat :=
  let digits := match cs with
    | '+' :: rest => rest
    | _ => cs
  (readDigits? digits).filter (· ≤ top)

/-- Digits with an optional sign, at least `-bound` and less than `bound`. -/
def readSigned? (bound : Nat) (cs : List Char) : Option Int :=
  let value := match cs with
    | '-' :: rest => (readDigits? rest).map fun n => -(n : Int)
    | '+' :: rest => (readDigits? rest).map Int.ofNat
    | _ => (readDigits? cs).map Int.ofNat
  value.filter fun n => -(bound : Int) ≤ n && n < bound

def readCode? (cs : List Char) : Option UInt16 := (readUnsigned? 65535 cs).map UInt16.ofNat

def readInteger? (cs : List Char) : Option Int := readSigned? 9223372036854775808 cs

end SpacewalkAcquire.Text
