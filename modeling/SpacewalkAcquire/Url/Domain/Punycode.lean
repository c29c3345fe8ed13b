import SpacewalkAcquire.Text.Split

/-!
# Punycode

The ASCII form of a label is that of RFC 3492: its ASCII characters, a hyphen, and then numbers that tell where to
insert which other character, in the order of the characters. Each number counts the states passed since the last
insertion, a state being a character and a place, and is written in digits whose weights adapt to the numbers before.

* `Punycode.encode` : the ASCII form of a label;
* `Punycode.decode?` : the label of an ASCII form.
-/

namespace SpacewalkAcquire.Punycode

def base : Nat := 36

def firstBias : Nat := 72

def firstInserted : Nat := 128

/-- The digit from which on the digit at a place is not the last one of its number; `place` grows by `base`. -/
def threshold (bias place : Nat) : Nat := min 26 (max 1 (place - bias))

theorem threshold_pos (bias place : Nat) : 0 < threshold bias place := by
  unfold threshold
  omega

/-- How often a number has to be divided until it is small, times `base`, and what remains. -/
def scale (steps n : Nat) : Nat × Nat := if n ≤ 455 then (steps, n) else scale (steps + base) (n / 35)
termination_by n
decreasing_by omega

/-- The bias after a number, which `count` characters came with. -/
def adapt (number count : Nat) (isFirst : Bool) : Nat :=
  let n := if isFirst then number / 700 else number / 2
  let (steps, rest) := scale 0 (n + n / count)
  steps + base * rest / (rest + 38)

def digit (n : Nat) : Char := if n < 26 then Char.ofNat (97 + n) else Char.ofNat (22 + n)

def digitValue? (c : Char) : Option Nat :=
  if c.isDigit then some (c.toNat - 22)
  else if c.isLower then some (c.toNat - 97)
  else if c.isUpper then some (c.toNat - 65)
  else none

def digits (bias place number : Nat) : List Char :=
  let t := threshold bias place
  if _h : number < t then [digit number]
  else digit (t + (number - t) % (base - t)) :: digits bias (place + base) ((number - t) / (base - t))
termination_by number
decreasing_by
  have ht := threshold_pos bias place
  have hd := Nat.div_le_self (number - threshold bias place) (base - threshold bias place)
  omega

/-- What has been written of the insertions. -/
structure Writing where
  written : List Char
  /-- The states passed since the last insertion. -/
  passed : Nat
  bias : Nat
  count : Nat

/-- Writes the insertions of the character `n`, given all characters of the label and how many are ASCII. -/
def insertions (label : List Char) (ascii : Nat) (n : Nat) (w : Writing) : Writing :=
  label.foldl (fun w c =>
    if c.toNat < n then { w with passed := w.passed + 1 }
    else if c.toNat = n then
      { written := (digits w.bias base w.passed).reverse ++ w.written
        passed := 0
        bias := adapt w.passed (w.count + 1) (w.count = ascii)
        count := w.count + 1 }
    else w) w

def encodeFrom (label : List Char) (ascii : Nat) (least : Nat) (w : Writing) : List Nat → List Char
  | [] => w.written.reverse
  | n :: rest =>
    let w := insertions label ascii n { w with passed := w.passed + (n - least) * (w.count + 1) }
    encodeFrom label ascii (n + 1) { w with passed := w.passed + 1 } rest

def isAscii (c : Char) : Bool := c.toNat < firstInserted

def encode (label : List Char) : List Char :=
  let ascii := label.filter isAscii
  let others := ((label.filter fun c => !isAscii c).map Char.toNat).eraseDups.mergeSort
  (if ascii.isEmpty then [] else ascii ++ ['-']) ++
    encodeFrom label ascii.length firstInserted ⟨[], 0, firstBias, ascii.length⟩ others

def readNumber? (bias place weight number : Nat) : List Char → Option (Nat × List Char)
  | [] => none
  | c :: rest =>
    match digitValue? c with
    | none => none
    | some d =>
      let t := threshold bias place
      if d < t then some (number + d * weight, rest)
      else readNumber? bias (place + base) (weight * (base - t)) (number + d * weight) rest

theorem readNumber?_length {bias place weight number n : Nat} {cs rest : List Char}
    (h : readNumber? bias place weight number cs = some (n, rest)) : rest.length < cs.length := by
  induction cs generalizing place weight number with
  | nil => simp [readNumber?] at h
  | cons c cs ih =>
    simp only [readNumber?] at h
    split at h
    · contradiction
    · split at h
      · simp only [Option.some.injEq, Prod.mk.injEq] at h
        simp [← h.2]
      · have := ih h
        simp only [List.length_cons]
        omega

/-- Inserts the characters that numbers tell, from a state on: the `least` possible character and the next `place`. -/
def decodeFrom (label : List Char) (least place bias : Nat) (isFirst : Bool) (cs : List Char) : Option (List Char) :=
  if cs.isEmpty then some label
  else match _h : readNumber? bias base 1 0 cs with
    | none => none
    | some (number, rest) =>
      let count := label.length + 1
      let state := place + number
      let n := least + state / count
      let c := Char.ofNat n
      if c.toNat ≠ n then none
      else
        let i := state % count
        decodeFrom (label.take i ++ c :: label.drop i) n (i + 1) (adapt number count isFirst) false rest
termination_by cs.length
decreasing_by exact readNumber?_length ‹_›

def decode? (cs : List Char) : Option (List Char) :=
  if !cs.all isAscii then none
  else match Text.cutAt '-' cs.reverse with
    | some (last, first) =>
      if first.isEmpty then decodeFrom [] firstInserted 0 firstBias true cs
      else decodeFrom first.reverse firstInserted 0 firstBias true last.reverse
    | none => decodeFrom [] firstInserted 0 firstBias true cs

end SpacewalkAcquire.Punycode
