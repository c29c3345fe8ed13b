/-!
# UTF-8

* `Bytes` : byte strings as lists;
* `Text.toUtf8`, `Text.ofUtf8?` : the UTF-8 form of a text, and its strict reading;
* `Text.readUtf8` : the strict reading with the first fault of bytes that are no UTF-8 form;
* `Text.ofUtf8Lossy` : a reading that puts U+FFFD for every maximal part of an ill-formed sequence.

`ofUtf8?_toUtf8` and `ofUtf8?_eq_some_iff` say that strict reading accepts exactly the UTF-8 forms.
-/

namespace SpacewalkAcquire

abbrev Bytes := List UInt8

namespace Text

def toUtf8 (s : String) : Bytes := s.toUTF8.data.toList

def ofUtf8? (bytes : Bytes) : Option String := String.fromUTF8? ⟨bytes.toArray⟩

theorem ofUtf8?_eq_some_iff {bytes : Bytes} {s : String} : ofUtf8? bytes = some s ↔ bytes = toUtf8 s := by
  unfold ofUtf8? toUtf8
  constructor
  · intro h
    unfold String.fromUTF8? at h
    split at h
    · rw [Option.some.injEq] at h
      subst h
      rfl
    · contradiction
  · rintro rfl
    simp only [String.fromUTF8?, String.toUTF8_eq_toByteArray, Array.toArray_toList, dif_pos s.isValidUTF8]
    rfl

theorem ofUtf8?_toUtf8 (s : String) : ofUtf8? (toUtf8 s) = some s := ofUtf8?_eq_some_iff.2 rfl

/-- The number of bytes that follow a first byte, and the bounds of the byte next to it. -/
def leadingByte? (b : Nat) : Option (Nat × Nat × Nat) :=
  if 0xC2 ≤ b ∧ b ≤ 0xDF then some (1, 0x80, 0xBF)
  else if b = 0xE0 then some (2, 0xA0, 0xBF)
  else if b = 0xED then some (2, 0x80, 0x9F)
  else if 0xE1 ≤ b ∧ b ≤ 0xEF then some (2, 0x80, 0xBF)
  else if b = 0xF0 then some (3, 0x90, 0xBF)
  else if 0xF1 ≤ b ∧ b ≤ 0xF3 then some (3, 0x80, 0xBF)
  else if b = 0xF4 then some (3, 0x80, 0x8F)
  else none

def leadingBits (following b : Nat) : Nat := b % Nat.pow 2 (6 - following)

/-- What has been read of a character that is not yet complete. -/
structure Partial where
  missing : Nat
  /-- The bounds of the next byte. -/
  low : Nat
  high : Nat
  bits : Nat

/-- The first place where bytes are no UTF-8. -/
structure Utf8Fault where
  /-- The bytes before it are the UTF-8 form of a text. -/
  index : Nat
  /-- The number of bytes that cannot begin a character, none if the bytes end within one. -/
  length? : Option Nat
  deriving DecidableEq, Repr

def Utf8Fault.message (fault : Utf8Fault) : String :=
  match fault.length? with
  | some n => s!"invalid utf-8 sequence of {n} bytes from index {fault.index}"
  | none => s!"incomplete utf-8 byte sequence from index {fault.index}"

/-- The first fault of bytes, where a character of which `seen` bytes are read begins at `index`. -/
def faultFrom (index seen : Nat) : Option Partial → Bytes → Utf8Fault
  | _, [] => ⟨index, none⟩
  | none, b :: rest =>
    let n := b.toNat
    if n < 0x80 then faultFrom (index + 1) 0 none rest
    else match leadingByte? n with
      | some (missing, low, high) => faultFrom index 1 (some ⟨missing, low, high, 0⟩) rest
      | none => ⟨index, some 1⟩
  | some p, b :: rest =>
    if p.low ≤ b.toNat ∧ b.toNat ≤ p.high then
      if p.missing ≤ 1 then faultFrom (index + seen + 1) 0 none rest
      else faultFrom index (seen + 1) (some ⟨p.missing - 1, 0x80, 0xBF, 0⟩) rest
    else ⟨index, some seen⟩

def readUtf8 (bytes : Bytes) : Except Utf8Fault String :=
  match ofUtf8? bytes with
  | some s => .ok s
  | none => .error (faultFrom 0 0 none bytes)

/-- Reads on with a character begun. A byte that cannot go on ends the character as `U+FFFD` and is read afresh. -/
def ofUtf8LossyFrom : Option Partial → Bytes → List Char
  | none, [] => []
  | some _, [] => ['\ufffd']
  | none, b :: rest => start b.toNat rest
  | some p, b :: rest =>
    let n := b.toNat
    if p.low ≤ n ∧ n ≤ p.high then
      let bits := p.bits * 64 + n % 64
      if p.missing ≤ 1 then Char.ofNat bits :: ofUtf8LossyFrom none rest
      else ofUtf8LossyFrom (some ⟨p.missing - 1, 0x80, 0xBF, bits⟩) rest
    else '\ufffd' :: start n rest
where
  start (n : Nat) (rest : Bytes) : List Char :=
    if n < 0x80 then Char.ofNat n :: ofUtf8LossyFrom none rest
    else match leadingByte? n with
      | some (missing, low, high) => ofUtf8LossyFrom (some ⟨missing, low, high, leadingBits missing n⟩) rest
      | none => '\ufffd' :: ofUtf8LossyFrom none rest

/-- The text of bytes in UTF-8, with `U+FFFD` for every maximal part of an ill-formed sequence. -/
def ofUtf8Lossy (bytes : Bytes) : String := String.ofList (ofUtf8LossyFrom none bytes)

end Text

end SpacewalkAcquire
