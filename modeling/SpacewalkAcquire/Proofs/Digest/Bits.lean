import Mathlib.Data.Nat.Digits.Defs
import Mathlib.Data.Nat.Find
import SpacewalkAcquire.Digest.Content

/-!
# Bit strings

* `Bits.number`, `Bits.ofWord` : the number that bits spell, and the bits of a word, the highest first;
* `Bits.ofBytes` : the bits of bytes;
* `Bits.groups` : a string cut into groups of one size;
* `Bits.swapped`, `Bits.hex` : the bytes of a string in reverse order, and its hexadecimal digits;
* `Bits.padded` : a message, a one, as few zeros as possible, and a field of 64 bits, in blocks of 512 bits;
* `BitHash` : a hash of bit strings;
* `BlockHash.Realizes` : a hash of bytes computes a hash of bit strings.
-/

namespace SpacewalkAcquire

abbrev Bits := List Bool

namespace Bits

/-! ## Numbers and words -/

/-- The number that bits spell, the highest first. -/
def number (bits : Bits) : Nat := Nat.ofDigits 2 (bits.reverse.map Bool.toNat)

/-- The bits of a word, the highest first. -/
def ofWord {w : Nat} (x : BitVec w) : Bits := (List.range w).map x.getMsbD

def ofBytes (bytes : Bytes) : Bits := bytes.flatMap fun b => ofWord b.toBitVec

theorem number_append (front back : Bits) : number (front ++ back) = number front * 2 ^ back.length + number back := by
  rw [number, List.reverse_append, List.map_append, Nat.ofDigits_append, List.length_map, List.length_reverse]
  exact (Nat.add_comm _ _).trans (congrArg (· + _) (Nat.mul_comm _ _))

theorem number_cons (bit : Bool) (bits : Bits) : number (bit :: bits) = bit.toNat * 2 ^ bits.length + number bits := by
  rw [← List.singleton_append, number_append, number, List.reverse_singleton, List.map_singleton,
    Nat.ofDigits_singleton]

theorem number_lt (bits : Bits) : number bits < 2 ^ bits.length := by
  induction bits with
  | nil => decide
  | cons bit bits ih =>
    have hbit := bit.toNat_le
    rw [number_cons, List.length_cons, pow_succ]
    nlinarith

theorem eq_of_number {bits bits' : Bits} (hlength : bits.length = bits'.length) (h : number bits = number bits') :
    bits = bits' := by
  induction bits generalizing bits' with
  | nil => exact (List.length_eq_zero_iff.1 hlength.symm).symm
  | cons bit bits ih =>
    cases bits' with
    | nil => cases hlength
    | cons bit' bits' =>
      have hlength' : bits.length = bits'.length := Nat.succ.inj hlength
      have hlt := number_lt bits
      have hlt' := number_lt bits'
      rw [number_cons, number_cons, hlength'] at h
      rw [hlength'] at hlt
      cases bit <;> cases bit' <;> simp only [Bool.toNat_true, Bool.toNat_false] at h
      · rw [ih hlength' (by omega)]
      · omega
      · omega
      · rw [ih hlength' (by omega)]

@[simp] theorem length_ofWord {w : Nat} (x : BitVec w) : (ofWord x).length = w := by simp [ofWord]

theorem number_testBits (w n : Nat) : number ((List.range w).map fun i => n.testBit (w - 1 - i)) = n % 2 ^ w := by
  induction w with
  | zero => simp [number, Nat.mod_one]
  | succ w ih =>
    have hrest : ((fun i => n.testBit (w + 1 - 1 - i)) ∘ Nat.succ) = fun i => n.testBit (w - 1 - i) := by
      funext i
      simp only [Function.comp_apply]
      congr 1
      omega
    rw [List.range_succ_eq_map, List.map_cons, List.map_map, hrest, number_cons, ih, List.length_map, List.length_range,
      Nat.mod_pow_succ, Nat.add_sub_cancel, Nat.sub_zero, Nat.toNat_testBit]
    ring

theorem number_ofWord {w : Nat} (x : BitVec w) : number (ofWord x) = x.toNat := by
  have hbits : ofWord x = (List.range w).map fun i => x.toNat.testBit (w - 1 - i) := by
    refine List.map_congr_left fun i hi => ?_
    rw [BitVec.getMsbD, decide_eq_true (List.mem_range.1 hi), Bool.true_and, BitVec.getLsbD]
  rw [hbits, number_testBits, Nat.mod_eq_of_lt x.isLt]

/-! ## Bytes -/

@[simp] theorem ofBytes_nil : ofBytes [] = [] := rfl

theorem ofBytes_cons (b : UInt8) (bytes : Bytes) : ofBytes (b :: bytes) = ofWord b.toBitVec ++ ofBytes bytes := rfl

@[simp] theorem ofBytes_append (front back : Bytes) : ofBytes (front ++ back) = ofBytes front ++ ofBytes back :=
  List.flatMap_append

@[simp] theorem length_ofBytes (bytes : Bytes) : (ofBytes bytes).length = 8 * bytes.length := by
  induction bytes with
  | nil => rfl
  | cons b bytes ih =>
    rw [ofBytes_cons, List.length_append, length_ofWord, ih, List.length_cons]
    omega

theorem take_ofBytes (n : Nat) (bytes : Bytes) : (ofBytes bytes).take (8 * n) = ofBytes (bytes.take n) := by
  induction n generalizing bytes with
  | zero => rfl
  | succ n ih =>
    cases bytes with
    | nil => simp
    | cons b bytes =>
      have hword : 8 * (n + 1) = (ofWord b.toBitVec).length + 8 * n := by
        rw [length_ofWord]
        omega
      rw [ofBytes_cons, hword, List.take_length_add_append, List.take_succ_cons, ih, ofBytes_cons]

theorem drop_ofBytes (n : Nat) (bytes : Bytes) : (ofBytes bytes).drop (8 * n) = ofBytes (bytes.drop n) := by
  have hbits : ofBytes (bytes.take n) ++ (ofBytes bytes).drop (8 * n) = ofBytes bytes := by
    rw [← take_ofBytes, List.take_append_drop]
  have hbytes : ofBytes (bytes.take n) ++ ofBytes (bytes.drop n) = ofBytes bytes := by
    rw [← ofBytes_append, List.take_append_drop]
  exact List.append_cancel_left (hbits.trans hbytes.symm)

/-- Bytes spell a number whose digits they are, the lowest last. -/
theorem number_ofBytes (bytes : Bytes) : number (ofBytes bytes) = Nat.ofDigits 256 (bytes.reverse.map UInt8.toNat) := by
  induction bytes with
  | nil => rfl
  | cons b bytes ih =>
    have hbyte : number (ofWord b.toBitVec) = b.toNat := number_ofWord _
    rw [ofBytes_cons, number_append, ih, hbyte, List.reverse_cons, List.map_append, Nat.ofDigits_append, length_ofBytes,
      List.length_map, List.length_reverse, List.map_singleton, Nat.ofDigits_singleton, pow_mul]
    ring

/-! ## Groups -/

/-- A list cut into groups of `size`; an incomplete one at the end is left out. -/
def groups {α : Type} (size : Nat) (l : List α) : List (List α) :=
  (List.range (l.length / size)).map fun i => (l.drop (size * i)).take size

theorem groups_of_short {α : Type} {size : Nat} {l : List α} (h : l.length < size) : groups size l = [] := by
  rw [groups, Nat.div_eq_of_lt h]
  rfl

theorem groups_append {α : Type} {size : Nat} {group : List α} (rest : List α) (h : group.length = size)
    (hpos : 0 < size) : groups size (group ++ rest) = group :: groups size rest := by
  have hcount : (group ++ rest).length / size = rest.length / size + 1 := by
    rw [List.length_append, h, Nat.add_div_left _ hpos]
  rw [groups, hcount, List.range_succ_eq_map, List.map_cons, List.map_map, Nat.mul_zero, List.drop_zero,
    List.take_left' h, groups]
  refine congrArg _ (List.map_congr_left fun i _ => ?_)
  rw [Function.comp_apply, Nat.mul_succ, Nat.add_comm, ← h, List.drop_length_add_append]

theorem length_of_mem_groups {α : Type} {size : Nat} {l group : List α} (h : group ∈ groups size l) :
    group.length = size := by
  obtain ⟨i, hi, rfl⟩ := List.mem_map.1 h
  have hle : size * (i + 1) ≤ l.length :=
    (Nat.mul_le_mul_left _ (List.mem_range.1 hi)).trans (Nat.mul_div_le _ _)
  rw [List.length_take, List.length_drop]
  rw [Nat.mul_succ] at hle
  omega

theorem groups_ofBytes (n : Nat) (bytes : Bytes) : groups (8 * n) (ofBytes bytes) = (groups n bytes).map ofBytes := by
  rw [groups, groups, length_ofBytes, Nat.mul_div_mul_left _ _ (by decide), List.map_map]
  refine List.map_congr_left fun i _ => ?_
  rw [Function.comp_apply, Nat.mul_assoc, drop_ofBytes, take_ofBytes]

theorem groups_one {α : Type} (l : List α) : groups 1 l = l.map fun a => [a] := by
  induction l with
  | nil => exact groups_of_short Nat.one_pos
  | cons a l ih =>
    have hgroup : [a].length = 1 := rfl
    rw [← List.singleton_append, groups_append l hgroup Nat.one_pos, ih, List.map_append, List.map_singleton,
      List.singleton_append]

def swapped (bits : Bits) : Bits := (groups 8 bits).reverse.flatten

theorem swapped_ofBytes (bytes : Bytes) : swapped (ofBytes bytes) = ofBytes bytes.reverse := by
  have hgroups := groups_ofBytes 1 bytes
  rw [groups_one, List.map_map] at hgroups
  rw [swapped, hgroups, ← List.map_reverse, ofBytes, List.flatMap_def]
  simp [ofBytes, Function.comp_def]

def hex (bits : Bits) : String := String.ofList ((groups 4 bits).map fun group => Nat.digitChar (number group))

theorem hexDigit_eq : ∀ n < 16, hexDigit n = Nat.digitChar n := by decide

theorem groups_four_cons (b : UInt8) (bytes : Bytes) :
    (groups 4 (ofBytes (b :: bytes))).map number =
      b.toNat / 16 :: b.toNat % 16 :: (groups 4 (ofBytes bytes)).map number := by
  have hhigh : ((ofWord b.toBitVec).take 4).length = 4 := by simp
  have hlow : ((ofWord b.toBitVec).drop 4).length = 4 := by simp
  have hlt := number_lt ((ofWord b.toBitVec).drop 4)
  have hsplit := number_append ((ofWord b.toBitVec).take 4) ((ofWord b.toBitVec).drop 4)
  have hbyte : number (ofWord b.toBitVec) = b.toNat := number_ofWord _
  rw [List.take_append_drop, hbyte, hlow] at hsplit
  rw [hlow] at hlt
  have hdiv : number ((ofWord b.toBitVec).take 4) = b.toNat / 16 := by omega
  have hmod : number ((ofWord b.toBitVec).drop 4) = b.toNat % 16 := by omega
  rw [ofBytes_cons, ← List.take_append_drop 4 (ofWord b.toBitVec), List.append_assoc, groups_append _ hhigh (by decide),
    groups_append _ hlow (by decide), List.map_cons, List.map_cons, hdiv, hmod]

/-- `hexText` consists of the hexadecimal digits of the bits. -/
theorem hexText_eq (bytes : Bytes) : hexText bytes = hex (ofBytes bytes) := by
  have hdigits : (groups 4 (ofBytes bytes)).map (fun group => Nat.digitChar (number group)) =
      bytes.flatMap fun b => [hexDigit (b.toNat / 16), hexDigit (b.toNat % 16)] := by
    rw [← Function.comp_def Nat.digitChar number, ← List.map_map]
    induction bytes with
    | nil => rfl
    | cons b bytes ih =>
      have hb := b.toNat_lt
      rw [groups_four_cons, List.map_cons, List.map_cons, ih, List.flatMap_cons, hexDigit_eq _ (by omega),
        hexDigit_eq _ (by omega)]
      rfl
  rw [hexText, hex, hdigits]

/-! ## Padding -/

theorem exists_zeros (length : Nat) : ∃ k, (length + 1 + k) % 512 = 448 := ⟨959 - length % 512, by omega⟩

/-- The least number of zeros behind a message and a one that leave room for 64 bits in the last block. -/
def zeros (length : Nat) : Nat := Nat.find (exists_zeros length)

/-- A message, a one, zeros, and a field of 64 bits. -/
def padded (message field : Bits) : Bits :=
  message ++ true :: (List.replicate (zeros message.length) false ++ field)

theorem zeros_bytes (size : Nat) : zeros (8 * size) = 8 * BlockHash.zeroCount size + 7 := by
  rw [zeros, Nat.find_eq_iff, BlockHash.zeroCount]
  refine ⟨by omega, fun k hk h => ?_⟩
  omega

theorem ofBytes_zeros (n : Nat) : ofBytes (List.replicate n 0) = List.replicate (8 * n) false := by
  induction n with
  | zero => rfl
  | succ n ih =>
    rw [List.replicate_succ, ofBytes_cons, ih, Nat.mul_succ, Nat.add_comm, ← List.replicate_append_replicate]
    rfl

end Bits

/-! ## Hashes of bit strings -/

/-- A hash that compresses blocks of 512 bits. -/
structure BitHash (τ : Type) where
  start : τ
  compress : τ → Bits → τ
  field : Nat → Bits
  output : τ → Bits

namespace BitHash

variable {τ : Type}

def digest (s : BitHash τ) (message : Bits) : Bits :=
  s.output ((Bits.groups 512 (Bits.padded message (s.field message.length))).foldl s.compress s.start)

end BitHash

namespace BlockHash

variable {σ τ : Type} {h : BlockHash σ} {s : BitHash τ} {view : σ → τ}

theorem absorb_eq (h : BlockHash σ) (chain : σ) (bytes : Bytes) :
    (h.absorb chain bytes).1 = (Bits.groups blockSize bytes).foldl h.compress chain := by
  fun_induction BlockHash.absorb h chain bytes with
  | case1 chain bytes hshort =>
    rw [Bits.groups_of_short]
    · rfl
    · rw [List.length_take] at hshort
      omega
  | case2 chain bytes hlong ih =>
    have hblock : (bytes.take blockSize).length = blockSize := by
      rw [List.length_take] at hlong ⊢
      omega
    conv_rhs => rw [← List.take_append_drop blockSize bytes, Bits.groups_append _ hblock (by decide), List.foldl_cons]
    exact ih

/-- `h` computes for bytes what `s` computes for their bits, where `view` turns one chaining value into the other. -/
structure Realizes (h : BlockHash σ) (s : BitHash τ) (view : σ → τ) : Prop where
  start : view h.start = s.start
  compress : ∀ chain block, block.length = blockSize →
    view (h.compress chain block) = s.compress (view chain) (Bits.ofBytes block)
  field : ∀ size, Bits.ofBytes (h.lengthBytes (8 * size)) = s.field (8 * size)
  output : ∀ chain, Bits.ofBytes (h.output chain) = s.output (view chain)

theorem Realizes.padded_eq (hr : h.Realizes s view) (message : Bytes) :
    Bits.padded (Bits.ofBytes message) (s.field (Bits.ofBytes message).length) =
      Bits.ofBytes (message ++ h.closing message.length) := by
  have hone : Bits.ofWord (0x80 : UInt8).toBitVec = true :: List.replicate 7 false := by decide
  rw [Bits.padded, Bits.length_ofBytes, Bits.zeros_bytes, closing, Bits.ofBytes_append, Bits.ofBytes_cons,
    Bits.ofBytes_append, Bits.ofBytes_zeros, hr.field, hone, Nat.add_comm, ← List.replicate_append_replicate]
  simp only [List.cons_append, List.append_assoc]

/-- Where `h` realizes `s`, the digest of bytes is that of their bits. -/
theorem Realizes.digest_eq (hr : h.Realizes s view) (message : Bytes) :
    Bits.ofBytes (h.digest message) = s.digest (Bits.ofBytes message) := by
  have hblocks : Bits.groups 512 (Bits.ofBytes (message ++ h.closing message.length)) =
      (Bits.groups blockSize (message ++ h.closing message.length)).map Bits.ofBytes := Bits.groups_ofBytes 64 _
  rw [digest, hr.output, absorb_eq, BitHash.digest, hr.padded_eq, hblocks, List.foldl_map]
  refine congrArg _ (List.foldl_rel (r := fun chain t => view chain = t) hr.start fun block hblock chain t ht => ?_)
  rw [hr.compress _ _ (Bits.length_of_mem_groups hblock), ht]

end BlockHash

end SpacewalkAcquire
