import Mathlib.Analysis.SpecialFunctions.Pow.Real
import SpacewalkAcquire.Proofs.Digest.Bits

/-!
# Words of 32 bits

* `Bits.word` : the word that bits spell;
* `Bits.ofBytes_bytesOfWord`, `Bits.ofBytes_bytesOfLength` : the bytes of words and lengths spell them;
* `Bits.toBitVec_blockWords` : the words of a block, whatever the order of its bytes;
* `toBitVec_rotateLeft`, `toBitVec_rotateRight` : the rotations of words;
* `Bits.leading` : the first 32 bits behind the point of a number.
-/

namespace SpacewalkAcquire

namespace Bits

theorem ofNat_toNat (w : UInt32) : BitVec.ofNat 32 w.toNat = w.toBitVec :=
  (BitVec.ofNat_toNat _ _).trans (BitVec.setWidth_eq _)

def word (bits : Bits) : BitVec 32 := BitVec.ofNat 32 (number bits)

theorem ofDigits_bytes_lt (bytes : Bytes) : Nat.ofDigits 256 (bytes.map UInt8.toNat) < 256 ^ bytes.length := by
  have hlt := Nat.ofDigits_lt_base_pow_length (b := 256) (l := bytes.map UInt8.toNat) (by decide) fun x hx => by
    obtain ⟨b, -, rfl⟩ := List.mem_map.1 hx
    exact b.toNat_lt
  rwa [List.length_map] at hlt

theorem toNat_wordOfBytes {bytes : Bytes} (h : bytes.length ≤ 4) :
    (wordOfBytes bytes).toNat = Nat.ofDigits 256 (bytes.map UInt8.toNat) := by
  induction bytes with
  | nil => rfl
  | cons b bytes ih =>
    have hlength : bytes.length ≤ 3 := Nat.le_of_succ_le_succ h
    have hrest := (ofDigits_bytes_lt bytes).trans_le (Nat.pow_le_pow_right (by decide) hlength)
    have hb : b.toNat < 2 ^ 8 := b.toNat_lt
    rw [← ih (hlength.trans (by decide))] at hrest
    have hfits : (wordOfBytes bytes).toNat * 2 ^ 8 < 2 ^ 32 := by omega
    have hshift : (wordOfBytes bytes <<< 8).toNat = (wordOfBytes bytes).toNat <<< 8 := by
      rw [UInt32.toNat_shiftLeft, Nat.shiftLeft_eq, Nat.shiftLeft_eq]
      exact Nat.mod_eq_of_lt hfits
    rw [wordOfBytes, UInt32.toNat_or, hshift, UInt8.toNat_toUInt32, Nat.or_comm, ← Nat.shiftLeft_add_eq_or_of_lt hb,
      Nat.shiftLeft_eq, ih (hlength.trans (by decide)), List.map_cons, Nat.ofDigits_cons]
    omega

theorem toBitVec_wordOfBytes {bytes : Bytes} (h : bytes.length ≤ 4) :
    (wordOfBytes bytes).toBitVec = word (ofBytes bytes.reverse) := by
  rw [word, number_ofBytes, List.reverse_reverse, ← toNat_wordOfBytes h, ofNat_toNat]

theorem ofDigits_bytesOfWord (w : UInt32) : Nat.ofDigits 256 ((bytesOfWord w).map UInt8.toNat) = w.toNat := by
  have hw := w.toNat_lt
  simp only [bytesOfWord, List.map_cons, List.map_nil, Nat.ofDigits_cons, Nat.ofDigits_nil, UInt32.toNat_toUInt8,
    UInt32.toNat_shiftRight, Nat.shiftRight_eq_div_pow]
  simp
  omega

/-- The bytes of `bytesOfWord`, the highest first, have the bits of the word. -/
theorem ofBytes_bytesOfWord (w : UInt32) : ofBytes (bytesOfWord w).reverse = ofWord w.toBitVec := by
  refine eq_of_number ?_ ?_
  · rw [length_ofBytes, List.length_reverse, length_ofWord]
    rfl
  · rw [number_ofBytes, List.reverse_reverse, ofDigits_bytesOfWord, number_ofWord]
    rfl

theorem ofDigits_lowBytes (n k : Nat) :
    Nat.ofDigits 256 ((List.range k).map fun i => n / Nat.pow 256 i % 256) = n % 256 ^ k := by
  induction k with
  | zero => simp [Nat.mod_one]
  | succ k ih =>
    rw [List.range_succ, List.map_append, List.map_singleton, Nat.ofDigits_append, ih, Nat.ofDigits_singleton,
      List.length_map, List.length_range, Nat.mod_pow_succ]
    rfl

theorem ofBytes_bytesOfLength (n : Nat) : ofBytes (bytesOfLength n).reverse = ofWord (BitVec.ofNat 64 n) := by
  refine eq_of_number ?_ ?_
  · rw [length_ofBytes, List.length_reverse, length_ofWord]
    rfl
  · have hbytes : (bytesOfLength n).map UInt8.toNat = (List.range 8).map fun i => n / Nat.pow 256 i % 256 := by
      rw [bytesOfLength, List.map_map]
      exact List.map_congr_left fun i _ => UInt8.toNat_ofNat'
    rw [number_ofBytes, List.reverse_reverse, hbytes, ofDigits_lowBytes, number_ofWord, BitVec.toNat_ofNat]
    rfl

/-- `blockWords` are the words of the bits of a block, if `arrange` does to the bits of a word what `order` does to its
bytes. -/
theorem toBitVec_blockWords {order : Bytes → Bytes} {arrange : Bits → Bits} {block : Bytes}
    (horder : ∀ group, (order group).length = group.length)
    (harrange : ∀ group, arrange (ofBytes group) = ofBytes (order group).reverse)
    (hblock : block.length = BlockHash.blockSize) (k : Nat) :
    ((blockWords order block).toArray.getD k 0).toBitVec =
      ((groups 32 (ofBytes block)).map fun group => word (arrange group)).getD k 0 := by
  have hwords : blockWords order block = (groups 4 block).map fun group => wordOfBytes (order group) := by
    rw [blockWords, groups, hblock, List.map_map]
    rfl
  have hbits : (groups 32 (ofBytes block)).map (fun group => word (arrange group)) =
      (blockWords order block).map UInt32.toBitVec := by
    rw [groups_ofBytes 4 block, hwords, List.map_map, List.map_map]
    refine List.map_congr_left fun group hgroup => ?_
    have hlength := (horder group).trans (length_of_mem_groups hgroup)
    rw [Function.comp_apply, Function.comp_apply, harrange, toBitVec_wordOfBytes hlength.le]
  rw [hbits]
  simp

/-! ## Words of numbers -/

/-- The whole part of `2 ^ 32` times a number: its first 32 bits behind the point, if it is below one. -/
noncomputable def leading (x : ℝ) : BitVec 32 := BitVec.ofNat 32 ⌊2 ^ 32 * x⌋₊

theorem leading_eq {x : ℝ} {w : UInt32} (hle : w.toNat ≤ 2 ^ 32 * x) (hlt : 2 ^ 32 * x < w.toNat + 1) :
    leading x = w.toBitVec := by
  have hpos : 0 ≤ 2 ^ 32 * x := w.toNat.cast_nonneg.trans hle
  rw [leading, (Nat.floor_eq_iff hpos).2 ⟨hle, hlt⟩, ofNat_toNat]

end Bits

/-! ## Rotations -/

section

variable (w : UInt32) {n : UInt32}

theorem toNat_amount (hlt : n.toNat < 32) : (n.toBitVec % 32).toNat = n.toNat := Nat.mod_eq_of_lt hlt

theorem toNat_rest (hpos : 0 < n.toNat) (hlt : n.toNat < 32) : ((32 - n).toBitVec % 32).toNat = 32 - n.toNat := by
  rw [BitVec.toNat_umod, UInt32.toNat_toBitVec, UInt32.toNat_sub_of_le _ _ (UInt32.le_iff_toNat_le.2 hlt.le)]
  exact Nat.mod_eq_of_lt (Nat.sub_lt (by decide) hpos)

theorem toBitVec_rotateLeft (hpos : 0 < n.toNat) (hlt : n.toNat < 32) :
    (rotateLeft w n).toBitVec = w.toBitVec.rotateLeft n.toNat := by
  rw [rotateLeft, UInt32.toBitVec_or, UInt32.toBitVec_shiftLeft, UInt32.toBitVec_shiftRight, BitVec.shiftLeft_eq',
    BitVec.ushiftRight_eq', toNat_amount hlt, toNat_rest hpos hlt, BitVec.rotateLeft_def, Nat.mod_eq_of_lt hlt]

theorem toBitVec_rotateRight (hpos : 0 < n.toNat) (hlt : n.toNat < 32) :
    (rotateRight w n).toBitVec = w.toBitVec.rotateRight n.toNat := by
  rw [rotateRight, UInt32.toBitVec_or, UInt32.toBitVec_shiftLeft, UInt32.toBitVec_shiftRight, BitVec.shiftLeft_eq',
    BitVec.ushiftRight_eq', toNat_amount hlt, toNat_rest hpos hlt, BitVec.rotateRight_def, Nat.mod_eq_of_lt hlt]

end

end SpacewalkAcquire
