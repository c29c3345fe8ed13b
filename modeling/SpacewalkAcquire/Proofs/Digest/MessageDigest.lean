import Mathlib.Data.Fin.VecNotation
import Mathlib.Tactic.FinCases
import SpacewalkAcquire.Proofs.Digest.Sines

/-!
# The message digest

MD5 as RFC 1321 defines it, on bit strings and words of 32 bits. The four registers are changed in place, and each
operation names them from another one on, where `Md5` hands the four words round.

* `MessageDigest.rounds`, `MessageDigest.operate` : the four rounds, and one operation on the registers;
* `MessageDigest.hash` : the hash of bit strings;
* `MessageDigest.realizes` : `Md5.hash` computes it.
-/

namespace SpacewalkAcquire.MessageDigest

/-! ## Functions on words -/

def mixF (x y z : BitVec 32) : BitVec 32 := (x &&& y) ||| (~~~x &&& z)

def mixG (x y z : BitVec 32) : BitVec 32 := (x &&& z) ||| (y &&& ~~~z)

def mixH (x y z : BitVec 32) : BitVec 32 := x ^^^ y ^^^ z

def mixI (x y z : BitVec 32) : BitVec 32 := y ^^^ (x ||| ~~~z)

/-! ## The hash -/

/-- A round of 16 operations. -/
structure Round where
  mix : BitVec 32 → BitVec 32 → BitVec 32 → BitVec 32
  words : Fin 16 → Fin 16
  /-- The amounts of the rotations, the same for each fourth operation. -/
  amounts : Fin 4 → ℕ

def rounds : Fin 4 → Round :=
  ![⟨mixF, ![0, 1, 2, 3, 4, 5, 6, 7, 8, 9, 10, 11, 12, 13, 14, 15], ![7, 12, 17, 22]⟩,
    ⟨mixG, ![1, 6, 11, 0, 5, 10, 15, 4, 9, 14, 3, 8, 13, 2, 7, 12], ![5, 9, 14, 20]⟩,
    ⟨mixH, ![5, 8, 11, 14, 1, 4, 7, 10, 13, 0, 3, 6, 9, 12, 15, 2], ![4, 11, 16, 23]⟩,
    ⟨mixI, ![0, 7, 14, 5, 12, 3, 10, 1, 8, 15, 6, 13, 4, 11, 2, 9], ![6, 10, 15, 21]⟩]

def roundOf (n : ℕ) : Round := rounds (Fin.ofNat 4 (n / 16))

/-- The registers A, B, C and D, numbered from zero on in a circle. -/
abbrev Registers := Fin 4 → BitVec 32

/-- The register that an operation names first. One after the other they name ABCD, DABC, CDAB, BCDA, and ABCD again. -/
def first (n : ℕ) : Fin 4 := Fin.ofNat 4 (3 * n)

/-- What an operation puts into the first of its registers. -/
noncomputable def changed (block : Fin 16 → BitVec 32) (r : Registers) (n : ℕ) : BitVec 32 :=
  let a := first n
  let sum := r a + (roundOf n).mix (r (a + 1)) (r (a + 2)) (r (a + 3)) + block ((roundOf n).words (Fin.ofNat 16 n)) +
    constant (n + 1)
  r (a + 1) + sum.rotateLeft ((roundOf n).amounts (Fin.ofNat 4 n))

noncomputable def operate (block : Fin 16 → BitVec 32) (r : Registers) (n : ℕ) : Registers :=
  Function.update r (first n) (changed block r n)

noncomputable def compress (r : Registers) (block : Bits) : Registers :=
  let words := (Bits.groups 32 block).map fun group => Bits.word (Bits.swapped group)
  let r' := (List.range 64).foldl (operate fun k => words.getD k 0) r
  fun i => r' i + r i

noncomputable def hash : BitHash Registers where
  start := ![0x67452301, 0xefcdab89, 0x98badcfe, 0x10325476]
  compress := compress
  field length := Bits.swapped (Bits.ofWord (BitVec.ofNat 64 length))
  output r := [r 0, r 1, r 2, r 3].flatMap fun x => Bits.swapped (Bits.ofWord x)

/-! ## Its computation -/

/-- The registers named from `i` on hold the words of a chaining value. -/
structure Named (r : Registers) (i : Fin 4) (s : Md5.Chain) : Prop where
  a : r i = s.a.toBitVec
  b : r (i + 1) = s.b.toBitVec
  c : r (i + 2) = s.c.toBitVec
  d : r (i + 3) = s.d.toBitVec

def ofChain (s : Md5.Chain) : Registers := ![s.a.toBitVec, s.b.toBitVec, s.c.toBitVec, s.d.toBitVec]

theorem named_ofChain (s : Md5.Chain) : Named (ofChain s) 0 s := ⟨rfl, rfl, rfl, rfl⟩

theorem Named.eq {r : Registers} {s : Md5.Chain} (h : Named r 0 s) : r = ofChain s := by
  funext i
  fin_cases i
  · exact h.a
  · exact h.b
  · exact h.c
  · exact h.d

theorem wordIndex_eq : ∀ n < 64, Md5.wordIndex (n / 16) n = (roundOf n).words (Fin.ofNat 16 n) := by
  decide +kernel

theorem amount_eq : ∀ n < 64, (Md5.turns.getD (4 * (n / 16) + n % 4) 0).toNat = (roundOf n).amounts (Fin.ofNat 4 n) ∧
    0 < (Md5.turns.getD (4 * (n / 16) + n % 4) 0).toNat ∧ (Md5.turns.getD (4 * (n / 16) + n % 4) 0).toNat < 32 := by
  decide +kernel

theorem toBitVec_mix {n : ℕ} (hn : n < 64) (b c d : UInt32) :
    (Md5.mix (n / 16) b c d).toBitVec = (roundOf n).mix b.toBitVec c.toBitVec d.toBitVec := by
  have hround : n / 16 < 4 := by omega
  rw [roundOf]
  generalize n / 16 = round at hround ⊢
  match round, hround with
  | 0, _ | 1, _ | 2, _ | 3, _ => rfl

theorem circle (i : Fin 4) :
    i + 1 ≠ i ∧ i + 2 ≠ i ∧ i + 3 ≠ i ∧ i + 3 + 1 = i ∧ i + 3 + 2 = i + 1 ∧ i + 3 + 3 = i + 2 := by
  revert i
  decide

/-- If register `i` is changed, the registers hold a chaining value with the new word, named from the last on. -/
theorem Named.update {r : Registers} {i : Fin 4} {s : Md5.Chain} (h : Named r i s) (w : UInt32) :
    Named (Function.update r i w.toBitVec) (i + 3) ⟨s.d, w, s.b, s.c⟩ := by
  obtain ⟨hne₁, hne₂, hne₃, h₁, h₂, h₃⟩ := circle i
  constructor
  · rw [Function.update_of_ne hne₃, h.d]
  · rw [h₁, Function.update_self]
  · rw [h₂, Function.update_of_ne hne₁, h.b]
  · rw [h₃, Function.update_of_ne hne₂, h.c]

theorem first_succ (n : ℕ) : first (n + 1) = first n + 3 := by
  rw [first, first, Nat.mul_succ]
  ext
  simp [Fin.val_add]

section

variable {r : Registers} {s : Md5.Chain} {words : Array UInt32} {block : Fin 16 → BitVec 32} {n : ℕ}

theorem Named.changed (h : Named r (first n) s) (hn : n < 64)
    (hwords : ∀ k : Fin 16, (words.getD k 0).toBitVec = block k) :
    (Md5.step words s n).b.toBitVec = changed block r n := by
  obtain ⟨hamount, hpos, hlt⟩ := amount_eq n hn
  rw [MessageDigest.changed, h.a, h.b, h.c, h.d, ← toBitVec_mix hn, ← hwords, ← wordIndex_eq n hn, ← toBitVec_sines hn,
    ← hamount, Md5.step, UInt32.toBitVec_add, toBitVec_rotateLeft _ hpos hlt, UInt32.toBitVec_add, UInt32.toBitVec_add,
    UInt32.toBitVec_add]

theorem Named.operate (h : Named r (first n) s) (hn : n < 64)
    (hwords : ∀ k : Fin 16, (words.getD k 0).toBitVec = block k) :
    Named (operate block r n) (first (n + 1)) (Md5.step words s n) := by
  rw [first_succ, MessageDigest.operate, ← h.changed hn hwords]
  exact h.update _

/-- After `n` operations the registers hold the chaining value of as many steps. -/
theorem named_operations (s : Md5.Chain) (hn : n ≤ 64) (hwords : ∀ k : Fin 16, (words.getD k 0).toBitVec = block k) :
    Named ((List.range n).foldl (operate block) (ofChain s)) (first n) ((List.range n).foldl (Md5.step words) s) := by
  induction n with
  | zero => exact named_ofChain s
  | succ n ih =>
    rw [List.range_succ, List.foldl_concat, List.foldl_concat]
    exact (ih (Nat.le_of_succ_le hn)).operate hn hwords

end

theorem ofChain_add (s t : Md5.Chain) :
    ofChain ⟨s.a + t.a, s.b + t.b, s.c + t.c, s.d + t.d⟩ = fun i => ofChain t i + ofChain s i := by
  funext i
  fin_cases i <;> exact BitVec.add_comm _ _

theorem ofChain_compress (s : Md5.Chain) {block : Bytes} (hblock : block.length = BlockHash.blockSize) :
    ofChain (Md5.compress s block) = compress (ofChain s) (Bits.ofBytes block) := by
  have hwords : ∀ k : Fin 16, ((blockWords id block).toArray.getD k 0).toBitVec =
      ((Bits.groups 32 (Bits.ofBytes block)).map fun group => Bits.word (Bits.swapped group)).getD k 0 :=
    fun k => Bits.toBitVec_blockWords (fun _ => rfl) Bits.swapped_ofBytes hblock k
  have hturned : first 64 = 0 := by decide
  have hnamed := named_operations s le_rfl hwords
  rw [hturned] at hnamed
  rw [compress, Md5.compress, ofChain_add, hnamed.eq]

/-- `Md5.hash` computes the hash of the bits. -/
theorem realizes : Md5.hash.Realizes hash ofChain where
  start := by
    funext i
    fin_cases i <;> rfl
  compress _ _ hblock := ofChain_compress _ hblock
  field size := by
    change Bits.ofBytes (bytesOfLength _) = Bits.swapped (Bits.ofWord _)
    rw [← Bits.ofBytes_bytesOfLength, Bits.swapped_ofBytes, List.reverse_reverse]
  output s := by
    have hword : ∀ w : UInt32, Bits.swapped (Bits.ofWord w.toBitVec) = Bits.ofBytes (bytesOfWord w) := by
      intro w
      rw [← Bits.ofBytes_bytesOfWord, Bits.swapped_ofBytes, List.reverse_reverse]
    simp [Md5.hash, hash, ofChain, hword]

end SpacewalkAcquire.MessageDigest
