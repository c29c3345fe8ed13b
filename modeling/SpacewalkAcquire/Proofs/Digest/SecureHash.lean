import SpacewalkAcquire.Proofs.Digest.Roots

/-!
# The secure hash

SHA-256 as FIPS 180-4 defines it, on bit strings and words of 32 bits.

* `SecureHash.schedule`, `SecureHash.step` : the words of a block by their recurrence, and a step on eight variables;
* `SecureHash.hash`, `SecureHash.digest?` : the hash of bit strings, and the digest of messages below `2 ^ 64` bits;
* `SecureHash.realizes` : `Sha256.hash` computes it.
-/

namespace SpacewalkAcquire.SecureHash

/-! ## Functions on words -/

def choice (x y z : BitVec 32) : BitVec 32 := (x &&& y) ^^^ (~~~x &&& z)

def majority (x y z : BitVec 32) : BitVec 32 := (x &&& y) ^^^ (x &&& z) ^^^ (y &&& z)

def bigSigma₀ (x : BitVec 32) : BitVec 32 := x.rotateRight 2 ^^^ x.rotateRight 13 ^^^ x.rotateRight 22

def bigSigma₁ (x : BitVec 32) : BitVec 32 := x.rotateRight 6 ^^^ x.rotateRight 11 ^^^ x.rotateRight 25

def smallSigma₀ (x : BitVec 32) : BitVec 32 := x.rotateRight 7 ^^^ x.rotateRight 18 ^^^ x >>> 3

def smallSigma₁ (x : BitVec 32) : BitVec 32 := x.rotateRight 17 ^^^ x.rotateRight 19 ^^^ x >>> 10

/-! ## The hash -/

/-- The words of a block, and behind them those that they determine. -/
def schedule (block : Bits) (t : ℕ) : BitVec 32 :=
  if t < 16 then ((Bits.groups 32 block).map Bits.word).getD t 0
  else smallSigma₁ (schedule block (t - 2)) + schedule block (t - 7) + smallSigma₀ (schedule block (t - 15)) +
    schedule block (t - 16)

/-- Eight words: the variables of the steps, and the chaining value. -/
structure Variables where
  a : BitVec 32
  b : BitVec 32
  c : BitVec 32
  d : BitVec 32
  e : BitVec 32
  f : BitVec 32
  g : BitVec 32
  h : BitVec 32

noncomputable def step (words : ℕ → BitVec 32) (v : Variables) (t : ℕ) : Variables :=
  let t₁ := v.h + bigSigma₁ v.e + choice v.e v.f v.g + constant t + words t
  let t₂ := bigSigma₀ v.a + majority v.a v.b v.c
  ⟨t₁ + t₂, v.a, v.b, v.c, v.d + t₁, v.e, v.f, v.g⟩

noncomputable def compress (v : Variables) (block : Bits) : Variables :=
  let w := (List.range 64).foldl (step (schedule block)) v
  ⟨w.a + v.a, w.b + v.b, w.c + v.c, w.d + v.d, w.e + v.e, w.f + v.f, w.g + v.g, w.h + v.h⟩

noncomputable def hash : BitHash Variables where
  start := ⟨initial 0, initial 1, initial 2, initial 3, initial 4, initial 5, initial 6, initial 7⟩
  compress := compress
  field length := Bits.ofWord (BitVec.ofNat 64 length)
  output v := [v.a, v.b, v.c, v.d, v.e, v.f, v.g, v.h].flatMap Bits.ofWord

/-- The digest of a message; one of `2 ^ 64` bits or more has none. -/
noncomputable def digest? (message : Bits) : Option Bits :=
  if message.length < 2 ^ 64 then some (hash.digest message) else none

/-! ## Its computation -/

def ofChain (s : Sha256.Chain) : Variables :=
  ⟨s.a.toBitVec, s.b.toBitVec, s.c.toBitVec, s.d.toBitVec, s.e.toBitVec, s.f.toBitVec, s.g.toBitVec, s.h.toBitVec⟩

theorem schedule_of_lt (block : Bits) {t : ℕ} (ht : t < 16) :
    schedule block t = ((Bits.groups 32 block).map Bits.word).getD t 0 := by
  rw [schedule, if_pos ht]

theorem schedule_add (block : Bits) (i : ℕ) :
    schedule block (16 + i) = smallSigma₁ (schedule block (i + 14)) + schedule block (i + 9) +
      smallSigma₀ (schedule block (i + 1)) + schedule block i := by
  have h₂ : 16 + i - 2 = i + 14 := by omega
  have h₇ : 16 + i - 7 = i + 9 := by omega
  have h₁₅ : 16 + i - 15 = i + 1 := by omega
  have h₁₆ : 16 + i - 16 = i := by omega
  rw [schedule, if_neg (by omega), h₂, h₇, h₁₅, h₁₆]

def extend (words : Array UInt32) (i : ℕ) : Array UInt32 :=
  let x := words.getD (i + 1) 0
  let y := words.getD (i + 14) 0
  let s := rotateRight x 7 ^^^ rotateRight x 18 ^^^ (x >>> 3)
  let t := rotateRight y 17 ^^^ rotateRight y 19 ^^^ (y >>> 10)
  words.push (words.getD i 0 + s + words.getD (i + 9) 0 + t)

/-- The first `16 + n` words of the schedule of `block`, and no others. -/
structure Fills (words : Array UInt32) (block : Bits) (n : ℕ) : Prop where
  size : words.size = 16 + n
  words : ∀ t < 16 + n, (words.getD t 0).toBitVec = schedule block t

theorem fills_blockWords {block : Bytes} (hblock : block.length = BlockHash.blockSize) :
    Fills (blockWords List.reverse block).toArray (Bits.ofBytes block) 0 := by
  refine ⟨by simp [blockWords], fun t ht => ?_⟩
  have horder : ∀ group, id (Bits.ofBytes group) = Bits.ofBytes group.reverse.reverse := by
    intro group
    rw [List.reverse_reverse, id]
  rw [schedule_of_lt _ ht, Bits.toBitVec_blockWords (fun _ => List.length_reverse) horder hblock]
  rfl

theorem Fills.extend {words : Array UInt32} {block : Bits} {n : ℕ} (h : Fills words block n) :
    Fills (extend words n) block (n + 1) := by
  refine ⟨by rw [SecureHash.extend, Array.size_push, h.size, Nat.add_assoc], fun t ht => ?_⟩
  have hcases : t < 16 + n ∨ t = 16 + n := by omega
  rcases hcases with hlt | rfl
  · have hkept : (SecureHash.extend words n).getD t 0 = words.getD t 0 := by
      rw [← h.size] at hlt
      simp [SecureHash.extend, Array.getElem?_push, hlt.ne]
    rw [hkept, h.words t hlt]
  · rw [schedule_add, ← h.words n (by omega), ← h.words (n + 1) (by omega), ← h.words (n + 9) (by omega),
      ← h.words (n + 14) (by omega), ← h.size]
    simp [SecureHash.extend, toBitVec_rotateRight, smallSigma₀, smallSigma₁]
    ac_rfl

theorem fills_foldl {block : Bytes} (hblock : block.length = BlockHash.blockSize) (n : ℕ) :
    Fills ((List.range n).foldl extend (blockWords List.reverse block).toArray) (Bits.ofBytes block) n := by
  induction n with
  | zero => exact fills_blockWords hblock
  | succ n ih =>
    rw [List.range_succ, List.foldl_concat]
    exact ih.extend

theorem toBitVec_schedule {block : Bytes} (hblock : block.length = BlockHash.blockSize) {t : ℕ} (ht : t < 64) :
    ((Sha256.schedule block).getD t 0).toBitVec = schedule (Bits.ofBytes block) t :=
  (fills_foldl hblock 48).words t ht

theorem ofChain_step {words : Array UInt32} {words' : ℕ → BitVec 32} {t : ℕ} (ht : t < 64)
    (hwords : (words.getD t 0).toBitVec = words' t) (s : Sha256.Chain) :
    ofChain (Sha256.step words s t) = step words' (ofChain s) t := by
  simp only [step, ← toBitVec_roots ht, ← hwords]
  simp [ofChain, Sha256.step, toBitVec_rotateRight, bigSigma₀, bigSigma₁, choice, majority]

theorem ofChain_compress (s : Sha256.Chain) {block : Bytes} (hblock : block.length = BlockHash.blockSize) :
    ofChain (Sha256.compress s block) = compress (ofChain s) (Bits.ofBytes block) := by
  have hsteps : ofChain ((List.range 64).foldl (Sha256.step (Sha256.schedule block)) s) =
      (List.range 64).foldl (step (schedule (Bits.ofBytes block))) (ofChain s) :=
    List.foldl_rel (r := fun s v => ofChain s = v) rfl fun t ht s v hv => by
      have htlt := List.mem_range.1 ht
      rw [← hv, ofChain_step htlt (toBitVec_schedule hblock htlt)]
  rw [compress, ← hsteps, Sha256.compress]
  simp [ofChain, BitVec.add_comm]

/-- `Sha256.hash` computes the hash of the bits. -/
theorem realizes : Sha256.hash.Realizes hash ofChain where
  start := by
    simp only [hash, ← toBitVec_startWords, Nat.reduceLT]
    rfl
  compress _ _ hblock := ofChain_compress _ hblock
  field _ := Bits.ofBytes_bytesOfLength _
  output s := by
    simp [Sha256.hash, hash, ofChain, Bits.ofBytes_bytesOfWord]

end SpacewalkAcquire.SecureHash
