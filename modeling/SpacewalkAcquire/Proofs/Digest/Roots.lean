import Mathlib.Data.Nat.Prime.Nth
import SpacewalkAcquire.Proofs.Digest.Words

/-!
# Fractions of roots

* `SecureHash.constant`, `SecureHash.initial` : the fractions of the cube roots and of the square roots of the primes;
* `SecureHash.toBitVec_roots`, `SecureHash.toBitVec_startWords` : they are the words that `Sha256` has in its tables.

A word is the fraction of a root if the powers of it and of its successor, behind some whole number, enclose the prime.
So the tables are checked in natural numbers.
-/

namespace SpacewalkAcquire.SecureHash

/-- The constant of a step: the first 32 bits of the fractional part of the cube root of a prime. -/
noncomputable def constant (t : ℕ) : BitVec 32 := Bits.leading (Int.fract ((Nat.nth Nat.Prime t : ℝ) ^ (1 / 3 : ℝ)))

/-- A word of the first chaining value: the first 32 bits of the fractional part of the square root of a prime. -/
noncomputable def initial (j : ℕ) : BitVec 32 := Bits.leading (Int.fract √(Nat.nth Nat.Prime j))

/-- Behind some whole number, `part` gives the first 32 bits of the fraction of the root `k` of `p`. -/
def Encloses (k p part : ℕ) : Prop :=
  ∃ whole < 8, (2 ^ 32 * whole + part) ^ k ≤ 2 ^ (32 * k) * p ∧ 2 ^ (32 * k) * p < (2 ^ 32 * whole + part + 1) ^ k

instance (k p part : ℕ) : Decidable (Encloses k p part) :=
  inferInstanceAs (Decidable (∃ whole < 8, _ ∧ _))

theorem leading_fract_root {x : ℝ} {k p : ℕ} {part : UInt32} (hk : k ≠ 0) (hx : 0 ≤ x) (hpow : x ^ k = p)
    (h : Encloses k p part.toNat) : Bits.leading (Int.fract x) = part.toBitVec := by
  obtain ⟨whole, -, hlow, hhigh⟩ := h
  have hscaled : (2 ^ 32 * x) ^ k = ((2 ^ (32 * k) * p : ℕ) : ℝ) := by
    rw [mul_pow, hpow, ← pow_mul]
    push_cast
    rfl
  have hle : ((2 ^ 32 * whole + part.toNat : ℕ) : ℝ) ≤ 2 ^ 32 * x := by
    rw [← pow_le_pow_iff_left₀ (by positivity) (by positivity) hk, hscaled]
    exact_mod_cast hlow
  have hlt : 2 ^ 32 * x < ((2 ^ 32 * whole + part.toNat + 1 : ℕ) : ℝ) := by
    rw [← pow_lt_pow_iff_left₀ (by positivity) (by positivity) hk, hscaled]
    exact_mod_cast hhigh
  have hpart : (part.toNat : ℝ) + 1 ≤ 2 ^ 32 := by exact_mod_cast part.toNat_lt
  have hnonneg : (0 : ℝ) ≤ part.toNat := Nat.cast_nonneg _
  push_cast at hle hlt
  have hfloor : ⌊x⌋ = whole := by
    rw [Int.floor_eq_iff, Int.cast_natCast]
    constructor <;> linarith
  have hfract : Int.fract x = x - whole := by rw [Int.fract, hfloor, Int.cast_natCast]
  rw [hfract]
  apply Bits.leading_eq <;> linarith

/-! ## Primes -/

def primes : List ℕ :=
  [2, 3, 5, 7, 11, 13, 17, 19, 23, 29, 31, 37, 41, 43, 47, 53, 59, 61, 67, 71, 73, 79, 83, 89, 97, 101, 103, 107, 109,
    113, 127, 131, 137, 139, 149, 151, 157, 163, 167, 173, 179, 181, 191, 193, 197, 199, 211, 223, 227, 229, 233, 239,
    241, 251, 257, 263, 269, 271, 277, 281, 283, 293, 307, 311]

theorem prime_of_not_dvd {n : ℕ} (hlt : n < 19 ^ 2) (h : 2 ≤ n ∧ ∀ m < 19, 2 ≤ m → m < n → ¬ m ∣ n) : Nat.Prime n := by
  refine Nat.prime_def_le_sqrt.2 ⟨h.1, fun m hm hle => ?_⟩
  exact h.2 m (hle.trans_lt (Nat.sqrt_lt'.2 hlt)) hm (hle.trans_lt (Nat.sqrt_lt_self h.1))

theorem prime_primes {t : ℕ} (ht : t < 64) : Nat.Prime (primes.getD t 0) := by
  have hcheck : ∀ t < 64, primes.getD t 0 < 19 ^ 2 ∧
      2 ≤ primes.getD t 0 ∧ ∀ m < 19, 2 ≤ m → m < primes.getD t 0 → ¬ m ∣ primes.getD t 0 := by
    decide +kernel
  exact prime_of_not_dvd (hcheck t ht).1 (hcheck t ht).2

theorem gap_primes : ∀ t < 63, primes.getD t 0 < primes.getD (t + 1) 0 ∧
    ∀ k < primes.getD (t + 1) 0 - (primes.getD t 0 + 1), ∃ m < 19, 2 ≤ m ∧ m < primes.getD t 0 + 1 + k ∧
      m ∣ primes.getD t 0 + 1 + k := by
  decide +kernel

theorem count_primes {t : ℕ} (ht : t < 64) : Nat.count Nat.Prime (primes.getD t 0) = t := by
  induction t with
  | zero => decide
  | succ t ih =>
    obtain ⟨hlt, hgap⟩ := gap_primes t (Nat.lt_of_succ_lt_succ ht)
    have hbetween : Nat.count (fun k => Nat.Prime (primes.getD t 0 + 1 + k))
        (primes.getD (t + 1) 0 - (primes.getD t 0 + 1)) = 0 := by
      refine Nat.count_iff_forall_not.2 fun k hk hprime => ?_
      obtain ⟨m, -, hm, hmlt, hdvd⟩ := hgap k hk
      exact Nat.not_prime_of_dvd_of_lt hdvd hm hmlt hprime
    have htlt := Nat.lt_of_succ_lt ht
    rw [← Nat.add_sub_cancel' hlt, Nat.count_add, hbetween, Nat.count_succ, ih htlt, if_pos (prime_primes htlt)]

theorem nth_prime {t : ℕ} (ht : t < 64) : Nat.nth Nat.Prime t = primes.getD t 0 := by
  conv_lhs => rw [← count_primes ht]
  exact Nat.nth_count (prime_primes ht)

/-! ## Tables -/

theorem encloses_roots : ∀ t < 64, Encloses 3 (primes.getD t 0) (Sha256.roots.getD t 0).toNat := by
  decide +kernel

/-- `Sha256.roots` holds the fractions of the cube roots of the first 64 primes. -/
theorem toBitVec_roots {t : ℕ} (ht : t < 64) : (Sha256.roots.getD t 0).toBitVec = constant t := by
  rw [constant, nth_prime ht]
  refine (leading_fract_root (by decide) (by positivity) ?_ (encloses_roots t ht)).symm
  rw [← Real.rpow_mul_natCast (Nat.cast_nonneg _)]
  norm_num

def startWords : List UInt32 :=
  let s := Sha256.start
  [s.a, s.b, s.c, s.d, s.e, s.f, s.g, s.h]

theorem encloses_startWords : ∀ j < 8, Encloses 2 (primes.getD j 0) (startWords.getD j 0).toNat := by
  decide +kernel

/-- `startWords` holds the fractions of the square roots of the first eight primes. -/
theorem toBitVec_startWords {j : ℕ} (hj : j < 8) : (startWords.getD j 0).toBitVec = initial j := by
  rw [initial, nth_prime (hj.trans (by decide))]
  exact (leading_fract_root two_ne_zero (Real.sqrt_nonneg _) (Real.sq_sqrt (Nat.cast_nonneg _))
    (encloses_startWords j hj)).symm

end SpacewalkAcquire.SecureHash
