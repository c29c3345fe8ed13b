import SpacewalkAcquire.Proofs.Digest.Words

/-!
# Whole parts of sines

* `MessageDigest.constant` : the whole part of `2 ^ 32` times the absolute sine of a number;
* `MessageDigest.toBitVec_sines` : they are the words that `Md5` has in its table.

The turn by one is near to a complex number whose parts are fractions over `2 ^ 64`. So its powers are near to the turns
by 1 to 64, and as their parts are fractions over powers of `2 ^ 64`, the table is checked in whole numbers.
-/

namespace SpacewalkAcquire.MessageDigest

open Complex

/-- The constant of an operation: the whole part of `2 ^ 32` times the absolute sine of its number. -/
noncomputable def constant (i : ℕ) : BitVec 32 := Bits.leading |Real.sin i|

/-! ## A turn by one -/

/-- The cosine of one in units of `2 ^ 64`, rounded down. -/
def cosine : ℤ := 9966818358784711825

def sine : ℤ := 15522399902203605024

/-- A number near to the turn by one. -/
noncomputable def turn : ℂ := ⟨cosine / (2 ^ 64 : ℕ), sine / (2 ^ 64 : ℕ)⟩

theorem turn_re : turn.re = cosine / 2 ^ 64 := congrArg (_ / ·) (Nat.cast_pow 2 64)

theorem turn_im : turn.im = sine / 2 ^ 64 := congrArg (_ / ·) (Nat.cast_pow 2 64)

theorem sum_pow_I (k : ℕ) : ∑ m ∈ Finset.range (2 * k), I ^ m / (m.factorial : ℂ) =
    ((∑ j ∈ Finset.range k, (-1) ^ j / ((2 * j).factorial : ℝ) : ℝ) : ℂ) +
      ((∑ j ∈ Finset.range k, (-1) ^ j / ((2 * j + 1).factorial : ℝ) : ℝ) : ℂ) * I := by
  induction k with
  | zero => simp
  | succ k ih =>
    have heven : I ^ (2 * k) = (-1) ^ k := by rw [pow_mul, I_sq]
    rw [Nat.mul_succ, Finset.sum_range_succ, Finset.sum_range_succ, ih, Finset.sum_range_succ, Finset.sum_range_succ,
      pow_succ, heven]
    push_cast
    ring

theorem norm_exp_sub_turn : ‖exp I - turn‖ ≤ 1 / 2 ^ 62 := by
  have hseries := exp_bound (x := I) (by rw [norm_I]) (n := 2 * 12) (by decide)
  rw [sum_pow_I, norm_I, one_pow, one_mul] at hseries
  generalize hc : ∑ j ∈ Finset.range 12, (-1) ^ j / ((2 * j).factorial : ℝ) = c at hseries
  generalize hs : ∑ j ∈ Finset.range 12, (-1) ^ j / ((2 * j + 1).factorial : ℝ) = s at hseries
  have hrest : ((2 * 12).succ : ℝ) * ((2 * 12).factorial * (2 * 12 : ℕ) : ℝ)⁻¹ ≤ 1 / 2 ^ 64 := by
    norm_num [Nat.factorial]
  have hcosine : |c - cosine / 2 ^ 64| ≤ 1 / 2 ^ 64 := by
    rw [← hc, abs_le]
    norm_num [Finset.sum_range_succ, Nat.factorial, cosine]
  have hsine : |s - sine / 2 ^ 64| ≤ 1 / 2 ^ 64 := by
    rw [← hs, abs_le]
    norm_num [Finset.sum_range_succ, Nat.factorial, sine]
  have hnear : ‖(c + s * I) - turn‖ ≤ |c - cosine / 2 ^ 64| + |s - sine / 2 ^ 64| := by
    refine (norm_le_abs_re_add_abs_im _).trans_eq ?_
    simp [turn_re, turn_im]
  calc ‖exp I - turn‖
      = ‖(exp I - (c + s * I)) + ((c + s * I) - turn)‖ := by rw [sub_add_sub_cancel]
    _ ≤ ‖exp I - (c + s * I)‖ + ‖(c + s * I) - turn‖ := norm_add_le _ _
    _ ≤ 1 / 2 ^ 64 + (1 / 2 ^ 64 + 1 / 2 ^ 64) :=
        add_le_add (hseries.trans hrest) (hnear.trans (add_le_add hcosine hsine))
    _ ≤ 1 / 2 ^ 62 := by norm_num

theorem norm_turn : ‖turn‖ ≤ 1 := by
  rw [← sq_le_one_iff₀ (norm_nonneg _), Complex.sq_norm, normSq_apply]
  norm_num [turn_re, turn_im, cosine, sine]

/-! ## Its powers -/

theorem norm_pow_sub_pow {w z : ℂ} (hw : ‖w‖ ≤ 1) (hz : ‖z‖ ≤ 1) (n : ℕ) : ‖w ^ n - z ^ n‖ ≤ n * ‖w - z‖ := by
  induction n with
  | zero => simp
  | succ n ih =>
    have hsplit : w ^ (n + 1) - z ^ (n + 1) = w ^ n * (w - z) + (w ^ n - z ^ n) * z := by ring
    calc ‖w ^ (n + 1) - z ^ (n + 1)‖
        ≤ ‖w ^ n‖ * ‖w - z‖ + ‖w ^ n - z ^ n‖ * ‖z‖ := by
          rw [hsplit, ← Complex.norm_mul, ← Complex.norm_mul]
          exact norm_add_le _ _
      _ ≤ 1 * ‖w - z‖ + n * ‖w - z‖ * 1 := by
          have hpow : ‖w ^ n‖ ≤ 1 := by
            rw [Complex.norm_pow]
            exact pow_le_one₀ (norm_nonneg _) hw
          gcongr
      _ = (n + 1 : ℕ) * ‖w - z‖ := by
          push_cast
          ring

/-- The parts of the powers, in units of powers of `2 ^ 64`. -/
def turned : ℕ → ℤ × ℤ
  | 0 => (1, 0)
  | n + 1 => (cosine * (turned n).1 - sine * (turned n).2, cosine * (turned n).2 + sine * (turned n).1)

theorem turn_pow (n : ℕ) : turn ^ n = ⟨(turned n).1 / 2 ^ (64 * n), (turned n).2 / 2 ^ (64 * n)⟩ := by
  induction n with
  | zero => simp [turned, Complex.ext_iff]
  | succ n ih =>
    rw [pow_succ', ih, Complex.ext_iff, mul_re, mul_im, turn_re, turn_im, turned, Nat.mul_succ, pow_add]
    push_cast
    constructor <;> field_simp

theorem abs_sin_sub (n : ℕ) : |Real.sin n - (turned n).2 / 2 ^ (64 * n)| ≤ n / 2 ^ 62 := by
  have hexp : exp I ^ n = exp ((n : ℝ) * I) := by
    rw [← exp_nat_mul, ofReal_natCast]
  have hnorm : ‖exp I‖ ≤ 1 := by
    rw [← one_mul I, ← ofReal_one, norm_exp_ofReal_mul_I]
  calc |Real.sin n - (turned n).2 / 2 ^ (64 * n)|
      = |(exp I ^ n - turn ^ n).im| := by rw [sub_im, turn_pow, hexp, exp_ofReal_mul_I_im]
    _ ≤ ‖exp I ^ n - turn ^ n‖ := abs_im_le_norm _
    _ ≤ n * ‖exp I - turn‖ := norm_pow_sub_pow hnorm norm_turn n
    _ ≤ n * (1 / 2 ^ 62) := by gcongr; exact norm_exp_sub_turn
    _ = n / 2 ^ 62 := by ring

/-! ## The table -/

/-- The part of the power `turned n` keeps off the ends of the interval that `word` stands for. -/
def Encloses (n : ℕ) (word : UInt32) : Prop :=
  word.toNat * 2 ^ (64 * n) + n * 2 ^ (64 * n - 30) ≤ 2 ^ 32 * (turned n).2.natAbs ∧
    2 ^ 32 * (turned n).2.natAbs + n * 2 ^ (64 * n - 30) < (word.toNat + 1) * 2 ^ (64 * n)

instance (n : ℕ) (word : UInt32) : Decidable (Encloses n word) := inferInstanceAs (Decidable (_ ∧ _))

theorem toBitVec_of_encloses {n : ℕ} {word : UInt32} (hn : n ≠ 0) (h : Encloses n word) :
    word.toBitVec = constant n := by
  obtain ⟨hlow, hhigh⟩ := h
  have hnear := (abs_abs_sub_abs_le _ _).trans (abs_sin_sub n)
  have hrest : (0 : ℝ) < 2 ^ (64 * n - 30) := by positivity
  have hunit : (2 : ℝ) ^ (64 * n) = 2 ^ 30 * 2 ^ (64 * n - 30) := by
    rw [← pow_add]
    congr 1
    omega
  obtain ⟨q, hq⟩ : ∃ q : ℝ, ((turned n).2.natAbs : ℝ) = q * 2 ^ (64 * n) :=
    ⟨_, (div_mul_cancel₀ _ (by positivity)).symm⟩
  have hpart : |((turned n).2 : ℝ) / 2 ^ (64 * n)| = q := by
    rw [abs_div, ← Int.cast_abs, ← Int.natCast_natAbs, Int.cast_natCast, hq, abs_of_pos (by positivity : (0 : ℝ) < _)]
    exact mul_div_cancel_right₀ _ (by positivity)
  have hle : (2 : ℝ) ^ 30 * word.toNat + n ≤ 2 ^ 62 * q := by
    have h : (word.toNat : ℝ) * 2 ^ (64 * n) + n * 2 ^ (64 * n - 30) ≤ 2 ^ 32 * (turned n).2.natAbs := by
      exact_mod_cast hlow
    rw [hq, hunit] at h
    refine le_of_mul_le_mul_right ?_ hrest
    linarith
  have hlt : 2 ^ 62 * q + n < 2 ^ 30 * (word.toNat + 1 : ℝ) := by
    have h : (2 : ℝ) ^ 32 * (turned n).2.natAbs + n * 2 ^ (64 * n - 30) < (word.toNat + 1) * 2 ^ (64 * n) := by
      exact_mod_cast hhigh
    rw [hq, hunit] at h
    refine lt_of_mul_lt_mul_right ?_ hrest.le
    linarith
  rw [hpart, abs_le] at hnear
  refine (Bits.leading_eq ?_ ?_).symm <;> linarith

theorem encloses_sines : ∀ t < 64, Encloses (t + 1) (Md5.sines.getD t 0) := by
  decide +kernel

/-- `Md5.sines` holds the whole parts of `2 ^ 32` times the sines of 1 to 64. -/
theorem toBitVec_sines {t : ℕ} (ht : t < 64) : (Md5.sines.getD t 0).toBitVec = constant (t + 1) :=
  toBitVec_of_encloses (Nat.succ_ne_zero t) (encloses_sines t ht)

end SpacewalkAcquire.MessageDigest
