import Mathlib.Algebra.Order.Field.Basic
import Mathlib.Data.Nat.Cast.Order.Field
import Mathlib.Data.Rat.Floor
import TemporalFormat.Numeral.Magnitude

/-!
# Whole numbers near a rational

Truncation moves a rational toward zero by less than one, and rounding takes the nearest whole
number and half way the one farther from zero. The size of the rounded number is characterized by
`le_natAbs_nearestInt_iff`: it reaches `n` exactly when the rational is no more than one half short
of `n`.
-/

set_option autoImplicit false

namespace TemporalFormat

/-- The size of a rational is the quotient of the sizes of its parts. -/
theorem abs_eq_natAbs_div (q : ℚ) : |q| = (q.num.natAbs : ℚ) / q.den := by
  rw [Rat.abs_def, Rat.divInt_eq_div]
  simp

/-! ## Truncation -/

/-- Truncation divides the parts of a rational, rounding toward zero. -/
theorem truncate_eq (q : ℚ) : Magnitude.truncate q = ((q.num.tdiv q.den : ℤ) : ℚ) := rfl

/-- The size of a truncated value is the whole part of its size. -/
theorem abs_truncate (q : ℚ) : |Magnitude.truncate q| = ((q.num.natAbs / q.den : ℕ) : ℚ) := by
  rw [truncate_eq, ← Int.cast_abs, Int.abs_eq_natAbs, Int.natAbs_tdiv, Int.natAbs_natCast]
  rfl

/-- Truncation does not make a value larger. -/
theorem abs_truncate_le (q : ℚ) : |Magnitude.truncate q| ≤ |q| := by
  rw [abs_truncate, abs_eq_natAbs_div]
  exact Nat.cast_div_le

/-- What truncation takes away is the remainder of the numerator. -/
theorem abs_sub_truncate (q : ℚ) :
    |q - Magnitude.truncate q| = ((q.num.natAbs % q.den : ℕ) : ℚ) / q.den := by
  have hden : (q.den : ℚ) ≠ 0 := Nat.cast_ne_zero.mpr q.den_ne_zero
  have hsplit : q - Magnitude.truncate q = ((q.num.tmod q.den : ℤ) : ℚ) / q.den := by
    rw [truncate_eq, eq_div_iff hden, sub_mul, Rat.mul_den_eq_num, sub_eq_iff_eq_add]
    exact_mod_cast (Int.tmod_add_tdiv_mul q.num q.den).symm
  rw [hsplit, abs_div, Nat.abs_cast, ← Int.cast_abs, Int.abs_eq_natAbs, Int.natAbs_tmod,
    Int.natAbs_natCast, Int.cast_natCast]

/-- Truncation takes away less than one. -/
theorem abs_sub_truncate_lt_one (q : ℚ) : |q - Magnitude.truncate q| < 1 := by
  rw [abs_sub_truncate, div_lt_one (Nat.cast_pos.mpr q.den_pos), Nat.cast_lt]
  exact Nat.mod_lt _ q.den_pos

/-- What truncation takes away is not larger than the whole. -/
theorem abs_sub_truncate_le (q : ℚ) : |q - Magnitude.truncate q| ≤ |q| := by
  rw [abs_sub_truncate, abs_eq_natAbs_div]
  exact div_le_div_of_nonneg_right (Nat.cast_le.mpr (Nat.mod_le _ _)) (Nat.cast_nonneg _)

/-! ## Rounding -/

/-- Half way the number above is taken. -/
theorem roundQuotient_awayFromZero (num den : ℕ) :
    roundQuotient .awayFromZero num den =
      if 2 * (num % den) < den then num / den else num / den + 1 := by
  unfold roundQuotient
  simp only [Tie.roundsUp, if_true, ite_self]

/-- A rounded quotient reaches a number from one half below it on, since ties go away from zero. -/
theorem le_roundQuotient_awayFromZero_iff (n num : ℕ) {den : ℕ} (h : 0 < den) :
    n ≤ roundQuotient .awayFromZero num den ↔ 2 * (den * n) ≤ 2 * num + den := by
  have hdiv := Nat.div_add_mod num den
  have hmod := Nat.mod_lt num h
  have hle : ∀ k, n ≤ k → den * n ≤ den * k := fun k hk => Nat.mul_le_mul_left den hk
  have hlt : ∀ k, k < n → den * k + den ≤ den * n := fun k hk => Nat.mul_le_mul_left den hk
  rw [roundQuotient_awayFromZero]
  -- the number that is taken compares with `n` as their products with `den` do
  split
  · have hbelow := hle (num / den)
    have habove := hlt (num / den)
    omega
  · have hbelow := hle (num / den + 1)
    have habove := hlt (num / den + 1)
    rw [Nat.mul_add_one] at hbelow habove
    omega

/-- The size of the nearest whole number is the rounded quotient of the sizes. -/
theorem natAbs_nearestInt (q : ℚ) :
    (nearestInt q).natAbs = roundQuotient .awayFromZero q.num.natAbs q.den := by
  rw [nearestInt, Int.natAbs_mul, Int.natAbs_natCast, Int.natAbs_sign]
  split
  · rename_i hzero
    simp [hzero, roundQuotient_awayFromZero, q.den_pos]
  · rw [Nat.one_mul]

/-- A whole number is reached from one half below it on. -/
theorem le_natAbs_nearestInt_iff (n : ℕ) (q : ℚ) :
    n ≤ (nearestInt q).natAbs ↔ (n : ℚ) ≤ |q| + 1 / 2 := by
  have hden : (0 : ℚ) < 2 * q.den := by
    have := q.den_pos
    positivity
  have hsum : |q| + 1 / 2 = (2 * q.num.natAbs + q.den : ℕ) / (2 * q.den) := by
    rw [abs_eq_natAbs_div]
    push_cast
    field_simp
  rw [natAbs_nearestInt, le_roundQuotient_awayFromZero_iff _ _ q.den_pos, hsum, le_div_iff₀ hden]
  norm_cast
  rw [Nat.mul_comm q.den, Nat.mul_left_comm]

/-- A whole number is kept. -/
theorem nearestInt_intCast (z : ℤ) : nearestInt (z : ℚ) = z := by
  rw [nearestInt, Rat.num_intCast, Rat.den_intCast, roundQuotient_awayFromZero]
  simp [Nat.mod_one, Int.sign_mul_abs]

/-- A rational is written as the nearest whole number as long as that has 64 bits. -/
theorem toWhole_finite {q : ℚ} (h : (nearestInt q).natAbs < Reading.wholeLimit) :
    (Reading.finite q).toWhole = nearestInt q := by
  rw [Reading.toWhole]
  omega

end TemporalFormat
