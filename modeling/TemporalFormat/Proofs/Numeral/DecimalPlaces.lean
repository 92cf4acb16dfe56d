import Mathlib.Algebra.Order.Ring.Abs
import Mathlib.Data.List.DropRight
import Mathlib.Data.Nat.Digits.Lemmas
import TemporalFormat.Proofs.Numeral.Decoding
import TemporalFormat.Proofs.Numeral.WholeNumbers

/-!
# Decimal places

A rational is rounded to a number of decimal places by taking the nearest whole number of units of
the last place, and half way the even one. This number is the only one, `NearestUnits.unique`, and
it is what `unitsOf` finds up to the sign, `nearestUnits_signedUnits`. Without the zeros at their
end the digits of a fraction are worth the same, `ofDigitChars_fractionDigits`.
-/

set_option autoImplicit false

namespace TemporalFormat

/-! ## Rounding to the even number -/

/-- A number of units of the last decimal place is the nearest to a rational, and half way between
two of them it is the even one. -/
structure NearestUnits (places : ℕ) (q : ℚ) (units : ℤ) : Prop where
  near : |q * 10 ^ places - units| ≤ 1 / 2
  even_of_half : |q * 10 ^ places - units| = 1 / 2 → Even units

/-- No two numbers of units are the nearest. -/
theorem NearestUnits.unique {places : ℕ} {q : ℚ} {units units' : ℤ}
    (h : NearestUnits places q units) (h' : NearestUnits places q units') : units = units' := by
  by_contra hne
  have hapart : (1 : ℚ) ≤ |(units : ℚ) - units'| := by
    have hpos : 0 < |units - units'| := abs_pos.mpr (sub_ne_zero.mpr hne)
    exact_mod_cast hpos
  have hsum : |(units : ℚ) - units'| ≤
      |q * 10 ^ places - units| + |q * 10 ^ places - units'| := by
    rw [abs_sub_comm (q * 10 ^ places) (units : ℚ)]
    exact abs_sub_le _ _ _
  have hnear := h.near
  have hnear' := h'.near
  -- both are half a unit away, on either side, so one of them would have to be odd
  have heven := h.even_of_half (by linarith)
  have heven' := h'.even_of_half (by linarith)
  have hone : |units - units'| = 1 := by
    have hle : |(units : ℚ) - units'| ≤ 1 := by linarith
    exact_mod_cast le_antisymm hle hapart
  have hdifference : Even |units - units'| := even_abs.mpr (heven.sub heven')
  rw [hone] at hdifference
  exact absurd hdifference (by decide)

/-- Half way between two whole numbers the even one is taken. -/
theorem even_roundQuotient_of_half {num den : ℕ} (h : 2 * (num % den) = den) :
    Even (roundQuotient .toEven num den) := by
  have hround : roundQuotient .toEven num den =
      if num / den % 2 = 1 then num / den + 1 else num / den := by
    simp [roundQuotient, h, Tie.roundsUp]
  rw [hround, Nat.even_iff]
  split <;> omega

/-- The quotient is half way when the rounded one is half a unit away. -/
theorem two_mul_mod_eq_of_half {num den : ℕ} (hpos : 0 < den) (tie : Tie)
    (h : 2 * num = 2 * (den * roundQuotient tie num den) + den ∨
      2 * num + den = 2 * (den * roundQuotient tie num den)) : 2 * (num % den) = den := by
  have hdiv := Nat.div_add_mod num den
  have hmod := Nat.mod_lt num hpos
  obtain ⟨hround, -⟩ | ⟨hround, -⟩ := roundQuotient_cases tie num den
  · rw [hround] at h
    omega
  · rw [hround, Nat.mul_add_one] at h
    omega

/-- The distance of a quotient from a whole number is that of their numerators. -/
theorem abs_div_sub_eq (num whole : ℕ) {den : ℕ} (hpos : 0 < den) :
    |(num : ℚ) / den - whole| = (((num : ℤ) - den * whole).natAbs : ℚ) / den := by
  have hden : (den : ℚ) ≠ 0 := Nat.cast_ne_zero.mpr hpos.ne'
  have hdifference : (num : ℚ) / den - whole = ((num - den * whole : ℤ) : ℚ) / den := by
    push_cast
    field_simp
  rw [hdifference, abs_div, Nat.abs_cast, Nat.cast_natAbs, Int.cast_abs]

/-- A rounded quotient is at most one half away, whatever the rule for ties. -/
theorem abs_div_sub_roundQuotient_le (tie : Tie) (num : ℕ) {den : ℕ} (hpos : 0 < den) :
    |(num : ℚ) / den - roundQuotient tie num den| ≤ 1 / 2 := by
  obtain ⟨hlow, hhigh⟩ := roundQuotient_near tie num hpos
  have hnear : 2 * ((num : ℤ) - den * roundQuotient tie num den).natAbs ≤ den := by
    omega
  rw [abs_div_sub_eq num _ hpos, div_le_iff₀ (Nat.cast_pos.mpr hpos)]
  have : (2 * ((num : ℤ) - den * roundQuotient tie num den).natAbs : ℚ) ≤ den := by
    exact_mod_cast hnear
  linarith

/-- A quotient half way between two whole numbers is rounded to the even one. -/
theorem even_roundQuotient_toEven {num den : ℕ} (hpos : 0 < den)
    (h : |(num : ℚ) / den - roundQuotient .toEven num den| = 1 / 2) :
    Even (roundQuotient .toEven num den) := by
  rw [abs_div_sub_eq num _ hpos, div_eq_div_iff (Nat.cast_ne_zero.mpr hpos.ne') two_ne_zero] at h
  have hhalf : ((num : ℤ) - den * roundQuotient .toEven num den).natAbs * 2 = 1 * den := by
    exact_mod_cast h
  exact even_roundQuotient_of_half (two_mul_mod_eq_of_half hpos .toEven (by omega))

/-! ## Units of the last place -/

/-- The units of the last place with the sign of the rational. -/
def signedUnits (places : ℕ) (q : ℚ) : ℤ :=
  if q < 0 then -(unitsOf places q : ℤ) else unitsOf places q

/-- The units with a sign are as many as the units without it. -/
theorem natAbs_signedUnits (places : ℕ) (q : ℚ) :
    (signedUnits places q).natAbs = unitsOf places q := by
  unfold signedUnits
  split
  · rw [Int.natAbs_neg, Int.natAbs_natCast]
  · exact Int.natAbs_natCast _

/-- What rounds to no units has no sign. -/
theorem signedUnits_neg_iff (places : ℕ) (q : ℚ) :
    signedUnits places q < 0 ↔ q < 0 ∧ unitsOf places q ≠ 0 := by
  unfold signedUnits
  split
  · rename_i hneg
    rw [and_iff_right hneg]
    omega
  · rename_i hneg
    exact iff_of_false (by omega) fun h => hneg h.1

/-- The units are a quotient of the magnitude and its denominator, rounded. -/
theorem unitsOf_eq (places : ℕ) (q : ℚ) :
    unitsOf places q = roundQuotient .toEven (q.num.natAbs * 10 ^ places) q.den := rfl

/-- The distance of a rational from its units is that of their sizes. -/
theorem abs_sub_signedUnits (places : ℕ) (q : ℚ) :
    |q * 10 ^ places - signedUnits places q| =
      |((q.num.natAbs * 10 ^ places : ℕ) : ℚ) / q.den - unitsOf places q| := by
  have hsize : ((q.num.natAbs * 10 ^ places : ℕ) : ℚ) / q.den = |q| * 10 ^ places := by
    rw [abs_eq_natAbs_div]
    push_cast
    rw [div_mul_eq_mul_div]
  rw [hsize, signedUnits]
  split
  · rename_i hneg
    rw [abs_of_neg hneg, ← abs_neg]
    congr 1
    push_cast
    ring
  · rename_i hnonneg
    rw [abs_of_nonneg (not_lt.mp hnonneg), Int.cast_natCast]

/-- **The units that are found are the nearest.** -/
theorem nearestUnits_signedUnits (places : ℕ) (q : ℚ) :
    NearestUnits places q (signedUnits places q) where
  near := by
    rw [abs_sub_signedUnits, unitsOf_eq]
    exact abs_div_sub_roundQuotient_le _ _ q.den_pos
  even_of_half h := by
    rw [abs_sub_signedUnits, unitsOf_eq] at h
    rw [← Int.natAbs_even, natAbs_signedUnits, unitsOf_eq]
    exact even_roundQuotient_toEven q.den_pos h

/-- A whole number has its own units, whatever the places. -/
theorem signedUnits_intCast (places : ℕ) (z : ℤ) : signedUnits places z = z * 10 ^ places := by
  refine (nearestUnits_signedUnits places z).unique ?_
  have hexact : (z : ℚ) * 10 ^ places - ((z * 10 ^ places : ℤ) : ℚ) = 0 := by
    push_cast
    exact sub_self _
  constructor
  · rw [hexact, abs_zero]
    norm_num
  · intro hhalf
    rw [hexact, abs_zero] at hhalf
    norm_num at hhalf

/-- The rounded number is whole when no units of the last place are left over. -/
theorem signedUnits_div_eq_intCast_iff (places : ℕ) (q : ℚ) :
    (∃ n : ℤ, (signedUnits places q : ℚ) / 10 ^ places = n) ↔
      unitsOf places q % 10 ^ places = 0 := by
  have hpower : ((10 ^ places : ℕ) : ℚ) ≠ 0 := by positivity
  have hdvd : unitsOf places q % 10 ^ places = 0 ↔
      ((10 ^ places : ℕ) : ℤ) ∣ signedUnits places q := by
    rw [← Nat.dvd_iff_mod_eq_zero, Int.natCast_dvd, natAbs_signedUnits]
  rw [hdvd]
  refine exists_congr fun n => ?_
  rw [← Nat.cast_ofNat, ← Nat.cast_pow, div_eq_iff hpower, mul_comm]
  exact_mod_cast Iff.rfl

/-- The sign and the number of units make up the units with a sign. -/
theorem sign_mul_unitsOf_div (places : ℕ) (q : ℚ) :
    (if signedUnits places q < 0 then -1 else 1 : ℚ) * (unitsOf places q / 10 ^ places) =
      signedUnits places q / 10 ^ places := by
  rw [← natAbs_signedUnits, Nat.cast_natAbs, Int.cast_abs]
  split
  · rename_i hneg
    rw [abs_of_neg (Int.cast_lt_zero.mpr hneg), neg_div, neg_one_mul, neg_neg]
  · rename_i hnonneg
    rw [abs_of_nonneg (Int.cast_nonneg (not_lt.mp hnonneg)), one_mul]

/-! ## Digits of the whole part -/

/-- A number has as many digits as in the positional system, and zero has one. -/
theorem length_toDigits_eq (n : ℕ) :
    (Nat.toDigits 10 n).length = max 1 (Nat.digits 10 n).length := by
  refine eq_of_forall_ge_iff fun k => ?_
  have hpos : 0 < (Nat.toDigits 10 n).length := Nat.length_toDigits_pos
  rw [max_le_iff]
  cases k with
  | zero => omega
  | succ k =>
    rw [Nat.length_toDigits_le_iff (by decide) (Nat.succ_pos k),
      Nat.digits_length_le_iff (by decide)]
    omega

/-! ## Fractions without zeros at their end -/

/-- Only zeros are dropped. -/
theorem exists_append_replicate_zero (digits : List Char) :
    ∃ count, digits = dropFinalZeros digits ++ List.replicate count '0' := by
  refine ⟨(digits.rtakeWhile (· == '0')).length, ?_⟩
  have hzeros : digits.rtakeWhile (· == '0') =
      List.replicate (digits.rtakeWhile (· == '0')).length '0' := by
    refine List.eq_replicate_of_mem ?_
    intro c hc
    exact beq_iff_eq.mp (List.mem_rtakeWhile_imp (p := (· == '0')) hc)
  rw [← hzeros]
  exact List.rdropWhile_append_rtakeWhile.symm

/-- Only digits are left when zeros are dropped. -/
theorem mem_of_mem_dropFinalZeros {digits : List Char} {c : Char} (h : c ∈ dropFinalZeros digits) :
    c ∈ digits :=
  (List.rdropWhile_prefix (· == '0') digits).subset h

/-- The last digit that is kept is no zero. -/
theorem ne_zero_of_getLast? {digits : List Char} {c : Char}
    (h : (dropFinalZeros digits).getLast? = some c) : c ≠ '0' := by
  have hne : dropFinalZeros digits ≠ [] := by
    intro hnil
    rw [hnil] at h
    cases h
  have hlast := List.rdropWhile_last_not (· == '0') digits hne
  rw [List.getLast?_eq_some_getLast hne, Option.some.injEq] at h
  intro hzero
  exact hlast (beq_iff_eq.mpr (h.trans hzero))

/-- The digits of a fraction with `places` places. -/
def fractionDigits (places n : ℕ) : List Char :=
  dropFinalZeros (paddedDigits places n)

section Fraction

variable {places n : ℕ}

/-- The digits of a fraction are digits. -/
theorem isDigit_of_mem_fractionDigits {c : Char} (h : c ∈ fractionDigits places n) :
    c.isDigit = true :=
  isDigit_of_mem_paddedDigits (mem_of_mem_dropFinalZeros h)

/-- A fraction without digits is zero. -/
theorem fractionDigits_eq_nil_iff : fractionDigits places n = [] ↔ n = 0 := by
  constructor
  · intro h
    obtain ⟨count, hzeros⟩ := exists_append_replicate_zero (paddedDigits places n)
    have hvalue := ofDigitChars_paddedDigits places n
    rw [hzeros, ← fractionDigits, h, List.nil_append, Nat.ofDigitChars_replicate_zero,
      Nat.mul_zero] at hvalue
    exact hvalue.symm
  · rintro rfl
    refine List.rdropWhile_eq_nil_iff.mpr ?_
    intro c hc
    rw [paddedDigits, List.leftpad, Nat.toDigits_zero, List.mem_append, List.mem_singleton] at hc
    rcases hc with hc | rfl
    · rw [List.eq_of_mem_replicate hc]
      rfl
    · rfl

/-- The digits of a fraction are as many as its places before zeros are dropped. -/
theorem length_paddedDigits_of_fraction (hn : n < 10 ^ places) (hpos : n ≠ 0) :
    (paddedDigits places n).length = places := by
  refine length_paddedDigits_of_lt (Nat.pos_of_ne_zero ?_) hn
  rintro rfl
  exact hpos (Nat.lt_one_iff.mp hn)

/-- A fraction has at most as many digits as places. -/
theorem length_fractionDigits_le (h : n < 10 ^ places) :
    (fractionDigits places n).length ≤ places := by
  by_cases hzero : n = 0
  · rw [fractionDigits_eq_nil_iff.mpr hzero]
    exact Nat.zero_le _
  · calc (fractionDigits places n).length ≤ (paddedDigits places n).length :=
          (List.rdropWhile_prefix (· == '0') _).length_le
      _ = places := length_paddedDigits_of_fraction h hzero

/-- The digits of a fraction are worth as many units of the last place as they stand for. -/
theorem ofDigitChars_fractionDigits (h : n < 10 ^ places) :
    (Nat.ofDigitChars 10 (fractionDigits places n) 0 : ℚ) / 10 ^ (fractionDigits places n).length =
      n / 10 ^ places := by
  by_cases hzero : n = 0
  · rw [fractionDigits_eq_nil_iff.mpr hzero, hzero]
    simp
  · obtain ⟨count, hdigits⟩ := exists_append_replicate_zero (paddedDigits places n)
    have hvalue := ofDigitChars_paddedDigits places n
    have hlength := length_paddedDigits_of_fraction h hzero
    rw [← fractionDigits] at hdigits
    rw [hdigits, Nat.ofDigitChars_append, Nat.ofDigitChars_replicate_zero] at hvalue
    rw [hdigits, List.length_append, List.length_replicate] at hlength
    have hunits : (n : ℚ) = 10 ^ count * Nat.ofDigitChars 10 (fractionDigits places n) 0 := by
      exact_mod_cast hvalue.symm
    have hplaces : (10 : ℚ) ^ places = 10 ^ count * 10 ^ (fractionDigits places n).length := by
      rw [← pow_add, Nat.add_comm, hlength]
    rw [hunits, hplaces, mul_div_mul_left _ _ (pow_ne_zero count (by norm_num))]

end Fraction

end TemporalFormat
