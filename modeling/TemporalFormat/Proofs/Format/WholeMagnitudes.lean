import TemporalFormat.Format.DateTime
import TemporalFormat.Proofs.Locale.Decimals

/-!
# Whole magnitudes

A magnitude is written as the nearest whole number or as a decimal. One that is whole already is
written in the same way by both, with the digits and the sign of the integer that it is. The way
over whole numbers has 64 bits, and the two part where these end:
`Formatter.whole_magnitude_written`.
-/

set_option autoImplicit false

namespace TemporalFormat

namespace Locale

variable (loc : Locale) (minDigits places : ℕ) (z : ℤ)

/-- The whole part of an integer has its digits. -/
theorem wholeDigits_intCast :
    loc.wholeDigits minDigits places z =
      (loc.numberingSystem.numeral minDigits z.natAbs).toList := by
  have hunits : unitsOf places z = z.natAbs * 10 ^ places := by
    rw [← natAbs_signedUnits, signedUnits_intCast, Int.natAbs_mul, Int.natAbs_pow]
    rfl
  rw [wholeDigits, hunits, Nat.mul_div_cancel _ (by positivity), NumberingSystem.toList_numeral]

/-- An integer has no fraction. -/
theorem fractionalDigits_intCast : loc.fractionalDigits places z = [] := by
  refine (loc.decimalDigits_written 0 places z).fraction_eq_nil_iff.mpr ⟨z, ?_⟩
  rw [signedUnits_intCast, Int.cast_mul, Int.cast_pow]
  exact mul_div_cancel_right₀ _ (by positivity)

/-- A whole number has the same decimal for any number of places, which is its numeral. -/
theorem formatDecimal_intCast :
    loc.formatDecimal minDigits places (.finite z) = loc.formatNumber minDigits z := by
  have hneg : signedUnits places z < 0 ↔ z < 0 := by
    rw [signedUnits_intCast]
    exact lt_iff_lt_of_le_iff_le (mul_nonneg_iff_of_pos_right (by positivity))
  refine String.toList_injective ?_
  rw [toList_formatDecimal, wholeDigits_intCast, fractionalDigits_intCast, decimalChars, if_pos rfl,
    List.append_nil, formatNumber, NumberingSystem.toList_signedNumeral]
  simp only [hneg]

end Locale

/-- A whole number is kept as far as 64 bits reach. -/
theorem toWhole_intCast_eq_iff (z : ℤ) :
    (Reading.finite z).toWhole = z ↔ -2 ^ 63 ≤ z ∧ z < 2 ^ 63 := by
  have hlimit : (2 : ℤ) ^ 63 = Reading.wholeLimit := rfl
  rw [Reading.toWhole, nearestInt_intCast, hlimit]
  omega

namespace Formatter

/-- **Whole magnitudes are written as whole numbers.** A magnitude that is an integer has the same
text whether or not magnitudes are rounded, with any locale and any padding, if and only if the
integer has 64 bits. Without rounding the text is the numeral of any integer. -/
theorem whole_magnitude_written {α : Type} [Magnitude α] (f : Formatter) (minDigits : ℕ) {value : α}
    {z : ℤ} (hvalue : Magnitude.reading value = .finite z) :
    ({ f with round := true }.formatMagnitude minDigits value =
        { f with round := false }.formatMagnitude minDigits value ↔ -2 ^ 63 ≤ z ∧ z < 2 ^ 63) ∧
      { f with round := false }.formatMagnitude minDigits value = f.formatNumber minDigits z := by
  have hdecimal : { f with round := false }.formatMagnitude minDigits value =
      f.formatNumber minDigits z := by
    rw [formatMagnitude, hvalue]
    exact f.locale.formatDecimal_intCast minDigits 3 z
  have hrounded : { f with round := true }.formatMagnitude minDigits value =
      f.formatNumber minDigits (Reading.finite z).toWhole := by
    rw [formatMagnitude, hvalue]
    rfl
  refine ⟨?_, hdecimal⟩
  rw [hdecimal, hrounded, ← toWhole_intCast_eq_iff]
  constructor
  · exact fun h => NumberingSystem.eq_of_signedNumeral_eq _ h
  · exact fun h => congrArg _ h

/-- The lowest number of 64 bits has a place in both ways, and zero has no sign in either. -/
theorem whole_magnitude_written_lowest :
    let f : Formatter := { locale := { Locale.russian with numberingSystem := .arab } }
    let lowest : Float := -9223372036854775808.0
    let zero : Float := -0.0
    Magnitude.reading lowest = .finite (-9223372036854775808 : ℤ) ∧
      Magnitude.reading zero = .finite (0 : ℤ) ∧
      { f with round := true }.formatMagnitude 21 lowest =
        { f with round := false }.formatMagnitude 21 lowest ∧
      { f with round := true }.formatMagnitude 2 zero =
        { f with round := false }.formatMagnitude 2 zero ∧
      { f with round := false }.formatMagnitude 21 lowest = "-٠٠٩٢٢٣٣٧٢٠٣٦٨٥٤٧٧٥٨٠٨" ∧
      { f with round := false }.formatMagnitude 2 zero = "٠٠" := by
  intro f lowest zero
  have hlowest : Magnitude.reading lowest = .finite (-9223372036854775808 : ℤ) := by
    decide +kernel
  have hzero : Magnitude.reading zero = .finite (0 : ℤ) := by decide +kernel
  obtain ⟨hagree, htext⟩ := f.whole_magnitude_written 21 hlowest
  obtain ⟨hagree', htext'⟩ := f.whole_magnitude_written 2 hzero
  refine ⟨hlowest, hzero, hagree.mpr (by decide), hagree'.mpr (by decide), ?_, ?_⟩
  · rw [htext]
    decide +kernel
  · rw [htext']
    decide +kernel

end Formatter

end TemporalFormat
