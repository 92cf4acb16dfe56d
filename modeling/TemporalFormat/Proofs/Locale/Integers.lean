import TemporalFormat.Locale.Basic
import TemporalFormat.Proofs.Numeral.DecimalPlaces
import TemporalFormat.Proofs.Numeral.Transcription

/-!
# Integers

A locale writes an integer as a sign, if it is negative, and a row of digits. Writing and reading
undo each other: a row of digits is the numeral of the number that it is read as. So a text of the
right form and width is the only one for its integer, and two texts are the same only for the same
integer in the same width. This is `Locale.formatNumber_faithful`.
-/

set_option autoImplicit false

namespace TemporalFormat

/-- The digits of an integer without its sign: as many as the number has or as are asked for. -/
structure IntegerDigits (system : NumberingSystem) (minDigits : ℕ) (value : ℤ)
    (digits : List Char) : Prop where
  mem_digits : ∀ c ∈ digits, c ∈ system.digits.toList
  length_eq : digits.length = max minDigits (max 1 (Nat.digits 10 value.natAbs).length)
  natural_eq : system.natural digits = value.natAbs

namespace NumberingSystem

variable (system : NumberingSystem)

/-! ## Writing what was read -/

/-- No digits read as zero. -/
theorem natural_nil : system.natural [] = 0 := rfl

/-- A digit more is read as the last one. -/
theorem natural_concat (digits : List Char) (c : Char) :
    system.natural (digits ++ [c]) = 10 * system.natural digits + system.digitValue c := by
  rw [natural, List.foldl_concat]
  rfl

/-- A digit has a value below ten. -/
theorem digitValue_lt {c : Char} (h : c ∈ system.digits.toList) : system.digitValue c < 10 := by
  have hlt := List.idxOf_lt_length_iff.mpr h
  rwa [Vector.length_toList] at hlt

/-- A digit is what the ASCII digit of its value is replaced by. -/
theorem transcribeChar_digitChar {c : Char} (h : c ∈ system.digits.toList) :
    system.transcribeChar (system.digitValue c).digitChar = c := by
  have hdigits : ∀ value < 10, value.digitChar.isDigit = true ∧
      value.digitChar.toNat - '0'.toNat = value := by
    decide
  obtain ⟨hdigit, hvalue⟩ := hdigits _ (system.digitValue_lt h)
  obtain ⟨hlt, hchar⟩ := system.transcribeChar_eq_getElem hdigit
  rw [hchar]
  simp only [hvalue]
  exact List.getElem_idxOf _

/-- **Writing undoes reading.** A row of digits is the numeral of the number that it is read as, in
the width of the row. -/
theorem transcribe_paddedDigits_natural {digits : List Char} (hne : digits ≠ [])
    (h : ∀ c ∈ digits, c ∈ system.digits.toList) :
    system.transcribe (paddedDigits digits.length (system.natural digits)) = digits := by
  induction digits using List.reverseRecOn with
  | nil => exact absurd rfl hne
  | append_singleton tens c ih =>
    have hc : c ∈ system.digits.toList := h c (by simp)
    have htens : ∀ c ∈ tens, c ∈ system.digits.toList := fun c hc => h c (List.mem_append_left _ hc)
    have hvalue := system.digitValue_lt hc
    have hlast : system.transcribe [(system.digitValue c).digitChar] = [c] := by
      rw [transcribe, List.map_singleton, system.transcribeChar_digitChar hc]
    rw [natural_concat, List.length_append, List.length_singleton]
    -- one digit has no tens before it, and there is no row of no digits for it to go on from
    rcases eq_or_ne tens [] with rfl | hrest
    · rw [List.length_nil, Nat.zero_add, natural_nil, Nat.mul_zero, Nat.zero_add,
        paddedDigits_one hvalue, hlast, List.nil_append]
    · have hdiv : (10 * system.natural tens + system.digitValue c) / 10 = system.natural tens := by
        omega
      have hmod : (10 * system.natural tens + system.digitValue c) % 10 = system.digitValue c := by
        omega
      rw [paddedDigits_succ (List.length_pos_iff.mpr hrest), hdiv, hmod, transcribe_append,
        ih hrest htens, hlast]

/-- The sign is no digit, so it is there only if it is written as the sign. -/
theorem minus_mem_signedNumeral_iff (minDigits : ℕ) (value : ℤ) :
    '-' ∈ (system.signedNumeral minDigits value).toList ↔ value < 0 := by
  have hminus := system.minus_notMem_numeral minDigits value.natAbs
  rw [toList_signedNumeral]
  exact mem_ite_append_iff hminus (value < 0)

end NumberingSystem

/-! ## The only digits of an integer -/

namespace IntegerDigits

variable {system : NumberingSystem} {minDigits : ℕ} {value : ℤ}

/-- A numeral has the digits of its integer. -/
theorem numeral (system : NumberingSystem) (minDigits : ℕ) (value : ℤ) :
    IntegerDigits system minDigits value (system.numeral minDigits value.natAbs).toList where
  mem_digits _ := system.mem_digits_of_mem_numeral
  length_eq := by
    rw [NumberingSystem.toList_numeral, NumberingSystem.length_transcribe, length_paddedDigits,
      length_toDigits_eq]
  natural_eq := system.natural_numeral minDigits value.natAbs

/-- Only the numeral has the digits of an integer. -/
theorem eq_numeral {digits : List Char} (h : IntegerDigits system minDigits value digits) :
    digits = (system.numeral minDigits value.natAbs).toList := by
  have hwidth : max digits.length (Nat.toDigits 10 value.natAbs).length =
      max minDigits (Nat.toDigits 10 value.natAbs).length := by
    rw [h.length_eq, length_toDigits_eq]
    omega
  have hne : digits ≠ [] := by
    rw [← List.length_pos_iff, h.length_eq]
    omega
  calc digits = system.transcribe (paddedDigits digits.length (system.natural digits)) :=
        (system.transcribe_paddedDigits_natural hne h.mem_digits).symm
    _ = system.transcribe (paddedDigits minDigits value.natAbs) := by
        rw [h.natural_eq, paddedDigits_congr hwidth]
    _ = (system.numeral minDigits value.natAbs).toList := (system.toList_numeral _ _).symm

end IntegerDigits

namespace Locale

variable (loc : Locale) (minDigits : ℕ) (value : ℤ)

/-- **Integers are written faithfully.** The text of an integer is a sign, if and only if the
integer is negative, and then digits of the numbering system, as many as the size of the integer has
or as are asked for, that are read as this size. No other text is like this, the text is read as the
integer, and with the same digits only the same integer in the same width has the same text. -/
theorem formatNumber_faithful :
    (∀ text : String, text = loc.formatNumber minDigits value ↔
      ∃ digits, text.toList = (if value < 0 then ['-'] else []) ++ digits ∧
        IntegerDigits loc.numberingSystem minDigits value digits) ∧
    ('-' ∈ (loc.formatNumber minDigits value).toList ↔ value < 0) ∧
    loc.numberingSystem.integer (loc.formatNumber minDigits value).toList = value ∧
    ∀ (other : Locale) (minDigits' : ℕ) (value' : ℤ),
      loc.formatNumber minDigits value =
          { other with numberingSystem := loc.numberingSystem }.formatNumber minDigits' value' ↔
        value = value' ∧
          max minDigits (max 1 (Nat.digits 10 value.natAbs).length) =
            max minDigits' (max 1 (Nat.digits 10 value.natAbs).length) := by
  refine ⟨?_, loc.numberingSystem.minus_mem_signedNumeral_iff minDigits value,
    loc.numberingSystem.integer_signedNumeral minDigits value, ?_⟩
  · intro text
    rw [← String.toList_inj, formatNumber, NumberingSystem.toList_signedNumeral]
    constructor
    · intro htext
      exact ⟨_, htext, .numeral _ _ _⟩
    · rintro ⟨digits, htext, hdigits⟩
      rw [htext, hdigits.eq_numeral]
  · intro other minDigits' value'
    rw [← length_toDigits_eq]
    exact loc.numberingSystem.signedNumeral_eq_iff

example : { english with numberingSystem := .arab }.formatNumber 3 (-7) = "-٠٠٧" := by
  decide +kernel

end Locale

end TemporalFormat
