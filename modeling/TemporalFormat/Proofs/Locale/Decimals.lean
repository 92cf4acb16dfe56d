import TemporalFormat.Locale.Basic
import TemporalFormat.Proofs.Numeral.DecimalPlaces
import TemporalFormat.Proofs.Numeral.Transcription

/-!
# Decimals

A locale writes a decimal that is rounded correctly and has no more characters than it needs: the
whole part with the digits that are asked for, no zeros at the end of the fraction, no separator
without a fraction and no sign of zero. Read again it is worth exactly the rounded number, unless
the separator could be taken for a digit or for the sign. This is `Locale.formatDecimal_rounded`.
-/

set_option autoImplicit false

namespace TemporalFormat

namespace NumberingSystem

variable (system : NumberingSystem) (separator : Char)

/-- The number that digits with a separator among them are read as. -/
def unsignedDecimal (chars : List Char) : ℚ :=
  system.natural (beforeMark separator chars) +
    system.natural (afterMark separator chars) / 10 ^ (afterMark separator chars).length

/-- The number that a decimal is read as when a sign may stand before it. -/
def decimal : List Char → ℚ
  | [] => 0
  | c :: chars =>
    if c = '-' then -system.unsignedDecimal separator chars
    else system.unsignedDecimal separator (c :: chars)

end NumberingSystem

/-- The characters of a decimal with the given digits before and after the separator. -/
def decimalChars (separator : Char) (negative : Prop) [Decidable negative]
    (whole fraction : List Char) : List Char :=
  (if negative then ['-'] else []) ++
    (whole ++ if fraction = [] then [] else separator :: fraction)

/-- The digits before and after the separator of a decimal that is worth `units` of the last of
`places` places. -/
structure DecimalDigits (system : NumberingSystem) (minDigits places : ℕ) (units : ℤ)
    (whole fraction : List Char) : Prop where
  mem_digits_of_mem_whole : ∀ c ∈ whole, c ∈ system.digits.toList
  length_whole : whole.length =
    max minDigits (max 1 (Nat.digits 10 (units.natAbs / 10 ^ places)).length)
  mem_digits_of_mem_fraction : ∀ c ∈ fraction, c ∈ system.digits.toList
  length_fraction_le : fraction.length ≤ places
  /-- There is a fraction only when the number is not whole. -/
  fraction_eq_nil_iff : fraction = [] ↔ ∃ n : ℤ, (units : ℚ) / 10 ^ places = n
  /-- The fraction has no zero at its end. -/
  last_ne_zero : ∀ c, fraction.getLast? = some c → system.digitValue c ≠ 0

/-! ## Reading decimals -/

namespace NumberingSystem

variable {system : NumberingSystem} {separator : Char}

/-- A decimal without a minus is read without a sign. -/
theorem decimal_of_notMem {chars : List Char} (h : '-' ∉ chars) :
    system.decimal separator chars = system.unsignedDecimal separator chars := by
  cases chars with
  | nil => simp [decimal, unsignedDecimal, beforeMark, afterMark, natural]
  | cons c rest =>
    rw [List.mem_cons, not_or] at h
    rw [decimal, if_neg (Ne.symm h.1)]

section Parts

variable {whole fraction : List Char}

/-- What stands before the separator is the whole part. -/
theorem beforeMark_parts (hwhole : separator ∉ whole) :
    beforeMark separator (whole ++ if fraction = [] then [] else separator :: fraction) =
      whole := by
  split
  · rw [List.append_nil, beforeMark_of_notMem hwhole]
  · exact beforeMark_append hwhole fraction

/-- What stands behind the separator is the fraction. -/
theorem afterMark_parts (hwhole : separator ∉ whole) :
    afterMark separator (whole ++ if fraction = [] then [] else separator :: fraction) =
      fraction := by
  split
  · rename_i hnil
    rw [List.append_nil, afterMark_of_notMem hwhole, hnil]
  · exact afterMark_append hwhole fraction

variable (hseparator : separator ≠ '-') (hminus : '-' ∉ whole) (hminus' : '-' ∉ fraction)

include hseparator hminus hminus'

/-- Neither part of a decimal contains a minus. -/
theorem minus_notMem_parts :
    '-' ∉ whole ++ if fraction = [] then [] else separator :: fraction := by
  rw [List.mem_append, not_or]
  refine ⟨hminus, ?_⟩
  split
  · exact List.not_mem_nil
  · rw [List.mem_cons, not_or]
    exact ⟨hseparator.symm, hminus'⟩

/-- The sign stands in a decimal only if it is negative. -/
theorem minus_mem_decimalChars_iff (negative : Prop) [Decidable negative] :
    '-' ∈ decimalChars separator negative whole fraction ↔ negative := by
  have hparts := minus_notMem_parts hseparator hminus hminus'
  exact mem_ite_append_iff hparts negative

/-- The digits are read in their places, and the sign last. -/
theorem decimal_decimalChars (hwhole : separator ∉ whole) (negative : Prop) [Decidable negative] :
    system.decimal separator (decimalChars separator negative whole fraction) =
      (if negative then -1 else 1) *
        (system.natural whole + system.natural fraction / 10 ^ fraction.length) := by
  have hparts : system.unsignedDecimal separator
      (whole ++ if fraction = [] then [] else separator :: fraction) =
        system.natural whole + system.natural fraction / 10 ^ fraction.length := by
    rw [unsignedDecimal, beforeMark_parts hwhole, afterMark_parts hwhole]
  rw [decimalChars]
  split
  · rw [List.singleton_append, decimal, if_pos rfl, hparts, neg_one_mul]
  · rw [List.nil_append, decimal_of_notMem (minus_notMem_parts hseparator hminus hminus'), hparts,
      one_mul]

end Parts

end NumberingSystem

/-! ## Writing decimals -/

namespace Locale

variable (loc : Locale) (minDigits places : ℕ) (q : ℚ)

/-- The digits that are written before the separator. -/
def wholeDigits : List Char :=
  loc.numberingSystem.transcribe (paddedDigits minDigits (unitsOf places q / 10 ^ places))

/-- The digits that are written after the separator. -/
def fractionalDigits : List Char :=
  loc.numberingSystem.transcribe (fractionDigits places (unitsOf places q % 10 ^ places))

/-- The separator is transcribed with the digits. -/
theorem toList_formatDecimal :
    (loc.formatDecimal minDigits places (.finite q)).toList =
      decimalChars (loc.numberingSystem.transcribeChar loc.data.decimalSeparator)
        (signedUnits places q < 0) (loc.wholeDigits minDigits places q)
        (loc.fractionalDigits places q) := by
  have hsign : loc.numberingSystem.transcribe
      (if decide (q.num < 0 ∧ unitsOf places q ≠ 0) = true then ['-'] else []) =
        if signedUnits places q < 0 then ['-'] else [] := by
    simp only [decide_eq_true_eq, signedUnits_neg_iff, Rat.num_neg]
    split <;> rfl
  have hfraction : ∀ fraction : List Char, loc.numberingSystem.transcribe
      (if fraction.isEmpty = true then [] else loc.data.decimalSeparator :: fraction) =
        if loc.numberingSystem.transcribe fraction = [] then []
        else loc.numberingSystem.transcribeChar loc.data.decimalSeparator ::
          loc.numberingSystem.transcribe fraction := by
    intro fraction
    cases fraction <;> rfl
  rw [formatDecimal, String.toList_ofList, Reading.toDecimal, DecimalParts.chars,
    NumberingSystem.transcribe_append, NumberingSystem.transcribe_append, hsign, hfraction,
    List.append_assoc]
  rfl

/-- What is written for a magnitude has the digits of its rounded units. -/
theorem decimalDigits_written :
    DecimalDigits loc.numberingSystem minDigits places (signedUnits places q)
      (loc.wholeDigits minDigits places q) (loc.fractionalDigits places q) where
  mem_digits_of_mem_whole _ :=
    loc.numberingSystem.mem_digits_of_mem_transcribe fun _ => isDigit_of_mem_paddedDigits
  length_whole := by
    rw [wholeDigits, NumberingSystem.length_transcribe, length_paddedDigits, length_toDigits_eq,
      natAbs_signedUnits]
  mem_digits_of_mem_fraction _ :=
    loc.numberingSystem.mem_digits_of_mem_transcribe fun _ => isDigit_of_mem_fractionDigits
  length_fraction_le := by
    rw [fractionalDigits, NumberingSystem.length_transcribe]
    exact length_fractionDigits_le (Nat.mod_lt _ (by positivity))
  fraction_eq_nil_iff := by
    rw [signedUnits_div_eq_intCast_iff, fractionalDigits, NumberingSystem.transcribe,
      List.map_eq_nil_iff, fractionDigits_eq_nil_iff]
  last_ne_zero c hc := by
    rw [fractionalDigits, NumberingSystem.transcribe, List.getLast?_map,
      Option.map_eq_some_iff] at hc
    obtain ⟨d, hd, rfl⟩ := hc
    have hdigit : d.isDigit = true :=
      isDigit_of_mem_fractionDigits (List.mem_of_getLast? hd)
    rw [NumberingSystem.digitValue_transcribeChar _ hdigit]
    intro hzero
    have hrange := Char.isDigit_iff_toNat.mp hdigit
    exact ne_zero_of_getLast? hd (Char.toNat_inj.mp (by omega))

/-- The whole part reads as the whole number of units. -/
theorem natural_wholeDigits :
    loc.numberingSystem.natural (loc.wholeDigits minDigits places q) =
      unitsOf places q / 10 ^ places := by
  rw [wholeDigits, NumberingSystem.natural_transcribe _ fun _ => isDigit_of_mem_paddedDigits,
    ofDigitChars_paddedDigits]

/-- The fraction reads as the units that are left over. -/
theorem natural_fractionalDigits :
    (loc.numberingSystem.natural (loc.fractionalDigits places q) : ℚ) /
        10 ^ (loc.fractionalDigits places q).length =
      (unitsOf places q % 10 ^ places : ℕ) / 10 ^ places := by
  rw [fractionalDigits, NumberingSystem.natural_transcribe _ fun _ => isDigit_of_mem_fractionDigits,
    NumberingSystem.length_transcribe, ofDigitChars_fractionDigits (Nat.mod_lt _ (by positivity))]

/-- The digits before and after the separator are worth the units together. -/
theorem natural_wholeDigits_add :
    (loc.numberingSystem.natural (loc.wholeDigits minDigits places q) +
        loc.numberingSystem.natural (loc.fractionalDigits places q) /
          10 ^ (loc.fractionalDigits places q).length : ℚ) =
      unitsOf places q / 10 ^ places := by
  have hunits : (unitsOf places q : ℚ) = 10 ^ places * (unitsOf places q / 10 ^ places : ℕ) +
      (unitsOf places q % 10 ^ places : ℕ) := by
    exact_mod_cast (Nat.div_add_mod _ _).symm
  rw [natural_wholeDigits, natural_fractionalDigits, hunits, add_div,
    mul_div_cancel_left₀ _ (by positivity)]

/-- **Decimals are rounded correctly and written canonically.** A locale whose separator is neither
the sign nor a digit writes a magnitude as the nearest number with `places` decimal places, half way
the even one. The text is worth exactly that number, it has only the digits that the number needs or
that are asked for, and the sign stands in it only if the number is negative. -/
theorem formatDecimal_rounded {α : Type} [Magnitude α] {value : α} {q : ℚ}
    (hvalue : Magnitude.reading value = .finite q) (hminus : loc.data.decimalSeparator ≠ '-')
    (hascii : loc.data.decimalSeparator.isDigit = false)
    (hdigit : loc.data.decimalSeparator ∉ loc.numberingSystem.digits.toList) :
    let chars := (loc.formatDecimal minDigits places (Magnitude.reading value)).toList
    ∃ units : ℤ, (∀ other, NearestUnits places q other ↔ other = units) ∧
      (∃ whole fraction,
        chars = decimalChars loc.data.decimalSeparator (units < 0) whole fraction ∧
        DecimalDigits loc.numberingSystem minDigits places units whole fraction) ∧
      loc.numberingSystem.decimal loc.data.decimalSeparator chars = units / 10 ^ places ∧
      ('-' ∈ chars ↔ units < 0) := by
  intro chars
  have hseparator : loc.numberingSystem.transcribeChar loc.data.decimalSeparator =
      loc.data.decimalSeparator :=
    loc.numberingSystem.transcribeChar_eq_self hascii
  have hchars : chars = decimalChars loc.data.decimalSeparator (signedUnits places q < 0)
      (loc.wholeDigits minDigits places q) (loc.fractionalDigits places q) := by
    have hlist := loc.toList_formatDecimal minDigits places q
    rwa [hseparator, ← hvalue] at hlist
  have hdigits := loc.decimalDigits_written minDigits places q
  have hwhole : loc.data.decimalSeparator ∉ loc.wholeDigits minDigits places q :=
    fun h => hdigit (hdigits.mem_digits_of_mem_whole _ h)
  have hminus' : '-' ∉ loc.wholeDigits minDigits places q :=
    fun h => loc.numberingSystem.minus_notMem_digits (hdigits.mem_digits_of_mem_whole _ h)
  have hminus'' : '-' ∉ loc.fractionalDigits places q :=
    fun h => loc.numberingSystem.minus_notMem_digits (hdigits.mem_digits_of_mem_fraction _ h)
  have hnearest := nearestUnits_signedUnits places q
  refine ⟨signedUnits places q, ?_, ⟨_, _, hchars, hdigits⟩, ?_, ?_⟩
  · intro other
    exact ⟨fun h => h.unique hnearest, fun h => h ▸ hnearest⟩
  · rw [hchars, NumberingSystem.decimal_decimalChars hminus hminus' hminus'' hwhole,
      natural_wholeDigits_add, sign_mul_unitsOf_div]
  · rw [hchars, NumberingSystem.minus_mem_decimalChars_iff hminus hminus' hminus'']

/-- Half way to the even digit, with a separator of its own and no zero at the end. -/
theorem formatDecimal_rounded_arabic :
    let loc : Locale := { Locale.russian with numberingSystem := .arab }
    let value : Float := -0.0625
    Magnitude.reading value = .finite (-1 / 16) ∧ loc.data.decimalSeparator ≠ '-' ∧
      loc.data.decimalSeparator.isDigit = false ∧
      loc.data.decimalSeparator ∉ loc.numberingSystem.digits.toList ∧
      loc.formatDecimal 2 3 (Magnitude.reading value) = "-٠٠,٠٦٢" ∧
      NearestUnits 3 (-1 / 16) (-62) ∧
      loc.numberingSystem.decimal ',' "-٠٠,٠٦٢".toList = -62 / 1000 := by
  intro loc value
  have hvalue : Magnitude.reading value = .finite (-1 / 16) := by decide +kernel
  have hminus : loc.data.decimalSeparator ≠ '-' := by decide
  have hdigit : loc.data.decimalSeparator ∉ loc.numberingSystem.digits.toList := by decide
  have htext : loc.formatDecimal 2 3 (Magnitude.reading value) = "-٠٠,٠٦٢" := by
    rw [hvalue]
    decide +kernel
  obtain ⟨units, hnearest, -, hdecimal, -⟩ :=
    loc.formatDecimal_rounded 2 3 hvalue hminus rfl hdigit
  have hunits : -62 = units := by
    refine (hnearest (-62)).mp ⟨?_, fun _ => by decide⟩
    norm_num [abs_le]
  subst hunits
  refine ⟨hvalue, hminus, rfl, hdigit, htext, (hnearest _).mpr rfl, ?_⟩
  rw [htext] at hdecimal
  exact hdecimal.trans (by norm_num)

end Locale

end TemporalFormat
