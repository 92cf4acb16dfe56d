import TemporalFormat.Proofs.Duration.Remainder
import TemporalFormat.Proofs.Format.UnitTexts

/-!
# Whole amounts of durations

When a formatter rounds, it writes a whole number for each unit that a pattern names. The exact
amount of a unit is always shorter than any larger unit, but what is written is rounded on its own:
`Formatter.formatDuration_carries` says that the number of the smallest unit can come to make up one
larger unit, exactly when the larger unit is a whole number of the smaller one and the amount is at
most one half short of it. No other number does. Only the number of the largest unit can go
beyond 64 bits, and then the outermost number that has 64 bits is written.
-/

set_option autoImplicit false

namespace TemporalFormat

namespace Duration

variable (d : Duration ℚ) (pattern : String)

/-- The exact amount of a unit that a pattern names. -/
def amountIn (unit : TimeUnit) : ℚ :=
  (d.shiftTo (unitsNamed (tokenize pattern))).amount unit

/-- The whole number that is written for a unit that a pattern names. -/
def wholeIn (unit : TimeUnit) : ℤ :=
  (Magnitude.reading (d.amountIn pattern unit)).toWhole

/-- How the amount of a unit and the number that is written for it compare with a larger unit. -/
structure CarriedInto (unit larger : TimeUnit) : Prop where
  amount_lt : |d.amountIn pattern unit| * unit.millis < larger.millis
  /-- A number this small has 64 bits. -/
  whole_eq : d.wholeIn pattern unit = nearestInt (d.amountIn pattern unit)
  whole_le : (d.wholeIn pattern unit).natAbs * unit.millis ≤ larger.millis
  whole_eq_iff : (d.wholeIn pattern unit).natAbs * unit.millis = larger.millis ↔
    unit.millis ∣ larger.millis ∧
      (larger.millis : ℚ) ≤ (|d.amountIn pattern unit| + 1 / 2) * unit.millis
  whole_lt : (∃ smaller ∈ unitsNamed (tokenize pattern), smaller.millis < unit.millis) →
    (d.wholeIn pattern unit).natAbs * unit.millis < larger.millis

end Duration

/-- What is over when a unit is counted in another one is less than half of the other one. -/
theorem TimeUnit.millis_mod_lt (unit larger : TimeUnit) :
    2 * (larger.millis % unit.millis) < unit.millis := by
  cases unit <;> cases larger <;> decide

/-! ## Rounding what is shorter than a larger unit -/

section Rounded

variable {unit larger : TimeUnit} {q : ℚ} (h : |q| * unit.millis < larger.millis)

include h

/-- To the nearest whole number it does not come to more than the larger unit. -/
theorem natAbs_nearestInt_mul_le :
    (nearestInt q).natAbs * unit.millis ≤ larger.millis := by
  have hnear := (le_natAbs_nearestInt_iff (nearestInt q).natAbs q).mp le_rfl
  have hpos := unit.millis_pos
  have hover := unit.millis_mod_lt larger
  have hdiv := Nat.div_add_mod' larger.millis unit.millis
  have hlt : (2 * (nearestInt q).natAbs * unit.millis : ℚ) < 2 * larger.millis + unit.millis := by
    nlinarith
  have hlt' : 2 * (nearestInt q).natAbs * unit.millis < 2 * larger.millis + unit.millis := by
    exact_mod_cast hlt
  have hle : (nearestInt q).natAbs ≤ larger.millis / unit.millis := by
    by_contra hgt
    have hmul := Nat.mul_le_mul_right unit.millis (Nat.lt_of_not_ge hgt)
    rw [Nat.succ_mul] at hmul
    rw [Nat.mul_assoc] at hlt'
    omega
  calc (nearestInt q).natAbs * unit.millis ≤ larger.millis / unit.millis * unit.millis :=
        Nat.mul_le_mul_right _ hle
    _ ≤ larger.millis := Nat.div_mul_le_self _ _

/-- It comes to the larger unit when that is a whole number of units at most one half away. -/
theorem natAbs_nearestInt_mul_eq_iff :
    (nearestInt q).natAbs * unit.millis = larger.millis ↔
      unit.millis ∣ larger.millis ∧ (larger.millis : ℚ) ≤ (|q| + 1 / 2) * unit.millis := by
  have hpos := unit.millis_pos
  constructor
  · intro heq
    refine ⟨Dvd.intro_left _ heq, ?_⟩
    have hnear := (le_natAbs_nearestInt_iff (nearestInt q).natAbs q).mp le_rfl
    rw [← heq, Nat.cast_mul]
    exact mul_le_mul_of_nonneg_right hnear hpos.le
  · rintro ⟨⟨count, hcount⟩, hhalf⟩
    rw [hcount, Nat.cast_mul, mul_comm] at hhalf
    have hreached : count ≤ (nearestInt q).natAbs :=
      (le_natAbs_nearestInt_iff count q).mpr (le_of_mul_le_mul_right hhalf hpos)
    apply le_antisymm (natAbs_nearestInt_mul_le h)
    rw [hcount, Nat.mul_comm unit.millis]
    exact Nat.mul_le_mul_right _ hreached

/-- The rounded number has 64 bits. -/
theorem toWhole_of_mul_lt : (Reading.finite q).toWhole = nearestInt q := by
  apply toWhole_finite
  have hle := natAbs_nearestInt_mul_le h
  have hunit : 1 ≤ unit.millis := by cases unit <;> decide
  have hlarger : larger.millis ≤ 31536000000 := by cases larger <;> decide
  have := Nat.le_mul_of_pos_right (nearestInt q).natAbs hunit
  rw [Reading.wholeLimit]
  omega

end Rounded

/-! ## What is written -/

/-- The amount of a named unit and its number compare with a larger named unit as they should. -/
theorem Duration.carriedInto (d : Duration ℚ) {pattern : String} {unit larger : TimeUnit}
    (hunit : unit ∈ unitsNamed (tokenize pattern))
    (hlarger : larger ∈ unitsNamed (tokenize pattern)) (hlt : unit.millis < larger.millis) :
    d.CarriedInto pattern unit larger := by
  have hamount : |d.amountIn pattern unit| * unit.millis < larger.millis :=
    d.amount_shiftTo_lt hunit hlarger hlt
  have hwhole : d.wholeIn pattern unit = nearestInt (d.amountIn pattern unit) :=
    toWhole_of_mul_lt hamount
  refine ⟨hamount, hwhole, ?_, ?_, ?_⟩
  · rw [hwhole]
    exact natAbs_nearestInt_mul_le hamount
  · rw [hwhole]
    exact natAbs_nearestInt_mul_eq_iff hamount
  · rintro ⟨smaller, hsmaller, hlt'⟩
    obtain ⟨whole, hexact⟩ : ∃ whole : ℤ, d.amountIn pattern unit = whole :=
      d.amount_shiftTo_whole hunit hsmaller hlt'
    rw [hwhole, hexact, nearestInt_intCast]
    rw [hexact, ← Int.cast_abs, Int.abs_eq_natAbs] at hamount
    exact_mod_cast hamount

namespace Formatter

/-- What a token says when a whole number is written for each unit. -/
def wholeText (f : Formatter) (whole : TimeUnit → ℤ) (token : String) :
    Except FormatError String :=
  match TimeUnit.ofToken? token with
  | some unit => .ok (f.formatNumber token.length (whole unit))
  | none => f.unresolved token

/-- **Rounded amounts carry up to one half.** A formatter that rounds writes a whole number for each
unit that a pattern names: the nearest one to the amount, kept within 64 bits. With the amounts
before rounding, every unit stays below every larger one, so that only the largest unit can leave
the 64 bits. The whole numbers stay below the larger unit too for each unit but the smallest; the
number of the smallest unit does not exceed the larger one, and makes it up exactly when the larger
unit is a whole number of smaller ones and the amount is at most one half short of it. -/
theorem formatDuration_carries (loc : Locale) (strict : Bool) (d : Duration ℚ) (pattern : String) :
    formatDuration ⟨loc, true, strict⟩ d pattern =
      render (wholeText ⟨loc, true, strict⟩ (d.wholeIn pattern)) (tokenize pattern) ∧
    (∀ unit, d.wholeIn pattern unit =
      max (-9223372036854775808)
        (min 9223372036854775807 (nearestInt (d.amountIn pattern unit)))) ∧
    ∀ unit ∈ unitsNamed (tokenize pattern), ∀ larger ∈ unitsNamed (tokenize pattern),
      unit.millis < larger.millis → d.CarriedInto pattern unit larger := by
  refine ⟨?_, fun _ => rfl, ?_⟩
  · rw [formatDuration_eq_render]
    rfl
  · intro unit hunit larger hlarger hlt
    exact d.carriedInto hunit hlarger hlt

/-- Half a second short of two hours: the minutes stay below an hour and the seconds make up a
minute. -/
theorem formatDuration_carries_two_hours :
    let d : Duration ℚ := Duration.zero.set .second (14399 / 2)
    formatDuration ⟨.english, true, false⟩ d "h:mm:ss" = .ok "1:59:60" ∧
      d.CarriedInto "h:mm:ss" .minute .hour ∧ d.CarriedInto "h:mm:ss" .second .minute := by
  intro d
  obtain ⟨htext, -, hcarried⟩ := formatDuration_carries .english false d "h:mm:ss"
  refine ⟨?_, ?_, ?_⟩
  · rw [htext]
    decide +kernel
  · exact hcarried .minute (by decide) .hour (by decide) (by decide)
  · exact hcarried .second (by decide) .minute (by decide) (by decide)

/-- The number of the largest unit is kept within 64 bits. -/
example :
    let d : Duration ℚ := Duration.zero.set .millisecond 10000000000000000000
    formatDuration ⟨.english, true, false⟩ d "S" = .ok "9223372036854775807" := by
  decide +kernel

/-- The number of a unit need not stay below a larger unit: half a second short of a minute is
written as no minutes and sixty seconds. -/
theorem formatDuration_sixty_seconds :
    let d : Duration ℚ := Duration.zero.set .second (119 / 2)
    formatDuration ⟨.english, true, false⟩ d "mm:ss" = .ok "00:60" ∧
      ¬ ∀ unit ∈ unitsNamed (tokenize "mm:ss"), ∀ larger ∈ unitsNamed (tokenize "mm:ss"),
        unit.millis < larger.millis →
          (d.wholeIn "mm:ss" unit).natAbs * unit.millis < larger.millis := by
  intro d
  refine ⟨by decide +kernel, ?_⟩
  intro h
  have hlt := h .second (by decide) .minute (by decide) (by decide)
  have hsixty : d.wholeIn "mm:ss" .second = 60 := by decide +kernel
  rw [hsixty] at hlt
  exact absurd hlt (by decide)

end Formatter

end TemporalFormat
