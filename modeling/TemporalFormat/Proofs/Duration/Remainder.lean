import Mathlib.Tactic.FieldSimp
import TemporalFormat.Proofs.Duration.UnitSets
import TemporalFormat.Proofs.Numeral.WholeNumbers

/-!
# What is left for smaller units

When a number of milliseconds is spread over units, the amount of a unit together with those of the
smaller ones is what the larger units have left over, and that is shorter than each of them. So the
amount of a unit is shorter than any larger unit, `Duration.amount_shiftTo_lt`, and all amounts but
the last are whole, `Duration.amount_shiftTo_whole`. Amounts are rational numbers here, which is the
arithmetic of durations without rounding.
-/

set_option autoImplicit false

namespace TemporalFormat

/-- Every unit has a length. -/
theorem TimeUnit.millis_pos (unit : TimeUnit) : (0 : ℚ) < unit.millis := by
  cases unit <;> norm_num [TimeUnit.millis]

namespace Duration

/-- What is left of some milliseconds after the whole amount of a unit. -/
def remainder (millis : ℚ) (unit : TimeUnit) : ℚ :=
  millis - Magnitude.truncate (millis / unit.millis) * unit.millis

/-! ## One unit -/

/-- What is left is the fraction of the amount, in milliseconds. -/
theorem remainder_eq (millis : ℚ) (unit : TimeUnit) :
    remainder millis unit =
      (millis / unit.millis - Magnitude.truncate (millis / unit.millis)) * unit.millis := by
  rw [remainder, sub_mul, div_mul_cancel₀ _ unit.millis_pos.ne']

/-- The size of what is left is that of the fraction, in milliseconds. -/
theorem abs_remainder (millis : ℚ) (unit : TimeUnit) :
    |remainder millis unit| =
      |millis / unit.millis - Magnitude.truncate (millis / unit.millis)| * unit.millis := by
  rw [remainder_eq, abs_mul, abs_of_pos unit.millis_pos]

/-- What is left is shorter than the unit. -/
theorem abs_remainder_lt (millis : ℚ) (unit : TimeUnit) : |remainder millis unit| < unit.millis := by
  rw [abs_remainder]
  calc _ < 1 * (unit.millis : ℚ) :=
        mul_lt_mul_of_pos_right (abs_sub_truncate_lt_one _) unit.millis_pos
    _ = unit.millis := one_mul _

/-- An amount of a unit is as long as the milliseconds that it comes from. -/
theorem abs_div_mul (millis : ℚ) (unit : TimeUnit) :
    |millis / unit.millis| * unit.millis = |millis| := by
  have hpos := unit.millis_pos
  rw [abs_div, abs_of_pos hpos, div_mul_cancel₀ _ hpos.ne']

/-- What is left is not longer than it was. -/
theorem abs_remainder_le (millis : ℚ) (unit : TimeUnit) : |remainder millis unit| ≤ |millis| := by
  rw [abs_remainder, ← abs_div_mul millis unit]
  exact mul_le_mul_of_nonneg_right (abs_sub_truncate_le _) unit.millis_pos.le

/-! ## All units -/

/-- The amount of the first unit is all there is, if there is no smaller one, and otherwise it has no
fraction. -/
theorem amount_spread_first (millis : ℚ) (first : TimeUnit) (smaller : List TimeUnit) :
    smaller = [] ∧ (spread millis (first :: smaller)).amount first = millis / first.millis ∨
      (spread millis (first :: smaller)).amount first =
        Magnitude.truncate (millis / first.millis) := by
  cases smaller with
  | nil => exact Or.inl ⟨rfl, amount_set_self _ _ _⟩
  | cons next smaller => exact Or.inr (amount_set_self _ _ _)

/-- The amounts of the other units come from what the first one leaves over. -/
theorem amount_spread_of_mem {first unit : TimeUnit} {smaller : List TimeUnit} (millis : ℚ)
    (h : Descending (first :: smaller)) (hunit : unit ∈ smaller) :
    (spread millis (first :: smaller)).amount unit =
      (spread (remainder millis first) smaller).amount unit := by
  have hlt := (List.pairwise_cons.mp h).1 unit hunit
  have hne : unit ≠ first := by
    rintro rfl
    exact lt_irrefl _ hlt
  cases smaller with
  | nil => cases hunit
  | cons next smaller => exact amount_set_of_ne _ _ hne

/-- A unit that is smaller than another one of the list is not the first. -/
theorem mem_of_millis_lt {first unit larger : TimeUnit} {smaller : List TimeUnit}
    (h : Descending (first :: smaller)) (hunit : unit ∈ first :: smaller)
    (hlarger : larger ∈ first :: smaller) (hlt : unit.millis < larger.millis) :
    unit ∈ smaller := by
  have hsmaller := List.pairwise_cons.mp h
  rcases List.mem_cons.mp hunit with rfl | hmem
  · rcases List.mem_cons.mp hlarger with rfl | hmem
    · exact absurd hlt (lt_irrefl _)
    · exact absurd hlt (hsmaller.1 larger hmem).asymm
  · exact hmem

/-- No amount is longer than all there is. -/
theorem amount_spread_le {units : List TimeUnit} (millis : ℚ) (h : Descending units)
    {unit : TimeUnit} (hunit : unit ∈ units) :
    |(spread millis units).amount unit| * unit.millis ≤ |millis| := by
  induction units generalizing millis with
  | nil => cases hunit
  | cons first smaller ih =>
    rcases List.mem_cons.mp hunit with rfl | hmem
    · obtain ⟨-, hamount⟩ | hamount := amount_spread_first millis unit smaller
      · rw [hamount, abs_div_mul]
      · rw [hamount, ← abs_div_mul millis unit]
        exact mul_le_mul_of_nonneg_right (abs_truncate_le _) unit.millis_pos.le
    · rw [amount_spread_of_mem millis h hmem]
      exact (ih _ (List.pairwise_cons.mp h).2 hmem).trans (abs_remainder_le millis first)

/-- An amount is shorter than each larger unit. -/
theorem amount_spread_lt {units : List TimeUnit} (millis : ℚ) (h : Descending units)
    {unit larger : TimeUnit} (hunit : unit ∈ units) (hlarger : larger ∈ units)
    (hlt : unit.millis < larger.millis) :
    |(spread millis units).amount unit| * unit.millis < larger.millis := by
  induction units generalizing millis with
  | nil => cases hunit
  | cons first smaller ih =>
    have hsmaller := (List.pairwise_cons.mp h).2
    have hmem := mem_of_millis_lt h hunit hlarger hlt
    rw [amount_spread_of_mem millis h hmem]
    -- either the larger unit is the first and leaves less than itself, or it is a smaller one too
    rcases List.mem_cons.mp hlarger with rfl | hlarger
    · exact (amount_spread_le _ hsmaller hmem).trans_lt (abs_remainder_lt millis larger)
    · exact ih _ hsmaller hmem hlarger

/-- All amounts but that of the smallest unit are whole. -/
theorem amount_spread_whole {units : List TimeUnit} (millis : ℚ) (h : Descending units)
    {unit smallest : TimeUnit} (hunit : unit ∈ units) (hsmallest : smallest ∈ units)
    (hlt : smallest.millis < unit.millis) :
    ∃ whole : ℤ, (spread millis units).amount unit = whole := by
  induction units generalizing millis with
  | nil => cases hunit
  | cons first smaller ih =>
    have hrest := mem_of_millis_lt h hsmallest hunit hlt
    rcases List.mem_cons.mp hunit with rfl | hmem
    · obtain ⟨rfl, -⟩ | hamount := amount_spread_first millis unit smaller
      · cases hrest
      · exact ⟨_, hamount⟩
    · rw [amount_spread_of_mem millis h hmem]
      exact ih _ (List.pairwise_cons.mp h).2 hmem hrest

/-! ## Shifted durations -/

section ShiftTo

variable (d : Duration ℚ) {units : List TimeUnit} {unit other : TimeUnit}
  (hunit : unit ∈ units) (hother : other ∈ units)

include hunit hother

/-- After a shift the amount of a unit is shorter than each larger unit. -/
theorem amount_shiftTo_lt (hlt : unit.millis < other.millis) :
    |(d.shiftTo units).amount unit| * unit.millis < other.millis := by
  rw [d.shiftTo_eq_spread (List.ne_nil_of_mem hunit)]
  exact amount_spread_lt _ (TimeUnit.descending_inOrder units) (TimeUnit.mem_inOrder_iff.mpr hunit)
    (TimeUnit.mem_inOrder_iff.mpr hother) hlt

/-- After a shift all amounts but that of the smallest unit are whole. -/
theorem amount_shiftTo_whole (hlt : other.millis < unit.millis) :
    ∃ whole : ℤ, (d.shiftTo units).amount unit = whole := by
  rw [d.shiftTo_eq_spread (List.ne_nil_of_mem hunit)]
  exact amount_spread_whole _ (TimeUnit.descending_inOrder units)
    (TimeUnit.mem_inOrder_iff.mpr hunit) (TimeUnit.mem_inOrder_iff.mpr hother) hlt

end ShiftTo

end Duration

end TemporalFormat
