import TemporalFormat.Calendar.Gregorian
import TemporalFormat.Proofs.Calendar.DayNumber

/-!
# The week of a date

A week belongs to the year in which its Thursday lies, and it is counted among the Thursdays of
that year: `YearWeek.IsWeekOf`. The week that is found from the ordinal and the weekday of a valid
date is this one, `Date.Valid.isWeekOf_weekByOrdinal`. What the two have in common is the weekday
on which years begin, which `weeksInYear_eq` brings into the number of weeks of a year.
-/

set_option autoImplicit false

namespace TemporalFormat

/-- A week of a year is the week of a date when the Thursday of the date's week lies in that year,
and it has as number the count of the Thursdays from the beginning of the year to this one. -/
structure YearWeek.IsWeekOf (w : YearWeek) (d : Date) : Prop where
  yearStart_le : yearStart w.year ≤ d.thursday
  lt_yearStart : d.thursday < yearStart (w.year + 1)
  week_eq : (w.week : Int) = (d.thursday - yearStart w.year) / 7 + 1

namespace Date

/-- The weekday is as many days after a Thursday, which is 4, as the day number says. -/
theorem weekday_eq (d : Date) : (d.weekday : Int) = (d.dayNumber + 3) % 7 + 1 := by
  have := Int.emod_nonneg (d.dayNumber + 3) (by decide : (7 : Int) ≠ 0)
  unfold weekday
  omega

/-- Weekdays are counted from 1. -/
theorem weekday_pos (d : Date) : 1 ≤ d.weekday :=
  Nat.succ_pos _

/-- There are seven weekdays. -/
theorem weekday_le (d : Date) : d.weekday ≤ 7 := by
  have := d.weekday_eq
  omega

/-- The Thursday of a week is at most three days away from a date of it. -/
theorem thursday_near (d : Date) :
    d.dayNumber - 3 ≤ d.thursday ∧ d.thursday ≤ d.dayNumber + 3 := by
  have := d.weekday_pos
  have := d.weekday_le
  unfold thursday
  omega

/-- The day number of a Thursday is a multiple of seven. -/
theorem thursday_emod (d : Date) : d.thursday % 7 = 0 := by
  have := d.weekday_eq
  unfold thursday
  omega

end Date

/-! ## The number of weeks of a year -/

/-- The weekday of the last day of a year comes before that of the first day of the next. -/
theorem lastWeekday_eq (year : Int) : lastWeekday year = (yearStart (year + 1) + 3) % 7 := by
  rw [yearStart_eq, Int.add_sub_cancel]
  unfold lastWeekday
  omega

/-- A year has 53 weeks when it begins on a Thursday, or ends on one. -/
theorem weeksInYear_eq (year : Int) :
    weeksInYear year =
      if yearStart (year + 1) % 7 = 1 ∨ yearStart year % 7 = 0 then 53 else 52 := by
  unfold weeksInYear
  rw [lastWeekday_eq, lastWeekday_eq, Int.sub_add_cancel]
  congr 1
  apply propext
  omega

/-- The weeks of a year reach from its first Thursday to the first one of the next year. -/
theorem weeksInYear_thursdays (year : Int) :
    (weeksInYear year : Int) =
      (yearStart (year + 1) + 6) / 7 - (yearStart year + 6) / 7 := by
  have hlength := yearLength_cases year
  have hnext := yearStart_succ year
  rw [weeksInYear_eq]
  split <;> omega

/-! ## The week from the ordinal -/

namespace Date.Valid

variable {d : Date}

/-- The ordinal of a valid date has 32 bits. -/
theorem signed32_ordinal (h : d.Valid) : signed32 d.ordinal = d.ordinal := by
  have := h.ordinal_le
  have := yearLength_cases d.year
  exact signed32_eq_self (by omega)

/-- **The week of a date** is the one that its Thursday tells. -/
theorem isWeekOf_weekByOrdinal (h : d.Valid) : d.weekByOrdinal.IsWeekOf d := by
  have hthursday := d.thursday_emod
  have hnumber := h.dayNumber_eq
  have hpos := h.ordinal_pos
  have hle := h.ordinal_le
  have hlength := yearLength_cases d.year
  have hnext := yearStart_succ d.year
  have hweeks := weeksInYear_thursdays d.year
  have hweekday := d.weekday_pos
  have hweekday' := d.weekday_le
  -- the quotient counts the Thursdays of the year up to that of the week
  have hcount : ((d.ordinal : Int) - d.weekday + 10) / 7 =
      (d.thursday - yearStart d.year) / 7 + 1 := by
    unfold Date.thursday
    omega
  unfold Date.weekByOrdinal
  rw [h.signed32_ordinal, hcount]
  dsimp only
  split
  · have hprevious := yearStart_succ (d.year - 1)
    have hlength' := yearLength_cases (d.year - 1)
    have hweeks' := weeksInYear_thursdays (d.year - 1)
    rw [Int.sub_add_cancel] at hprevious hweeks'
    unfold Date.thursday at *
    refine ⟨?_, ?_, ?_⟩ <;> simp only [Date.thursday, Int.sub_add_cancel] <;> omega
  · split
    · have hnext' := yearStart_succ (d.year + 1)
      have hlength' := yearLength_cases (d.year + 1)
      unfold Date.thursday at *
      refine ⟨?_, ?_, ?_⟩ <;> simp only [Date.thursday] <;> omega
    · unfold Date.thursday at *
      refine ⟨?_, ?_, ?_⟩ <;> simp only [Date.thursday] <;> omega

/-- The week of a date is numbered from 1 to 53. -/
theorem weekByOrdinal_week (h : d.Valid) :
    1 ≤ d.weekByOrdinal.week ∧ d.weekByOrdinal.week ≤ 53 := by
  obtain ⟨hle, hlt, hweek⟩ := h.isWeekOf_weekByOrdinal
  have := yearStart_succ d.weekByOrdinal.year
  have := yearLength_cases d.weekByOrdinal.year
  omega

/-- The week of a date belongs to the year of the date or to one next to it. -/
theorem isWeekOf_year (h : d.Valid) {w : YearWeek} (hw : w.IsWeekOf d) :
    d.year - 1 ≤ w.year ∧ w.year ≤ d.year + 1 := by
  obtain ⟨hle, hlt, -⟩ := hw
  have hnear := d.thursday_near
  have hstart := h.yearStart_le
  have hend := h.lt_yearStart
  constructor
  · by_contra hearly
    have hmono := yearStart_le_iff.mpr (show w.year + 1 ≤ d.year - 1 by omega)
    have hlast := yearStart_succ (d.year - 1)
    have := yearLength_cases (d.year - 1)
    rw [Int.sub_add_cancel] at hlast
    omega
  · by_contra hlate
    have hmono := yearStart_le_iff.mpr (show d.year + 1 + 1 ≤ w.year by omega)
    have hfirst := yearStart_succ (d.year + 1)
    have := yearLength_cases (d.year + 1)
    omega

end Date.Valid

end TemporalFormat
