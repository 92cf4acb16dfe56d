import Mathlib.Algebra.Order.Ring.Int
import TemporalFormat.Calendar.Gregorian

/-!
# Valid dates and their day numbers

The months of a year follow each other without a gap, and so do the years: a month begins where the
month before it ends, and a year as many days after the year before it as that one has. It follows
that the ordinal counts the days of the months before, that a valid date lies between the first day
of its year and that of the next, and that no two valid dates share a day number.
-/

set_option autoImplicit false

namespace TemporalFormat

/-- The dates of the calendar. -/
structure Date.Valid (d : Date) : Prop where
  month_pos : 1 ≤ d.month
  month_le : d.month ≤ 12
  day_pos : 1 ≤ d.day
  day_le : d.day ≤ daysInMonth d.year d.month

/-- The number of days of a year. -/
def yearLength (year : Int) : Nat :=
  if isLeapYear year = true then 366 else 365

/-! ## Months -/

/-- The first day of a month comes after the last one of the month before. -/
theorem ordinal_next_month (year : Int) {month : Nat} (hpos : 1 ≤ month) (hle : month ≤ 11) :
    Date.ordinal ⟨year, month + 1, 1⟩ =
      Date.ordinal ⟨year, month, 1⟩ + daysInMonth year month := by
  obtain rfl | rfl | rfl | rfl | rfl | rfl | rfl | rfl | rfl | rfl | rfl :
      month = 1 ∨ month = 2 ∨ month = 3 ∨ month = 4 ∨ month = 5 ∨ month = 6 ∨ month = 7 ∨
        month = 8 ∨ month = 9 ∨ month = 10 ∨ month = 11 := by
    omega
  all_goals
    cases hleap : isLeapYear year <;>
      simp [Date.ordinal, daysBeforeMonth, daysInMonth, monthLengths, hleap]

/-- The last month ends with the year. -/
theorem ordinal_last_month (year : Int) :
    Date.ordinal ⟨year, 12, 1⟩ + daysInMonth year 12 = yearLength year + 1 := by
  cases hleap : isLeapYear year <;>
    simp [Date.ordinal, daysBeforeMonth, daysInMonth, monthLengths, yearLength, hleap]

/-- A later month begins later. -/
theorem ordinal_month_le (year : Int) {month later : Nat} (hpos : 1 ≤ month)
    (hle : month ≤ later) (hlater : later ≤ 12) :
    Date.ordinal ⟨year, month, 1⟩ ≤ Date.ordinal ⟨year, later, 1⟩ := by
  induction later, hle using Nat.le_induction with
  | base => exact le_rfl
  | succ later hle ih =>
    have hstep := ordinal_next_month year (show 1 ≤ later by omega) (by omega)
    have := ih (by omega)
    omega

/-- The days of a month follow its first day. -/
theorem Date.ordinal_eq_month_add (d : Date) :
    d.ordinal + 1 = Date.ordinal ⟨d.year, d.month, 1⟩ + d.day := by
  simp only [Date.ordinal]
  omega

/-- A month begins after the days of all months before it. -/
theorem ordinal_month_eq_sum (year : Int) {before : Nat} (hle : before ≤ 11) :
    Date.ordinal ⟨year, before + 1, 1⟩ =
      ((List.range' 1 before).map (daysInMonth year)).sum + 1 := by
  induction before with
  | zero => rfl
  | succ before ih =>
    have hstep := ordinal_next_month year (show 1 ≤ before + 1 by omega) hle
    have hbefore := ih (by omega)
    rw [List.range'_1_concat, List.map_append, List.sum_append, List.map_singleton,
      List.sum_singleton, Nat.add_comm 1 before]
    omega

/-- The ordinal counts the days of the months before and the days of the month. -/
theorem Date.ordinal_eq_sum {d : Date} (hpos : 1 ≤ d.month) (hle : d.month ≤ 12) :
    d.ordinal = ((List.range' 1 (d.month - 1)).map (daysInMonth d.year)).sum + d.day := by
  have hfirst := ordinal_month_eq_sum d.year (show d.month - 1 ≤ 11 by omega)
  have hday := Date.ordinal_eq_month_add d
  rw [Nat.sub_add_cancel hpos] at hfirst
  omega

namespace Date.Valid

variable {d : Date}

/-- The days of a year are counted from 1. -/
theorem ordinal_pos (h : d.Valid) : 1 ≤ d.ordinal := by
  have := h.day_pos
  simp only [Date.ordinal]
  omega

/-- The days of a year are as many as its length says. -/
theorem ordinal_le (h : d.Valid) : d.ordinal ≤ yearLength d.year := by
  have hday := h.day_le
  have hday' := Date.ordinal_eq_month_add d
  rcases Nat.lt_or_ge d.month 12 with hlt | hge
  · have hnext := ordinal_next_month d.year h.month_pos (Nat.le_of_lt_succ hlt)
    have hlast := ordinal_month_le d.year (show 1 ≤ d.month + 1 by omega) (by omega) le_rfl
    have hend := ordinal_last_month d.year
    omega
  · have hmonth : d.month = 12 := le_antisymm h.month_le hge
    have hend := ordinal_last_month d.year
    rw [hmonth] at hday hday'
    omega

/-- A date in an earlier month of the same year has a smaller ordinal. -/
theorem ordinal_lt {e : Date} (h : d.Valid) (he : e.Valid) (hyear : d.year = e.year)
    (hmonth : d.month < e.month) : d.ordinal < e.ordinal := by
  have hday := h.day_le
  have hd := Date.ordinal_eq_month_add d
  have he' := Date.ordinal_eq_month_add e
  have hpos := he.day_pos
  have hnext := ordinal_next_month d.year h.month_pos
    (by have := he.month_le; omega : d.month ≤ 11)
  have hle := ordinal_month_le d.year (show 1 ≤ d.month + 1 by omega) hmonth he.month_le
  rw [hyear] at hday hd hnext hle
  omega

/-- The dates of one year are told apart by their ordinals. -/
theorem eq_of_ordinal_eq {e : Date} (h : d.Valid) (he : e.Valid) (hyear : d.year = e.year)
    (hordinal : d.ordinal = e.ordinal) : d = e := by
  have hmonth : d.month = e.month := by
    rcases Nat.lt_trichotomy d.month e.month with hlt | heq | hgt
    · have := h.ordinal_lt he hyear hlt
      omega
    · exact heq
    · have := he.ordinal_lt h hyear.symm hgt
      omega
  have hd := Date.ordinal_eq_month_add d
  have he' := Date.ordinal_eq_month_add e
  rw [hyear, hmonth] at hd
  obtain ⟨dy, dm, dd⟩ := d
  obtain ⟨ey, em, ed⟩ := e
  simp only [Date.mk.injEq] at hyear hmonth hd he' ⊢
  exact ⟨hyear, hmonth, by omega⟩

end Date.Valid

/-! ## Years -/

/-- A year begins where the year before it ends. -/
theorem yearStart_succ (year : Int) :
    yearStart (year + 1) = yearStart year + yearLength year := by
  rw [yearStart_eq, yearStart_eq]
  simp only [yearLength, isLeapYear, decide_eq_true_eq]
  split <;> omega

/-- A year has 365 or 366 days. -/
theorem yearLength_cases (year : Int) : yearLength year = 365 ∨ yearLength year = 366 := by
  unfold yearLength
  split <;> simp

/-- A later year begins later. -/
theorem yearStart_lt_iff {a b : Int} : yearStart a < yearStart b ↔ a < b := by
  rw [yearStart_eq, yearStart_eq]
  omega

/-- A year that does not begin later is not later. -/
theorem yearStart_le_iff {a b : Int} : yearStart a ≤ yearStart b ↔ a ≤ b := by
  rw [← Int.not_lt, yearStart_lt_iff, Int.not_lt]

namespace Date.Valid

variable {d : Date}

/-- The day number and the ordinal of a valid date count the same days. -/
theorem dayNumber_eq (h : d.Valid) : d.dayNumber = yearStart d.year + d.ordinal - 1 :=
  Date.dayNumber_eq d ⟨h.month_pos, h.month_le⟩

/-- A date does not come before its year. -/
theorem yearStart_le (h : d.Valid) : yearStart d.year ≤ d.dayNumber := by
  have := h.dayNumber_eq
  have := h.ordinal_pos
  omega

/-- A date comes before the next year. -/
theorem lt_yearStart (h : d.Valid) : d.dayNumber < yearStart (d.year + 1) := by
  have := h.dayNumber_eq
  have := h.ordinal_le
  have := yearStart_succ d.year
  omega

/-- **Dates are told apart by their day numbers.** -/
theorem eq_of_dayNumber_eq {e : Date} (h : d.Valid) (he : e.Valid)
    (hnumber : d.dayNumber = e.dayNumber) : d = e := by
  have hyear : d.year = e.year := by
    have hlt : d.year < e.year + 1 := by
      rw [← yearStart_lt_iff]
      exact lt_of_le_of_lt (hnumber ▸ h.yearStart_le) he.lt_yearStart
    have hgt : e.year < d.year + 1 := by
      rw [← yearStart_lt_iff]
      exact lt_of_le_of_lt (hnumber ▸ he.yearStart_le) h.lt_yearStart
    omega
  have hd := h.dayNumber_eq
  have he' := he.dayNumber_eq
  rw [hyear] at hd
  exact h.eq_of_ordinal_eq he hyear (by omega)

end Date.Valid

end TemporalFormat
