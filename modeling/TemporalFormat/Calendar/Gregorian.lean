/-!
# The Gregorian calendar

Dates of the Gregorian calendar, carried on without end in both directions, with the year before
year 1 called 0. The day number counts days from 1 January 1970; the ordinal counts days within
the year. They are computed apart: the ordinal from the lengths of the months, the day number from
eras of 400 years whose years begin in March. That they count the same days is `Date.dayNumber_eq`.

Weeks begin on Monday, and a week belongs to the year in which its Thursday lies. There are two
ways to find the week of a date. `Date.weekByOrdinal` looks at the ordinal and the weekday of the
date and at the number of weeks of the years on either side; `Date.weekByThursday` is the rule
itself, applied to day numbers.
-/

set_option autoImplicit false

namespace TemporalFormat

/-- A year, a month of it and a day of the month, both counted from 1. -/
structure Date where
  year : Int
  month : Nat
  day : Nat
  deriving DecidableEq

/-- A year is a leap year when 4 divides it, unless 100 does and 400 does not. -/
def isLeapYear (year : Int) : Bool :=
  decide (year % 4 = 0 ∧ year % 100 ≠ 0 ∨ year % 400 = 0)

/-- The number of days of each month of a common year, by the number of the month. -/
def monthLengths : List Nat :=
  [0, 31, 28, 31, 30, 31, 30, 31, 31, 30, 31, 30, 31]

/-- The number of days of a common year before each month, by the number of the month. -/
def daysBeforeMonth : List Nat :=
  [0, 0, 31, 59, 90, 120, 151, 181, 212, 243, 273, 304, 334]

/-- The number of days of a month. -/
def daysInMonth (year : Int) (month : Nat) : Nat :=
  if month = 2 ∧ isLeapYear year = true then 29 else monthLengths.getD month 0

namespace Date

/-- The day of the year, where 1 January is 1. -/
def ordinal (d : Date) : Nat :=
  daysBeforeMonth.getD d.month 0 + (if 2 < d.month ∧ isLeapYear d.year = true then 1 else 0) +
    d.day

/-- The number of days from 1 January 1970 to a date. In a year that begins in March, month `m`
(March is 0) begins `(153 * m + 2) / 5` days after the year does, and the leap day is the last day
of the year. -/
def dayNumber (d : Date) : Int :=
  let marchYear := if d.month ≤ 2 then d.year - 1 else d.year
  let marchMonth : Int := if d.month ≤ 2 then d.month + 9 else d.month - 3
  let era := marchYear / 400
  let yearOfEra := marchYear - era * 400
  let dayOfYear := (153 * marchMonth + 2) / 5 + d.day - 1
  let dayOfEra := yearOfEra * 365 + yearOfEra / 4 - yearOfEra / 100 + dayOfYear
  era * 146097 + dayOfEra - 719468

end Date

/-- The day number of 1 January of a year. -/
def yearStart (year : Int) : Int :=
  Date.dayNumber ⟨year, 1, 1⟩

/-- The last two digits of a year, whatever its sign. -/
def twoDigitYear (year : Int) : Nat :=
  year.natAbs % 100

/-- The hour that a clock with twelve hours shows: midnight and noon are 12. -/
def clockHour (hour : Nat) : Nat :=
  if hour = 0 then 12 else if hour ≤ 12 then hour else hour - 12

/-! ## Day numbers and ordinals -/

/-- A year begins 365 days after the one before it, and one more for every leap year before it. -/
theorem yearStart_eq (year : Int) :
    yearStart year =
      365 * (year - 1) + (year - 1) / 4 - (year - 1) / 100 + (year - 1) / 400 - 719162 := by
  have hmonth : (1 : Nat) ≤ 2 := by decide
  simp only [yearStart, Date.dayNumber, hmonth, if_true]
  omega

/-- From March on the months begin as in a year that begins in March, 59 days later. -/
theorem daysBeforeMonth_eq {month : Nat} (h : 3 ≤ month ∧ month ≤ 12) :
    (daysBeforeMonth.getD month 0 : Int) = (153 * ((month : Int) - 3) + 2) / 5 + 59 := by
  obtain rfl | rfl | rfl | rfl | rfl | rfl | rfl | rfl | rfl | rfl :
      month = 3 ∨ month = 4 ∨ month = 5 ∨ month = 6 ∨ month = 7 ∨ month = 8 ∨ month = 9 ∨
        month = 10 ∨ month = 11 ∨ month = 12 := by
    omega
  all_goals decide

/-- The day number and the ordinal of a date count the same days. -/
theorem Date.dayNumber_eq (d : Date) (h : 1 ≤ d.month ∧ d.month ≤ 12) :
    d.dayNumber = yearStart d.year + d.ordinal - 1 := by
  obtain ⟨year, month, day⟩ := d
  change 1 ≤ month ∧ month ≤ 12 at h
  rw [yearStart_eq]
  by_cases hmarch : month ≤ 2
  · have hbefore : daysBeforeMonth.getD month 0 = 31 * (month - 1) := by
      obtain rfl | rfl : month = 1 ∨ month = 2 := by omega
      all_goals decide
    have hordinal : Date.ordinal ⟨year, month, day⟩ = 31 * (month - 1) + day := by
      rw [Date.ordinal, hbefore, if_neg (by simp; omega)]
      rfl
    simp only [Date.dayNumber, hmarch, if_true]
    omega
  · have hbefore := daysBeforeMonth_eq (show 3 ≤ month ∧ month ≤ 12 by omega)
    simp only [Date.dayNumber, Date.ordinal, hmarch, if_false, isLeapYear, decide_eq_true_eq]
    split <;> omega

/-! ## Counts of 32 bits -/

/-- The number whose 32 bits, the highest of them being the sign, are the low bits of `n`. -/
def signed32 (n : Int) : Int :=
  n.bmod 4294967296

/-- A number that fits is kept. -/
theorem signed32_eq_self {n : Int} (h : -2147483648 ≤ n ∧ n < 2147483648) : signed32 n = n := by
  obtain ⟨hlow, hhigh⟩ := h
  exact Int.bmod_eq_of_le (by omega) (by omega)

/-! ## Weekdays and weeks -/

/-- A week of a year, counted from 1. -/
structure YearWeek where
  year : Int
  week : Nat
  deriving DecidableEq

/-- The weekday of 31 December of a year, where Sunday is 0. -/
def lastWeekday (year : Int) : Int :=
  (year + year / 4 - year / 100 + year / 400) % 7

/-- The number of weeks of a year: 53 when the year ends or begins on a Thursday. -/
def weeksInYear (year : Int) : Nat :=
  if lastWeekday year = 4 ∨ lastWeekday (year - 1) = 3 then 53 else 52

namespace Date

/-- The weekday of a date, from Monday, which is 1, to Sunday, which is 7. Day number 0 is a
Thursday. -/
def weekday (d : Date) : Nat :=
  ((d.dayNumber + 3) % 7).toNat + 1

/-- The week of a date, from its place in the year. The ordinal is counted in 32 bits, so a day
that lies far beyond the end of its month can come to stand before the beginning of the year. -/
def weekByOrdinal (d : Date) : YearWeek :=
  let week := (signed32 d.ordinal - d.weekday + 10) / 7
  if week < 1 then ⟨d.year - 1, weeksInYear (d.year - 1)⟩
  else if weeksInYear d.year < week then ⟨d.year + 1, 1⟩
  else ⟨d.year, week.toNat⟩

/-- The day number of the Thursday of the week of a date. -/
def thursday (d : Date) : Int :=
  d.dayNumber - d.weekday + 4

/-- The year of the Thursday of the week of a date. -/
def yearOfThursday (d : Date) : Int :=
  if d.thursday < yearStart d.year then d.year - 1
  else if d.thursday < yearStart (d.year + 1) then d.year
  else d.year + 1

/-- The week of a date, from its Thursday. -/
def weekByThursday (d : Date) : YearWeek :=
  ⟨d.yearOfThursday, ((d.thursday - yearStart d.yearOfThursday) / 7 + 1).toNat⟩

end Date

end TemporalFormat
