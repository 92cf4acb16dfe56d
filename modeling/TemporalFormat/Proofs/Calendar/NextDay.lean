import Mathlib.Logic.Function.Iterate
import TemporalFormat.Proofs.Calendar.WeekDate

/-!
# Days that follow each other

Which date follows a date is told by the lengths of the months, in any calendar of twelve months:
`Date.nextBy`. In the Gregorian calendar the date that follows has the next day number,
`Date.Valid.dayNumber_nextBy`.

So the day number of a date counts the days since 1 January 1970. `Date.Valid.dayNumber_counts` says
that it is made up of the lengths of the years, of the months and of the days of the month, that
each day adds one to it, and that it tells how many days one date is after another. So dates have
the order of their day numbers.
-/

set_option autoImplicit false

namespace TemporalFormat

/-- The date after a date, in a calendar of twelve months whose lengths are given. -/
def Date.nextBy (length : Int → Nat → Nat) (d : Date) : Date :=
  if d.day < length d.year d.month then { d with day := d.day + 1 }
  else if d.month < 12 then ⟨d.year, d.month + 1, 1⟩
  else ⟨d.year + 1, 1, 1⟩

/-! ## Any calendar -/

namespace Date

variable {length : Int → Nat → Nat} {d : Date}

/-- The date after a date is in the same month, on the first day of the next month, or on the first
day of the next year. -/
theorem nextBy_cases (hmonth : d.month ≤ 12) (hday : d.day ≤ length d.year d.month) :
    d.day < length d.year d.month ∧ d.nextBy length = ⟨d.year, d.month, d.day + 1⟩ ∨
      d.day = length d.year d.month ∧ d.month < 12 ∧
        d.nextBy length = ⟨d.year, d.month + 1, 1⟩ ∨
      d.day = length d.year 12 ∧ d.month = 12 ∧ d.nextBy length = ⟨d.year + 1, 1, 1⟩ := by
  unfold nextBy
  split
  · rename_i hlt
    exact .inl ⟨hlt, rfl⟩
  · rename_i hge
    have hlast : d.day = length d.year d.month := le_antisymm hday (not_lt.mp hge)
    split
    · rename_i hmonth
      exact .inr (.inl ⟨hlast, hmonth, rfl⟩)
    · rename_i hge
      have hdecember : d.month = 12 := le_antisymm hmonth (not_lt.mp hge)
      exact .inr (.inr ⟨hdecember ▸ hlast, hdecember, rfl⟩)

/-- The day after another one is not in an earlier year. -/
theorem year_le_nextBy (length : Int → Nat → Nat) (d : Date) : d.year ≤ (d.nextBy length).year := by
  unfold nextBy
  split
  · exact le_rfl
  · split
    · exact le_rfl
    · exact Int.le_add_one le_rfl

/-- When no month is without days, the date after a date is one of the calendar. -/
theorem nextBy_bounds
    (hlength : ∀ year month, 1 ≤ month → month ≤ 12 → 1 ≤ length year month)
    (hpos : 1 ≤ d.month) (hmonth : d.month ≤ 12) (hday : d.day ≤ length d.year d.month) :
    1 ≤ (d.nextBy length).month ∧ (d.nextBy length).month ≤ 12 ∧ 1 ≤ (d.nextBy length).day ∧
      (d.nextBy length).day ≤ length (d.nextBy length).year (d.nextBy length).month := by
  obtain ⟨hlt, hnext⟩ | ⟨-, hlt, hnext⟩ | ⟨-, -, hnext⟩ := nextBy_cases hmonth hday
  · rw [hnext]
    exact ⟨hpos, hmonth, Nat.succ_pos _, hlt⟩
  · rw [hnext]
    exact ⟨Nat.succ_pos _, hlt, le_rfl, hlength _ _ (Nat.succ_pos _) hlt⟩
  · rw [hnext]
    have htwelve : 1 ≤ 12 := by decide
    exact ⟨le_rfl, htwelve, le_rfl, hlength _ _ le_rfl htwelve⟩

end Date

/-! ## The Gregorian calendar -/

/-- Every month has 28 days or more. -/
theorem le_daysInMonth (year : Int) (month : Nat) (hpos : 1 ≤ month) (hle : month ≤ 12) :
    28 ≤ daysInMonth year month := by
  have hlengths : ∀ month < 13, 1 ≤ month → 28 ≤ monthLengths.getD month 0 := by decide
  unfold daysInMonth
  split
  · decide
  · exact hlengths month (Nat.lt_succ_of_le hle) hpos

/-- Every month has a first day. -/
theorem daysInMonth_pos (year : Int) (month : Nat) (hpos : 1 ≤ month) (hle : month ≤ 12) :
    1 ≤ daysInMonth year month :=
  le_trans (by decide) (le_daysInMonth year month hpos hle)

namespace Date.Valid

variable {d : Date} (h : d.Valid)

include h

/-- The day after a valid date is valid. -/
theorem nextBy : (d.nextBy daysInMonth).Valid := by
  obtain ⟨hpos, hle, hday, hday'⟩ := nextBy_bounds daysInMonth_pos h.month_pos h.month_le h.day_le
  exact ⟨hpos, hle, hday, hday'⟩

/-- The date after a Gregorian date has the next day number. -/
theorem dayNumber_nextBy : (d.nextBy daysInMonth).dayNumber = d.dayNumber + 1 := by
  have hordinal := d.ordinal_eq_month_add
  rw [h.dayNumber_eq, h.nextBy.dayNumber_eq]
  obtain ⟨-, hnext⟩ | ⟨hlast, hmonth, hnext⟩ | ⟨hlast, hmonth, hnext⟩ :=
    nextBy_cases h.month_le h.day_le
  · have hordinal' := Date.ordinal_eq_month_add ⟨d.year, d.month, d.day + 1⟩
    rw [hnext]
    dsimp only at hordinal' ⊢
    omega
  · have hfirst := ordinal_next_month d.year h.month_pos (Nat.le_of_lt_succ hmonth)
    rw [hnext]
    dsimp only
    omega
  · have hfirst : Date.ordinal ⟨d.year + 1, 1, 1⟩ = 1 := rfl
    have hend := ordinal_last_month d.year
    have hyear := yearStart_succ d.year
    rw [hmonth] at hordinal
    rw [hnext]
    dsimp only
    omega

end Date.Valid

/-! ## Counting days -/

/-- A year begins 365 days after the one before it, or 366 days after a leap year. -/
theorem yearStart_succ_eq_add (year : Int) :
    yearStart (year + 1) = yearStart year + 365 + if isLeapYear year = true then 1 else 0 := by
  rw [yearStart_succ, yearLength]
  split <;> push_cast <;> omega

namespace Date.Valid

variable {d e : Date} (hd : d.Valid)

include hd

/-- The dates after a date are the next one and those after it. -/
theorem key_lt_iff_nextBy_key_le (he : e.Valid) :
    d.key < e.key ↔ (d.nextBy daysInMonth).key ≤ e.key := by
  rw [hd.key_lt_iff_dayNumber_lt he, ← not_lt, he.key_lt_iff_dayNumber_lt hd.nextBy,
    hd.dayNumber_nextBy]
  omega

/-- Each day adds one to the day number. -/
theorem iterate_nextBy (n : Nat) :
    ((Date.nextBy daysInMonth)^[n] d).Valid ∧
      ((Date.nextBy daysInMonth)^[n] d).dayNumber = d.dayNumber + n := by
  induction n with
  | zero => exact ⟨hd, (add_zero _).symm⟩
  | succ n ih =>
    obtain ⟨hvalid, hnumber⟩ := ih
    rw [Function.iterate_succ_apply']
    refine ⟨hvalid.nextBy, ?_⟩
    rw [hvalid.dayNumber_nextBy, hnumber]
    push_cast
    omega

/-- The day numbers of two dates tell how many days the one is after the other. -/
theorem iterate_nextBy_eq_iff (he : e.Valid) (n : Nat) :
    (Date.nextBy daysInMonth)^[n] d = e ↔ e.dayNumber = d.dayNumber + n := by
  obtain ⟨hvalid, hnumber⟩ := hd.iterate_nextBy n
  constructor
  · rintro rfl
    exact hnumber
  · intro h
    exact hvalid.eq_of_dayNumber_eq he (hnumber.trans h.symm)

/-- **The day number counts days.** It is 0 on 1 January 1970, it is as many days after that of the
first day of the year as the ordinal says, and the months and the years follow each other as their
lengths say. The next date has the next number, a date that is `n` days later has a number that is
greater by `n`, and dates have different numbers that come in the order of the dates. -/
theorem dayNumber_counts :
    dayNumber ⟨1970, 1, 1⟩ = 0 ∧
    d.dayNumber = dayNumber ⟨d.year, 1, 1⟩ + d.ordinal - 1 ∧
    (d.month < 12 → ordinal ⟨d.year, d.month + 1, 1⟩ =
      ordinal ⟨d.year, d.month, 1⟩ + daysInMonth d.year d.month) ∧
    dayNumber ⟨d.year + 1, 1, 1⟩ =
      dayNumber ⟨d.year, 1, 1⟩ + 365 + (if isLeapYear d.year = true then 1 else 0) ∧
    ((d.nextBy daysInMonth).Valid ∧ (d.nextBy daysInMonth).dayNumber = d.dayNumber + 1) ∧
    ∀ e : Date, e.Valid →
      (d.key < e.key ↔ (d.nextBy daysInMonth).key ≤ e.key) ∧
      (∀ n : Nat, (Date.nextBy daysInMonth)^[n] d = e ↔ e.dayNumber = d.dayNumber + n) ∧
      (d.dayNumber = e.dayNumber → d = e) ∧ (d.key < e.key ↔ d.dayNumber < e.dayNumber) := by
  refine ⟨rfl, hd.dayNumber_eq, ?_, yearStart_succ_eq_add d.year,
    ⟨hd.nextBy, hd.dayNumber_nextBy⟩, ?_⟩
  · intro hmonth
    exact ordinal_next_month d.year hd.month_pos (Nat.le_of_lt_succ hmonth)
  · intro e he
    exact ⟨hd.key_lt_iff_nextBy_key_le he, hd.iterate_nextBy_eq_iff he, hd.eq_of_dayNumber_eq he,
      hd.key_lt_iff_dayNumber_lt he⟩

omit hd

/-- The years divided by 400 are leap years before the year 0 too, so 1 March is two days after 28
February. -/
theorem dayNumber_counts_leapDay :
    let d : Date := ⟨-400, 2, 28⟩
    let e : Date := ⟨-400, 3, 1⟩
    d.Valid ∧ e.Valid ∧ e.dayNumber = d.dayNumber + 2 ∧ d.key < e.key ∧ d ≠ e := by
  intro d e
  have hd : d.Valid := ⟨by decide, by decide, by decide, by decide⟩
  have he : e.Valid := ⟨by decide, by decide, by decide, by decide⟩
  obtain ⟨-, -, -, -, -, hcount⟩ := dayNumber_counts hd
  obtain ⟨-, hsteps, -, horder⟩ := hcount e he
  have hnumber : e.dayNumber = d.dayNumber + 2 := (hsteps 2).mp rfl
  refine ⟨hd, he, hnumber, horder.mpr (by omega), ?_⟩
  decide

end Date.Valid

end TemporalFormat
