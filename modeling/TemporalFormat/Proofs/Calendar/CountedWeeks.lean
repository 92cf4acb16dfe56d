import TemporalFormat.Proofs.Calendar.Almanac
import TemporalFormat.Proofs.Calendar.NextDay

/-!
# Counting weeks

A year has as many weeks as Thursdays. The first of them is in the week of 4 January and the last
one in the week of 28 December, so these are the first and the last week of the year.
`weeksInYear_counts` says that the weeks of a year are numbered from 1 to the number of its weeks
without a gap, and that they fill the days from the first Monday of the year's weeks to that of the
next year's.
-/

set_option autoImplicit false

namespace TemporalFormat

namespace Date

/-- The day number of the Monday of the week of a date. -/
def monday (d : Date) : Int :=
  d.dayNumber - d.weekday + 1

/-- The Monday of a week comes three days before its Thursday. -/
theorem monday_eq (d : Date) : d.monday = d.thursday - 3 := by
  unfold monday thursday
  omega

/-- A day is a Thursday when its day number is a multiple of seven. -/
theorem weekday_eq_four_iff (d : Date) : d.weekday = 4 ↔ d.dayNumber % 7 = 0 := by
  have := d.weekday_eq
  omega

/-- Dates that are whole weeks apart have Thursdays that are as far apart. -/
theorem thursday_eq_add {d e : Date} {weeks : Nat}
    (h : e.dayNumber = d.dayNumber + (7 * weeks : Nat)) :
    e.thursday = d.thursday + (7 * weeks : Nat) := by
  have hd := d.weekday_eq
  have he := e.weekday_eq
  unfold thursday
  omega

end Date

/-! ## The ends of a year -/

section Ends

variable (year : Int)

/-- The first 28 days of every month are valid. -/
theorem valid_of_day_le (month day : Nat) (hmonth : 1 ≤ month ∧ month ≤ 12)
    (hday : 1 ≤ day ∧ day ≤ 28) : Date.Valid ⟨year, month, day⟩ where
  month_pos := hmonth.1
  month_le := hmonth.2
  day_pos := hday.1
  day_le := hday.2.trans (le_daysInMonth year month hmonth.1 hmonth.2)

/-- The days of January are numbered from the beginning of the year. -/
theorem dayNumber_january (day : Nat) :
    Date.dayNumber ⟨year, 1, day⟩ = yearStart year + day - 1 := by
  have hordinal : Date.ordinal ⟨year, 1, day⟩ = day := Nat.zero_add day
  rw [Date.dayNumber_eq ⟨year, 1, day⟩ (show 1 ≤ 1 ∧ 1 ≤ 12 by decide), hordinal]

/-- The days of December are counted back from the next year. -/
theorem dayNumber_december (day : Nat) :
    Date.dayNumber ⟨year, 12, day⟩ = yearStart (year + 1) + day - 32 := by
  have hnumber := Date.dayNumber_eq ⟨year, 12, day⟩ (show 1 ≤ 12 ∧ 12 ≤ 12 by decide)
  have hday := Date.ordinal_eq_month_add ⟨year, 12, day⟩
  have hend := ordinal_last_month year
  have hlength : daysInMonth year 12 = 31 := rfl
  have hnext := yearStart_succ year
  dsimp only at hnumber hday
  omega

/-- The week of 4 January has the first Thursday of the year. -/
theorem thursday_january : Date.thursday ⟨year, 1, 4⟩ = 7 * ((yearStart year + 6) / 7) := by
  have hweekday := Date.weekday_eq ⟨year, 1, 4⟩
  have hnumber := dayNumber_january year 4
  unfold Date.thursday
  omega

/-- The week of 4 January begins on the Monday that comes nearest to the beginning of the year. -/
theorem monday_january : Date.monday ⟨year, 1, 4⟩ = 7 * ((yearStart year + 6) / 7) - 3 := by
  rw [Date.monday_eq, thursday_january]

/-- The week of 28 December has the last Thursday before the next year. -/
theorem thursday_december :
    Date.thursday ⟨year, 12, 28⟩ = 7 * ((yearStart (year + 1) + 6) / 7) - 7 := by
  have hweekday := Date.weekday_eq ⟨year, 12, 28⟩
  have hnumber := dayNumber_december year 28
  unfold Date.thursday
  omega

/-- A year has 53 weeks when it begins or ends on a Thursday. -/
theorem weeksInYear_eq_of_weekdays :
    weeksInYear year =
      if Date.weekday ⟨year, 1, 1⟩ = 4 ∨ Date.weekday ⟨year, 12, 31⟩ = 4 then 53 else 52 := by
  have hfirst : Date.weekday ⟨year, 1, 1⟩ = 4 ↔ yearStart year % 7 = 0 :=
    Date.weekday_eq_four_iff _
  have hlast : Date.weekday ⟨year, 12, 31⟩ = 4 ↔ yearStart (year + 1) % 7 = 1 := by
    rw [Date.weekday_eq_four_iff, dayNumber_december]
    omega
  rw [weeksInYear_eq]
  simp only [hfirst, hlast, or_comm]

end Ends

/-! ## The weeks between -/

/-- A week of a year is not numbered higher than the year has weeks. -/
theorem YearWeek.IsWeekOf.week_bounds {w : YearWeek} {d : Date} (h : w.IsWeekOf d) :
    1 ≤ w.week ∧ w.week ≤ weeksInYear w.year := by
  obtain ⟨hstart, hend, hweek⟩ := h
  have hthursday := d.thursday_emod
  have hweeks := weeksInYear_thursdays w.year
  omega

/-- The week of 28 December is the last one of its year. -/
theorem weekByOrdinal_december (year : Int) :
    Date.weekByOrdinal ⟨year, 12, 28⟩ = ⟨year, weeksInYear year⟩ := by
  have hvalid := valid_of_day_le year 12 28 (by decide) (by decide)
  have hthursday := thursday_december year
  have hweeks := weeksInYear_thursdays year
  have hnext := yearStart_succ year
  have hlength := yearLength_cases year
  refine hvalid.isWeekOf_weekByOrdinal.unique ⟨?_, ?_, ?_⟩ <;> dsimp only <;> omega

/-- Every week up to the last one is the week of a date, which comes that many weeks after 4
January. -/
theorem exists_weekByOrdinal_eq {year : Int} {week : Nat} (hpos : 1 ≤ week)
    (hle : week ≤ weeksInYear year) :
    ∃ d : Date, d.Valid ∧ d.weekByOrdinal = ⟨year, week⟩ := by
  have hfourth := valid_of_day_le year 1 4 (by decide) (by decide)
  obtain ⟨hvalid, hnumber⟩ := hfourth.iterate_nextBy (7 * (week - 1))
  have hfirst := thursday_january year
  have hlater := Date.thursday_eq_add hnumber
  have hweeks := weeksInYear_thursdays year
  refine ⟨_, hvalid, hvalid.isWeekOf_weekByOrdinal.unique ⟨?_, ?_, ?_⟩⟩ <;> dsimp only <;> omega

/-- The weeks of a year have the days from the Monday of the week of 4 January to that of the next
year. -/
theorem Date.Valid.weekByOrdinal_year_eq_iff {d : Date} (hd : d.Valid) (year : Int) :
    d.weekByOrdinal.year = year ↔
      Date.monday ⟨year, 1, 4⟩ ≤ d.dayNumber ∧ d.dayNumber < Date.monday ⟨year + 1, 1, 4⟩ := by
  have hthursday := d.thursday_emod
  have hnumber := d.dayNumber_eq_thursday_add
  have hpos := d.weekday_pos
  have hle := d.weekday_le
  rw [monday_january, monday_january]
  constructor
  · rintro rfl
    obtain ⟨hstart, hend, -⟩ := hd.isWeekOf_weekByOrdinal
    omega
  · rintro ⟨hfrom, hbefore⟩
    have hweek : YearWeek.IsWeekOf ⟨year, ((d.thursday - yearStart year) / 7 + 1).toNat⟩ d := by
      refine ⟨?_, ?_, ?_⟩ <;> dsimp only <;> omega
    rw [hd.isWeekOf_weekByOrdinal.unique hweek]

/-- **The weeks of a year are counted.** A year has 53 weeks when its first or its last day is a
Thursday, and 52 otherwise. The last week is that of 28 December, no date of the year's weeks has a
higher number, and no number is left out. The days of these weeks are those from the Monday of the
week of 4 January to that of the next year, seven for each week. -/
theorem weeksInYear_counts (year : Int) :
    (weeksInYear year =
      if Date.weekday ⟨year, 1, 1⟩ = 4 ∨ Date.weekday ⟨year, 12, 31⟩ = 4 then 53 else 52) ∧
    Date.weekByOrdinal ⟨year, 12, 28⟩ = ⟨year, weeksInYear year⟩ ∧
    (∀ d : Date, d.Valid → d.weekByOrdinal.year = year →
      1 ≤ d.weekByOrdinal.week ∧ d.weekByOrdinal.week ≤ weeksInYear year) ∧
    (∀ week : Nat, 1 ≤ week → week ≤ weeksInYear year →
      ∃ d : Date, d.Valid ∧ d.weekByOrdinal = ⟨year, week⟩) ∧
    (∀ d : Date, d.Valid → (d.weekByOrdinal.year = year ↔
      Date.monday ⟨year, 1, 4⟩ ≤ d.dayNumber ∧ d.dayNumber < Date.monday ⟨year + 1, 1, 4⟩)) ∧
    7 * (weeksInYear year : Int) = Date.monday ⟨year + 1, 1, 4⟩ - Date.monday ⟨year, 1, 4⟩ := by
  refine ⟨weeksInYear_eq_of_weekdays year, weekByOrdinal_december year, ?_,
    fun week => exists_weekByOrdinal_eq, fun d hd => hd.weekByOrdinal_year_eq_iff year, ?_⟩
  · rintro d hd rfl
    exact hd.isWeekOf_weekByOrdinal.week_bounds
  · rw [monday_january, monday_january, weeksInYear_thursdays]
    omega

/-- The year -8 is a leap year that begins on a Wednesday and so ends on a Thursday. The first
Sunday of the next year is in its 53rd week. -/
theorem weeksInYear_counts_leapYear :
    let d : Date := ⟨-7, 1, 3⟩
    isLeapYear (-8) = true ∧ Date.weekday ⟨-8, 1, 1⟩ = 3 ∧ weeksInYear (-8) = 53 ∧
      d.Valid ∧ d.weekByOrdinal = ⟨-8, 53⟩ ∧ 53 ≤ weeksInYear (-8) ∧
      (∃ e : Date, e.Valid ∧ e.weekByOrdinal = ⟨-8, 52⟩) ∧
      d.dayNumber < Date.monday ⟨-7, 1, 4⟩ ∧
      Date.monday ⟨-7, 1, 4⟩ - Date.monday ⟨-8, 1, 4⟩ = 371 := by
  intro d
  obtain ⟨hweekdays, -, hbounds, hall, hyear, hdays⟩ := weeksInYear_counts (-8)
  have hcount : weeksInYear (-8) = 53 := hweekdays.trans (by decide)
  have hd : d.Valid := ⟨by decide, by decide, by decide, by decide⟩
  have hweek : d.weekByOrdinal = ⟨-8, 53⟩ := by decide
  have hle : d.weekByOrdinal.week ≤ weeksInYear (-8) := (hbounds d hd (by decide)).2
  have hbefore : d.dayNumber < Date.monday ⟨-7, 1, 4⟩ := ((hyear d hd).mp (by decide)).2
  rw [hweek] at hle
  rw [hcount] at hdays
  exact ⟨by decide, by decide, hcount, hd, hweek, hle, hall 52 (by decide) (by omega), hbefore,
    hdays.symm⟩

end TemporalFormat
