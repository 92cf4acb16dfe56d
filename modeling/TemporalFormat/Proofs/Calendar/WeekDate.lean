import Mathlib.Data.Prod.Lex
import TemporalFormat.Proofs.Calendar.WeekOfYear

/-!
# Week dates

The week of a date together with its weekday is another way to name the date. The main statement,
`Date.Valid.weekDate_faithful`, says that the week is the one that the Thursday tells, that no two
dates have the same week date, and that week dates are in the order of the dates. Both orders are
that of the day numbers, which is shown for each of them by comparing first the years, then the
weeks or months, and last the days.
-/

set_option autoImplicit false

namespace TemporalFormat

/-- Things are in the order of their numbers when neither a smaller thing nor an equal one has a
number that says otherwise. -/
theorem lt_iff_of_trichotomy {α β : Type} [LinearOrder α] [LinearOrder β] {a b : α} {m n : β}
    (hlt : a < b → m < n) (hgt : b < a → n < m) (heq : a = b → m = n) : a < b ↔ m < n := by
  refine ⟨hlt, fun hmn => ?_⟩
  rcases lt_trichotomy a b with h | h | h
  · exact h
  · exact absurd (heq h) hmn.ne
  · exact absurd (hgt h) hmn.asymm

/-- Triples are compared by their first parts that differ. -/
theorem toLex_triple_lt_iff {a a' : ℤ} {b b' c c' : ℕ} :
    (toLex (a, toLex (b, c)) : ℤ ×ₗ ℕ ×ₗ ℕ) < toLex (a', toLex (b', c')) ↔
      a < a' ∨ a = a' ∧ (b < b' ∨ b = b' ∧ c < c') := by
  simp only [Prod.Lex.toLex_lt_toLex]

namespace Date

/-- The year, the month and the day, compared in this order. -/
def key (d : Date) : ℤ ×ₗ ℕ ×ₗ ℕ :=
  toLex (d.year, toLex (d.month, d.day))

/-- The year of the week, the week and the weekday, compared in this order. -/
def weekDate (d : Date) : ℤ ×ₗ ℕ ×ₗ ℕ :=
  toLex (d.weekByOrdinal.year, toLex (d.weekByOrdinal.week, d.weekday))

/-- Dates are compared by their years, then by their months and then by their days. -/
theorem key_lt_iff {d e : Date} :
    d.key < e.key ↔ d.year < e.year ∨ d.year = e.year ∧
      (d.month < e.month ∨ d.month = e.month ∧ d.day < e.day) :=
  toLex_triple_lt_iff

/-- Week dates are compared by their years, then by their weeks and then by their weekdays. -/
theorem weekDate_lt_iff {d e : Date} :
    d.weekDate < e.weekDate ↔ d.weekByOrdinal.year < e.weekByOrdinal.year ∨
      d.weekByOrdinal.year = e.weekByOrdinal.year ∧
        (d.weekByOrdinal.week < e.weekByOrdinal.week ∨
          d.weekByOrdinal.week = e.weekByOrdinal.week ∧ d.weekday < e.weekday) :=
  toLex_triple_lt_iff

/-- Week dates are equal when their years, weeks and weekdays are. -/
theorem weekDate_eq_iff {d e : Date} :
    d.weekDate = e.weekDate ↔ d.weekByOrdinal.year = e.weekByOrdinal.year ∧
      d.weekByOrdinal.week = e.weekByOrdinal.week ∧ d.weekday = e.weekday := by
  simp only [weekDate, toLex_inj, Prod.mk.injEq]

/-- A date is as many days after the Thursday of its week as its weekday says. -/
theorem dayNumber_eq_thursday_add (d : Date) : d.dayNumber = d.thursday + d.weekday - 4 := by
  unfold thursday
  omega

/-- A later week begins after an earlier one ends. -/
theorem dayNumber_lt_of_thursday_lt {d e : Date} (h : d.thursday < e.thursday) :
    d.dayNumber < e.dayNumber := by
  have hd := d.thursday_emod
  have he := e.thursday_emod
  have hd' := d.dayNumber_eq_thursday_add
  have he' := e.dayNumber_eq_thursday_add
  have hle := d.weekday_le
  have hpos := e.weekday_pos
  omega

namespace Valid

variable {d e : Date} (hd : d.Valid) (he : e.Valid)

include hd he

/-! ## The order of the day numbers -/

/-- A later date has a greater day number. -/
theorem dayNumber_lt_of_key_lt (h : d.key < e.key) : d.dayNumber < e.dayNumber := by
  obtain hyear | ⟨hyear, hrest⟩ := key_lt_iff.mp h
  · calc d.dayNumber < yearStart (d.year + 1) := hd.lt_yearStart
      _ ≤ yearStart e.year := yearStart_le_iff.mpr hyear
      _ ≤ e.dayNumber := he.yearStart_le
  · have hordinal : d.ordinal < e.ordinal := by
      obtain hmonth | ⟨hmonth, hday⟩ := hrest
      · exact hd.ordinal_lt he hyear hmonth
      · have hd' := d.ordinal_eq_month_add
        have he' := e.ordinal_eq_month_add
        rw [hyear, hmonth] at hd'
        omega
    have hd' := hd.dayNumber_eq
    have he' := he.dayNumber_eq
    rw [hyear] at hd'
    omega

/-- The Thursdays of two weeks of one year are compared as the weeks are. -/
theorem week_le_of_thursday_le (hyear : d.weekByOrdinal.year = e.weekByOrdinal.year)
    (h : d.thursday ≤ e.thursday) : d.weekByOrdinal.week ≤ e.weekByOrdinal.week := by
  have hd' := hd.isWeekOf_weekByOrdinal.week_eq
  have he' := he.isWeekOf_weekByOrdinal.week_eq
  rw [hyear] at hd'
  omega

/-- Two dates of one week have the same Thursday. -/
theorem thursday_eq_of_week_eq (hyear : d.weekByOrdinal.year = e.weekByOrdinal.year)
    (hweek : d.weekByOrdinal.week = e.weekByOrdinal.week) : d.thursday = e.thursday := by
  have hd' := hd.isWeekOf_weekByOrdinal.week_eq
  have he' := he.isWeekOf_weekByOrdinal.week_eq
  have hdmod := d.thursday_emod
  have hemod := e.thursday_emod
  rw [hyear] at hd'
  omega

/-- A later week date has a greater day number. -/
theorem dayNumber_lt_of_weekDate_lt (h : d.weekDate < e.weekDate) : d.dayNumber < e.dayNumber := by
  obtain hyear | ⟨hyear, hweek | ⟨hweek, hday⟩⟩ := weekDate_lt_iff.mp h
  · apply dayNumber_lt_of_thursday_lt
    calc d.thursday < yearStart (d.weekByOrdinal.year + 1) :=
          hd.isWeekOf_weekByOrdinal.lt_yearStart
      _ ≤ yearStart e.weekByOrdinal.year := yearStart_le_iff.mpr hyear
      _ ≤ e.thursday := he.isWeekOf_weekByOrdinal.yearStart_le
  · apply dayNumber_lt_of_thursday_lt
    by_contra hle
    exact absurd (he.week_le_of_thursday_le hd hyear.symm (not_lt.mp hle)) (not_le.mpr hweek)
  · have hthursday := hd.thursday_eq_of_week_eq he hyear hweek
    have hd' := d.dayNumber_eq_thursday_add
    have he' := e.dayNumber_eq_thursday_add
    omega

/-- Equal week dates have the same day number. -/
theorem dayNumber_eq_of_weekDate_eq (h : d.weekDate = e.weekDate) :
    d.dayNumber = e.dayNumber := by
  obtain ⟨hyear, hweek, hday⟩ := weekDate_eq_iff.mp h
  have hthursday := hd.thursday_eq_of_week_eq he hyear hweek
  have hd' := d.dayNumber_eq_thursday_add
  have he' := e.dayNumber_eq_thursday_add
  omega

/-- Dates come in the order of their day numbers. -/
theorem key_lt_iff_dayNumber_lt : d.key < e.key ↔ d.dayNumber < e.dayNumber := by
  refine lt_iff_of_trichotomy (hd.dayNumber_lt_of_key_lt he) (he.dayNumber_lt_of_key_lt hd) ?_
  intro heq
  simp only [key, toLex_inj, Prod.mk.injEq] at heq
  obtain ⟨year, month, day⟩ := d
  obtain ⟨rfl, rfl, rfl⟩ := heq
  rfl

/-- Week dates come in the order of the day numbers of their dates. -/
theorem weekDate_lt_iff_dayNumber_lt : d.weekDate < e.weekDate ↔ d.dayNumber < e.dayNumber :=
  lt_iff_of_trichotomy (hd.dayNumber_lt_of_weekDate_lt he) (he.dayNumber_lt_of_weekDate_lt hd)
    (hd.dayNumber_eq_of_weekDate_eq he)

omit he

/-- **Week dates are faithful.** The week of a date belongs to the year in which its Thursday lies
and is counted among the Thursdays of this year. No other date has the same week and the same
weekday, and the dates come in the order of their week dates. -/
theorem weekDate_faithful :
    (yearStart d.weekByOrdinal.year ≤ d.thursday ∧
      d.thursday < yearStart (d.weekByOrdinal.year + 1) ∧
      (d.weekByOrdinal.week : ℤ) = (d.thursday - yearStart d.weekByOrdinal.year) / 7 + 1) ∧
    ∀ e : Date, e.Valid →
      (d.weekDate = e.weekDate → d = e) ∧ (d.weekDate < e.weekDate ↔ d.key < e.key) := by
  obtain ⟨hstart, hend, hweek⟩ := hd.isWeekOf_weekByOrdinal
  refine ⟨⟨hstart, hend, hweek⟩, ?_⟩
  intro e he
  refine ⟨fun heq => hd.eq_of_dayNumber_eq he (hd.dayNumber_eq_of_weekDate_eq he heq), ?_⟩
  rw [hd.weekDate_lt_iff_dayNumber_lt he, hd.key_lt_iff_dayNumber_lt he]

end Valid

/-- The first Sunday of 2021 is the last day of the 53rd week of 2020. The day after it comes later
in both orders, although its week has a smaller number. -/
theorem Valid.weekDate_faithful_sunday :
    let d : Date := ⟨2021, 1, 3⟩
    let e : Date := ⟨2021, 1, 4⟩
    d.Valid ∧ e.Valid ∧ d.weekByOrdinal = ⟨2020, 53⟩ ∧ e.weekByOrdinal = ⟨2021, 1⟩ ∧
      (53 : ℤ) = (d.thursday - yearStart 2020) / 7 + 1 ∧ d.weekDate < e.weekDate := by
  intro d e
  have hd : d.Valid := ⟨by decide, by decide, by decide, by decide⟩
  have he : e.Valid := ⟨by decide, by decide, by decide, by decide⟩
  have hweek : d.weekByOrdinal = ⟨2020, 53⟩ := by decide
  obtain ⟨⟨-, -, hcount⟩, horder⟩ := Valid.weekDate_faithful hd
  rw [hweek] at hcount
  refine ⟨hd, he, hweek, by decide, hcount, ?_⟩
  exact (horder e he).2.mpr (key_lt_iff.mpr (by decide))

end Date

end TemporalFormat
