import TemporalFormat.Proofs.Calendar.Hijri
import TemporalFormat.Proofs.Calendar.NextDay

/-!
# The days of the tabular Islamic calendar

The lengths of the months, `Hijri.monthLength`, say which dates the calendar has: `Hijri.Valid`. A
month begins where the month before it ends, and so does a year. Hence every Julian day is found in
exactly one month of one year, and the two conversions undo each other: `Hijri.julianDay_bijective`.
Dates that follow each other in the Gregorian calendar, by the lengths of its months, follow each
other here: `Hijri.ofGregorian_nextBy`.
-/

set_option autoImplicit false

namespace TemporalFormat

namespace Hijri

/-! ## Months and years -/

/-- The number of days of a month: 30 and 29 in turn, and 30 in the last month of a leap year. -/
def monthLength (year : Int) (month : Nat) : Nat :=
  if month = 12 ∧ (11 * year + 14) % 30 < 11 then 30
  else if month % 2 = 1 then 30 else 29

/-- The dates of the calendar. -/
structure Valid (d : Date) : Prop where
  month_pos : 1 ≤ d.month
  month_le : d.month ≤ 12
  day_pos : 1 ≤ d.day
  day_le : d.day ≤ monthLength d.year d.month

/-- Every month has a first day. -/
theorem monthLength_pos (year : Int) (month : Nat) : 1 ≤ monthLength year month := by
  unfold monthLength
  split
  · decide
  · split <;> decide

/-- A month begins where the month before it ends. -/
theorem julianDay_next_month (year : Int) {month : Nat} (h : month < 12) :
    julianDay year (month + 1) 1 = julianDay year month 1 + monthLength year month := by
  rw [julianDay_month, julianDay_month year month, monthLength, if_neg (by omega)]
  split <;> omega

/-- A year begins where the last month of the year before it ends. -/
theorem julianDay_next_year (year : Int) :
    julianDay (year + 1) 1 1 = julianDay year 12 1 + monthLength year 12 := by
  -- both leap days are counted from the same number
  have hnext : 3 + 11 * (year + 1) = 11 * year + 14 := by omega
  have hthis : 3 + 11 * year = 11 * year + 14 - 11 := by omega
  rw [julianDay_month year 12, julianDay_year, julianDay_year, hnext, hthis, monthLength]
  generalize 11 * year + 14 = n
  split
  · omega
  · rw [if_neg (by decide)]
    omega

/-- A month ends with its year or before. -/
theorem julianDay_month_le (year : Int) {month : Nat} (h : month ≤ 12) :
    julianDay year month 1 + monthLength year month ≤ julianDay (year + 1) 1 1 := by
  rcases Nat.lt_or_eq_of_le h with hlt | rfl
  · rw [← julianDay_next_month year hlt, julianDay_next_year, julianDay_month,
      julianDay_month year 12]
    omega
  · exact (julianDay_next_year year).ge

/-- The month after the one of a Julian day has not begun. -/
theorem lt_next_month {jd : Int} (h : monthOf (yearOf jd) jd < 12) :
    jd < julianDay (yearOf jd) (monthOf (yearOf jd) jd + 1) 1 := by
  rw [monthOf] at h
  rw [julianDay_month, monthOf]
  omega

/-! ## From Julian days to dates and back -/

/-- The date that is found for a Julian day is one of the calendar. -/
theorem Lossless.valid {jd : Int} (h : Lossless jd) : Valid (ofJulianDay jd) := by
  obtain ⟨hpos, hle, hday, -⟩ := ofJulianDay_bounds jd
  refine ⟨hpos, hle, hday, ?_⟩
  have hmonth := h.month_eq
  have hday' := h.day_eq
  rw [h.year_eq]
  -- a month ends where the next one begins, and the last one where the next year does
  rcases Nat.lt_or_eq_of_le hle with hlt | heq
  · have hnext := lt_next_month (show monthOf (yearOf jd) jd < 12 by omega)
    have hlength := julianDay_next_month (yearOf jd) hlt
    rw [hmonth] at hlength
    omega
  · have hnext := lt_yearStart jd
    have hlength := julianDay_next_year (yearOf jd)
    rw [heq] at hmonth ⊢
    rw [← hmonth] at hday'
    norm_cast at hday' hlength
    omega

namespace Valid

variable {d : Date} (h : Valid d)

include h

/-- No day of a year comes before its first day. -/
theorem yearStart_le_julianDayOf : julianDay d.year 1 1 ≤ julianDayOf d := by
  have hmonth := h.month_pos
  have hday := h.day_pos
  rw [julianDayOf, julianDay_day d.year d.month d.day, julianDay_month d.year d.month]
  omega

/-- Every day of a year comes before the first day of the next year. -/
theorem julianDayOf_lt_yearStart : julianDayOf d < julianDay (d.year + 1) 1 1 := by
  have hday := h.day_le
  have hmonth := julianDay_month_le d.year h.month_le
  rw [julianDayOf, julianDay_day]
  omega

/-- A Julian day is found in the year of its date. -/
theorem yearOf_julianDayOf : yearOf (julianDayOf d) = d.year := by
  have hstart := h.yearStart_le_julianDayOf
  have hend := h.julianDayOf_lt_yearStart
  rw [julianDay_year] at hstart hend
  rw [yearOf, epoch] at *
  omega

/-- A Julian day is found in the month of its date. -/
theorem monthOf_julianDayOf : monthOf d.year (julianDayOf d) = d.month := by
  obtain ⟨hpos, hle, hday, hday'⟩ := h
  rw [monthOf, julianDayOf, julianDay_day, julianDay_month]
  unfold monthLength at hday'
  split at hday'
  · omega
  · split at hday' <;> omega

/-- The date of a Julian day is found again. -/
theorem ofJulianDay_julianDayOf (hyear : -2147483648 ≤ d.year ∧ d.year < 2147483648) :
    ofJulianDay (julianDayOf d) = d := by
  have hday : julianDayOf d - julianDay d.year d.month 1 + 1 = d.day := by
    rw [julianDayOf, julianDay_day]
    omega
  rw [ofJulianDay]
  simp only [h.yearOf_julianDayOf, h.monthOf_julianDayOf, hday, signed32_eq_self hyear,
    Int.toNat_natCast]

/-- The day after a valid day is valid. -/
theorem nextBy : Valid (d.nextBy monthLength) := by
  obtain ⟨hpos, hle, hday, hday'⟩ :=
    Date.nextBy_bounds (fun year month _ _ => monthLength_pos year month) h.month_pos h.month_le
      h.day_le
  exact ⟨hpos, hle, hday, hday'⟩

/-- The date after an Islamic date has the next Julian day. -/
theorem julianDayOf_nextBy : julianDayOf (d.nextBy monthLength) = julianDayOf d + 1 := by
  rw [julianDayOf, julianDayOf, julianDay_day d.year]
  obtain ⟨-, hnext⟩ | ⟨hlast, hmonth, hnext⟩ | ⟨hlast, hmonth, hnext⟩ :=
    Date.nextBy_cases h.month_le h.day_le
  · rw [hnext, julianDay_day]
    push_cast
    omega
  · have hfirst := julianDay_next_month d.year hmonth
    rw [hnext]
    push_cast
    omega
  · have hfirst := julianDay_next_year d.year
    rw [hnext, hmonth]
    push_cast
    omega

end Valid

/-- Gregorian dates that follow each other are Islamic dates that do. -/
theorem ofGregorian_nextBy {d : Date} (hd : d.Valid) (hyear : -999999 ≤ d.year)
    (hyear' : (d.nextBy daysInMonth).year ≤ 999999) :
    ofGregorian (d.nextBy daysInMonth) = (ofGregorian d).nextBy monthLength := by
  have hle := Date.year_le_nextBy daysInMonth d
  have hthis := lossless_of_valid hd ⟨hyear, hle.trans hyear'⟩
  have hnext := lossless_of_valid hd.nextBy ⟨hyear.trans hle, hyear'⟩
  have hvalid : Valid (ofGregorian d) := hthis.valid
  -- both dates that follow have the same Julian day
  have hjd : (d.nextBy daysInMonth).dayNumber + julianDayOfZero =
      julianDayOf ((ofGregorian d).nextBy monthLength) := by
    calc (d.nextBy daysInMonth).dayNumber + julianDayOfZero
        = d.dayNumber + julianDayOfZero + 1 := by rw [hd.dayNumber_nextBy, Int.add_right_comm]
      _ = julianDayOf (ofGregorian d) + 1 := by rw [ofGregorian, hthis.julianDayOf]
      _ = julianDayOf ((ofGregorian d).nextBy monthLength) := hvalid.julianDayOf_nextBy.symm
  have hbounds := hnext.year_bounds
  rw [hjd, hvalid.nextBy.yearOf_julianDayOf] at hbounds
  rw [ofGregorian, hjd, hvalid.nextBy.ofJulianDay_julianDayOf hbounds]

/-! ## The whole calendar -/

/-- **Julian days and Islamic dates name the same days.** The date that is found for a Julian day is
one of the calendar, and the Julian day is found again from it, as long as the year has 32 bits; and
so is every such date of the calendar from its Julian day. Dates that follow each other in the
Gregorian calendar follow each other in the Islamic one, among all that are accepted. -/
theorem julianDay_bijective :
    (∀ jd, -2147483648 ≤ yearOf jd ∧ yearOf jd < 2147483648 →
      Valid (ofJulianDay jd) ∧ (ofJulianDay jd).year = yearOf jd ∧
        julianDayOf (ofJulianDay jd) = jd) ∧
    (∀ d, Valid d → -2147483648 ≤ d.year ∧ d.year < 2147483648 →
      yearOf (julianDayOf d) = d.year ∧ ofJulianDay (julianDayOf d) = d) ∧
    (∀ d : Date, d.Valid → -999999 ≤ d.year → (d.nextBy daysInMonth).year ≤ 999999 →
      (d.nextBy daysInMonth).dayNumber = d.dayNumber + 1 ∧
        ofGregorian (d.nextBy daysInMonth) = (ofGregorian d).nextBy monthLength) := by
  refine ⟨?_, ?_, ?_⟩
  · intro jd hyear
    have hlossless := lossless_of_year hyear
    exact ⟨hlossless.valid, hlossless.year_eq, hlossless.julianDayOf⟩
  · intro d hd hyear
    exact ⟨hd.yearOf_julianDayOf, hd.ofJulianDay_julianDayOf hyear⟩
  · intro d hd hyear hyear'
    exact ⟨hd.dayNumber_nextBy, ofGregorian_nextBy hd hyear hyear'⟩

/-- The 30th day of the twelfth month of the leap year -1 is found from either side, and the year 0
begins on the day after it. -/
theorem julianDay_bijective_leapDay :
    ofJulianDay 1948085 = ⟨-1, 12, 30⟩ ∧ Valid ⟨-1, 12, 30⟩ ∧
      julianDayOf ⟨-1, 12, 30⟩ = 1948085 ∧
      ofJulianDay (julianDayOf ⟨-1, 12, 30⟩) = ⟨-1, 12, 30⟩ ∧
      ofGregorian ⟨621, 7, 29⟩ = ⟨-1, 12, 30⟩ ∧ ofGregorian ⟨621, 7, 30⟩ = ⟨0, 1, 1⟩ := by
  obtain ⟨hjd, hdate, hnext⟩ := julianDay_bijective
  have hfound : ofJulianDay 1948085 = ⟨-1, 12, 30⟩ := by decide
  obtain ⟨hvalid, -, hback⟩ := hjd 1948085 (by decide)
  rw [hfound] at hvalid hback
  have hgregorian : ofGregorian ⟨621, 7, 29⟩ = ⟨-1, 12, 30⟩ := by decide
  refine ⟨hfound, hvalid, hback, (hdate _ hvalid (by decide)).2, hgregorian, ?_⟩
  have hday : Date.Valid ⟨621, 7, 29⟩ := ⟨by decide, by decide, by decide, by decide⟩
  have htomorrow : Date.nextBy daysInMonth ⟨621, 7, 29⟩ = ⟨621, 7, 30⟩ := by decide
  have hfollows := (hnext ⟨621, 7, 29⟩ hday (by decide) (by decide)).2
  rw [hgregorian, htomorrow] at hfollows
  exact hfollows

end Hijri

end TemporalFormat
