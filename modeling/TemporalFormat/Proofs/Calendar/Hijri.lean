import TemporalFormat.Calendar.Output
import TemporalFormat.Proofs.Calendar.DayNumber

/-!
# Islamic dates

The year, the month and the day that are found for a Julian day are those in which it lies: the year
has begun (`Hijri.yearStart_le`), so has the month (`Hijri.monthStart_le`), and the month has at
most 30 days (`Hijri.lt_monthStart_add`). Hence the Julian day can be computed back from them, and
no two Gregorian dates have the same Islamic date as long as the year can be counted.
-/

set_option autoImplicit false

namespace TemporalFormat.Hijri

/-- The Julian day of the first day of a year. -/
theorem julianDay_year (year : Int) :
    julianDay year 1 1 = (year - 1) * 354 + (3 + 11 * year) / 30 + epoch := by
  simp only [julianDay]
  omega

/-- The Julian day of the first day of a month. -/
theorem julianDay_month (year month : Int) :
    julianDay year month 1 = julianDay year 1 1 + (59 * (month - 1) + 1) / 2 := by
  simp only [julianDay]
  omega

/-- The Julian day of any day of a month. -/
theorem julianDay_day (year month day : Int) :
    julianDay year month day = julianDay year month 1 + day - 1 := by
  simp only [julianDay]
  omega

/-! ## The year and the month of a Julian day -/

section JulianDay

variable (jd : Int)

/-- The year of a Julian day has begun. -/
theorem yearStart_le : julianDay (yearOf jd) 1 1 ≤ jd := by
  rw [julianDay_year, yearOf, epoch]
  omega

/-- The next year has not begun. -/
theorem lt_yearStart : jd < julianDay (yearOf jd + 1) 1 1 := by
  rw [julianDay_year, yearOf, epoch]
  omega

/-- A year has at most 355 days. -/
theorem lt_yearStart_add : jd < julianDay (yearOf jd) 1 1 + 355 := by
  have hnext := lt_yearStart jd
  rw [julianDay_year] at hnext ⊢
  omega

/-- Months are counted from 1 to 12. -/
theorem monthOf_bounds (year : Int) : 1 ≤ monthOf year jd ∧ monthOf year jd ≤ 12 := by
  simp only [monthOf]
  omega

/-- The month of a Julian day has begun. -/
theorem monthStart_le : julianDay (yearOf jd) (monthOf (yearOf jd) jd) 1 ≤ jd := by
  -- only the first month needs that the year has begun
  have hyear := yearStart_le jd
  rw [julianDay_month, monthOf]
  omega

/-- A month has at most 30 days. -/
theorem lt_monthStart_add :
    jd < julianDay (yearOf jd) (monthOf (yearOf jd) jd) 1 + 30 := by
  -- only the last month, which may have a day more, needs the length of the year
  have hyear := lt_yearStart_add jd
  rw [julianDay_month, monthOf]
  omega

end JulianDay

/-! ## The date of a Julian day -/

/-- The Julian day of a date of the calendar. -/
def julianDayOf (d : Date) : Int :=
  julianDay d.year d.month d.day

/-- The day is counted from the beginning of the month, which has at most 30 days. -/
theorem day_bounds (jd : Int) :
    1 ≤ jd - julianDay (yearOf jd) (monthOf (yearOf jd) jd) 1 + 1 ∧
      jd - julianDay (yearOf jd) (monthOf (yearOf jd) jd) 1 + 1 ≤ 30 := by
  have hstart := monthStart_le jd
  have hend := lt_monthStart_add jd
  omega

/-- The month and the day that are found are those of a calendar. -/
theorem ofJulianDay_bounds (jd : Int) :
    1 ≤ (ofJulianDay jd).month ∧ (ofJulianDay jd).month ≤ 12 ∧
      1 ≤ (ofJulianDay jd).day ∧ (ofJulianDay jd).day ≤ 30 := by
  have hmonth := monthOf_bounds jd (yearOf jd)
  have hday := day_bounds jd
  simp only [ofJulianDay]
  omega

/-- Nothing is lost when the numbers that are found for a Julian day are put into a date: the year
fits into 32 bits with a sign, and the month and the day are positive. -/
structure Lossless (jd : Int) : Prop where
  year_bounds : -2147483648 ≤ yearOf jd ∧ yearOf jd < 2147483648
  month_bounds : 1 ≤ monthOf (yearOf jd) jd ∧ monthOf (yearOf jd) jd ≤ 12
  day_bounds : 1 ≤ jd - julianDay (yearOf jd) (monthOf (yearOf jd) jd) 1 + 1 ∧
    jd - julianDay (yearOf jd) (monthOf (yearOf jd) jd) 1 + 1 ≤ 30
  year_eq : (ofJulianDay jd).year = yearOf jd
  month_eq : ((ofJulianDay jd).month : Int) = monthOf (yearOf jd) jd
  day_eq : ((ofJulianDay jd).day : Int) =
    jd - julianDay (yearOf jd) (monthOf (yearOf jd) jd) 1 + 1

/-- The month and the day are always in their ranges, so it is only the year that could be lost. -/
theorem lossless_of_year {jd : Int} (hyear : -2147483648 ≤ yearOf jd ∧ yearOf jd < 2147483648) :
    Lossless jd := by
  have hmonth := monthOf_bounds jd (yearOf jd)
  have hday := day_bounds jd
  refine ⟨hyear, hmonth, hday, signed32_eq_self hyear, ?_, ?_⟩
  · exact Int.toNat_of_nonneg (by omega)
  · exact Int.toNat_of_nonneg (by omega)

/-- The Julian day can be computed back from the date that is found for it. -/
theorem Lossless.julianDayOf {jd : Int} (h : Lossless jd) :
    julianDayOf (ofJulianDay jd) = jd := by
  rw [Hijri.julianDayOf, julianDay_day, h.year_eq, h.month_eq, h.day_eq]
  omega

/-- Nothing is lost of an accepted date. -/
theorem lossless_of_valid {d : Date} (hd : d.Valid)
    (hyear : -999999 ≤ d.year ∧ d.year ≤ 999999) : Lossless (d.dayNumber + julianDayOfZero) := by
  have hstart := hd.yearStart_le
  have hend := hd.lt_yearStart
  rw [yearStart_eq] at hstart hend
  apply lossless_of_year
  rw [yearOf, julianDayOfZero, epoch]
  omega

/-- **Accepted dates are told apart by their Islamic dates.** -/
theorem eq_of_ofGregorian_eq {d e : Date} (hd : d.Valid) (he : e.Valid)
    (hdyear : -999999 ≤ d.year ∧ d.year ≤ 999999) (heyear : -999999 ≤ e.year ∧ e.year ≤ 999999)
    (h : ofGregorian d = ofGregorian e) : d = e := by
  have hjd := congrArg julianDayOf h
  rw [ofGregorian, ofGregorian, (lossless_of_valid hd hdyear).julianDayOf,
    (lossless_of_valid he heyear).julianDayOf] at hjd
  exact hd.eq_of_dayNumber_eq he (by omega)

end TemporalFormat.Hijri
