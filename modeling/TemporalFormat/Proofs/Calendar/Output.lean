import TemporalFormat.Calendar.Output
import TemporalFormat.Proofs.Calendar.Hijri

/-!
# Dates in output calendars

A date that can be counted in an output calendar has a month from 1 to 12 and a day from 1 to 31
there, and the dates that are accepted are told apart in every calendar.
-/

set_option autoImplicit false

namespace TemporalFormat

/-- No month has more than 31 days. -/
theorem daysInMonth_le (year : Int) (month : Nat) : daysInMonth year month ≤ 31 := by
  have hlengths : ∀ length ∈ monthLengths, length ≤ 31 := by decide
  unfold daysInMonth
  split
  · decide
  · rw [List.getD_eq_getElem?_getD]
    cases h : monthLengths[month]? with
    | none => decide
    | some length => exact hlengths length (List.mem_of_getElem? h)

namespace Calendar

variable {calendar : Calendar} {d e shown : Date}

/-- A date is shown in any calendar as long as its Buddhist year can be counted where it is to be
shown. -/
theorem exists_convert_of_buddhist
    (hyear : calendar = .buddhist → d.year + 543 ≤ maxYear) :
    ∃ shown, calendar.convert d = .ok shown := by
  cases calendar with
  | gregory => exact ⟨d, rfl⟩
  | buddhist =>
    have := hyear rfl
    exact ⟨{ d with year := d.year + 543 }, if_neg (by omega)⟩
  | islamic => exact ⟨Hijri.ofGregorian d, rfl⟩

/-- A date whose Buddhist year can be counted is shown in every calendar. -/
theorem exists_convert (calendar : Calendar) (hyear : d.year + 543 ≤ maxYear) :
    ∃ shown, calendar.convert d = .ok shown :=
  exists_convert_of_buddhist fun _ => hyear

/-- What the Buddhist calendar shows. -/
theorem convert_buddhist_eq_ok_iff :
    Calendar.buddhist.convert d = .ok shown ↔
      d.year + 543 ≤ maxYear ∧ shown = { d with year := d.year + 543 } := by
  rw [convert]
  split
  · simp only [reduceCtorEq, false_iff]
    omega
  · rw [Except.ok.injEq, eq_comm]
    exact ⟨fun h => ⟨by omega, h⟩, And.right⟩

/-- The month that is shown has a number from 1 to 12. -/
theorem month_of_convert (h : calendar.convert d = .ok shown)
    (hmonth : 1 ≤ d.month ∧ d.month ≤ 12) : 1 ≤ shown.month ∧ shown.month ≤ 12 := by
  cases calendar with
  | gregory =>
    obtain rfl := Except.ok.inj h
    exact hmonth
  | buddhist =>
    obtain ⟨-, rfl⟩ := convert_buddhist_eq_ok_iff.mp h
    exact hmonth
  | islamic =>
    obtain rfl := Except.ok.inj h
    have := Hijri.ofJulianDay_bounds (d.dayNumber + Hijri.julianDayOfZero)
    exact ⟨this.1, this.2.1⟩

/-- The day that is shown has a number from 1 to 31. -/
theorem day_of_convert (h : calendar.convert d = .ok shown) (hd : d.Valid) :
    1 ≤ shown.day ∧ shown.day ≤ 31 := by
  have hday := hd.day_pos
  have hday' := le_trans hd.day_le (daysInMonth_le d.year d.month)
  cases calendar with
  | gregory =>
    obtain rfl := Except.ok.inj h
    exact ⟨hday, hday'⟩
  | buddhist =>
    obtain ⟨-, rfl⟩ := convert_buddhist_eq_ok_iff.mp h
    exact ⟨hday, hday'⟩
  | islamic =>
    obtain rfl := Except.ok.inj h
    obtain ⟨-, -, hpos, hle⟩ := Hijri.ofJulianDay_bounds (d.dayNumber + Hijri.julianDayOfZero)
    exact ⟨hpos, le_trans hle (by decide)⟩

/-- **Accepted dates are told apart in every calendar.** -/
theorem eq_of_convert_eq (hd : d.Valid) (he : e.Valid)
    (hdyear : -999999 ≤ d.year ∧ d.year ≤ 999999) (heyear : -999999 ≤ e.year ∧ e.year ≤ 999999)
    (h : calendar.convert d = .ok shown) (h' : calendar.convert e = .ok shown) : d = e := by
  cases calendar with
  | gregory => exact (Except.ok.inj h).trans (Except.ok.inj h').symm
  | buddhist =>
    obtain ⟨-, rfl⟩ := convert_buddhist_eq_ok_iff.mp h
    obtain ⟨-, heq⟩ := convert_buddhist_eq_ok_iff.mp h'
    obtain ⟨year, month, day⟩ := d
    obtain ⟨year', month', day'⟩ := e
    simp only [Date.mk.injEq] at heq ⊢
    exact ⟨by omega, heq.2⟩
  | islamic =>
    exact Hijri.eq_of_ofGregorian_eq hd he hdyear heyear
      ((Except.ok.inj h).trans (Except.ok.inj h').symm)

end Calendar

end TemporalFormat
