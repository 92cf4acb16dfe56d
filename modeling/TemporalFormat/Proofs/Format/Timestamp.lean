import TemporalFormat.Proofs.Calendar.Output
import TemporalFormat.Proofs.Format.Composition
import TemporalFormat.Proofs.Moment.Reachable
import TemporalFormat.Proofs.Numeral.Decoding

/-!
# Timestamps

The pattern `yyyy-MM-dd'T'HH:mm:ss.SSS` tells all parts of a date and time but the zone, in every
calendar and in the digits of every numbering system: `DateTime.Reachable.eq_of_timestamp_eq`. The
year may have any number of digits and a sign, but each of the other numbers has a width of its own,
so that a timestamp can be read from its end.
-/

set_option autoImplicit false

namespace TemporalFormat

/-- The pattern that names every part of a date and time but the zone. -/
def timestampPattern : String :=
  "yyyy-MM-dd'T'HH:mm:ss.SSS"

namespace Formatter

variable (f : Formatter)

/-- The least number of digits of a year, which is padded only without an output calendar. -/
def yearDigits : Nat :=
  if f.locale.outputCalendar.isSome then 0 else 4

/-- A text that goes on with a mark and a number of a fixed width. -/
def goOn (text mark : String) (digits value : Nat) : String :=
  text ++ (mark ++ f.formatNumber digits value)

/-- The timestamp of a moment whose date is shown as `shown`. -/
def timestamp (shown : Date) (m : Moment) : String :=
  let year := f.formatNumber f.yearDigits shown.year
  let month := f.goOn year "-" 2 shown.month
  let day := f.goOn month "-" 2 shown.day
  let hour := f.goOn day "T" 2 m.hour
  let minute := f.goOn hour ":" 2 m.minute
  let second := f.goOn minute ":" 2 m.second
  f.goOn second "." 3 m.millisecond

/-! ## Writing timestamps -/

variable {f} {m : Moment}

/-- A pattern that goes on with a mark and a token yields a text that goes on. -/
theorem Yields.goOn {p mark token text written : String} {digits value : Nat}
    (hp : f.Yields m p (pure text)) (hmark : f.Yields m mark (pure written))
    (htoken : f.Yields m token (pure (f.formatNumber digits value)))
    (hseam : ¬ LetterSeam mark.toList token.toList)
    (hseam' : ¬ LetterSeam p.toList (mark ++ token).toList) :
    f.Yields m (p ++ (mark ++ token)) (pure (f.goOn text written digits value)) :=
  hp.append (hmark.append htoken hseam) hseam'

variable {shown : Date} (hshown : f.locale.calendar.convert m.date = .ok shown)

include hshown

/-- The token of a year of four digits yields the year. -/
theorem yields_year : f.Yields m "yyyy" (pure (f.formatNumber f.yearDigits shown.year)) := by
  refine Yields.directive (d := .dated .year 4 .year { year := some .numeric }) rfl rfl rfl ?_
  cases hcalendar : f.locale.outputCalendar with
  | none =>
    have hsame : shown = m.date := by
      rw [Locale.calendar, hcalendar] at hshown
      exact (Except.ok.inj hshown).symm
    rw [applyDirective, yearDigits, hcalendar, hsame]
    rfl
  | some calendar =>
    rw [applyDirective, yearDigits, hcalendar, Locale.fieldText, hshown]
    rfl

/-- The token of a month of two digits yields the month. -/
theorem yields_month : f.Yields m "MM" (pure (f.formatNumber 2 shown.month)) := by
  refine Yields.directive rfl rfl rfl ((f.applyDirective_month m .twoDigit).trans ?_)
  rw [Locale.fieldText, hshown]
  rfl

/-- The token of a day of two digits yields the day. -/
theorem yields_day : f.Yields m "dd" (pure (f.formatNumber 2 shown.day)) := by
  refine Yields.directive rfl rfl rfl ((f.applyDirective_day m .twoDigit).trans ?_)
  rw [Locale.fieldText, hshown]
  rfl

/-- The pattern of a timestamp yields the timestamp. -/
theorem yields_timestamp : f.Yields m timestampPattern (pure (f.timestamp shown m)) := by
  have hhyphen : f.Yields m "-" (pure "-") := .literal rfl rfl
  have hcolon : f.Yields m ":" (pure ":") := .literal rfl rfl
  have hpoint : f.Yields m "." (pure ".") := .literal rfl rfl
  have hT : f.Yields m "'T'" (pure "T") := .quoted (show quoteMark ∉ "T".toList by decide)
  have hhour : f.Yields m "HH" (pure (f.formatNumber 2 m.hour)) :=
    .directive (d := .number .hour 2) rfl rfl rfl rfl
  have hminute : f.Yields m "mm" (pure (f.formatNumber 2 m.minute)) :=
    .directive (d := .number .minute 2) rfl rfl rfl rfl
  have hsecond : f.Yields m "ss" (pure (f.formatNumber 2 m.second)) :=
    .directive (d := .number .second 2) rfl rfl rfl rfl
  have hmillisecond : f.Yields m "SSS" (pure (f.formatNumber 3 m.millisecond)) :=
    .directive (d := .number .millisecond 3) rfl rfl rfl rfl
  have hdate := ((yields_year hshown).goOn hhyphen (yields_month hshown) (by decide)
    (by decide)).goOn hhyphen (yields_day hshown) (by decide) (by decide)
  exact (((hdate.goOn hT hhour (by decide) (by decide)).goOn hcolon hminute (by decide)
    (by decide)).goOn hcolon hsecond (by decide) (by decide)).goOn hpoint hmillisecond
    (by decide) (by decide)

omit hshown

/-! ## Reading timestamps -/

/-- Two texts that go on in the same way are told apart by their beginnings and their numbers. -/
theorem goOn_inj {text text' mark : String} {digits value value' : Nat} (hpos : 0 < digits)
    (hvalue : value < 10 ^ digits) (hvalue' : value' < 10 ^ digits)
    (h : f.goOn text mark digits value = f.goOn text' mark digits value') :
    text = text' ∧ value = value' := by
  have hlength := f.locale.numberingSystem.length_signedNumeral hpos hvalue
  have hlength' := f.locale.numberingSystem.length_signedNumeral hpos hvalue'
  have hchars := congrArg String.toList h
  simp only [goOn, String.toList_append, formatNumber, Locale.formatNumber] at hchars
  obtain ⟨htext, hrest⟩ := List.append_inj' hchars (by simp only [List.length_append]; omega)
  have hnumber := String.toList_injective (List.append_cancel_left hrest)
  have hequal := f.locale.numberingSystem.eq_of_signedNumeral_eq hnumber
  exact ⟨String.toList_injective htext, by omega⟩

/-- Dates and times with the same timestamp are shown with the same date and have the same time. -/
theorem shown_eq_of_timestamp_eq {m' : Moment} {shown' : Date}
    (hmonth : shown.month ≤ 12) (hmonth' : shown'.month ≤ 12)
    (hday : shown.day ≤ 31) (hday' : shown'.day ≤ 31)
    (hm : m.Consistent) (hm' : m'.Consistent)
    (h : f.timestamp shown m = f.timestamp shown' m') :
    shown = shown' ∧ m.hour = m'.hour ∧ m.minute = m'.minute ∧ m.second = m'.second ∧
      m.millisecond = m'.millisecond := by
  simp only [timestamp] at h
  have := hm.hour_le
  have := hm'.hour_le
  have := hm.minute_le
  have := hm'.minute_le
  have := hm.second_le
  have := hm'.second_le
  have := hm.millisecond_le
  have := hm'.millisecond_le
  -- from the end to the beginning, since only the year has no width of its own
  obtain ⟨h, hmillisecond⟩ := goOn_inj (by decide) (by omega) (by omega) h
  obtain ⟨h, hsecond⟩ := goOn_inj (by decide) (by omega) (by omega) h
  obtain ⟨h, hminute⟩ := goOn_inj (by decide) (by omega) (by omega) h
  obtain ⟨h, hhour⟩ := goOn_inj (by decide) (by omega) (by omega) h
  obtain ⟨h, hday⟩ := goOn_inj (by decide) (by omega) (by omega) h
  obtain ⟨h, hmonth⟩ := goOn_inj (by decide) (by omega) (by omega) h
  have hyear := f.locale.numberingSystem.eq_of_signedNumeral_eq h
  obtain ⟨year, month, day⟩ := shown
  obtain ⟨year', month', day'⟩ := shown'
  simp only [Date.mk.injEq]
  exact ⟨⟨hyear, hmonth, hday⟩, hhour, hminute, hsecond, hmillisecond⟩

end Formatter

/-- **A timestamp tells the date and time**, in whatever calendar and digits it is written. Every
date and time to which requests lead has a timestamp, and two of them that have the same one have
the same date, hour, minute, second and millisecond. -/
theorem DateTime.Reachable.eq_of_timestamp_eq (f : Formatter) {a b : DateTime} (ha : a.Reachable)
    (hb : b.Reachable) :
    ∃ s t, f.formatDateTime a.toMoment timestampPattern = .ok s ∧
      f.formatDateTime b.toMoment timestampPattern = .ok t ∧
      (s = t → a.date = b.date ∧ a.hour = b.hour ∧ a.minute = b.minute ∧ a.second = b.second ∧
        a.millisecond = b.millisecond) := by
  rw [DateTime.reachable_iff_valid] at ha hb
  have hayear : -999999 ≤ a.date.year ∧ a.date.year ≤ 999999 := ⟨ha.minYear_le, ha.le_maxYear⟩
  have hbyear : -999999 ≤ b.date.year ∧ b.date.year ≤ 999999 := ⟨hb.minYear_le, hb.le_maxYear⟩
  obtain ⟨shown, hshown⟩ := Calendar.exists_convert f.locale.calendar
    (by rw [Calendar.maxYear]; omega : a.date.year + 543 ≤ Calendar.maxYear)
  obtain ⟨shown', hshown'⟩ := Calendar.exists_convert f.locale.calendar
    (by rw [Calendar.maxYear]; omega : b.date.year + 543 ≤ Calendar.maxYear)
  refine ⟨f.timestamp shown a.toMoment, f.timestamp shown' b.toMoment,
    (Formatter.yields_timestamp hshown).formatDateTime_eq,
    (Formatter.yields_timestamp hshown').formatDateTime_eq, ?_⟩
  intro h
  have hmonth := Calendar.month_of_convert hshown
    ⟨ha.date_valid.month_pos, ha.date_valid.month_le⟩
  have hmonth' := Calendar.month_of_convert hshown'
    ⟨hb.date_valid.month_pos, hb.date_valid.month_le⟩
  have hday := Calendar.day_of_convert hshown ha.date_valid
  have hday' := Calendar.day_of_convert hshown' hb.date_valid
  obtain ⟨rfl, htime⟩ := Formatter.shown_eq_of_timestamp_eq hmonth.2 hmonth'.2 hday.2 hday'.2
    ha.consistent hb.consistent h
  exact ⟨Calendar.eq_of_convert_eq ha.date_valid hb.date_valid hayear hbyear hshown hshown', htime⟩

/-- In the Islamic calendar and Arabic digits, the last millisecond of a year and the first one of
the next year have different timestamps. -/
theorem DateTime.Reachable.timestamp_ne_newYear :
    ∃ s t, Formatter.formatDateTime ⟨⟨.english, .arab, some .islamic⟩, true, true⟩
        (run epoch [.onDate (-1) 12 31, .atTime 23 59 59 999]).toMoment timestampPattern = .ok s ∧
      Formatter.formatDateTime ⟨⟨.english, .arab, some .islamic⟩, true, true⟩
        (run epoch [.onDate 0 1 1]).toMoment timestampPattern = .ok t ∧ s ≠ t := by
  obtain ⟨s, t, hs, ht, h⟩ := eq_of_timestamp_eq ⟨⟨.english, .arab, some .islamic⟩, true, true⟩
    (a := run epoch [.onDate (-1) 12 31, .atTime 23 59 59 999]) (b := run epoch [.onDate 0 1 1])
    ⟨_, rfl⟩ ⟨_, rfl⟩
  refine ⟨s, t, hs, ht, ?_⟩
  intro hst
  exact absurd (h hst).1 (by decide)

end TemporalFormat
