import TemporalFormat.Proofs.Calendar.WeekDate
import TemporalFormat.Proofs.Format.Timestamp
import TemporalFormat.Proofs.Numeral.Transcription

/-!
# Texts that sort

In ASCII digits and without an output calendar, timestamps of the years 0 to 9999 come in the order
of time, and texts such as `2021-W01-1` that name a day by its week come in the order of the days:
`DateTime.Reachable.texts_sorted`. All numbers in such a text have a width of their own, so that
texts are compared number by number, `Formatter.SortsAs.goOn`.
-/

set_option autoImplicit false

namespace TemporalFormat

/-- The pattern that names a day by the year of its week, the week and the weekday. -/
def weekDatePattern : String :=
  "kkkk-'W'WW-c"

/-- The year, the month, the day and the parts of the time of a moment. -/
def Moment.parts (m : Moment) : List ℤ :=
  [m.date.year, m.date.month, m.date.day, m.hour, m.minute, m.second, m.millisecond]

/-- The year of the week, the week and the weekday of a moment. -/
def Moment.weekParts (m : Moment) : List ℤ :=
  [m.week.year, m.week.week, m.weekday]

namespace Formatter

variable (f : Formatter)

/-- The text of a moment that names its day by the week. -/
def weekDateText (m : Moment) : String :=
  let year := f.formatNumber 4 m.week.year
  let week := f.goOn year "-W" 2 m.week.week
  f.goOn week "-" 0 m.weekday

variable {f}

/-- The pattern of a week date yields the week date. -/
theorem yields_weekDateText (m : Moment) :
    f.Yields m weekDatePattern (pure (f.weekDateText m)) := by
  have hhyphen : f.Yields m "-" (pure "-") := .literal rfl rfl
  have hW : f.Yields m "'W'" (pure "W") := .quoted (show quoteMark ∉ "W".toList by decide)
  have hyear : f.Yields m "kkkk" (pure (f.formatNumber 4 m.week.year)) :=
    .directive (d := .number .weekYear 4) rfl rfl rfl rfl
  have hweek : f.Yields m "WW" (pure (f.formatNumber 2 m.week.week)) :=
    .directive (d := .number .week 2) rfl rfl rfl rfl
  have hday : f.Yields m "c" (pure (f.formatNumber 0 m.weekday)) :=
    .directive (d := .number .weekday 0) rfl rfl rfl rfl
  have hmark : f.Yields m "-'W'" (pure "-W") := hhyphen.append hW (by decide)
  exact (hyear.goOn hmark hweek (by decide) (by decide)).goOn hhyphen hday (by decide) (by decide)

/-! ## The order of texts -/

/-- Two texts of one length are compared as two lists of numbers of one length are. -/
structure SortsAs (s t : String) (xs ys : List ℤ) : Prop where
  length_text : s.toList.length = t.toList.length
  length_list : xs.length = ys.length
  lt_iff : s < t ↔ xs < ys
  eq_iff : s = t ↔ xs = ys

/-- Lists with one more number are compared by it only if the other numbers are the same. -/
theorem concat_lt_concat_iff {xs ys : List ℤ} (hlength : xs.length = ys.length) (x y : ℤ) :
    xs ++ [x] < ys ++ [y] ↔ xs < ys ∨ xs = ys ∧ x < y := by
  rw [append_lt_append_iff hlength, List.cons_lt_cons_iff]
  simp

/-- Empty texts are sorted as empty lists of numbers are. -/
theorem SortsAs.empty : SortsAs "" "" [] [] where
  length_text := rfl
  length_list := rfl
  lt_iff := by simp
  eq_iff := by simp

section Latn

variable (hlatn : f.locale.numberingSystem = .latn)

include hlatn

/-- A text goes on with a mark and ASCII digits. -/
theorem toList_goOn (text mark : String) (digits n : Nat) :
    (f.goOn text mark digits n).toList =
      text.toList ++ (mark.toList ++ paddedDigits digits n) := by
  have hnumber : (f.formatNumber digits n).toList = paddedDigits digits n := by
    have hneg : ¬ (n : ℤ) < 0 := by omega
    rw [formatNumber, Locale.formatNumber, hlatn, NumberingSystem.signedNumeral, if_neg hneg,
      String.empty_append, Int.natAbs_natCast, NumberingSystem.toList_numeral,
      NumberingSystem.transcribe, List.map_congr_left fun c _ =>
        NumberingSystem.transcribeChar_latn c, List.map_id']
  rw [goOn, String.toList_append, String.toList_append, hnumber]

/-- Texts that go on in the same way are compared by their numbers only if they began alike. -/
theorem goOn_lt_iff {s t mark : String} (hlength : s.toList.length = t.toList.length)
    {digits n m : Nat} (hpos : 0 < digits) (hn : n < 10 ^ digits) (hm : m < 10 ^ digits) :
    f.goOn s mark digits n < f.goOn t mark digits m ↔ s < t ∨ s = t ∧ n < m := by
  rw [String.lt_iff_toList_lt, toList_goOn hlatn, toList_goOn hlatn,
    append_lt_append_iff hlength, append_lt_append_iff rfl, paddedDigits_lt_iff hpos hn hm,
    ← String.lt_iff_toList_lt, String.toList_inj]
  simp

/-- Texts that go on with a number of a fixed width are sorted by this number after all others. -/
theorem SortsAs.goOn {s t mark : String} {xs ys : List ℤ} (h : SortsAs s t xs ys)
    {digits n m : Nat} (hpos : 0 < digits) (hn : n < 10 ^ digits) (hm : m < 10 ^ digits) :
    SortsAs (f.goOn s mark digits n) (f.goOn t mark digits m) (xs ++ [(n : ℤ)])
      (ys ++ [(m : ℤ)]) where
  length_text := by
    rw [toList_goOn hlatn, toList_goOn hlatn, List.length_append, List.length_append,
      List.length_append, List.length_append, h.length_text, length_paddedDigits_of_lt hpos hn,
      length_paddedDigits_of_lt hpos hm]
  length_list := by
    rw [List.length_append, List.length_append, h.length_list]
    rfl
  lt_iff := by
    rw [goOn_lt_iff hlatn h.length_text hpos hn hm, concat_lt_concat_iff h.length_list, h.lt_iff,
      h.eq_iff, Int.ofNat_lt]
  eq_iff := by
    rw [List.append_singleton_inj, ← h.eq_iff, Int.natCast_inj]
    constructor
    · exact goOn_inj hpos hn hm
    · rintro ⟨rfl, rfl⟩
      rfl

/-- Numbers of a fixed width are sorted as texts. -/
theorem SortsAs.formatNumber {digits n m : Nat} (hpos : 0 < digits) (hn : n < 10 ^ digits)
    (hm : m < 10 ^ digits) :
    SortsAs (f.formatNumber digits n) (f.formatNumber digits m) [(n : ℤ)] [(m : ℤ)] := by
  have h : SortsAs (f.goOn "" "" digits n) (f.goOn "" "" digits m) ([] ++ [(n : ℤ)])
      ([] ++ [(m : ℤ)]) := .goOn hlatn .empty hpos hn hm
  simpa only [Formatter.goOn, String.empty_append, List.nil_append] using h

end Latn

/-- A digit that is not asked for is written all the same. -/
theorem goOn_zero (text mark : String) (n : Nat) : f.goOn text mark 0 n = f.goOn text mark 1 n := by
  have hpos : 0 < (Nat.toDigits 10 n).length := Nat.length_toDigits_pos
  have hnumber : f.formatNumber 0 n = f.formatNumber 1 n :=
    f.locale.numberingSystem.signedNumeral_eq_iff.mpr ⟨rfl, by rw [Int.natAbs_natCast]; omega⟩
  rw [goOn, goOn, hnumber]

section Moments

variable {m m' : Moment} (hlatn : f.locale.numberingSystem = .latn) (hm : m.Consistent)
  (hm' : m'.Consistent)

include hlatn hm hm'

/-- Timestamps are compared part by part. -/
theorem sortsAs_timestamp (hcalendar : f.locale.outputCalendar = none)
    (hyear : 0 ≤ m.date.year ∧ m.date.year ≤ 9999)
    (hyear' : 0 ≤ m'.date.year ∧ m'.date.year ≤ 9999) :
    SortsAs (f.timestamp m.date m) (f.timestamp m'.date m') m.parts m'.parts := by
  have hdigits : f.yearDigits = 4 := by
    rw [yearDigits, hcalendar]
    rfl
  obtain ⟨year, hcast⟩ := Int.eq_ofNat_of_zero_le hyear.1
  obtain ⟨year', hcast'⟩ := Int.eq_ofNat_of_zero_le hyear'.1
  -- every part of a moment fits the width that the pattern gives it
  have := hm.date_valid.month_le
  have := hm'.date_valid.month_le
  have := hm.date_valid.day_le.trans (daysInMonth_le _ _)
  have := hm'.date_valid.day_le.trans (daysInMonth_le _ _)
  have := hm.hour_le
  have := hm'.hour_le
  have := hm.minute_le
  have := hm'.minute_le
  have := hm.second_le
  have := hm'.second_le
  have := hm.millisecond_le
  have := hm'.millisecond_le
  rw [timestamp, timestamp, Moment.parts, Moment.parts, hdigits, hcast, hcast']
  have hyears : SortsAs (f.formatNumber 4 year) (f.formatNumber 4 year') [(year : ℤ)]
      [(year' : ℤ)] :=
    .formatNumber hlatn (by decide) (by omega) (by omega)
  exact (((((hyears.goOn hlatn (by decide) (by omega) (by omega)).goOn hlatn (by decide) (by omega)
    (by omega)).goOn hlatn (by decide) (by omega) (by omega)).goOn hlatn (by decide) (by omega)
    (by omega)).goOn hlatn (by decide) (by omega) (by omega)).goOn hlatn (by decide) (by omega)
    (by omega)

/-- Week dates are compared by the year, the week and the weekday. -/
theorem sortsAs_weekDateText (hyear : 0 ≤ m.week.year ∧ m.week.year ≤ 9999)
    (hyear' : 0 ≤ m'.week.year ∧ m'.week.year ≤ 9999) :
    SortsAs (f.weekDateText m) (f.weekDateText m') m.weekParts m'.weekParts := by
  obtain ⟨year, hcast⟩ := Int.eq_ofNat_of_zero_le hyear.1
  obtain ⟨year', hcast'⟩ := Int.eq_ofNat_of_zero_le hyear'.1
  have := hm.week_le
  have := hm'.week_le
  have := hm.weekday_le
  have := hm'.weekday_le
  rw [weekDateText, weekDateText, Moment.weekParts, Moment.weekParts, hcast, hcast', goOn_zero,
    goOn_zero]
  exact ((SortsAs.formatNumber hlatn (by decide) (by omega) (by omega)).goOn hlatn (by decide)
    (by omega) (by omega)).goOn hlatn (by decide) (by omega) (by omega)

end Moments

end Formatter

namespace DateTime

variable {a b : DateTime}

/-- The parts of week dates are compared as week dates are. -/
theorem Valid.weekParts_lt_iff (ha : a.Valid) (hb : b.Valid) :
    a.toMoment.weekParts < b.toMoment.weekParts ↔ a.date.weekDate < b.date.weekDate := by
  rw [Date.weekDate_lt_iff, Moment.weekParts, Moment.weekParts, ha.toMoment_week, hb.toMoment_week,
    ha.toMoment_weekday, hb.toMoment_weekday, List.cons_lt_cons_iff, List.cons_lt_cons_iff,
    List.cons_lt_cons_iff]
  simp only [Int.ofNat_lt, Int.natCast_inj, List.not_lt_nil, and_false, or_false]

/-- The parts of week dates are equal when the week dates are. -/
theorem Valid.weekParts_eq_iff (ha : a.Valid) (hb : b.Valid) :
    a.toMoment.weekParts = b.toMoment.weekParts ↔ a.date.weekDate = b.date.weekDate := by
  rw [Date.weekDate_eq_iff, Moment.weekParts, Moment.weekParts, ha.toMoment_week, hb.toMoment_week,
    ha.toMoment_weekday, hb.toMoment_weekday]
  simp only [List.cons.injEq, Int.natCast_inj, and_true]

end DateTime

namespace DateTime.Reachable

variable (f : Formatter) (hlatn : f.locale.numberingSystem = .latn)
  (hcalendar : f.locale.outputCalendar = none) {a b : DateTime} (ha : a.Reachable)
  (hb : b.Reachable)

include hlatn hcalendar ha hb

/-- **Timestamps and week dates sort.** In ASCII digits and without an output calendar, timestamps
of four-digit years are compared as the years, months, days, hours, minutes, seconds and
milliseconds are in this order, and the texts of week dates as the dates are. -/
theorem texts_sorted :
    (0 ≤ a.date.year ∧ a.date.year ≤ 9999 → 0 ≤ b.date.year ∧ b.date.year ≤ 9999 →
      ∃ s t, f.formatDateTime a.toMoment timestampPattern = .ok s ∧
        f.formatDateTime b.toMoment timestampPattern = .ok t ∧
        (s < t ↔ a.toMoment.parts < b.toMoment.parts) ∧
        (s = t ↔ a.toMoment.parts = b.toMoment.parts)) ∧
    (0 ≤ a.toMoment.week.year ∧ a.toMoment.week.year ≤ 9999 →
      0 ≤ b.toMoment.week.year ∧ b.toMoment.week.year ≤ 9999 →
      ∃ s t, f.formatDateTime a.toMoment weekDatePattern = .ok s ∧
        f.formatDateTime b.toMoment weekDatePattern = .ok t ∧
        (s < t ↔ a.date.key < b.date.key) ∧ (s = t ↔ a.date = b.date)) := by
  rw [DateTime.reachable_iff_valid] at ha hb
  constructor
  · intro hyear hyear'
    have hshown : ∀ d : Date, f.locale.calendar.convert d = .ok d := by
      intro d
      rw [Locale.calendar, hcalendar]
      rfl
    have hsorts := Formatter.sortsAs_timestamp hlatn ha.consistent hb.consistent hcalendar hyear
      hyear'
    exact ⟨_, _, (Formatter.yields_timestamp (hshown _)).formatDateTime_eq,
      (Formatter.yields_timestamp (hshown _)).formatDateTime_eq, hsorts.lt_iff, hsorts.eq_iff⟩
  · intro hyear hyear'
    have hsorts := Formatter.sortsAs_weekDateText hlatn ha.consistent hb.consistent hyear hyear'
    refine ⟨_, _, (Formatter.yields_weekDateText _).formatDateTime_eq,
      (Formatter.yields_weekDateText _).formatDateTime_eq, ?_, ?_⟩
    · rw [hsorts.lt_iff, ha.date_valid.key_lt_iff_dayNumber_lt hb.date_valid,
        ← ha.date_valid.weekDate_lt_iff_dayNumber_lt hb.date_valid]
      exact ha.weekParts_lt_iff hb
    · rw [hsorts.eq_iff]
      constructor
      · intro heq
        exact ha.date_valid.eq_of_dayNumber_eq hb.date_valid
          (ha.date_valid.dayNumber_eq_of_weekDate_eq hb.date_valid ((ha.weekParts_eq_iff hb).mp heq))
      · intro heq
        exact (ha.weekParts_eq_iff hb).mpr (congrArg Date.weekDate heq)

omit hlatn hcalendar ha hb

/-- New Year's Day of 2022 is a day of the last week of 2021, and comes after the day before it in
both ways to write it. -/
theorem texts_sorted_newYear :
    let f : Formatter := ⟨⟨.russian, .latn, none⟩, true, true⟩
    let a := run epoch [.onDate 2021 12 31, .atTime 23 59 59 999]
    let b := run epoch [.onDate 2022 1 1]
    (∃ s t, f.formatDateTime a.toMoment timestampPattern = .ok s ∧
      f.formatDateTime b.toMoment timestampPattern = .ok t ∧ s < t) ∧
    ∃ s t, f.formatDateTime a.toMoment weekDatePattern = .ok s ∧
      f.formatDateTime b.toMoment weekDatePattern = .ok t ∧ s < t := by
  intro f a b
  have ha : a.Reachable := ⟨_, rfl⟩
  have hb : b.Reachable := ⟨_, rfl⟩
  obtain ⟨htimes, hdays⟩ := texts_sorted f rfl rfl ha hb
  obtain ⟨s, t, hs, ht, hlt, -⟩ := htimes (by decide) (by decide)
  obtain ⟨s', t', hs', ht', hlt', -⟩ := hdays (by decide) (by decide)
  refine ⟨⟨s, t, hs, ht, hlt.mpr (by decide)⟩, s', t', hs', ht', hlt'.mpr ?_⟩
  exact Date.key_lt_iff.mpr (by decide)

end DateTime.Reachable

end TemporalFormat
