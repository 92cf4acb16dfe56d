import TemporalFormat.Proofs.Calendar.Output
import TemporalFormat.Proofs.Format.GregorianCalendar
import TemporalFormat.Proofs.Moment.Reachable

/-!
# Output calendars as a change of the date

An output calendar shows another date and leaves everything else as it is: what a pattern says is
what it says in the Gregorian calendar of a moment with the date that is shown. Only names make an
exception, because eras and Islamic months are not called as those of the Gregorian calendar are.
`calendarTokens` are the tokens that may give such a name, and for every pattern without them
`Formatter.output_calendar_changes_date` is the equation. It rests on a sorting of the directives,
`Directive.followsDate`, of which `Directive.followsDate_iff` says that it is these tokens and no
others that it leaves out.
-/

set_option autoImplicit false

namespace TemporalFormat

/-! ## Tokens that name more than a date -/

/-- The tokens that give the name of an era. -/
def eraTokens : List String :=
  ["G", "GG", "GGGGG"]

/-- The tokens that give a whole date, to which the name of an era may belong. -/
def wholeDateTokens : List String :=
  ["D", "DD", "DDD", "DDDD", "f", "ff", "fff", "ffff", "F", "FF", "FFF", "FFFF"]

/-- The tokens that give the name of a month. -/
def monthNameTokens : List String :=
  ["LLL", "LLLL", "LLLLL", "MMM", "MMMM", "MMMMM"]

/-- The tokens by which an output calendar can be told from another date. The Gregorian and the
Buddhist calendar have the same names for their months. -/
def calendarTokens (calendar : Calendar) : List String :=
  eraTokens ++ wholeDateTokens ++ if calendar = .islamic then monthNameTokens else []

/-- Whether a number is read from the date itself. -/
def NumericField.isOfDate : NumericField → Bool
  | .day | .month | .year | .yearTwoDigit => true
  | _ => false

/-- Whether a field needs no names of the output calendar. -/
def Field.followsDate (calendar : Calendar) (skeleton : Skeleton) : Field → Bool
  | .era => false
  | .month =>
    match skeleton.month with
    | some (.name _) => decide (calendar ≠ .islamic)
    | _ => true
  | _ => true

/-- A number that is not read from the date does not change with it. -/
theorem Moment.read_of_not_isOfDate (m : Moment) (date : Date) {field : NumericField}
    (h : field.isOfDate = false) : Moment.read { m with date } field = m.read field := by
  cases field with
  | day | month | year | yearTwoDigit => cases h
  | millisecond | second | minute | hour | clockHour | weekday | weekYear | weekYearTwoDigit
  | week | ordinal => rfl

namespace Directive

/-- Whether a directive says in an output calendar what it says in the Gregorian calendar of the
date that is shown. -/
def followsDate (calendar : Calendar) : Directive → Bool
  | .number field _ => !field.isOfDate
  | .localized field skeleton => field.followsDate calendar skeleton
  | .dated _ _ field skeleton => field.followsDate calendar skeleton
  | .preset named => named.skeleton.hasTime && !named.skeleton.hasDate
  | _ => true

/-- The table has no token by which a calendar can be told but those that are listed. -/
theorem table_followsDate (calendar : Calendar) :
    ∀ entry ∈ table, entry.2.followsDate calendar = true ↔ entry.1 ∉ calendarTokens calendar := by
  cases calendar <;> decide +kernel

/-- The tokens that are left out are those that may give a name of the calendar. -/
theorem followsDate_iff {calendar : Calendar} {token : String} {d : Directive}
    (h : ofToken? token = some d) :
    d.followsDate calendar = true ↔ token ∉ calendarTokens calendar :=
  table_followsDate calendar _ (mem_table h)

end Directive

/-! ## What the locale writes -/

/-- The locale with an output calendar. -/
def Locale.inCalendar (loc : Locale) (calendar : Calendar) : Locale :=
  { loc with outputCalendar := some calendar }

namespace Locale

variable (loc : Locale) {calendar : Calendar} {m : Moment} {shown : Date}
  (hshown : calendar.convert m.date = .ok shown)

/-- The names of months depend on the calendar only when it is the Islamic one. -/
theorem monthText_inCalendar {skeleton : Skeleton} (month : Nat)
    (h : Field.month.followsDate calendar skeleton = true) :
    (loc.inCalendar calendar).monthText skeleton month =
      (loc.inCalendar .gregory).monthText skeleton month := by
  unfold Field.followsDate at h
  unfold monthText
  match hstyle : skeleton.month with
  | none | some (.number _) => rfl
  | some (.name width) =>
    rw [hstyle] at h
    have hnames : (loc.inCalendar calendar).monthNames skeleton =
        (loc.inCalendar .gregory).monthNames skeleton := by
      cases calendar with
      | islamic => cases h
      | gregory | buddhist => rfl
    simp only [Option.getD_some, hnames]

include hshown

/-- A field without names of the calendar is that of the date that is shown. -/
theorem fieldText_inCalendar {skeleton : Skeleton} {field : Field}
    (h : field.followsDate calendar skeleton = true) :
    (loc.inCalendar calendar).fieldText m skeleton field =
      (loc.inCalendar .gregory).fieldText { m with date := shown } skeleton field := by
  have hcalendar : (loc.inCalendar calendar).calendar.convert m.date = .ok shown := hshown
  have hgregory : (loc.inCalendar .gregory).calendar.convert shown = .ok shown := rfl
  rw [fieldText, hcalendar, fieldText, hgregory]
  cases field with
  | month => exact loc.monthText_inCalendar shown.month h
  | era => cases h
  | day | weekday | year | dayPeriod => rfl

/-- An output without a date is that of any other date. -/
theorem layOut_inCalendar {skeleton : Skeleton} (htime : skeleton.hasTime = true)
    (hdate : skeleton.hasDate = false) :
    (loc.inCalendar calendar).layOut m skeleton =
      (loc.inCalendar .gregory).layOut { m with date := shown } skeleton := by
  have hperiod : (loc.inCalendar calendar).fieldText m skeleton .dayPeriod =
      (loc.inCalendar .gregory).fieldText { m with date := shown } skeleton .dayPeriod :=
    loc.fieldText_inCalendar hshown rfl
  have hclock : (loc.inCalendar calendar).timeText m skeleton =
      (loc.inCalendar .gregory).timeText { m with date := shown } skeleton := by
    unfold timeText
    rw [hperiod]
    rfl
  unfold layOut dateAndTime
  rw [htime, hdate, hclock]
  rfl

end Locale

/-! ## What the formatter writes -/

namespace Formatter

variable (f : Formatter) {calendar : Calendar} {m : Moment} {shown : Date}
  (hshown : calendar.convert m.date = .ok shown)

include hshown

/-- A directive that follows the date says of the date that is shown what it says in its calendar.
-/
theorem applyDirective_withCalendar {d : Directive} (h : d.followsDate calendar = true) :
    (f.withCalendar (some calendar)).applyDirective m d =
      (f.withCalendar (some .gregory)).applyDirective { m with date := shown } d := by
  have hfield : ∀ {skeleton : Skeleton} {field : Field},
      field.followsDate calendar skeleton = true →
      (f.withCalendar (some calendar)).locale.fieldText m skeleton field =
        (f.withCalendar (some .gregory)).locale.fieldText { m with date := shown } skeleton field :=
    f.locale.fieldText_inCalendar hshown
  cases d with
  | number field digits =>
    simp only [Directive.followsDate, Bool.not_eq_true'] at h
    rw [applyDirective, applyDirective, m.read_of_not_isOfDate shown h]
    rfl
  | offset | zoneName => rfl
  | offsetName width => cases width <;> rfl
  | localized field skeleton => exact hfield h
  | dated number digits field skeleton => exact hfield h
  | preset named =>
    simp only [Directive.followsDate, Bool.and_eq_true, Bool.not_eq_true'] at h
    exact f.locale.layOut_inCalendar hshown h.1 h.2

/-- A token by which no calendar can be told says the same of the date that is shown. -/
theorem resolve_withCalendar {token : String} (h : token ∉ calendarTokens calendar) :
    (f.withCalendar (some calendar)).resolve m token =
      (f.withCalendar (some .gregory)).resolve { m with date := shown } token := by
  unfold resolve
  cases hd : Directive.ofToken? token with
  | none => rfl
  | some d => exact f.applyDirective_withCalendar hshown ((Directive.followsDate_iff hd).mpr h)

/-- A pattern without such tokens is written as for the date that is shown. -/
theorem formatDateTime_withCalendar {pattern : String}
    (h : ∀ t ∈ tokenize pattern, t.literal = false → t.text ∉ calendarTokens calendar) :
    (f.withCalendar (some calendar)).formatDateTime m pattern =
      (f.withCalendar (some .gregory)).formatDateTime { m with date := shown } pattern := by
  refine (agree_render textCongruence_eq ?_).eq
  intro t ht hliteral
  rw [f.resolve_withCalendar hshown (h t ht hliteral)]
  exact Agree.refl textCongruence_eq _

end Formatter

/-- **An output calendar is a change of the date.** Every calendar shows a date for an accepted date
and time. For every formatter and every pattern without tokens that name more of the calendar than
the date, the output in the calendar is the output in the Gregorian calendar of a moment that has
the date that is shown and everything else as it is. -/
theorem DateTime.Reachable.output_calendar_changes_date {dt : DateTime} (h : dt.Reachable)
    (calendar : Calendar) :
    ∃ shown, calendar.convert dt.date = .ok shown ∧
      ∀ (f : Formatter) (pattern : String),
        (∀ t ∈ tokenize pattern, t.literal = false → t.text ∉ calendarTokens calendar) →
        (f.withCalendar (some calendar)).formatDateTime dt.toMoment pattern =
          (f.withCalendar (some .gregory)).formatDateTime { dt.toMoment with date := shown }
            pattern := by
  have hyear : dt.date.year ≤ 999999 := (DateTime.reachable_iff_valid.mp h).le_maxYear
  have hcounted : dt.date.year + 543 ≤ Calendar.maxYear := by
    rw [Calendar.maxYear]
    omega
  obtain ⟨shown, hshown⟩ := Calendar.exists_convert calendar hcounted
  refine ⟨shown, hshown, ?_⟩
  intro f pattern hpattern
  exact f.formatDateTime_withCalendar hshown hpattern

/-- On an Islamic date the weekday, the week and the ordinal stay those of the Gregorian one, and a
quoted letter is no token. -/
theorem DateTime.Reachable.output_calendar_changes_date_islamic :
    let m := (DateTime.run .epoch [.onDate 1983 10 14, .atTime 13 30 23 4]).toMoment
    let pattern := "EEE dd.LL.yyyy 'G' kkkk-WW-c ooo h:mm a z"
    Formatter.formatDateTime (Formatter.withCalendar {} (some .gregory))
        { m with date := ⟨1404, 1, 7⟩ } pattern =
      .ok "Fri 07.01.1404 G 1983-41-5 287 1:30 PM UTC" ∧
    Formatter.formatDateTime (Formatter.withCalendar {} (some .islamic)) m pattern =
      .ok "Fri 07.01.1404 G 1983-41-5 287 1:30 PM UTC" := by
  intro m pattern
  have hreachable : (DateTime.run .epoch [.onDate 1983 10 14, .atTime 13 30 23 4]).Reachable :=
    ⟨_, rfl⟩
  have hgregory : Formatter.formatDateTime (Formatter.withCalendar {} (some .gregory))
      { m with date := ⟨1404, 1, 7⟩ } pattern =
        .ok "Fri 07.01.1404 G 1983-41-5 287 1:30 PM UTC" := by
    decide
  obtain ⟨shown, hshown, hsame⟩ := hreachable.output_calendar_changes_date .islamic
  have hdate : shown = ⟨1404, 1, 7⟩ := by
    have hconvert : Calendar.islamic.convert
        (DateTime.run .epoch [.onDate 1983 10 14, .atTime 13 30 23 4]).date =
          .ok ⟨1404, 1, 7⟩ := by
      decide
    exact Except.ok.inj (hshown.symm.trans hconvert)
  subst hdate
  exact ⟨hgregory, (hsame {} pattern (by decide)).trans hgregory⟩

end TemporalFormat
