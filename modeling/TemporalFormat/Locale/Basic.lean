import TemporalFormat.Calendar.Output
import TemporalFormat.Locale.Data
import TemporalFormat.Moment.DateTime
import TemporalFormat.Numeral.Magnitude

/-!
# Locales and single fields

A locale writes numbers in its digits and dates in its output calendar. One field of a moment is
written by itself: the day, the month, the year and the era are those of the output calendar.
-/

set_option autoImplicit false

namespace TemporalFormat

/-- A language and region with the choice of digits and of calendar. -/
structure Locale where
  data : LocaleData
  numberingSystem : NumberingSystem := .latn
  outputCalendar : Option Calendar := none
  deriving DecidableEq

namespace Locale

/-- American English with its own digits and calendar. -/
def english : Locale where
  data := .english

/-- Russian with its own digits and calendar. -/
def russian : Locale where
  data := .russian

/-- The calendar in which dates are shown. -/
def calendar (loc : Locale) : Calendar :=
  loc.outputCalendar.getD .gregory

/-- An integer with at least `minDigits` digits. -/
def formatNumber (loc : Locale) (minDigits : Nat) (value : Int) : String :=
  loc.numberingSystem.signedNumeral minDigits value

/-- A magnitude as a decimal with at most `maxPlaces` fraction digits, whose whole part has at
least `minDigits` characters. Every ASCII digit of the result is replaced, even one that serves as
the separator. -/
def formatDecimal (loc : Locale) (minDigits maxPlaces : Nat) (value : Reading) : String :=
  String.ofList (loc.numberingSystem.transcribe
    ((value.toDecimal maxPlaces).chars minDigits loc.data.decimalSeparator))

end Locale

/-! ## Single fields -/

namespace Locale

/-- The month names to use. Islamic months have one form; other months have their form for use
beside a day when the skeleton asks for one. -/
def monthNames (loc : Locale) (skeleton : Skeleton) : NameSet 12 :=
  match loc.calendar with
  | .islamic => loc.data.islamicMonthNames
  | .gregory | .buddhist =>
    if skeleton.day.isSome then loc.data.monthNames else loc.data.monthNamesAlone

/-- The weekday names to use: the form for use in a date when the skeleton asks for a month or a
day. -/
def dayNames (loc : Locale) (skeleton : Skeleton) : NameSet 7 :=
  if skeleton.month.isSome || skeleton.day.isSome then loc.data.dayNames
  else loc.data.dayNamesAlone

/-- The name of a weekday, where Monday is 1. -/
def weekdayName (loc : Locale) (skeleton : Skeleton) (weekday : Nat) : String :=
  ((loc.dayNames skeleton).ofWidth (skeleton.weekday.getD .long)).get (Fin.ofNat 7 (weekday + 6))

/-- A month, which is a number unless the skeleton asks for a name. -/
def monthText (loc : Locale) (skeleton : Skeleton) (month : Nat) : Except FormatError String :=
  match skeleton.month.getD (.number .numeric) with
  | .number width => .ok (loc.formatNumber (minDigits (some width)) month)
  | .name width => (loc.monthNames skeleton).monthName width month

/-- A year in full, or its last two digits. -/
def yearText (loc : Locale) (skeleton : Skeleton) (year : Int) : String :=
  match skeleton.year with
  | some .twoDigit => loc.formatNumber 2 (twoDigitYear year)
  | _ => loc.formatNumber 0 year

/-- The name of the era of a year. The Islamic and the Buddhist calendar have one era each. -/
def eraName (loc : Locale) (skeleton : Skeleton) (year : Int) : String :=
  match loc.calendar with
  | .islamic => loc.data.islamicEra
  | .buddhist => loc.data.buddhistEra
  | .gregory =>
    (loc.data.eraNames.ofWidth (skeleton.era.getD .short)).get (if 0 < year then 1 else 0)

/-- The name of the half of the day in which an hour lies. -/
def dayPeriod (loc : Locale) (hour : Nat) : String :=
  if hour < 12 then loc.data.am else loc.data.pm

/-- A field as it looks in an output with the given skeleton. A moment whose date the output
calendar cannot count has no field at all. -/
def fieldText (loc : Locale) (m : Moment) (skeleton : Skeleton) (field : Field) :
    Except FormatError String := do
  let date ← loc.calendar.convert m.date
  match field with
  | .day => pure (loc.formatNumber (minDigits skeleton.day) date.day)
  | .weekday => pure (loc.weekdayName skeleton m.weekday)
  | .month => loc.monthText skeleton date.month
  | .year => pure (loc.yearText skeleton date.year)
  | .era => pure (loc.eraName skeleton date.year)
  | .dayPeriod => pure (loc.dayPeriod m.hour)

end Locale

end TemporalFormat
