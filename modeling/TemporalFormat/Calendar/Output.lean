import TemporalFormat.Error
import TemporalFormat.Calendar.Gregorian

/-!
# Output calendars

Values are kept as Gregorian dates. An output calendar says in which calendar the year, the month
and the day are shown: the Gregorian one, the Buddhist one, whose years have other numbers, or the
tabular Islamic one.

The months of the Islamic calendar have 30 and 29 days in turn; in 11 years of a cycle of 30 the
last month has a day more. A cycle has 10631 days. Days are counted by their Julian day, so the
calendar agrees with any other that counts the same days.
-/

set_option autoImplicit false

namespace TemporalFormat

/-! ## The tabular Islamic calendar -/

namespace Hijri

/-- The Julian day of the first day of year 1. -/
def epoch : Int :=
  1948440

/-- The Julian day of day number 0, which is 1 January 1970. -/
def julianDayOfZero : Int :=
  2440588

/-- The Julian day of a day of the calendar. Months 1 to `m - 1` have 29 days and a half each,
rounded up. -/
def julianDay (year month day : Int) : Int :=
  let daysOfMonths := (59 * (month - 1) + 1) / 2
  let leapDays := (3 + 11 * year) / 30
  day + daysOfMonths + (year - 1) * 354 + leapDays + epoch - 1

/-- The year in which a Julian day lies. -/
def yearOf (jd : Int) : Int :=
  (30 * (jd - epoch) + 10646) / 10631

/-- The month in which a Julian day of a year lies. -/
def monthOf (year jd : Int) : Int :=
  let intoYear := jd - (29 + julianDay year 1 1)
  max 1 (min 12 (-(-2 * intoYear / 59) + 1))

/-- The day of the calendar on a Julian day. Years are counted in 32 bits. -/
def ofJulianDay (jd : Int) : Date :=
  let year := yearOf jd
  let month := monthOf year jd
  ⟨signed32 year, month.toNat, (jd - julianDay year month 1 + 1).toNat⟩

/-- The day of the calendar on a Gregorian date. -/
def ofGregorian (d : Date) : Date :=
  ofJulianDay (d.dayNumber + julianDayOfZero)

end Hijri

/-! ## The calendars -/

/-- The calendars in which dates can be shown. -/
inductive Calendar where
  | gregory
  | buddhist
  | islamic
  deriving DecidableEq

namespace Calendar

/-- The registered name of a calendar. -/
def name : Calendar → String
  | .gregory => "gregory"
  | .buddhist => "buddhist"
  | .islamic => "islamic"

/-- The names that are accepted for each calendar. -/
def names : List (String × Calendar) :=
  [("gregory", .gregory), ("gregorian", .gregory), ("buddhist", .buddhist),
    ("islamic", .islamic), ("islamic-civil", .islamic)]

/-- The calendar with a given name. -/
def ofName (name : String) : Except FormatError Calendar :=
  match names.lookup name with
  | some calendar => .ok calendar
  | none => .error (.invalidSetting .outputCalendar name)

/-- The highest year that can be counted. -/
def maxYear : Int :=
  2147483647

/-- The date of this calendar on a Gregorian date. The Buddhist era began 543 years before the
common era, and its years are the Gregorian ones. -/
def convert (calendar : Calendar) (d : Date) : Except FormatError Date :=
  match calendar with
  | .gregory => .ok d
  | .buddhist =>
    if maxYear < d.year + 543 then .error (.yearOverflow d.year)
    else .ok { d with year := d.year + 543 }
  | .islamic => .ok (Hijri.ofGregorian d)

end Calendar

end TemporalFormat
