import TemporalFormat.Calendar.Gregorian
import TemporalFormat.Zone.Basic

/-!
# Moments and checked dates and times

A moment is everything that can be read from a date and time when it is written: the local date
and time, its place in the week and in the year, and the zone. Nothing relates the parts of a
moment; `DateTime` and `Timestamp` are the values whose moments are consistent.

A `DateTime` is built from a date by `DateTime.onDate` and changed by setting its time or its
zone. Each component is checked, and the first one out of range is reported. A `DateTime.Step` is
one such request; a request that fails changes nothing. The weekday, the week and the ordinal are
found when the date is set, and kept with it.
-/

set_option autoImplicit false

namespace TemporalFormat

/-- What can be read from a date and time. The weekday runs from Monday, 1, to Sunday, 7. -/
structure Moment where
  date : Date
  hour : Nat
  minute : Nat
  second : Nat
  millisecond : Nat
  weekday : Nat
  week : YearWeek
  ordinal : Nat
  zone : Zone
  deriving DecidableEq

/-- A local date and time in a zone, with what has been found out about the date. -/
structure DateTime where
  date : Date
  hour : Nat
  minute : Nat
  second : Nat
  millisecond : Nat
  weekday : Nat
  week : YearWeek
  ordinal : Nat
  zone : Zone
  deriving DecidableEq

namespace DateTime

/-- The earliest year that is accepted. -/
def minYear : Int :=
  -999999

/-- The latest year that is accepted. -/
def maxYear : Int :=
  999999

/-- Midnight of a date in universal time. The week comes from the place of the date in its
year. -/
def midnight (date : Date) : DateTime where
  date := date
  hour := 0
  minute := 0
  second := 0
  millisecond := 0
  weekday := date.weekday
  week := date.weekByOrdinal
  ordinal := date.ordinal
  zone := Zone.utc

/-- The first moment of 1970. -/
def epoch : DateTime :=
  midnight ⟨1970, 1, 1⟩

/-- Midnight of a date whose year, month and day have been checked in this order. -/
def onDate (year : Int) (month day : Nat) : Except FormatError DateTime :=
  if year < minYear ∨ maxYear < year then .error (.outOfRange .year year)
  else if month < 1 ∨ 12 < month then .error (.outOfRange .month month)
  else if day < 1 ∨ daysInMonth year month < day then .error (.outOfRange .day day)
  else .ok (midnight ⟨year, month, day⟩)

/-- The same date at another time of day, whose hour, minute, second and millisecond have been
checked in this order. -/
def atTime (dt : DateTime) (hour minute second millisecond : Nat) :
    Except FormatError DateTime :=
  if 23 < hour then .error (.outOfRange .hour hour)
  else if 59 < minute then .error (.outOfRange .minute minute)
  else if 59 < second then .error (.outOfRange .second second)
  else if 999 < millisecond then .error (.outOfRange .millisecond millisecond)
  else .ok { dt with hour, minute, second, millisecond }

/-- The same local date and time in another zone. -/
def inZone (dt : DateTime) (zone : Zone) : DateTime :=
  { dt with zone }

/-- A request to change a date and time. -/
inductive Step where
  | onDate (year : Int) (month day : Nat)
  | atTime (hour minute second millisecond : Nat)
  | inZone (zone : Zone)
  deriving DecidableEq

/-- What a request makes of a date and time. -/
def apply (dt : DateTime) : Step → Except FormatError DateTime
  | .onDate year month day => onDate year month day
  | .atTime hour minute second millisecond => dt.atTime hour minute second millisecond
  | .inZone zone => .ok (dt.inZone zone)

/-- The date and time after a request, which is the one before it when the request fails. -/
def step (dt : DateTime) (s : Step) : DateTime :=
  match dt.apply s with
  | .ok next => next
  | .error _ => dt

/-- The date and time after some requests. -/
def run (dt : DateTime) (steps : List Step) : DateTime :=
  steps.foldl step dt

/-- The moment of a date and time. -/
def toMoment (dt : DateTime) : Moment where
  date := dt.date
  hour := dt.hour
  minute := dt.minute
  second := dt.second
  millisecond := dt.millisecond
  weekday := dt.weekday
  week := dt.week
  ordinal := dt.ordinal
  zone := dt.zone

end DateTime

end TemporalFormat
