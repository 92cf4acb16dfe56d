import TemporalFormat.Locale.Skeleton
import TemporalFormat.Moment.DateTime
import TemporalFormat.Zone.Basic

/-!
# Directives

What a token of a date and time pattern stands for. Tokens are looked up by their whole text, so
`MM` and `MMM` are entries of their own and a token that is longer than every entry stands for
nothing.
-/

set_option autoImplicit false

namespace TemporalFormat

/-- The numbers that can be read from a moment. -/
inductive NumericField where
  | millisecond
  | second
  | minute
  | hour
  | clockHour
  | day
  | month
  | year
  | yearTwoDigit
  | weekday
  | weekYear
  | weekYearTwoDigit
  | week
  | ordinal
  deriving DecidableEq

/-- The value of a numeric field. -/
def Moment.read (m : Moment) : NumericField → Int
  | .millisecond => m.millisecond
  | .second => m.second
  | .minute => m.minute
  | .hour => m.hour
  | .clockHour => clockHour m.hour
  | .day => m.date.day
  | .month => m.date.month
  | .year => m.date.year
  | .yearTwoDigit => twoDigitYear m.date.year
  | .weekday => m.weekday
  | .weekYear => m.week.year
  | .weekYearTwoDigit => twoDigitYear m.week.year
  | .week => m.week.week
  | .ordinal => m.ordinal

/-- What a token stands for. A number has the least number of digits given with it. A dated number
is replaced by a field of the locale when an output calendar is chosen. -/
inductive Directive where
  | number (field : NumericField) (digits : Nat)
  | offset (style : OffsetStyle) (allowZ : Bool)
  | offsetName (width : ZoneNameWidth)
  | zoneName
  | localized (field : Field) (skeleton : Skeleton)
  | dated (number : NumericField) (digits : Nat) (field : Field) (skeleton : Skeleton)
  | preset (preset : Preset)
  deriving DecidableEq

namespace Directive

/-- A weekday on its own. -/
def weekdayAlone (width : NameWidth) : Directive :=
  .localized .weekday { weekday := some width }

/-- A weekday as it looks in a date. -/
def weekdayInDate (width : NameWidth) : Directive :=
  .localized .weekday
    { weekday := some width, month := some (.name .long), day := some .numeric }

/-- A month on its own. -/
def monthAlone (style : MonthStyle) : Directive :=
  .localized .month { month := some style }

/-- A month as it looks beside a day. -/
def monthInDate (style : MonthStyle) : Directive :=
  .localized .month { month := some style, day := some .numeric }

/-- An era. -/
def era (width : NameWidth) : Directive :=
  .localized .era { era := some width }

/-- The half of the day. -/
def dayPeriod : Directive :=
  .localized .dayPeriod { hour := some .numeric, hour12 := some true }

/-- Every token that stands for something. -/
def table : List (String × Directive) :=
  [("S", .number .millisecond 0),
    ("SSS", .number .millisecond 3),
    ("s", .number .second 0),
    ("ss", .number .second 2),
    ("m", .number .minute 0),
    ("mm", .number .minute 2),
    ("h", .number .clockHour 0),
    ("hh", .number .clockHour 2),
    ("H", .number .hour 0),
    ("HH", .number .hour 2),
    ("Z", .offset .narrow true),
    ("ZZ", .offset .short true),
    ("ZZZ", .offset .techie false),
    ("ZZZZ", .offsetName .short),
    ("ZZZZZ", .offsetName .long),
    ("z", .zoneName),
    ("a", dayPeriod),
    ("d", .dated .day 0 .day { day := some .numeric }),
    ("dd", .dated .day 2 .day { day := some .twoDigit }),
    ("c", .number .weekday 0),
    ("ccc", weekdayAlone .short),
    ("cccc", weekdayAlone .long),
    ("ccccc", weekdayAlone .narrow),
    ("E", .number .weekday 0),
    ("EEE", weekdayInDate .short),
    ("EEEE", weekdayInDate .long),
    ("EEEEE", weekdayInDate .narrow),
    ("L", monthInDate (.number .numeric)),
    ("LL", monthInDate (.number .twoDigit)),
    ("LLL", monthInDate (.name .short)),
    ("LLLL", monthAlone (.name .long)),
    ("LLLLL", monthAlone (.name .narrow)),
    ("M", .dated .month 0 .month { month := some (.number .numeric) }),
    ("MM", .dated .month 2 .month { month := some (.number .twoDigit) }),
    ("MMM", monthInDate (.name .short)),
    ("MMMM", monthInDate (.name .long)),
    ("MMMMM", monthAlone (.name .narrow)),
    ("y", .dated .year 0 .year { year := some .numeric }),
    ("yy", .dated .yearTwoDigit 2 .year { year := some .twoDigit }),
    ("yyyy", .dated .year 4 .year { year := some .numeric }),
    ("G", era .short),
    ("GG", era .long),
    ("GGGGG", era .narrow),
    ("kk", .number .weekYearTwoDigit 2),
    ("kkkk", .number .weekYear 4),
    ("W", .number .week 0),
    ("WW", .number .week 2),
    ("o", .number .ordinal 0),
    ("ooo", .number .ordinal 3),
    ("D", .preset (.date .short)),
    ("DD", .preset (.date .medium)),
    ("DDD", .preset (.date .full)),
    ("DDDD", .preset (.date .huge)),
    ("t", .preset (.time false .simple)),
    ("tt", .preset (.time false .withSeconds)),
    ("ttt", .preset (.time false .withShortOffset)),
    ("tttt", .preset (.time false .withLongOffset)),
    ("T", .preset (.time true .simple)),
    ("TT", .preset (.time true .withSeconds)),
    ("TTT", .preset (.time true .withShortOffset)),
    ("TTTT", .preset (.time true .withLongOffset)),
    ("f", .preset (.dateTime .short false)),
    ("ff", .preset (.dateTime .medium false)),
    ("fff", .preset (.dateTime .full false)),
    ("ffff", .preset (.dateTime .huge false)),
    ("F", .preset (.dateTime .short true)),
    ("FF", .preset (.dateTime .medium true)),
    ("FFF", .preset (.dateTime .full true)),
    ("FFFF", .preset (.dateTime .huge true))]

/-- The directive of a token, if it stands for something. -/
def ofToken? (token : String) : Option Directive :=
  table.lookup token

end Directive

end TemporalFormat
