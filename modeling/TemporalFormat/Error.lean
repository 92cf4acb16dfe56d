/-!
# Why a request fails

Every way in which choosing a setting or writing a value can fail is a cause of its own here.
The wording that a reader sees is made in one place, `FormatError.message`.
-/

set_option autoImplicit false

namespace TemporalFormat

/-- The settings that are chosen by a name. -/
inductive Setting where
  | offsetStyle
  | timeUnit
  | preset
  | locale
  | numberingSystem
  | outputCalendar
  deriving DecidableEq

/-- The word by which a message refers to a setting. -/
def Setting.label : Setting → String
  | .offsetStyle => "format"
  | .timeUnit => "unit"
  | .preset => "preset"
  | .locale => "locale"
  | .numberingSystem => "numberingSystem"
  | .outputCalendar => "outputCalendar"

/-- The components of a date and time that have to lie in a range. -/
inductive Component where
  | year
  | month
  | day
  | hour
  | minute
  | second
  | millisecond
  deriving DecidableEq

/-- The word by which a message refers to a component. -/
def Component.label : Component → String
  | .year => "year"
  | .month => "month"
  | .day => "day"
  | .hour => "hour"
  | .minute => "minute"
  | .second => "second"
  | .millisecond => "millisecond"

/-- The causes of failure. The last two cannot arise from a date and time that passed its range
checks: a month without a name, and a year that leaves the 32-bit range when it is counted in
another era. -/
inductive FormatError where
  | invalidSetting (setting : Setting) (value : String)
  | unknownToken (token : String)
  | outOfRange (component : Component) (value : Int)
  | unnamedMonth (month : Nat)
  | yearOverflow (year : Int)
  deriving DecidableEq

/-- The sentence that tells a reader about a failure. -/
def FormatError.message : FormatError → String
  | .invalidSetting setting value =>
    "value '" ++ value ++ "' is out of range for property " ++ setting.label
  | .unknownToken token => "unknown format token '" ++ token ++ "'"
  | .outOfRange component value => component.label ++ " out of range: " ++ toString value
  | .unnamedMonth month => "no name for month " ++ toString month
  | .yearOverflow year => "year out of range: " ++ toString year

end TemporalFormat
