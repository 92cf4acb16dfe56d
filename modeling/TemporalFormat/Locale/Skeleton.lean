import TemporalFormat.Error

/-!
# Skeletons and presets

A skeleton says which fields of a date and time are asked for and how each is to look. One skeleton
describes a whole output. It also gives the surroundings of a single field: month and weekday names
can have another form beside a day than on their own.

Presets are skeletons with names. A preset shows a date in one of four widths, a time in one of four
details on the clock of the locale or on one with 24 hours, or a date together with a time.
-/

set_option autoImplicit false

namespace TemporalFormat

/-- How long a name is: `T`, `Tue` or `Tuesday`. -/
inductive NameWidth where
  | narrow
  | short
  | long
  deriving DecidableEq

/-- How a number looks: `7` or `07`. -/
inductive NumberWidth where
  | numeric
  | twoDigit
  deriving DecidableEq

/-- How a month looks: as a number or as a name. -/
inductive MonthStyle where
  | number (width : NumberWidth)
  | name (width : NameWidth)
  deriving DecidableEq

/-- How the name of a zone looks: `EDT` or `Eastern Daylight Time`. -/
inductive ZoneNameWidth where
  | short
  | long
  deriving DecidableEq

/-- The fields that a locale writes in its own way. -/
inductive Field where
  | day
  | weekday
  | month
  | year
  | era
  | dayPeriod
  deriving DecidableEq

/-- The fields that are asked for. Without a choice of clock the locale's own is used. -/
structure Skeleton where
  era : Option NameWidth := none
  weekday : Option NameWidth := none
  year : Option NumberWidth := none
  month : Option MonthStyle := none
  day : Option NumberWidth := none
  hour : Option NumberWidth := none
  minute : Option NumberWidth := none
  second : Option NumberWidth := none
  zoneName : Option ZoneNameWidth := none
  hour12 : Option Bool := none
  deriving DecidableEq

/-- The least number of digits that a width asks for. A number that is not asked for is not
padded. -/
def minDigits : Option NumberWidth → Nat
  | some .twoDigit => 2
  | some .numeric => 0
  | none => 0

namespace Skeleton

/-- Whether any field of the date is asked for. -/
def hasDate (s : Skeleton) : Bool :=
  s.era.isSome || s.weekday.isSome || s.year.isSome || s.month.isSome || s.day.isSome

/-- Whether any field of the time of day is asked for. -/
def hasTime (s : Skeleton) : Bool :=
  s.hour.isSome || s.minute.isSome || s.second.isSome

end Skeleton

/-! ## Presets -/

/-- How much of a date is shown. -/
inductive DateWidth where
  | short
  | medium
  | full
  | huge
  deriving DecidableEq

/-- How much of a time is shown. -/
inductive TimeDetail where
  | simple
  | withSeconds
  | withShortOffset
  | withLongOffset
  deriving DecidableEq

/-- The outputs that have a name. -/
inductive Preset where
  | date (width : DateWidth)
  | time (hour24 : Bool) (detail : TimeDetail)
  | dateTime (width : DateWidth) (withSeconds : Bool)
  deriving DecidableEq

/-- The word for a width in the name of a preset. -/
def DateWidth.label : DateWidth → String
  | .short => "SHORT"
  | .medium => "MED"
  | .full => "FULL"
  | .huge => "HUGE"

/-- The words for a detail in the name of a preset. -/
def TimeDetail.label : TimeDetail → String
  | .simple => "SIMPLE"
  | .withSeconds => "WITH_SECONDS"
  | .withShortOffset => "WITH_SHORT_OFFSET"
  | .withLongOffset => "WITH_LONG_OFFSET"

/-- The date fields of a width. -/
def DateWidth.skeleton : DateWidth → Skeleton
  | .short => { year := some .numeric, month := some (.number .numeric), day := some .numeric }
  | .medium => { year := some .numeric, month := some (.name .short), day := some .numeric }
  | .full => { year := some .numeric, month := some (.name .long), day := some .numeric }
  | .huge =>
    { weekday := some .long, year := some .numeric, month := some (.name .long),
      day := some .numeric }

/-- The zone name that goes with the date and time of a width. -/
def DateWidth.zoneName : DateWidth → Option ZoneNameWidth
  | .short => none
  | .medium => none
  | .full => some .short
  | .huge => some .long

/-- The zone name of a detail. -/
def TimeDetail.zoneName : TimeDetail → Option ZoneNameWidth
  | .simple => none
  | .withSeconds => none
  | .withShortOffset => some .short
  | .withLongOffset => some .long

namespace Preset

/-- Every preset. -/
def all : List Preset :=
  [.date .short, .date .medium, .date .full, .date .huge,
    .time false .simple, .time false .withSeconds,
    .time false .withShortOffset, .time false .withLongOffset,
    .time true .simple, .time true .withSeconds,
    .time true .withShortOffset, .time true .withLongOffset,
    .dateTime .short false, .dateTime .medium false,
    .dateTime .full false, .dateTime .huge false,
    .dateTime .short true, .dateTime .medium true,
    .dateTime .full true, .dateTime .huge true]

/-- The name of a preset, such as `DATE_SHORT`. -/
def name : Preset → String
  | .date width => "DATE_" ++ width.label
  | .time hour24 detail => "TIME_" ++ (if hour24 then "24_" else "") ++ detail.label
  | .dateTime width withSeconds =>
    "DATETIME_" ++ width.label ++ (if withSeconds then "_WITH_SECONDS" else "")

/-- The preset with a given name, if there is one. -/
def ofName? (name : String) : Option Preset :=
  all.find? fun preset => preset.name == name

/-- The preset with a given name. -/
def ofName (name : String) : Except FormatError Preset :=
  match ofName? name with
  | some preset => .ok preset
  | none => .error (.invalidSetting .preset name)

/-- The fields that a preset asks for. Every time but a simple one has seconds, and a date with a
time has them when its name says so. -/
def skeleton : Preset → Skeleton
  | .date width => width.skeleton
  | .time hour24 detail =>
    { hour := some .numeric
      minute := some .twoDigit
      second := if detail = .simple then none else some .twoDigit
      zoneName := detail.zoneName
      hour12 := if hour24 then some false else none }
  | .dateTime width withSeconds =>
    { width.skeleton with
      hour := some .numeric
      minute := some .twoDigit
      second := if withSeconds then some .twoDigit else none
      zoneName := width.zoneName }

end Preset

end TemporalFormat
