import TemporalFormat.Locale.Basic

/-!
# Whole outputs

How a locale lays out a date, a time and the name of a zone together.
-/

set_option autoImplicit false

namespace TemporalFormat

/-- What a piece of a layout stands for: a fixed text, or a field with the skeleton that gives its
looks. Months and weekdays stand beside a day. -/
def Piece.request : Piece → String ⊕ (Field × Skeleton)
  | .text content => .inl content
  | .day width => .inr (.day, { day := some width })
  | .monthNumber width =>
    .inr (.month, { month := some (.number width), day := some .numeric })
  | .monthShort => .inr (.month, { month := some (.name .short), day := some .numeric })
  | .monthLong => .inr (.month, { month := some (.name .long), day := some .numeric })
  | .year => .inr (.year, { year := some .numeric })
  | .weekdayLong =>
    .inr (.weekday, { weekday := some .long, month := some (.name .long), day := some .numeric })

/-- The layout that fits a skeleton: a weekday asks for the full one, otherwise the looks of the
month decide. -/
def DateLayouts.choose (layouts : DateLayouts) (skeleton : Skeleton) : List Piece :=
  if skeleton.weekday.isSome then layouts.full
  else match skeleton.month with
    | some (.name .long) => layouts.long
    | some (.name _) => layouts.medium
    | _ => layouts.numeric

namespace Locale

/-- The text of a piece of a layout. -/
def pieceText (loc : Locale) (m : Moment) (piece : Piece) : Except FormatError String :=
  match piece.request with
  | .inl content => .ok content
  | .inr (field, skeleton) => loc.fieldText m skeleton field

/-- The texts of the pieces of a layout, one after the other. -/
def layoutText (loc : Locale) (m : Moment) : List Piece → Except FormatError String
  | [] => pure ""
  | piece :: rest => do
    let first ← loc.pieceText m piece
    let others ← loc.layoutText m rest
    pure (first ++ others)

/-- The era, which follows a date of any calendar but the Gregorian one. -/
def eraSuffix (loc : Locale) (m : Moment) : Except FormatError String :=
  if loc.calendar = .gregory then pure ""
  else do
    let era ← loc.fieldText m {} .era
    pure (" " ++ era)

/-- The date in the layout that fits the skeleton. -/
def dateText (loc : Locale) (m : Moment) (skeleton : Skeleton) : Except FormatError String := do
  let date ← loc.layoutText m (loc.data.dateLayouts.choose skeleton)
  let era ← loc.eraSuffix m
  pure (date ++ era)

/-- The hour. On a clock with twelve hours it has two digits only when the skeleton asks for them,
on one with twenty-four it always has. -/
def hourText (loc : Locale) (hour12 : Bool) (m : Moment) (skeleton : Skeleton) : String :=
  if hour12 then loc.formatNumber (minDigits skeleton.hour) (clockHour m.hour)
  else loc.formatNumber 2 m.hour

/-- A number of two digits after a colon, if it is asked for. -/
def clockPart (loc : Locale) (asked : Bool) (value : Nat) : String :=
  if asked then ":" ++ loc.formatNumber 2 value else ""

/-- The time of day: the hour, what else of it is asked for, and the half of the day on a clock
with twelve hours. -/
def timeText (loc : Locale) (m : Moment) (skeleton : Skeleton) : Except FormatError String := do
  let hour12 := skeleton.hour12.getD loc.data.hour12
  let clock := loc.hourText hour12 m skeleton ++
    loc.clockPart skeleton.minute.isSome m.minute ++ loc.clockPart skeleton.second.isSome m.second
  if hour12 then
    let period ← loc.fieldText m skeleton .dayPeriod
    pure (clock ++ " " ++ period)
  else pure clock

/-- What stands between a date and a time. -/
def separator (loc : Locale) (skeleton : Skeleton) : String :=
  if skeleton.month = some (.name .long) then loc.data.dateTimeSeparatorLong
  else loc.data.dateTimeSeparator

/-- The name of the zone after a blank, if it is asked for. -/
def zoneSuffix (m : Moment) (skeleton : Skeleton) : String :=
  match skeleton.zoneName with
  | some .short => " " ++ m.zone.shortName
  | some .long => " " ++ m.zone.longName
  | none => ""

/-- The date and the time. A skeleton that asks for neither is given the date. -/
def dateAndTime (loc : Locale) (m : Moment) (skeleton : Skeleton) : Except FormatError String :=
  if skeleton.hasTime then
    if skeleton.hasDate then do
      let date ← loc.dateText m skeleton
      let time ← loc.timeText m skeleton
      pure (date ++ loc.separator skeleton ++ time)
    else loc.timeText m skeleton
  else loc.dateText m skeleton

/-- All that a skeleton asks for. -/
def layOut (loc : Locale) (m : Moment) (skeleton : Skeleton) : Except FormatError String := do
  let text ← loc.dateAndTime m skeleton
  pure (text ++ zoneSuffix m skeleton)

end Locale

end TemporalFormat
