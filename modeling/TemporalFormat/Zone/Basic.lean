import TemporalFormat.Numeral.System

/-!
# Offsets from UTC and time zones

An offset is a number of minutes, east of Greenwich when it is positive. It is written as a sign,
hours and minutes, in one of three styles and with the numbers of whoever asks for it: a locale
writes them with its own digits, the names of zones have ASCII digits.

A zone is what can be said about it at one moment: its offset from UTC then, and its names. A fixed
zone has the same offset at every moment and is named for it.
-/

set_option autoImplicit false

namespace TemporalFormat

/-! ## Offsets -/

/-- How an offset is written: `+05:00`, `+5` (or `+5:30` when there are minutes), or `+0500`. -/
inductive OffsetStyle where
  | short
  | narrow
  | techie
  deriving DecidableEq

namespace OffsetStyle

/-- Every style. -/
def all : List OffsetStyle :=
  [.short, .narrow, .techie]

/-- The name of a style. -/
def name : OffsetStyle → String
  | .short => "short"
  | .narrow => "narrow"
  | .techie => "techie"

/-- The style with a given name. -/
def ofName (name : String) : Except FormatError OffsetStyle :=
  match all.find? (fun style => style.name == name) with
  | some style => .ok style
  | none => .error (.invalidSetting .offsetStyle name)

/-- The sign of an offset is that of its whole hours, so less than an hour to the west has a plus
like less than an hour to the east. -/
def sign (offset : Int) : String :=
  if offset.tdiv 60 < 0 then "-" else "+"

/-- An offset as sign, hours and minutes, where `num` writes a number with at least as many digits
as it is told. -/
def render (style : OffsetStyle) (num : Nat → Int → String) (offset : Int) : String :=
  let hours : Int := (offset.tdiv 60).natAbs
  let minutes : Int := (offset.tmod 60).natAbs
  sign offset ++
    match style with
    | .short => num 2 hours ++ ":" ++ num 2 minutes
    | .narrow => if 0 < minutes then num 0 hours ++ ":" ++ num 0 minutes else num 0 hours
    | .techie => num 2 hours ++ num 2 minutes

end OffsetStyle

/-- An offset in a given style, or the letter `Z` where that is allowed and the offset is that of
a zone fixed at zero. -/
def renderOffset (num : Nat → Int → String) (style : OffsetStyle) (allowZ fixed : Bool)
    (offset : Int) : String :=
  if allowZ ∧ fixed ∧ offset = 0 then "Z" else style.render num offset

/-! ## Zones -/

/-- A time zone at one moment. The offset is in minutes. -/
structure Zone where
  offset : Int
  fixed : Bool
  name : String
  shortName : String
  longName : String
  deriving DecidableEq

namespace Zone

/-- The name of the zone with a fixed offset, such as `UTC+5:30`. -/
def fixedName (offset : Int) : String :=
  if offset = 0 then "UTC" else "UTC" ++ renderOffset asciiNumber .narrow false true offset

/-- The zone with a fixed offset. -/
def fixedAt (offset : Int) : Zone where
  offset := offset
  fixed := true
  name := fixedName offset
  shortName := fixedName offset
  longName := fixedName offset

/-- Universal time. -/
def utc : Zone :=
  fixedAt 0

/-- A zone that may have another offset at another moment. -/
def named (name : String) (offset : Int) (shortName longName : String) : Zone where
  offset := offset
  fixed := false
  name := name
  shortName := shortName
  longName := longName

end Zone

end TemporalFormat
