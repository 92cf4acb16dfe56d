import TemporalFormat.Locale.Layout
import TemporalFormat.Pattern.Directive
import TemporalFormat.Pattern.Token

/-!
# Formatters and moments after a pattern

A formatter is the choice of a locale and of two manners: whether magnitudes are rounded to whole
numbers, and whether a token that stands for nothing is a mistake. In a moment that is written after
a pattern each token that is not literal is replaced by what its directive says about the moment.
-/

set_option autoImplicit false

namespace TemporalFormat

/-- How values are written. -/
structure Formatter where
  locale : Locale := .english
  round : Bool := true
  strict : Bool := false
  deriving DecidableEq

namespace Formatter

/-- An integer with at least `minDigits` digits. -/
def formatNumber (f : Formatter) (minDigits : Nat) (value : Int) : String :=
  f.locale.formatNumber minDigits value

/-- A magnitude, as the nearest whole number or as a decimal with at most three places. -/
def formatReading (f : Formatter) (minDigits : Nat) (value : Reading) : String :=
  if f.round then f.formatNumber minDigits value.toWhole
  else f.locale.formatDecimal minDigits 3 value

/-- A magnitude of any kind. -/
def formatMagnitude {α : Type} [Magnitude α] (f : Formatter) (minDigits : Nat) (value : α) :
    String :=
  f.formatReading minDigits (Magnitude.reading value)

/-- An offset from UTC in the digits of the locale. -/
def formatOffset (f : Formatter) (style : OffsetStyle) (allowZ fixed : Bool) (offset : Int) :
    String :=
  renderOffset f.formatNumber style allowZ fixed offset

/-- What becomes of a token that stands for nothing: it is copied, unless that is a mistake. -/
def unresolved (f : Formatter) (token : String) : Except FormatError String :=
  if f.strict then .error (.unknownToken token) else .ok token

/-- A moment in the output that a preset names. -/
def formatPreset (f : Formatter) (m : Moment) (preset : Preset) : Except FormatError String :=
  f.locale.layOut m preset.skeleton

end Formatter

/-! ## Moments -/

namespace Formatter

/-- What a directive says about a moment. -/
def applyDirective (f : Formatter) (m : Moment) : Directive → Except FormatError String
  | .number field digits => pure (f.formatNumber digits (m.read field))
  | .offset style allowZ => pure (f.formatOffset style allowZ m.zone.fixed m.zone.offset)
  | .offsetName .short => pure m.zone.shortName
  | .offsetName .long => pure m.zone.longName
  | .zoneName => pure m.zone.name
  | .localized field skeleton => f.locale.fieldText m skeleton field
  | .dated number digits field skeleton =>
    if f.locale.outputCalendar.isSome then f.locale.fieldText m skeleton field
    else pure (f.formatNumber digits (m.read number))
  | .preset preset => f.formatPreset m preset

/-- What a token says about a moment. -/
def resolve (f : Formatter) (m : Moment) (token : String) : Except FormatError String :=
  match Directive.ofToken? token with
  | some directive => f.applyDirective m directive
  | none => f.unresolved token

/-- A moment written after a pattern such as `yyyy-MM-dd`. -/
def formatDateTime (f : Formatter) (m : Moment) (pattern : String) : Except FormatError String :=
  render (f.resolve m) (tokenize pattern)

end Formatter

end TemporalFormat
