import TemporalFormat.Duration.Basic
import TemporalFormat.Format.DateTime
import TemporalFormat.Pattern.Token

/-!
# Durations after a pattern

A duration is shifted once to the units that the pattern names, and each token is replaced by the
amount of its unit. Formatting needs no more of a duration than these two operations, which may
have effects: `DurationAccess` is what it is given, and `Formatter.formatDuration` is the case of
plain durations.
-/

set_option autoImplicit false

namespace TemporalFormat

/-- The two operations on durations of some kind, in a monad. -/
structure DurationAccess (m : Type → Type) (δ α : Type) where
  shiftTo : δ → List TimeUnit → m δ
  get : δ → TimeUnit → m α

/-- The operations on plain durations, which have no effects. -/
def Duration.access {α : Type} [Magnitude α] : DurationAccess Id (Duration α) α where
  shiftTo := Duration.shiftTo
  get := Duration.amount

/-- The units that a pattern names, in the order of its tokens and as often as they occur. -/
def unitsNamed (tokens : List Token) : List TimeUnit :=
  (tokens.filter fun t => !t.literal).filterMap fun t => TimeUnit.ofToken? t.text

namespace Formatter

variable {m : Type → Type} [Monad m] {δ α : Type} [Magnitude α]

/-- What a token says about a duration that has been shifted: the amount of its unit with at least
as many digits as the token has letters. -/
def resolveUnit (f : Formatter) (access : DurationAccess m δ α) (shifted : δ) (token : String) :
    ExceptT FormatError m String :=
  match TimeUnit.ofToken? token with
  | some unit => do
    let value ← access.get shifted unit
    pure (f.formatMagnitude token.length value)
  | none => ExceptT.mk (pure (f.unresolved token))

/-- A duration of any kind written after a pattern such as `hh:mm:ss`. -/
def formatDurationWith (f : Formatter) (access : DurationAccess m δ α) (d : δ) (pattern : String) :
    ExceptT FormatError m String := do
  let tokens := tokenize pattern
  let shifted ← access.shiftTo d (unitsNamed tokens)
  render (f.resolveUnit access shifted) tokens

/-- A duration written after a pattern such as `hh:mm:ss`. -/
def formatDuration (f : Formatter) (d : Duration α) (pattern : String) :
    Except FormatError String :=
  (f.formatDurationWith Duration.access d pattern).run.run

end Formatter

end TemporalFormat
