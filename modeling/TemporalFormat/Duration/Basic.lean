import TemporalFormat.Error
import TemporalFormat.Numeral.Magnitude

/-!
# Units of time and durations

Durations are counted in units, from the year down to the millisecond. A month counts as 30 days and
a year as 365. A duration has an amount of every unit. It can be shifted to some units: the larger
of them take whole amounts of what is left over by those before, and the smallest takes all the rest
with its fraction.
-/

set_option autoImplicit false

namespace TemporalFormat

/-! ## Units -/

/-- A unit of time. -/
inductive TimeUnit where
  | year
  | month
  | day
  | hour
  | minute
  | second
  | millisecond
  deriving DecidableEq

namespace TimeUnit

/-- Every unit, the largest first. -/
def all : List TimeUnit :=
  [.year, .month, .day, .hour, .minute, .second, .millisecond]

/-- The place of a unit among all units. -/
def index : TimeUnit → Nat
  | .year => 0
  | .month => 1
  | .day => 2
  | .hour => 3
  | .minute => 4
  | .second => 5
  | .millisecond => 6

/-- The name of a unit. -/
def name : TimeUnit → String
  | .year => "year"
  | .month => "month"
  | .day => "day"
  | .hour => "hour"
  | .minute => "minute"
  | .second => "second"
  | .millisecond => "millisecond"

/-- The length of a unit in milliseconds. -/
def millis : TimeUnit → Nat
  | .year => 31536000000
  | .month => 2592000000
  | .day => 86400000
  | .hour => 3600000
  | .minute => 60000
  | .second => 1000
  | .millisecond => 1

/-- The unit with a given name, in the singular or the plural. -/
def ofName (name : String) : Except FormatError TimeUnit :=
  match all.find? (fun unit => unit.name == name || unit.name ++ "s" == name) with
  | some unit => .ok unit
  | none => .error (.invalidSetting .timeUnit name)

/-- The unit that a letter of a duration pattern stands for. -/
def ofLetter? : Char → Option TimeUnit
  | 'S' => some .millisecond
  | 's' => some .second
  | 'm' => some .minute
  | 'h' => some .hour
  | 'd' => some .day
  | 'M' => some .month
  | 'y' => some .year
  | _ => none

/-- The unit that a token of a duration pattern stands for, which its first letter decides. -/
def ofToken? (token : String) : Option TimeUnit :=
  token.toList.head?.bind ofLetter?

/-- A unit put into a sorted list. -/
def insert (unit : TimeUnit) : List TimeUnit → List TimeUnit
  | [] => [unit]
  | other :: rest =>
    if unit.index ≤ other.index then unit :: other :: rest else other :: insert unit rest

/-- The units of a list, sorted in the order of all units. -/
def sort (units : List TimeUnit) : List TimeUnit :=
  units.foldr insert []

end TimeUnit

/-! ## Durations -/

/-- An amount of every unit of time. -/
@[ext]
structure Duration (α : Type) where
  amount : TimeUnit → α

/-- The length of a unit in milliseconds, as a magnitude. -/
def TimeUnit.length {α : Type} [Magnitude α] (unit : TimeUnit) : α :=
  Magnitude.ofInt unit.millis

namespace Duration

variable {α : Type}

/-- The duration with `value` of one unit and the rest as before. -/
def set (d : Duration α) (unit : TimeUnit) (value : α) : Duration α where
  amount other := if other = unit then value else d.amount other

/-- The unit that was set has the new amount. -/
theorem amount_set_self (d : Duration α) (unit : TimeUnit) (value : α) :
    (d.set unit value).amount unit = value :=
  if_pos rfl

/-- Every other unit has the amount it had. -/
theorem amount_set_of_ne (d : Duration α) {unit other : TimeUnit} (value : α)
    (h : other ≠ unit) : (d.set unit value).amount other = d.amount other :=
  if_neg h

variable [Magnitude α]

/-- The duration without an amount of any unit. -/
def zero : Duration α where
  amount _ := Magnitude.ofInt 0

/-- The duration of a number of milliseconds. -/
def ofMillis (millis : Int) : Duration α :=
  zero.set .millisecond (Magnitude.ofInt millis)

/-- The duration of a number of nanoseconds, in milliseconds. What is left over by the whole
milliseconds is turned into a fraction before it is added to them. -/
def ofNanos (nanos : Int) : Duration α :=
  zero.set .millisecond (Magnitude.ofInt (nanos.tdiv 1000000) +
    Magnitude.ofInt (nanos.tmod 1000000) / Magnitude.ofInt 1000000)

/-- The lengths of the amounts in milliseconds, the largest unit first. -/
def lengths (d : Duration α) : List α :=
  TimeUnit.all.map fun unit => d.amount unit * unit.length

/-- The length of a duration in milliseconds, added up from the largest unit to the smallest. -/
def asMillis (d : Duration α) : α :=
  match d.lengths with
  | [] => Magnitude.ofInt 0
  | first :: rest => rest.foldl (· + ·) first

end Duration

/-! ## Shifting -/

/-- What a shift has come to: the milliseconds that remain and the amounts that have been set. -/
structure Shift (α : Type) where
  remaining : α
  shifted : Duration α

namespace Shift

variable {α : Type} [Magnitude α]

/-- The unit takes a whole amount of what remains. -/
def takeWhole (s : Shift α) (unit : TimeUnit) : Shift α :=
  let whole := Magnitude.truncate (s.remaining / unit.length)
  ⟨s.remaining - whole * unit.length, s.shifted.set unit whole⟩

/-- The unit takes all that remains. -/
def takeRest (s : Shift α) (unit : TimeUnit) : Duration α :=
  s.shifted.set unit (s.remaining / unit.length)

end Shift

namespace Duration

variable {α : Type} [Magnitude α]

/-- The same duration in some units only. The units are sorted and repetitions among them are
dropped. Then the larger ones take whole amounts, one after the other, and the smallest takes the
rest. Without any unit the duration stays as it is. -/
def shiftTo (d : Duration α) (units : List TimeUnit) : Duration α :=
  let wanted := (TimeUnit.sort units).eraseReps
  match wanted.getLast? with
  | none => d
  | some smallest =>
    (wanted.dropLast.foldl Shift.takeWhole ⟨d.asMillis, zero⟩).takeRest smallest

end Duration

end TemporalFormat
