import TemporalFormat.Moment.DateTime

/-!
# Timestamps

A timestamp comes from a clock: it counts nanoseconds, its offset is in seconds, and in a leap
second the nanoseconds go on past a billion while the second stays 59. Its week is found by the
rule of the Thursday and its ordinal from day numbers.
-/

set_option autoImplicit false

namespace TemporalFormat

/-- The frame in which the local time of a timestamp is given. -/
inductive Frame where
  | unzoned
  | universal
  | east (seconds : Int)
  deriving DecidableEq

/-- The zone of a frame, where seconds of the offset that make no whole minute are dropped. Time
without a zone is written as universal time is. -/
def Frame.zone : Frame → Zone
  | .unzoned => { offset := 0, fixed := true, name := "UTC", shortName := "UTC", longName := "UTC" }
  | .universal => Zone.utc
  | .east seconds => Zone.fixedAt (seconds.tdiv 60)

/-- A local date and time of a clock. -/
structure Timestamp where
  date : Date
  hour : Nat
  minute : Nat
  second : Nat
  nanosecond : Nat
  frame : Frame
  deriving DecidableEq

namespace Timestamp

/-- The millisecond of a timestamp, without the billion that marks a leap second. -/
def millisecond (t : Timestamp) : Nat :=
  t.nanosecond % 1000000000 / 1000000

/-- The moment of a timestamp. -/
def toMoment (t : Timestamp) : Moment where
  date := t.date
  hour := t.hour
  minute := t.minute
  second := t.second
  millisecond := t.millisecond
  weekday := t.date.weekday
  week := t.date.weekByThursday
  ordinal := (t.date.dayNumber - yearStart t.date.year + 1).toNat
  zone := t.frame.zone

end Timestamp

end TemporalFormat
