import TemporalFormat.Format.DateTime
import TemporalFormat.Moment.Timestamp
import TemporalFormat.Proofs.Calendar.Almanac
import TemporalFormat.Proofs.Moment.Reachable

/-!
# Timestamps as dates and times

A timestamp brings its own almanac along. As long as the almanac is sound the timestamp can be
exchanged for the date and time that is built from its parts, since both have the same moment:
`Timestamp.interchangeable_dateTime`. On the way the billion that marks a leap second and the parts
of a millisecond are dropped, and so are the seconds of the offset that make no whole minute.
-/

set_option autoImplicit false

namespace TemporalFormat

/-- The seconds by which a frame is east of universal time. -/
def Frame.seconds : Frame → Int
  | .unzoned => 0
  | .universal => 0
  | .east seconds => seconds

/-- Frames are named as zones with a fixed offset are. -/
theorem Frame.zone_eq_fixedAt (frame : Frame) :
    frame.zone = Zone.fixedAt (frame.seconds.tdiv 60) := by
  cases frame <;> rfl

namespace Timestamp

/-- The local date and time of a clock. Its years are far fewer than those that a `DateTime` can
have. -/
structure Valid (t : Timestamp) : Prop where
  le_year : -262144 ≤ t.date.year
  year_le : t.date.year ≤ 262143
  date_valid : t.date.Valid
  hour_le : t.hour ≤ 23
  minute_le : t.minute ≤ 59
  second_le : t.second ≤ 59

/-- The moment of a timestamp that brings an almanac along. -/
def momentBy (t : Timestamp) (almanac : Almanac) : Moment where
  date := t.date
  hour := t.hour
  minute := t.minute
  second := t.second
  millisecond := t.millisecond
  weekday := almanac.weekday t.date
  week := almanac.week t.date
  ordinal := almanac.ordinal t.date
  zone := t.frame.zone

/-- The clock itself goes by day numbers. -/
theorem toMoment_eq_momentBy (t : Timestamp) : t.toMoment = t.momentBy .byDayNumber := rfl

/-- Sound almanacs lead to the same moment. -/
theorem momentBy_eq_of_soundAt {t : Timestamp} {a b : Almanac} (ha : a.SoundAt t.date)
    (hb : b.SoundAt t.date) : t.momentBy a = t.momentBy b := by
  obtain ⟨hweekday, hweek, hordinal⟩ := ha.agree hb
  rw [momentBy, momentBy, hweekday, hweek, hordinal]

/-- The date and time with the parts of a timestamp. -/
def toDateTime (t : Timestamp) : DateTime where
  date := t.date
  hour := t.hour
  minute := t.minute
  second := t.second
  millisecond := t.millisecond
  weekday := t.date.weekday
  week := t.date.weekByOrdinal
  ordinal := t.date.ordinal
  zone := t.frame.zone

/-- A date and time goes by the ordinal of its date. -/
theorem toMoment_toDateTime (t : Timestamp) :
    t.toDateTime.toMoment = t.momentBy .byOrdinal := by
  simp only [DateTime.toMoment, toDateTime, momentBy, Almanac.byOrdinal]

/-- The millisecond of a timestamp is in its range, even in a leap second. -/
theorem millisecond_le (t : Timestamp) : t.millisecond ≤ 999 := by
  unfold millisecond
  omega

/-- The parts of a timestamp are accepted. -/
theorem Valid.exists_dateTime {t : Timestamp} (h : t.Valid) :
    ∃ start timed, DateTime.onDate t.date.year t.date.month t.date.day = .ok start ∧
      start.atTime t.hour t.minute t.second t.millisecond = .ok timed ∧
      timed.inZone t.frame.zone = t.toDateTime := by
  have hlow := h.le_year
  have hhigh := h.year_le
  refine ⟨DateTime.midnight t.date, { t.toDateTime with zone := Zone.utc }, ?_, ?_, ?_⟩
  · rw [DateTime.onDate_eq_ok_iff]
    refine ⟨?_, ⟨h.date_valid.month_pos, h.date_valid.month_le⟩,
      ⟨h.date_valid.day_pos, h.date_valid.day_le⟩, rfl⟩
    simp only [DateTime.minYear, DateTime.maxYear]
    omega
  · rw [DateTime.atTime_eq_ok_iff]
    refine ⟨h.hour_le, h.minute_le, h.second_le, t.millisecond_le, ?_⟩
    simp only [toDateTime, DateTime.midnight]
  · simp only [DateTime.inZone, toDateTime]

/-- **Timestamps and dates and times are interchangeable.** The parts of a timestamp are accepted,
and what is built from them is written as the timestamp is, whatever almanac the timestamp brings
along as long as it is sound. The almanac that goes by day numbers is. -/
theorem interchangeable_dateTime {t : Timestamp} (h : t.Valid) :
    (∃ start timed, DateTime.onDate t.date.year t.date.month t.date.day = .ok start ∧
      start.atTime t.hour t.minute t.second (t.nanosecond % 1000000000 / 1000000) = .ok timed ∧
      ∀ almanac : Almanac, almanac.SoundAt t.date → ∀ f : Formatter,
        (∀ pattern, f.formatDateTime (t.momentBy almanac) pattern =
          f.formatDateTime (timed.inZone (Zone.fixedAt (t.frame.seconds.tdiv 60))).toMoment
            pattern) ∧
        (∀ preset, f.formatPreset (t.momentBy almanac) preset =
          f.formatPreset (timed.inZone (Zone.fixedAt (t.frame.seconds.tdiv 60))).toMoment
            preset)) ∧
    t.toMoment = t.momentBy .byDayNumber ∧ Almanac.byDayNumber.SoundAt t.date := by
  refine ⟨?_, t.toMoment_eq_momentBy, Almanac.byDayNumber_soundAt h.date_valid⟩
  obtain ⟨start, timed, hstart, htimed, hzone⟩ := h.exists_dateTime
  refine ⟨start, timed, hstart, htimed, ?_⟩
  intro almanac halmanac f
  have hmoment : (timed.inZone (Zone.fixedAt (t.frame.seconds.tdiv 60))).toMoment =
      t.momentBy almanac := by
    rw [← Frame.zone_eq_fixedAt, hzone, toMoment_toDateTime]
    exact momentBy_eq_of_soundAt (Almanac.byOrdinal_soundAt h.date_valid) halmanac
  rw [hmoment]
  exact ⟨fun _ => rfl, fun _ => rfl⟩

/-- A leap second is shown as the second before it, and less than two minutes to the west are one
minute with a plus. -/
theorem interchangeable_dateTime_leapSecond :
    ∃ start timed, DateTime.onDate 2016 12 31 = .ok start ∧ start.atTime 23 59 59 999 = .ok timed ∧
      Formatter.formatDateTime {} (timed.inZone (Zone.fixedAt (-1))).toMoment
        "EEE kkkk-WW ooo HH:mm:ss.SSS z" = .ok "Sat 2016-52 366 23:59:59.999 UTC+0:1" := by
  have hvalid : Timestamp.Valid ⟨⟨2016, 12, 31⟩, 23, 59, 59, 1999999999, .east (-90)⟩ :=
    ⟨by decide, by decide, ⟨by decide, by decide, by decide, by decide⟩, by decide, by decide,
      by decide⟩
  have hsound : Almanac.SoundAt ⟨fun _ => 6, fun _ => ⟨2016, 52⟩, fun _ => 366⟩ ⟨2016, 12, 31⟩ :=
    ⟨by decide, by decide, by decide, ⟨by decide, by decide, by decide⟩, by decide⟩
  obtain ⟨⟨start, timed, hstart, htimed, hsame⟩, -, -⟩ := interchangeable_dateTime hvalid
  refine ⟨start, timed, hstart, htimed, ?_⟩
  exact ((hsame _ hsound {}).1 _).symm.trans (by decide)

end Timestamp

end TemporalFormat
