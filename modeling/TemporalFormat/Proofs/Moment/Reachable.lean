import TemporalFormat.Moment.DateTime
import TemporalFormat.Proofs.Calendar.WeekOfYear

/-!
# Dates and times that requests lead to

Whatever is requested of a date and time, in whatever order, its parts stay in their ranges and the
weekday, the week and the ordinal that it carries along stay those of its date (`DateTime.Valid`): a
request that would break this is refused, a new date brings its own, and a time or a zone touches
neither them nor the date. So the moment of such a date and time is consistent. The main statement
is `DateTime.requests_consistent_and_exact`, which also says exactly which requests are refused, for
which reason, and what a request leaves alone.
-/

set_option autoImplicit false

namespace TemporalFormat

/-- The parts of a moment lie in their ranges, and what follows from the date fits the date. -/
structure Moment.Consistent (m : Moment) : Prop where
  minYear_le : DateTime.minYear ≤ m.date.year
  le_maxYear : m.date.year ≤ DateTime.maxYear
  date_valid : m.date.Valid
  hour_le : m.hour ≤ 23
  minute_le : m.minute ≤ 59
  second_le : m.second ≤ 59
  millisecond_le : m.millisecond ≤ 999
  /-- The ordinal counts the days from 1 January to the date. -/
  ordinal_eq : (m.ordinal : Int) = m.date.dayNumber - yearStart m.date.year + 1
  /-- These are the days of the months before and those of the month. -/
  ordinal_eq_sum : m.ordinal =
    ((List.range' 1 (m.date.month - 1)).map (daysInMonth m.date.year)).sum + m.date.day
  ordinal_pos : 1 ≤ m.ordinal
  ordinal_le : m.ordinal ≤ yearLength m.date.year
  weekday_pos : 1 ≤ m.weekday
  weekday_le : m.weekday ≤ 7
  /-- The weekday is as far from Thursday, which is 4, as the date is from 1 January 1970. -/
  weekday_eq : ((m.weekday : Int) - 4) % 7 =
    (m.date.dayNumber - Date.dayNumber ⟨1970, 1, 1⟩) % 7
  week_pos : 1 ≤ m.week.week
  week_le : m.week.week ≤ 53
  year_le_weekYear : m.date.year - 1 ≤ m.week.year
  weekYear_le_year : m.week.year ≤ m.date.year + 1
  isWeekOf : m.week.IsWeekOf m.date

namespace DateTime

/-- The parts of a date and time lie in their ranges, and what it carries along is that of its
date. -/
structure Valid (dt : DateTime) : Prop where
  minYear_le : minYear ≤ dt.date.year
  le_maxYear : dt.date.year ≤ maxYear
  date_valid : dt.date.Valid
  hour_le : dt.hour ≤ 23
  minute_le : dt.minute ≤ 59
  second_le : dt.second ≤ 59
  millisecond_le : dt.millisecond ≤ 999
  weekday_eq : dt.weekday = dt.date.weekday
  week_eq : dt.week = dt.date.weekByOrdinal
  ordinal_eq : dt.ordinal = dt.date.ordinal

/-- A date and time to which requests lead. -/
def Reachable (dt : DateTime) : Prop :=
  ∃ steps, run epoch steps = dt

/-! ## What is refused -/

section Checks

variable {p : Prop} [Decidable p] {e e' : FormatError} {rest : Except FormatError DateTime}
  {next : DateTime}

/-- A request that passes all its checks passes the first one and then the others. -/
theorem check_eq_ok_iff :
    (if p then .error e else rest) = .ok next ↔ ¬ p ∧ rest = .ok next := by
  by_cases hp : p <;> simp [hp]

/-- A request is refused by its first check, or it passes it and is refused by another one. -/
theorem check_eq_error_iff :
    (if p then .error e else rest) = .error e' ↔ p ∧ e' = e ∨ ¬ p ∧ rest = .error e' := by
  by_cases hp : p <;> simp [hp, eq_comm]

end Checks

/-- A date is accepted when its year, its month and its day are in their ranges. -/
theorem onDate_eq_ok_iff {year : Int} {month day : Nat} {next : DateTime} :
    onDate year month day = .ok next ↔
      (minYear ≤ year ∧ year ≤ maxYear) ∧ (1 ≤ month ∧ month ≤ 12) ∧
        (1 ≤ day ∧ day ≤ daysInMonth year month) ∧ next = midnight ⟨year, month, day⟩ := by
  rw [onDate, check_eq_ok_iff, check_eq_ok_iff, check_eq_ok_iff, Except.ok.injEq]
  simp only [not_or, Int.not_lt, Nat.not_lt, eq_comm]

/-- A date is refused for the first of its year, its month and its day that is out of range. -/
theorem onDate_eq_error_iff {year : Int} {month day : Nat} {e : FormatError} :
    onDate year month day = .error e ↔
      ¬ (minYear ≤ year ∧ year ≤ maxYear) ∧ e = .outOfRange .year year ∨
      (minYear ≤ year ∧ year ≤ maxYear) ∧
        (¬ (1 ≤ month ∧ month ≤ 12) ∧ e = .outOfRange .month month ∨
        (1 ≤ month ∧ month ≤ 12) ∧
          ¬ (1 ≤ day ∧ day ≤ daysInMonth year month) ∧ e = .outOfRange .day day) := by
  rw [onDate, check_eq_error_iff, check_eq_error_iff, check_eq_error_iff]
  have hyear : year < minYear ∨ maxYear < year ↔ ¬ (minYear ≤ year ∧ year ≤ maxYear) := by omega
  have hmonth : month < 1 ∨ 12 < month ↔ ¬ (1 ≤ month ∧ month ≤ 12) := by omega
  have hday : day < 1 ∨ daysInMonth year month < day ↔
      ¬ (1 ≤ day ∧ day ≤ daysInMonth year month) := by
    omega
  rw [hyear, hmonth, hday, not_not, not_not, not_not]
  simp only [reduceCtorEq, and_false, or_false]

/-- A time is accepted when its four components are in their ranges. -/
theorem atTime_eq_ok_iff {dt next : DateTime} {hour minute second millisecond : Nat} :
    dt.atTime hour minute second millisecond = .ok next ↔
      hour ≤ 23 ∧ minute ≤ 59 ∧ second ≤ 59 ∧ millisecond ≤ 999 ∧
        next = { dt with hour, minute, second, millisecond } := by
  rw [atTime, check_eq_ok_iff, check_eq_ok_iff, check_eq_ok_iff, check_eq_ok_iff,
    Except.ok.injEq]
  simp only [Nat.not_lt, eq_comm]

/-- A time is refused for the first of its four components that is out of range. -/
theorem atTime_eq_error_iff {dt : DateTime} {hour minute second millisecond : Nat}
    {e : FormatError} :
    dt.atTime hour minute second millisecond = .error e ↔
      23 < hour ∧ e = .outOfRange .hour hour ∨
      hour ≤ 23 ∧ (59 < minute ∧ e = .outOfRange .minute minute ∨
        minute ≤ 59 ∧ (59 < second ∧ e = .outOfRange .second second ∨
          second ≤ 59 ∧ 999 < millisecond ∧ e = .outOfRange .millisecond millisecond)) := by
  rw [atTime, check_eq_error_iff, check_eq_error_iff, check_eq_error_iff, check_eq_error_iff]
  simp only [Nat.not_lt, reduceCtorEq, and_false, or_false]

/-! ## What every request keeps -/

/-- Midnight of a date in its range is valid. -/
theorem valid_midnight {date : Date} (hyear : minYear ≤ date.year) (hyear' : date.year ≤ maxYear)
    (hdate : date.Valid) : (midnight date).Valid where
  minYear_le := hyear
  le_maxYear := hyear'
  date_valid := hdate
  hour_le := Nat.zero_le 23
  minute_le := Nat.zero_le 59
  second_le := Nat.zero_le 59
  millisecond_le := Nat.zero_le 999
  weekday_eq := by rw [midnight]
  week_eq := by rw [midnight]
  ordinal_eq := by rw [midnight]

/-- The first moment of 1970 is valid. -/
theorem valid_epoch : epoch.Valid :=
  valid_midnight (by decide) (by decide) ⟨by decide, by decide, by decide, by decide⟩

/-- A request that is granted leads to valid parts. -/
theorem Valid.apply {dt next : DateTime} (h : dt.Valid) {s : Step} (hs : dt.apply s = .ok next) :
    next.Valid := by
  cases s with
  | onDate year month day =>
    obtain ⟨hyear, hmonth, hday, rfl⟩ := onDate_eq_ok_iff.mp hs
    exact valid_midnight hyear.1 hyear.2 ⟨hmonth.1, hmonth.2, hday.1, hday.2⟩
  | atTime hour minute second millisecond =>
    obtain ⟨hhour, hminute, hsecond, hmillisecond, rfl⟩ := atTime_eq_ok_iff.mp hs
    exact { h with
      hour_le := hhour
      minute_le := hminute
      second_le := hsecond
      millisecond_le := hmillisecond }
  | inZone zone =>
    obtain rfl := Except.ok.inj hs
    exact { h with }

/-- A request keeps valid parts, whether it is granted or refused. -/
theorem Valid.step {dt : DateTime} (h : dt.Valid) (s : Step) : (dt.step s).Valid := by
  unfold DateTime.step
  split
  · rename_i next hs
    exact h.apply hs
  · exact h

/-- Requests keep valid parts. -/
theorem Valid.run {dt : DateTime} (h : dt.Valid) (steps : List Step) : (dt.run steps).Valid := by
  unfold DateTime.run
  induction steps generalizing dt with
  | nil => exact h
  | cons s rest ih => exact ih (h.step s)

/-- Valid dates and times are those to which requests lead. -/
theorem reachable_iff_valid {dt : DateTime} : dt.Reachable ↔ dt.Valid := by
  constructor
  · rintro ⟨steps, rfl⟩
    exact valid_epoch.run steps
  · intro h
    have hdate : onDate dt.date.year dt.date.month dt.date.day = .ok (midnight dt.date) :=
      onDate_eq_ok_iff.mpr ⟨⟨h.minYear_le, h.le_maxYear⟩,
        ⟨h.date_valid.month_pos, h.date_valid.month_le⟩,
        ⟨h.date_valid.day_pos, h.date_valid.day_le⟩, rfl⟩
    have htime : (midnight dt.date).atTime dt.hour dt.minute dt.second dt.millisecond = .ok _ :=
      atTime_eq_ok_iff.mpr ⟨h.hour_le, h.minute_le, h.second_le, h.millisecond_le, rfl⟩
    -- one request for the date, one for the time and one for the zone
    refine ⟨[.onDate dt.date.year dt.date.month dt.date.day,
      .atTime dt.hour dt.minute dt.second dt.millisecond, .inZone dt.zone], ?_⟩
    simp only [DateTime.run, List.foldl_cons, List.foldl_nil, DateTime.step, DateTime.apply, hdate,
      htime]
    -- what comes with the date is what the date and time carries along
    simp only [inZone, midnight, ← h.weekday_eq, ← h.week_eq, ← h.ordinal_eq]

/-! ## Moments -/

section ToMoment

variable (dt : DateTime)

/-- The moment has the date of the date and time. -/
theorem toMoment_date : dt.toMoment.date = dt.date := rfl

/-- A time changes four parts of the moment. -/
theorem toMoment_withTime (hour minute second millisecond : Nat) :
    toMoment { dt with hour, minute, second, millisecond } =
      { dt.toMoment with hour, minute, second, millisecond } := by
  simp only [toMoment]

/-- A zone changes one part of the moment. -/
theorem toMoment_inZone (zone : Zone) :
    (dt.inZone zone).toMoment = { dt.toMoment with zone } := by
  simp only [toMoment, inZone]

variable {dt} (h : dt.Valid)

include h

/-- The weekday that is carried along is that of the date. -/
theorem Valid.toMoment_weekday : dt.toMoment.weekday = dt.date.weekday := h.weekday_eq

/-- The week that is carried along is that of the date. -/
theorem Valid.toMoment_week : dt.toMoment.week = dt.date.weekByOrdinal := h.week_eq

/-- The ordinal that is carried along is that of the date. -/
theorem Valid.toMoment_ordinal : dt.toMoment.ordinal = dt.date.ordinal := h.ordinal_eq

end ToMoment

/-- The moment of valid parts is consistent. -/
theorem Valid.consistent {dt : DateTime} (h : dt.Valid) : dt.toMoment.Consistent where
  minYear_le := h.minYear_le
  le_maxYear := h.le_maxYear
  date_valid := h.date_valid
  hour_le := h.hour_le
  minute_le := h.minute_le
  second_le := h.second_le
  millisecond_le := h.millisecond_le
  ordinal_eq := by
    have := h.date_valid.dayNumber_eq
    rw [h.toMoment_ordinal, toMoment_date]
    omega
  ordinal_eq_sum :=
    h.ordinal_eq.trans (Date.ordinal_eq_sum h.date_valid.month_pos h.date_valid.month_le)
  ordinal_pos := by
    rw [h.toMoment_ordinal]
    exact h.date_valid.ordinal_pos
  ordinal_le := by
    rw [h.toMoment_ordinal]
    exact h.date_valid.ordinal_le
  weekday_pos := by
    rw [h.toMoment_weekday]
    exact dt.date.weekday_pos
  weekday_le := by
    rw [h.toMoment_weekday]
    exact dt.date.weekday_le
  weekday_eq := by
    have hepoch : Date.dayNumber ⟨1970, 1, 1⟩ = 0 := by decide
    have := dt.date.weekday_eq
    rw [h.toMoment_weekday, toMoment_date, hepoch]
    omega
  week_pos := by
    rw [h.toMoment_week]
    exact h.date_valid.weekByOrdinal_week.1
  week_le := by
    rw [h.toMoment_week]
    exact h.date_valid.weekByOrdinal_week.2
  year_le_weekYear := by
    rw [h.toMoment_week, toMoment_date]
    exact (h.date_valid.isWeekOf_year h.date_valid.isWeekOf_weekByOrdinal).1
  weekYear_le_year := by
    rw [h.toMoment_week, toMoment_date]
    exact (h.date_valid.isWeekOf_year h.date_valid.isWeekOf_weekByOrdinal).2
  isWeekOf := by
    rw [h.toMoment_week, toMoment_date]
    exact h.date_valid.isWeekOf_weekByOrdinal

/-- **Requests keep dates and times consistent.** After any requests, granted or refused, the moment
is consistent. A date is accepted exactly when its year, month and day are valid, and refused for
the first of them that is not; a time is accepted exactly when its four components are in range, and
refused for the first that is not. A time changes only these four parts of the moment, and a zone
only the zone. -/
theorem requests_consistent_and_exact :
    (∀ steps, (run epoch steps).toMoment.Consistent) ∧
    (∀ year month day next, onDate year month day = .ok next ↔
      (minYear ≤ year ∧ year ≤ maxYear) ∧ (1 ≤ month ∧ month ≤ 12) ∧
        (1 ≤ day ∧ day ≤ daysInMonth year month) ∧ next = midnight ⟨year, month, day⟩) ∧
    (∀ year month day e, onDate year month day = .error e ↔
      ¬ (minYear ≤ year ∧ year ≤ maxYear) ∧ e = .outOfRange .year year ∨
      (minYear ≤ year ∧ year ≤ maxYear) ∧
        (¬ (1 ≤ month ∧ month ≤ 12) ∧ e = .outOfRange .month month ∨
        (1 ≤ month ∧ month ≤ 12) ∧
          ¬ (1 ≤ day ∧ day ≤ daysInMonth year month) ∧ e = .outOfRange .day day)) ∧
    (∀ (dt : DateTime) hour minute second millisecond next,
      dt.atTime hour minute second millisecond = .ok next ↔
        hour ≤ 23 ∧ minute ≤ 59 ∧ second ≤ 59 ∧ millisecond ≤ 999 ∧
          next = { dt with hour, minute, second, millisecond }) ∧
    (∀ (dt : DateTime) hour minute second millisecond e,
      dt.atTime hour minute second millisecond = .error e ↔
        23 < hour ∧ e = .outOfRange .hour hour ∨
        hour ≤ 23 ∧ (59 < minute ∧ e = .outOfRange .minute minute ∨
          minute ≤ 59 ∧ (59 < second ∧ e = .outOfRange .second second ∨
            second ≤ 59 ∧ 999 < millisecond ∧ e = .outOfRange .millisecond millisecond))) ∧
    (∀ (dt : DateTime) hour minute second millisecond,
      toMoment { dt with hour, minute, second, millisecond } =
        { dt.toMoment with hour, minute, second, millisecond }) ∧
    (∀ (dt : DateTime) zone, dt.inZone zone = { dt with zone } ∧
      (dt.inZone zone).toMoment = { dt.toMoment with zone }) :=
  ⟨fun steps => (valid_epoch.run steps).consistent, fun _ _ _ _ => onDate_eq_ok_iff,
    fun _ _ _ _ => onDate_eq_error_iff, fun _ _ _ _ _ _ => atTime_eq_ok_iff,
    fun _ _ _ _ _ _ => atTime_eq_error_iff, toMoment_withTime,
    fun dt zone => ⟨rfl, dt.toMoment_inZone zone⟩⟩

end DateTime

end TemporalFormat
