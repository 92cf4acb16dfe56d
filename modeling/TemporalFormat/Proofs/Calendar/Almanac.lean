import TemporalFormat.Proofs.Calendar.WeekOfYear

/-!
# Almanacs

An almanac says of a date which weekday it is, in which week it lies and which day of the year it
is. Almanacs may be made in different ways, but there is only one right answer to each of these
questions, and so sound almanacs say the same of a date: `Almanac.SoundAt.agree`. The two that are
used here are sound. They find the week in different ways, and one of them counts the days of the
year by months while the other one subtracts day numbers.
-/

set_option autoImplicit false

namespace TemporalFormat

/-- A date has one week. -/
theorem YearWeek.IsWeekOf.unique {w w' : YearWeek} {d : Date} (h : w.IsWeekOf d)
    (h' : w'.IsWeekOf d) : w = w' := by
  have hyear : w.year = w'.year := by
    have hlt : w.year < w'.year + 1 :=
      yearStart_lt_iff.mp (lt_of_le_of_lt h.yearStart_le h'.lt_yearStart)
    have hgt : w'.year < w.year + 1 :=
      yearStart_lt_iff.mp (lt_of_le_of_lt h'.yearStart_le h.lt_yearStart)
    omega
  have hweek : (w.week : Int) = w'.week := by
    rw [h.week_eq, h'.week_eq, hyear]
  obtain ⟨year, week⟩ := w
  obtain ⟨year', week'⟩ := w'
  simp only [YearWeek.mk.injEq] at *
  exact ⟨hyear, by omega⟩

/-- The rule of the Thursday finds the week of a date. -/
theorem Date.Valid.isWeekOf_weekByThursday {d : Date} (h : d.Valid) :
    d.weekByThursday.IsWeekOf d := by
  have hnear := d.thursday_near
  have hstart := h.yearStart_le
  have hend := h.lt_yearStart
  have hprevious := yearStart_succ (d.year - 1)
  have hlength := yearLength_cases (d.year - 1)
  have hnext := yearStart_succ (d.year + 1)
  have hlength' := yearLength_cases (d.year + 1)
  rw [Int.sub_add_cancel] at hprevious
  -- the Thursday is at most three days off, so its year is that of the date or a neighbour of it
  have hbounds : yearStart d.yearOfThursday ≤ d.thursday ∧
      d.thursday < yearStart (d.yearOfThursday + 1) := by
    unfold Date.yearOfThursday
    split
    · rw [Int.sub_add_cancel]
      omega
    · split <;> omega
  refine ⟨hbounds.1, hbounds.2, ?_⟩
  have := hbounds.1
  simp only [Date.weekByThursday]
  omega

/-- What is said of a date beside its year, its month and its day. -/
structure Almanac where
  weekday : Date → Nat
  week : Date → YearWeek
  ordinal : Date → Nat

namespace Almanac

/-- What an almanac says of a date is right. -/
structure SoundAt (almanac : Almanac) (d : Date) : Prop where
  weekday_pos : 1 ≤ almanac.weekday d
  weekday_le : almanac.weekday d ≤ 7
  /-- The weekday is as far from Thursday, which is 4, as the date is from 1 January 1970. -/
  weekday_eq : ((almanac.weekday d : Int) - 4) % 7 =
    (d.dayNumber - Date.dayNumber ⟨1970, 1, 1⟩) % 7
  isWeekOf : (almanac.week d).IsWeekOf d
  /-- The days of the year are those of the months before and those of the month. -/
  ordinal_eq : almanac.ordinal d =
    ((List.range' 1 (d.month - 1)).map (daysInMonth d.year)).sum + d.day

/-- **Sound almanacs agree.** -/
theorem SoundAt.agree {a b : Almanac} {d : Date} (ha : a.SoundAt d) (hb : b.SoundAt d) :
    a.weekday d = b.weekday d ∧ a.week d = b.week d ∧ a.ordinal d = b.ordinal d := by
  refine ⟨?_, ha.isWeekOf.unique hb.isWeekOf, ha.ordinal_eq.trans hb.ordinal_eq.symm⟩
  have hmod := ha.weekday_eq.trans hb.weekday_eq.symm
  have := ha.weekday_pos
  have := ha.weekday_le
  have := hb.weekday_pos
  have := hb.weekday_le
  omega

/-- The almanac that goes by the place of a date in its year. -/
def byOrdinal : Almanac where
  weekday := Date.weekday
  week := Date.weekByOrdinal
  ordinal := Date.ordinal

/-- The almanac that goes by day numbers alone. -/
def byDayNumber : Almanac where
  weekday := Date.weekday
  week := Date.weekByThursday
  ordinal d := (d.dayNumber - yearStart d.year + 1).toNat

/-- A weekday is as far from Thursday as its date is from 1 January 1970. -/
theorem weekday_sound (d : Date) :
    ((d.weekday : Int) - 4) % 7 = (d.dayNumber - Date.dayNumber ⟨1970, 1, 1⟩) % 7 := by
  have hepoch : Date.dayNumber ⟨1970, 1, 1⟩ = 0 := by decide
  have := d.weekday_eq
  omega

/-- The almanac that goes by ordinals is sound at every date. -/
theorem byOrdinal_soundAt {d : Date} (h : d.Valid) : byOrdinal.SoundAt d where
  weekday_pos := d.weekday_pos
  weekday_le := d.weekday_le
  weekday_eq := weekday_sound d
  isWeekOf := by
    simp only [byOrdinal]
    exact h.isWeekOf_weekByOrdinal
  ordinal_eq := by
    simp only [byOrdinal]
    exact Date.ordinal_eq_sum h.month_pos h.month_le

/-- The almanac that goes by day numbers is sound at every date. -/
theorem byDayNumber_soundAt {d : Date} (h : d.Valid) : byDayNumber.SoundAt d where
  weekday_pos := d.weekday_pos
  weekday_le := d.weekday_le
  weekday_eq := weekday_sound d
  isWeekOf := h.isWeekOf_weekByThursday
  ordinal_eq := by
    have hnumber := h.dayNumber_eq
    rw [← Date.ordinal_eq_sum h.month_pos h.month_le]
    simp only [byDayNumber]
    omega

end Almanac

end TemporalFormat
