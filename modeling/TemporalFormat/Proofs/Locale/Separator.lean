import TemporalFormat.Moment.DateTime
import TemporalFormat.Proofs.Locale.Written

/-!
# Dates and times in one output

An output with a date and a time is the output of the date, a separator and the output of the time:
`Locale.layOut_eq_joined`. The longer separator is meant for the long and the full layout of the
date, `LocaleData.separatorFor`. But the layout is chosen by the weekday before the month, and the
separator by the month alone, so a date with a weekday and without the long name of its month has
the full layout and the shorter separator: `Locale.separator_follows_month`.
-/

set_option autoImplicit false

namespace TemporalFormat

/-! ## Layouts and their separators -/

/-- The kinds of date layouts. -/
inductive LayoutKind where
  | numeric
  | medium
  | long
  | full
  deriving DecidableEq

/-- The layout of a kind. -/
def DateLayouts.ofKind (layouts : DateLayouts) : LayoutKind → List Piece
  | .numeric => layouts.numeric
  | .medium => layouts.medium
  | .long => layouts.long
  | .full => layouts.full

/-- The separator that is meant for the layouts of a kind. -/
def LocaleData.separatorFor (data : LocaleData) : LayoutKind → String
  | .numeric | .medium => data.dateTimeSeparator
  | .long | .full => data.dateTimeSeparatorLong

namespace Skeleton

variable (skeleton : Skeleton)

/-- The kind of layout in which the date of a skeleton is written. -/
def layoutKind : LayoutKind :=
  if skeleton.weekday.isSome then .full
  else match skeleton.month with
    | some (.name .long) => .long
    | some (.name .narrow) | some (.name .short) => .medium
    | some (.number _) | none => .numeric

/-- The fields of the date alone. -/
def dateOnly : Skeleton :=
  { skeleton with hour := none, minute := none, second := none, zoneName := none, hour12 := none }

/-- The fields of the time alone, with the name of the zone. -/
def timeOnly : Skeleton :=
  { skeleton with era := none, weekday := none, year := none, month := none, day := none }

/-- A weekday without the long name of the month asks for the full layout of a date and for the
separator of the shorter ones. -/
def WeekdayWithoutLongMonth : Prop :=
  skeleton.weekday.isSome = true ∧ skeleton.month ≠ some (.name .long)

instance : Decidable skeleton.WeekdayWithoutLongMonth :=
  inferInstanceAs (Decidable (_ ∧ _))

/-- The layout of a date is chosen by its kind. -/
theorem choose_eq_ofKind (layouts : DateLayouts) :
    layouts.choose skeleton = layouts.ofKind skeleton.layoutKind := by
  unfold DateLayouts.choose layoutKind
  split
  · rfl
  · match skeleton.month with
    | some (.name .long) | some (.name .narrow) | some (.name .short) => rfl
    | some (.number _) | none => rfl

/-- A skeleton of the date alone asks for no time. -/
theorem hasTime_dateOnly : skeleton.dateOnly.hasTime = false := rfl

/-- A skeleton of the time alone asks for no date. -/
theorem hasDate_timeOnly : skeleton.timeOnly.hasDate = false := rfl

/-- A skeleton of the time alone asks for a time when the whole skeleton does. -/
theorem hasTime_timeOnly : skeleton.timeOnly.hasTime = skeleton.hasTime := rfl

end Skeleton

namespace Locale

variable (loc : Locale) (m : Moment) (skeleton : Skeleton)

/-- The output of the date and the output of the time with a separator between them. -/
def joined (separator : String) : Except FormatError String := do
  let date ← loc.layOut m skeleton.dateOnly
  let time ← loc.layOut m skeleton.timeOnly
  pure (date ++ separator ++ time)

/-- The shorter separator takes the place of the longer one beside a weekday
without the long name of the month. -/
theorem separator_eq :
    loc.separator skeleton =
      if skeleton.WeekdayWithoutLongMonth then loc.data.dateTimeSeparator
      else loc.data.separatorFor skeleton.layoutKind := by
  split
  · rename_i halone
    rw [separator, if_neg halone.2]
  · rename_i halone
    unfold Skeleton.WeekdayWithoutLongMonth at halone
    by_cases hlong : skeleton.month = some (.name .long)
    · rw [separator, if_pos hlong, Skeleton.layoutKind, hlong]
      split <;> rfl
    · have hweekday : ¬ skeleton.weekday.isSome = true := fun h => halone ⟨h, hlong⟩
      rw [separator, if_neg hlong, Skeleton.layoutKind, if_neg hweekday]
      split
      · rename_i h
        exact absurd h hlong
      all_goals rfl

/-- The output of the date alone is the text of the date. -/
theorem layOut_dateOnly : loc.layOut m skeleton.dateOnly = loc.dateText m skeleton := by
  have hdate : loc.dateAndTime m skeleton.dateOnly = loc.dateText m skeleton.dateOnly := by
    rw [dateAndTime, skeleton.hasTime_dateOnly]
    rfl
  have hzone : zoneSuffix m skeleton.dateOnly = "" := rfl
  rw [layOut, hdate, hzone]
  simp only [String.append_empty, bind_pure]
  rfl

/-- The output of the time alone is the text of the time, with the name of the zone. -/
theorem layOut_timeOnly (htime : skeleton.hasTime = true) :
    loc.layOut m skeleton.timeOnly = (do
      let time ← loc.timeText m skeleton
      pure (time ++ zoneSuffix m skeleton)) := by
  have hdate : loc.dateAndTime m skeleton.timeOnly = loc.timeText m skeleton.timeOnly := by
    rw [dateAndTime, skeleton.hasTime_timeOnly, htime, skeleton.hasDate_timeOnly]
    rfl
  rw [layOut, hdate]
  rfl

/-- An output with a date and a time has both of them. -/
theorem layOut_eq_joined (hdate : skeleton.hasDate = true) (htime : skeleton.hasTime = true) :
    loc.layOut m skeleton = loc.joined m skeleton (loc.separator skeleton) := by
  rw [joined, loc.layOut_dateOnly, loc.layOut_timeOnly m skeleton htime, layOut, dateAndTime,
    if_pos htime, if_pos hdate]
  simp only [bind_assoc, pure_bind, String.append_assoc]

/-- Two separators make two outputs, unless a part fails. -/
theorem joined_eq_joined_iff (separator separator' : String) :
    loc.joined m skeleton separator = loc.joined m skeleton separator' ↔
      separator = separator' ∨ ∃ e, loc.joined m skeleton separator = .error e := by
  unfold joined
  cases loc.layOut m skeleton.dateOnly with
  | error e => exact ⟨fun _ => .inr ⟨e, rfl⟩, fun _ => rfl⟩
  | ok date =>
    cases loc.layOut m skeleton.timeOnly with
    | error e => exact ⟨fun _ => .inr ⟨e, rfl⟩, fun _ => rfl⟩
    | ok time =>
      constructor
      · intro h
        have htext : date ++ separator ++ time = date ++ separator' ++ time := Except.ok.inj h
        have hlist := congrArg String.toList htext
        simp only [String.toList_append] at hlist
        exact .inl (String.toList_injective
          (List.append_cancel_left (List.append_cancel_right hlist)))
      · rintro (rfl | ⟨e, he⟩)
        · rfl
        · cases he

/-- **The separator follows the month.** The date of an output is in the layout of its kind, and an
output with a date and a time joins the two. It joins them with the separator that is meant for the
layout, but for one case: beside a weekday without the long name of the month, which has the full
layout, stands the shorter separator. There the output is not what is meant, unless the two
separators are the same or there is no output at all, for want of a month or a year that can be
written. -/
theorem separator_follows_month (hdate : skeleton.hasDate = true)
    (htime : skeleton.hasTime = true) :
    loc.data.dateLayouts.choose skeleton =
      loc.data.dateLayouts.ofKind skeleton.layoutKind ∧
    loc.layOut m skeleton = loc.joined m skeleton
      (if skeleton.WeekdayWithoutLongMonth then loc.data.dateTimeSeparator
      else loc.data.separatorFor skeleton.layoutKind) ∧
    (loc.layOut m skeleton = loc.joined m skeleton
        (loc.data.separatorFor skeleton.layoutKind) ↔
      ¬ skeleton.WeekdayWithoutLongMonth ∨
        loc.data.dateTimeSeparator = loc.data.dateTimeSeparatorLong ∨
        ∃ e, loc.layOut m skeleton = .error e) ∧
    (1 ≤ m.date.month ∧ m.date.month ≤ 12 →
      (loc.calendar = .buddhist → m.date.year + 543 ≤ Calendar.maxYear) →
      ∃ text, loc.layOut m skeleton = .ok text) := by
  have hjoined := loc.layOut_eq_joined m skeleton hdate htime
  rw [loc.separator_eq] at hjoined
  refine ⟨skeleton.choose_eq_ofKind _, hjoined, ?_, ?_⟩
  · rw [hjoined]
    split
    · rename_i hweekday
      have hfull : skeleton.layoutKind = .full := if_pos hweekday.1
      rw [joined_eq_joined_iff, hfull]
      exact ⟨.inr, fun h => h.resolve_left (not_not_intro hweekday)⟩
    · rename_i hnot
      exact ⟨fun _ => .inl hnot, fun _ => rfl⟩
  · intro hmonth hyear
    exact exists_layOut (exists_fieldText_of_buddhist hmonth hyear) skeleton

/-- With the long name of the month the full layout has its separator. -/
theorem separator_follows_month_long :
    let loc : Locale := .english
    let m := (DateTime.run .epoch [.onDate 1983 10 14, .atTime 9 30 23 0]).toMoment
    let skeleton : Skeleton :=
      { weekday := some .long, year := some .numeric, month := some (.name .long),
        day := some .numeric, hour := some .numeric, minute := some .twoDigit }
    skeleton.hasDate = true ∧ skeleton.hasTime = true ∧ skeleton.layoutKind = .full ∧
      loc.layOut m skeleton = loc.joined m skeleton (loc.data.separatorFor .full) ∧
      loc.layOut m skeleton = .ok "Friday, October 14, 1983 at 9:30 AM" := by
  intro loc m skeleton
  obtain ⟨-, -, hmeant, -⟩ := separator_follows_month loc m skeleton rfl rfl
  exact ⟨rfl, rfl, rfl, hmeant.mpr (.inl (by decide)), by decide⟩

/-- With the short name of the month the full layout has the separator of the shorter ones. -/
theorem layOut_weekday_short_month :
    let loc : Locale := .english
    let m := (DateTime.run .epoch [.onDate 1983 10 14, .atTime 9 30 23 0]).toMoment
    let skeleton : Skeleton :=
      { weekday := some .long, year := some .numeric, month := some (.name .short),
        day := some .numeric, hour := some .numeric, minute := some .twoDigit }
    skeleton.hasDate = true ∧ skeleton.hasTime = true ∧
      loc.data.dateLayouts.choose skeleton = loc.data.dateLayouts.full ∧
      loc.layOut m skeleton = .ok "Friday, October 14, 1983, 9:30 AM" ∧
      loc.joined m skeleton loc.data.dateTimeSeparatorLong =
        .ok "Friday, October 14, 1983 at 9:30 AM" := by
  decide

end Locale

end TemporalFormat
