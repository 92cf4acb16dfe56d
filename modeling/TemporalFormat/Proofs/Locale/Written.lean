import TemporalFormat.Locale.Layout
import TemporalFormat.Proofs.Calendar.Output

/-!
# Outputs that are written

Two things can keep an output from being written: a month that has no name, and a year that the
output calendar cannot count. These are the faults, and nothing else ever fails in a field. What is
laid out of fields fails as they do, `Locale.failsOnly_layOut`, and so it is written when they are.
-/

set_option autoImplicit false

namespace TemporalFormat

/-! ## Failures -/

/-- The failures of an output are among those that are allowed. -/
def FailsOnly {α : Type} (allowed : FormatError → Prop) (output : Except FormatError α) : Prop :=
  ∀ e, output = .error e → allowed e

namespace FailsOnly

variable {α β : Type} {allowed : FormatError → Prop} {output : Except FormatError α}

/-- A result that is there fails for no cause at all. -/
theorem pure (a : α) : FailsOnly allowed (.ok a) := by
  intro e he
  cases he

/-- Two steps fail for allowed causes only when each of them does. -/
theorem bind {next : α → Except FormatError β} (h : FailsOnly allowed output)
    (hnext : ∀ a, FailsOnly allowed (next a)) : FailsOnly allowed (output >>= next) := by
  intro e he
  cases houtput : output with
  | error e' =>
    rw [houtput] at he
    cases he
    exact h e houtput
  | ok a =>
    rw [houtput] at he
    exact hnext a e he

/-- A list is written without other failures when each of its items is. -/
theorem mapM {write : β → Except FormatError α} (h : ∀ b, FailsOnly allowed (write b))
    (items : List β) : FailsOnly allowed (items.mapM write) := by
  induction items with
  | nil => exact .pure _
  | cons b rest ih =>
    rw [List.mapM_cons]
    exact (h b).bind fun _ => ih.bind fun _ => .pure _

/-- An output that has no way to fail is there. -/
theorem exists_ok (h : FailsOnly (fun _ => False) output) : ∃ a, output = .ok a := by
  cases houtput : output with
  | error e => exact (h e houtput).elim
  | ok a => exact ⟨a, rfl⟩

/-- What is written fails for no cause at all. -/
theorem of_exists_ok (h : ∃ a, output = .ok a) : FailsOnly allowed output := by
  obtain ⟨a, rfl⟩ := h
  exact pure a

end FailsOnly

/-- The failures of a moment that no range check has passed: a month without a name, and a year
that the Buddhist calendar cannot count. -/
def FormatError.IsFault : FormatError → Prop
  | .unnamedMonth month => ¬ (1 ≤ month ∧ month ≤ 12)
  | .yearOverflow year => Calendar.maxYear < year + 543
  | .invalidSetting _ _ | .unknownToken _ | .outOfRange _ _ => False

namespace Locale

variable {loc : Locale} {m : Moment}

/-! ## Fields -/

/-- A month whose number is from 1 to 12 is written. -/
theorem exists_monthText (loc : Locale) (skeleton : Skeleton) {month : Nat}
    (h : 1 ≤ month ∧ month ≤ 12) :
    ∃ text, loc.monthText skeleton month = .ok text := by
  unfold monthText
  split
  · exact ⟨_, rfl⟩
  · exact ⟨_, dif_pos h⟩

/-- A field is written when the month has a number from 1 to 12 and the year can be counted in the
output calendar. -/
theorem exists_fieldText_of_buddhist (hmonth : 1 ≤ m.date.month ∧ m.date.month ≤ 12)
    (hyear : loc.calendar = .buddhist → m.date.year + 543 ≤ Calendar.maxYear)
    (skeleton : Skeleton) (field : Field) :
    ∃ text, loc.fieldText m skeleton field = .ok text := by
  obtain ⟨date, hdate⟩ := Calendar.exists_convert_of_buddhist hyear
  cases field with
  | month =>
    obtain ⟨text, htext⟩ :=
      loc.exists_monthText skeleton (Calendar.month_of_convert hdate hmonth)
    exact ⟨text, by rw [fieldText, hdate]; exact htext⟩
  | day | weekday | year | era | dayPeriod => exact ⟨_, by rw [fieldText, hdate]; rfl⟩

/-- A field is written when the month has a number from 1 to 12 and the year can be counted. -/
theorem exists_fieldText (hmonth : 1 ≤ m.date.month ∧ m.date.month ≤ 12)
    (hyear : m.date.year + 543 ≤ Calendar.maxYear) (skeleton : Skeleton) (field : Field) :
    ∃ text, loc.fieldText m skeleton field = .ok text :=
  exists_fieldText_of_buddhist hmonth (fun _ => hyear) skeleton field

/-- The conversion of a date fails only for a fault of the year. -/
theorem failsOnly_fault_convert (calendar : Calendar) (d : Date) :
    FailsOnly FormatError.IsFault (calendar.convert d) := by
  cases calendar with
  | gregory | islamic => exact .pure _
  | buddhist =>
    intro e he
    rw [Calendar.convert] at he
    split at he
    · rename_i hyear
      cases he
      exact hyear
    · cases he

/-- The text of a month fails only for a fault of the month. -/
theorem failsOnly_fault_monthText (loc : Locale) (skeleton : Skeleton) (month : Nat) :
    FailsOnly FormatError.IsFault (loc.monthText skeleton month) := by
  intro e he
  by_cases h : 1 ≤ month ∧ month ≤ 12
  · obtain ⟨text, htext⟩ := loc.exists_monthText skeleton h
    cases htext.symm.trans he
  · unfold monthText at he
    split at he
    · cases he
    · rw [NameSet.monthName, dif_neg h] at he
      cases he
      exact h

/-- Nothing but a fault keeps a field from being written. -/
theorem failsOnly_fault_fieldText (loc : Locale) (m : Moment) (skeleton : Skeleton)
    (field : Field) : FailsOnly FormatError.IsFault (loc.fieldText m skeleton field) := by
  apply (failsOnly_fault_convert loc.calendar m.date).bind
  intro date
  cases field with
  | month => exact loc.failsOnly_fault_monthText skeleton date.month
  | day | weekday | year | era | dayPeriod => exact .pure _

/-! ## Layouts -/

section Layouts

variable {allowed : FormatError → Prop}
  (h : ∀ skeleton field, FailsOnly allowed (loc.fieldText m skeleton field))

include h

/-- A layout fails for allowed causes only when every field does. -/
theorem failsOnly_layoutText (pieces : List Piece) :
    FailsOnly allowed (loc.layoutText m pieces) := by
  induction pieces with
  | nil => exact .pure _
  | cons piece rest ih =>
    have hpiece : FailsOnly allowed (loc.pieceText m piece) := by
      unfold pieceText
      split
      · exact .pure _
      · exact h _ _
    exact hpiece.bind fun _ => ih.bind fun _ => .pure _

/-- A date fails for allowed causes only when every field does. -/
theorem failsOnly_dateText (skeleton : Skeleton) :
    FailsOnly allowed (loc.dateText m skeleton) := by
  have hera : FailsOnly allowed (loc.eraSuffix m) := by
    unfold eraSuffix
    split
    · exact .pure _
    · exact (h {} .era).bind fun _ => .pure _
  exact (failsOnly_layoutText h _).bind fun _ => hera.bind fun _ => .pure _

/-- A time fails for allowed causes only when every field does. -/
theorem failsOnly_timeText (skeleton : Skeleton) :
    FailsOnly allowed (loc.timeText m skeleton) := by
  simp only [timeText]
  split
  · exact (h skeleton .dayPeriod).bind fun _ => .pure _
  · exact .pure _

/-- A whole output fails as its fields do. -/
theorem failsOnly_layOut (skeleton : Skeleton) : FailsOnly allowed (loc.layOut m skeleton) := by
  have hdate := failsOnly_dateText h skeleton
  have htime := failsOnly_timeText h skeleton
  have hboth : FailsOnly allowed (loc.dateAndTime m skeleton) := by
    unfold dateAndTime
    split
    · split
      · exact hdate.bind fun _ => htime.bind fun _ => .pure _
      · exact htime
    · exact hdate
  exact hboth.bind fun _ => .pure _

end Layouts

/-- All that a skeleton asks for is written when every field is. -/
theorem exists_layOut (h : ∀ skeleton field, ∃ text, loc.fieldText m skeleton field = .ok text)
    (skeleton : Skeleton) : ∃ text, loc.layOut m skeleton = .ok text :=
  (failsOnly_layOut (fun skeleton field => .of_exists_ok (h skeleton field)) skeleton).exists_ok

end Locale

end TemporalFormat
