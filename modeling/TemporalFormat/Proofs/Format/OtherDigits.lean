import TemporalFormat.Proofs.Format.Likeness
import TemporalFormat.Proofs.Format.UnitTexts
import TemporalFormat.Proofs.Numeral.Transcription

/-!
# The same output in other digits

The numbering system of a formatter changes nothing but digits: every output has the same length in
all systems, the same digits in the same places and the same characters elsewhere, and every failure
has the same cause. This is `Formatter.sameButDigits_outputs`. All numbers and offsets are padded
and given their signs and separators before their digits are replaced, and everything else that is
written does not depend on the numbering system.
-/

set_option autoImplicit false

namespace TemporalFormat

open NumberingSystem (SameButDigits latn)

/-- Texts that are the same but for their digits are so part by part. -/
theorem NumberingSystem.textCongruence_sameButDigits (system : NumberingSystem) :
    TextCongruence system.SameButDigits where
  refl := SameButDigits.refl
  append := SameButDigits.append

/-- The formatter with another numbering system. -/
def Formatter.inDigits (f : Formatter) (system : NumberingSystem) : Formatter :=
  { f with locale := { f.locale with numberingSystem := system } }

/-- The digits have no influence on the output calendar. -/
theorem Formatter.outputCalendar_inDigits (f : Formatter) (system : NumberingSystem) :
    (f.inDigits system).locale.outputCalendar = f.locale.outputCalendar := rfl

/-- The digits have no influence on rounding. -/
theorem Formatter.round_inDigits (f : Formatter) (system : NumberingSystem) :
    (f.inDigits system).round = f.round := rfl

/-! ## Offsets -/

/-- The sign, the separator and the letter `Z` are no digits. -/
theorem sameButDigits_renderOffset (system : NumberingSystem) (style : OffsetStyle)
    (allowZ fixed : Bool) (offset : Int) :
    system.SameButDigits (renderOffset latn.signedNumeral style allowZ fixed offset)
      (renderOffset system.signedNumeral style allowZ fixed offset) := by
  have hnumeral : ∀ minDigits n,
      system.SameButDigits (latn.signedNumeral minDigits n) (system.signedNumeral minDigits n) :=
    SameButDigits.signedNumeral
  unfold renderOffset
  split
  · exact SameButDigits.refl "Z"
  · refine SameButDigits.append (SameButDigits.refl _) ?_
    cases style with
    | short => exact ((hnumeral 2 _).append (SameButDigits.refl ":")).append (hnumeral 2 _)
    | techie => exact (hnumeral 2 _).append (hnumeral 2 _)
    | narrow =>
      dsimp only
      split
      · exact ((hnumeral 0 _).append (SameButDigits.refl ":")).append (hnumeral 0 _)
      · exact hnumeral 0 _

namespace Formatter

variable (f : Formatter) (system : NumberingSystem)

/-- Formatters that differ in their numbering systems only write the same but for digits. -/
theorem alike_inDigits : Alike system.SameButDigits (f.inDigits latn) (f.inDigits system) where
  locale :=
    { data_eq := rfl
      calendar_eq := rfl
      formatNumber := SameButDigits.signedNumeral }
  formatOffset := sameButDigits_renderOffset system
  strict_eq := rfl

/-! ## Moments -/

/-- The choice of an output calendar does not depend on the digits. -/
theorem agree_formatDateTime_inDigits (m : Moment) (pattern : String) :
    Agree system.SameButDigits ((f.inDigits latn).formatDateTime m pattern)
      ((f.inDigits system).formatDateTime m pattern) := by
  have hR := system.textCongruence_sameButDigits
  refine agree_render hR ?_
  intro t _ _
  refine (f.alike_inDigits system).resolve hR m ?_
  intro d _ hdated
  cases d with
  | dated number digits field skeleton =>
    rw [applyDirective, applyDirective, outputCalendar_inDigits, outputCalendar_inDigits]
    split
    · exact (f.alike_inDigits system).locale.fieldText hR m skeleton field
    · exact Agree.pure (SameButDigits.signedNumeral digits (m.read number))
  | number | offset | offsetName | zoneName | localized | preset => cases hdated

/-! ## Durations -/

section Durations

variable {α : Type} [Magnitude α]

/-- A decimal is padded and has its separator before its digits are replaced. -/
theorem sameButDigits_formatMagnitude (minDigits : Nat) (value : α) :
    system.SameButDigits ((f.inDigits latn).formatMagnitude minDigits value)
      ((f.inDigits system).formatMagnitude minDigits value) := by
  rw [formatMagnitude, formatReading, formatMagnitude, formatReading, round_inDigits, round_inDigits]
  split
  · exact SameButDigits.signedNumeral minDigits _
  · exact SameButDigits.transcribe _

/-- Durations in other digits have the same texts but for their digits, and fail alike. -/
theorem agree_formatDuration_inDigits (d : Duration α) (pattern : String) :
    Agree system.SameButDigits ((f.inDigits latn).formatDuration d pattern)
      ((f.inDigits system).formatDuration d pattern) := by
  have hR := system.textCongruence_sameButDigits
  rw [formatDuration_eq_render, formatDuration_eq_render]
  refine agree_render hR ?_
  intro t _ _
  unfold amountText
  cases TimeUnit.ofToken? t.text with
  | none => exact (f.alike_inDigits system).unresolved hR t.text
  | some unit => exact f.sameButDigits_formatMagnitude system _ _

end Durations

/-- **The numbering system changes nothing but digits.** For every formatter and every numbering
system, a moment after a pattern, a moment in a preset and a duration of any kind after a pattern
fail for the same cause with the digits of the system and with ASCII digits, or give texts that are
the same but for their digits, and so does every offset. -/
theorem sameButDigits_outputs :
    (∀ m pattern, Agree system.SameButDigits ((f.inDigits latn).formatDateTime m pattern)
      ((f.inDigits system).formatDateTime m pattern)) ∧
    (∀ m preset, Agree system.SameButDigits ((f.inDigits latn).formatPreset m preset)
      ((f.inDigits system).formatPreset m preset)) ∧
    (∀ (α : Type) [Magnitude α] (d : Duration α) pattern,
      Agree system.SameButDigits ((f.inDigits latn).formatDuration d pattern)
        ((f.inDigits system).formatDuration d pattern)) ∧
    (∀ style allowZ fixed offset,
      system.SameButDigits ((f.inDigits latn).formatOffset style allowZ fixed offset)
        ((f.inDigits system).formatOffset style allowZ fixed offset)) := by
  refine ⟨?_, ?_, ?_, ?_⟩
  · exact f.agree_formatDateTime_inDigits system
  · exact (f.alike_inDigits system).formatPreset system.textCongruence_sameButDigits
  · intro α _
    exact f.agree_formatDuration_inDigits system
  · exact (f.alike_inDigits system).formatOffset

end Formatter

end TemporalFormat
