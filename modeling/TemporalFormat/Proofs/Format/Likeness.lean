import TemporalFormat.Format.DateTime
import TemporalFormat.Proofs.Format.Agreement

/-!
# Locales and formatters that write alike

All that a locale lays out comes from its knowledge, its calendar and its numbers. So two locales
that share the first two and write alike numbers write alike fields and lay out alike outputs,
`Locale.Alike.layOut`, where likeness is any `TextCongruence`.

Formatters with locales that write alike, which also write alike offsets and are equally strict,
write alike what a token of a pattern asks for, `Formatter.Alike.resolve`. Dated numbers are left
open, because they depend on whether an output calendar is chosen and not only on the calendar.
-/

set_option autoImplicit false

namespace TemporalFormat

/-! ## Locales -/

namespace Locale

/-- Two locales know the same, show dates in the same calendar and write alike numbers. -/
structure Alike (R : String → String → Prop) (loc loc' : Locale) : Prop where
  data_eq : loc.data = loc'.data
  calendar_eq : loc.calendar = loc'.calendar
  formatNumber (minDigits : Nat) (value : Int) :
    R (loc.formatNumber minDigits value) (loc'.formatNumber minDigits value)

namespace Alike

variable {R : String → String → Prop} {loc loc' : Locale} (h : Alike R loc loc')
  (hR : TextCongruence R) (m : Moment)

include h

/-! ### Fields -/

/-- Locales that write alike have the same names of months. -/
theorem monthNames_eq (skeleton : Skeleton) : loc.monthNames skeleton = loc'.monthNames skeleton := by
  unfold monthNames
  rw [h.calendar_eq, h.data_eq]

/-- They have the same names of weekdays. -/
theorem weekdayName_eq (skeleton : Skeleton) (weekday : Nat) :
    loc.weekdayName skeleton weekday = loc'.weekdayName skeleton weekday := by
  unfold weekdayName dayNames
  rw [h.data_eq]

/-- They have the same names of eras. -/
theorem eraName_eq (skeleton : Skeleton) (year : Int) :
    loc.eraName skeleton year = loc'.eraName skeleton year := by
  unfold eraName
  rw [h.calendar_eq, h.data_eq]

/-- They have the same names of the halves of the day. -/
theorem dayPeriod_eq (hour : Nat) : loc.dayPeriod hour = loc'.dayPeriod hour := by
  unfold dayPeriod
  rw [h.data_eq]

/-- Years are numbers in every width, so they are written alike. -/
theorem yearText (skeleton : Skeleton) (year : Int) :
    R (loc.yearText skeleton year) (loc'.yearText skeleton year) := by
  unfold Locale.yearText
  split
  · exact h.formatNumber 2 _
  · exact h.formatNumber 0 year

include hR

/-- Months are written alike, as numbers and as names. -/
theorem monthText (skeleton : Skeleton) (month : Nat) :
    Agree R (loc.monthText skeleton month) (loc'.monthText skeleton month) := by
  unfold Locale.monthText
  cases skeleton.month.getD (.number .numeric) with
  | number width => exact Agree.pure (h.formatNumber _ month)
  | name width =>
    simp only [h.monthNames_eq]
    exact Agree.refl hR _

/-- Every single field is written alike. -/
theorem fieldText (skeleton : Skeleton) (field : Field) :
    Agree R (loc.fieldText m skeleton field) (loc'.fieldText m skeleton field) := by
  unfold Locale.fieldText
  rw [h.calendar_eq]
  refine Agree.bind_left _ ?_
  intro date
  cases field with
  | day => exact Agree.pure (h.formatNumber _ date.day)
  | weekday => exact Agree.pure (h.weekdayName_eq skeleton m.weekday ▸ hR.refl _)
  | month => exact h.monthText hR skeleton date.month
  | year => exact Agree.pure (h.yearText skeleton date.year)
  | era => exact Agree.pure (h.eraName_eq skeleton date.year ▸ hR.refl _)
  | dayPeriod => exact Agree.pure (h.dayPeriod_eq m.hour ▸ hR.refl _)

/-! ### Dates and times -/

/-- Layouts are written alike, piece by piece. -/
theorem layoutText (pieces : List Piece) :
    Agree R (loc.layoutText m pieces) (loc'.layoutText m pieces) := by
  induction pieces with
  | nil => exact Agree.pure (hR.refl "")
  | cons piece rest ih =>
    have hfirst : Agree R (loc.pieceText m piece) (loc'.pieceText m piece) := by
      unfold pieceText
      cases piece.request with
      | inl content => exact Agree.pure (hR.refl content)
      | inr request => exact h.fieldText hR m request.2 request.1
    exact hfirst.append hR ih

/-- Eras behind a date are written alike. -/
theorem eraSuffix : Agree R (loc.eraSuffix m) (loc'.eraSuffix m) := by
  unfold Locale.eraSuffix
  rw [h.calendar_eq]
  split
  · exact Agree.pure (hR.refl "")
  · refine (h.fieldText hR m {} .era).bind ?_
    intro s t hst
    exact Agree.pure (hR.append (hR.refl " ") hst)

/-- Dates are written alike. -/
theorem dateText (skeleton : Skeleton) :
    Agree R (loc.dateText m skeleton) (loc'.dateText m skeleton) := by
  unfold Locale.dateText
  rw [h.data_eq]
  exact (h.layoutText hR m _).append hR (h.eraSuffix hR m)

/-- The time that a clock shows is written alike. -/
theorem clock (hour12 : Bool) (skeleton : Skeleton) :
    R (loc.hourText hour12 m skeleton ++ loc.clockPart skeleton.minute.isSome m.minute ++
        loc.clockPart skeleton.second.isSome m.second)
      (loc'.hourText hour12 m skeleton ++ loc'.clockPart skeleton.minute.isSome m.minute ++
        loc'.clockPart skeleton.second.isSome m.second) := by
  have hhour : R (loc.hourText hour12 m skeleton) (loc'.hourText hour12 m skeleton) := by
    unfold hourText
    split
    · exact h.formatNumber _ _
    · exact h.formatNumber 2 _
  have hpart : ∀ asked value, R (loc.clockPart asked value) (loc'.clockPart asked value) := by
    intro asked value
    unfold clockPart
    split
    · exact hR.append (hR.refl ":") (h.formatNumber 2 value)
    · exact hR.refl ""
  exact hR.append (hR.append hhour (hpart _ _)) (hpart _ _)

/-- Times are written alike, with the half of the day where the clock has twelve hours. -/
theorem timeText (skeleton : Skeleton) :
    Agree R (loc.timeText m skeleton) (loc'.timeText m skeleton) := by
  have hclock := h.clock hR m (skeleton.hour12.getD loc'.data.hour12) skeleton
  unfold Locale.timeText
  simp only [h.data_eq]
  split
  · refine (h.fieldText hR m skeleton .dayPeriod).bind ?_
    intro s t hst
    exact Agree.pure (hR.append (hR.append hclock (hR.refl " ")) hst)
  · exact Agree.pure hclock

/-! ### Whole outputs -/

/-- Dates and times are written alike, with the same separator between them. -/
theorem dateAndTime (skeleton : Skeleton) :
    Agree R (loc.dateAndTime m skeleton) (loc'.dateAndTime m skeleton) := by
  have hseparator : loc.separator skeleton = loc'.separator skeleton := by
    unfold separator
    rw [h.data_eq]
  unfold Locale.dateAndTime
  rw [hseparator]
  split
  · split
    · refine (h.dateText hR m skeleton).bind ?_
      intro s t hst
      refine (h.timeText hR m skeleton).bind ?_
      intro s' t' hst'
      exact Agree.pure (hR.append (hR.append hst (hR.refl _)) hst')
    · exact h.timeText hR m skeleton
  · exact h.dateText hR m skeleton

/-- **Whole outputs are written alike**, with the name of the zone that the moment has. -/
theorem layOut (skeleton : Skeleton) :
    Agree R (loc.layOut m skeleton) (loc'.layOut m skeleton) := by
  refine (h.dateAndTime hR m skeleton).bind ?_
  intro s t hst
  exact Agree.pure (hR.append hst (hR.refl _))

end Alike

end Locale

/-! ## Formatters -/

/-- Whether a directive depends on the choice of an output calendar. -/
def Directive.isDated : Directive → Bool
  | .dated _ _ _ _ => true
  | _ => false

namespace Formatter

/-- Two formatters have locales that write alike, write alike offsets and are equally strict. -/
structure Alike (R : String → String → Prop) (f g : Formatter) : Prop where
  locale : Locale.Alike R f.locale g.locale
  formatOffset (style : OffsetStyle) (allowZ fixed : Bool) (offset : Int) :
    R (f.formatOffset style allowZ fixed offset) (g.formatOffset style allowZ fixed offset)
  strict_eq : f.strict = g.strict

namespace Alike

variable {R : String → String → Prop} {f g : Formatter} (h : Alike R f g)
  (hR : TextCongruence R) (m : Moment)

include h hR

/-- Presets are written alike. -/
theorem formatPreset (preset : Preset) :
    Agree R (f.formatPreset m preset) (g.formatPreset m preset) :=
  h.locale.layOut hR m preset.skeleton

/-- Tokens that stand for nothing are copied by both, or refused by both. -/
theorem unresolved (token : String) : Agree R (f.unresolved token) (g.unresolved token) := by
  unfold Formatter.unresolved
  rw [h.strict_eq]
  exact Agree.refl hR _

/-- What a directive says is alike, one kind of directive at a time. -/
theorem applyDirective {d : Directive}
    (hdated : d.isDated = true → Agree R (f.applyDirective m d) (g.applyDirective m d)) :
    Agree R (f.applyDirective m d) (g.applyDirective m d) := by
  cases d with
  | number field digits => exact Agree.pure (h.locale.formatNumber digits (m.read field))
  | offset style allowZ => exact Agree.pure (h.formatOffset style allowZ _ _)
  | offsetName width => cases width <;> exact Agree.pure (hR.refl _)
  | zoneName => exact Agree.pure (hR.refl m.zone.name)
  | localized field skeleton => exact h.locale.fieldText hR m skeleton field
  | dated number digits field skeleton => exact hdated rfl
  | preset preset => exact h.formatPreset hR m preset

/-- What a token says is alike, unless it stands for a dated number that is not. -/
theorem resolve {token : String}
    (hdated : ∀ d, Directive.ofToken? token = some d → d.isDated = true →
      Agree R (f.applyDirective m d) (g.applyDirective m d)) :
    Agree R (f.resolve m token) (g.resolve m token) := by
  unfold Formatter.resolve
  cases hd : Directive.ofToken? token with
  | none => exact h.unresolved hR token
  | some d => exact h.applyDirective hR m (hdated d hd)

end Alike

end Formatter

end TemporalFormat
