import TemporalFormat.Format.DateTime
import TemporalFormat.Proofs.Locale.Written
import TemporalFormat.Proofs.Moment.Reachable

/-!
# Outputs of accepted dates and times

A date and time to which requests lead is written by every formatter: every number that is computed
on the way fits where it is put, every name that is looked up is there, and the only failure that is
left is that of a strict formatter at a token without a directive. This is
`Formatter.faultless_run`. The ranges of the date are all that it rests on.
-/

set_option autoImplicit false

namespace TemporalFormat

/-! ## Failures of token lists -/

section Render

variable (resolve : String → Except FormatError String)

/-- Only a token that is not literal can fail. -/
theorem Token.render_eq_error {t : Token} {e : FormatError} (h : t.render resolve = .error e) :
    t.literal = false ∧ resolve t.text = .error e := by
  unfold Token.render at h
  split at h
  · cases h
  · rename_i hliteral
    exact ⟨Bool.eq_false_of_not_eq_true hliteral, h⟩

/-- A list of tokens is rendered, or it fails as one of its tokens does. -/
theorem exists_render_or_error (tokens : List Token) :
    (∃ text, render resolve tokens = .ok text) ∨
      ∃ t ∈ tokens, t.literal = false ∧ ∃ e, resolve t.text = .error e ∧
        render resolve tokens = .error e := by
  induction tokens with
  | nil => exact .inl ⟨"", rfl⟩
  | cons t rest ih =>
    cases hfirst : t.render resolve with
    | error e =>
      obtain ⟨hliteral, hresolve⟩ := Token.render_eq_error resolve hfirst
      refine .inr ⟨t, List.mem_cons_self, hliteral, e, hresolve, ?_⟩
      rw [render, hfirst]
      rfl
    | ok first =>
      rcases ih with ⟨others, hothers⟩ | ⟨u, hmem, hliteral, e, hresolve, hothers⟩
      · refine .inl ⟨first ++ others, ?_⟩
        rw [render, hfirst, hothers]
        rfl
      · refine .inr ⟨u, List.mem_cons_of_mem t hmem, hliteral, e, hresolve, ?_⟩
        rw [render, hfirst, hothers]
        rfl

end Render

/-! ## Formatters -/

namespace Formatter

/-- A formatter writes a moment without fault: the numbers of its date fit where they are put in
every calendar, all names are found, every field, every layout and every preset is written, and so
is every pattern unless the formatter is strict and the pattern has a token without a directive. -/
structure Faultless (f : Formatter) (m : Moment) : Prop where
  month_bounds : 1 ≤ m.date.month ∧ m.date.month ≤ 12
  weekday_bounds : 1 ≤ m.weekday ∧ m.weekday ≤ 7
  buddhistYear_bounds : -2147483648 ≤ m.date.year + 543 ∧ m.date.year + 543 < 2147483648
  islamic : Hijri.Lossless (m.date.dayNumber + Hijri.julianDayOfZero)
  exists_shown : ∃ shown, f.locale.calendar.convert m.date = .ok shown ∧
    (1 ≤ shown.month ∧ shown.month ≤ 12) ∧ (1 ≤ shown.day ∧ shown.day ≤ 31)
  exists_fieldText : ∀ skeleton field, ∃ text, f.locale.fieldText m skeleton field = .ok text
  exists_layOut : ∀ skeleton, ∃ text, f.locale.layOut m skeleton = .ok text
  exists_formatPreset : ∀ preset, ∃ text, f.formatPreset m preset = .ok text
  formatDateTime_cases : ∀ pattern, (∃ text, f.formatDateTime m pattern = .ok text) ∨
    f.strict = true ∧ ∃ t ∈ tokenize pattern, t.literal = false ∧
      Directive.ofToken? t.text = none ∧
      f.formatDateTime m pattern = .error (.unknownToken t.text)

/-- A directive fails as the fields do. -/
theorem failsOnly_applyDirective {f : Formatter} {m : Moment} {allowed : FormatError → Prop}
    (h : ∀ skeleton field, FailsOnly allowed (f.locale.fieldText m skeleton field))
    (d : Directive) : FailsOnly allowed (f.applyDirective m d) := by
  cases d with
  | number | offset | zoneName => exact .pure _
  | offsetName width => cases width <;> exact .pure _
  | localized field skeleton => exact h skeleton field
  | dated number digits field skeleton =>
    rw [applyDirective]
    split
    · exact h skeleton field
    · exact .pure _
  | preset preset => exact Locale.failsOnly_layOut h preset.skeleton

section Written

variable {f : Formatter} {m : Moment}
  (h : ∀ skeleton field, ∃ text, f.locale.fieldText m skeleton field = .ok text)

include h

/-- A directive is written when every field is. -/
theorem exists_applyDirective (d : Directive) : ∃ text, f.applyDirective m d = .ok text :=
  (failsOnly_applyDirective (fun skeleton field => .of_exists_ok (h skeleton field)) d).exists_ok

/-- A token that is not written is unknown to a strict formatter. -/
theorem resolve_eq_error {token : String} {e : FormatError} (he : f.resolve m token = .error e) :
    f.strict = true ∧ Directive.ofToken? token = none ∧ e = .unknownToken token := by
  unfold resolve at he
  cases hd : Directive.ofToken? token with
  | some d =>
    obtain ⟨text, htext⟩ := exists_applyDirective h d
    rw [hd] at he
    simp only [htext, reduceCtorEq] at he
  | none =>
    rw [hd] at he
    simp only [unresolved] at he
    split at he
    · rename_i hstrict
      exact ⟨hstrict, rfl, (Except.error.inj he).symm⟩
    · cases he

/-- A pattern that is not written has a token that is unknown to a strict formatter. -/
theorem formatDateTime_written_or_unknown (pattern : String) :
    (∃ text, f.formatDateTime m pattern = .ok text) ∨
      f.strict = true ∧ ∃ t ∈ tokenize pattern, t.literal = false ∧
        Directive.ofToken? t.text = none ∧
        f.formatDateTime m pattern = .error (.unknownToken t.text) := by
  rcases exists_render_or_error (f.resolve m) (tokenize pattern) with
    hwritten | ⟨t, hmem, hliteral, e, he, herror⟩
  · exact .inl hwritten
  · obtain ⟨hstrict, hunknown, rfl⟩ := resolve_eq_error h he
    exact .inr ⟨hstrict, t, hmem, hliteral, hunknown, herror⟩

end Written

/-- A consistent moment is written without fault by every formatter. -/
theorem faultless_of_consistent (f : Formatter) {m : Moment} (h : m.Consistent) :
    f.Faultless m := by
  -- everything follows from the ranges of the year and of the month
  have hlow : -999999 ≤ m.date.year := h.minYear_le
  have hhigh : m.date.year ≤ 999999 := h.le_maxYear
  have hmonth : 1 ≤ m.date.month ∧ m.date.month ≤ 12 :=
    ⟨h.date_valid.month_pos, h.date_valid.month_le⟩
  have hbuddhist : m.date.year + 543 ≤ Calendar.maxYear := by
    rw [Calendar.maxYear]
    omega
  have hfield : ∀ skeleton field, ∃ text, f.locale.fieldText m skeleton field = .ok text :=
    Locale.exists_fieldText hmonth hbuddhist
  obtain ⟨shown, hshown⟩ := Calendar.exists_convert f.locale.calendar hbuddhist
  exact
    { month_bounds := hmonth
      weekday_bounds := ⟨h.weekday_pos, h.weekday_le⟩
      buddhistYear_bounds := by omega
      islamic := Hijri.lossless_of_valid h.date_valid ⟨hlow, hhigh⟩
      exists_shown := ⟨shown, hshown, Calendar.month_of_convert hshown hmonth,
        Calendar.day_of_convert hshown h.date_valid⟩
      exists_fieldText := hfield
      exists_layOut := Locale.exists_layOut hfield
      exists_formatPreset := fun preset => Locale.exists_layOut hfield preset.skeleton
      formatDateTime_cases := formatDateTime_written_or_unknown hfield }

/-- **Accepted dates and times are written without fault**, whatever has been requested of them and
whatever the formatter is. -/
theorem faultless_run (f : Formatter) (steps : List DateTime.Step) :
    f.Faultless (DateTime.run .epoch steps).toMoment :=
  f.faultless_of_consistent (DateTime.valid_epoch.run steps).consistent

end Formatter

end TemporalFormat
