import TemporalFormat.Proofs.Format.DurationCalls
import TemporalFormat.Proofs.Format.Faultless
import TemporalFormat.Proofs.Format.UnitTexts

/-!
# Strict formatters

What a formatter writes does not depend on whether it is strict, only whether it writes at all does:
an output fails for nothing but the first token that stands for nothing, and it fails then
(`OnlyRefuses`). This is the same for moments and for durations, where other tokens stand for
something. A moment that has passed no range check may also meet a fault on the way
(`RefusesOrFaults`).
-/

set_option autoImplicit false

namespace TemporalFormat

variable {β : Type}

/-- The first token that is not literal and stands for nothing. -/
def IsFirstUnknown (named : String → Option β) (tokens : List Token) (t : Token) : Prop :=
  ∃ before after, tokens = before ++ t :: after ∧
    (∀ s ∈ before, ¬ (s.literal = false ∧ named s.text = none)) ∧
    t.literal = false ∧ named t.text = none

/-- Of a strict output of some tokens and the lenient one, the lenient one is always there. The
strict one is the same, unless one of the tokens is not literal and stands for nothing: then it
fails and reports the first such token. -/
structure OnlyRefuses (named : String → Option β) (tokens : List Token)
    (strict lenient : Except FormatError String) : Prop where
  exists_lenient : ∃ text, lenient = .ok text
  fails_iff : (∃ e, strict = .error e) ↔ ∃ t ∈ tokens, t.literal = false ∧ named t.text = none
  error_eq : ∀ e, strict = .error e → ∃ t, IsFirstUnknown named tokens t ∧ e = .unknownToken t.text
  lenient_eq : ∀ text, strict = .ok text → lenient = .ok text

/-- The same for outputs that may meet a fault on the way. Both may fail with it. -/
structure RefusesOrFaults (fault : FormatError → Prop) (named : String → Option β)
    (tokens : List Token) (strict lenient : Except FormatError String) : Prop where
  lenient_fails : FailsOnly fault lenient
  strict_fails : FailsOnly
    (fun e => fault e ∨ ∃ t, IsFirstUnknown named tokens t ∧ e = .unknownToken t.text) strict
  fails_of_unknown : (∃ t ∈ tokens, t.literal = false ∧ named t.text = none) →
    ∃ e, strict = .error e
  lenient_eq : ∀ text, strict = .ok text → lenient = .ok text

section Outcome

variable {named : String → Option β} {tokens : List Token}

/-- The first unknown token is one of the tokens. -/
theorem IsFirstUnknown.mem {t : Token} (h : IsFirstUnknown named tokens t) : t ∈ tokens := by
  obtain ⟨before, after, rfl, -⟩ := h
  exact List.mem_append_right before List.mem_cons_self

/-- The first unknown token is unknown. -/
theorem IsFirstUnknown.isUnknown {t : Token} (h : IsFirstUnknown named tokens t) :
    t.literal = false ∧ named t.text = none := by
  obtain ⟨_, _, _, _, hunknown⟩ := h
  exact hunknown

/-- Without faults a strict formatter only refuses. -/
theorem RefusesOrFaults.onlyRefuses {strict lenient : Except FormatError String}
    (h : RefusesOrFaults (fun _ => False) named tokens strict lenient) :
    OnlyRefuses named tokens strict lenient := by
  have herror : ∀ e, strict = .error e →
      ∃ t, IsFirstUnknown named tokens t ∧ e = .unknownToken t.text :=
    fun e he => (h.strict_fails e he).resolve_left id
  refine ⟨h.lenient_fails.exists_ok, ⟨?_, h.fails_of_unknown⟩, herror, h.lenient_eq⟩
  rintro ⟨e, he⟩
  obtain ⟨t, ht, -⟩ := herror e he
  exact ⟨t, ht.mem, ht.isUnknown⟩

/-- A strict formatter refuses the tokens that stand for nothing, whatever they are looked up in. -/
theorem refuses_strict_iff (loc : Locale) (round : Bool) (t : Token) :
    Formatter.refuses named ⟨loc, round, true⟩ t = true ↔
      t.literal = false ∧ named t.text = none := by
  rw [Formatter.refuses, Bool.true_and, Token.isUnknown_iff]

/-- A strict formatter refuses the first unknown token, if there is one. -/
theorem refused_or_known (named : String → Option β) (loc : Locale) (round : Bool)
    (tokens : List Token) :
    (∃ before t after, tokens = before ++ t :: after ∧
      (∀ s ∈ before, Formatter.refuses named ⟨loc, round, true⟩ s = false) ∧
      Formatter.refuses named ⟨loc, round, true⟩ t = true) ∨
    ∀ t ∈ tokens, Formatter.refuses named ⟨loc, round, true⟩ t = false := by
  cases hfind : tokens.find? (Formatter.refuses named ⟨loc, round, true⟩) with
  | some t =>
    obtain ⟨ht, before, after, htokens, hbefore⟩ := List.find?_eq_some_iff_append.mp hfind
    exact .inl ⟨before, t, after, htokens, by simpa using hbefore, ht⟩
  | none => exact .inr (by simpa using hfind)

/-- Outputs that are written up to the first token that is refused differ in nothing else. -/
theorem RefusesOrFaults.of_outcome {fault : FormatError → Prop} {loc : Locale} {round : Bool}
    (output : Bool → Except FormatError String) (text : List Token → Except FormatError String)
    (htext : ∀ reached, FailsOnly fault (text reached))
    (houtput : ∀ strict, output strict = (do
      let written ← text (Formatter.reached named ⟨loc, round, strict⟩ tokens)
      Formatter.outcome named ⟨loc, round, strict⟩ tokens written)) :
    RefusesOrFaults fault named tokens (output true) (output false) := by
  have hlenient : output false = text tokens := by
    have hrefuses : ∀ t ∈ tokens, Formatter.refuses named ⟨loc, round, false⟩ t = false :=
      fun _ _ => rfl
    rw [houtput, Formatter.reached_eq_self hrefuses]
    simp only [Formatter.outcome_eq_ok hrefuses]
    exact bind_pure _
  rcases refused_or_known named loc round tokens with
    ⟨before, t, after, rfl, hbefore, ht⟩ | hknown
  · -- the strict formatter stops at the first token that it refuses, if it comes that far
    have hfirst : IsFirstUnknown named (before ++ t :: after) t := by
      refine ⟨before, after, rfl, ?_, (refuses_strict_iff loc round t).mp ht⟩
      intro s hs
      rw [← refuses_strict_iff loc round, hbefore s hs]
      exact Bool.false_ne_true
    have hstrict : output true = (do
        let _ ← text before
        .error (.unknownToken t.text)) := by
      rw [houtput, Formatter.reached_eq_before hbefore ht]
      simp only [Formatter.outcome_eq_error hbefore ht]
    have hfails : FailsOnly (fun e => fault e ∨
        ∃ t', IsFirstUnknown named (before ++ t :: after) t' ∧ e = .unknownToken t'.text)
        (output true) := by
      rw [hstrict]
      refine FailsOnly.bind (fun e he => .inl (htext before e he)) ?_
      intro _ e he
      cases he
      exact .inr ⟨t, hfirst, rfl⟩
    have herror : ∃ e, output true = .error e := by
      rw [hstrict]
      cases text before with
      | error e => exact ⟨e, rfl⟩
      | ok _ => exact ⟨_, rfl⟩
    refine ⟨hlenient ▸ htext _, hfails, fun _ => herror, ?_⟩
    intro written hwritten
    obtain ⟨e, he⟩ := herror
    cases he.symm.trans hwritten
  · -- nothing is refused, and both write all tokens
    have hstrict : output true = text tokens := by
      rw [houtput, Formatter.reached_eq_self hknown]
      simp only [Formatter.outcome_eq_ok hknown]
      exact bind_pure _
    refine ⟨hlenient ▸ htext _, ?_, ?_, ?_⟩
    · intro e he
      exact .inl (htext tokens e (hstrict.symm.trans he))
    · rintro ⟨t, ht, hunknown⟩
      have := (refuses_strict_iff loc round t).mpr hunknown
      exact absurd ((hknown t ht).symm.trans this) Bool.false_ne_true
    · intro written hwritten
      rw [hlenient, ← hstrict, hwritten]

end Outcome

namespace Formatter

variable {loc : Locale} {round : Bool}

/-! ## Moments -/

/-- The text of a token: what its directive says of a moment, or the token itself. -/
def directiveText (f : Formatter) (m : Moment) : Token → Except FormatError String :=
  Token.written Directive.ofToken? fun _ d => f.applyDirective m d

/-- What a directive says does not depend on whether the formatter is strict. -/
theorem applyDirective_strict (m : Moment) (d : Directive) (strict : Bool) :
    applyDirective ⟨loc, round, strict⟩ m d = applyDirective ⟨loc, round, false⟩ m d := by
  cases d with
  | offsetName width => cases width <;> rfl
  | number | offset | zoneName | localized | dated | preset => rfl

/-- What a directive says does not depend on strictness. -/
theorem directiveText_strict (m : Moment) (strict : Bool) :
    directiveText ⟨loc, round, strict⟩ m = directiveText ⟨loc, round, false⟩ m := by
  unfold directiveText
  simp only [applyDirective_strict m _ strict]

/-- What a token says of a moment, with what fails in a directive kept apart from the refusal of a
token. -/
def resolveApart (f : Formatter) (m : Moment) (token : String) :
    ExceptT FormatError (Except FormatError) String :=
  match Directive.ofToken? token with
  | some d => ExceptT.lift (f.applyDirective m d)
  | none => ExceptT.mk (pure (f.unresolved token))

/-- Failures of directives can be kept apart from refusals and joined to them again. -/
theorem resolve_eq_apart (f : Formatter) (m : Moment) (token : String) :
    f.resolve m token = (f.resolveApart m token).run >>= id := by
  unfold resolve resolveApart
  cases Directive.ofToken? token with
  | some d =>
    simp only [ExceptT.run_lift, bind_map_left]
    exact (bind_pure _).symm
  | none => rfl

/-- The tokens of a pattern are written up to the first one that is refused. -/
theorem formatDateTime_eq (f : Formatter) (m : Moment) (pattern : String) :
    f.formatDateTime m pattern = (do
      let texts ← (f.reached Directive.ofToken? (tokenize pattern)).mapM (f.directiveText m)
      f.outcome Directive.ofToken? (tokenize pattern) (String.join texts)) := by
  have hnamed : ∀ token d, Directive.ofToken? token = some d →
      (f.resolveApart m token).run = Except.ok <$> f.applyDirective m d := by
    intro token d hd
    simp only [resolveApart, hd]
    rfl
  have hunnamed : ∀ token, Directive.ofToken? token = none →
      (f.resolveApart m token).run = pure (f.unresolved token) := by
    intro token hd
    simp only [resolveApart, hd]
    rfl
  have hrun := run_render_eq hnamed hunnamed (tokenize pattern)
  have hapart : f.resolve m = fun token => (f.resolveApart m token).run >>= id :=
    funext (f.resolve_eq_apart m)
  rw [formatDateTime, hapart, ← bind_run_render, hrun]
  simp only [bind_assoc, pure_bind, id]
  rfl

/-- The output of a moment is refused or written, unless it meets a fault of a field. -/
theorem refusesOrFaults_formatDateTime {m : Moment} {fault : FormatError → Prop}
    (h : ∀ skeleton field, FailsOnly fault (loc.fieldText m skeleton field)) (pattern : String) :
    RefusesOrFaults fault Directive.ofToken? (tokenize pattern)
      (formatDateTime ⟨loc, round, true⟩ m pattern)
      (formatDateTime ⟨loc, round, false⟩ m pattern) := by
  have htoken : ∀ t, FailsOnly fault (directiveText ⟨loc, round, false⟩ m t) := by
    intro t
    unfold directiveText Token.written
    cases t.meaning? Directive.ofToken? with
    | some d => exact failsOnly_applyDirective (f := ⟨loc, round, false⟩) h d
    | none => exact .pure _
  have htext : ∀ reached : List Token, FailsOnly fault (do
      let texts ← reached.mapM (directiveText ⟨loc, round, false⟩ m)
      pure (String.join texts)) :=
    fun reached => (FailsOnly.mapM htoken reached).bind fun _ => .pure _
  have houtput : ∀ strict, formatDateTime ⟨loc, round, strict⟩ m pattern = (do
      let written ← (do
        let texts ← (reached Directive.ofToken? ⟨loc, round, strict⟩ (tokenize pattern)).mapM
          (directiveText ⟨loc, round, false⟩ m)
        pure (String.join texts))
      outcome Directive.ofToken? ⟨loc, round, strict⟩ (tokenize pattern) written) := by
    intro strict
    simp only [formatDateTime_eq, directiveText_strict m strict, bind_assoc, pure_bind]
  exact RefusesOrFaults.of_outcome _ _ htext houtput

/-! ## Durations -/

/-- Durations of every kind are refused for unknown tokens only. -/
theorem onlyRefuses_formatDurationWith {δ α : Type} [Magnitude α] (access : DurationAccess Id δ α)
    (d : δ) (pattern : String) :
    OnlyRefuses TimeUnit.ofToken? (tokenize pattern)
      (formatDurationWith ⟨loc, round, true⟩ access d pattern).run.run
      (formatDurationWith ⟨loc, round, false⟩ access d pattern).run.run := by
  apply RefusesOrFaults.onlyRefuses
  apply RefusesOrFaults.of_outcome
    (fun strict => (formatDurationWith ⟨loc, round, strict⟩ access d pattern).run.run)
    (fun reached => .ok (String.join (reached.mapM (unitText ⟨loc, round, false⟩ access
      (access.shiftTo d ((tokenize pattern).filterMap Token.unit?)).run)).run))
  · intro reached
    exact .pure _
  · intro strict
    rw [run_formatDurationWith]
    rfl

/-! ## Both -/

/-- **A strict formatter refuses and does nothing else.** This is so for every moment whose month
has a number from 1 to 12 and whose year the output calendar can count, and for durations of every
kind. With any other moment there may be faults as well, but there is nothing else. -/
theorem strict_only_refuses (loc : Locale) (round : Bool) (pattern : String) :
    (∀ m : Moment, 1 ≤ m.date.month ∧ m.date.month ≤ 12 →
      (loc.calendar = .buddhist → m.date.year + 543 ≤ Calendar.maxYear) →
      OnlyRefuses Directive.ofToken? (tokenize pattern)
        (formatDateTime ⟨loc, round, true⟩ m pattern)
        (formatDateTime ⟨loc, round, false⟩ m pattern)) ∧
    (∀ m : Moment, RefusesOrFaults FormatError.IsFault Directive.ofToken? (tokenize pattern)
      (formatDateTime ⟨loc, round, true⟩ m pattern)
      (formatDateTime ⟨loc, round, false⟩ m pattern)) ∧
    (∀ {δ α : Type} [Magnitude α] (access : DurationAccess Id δ α) (d : δ),
      OnlyRefuses TimeUnit.ofToken? (tokenize pattern)
        (formatDurationWith ⟨loc, round, true⟩ access d pattern).run.run
        (formatDurationWith ⟨loc, round, false⟩ access d pattern).run.run) := by
  refine ⟨?_, ?_, ?_⟩
  · intro m hmonth hyear
    apply RefusesOrFaults.onlyRefuses
    apply refusesOrFaults_formatDateTime
    intro skeleton field
    exact .of_exists_ok (Locale.exists_fieldText_of_buddhist hmonth hyear skeleton field)
  · intro m
    exact refusesOrFaults_formatDateTime (loc.failsOnly_fault_fieldText m) pattern
  · intro δ α _ access d
    exact onlyRefuses_formatDurationWith access d pattern

/-- Three letters `y` are a unit of a duration, but they stand for nothing in a date. -/
theorem strict_only_refuses_threeLetterYear :
    let loc : Locale := ⟨.russian, .arab, some .buddhist⟩
    let m := (DateTime.midnight ⟨1983, 10, 14⟩).toMoment
    (∃ text, formatDateTime ⟨loc, true, false⟩ m "d yyy" = .ok text) ∧
      (∃ e, formatDateTime ⟨loc, true, true⟩ m "d yyy" = .error e) ∧
      ∀ d : Duration Rat, ¬ ∃ e, formatDuration ⟨loc, true, true⟩ d "d yyy" = .error e := by
  intro loc m
  obtain ⟨hmoment, -, hduration⟩ := strict_only_refuses loc true "d yyy"
  have hdate := hmoment m (by decide) (by decide)
  refine ⟨hdate.exists_lenient, ?_, ?_⟩
  · exact hdate.fails_iff.mpr ⟨⟨false, ['y', 'y', 'y'], 2⟩, by decide, rfl, by decide⟩
  · intro d hfails
    have hunits : ∀ t ∈ tokenize "d yyy",
        ¬ (t.literal = false ∧ TimeUnit.ofToken? t.text = none) := by
      decide
    obtain ⟨t, ht, hunknown⟩ := (hduration Duration.access d).fails_iff.mp hfails
    exact hunits t ht hunknown

/-- The conditions on moments are needed: a lenient formatter fails too when it is to name a
thirteenth month, or to count a year that leaves the 32-bit range in the Buddhist era. -/
theorem formatDateTime_thirteenth_month :
    let m : Moment := { (DateTime.midnight ⟨1983, 10, 14⟩).toMoment with date := ⟨1983, 13, 14⟩ }
    let m' : Moment :=
      { (DateTime.midnight ⟨1983, 10, 14⟩).toMoment with date := ⟨2147483647, 10, 14⟩ }
    formatDateTime ⟨.english, true, false⟩ m "MMM" = .error (.unnamedMonth 13) ∧
      formatDateTime ⟨⟨.english, .latn, some .buddhist⟩, true, false⟩ m' "y" =
        .error (.yearOverflow 2147483647) ∧
      ¬ ∀ m : Moment, OnlyRefuses Directive.ofToken? (tokenize "MMM")
        (formatDateTime ⟨.english, true, true⟩ m "MMM")
        (formatDateTime ⟨.english, true, false⟩ m "MMM") := by
  intro m m'
  have hmonth : formatDateTime ⟨.english, true, false⟩ m "MMM" = .error (.unnamedMonth 13) := by
    decide
  refine ⟨hmonth, by decide, ?_⟩
  intro h
  obtain ⟨text, htext⟩ := (h m).exists_lenient
  rw [hmonth] at htext
  cases htext

end Formatter

end TemporalFormat
