import TemporalFormat.Format.Duration
import TemporalFormat.Proofs.Duration.UnitSets

/-!
# The texts of units

Formatting a plain duration has no effects, so it is one rendering: every token of a unit is
replaced by the amount that the unit has after the shift, `Formatter.formatDuration_eq_render`.

What is written for a unit is settled by the set of the units that a pattern names, whatever their
order, however often each of them occurs and whatever stands between them:
`Formatter.unit_set_settles_texts`. One table of texts, by the unit and the number of letters of a
token, serves all patterns that name the same units.
-/

set_option autoImplicit false

namespace TemporalFormat

/-- Rendering with failures and nothing else is the same in both ways to write it. -/
theorem run_render (resolve : String → ExceptT FormatError Id String) (tokens : List Token) :
    (render resolve tokens).run.run = render (fun token => (resolve token).run.run) tokens := by
  induction tokens with
  | nil => rfl
  | cons t rest ih =>
    have hfirst : (t.render resolve).run.run = t.render fun token => (resolve token).run.run := by
      unfold Token.render
      split <;> rfl
    rw [render, render, ← hfirst, ← ih]
    cases t.render resolve with
    | error e => rfl
    | ok s =>
      cases render resolve rest with
      | error e => rfl
      | ok s' => rfl

namespace Formatter

variable {α : Type} [Magnitude α]

/-- What a token says about a plain duration that has been shifted. -/
def amountText (f : Formatter) (shifted : Duration α) (token : String) :
    Except FormatError String :=
  match TimeUnit.ofToken? token with
  | some unit => .ok (f.formatMagnitude token.length (shifted.amount unit))
  | none => f.unresolved token

/-- A plain duration is shifted once and then rendered. -/
theorem formatDuration_eq_render (f : Formatter) (d : Duration α) (pattern : String) :
    f.formatDuration d pattern =
      render (f.amountText (d.shiftTo (unitsNamed (tokenize pattern)))) (tokenize pattern) := by
  have hresolve : ∀ shifted : Duration α,
      (fun token => (f.resolveUnit Duration.access shifted token).run.run) =
        f.amountText shifted := by
    intro shifted
    funext token
    unfold resolveUnit amountText
    cases TimeUnit.ofToken? token with
    | none => rfl
    | some unit => rfl
  rw [← hresolve, ← run_render]
  rfl

/-! ## Tables of texts -/

/-- What a token says when the texts are given by the unit of a token and the number of its
letters. -/
def tabulated (f : Formatter) (texts : TimeUnit → Nat → String) (token : String) :
    Except FormatError String :=
  match TimeUnit.ofToken? token with
  | some unit => .ok (texts unit token.length)
  | none => f.unresolved token

/-- A pattern shows the amounts that the duration has after a shift to any list of the units that
the pattern names. -/
theorem formatDuration_eq_tabulated (f : Formatter) (d : Duration α) {pattern : String}
    {units : List TimeUnit}
    (hmem : ∀ unit, unit ∈ unitsNamed (tokenize pattern) ↔ unit ∈ units) :
    f.formatDuration d pattern =
      render (f.tabulated fun unit letters =>
        f.formatMagnitude letters ((d.shiftTo units).amount unit)) (tokenize pattern) := by
  rw [formatDuration_eq_render, d.shiftTo_congr hmem]
  rfl

/-- **The set of the units settles the texts.** Lists of units with the same members give the same
shift. Without a member a shift changes nothing; otherwise all there is is spread over the members,
each of them once and the larger ones first, and no other unit has an amount, which is the positive
zero among binary numbers. So one table of texts serves all patterns that name the same units. -/
theorem unit_set_settles_texts (f : Formatter) (d : Duration α) (units : List TimeUnit) :
    (∀ units', (∀ unit, unit ∈ units ↔ unit ∈ units') → d.shiftTo units = d.shiftTo units') ∧
    d.shiftTo [] = d ∧
    (units ≠ [] → d.shiftTo units = Duration.spread d.asMillis (TimeUnit.inOrder units) ∧
      ∀ unit, unit ∉ units → (d.shiftTo units).amount unit = Magnitude.ofInt 0) ∧
    (Magnitude.ofInt 0 : Float).toBits = 0 ∧
    ∀ pattern, (∀ unit, unit ∈ unitsNamed (tokenize pattern) ↔ unit ∈ units) →
      f.formatDuration d pattern =
        render (f.tabulated fun unit letters =>
          f.formatMagnitude letters ((d.shiftTo units).amount unit)) (tokenize pattern) := by
  refine ⟨fun _ => d.shiftTo_congr, rfl, ?_, by decide, ?_⟩
  · intro hne
    exact ⟨d.shiftTo_eq_spread hne, fun _ => d.amount_shiftTo_of_notMem hne⟩
  · intro pattern hmem
    exact f.formatDuration_eq_tabulated d hmem

/-- Minutes and hours look the same in a pattern that names the minutes first and once more. -/
theorem unit_set_settles_texts_clock :
    let f : Formatter := ⟨.russian, false, true⟩
    let d : Duration Float := Duration.ofMillis 5400500
    let units : List TimeUnit := [.minute, .hour, .minute]
    let text := fun unit letters => f.formatMagnitude letters ((d.shiftTo units).amount unit)
    units ≠ [] ∧ d.shiftTo units = d.shiftTo [.hour, .minute] ∧
      (d.shiftTo units).amount .day = Magnitude.ofInt 0 ∧
      f.formatDuration d "h:mm" = .ok (text .hour 1 ++ (":" ++ (text .minute 2 ++ ""))) ∧
      f.formatDuration d "mm'h 'h mm" =
        .ok (text .minute 2 ++ ("h " ++ (text .hour 1 ++ (" " ++ (text .minute 2 ++ ""))))) := by
  intro f d units text
  obtain ⟨hcongr, -, hspread, -, htexts⟩ := unit_set_settles_texts f d units
  have hne : units ≠ [] := List.cons_ne_nil _ _
  refine ⟨hne, hcongr _ ?_, (hspread hne).2 .day (by decide), ?_, ?_⟩
  · intro unit
    cases unit <;> decide
  · rw [htexts "h:mm" fun unit => by cases unit <;> decide]
    rfl
  · rw [htexts "mm'h 'h mm" fun unit => by cases unit <;> decide]
    rfl

end Formatter

end TemporalFormat
