import TemporalFormat.Error
import TemporalFormat.Pattern.Token

/-!
# Results that agree

Two ways to write the same thing often give texts that are not equal but alike. `Agree R` says that
both fail for the same cause or that both succeed and `R` relates their texts. When texts in a row
are alike as soon as their parts are, which is `TextCongruence`, lists of tokens are rendered alike
as soon as single tokens are resolved alike: `agree_render`. A difference in one place that the
other places cannot make up for is a difference of the whole: `agree_render_of_exists`.
-/

set_option autoImplicit false

namespace TemporalFormat

/-- A likeness of texts that can be checked part by part. -/
structure TextCongruence (R : String → String → Prop) : Prop where
  refl (s : String) : R s s
  append {s t s' t' : String} : R s t → R s' t' → R (s ++ s') (t ++ t')

/-- Equality is the strictest likeness. -/
theorem textCongruence_eq : TextCongruence Eq where
  refl _ := rfl
  append hs ht := hs ▸ ht ▸ rfl

/-- Two results agree up to `R`: the same failure, or related texts. -/
def Agree (R : String → String → Prop) :
    Except FormatError String → Except FormatError String → Prop
  | .ok s, .ok t => R s t
  | .error e, .error e' => e = e'
  | _, _ => False

namespace Agree

variable {R R' S : String → String → Prop} {x y x' y' : Except FormatError String}

/-- Texts that are alike agree as results. -/
theorem pure {s t : String} (h : R s t) : Agree R (pure s) (pure t) := h

/-- Every result agrees with itself. -/
theorem refl (hR : TextCongruence R) (x : Except FormatError String) : Agree R x x := by
  cases x with
  | error e => exact Eq.refl e
  | ok s => exact hR.refl s

/-- Agreement up to equality is equality. -/
theorem eq (h : Agree Eq x y) : x = y := by
  cases x with
  | error e =>
    cases y with
    | error e' => exact congrArg Except.error h
    | ok t => exact h.elim
  | ok s =>
    cases y with
    | error e' => exact h.elim
    | ok t => exact congrArg Except.ok h

/-- A failure agrees with nothing but itself. -/
theorem eq_of_error (h : Agree R x y) {e : FormatError} (hy : y = .error e) : x = y := by
  subst hy
  cases x with
  | error e' => exact congrArg Except.error h
  | ok s => exact h.elim

/-- A result agrees with itself up to a relation that is irreflexive only when it is a failure. -/
theorem error_of_irrefl (hR : ∀ s, ¬ R s s) (h : Agree R x x) : ∃ e, x = .error e := by
  cases x with
  | error e => exact ⟨e, rfl⟩
  | ok s => exact absurd h (hR s)

/-- Results that agree go on in ways that agree, perhaps up to another relation. -/
theorem bind {f g : String → Except FormatError String} (hxy : Agree R x y)
    (h : ∀ s t, R s t → Agree S (f s) (g t)) : Agree S (x >>= f) (y >>= g) := by
  cases x with
  | error e =>
    cases y with
    | error e' => exact hxy
    | ok t => exact hxy.elim
  | ok s =>
    cases y with
    | error e' => exact hxy.elim
    | ok t => exact h s t hxy

/-- A common beginning goes on in ways that agree. -/
theorem bind_left {α : Type} (z : Except FormatError α) {f g : α → Except FormatError String}
    (h : ∀ a, Agree R (f a) (g a)) : Agree R (z >>= f) (z >>= g) := by
  cases z with
  | error e => exact Eq.refl e
  | ok a => exact h a

/-- Results in a row agree when each does, in whatever way their texts are related then. -/
theorem join (hS : ∀ {s t s' t'}, R s t → R' s' t' → S (s ++ s') (t ++ t')) (h : Agree R x y)
    (h' : Agree R' x' y') :
    Agree S (do let s ← x; let s' ← x'; Pure.pure (s ++ s'))
      (do let t ← y; let t' ← y'; Pure.pure (t ++ t')) := by
  refine h.bind ?_
  intro s t hst
  refine h'.bind ?_
  intro s' t' hst'
  exact pure (hS hst hst')

/-- Results in a row agree when each of them does. -/
theorem append (hR : TextCongruence R) (h : Agree R x y) (h' : Agree R x' y') :
    Agree R (do let s ← x; let s' ← x'; Pure.pure (s ++ s'))
      (do let t ← y; let t' ← y'; Pure.pure (t ++ t')) :=
  h.join hR.append h'

end Agree

section Render

variable {R S : String → String → Prop} (hR : TextCongruence R)
  {resolve resolve' : String → Except FormatError String}

include hR

/-- A token is rendered alike when it is literal or resolved alike. -/
theorem agree_tokenRender {t : Token}
    (h : t.literal = false → Agree R (resolve t.text) (resolve' t.text)) :
    Agree R (t.render resolve) (t.render resolve') := by
  unfold Token.render
  cases hliteral : t.literal with
  | true => exact hR.refl t.text
  | false => exact h hliteral

/-- Token lists are rendered alike when every token that is not literal is resolved alike. -/
theorem agree_render {tokens : List Token}
    (h : ∀ t ∈ tokens, t.literal = false → Agree R (resolve t.text) (resolve' t.text)) :
    Agree R (render resolve tokens) (render resolve' tokens) := by
  induction tokens with
  | nil => exact hR.refl ""
  | cons t rest ih =>
    rw [List.forall_mem_cons] at h
    exact (agree_tokenRender hR h.1).append hR (ih h.2)

/-- When moreover one of them is resolved in a way that is related more closely, and this closer
relation cannot be undone by parts that are alike, then the whole lists are so related. -/
theorem agree_render_of_exists
    (hleft : ∀ {s t s' t'}, S s t → R s' t' → S (s ++ s') (t ++ t'))
    (hright : ∀ {s t s' t'}, R s t → S s' t' → S (s ++ s') (t ++ t')) {tokens : List Token}
    (h : ∀ t ∈ tokens, t.literal = false → Agree R (resolve t.text) (resolve' t.text))
    (hexists : ∃ t ∈ tokens, t.literal = false ∧ Agree S (resolve t.text) (resolve' t.text)) :
    Agree S (render resolve tokens) (render resolve' tokens) := by
  induction tokens with
  | nil =>
    obtain ⟨t, hmem, -⟩ := hexists
    cases hmem
  | cons t rest ih =>
    rw [List.forall_mem_cons] at h
    obtain ⟨u, hmem, hliteral, hu⟩ := hexists
    -- the token that makes the difference is the first one, or it is among the others
    rcases List.mem_cons.mp hmem with rfl | hmem
    · have hfirst : Agree S (u.render resolve) (u.render resolve') := by
        unfold Token.render
        rw [hliteral]
        exact hu
      exact hfirst.join hleft (agree_render hR h.2)
    · exact (agree_tokenRender hR h.1).join hright (ih h.2 ⟨u, hmem, hliteral, hu⟩)

end Render

end TemporalFormat
