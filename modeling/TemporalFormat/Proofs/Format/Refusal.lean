import Mathlib.Data.List.TakeWhile
import TemporalFormat.Format.DateTime
import TemporalFormat.Pattern.Token

/-!
# Tokens that stand for nothing

A token that is not literal is looked up, and what is found is written. When nothing is found the
token is unknown: a lenient formatter copies it, and a strict one goes no further. So a strict
formatter writes the tokens before the first unknown one and fails, or it writes all tokens as a
lenient one does. `Formatter.run_render_eq` says this of any look-up and of any way to write what
is found, with effects or without.
-/

set_option autoImplicit false

namespace TemporalFormat

variable {β : Type} (named : String → Option β)

/-- What a token stands for. A literal stands for nothing. -/
def Token.meaning? (t : Token) : Option β :=
  if t.literal then none else named t.text

/-- A token that is not literal is unknown when it stands for nothing. -/
def Token.isUnknown (t : Token) : Bool :=
  !t.literal && (named t.text).isNone

/-- The text of a token: what it stands for is written, and all else is copied. -/
def Token.written {m : Type → Type} [Monad m] (write : String → β → m String) (t : Token) :
    m String :=
  match t.meaning? named with
  | some meaning => write t.text meaning
  | none => pure t.text

/-- An unknown token is not literal and stands for nothing. -/
theorem Token.isUnknown_iff {t : Token} :
    t.isUnknown named = true ↔ t.literal = false ∧ named t.text = none := by
  simp [isUnknown]

namespace Formatter

variable (f : Formatter)

/-- A strict formatter goes no further than an unknown token. -/
def refuses (t : Token) : Bool :=
  f.strict && t.isUnknown named

/-- The tokens that are written. -/
def reached (tokens : List Token) : List Token :=
  tokens.takeWhile fun t => !f.refuses named t

/-- What comes of a list of tokens when the text of those that are written is `text`. -/
def outcome (tokens : List Token) (text : String) : Except FormatError String :=
  match tokens.find? (f.refuses named) with
  | some t => .error (.unknownToken t.text)
  | none => .ok text

variable {f named}

/-- All tokens are written when none of them is refused. -/
theorem reached_eq_self {tokens : List Token} (h : ∀ t ∈ tokens, f.refuses named t = false) :
    f.reached named tokens = tokens := by
  rw [reached, List.takeWhile_eq_self_iff]
  intro t ht
  simp [h t ht]

/-- There is a text when no token is refused. -/
theorem outcome_eq_ok {tokens : List Token} (h : ∀ t ∈ tokens, f.refuses named t = false)
    (text : String) : f.outcome named tokens text = .ok text := by
  have hnone : tokens.find? (f.refuses named) = none := by
    rw [List.find?_eq_none]
    intro t ht
    simp [h t ht]
  rw [outcome, hnone]

section First

variable {before after : List Token} {t : Token}
  (hbefore : ∀ s ∈ before, f.refuses named s = false) (ht : f.refuses named t = true)

include hbefore ht

/-- The tokens before the first one that is refused are written. -/
theorem reached_eq_before : f.reached named (before ++ t :: after) = before := by
  rw [reached, List.takeWhile_append_of_pos, List.takeWhile_cons_of_neg, List.append_nil]
  · simp [ht]
  · intro s hs
    simp [hbefore s hs]

/-- The first token that is refused is the one that is reported. -/
theorem outcome_eq_error (text : String) :
    f.outcome named (before ++ t :: after) text = .error (.unknownToken t.text) := by
  have hfind : (before ++ t :: after).find? (f.refuses named) = some t := by
    rw [List.find?_eq_some_iff_append]
    refine ⟨ht, before, after, rfl, ?_⟩
    intro s hs
    simp [hbefore s hs]
  rw [outcome, hfind]

end First

section Render

variable {m : Type → Type} [Monad m] [LawfulMonad m]
  {resolve : String → ExceptT FormatError m String} {write : String → β → m String}
  (hnamed : ∀ token meaning, named token = some meaning →
    (resolve token).run = Except.ok <$> write token meaning)
  (hunnamed : ∀ token, named token = none → (resolve token).run = pure (f.unresolved token))

include hnamed hunnamed

/-- A token that is not refused is written. -/
theorem run_render_of_not_refused {t : Token} (h : f.refuses named t = false) :
    (t.render resolve).run = Except.ok <$> t.written named write := by
  unfold Token.render Token.written Token.meaning?
  by_cases hliteral : t.literal = true
  · simp [hliteral]
  · rw [if_neg hliteral, if_neg hliteral]
    cases hmeaning : named t.text with
    | some meaning => exact hnamed t.text meaning hmeaning
    | none =>
      -- the token is unknown, so the formatter is lenient
      have hstrict : f.strict = false := by
        simpa [refuses, Token.isUnknown, hliteral, hmeaning] using h
      rw [hunnamed t.text hmeaning]
      simp [unresolved, hstrict]

omit [LawfulMonad m] hnamed in
/-- A token that is refused makes the rendering fail. -/
theorem run_render_of_refused {t : Token} (h : f.refuses named t = true) :
    (t.render resolve).run = pure (.error (.unknownToken t.text)) := by
  rw [refuses, Bool.and_eq_true, Token.isUnknown_iff] at h
  obtain ⟨hstrict, hliteral, hmeaning⟩ := h
  rw [Token.render, hliteral, if_neg Bool.false_ne_true, hunnamed t.text hmeaning]
  simp [unresolved, hstrict]

/-- **Tokens are written up to the first one that is refused.** -/
theorem run_render_eq (tokens : List Token) :
    (render resolve tokens).run = (do
      let texts ← (f.reached named tokens).mapM (Token.written named write)
      pure (f.outcome named tokens (String.join texts))) := by
  induction tokens with
  | nil => simp [render, reached, outcome]
  | cons t rest ih =>
    cases ht : f.refuses named t with
    | true =>
      have hfirst := run_render_of_refused hunnamed ht
      have hreached : f.reached named (t :: rest) = [] := by simp [reached, ht]
      have houtcome : ∀ text, f.outcome named (t :: rest) text = .error (.unknownToken t.text) := by
        simp [outcome, ht]
      simp [render, ExceptT.run_bind, hfirst, hreached, houtcome]
    | false =>
      -- one of the others may still be refused, when nothing is left of the text of this one
      have hfirst := run_render_of_not_refused hnamed hunnamed ht
      have hreached : f.reached named (t :: rest) = t :: f.reached named rest := by
        simp [reached, ht]
      have houtcome : ∀ first others, f.outcome named (t :: rest) (first ++ others) =
          (do let text ← f.outcome named rest others; pure (first ++ text)) := by
        intro first others
        rw [outcome, outcome, List.find?_cons_of_neg (by simp [ht])]
        cases rest.find? (f.refuses named) <;> rfl
      simp only [render, ExceptT.run_bind, hfirst, ih, hreached, List.mapM_cons,
        bind_map_left, bind_assoc, pure_bind, String.join_cons, houtcome]
      congr 1
      funext first
      congr 1
      funext others
      cases f.outcome named rest (String.join others) <;> rfl

end Render

end Formatter

/-- Failures that are kept apart from those of a monad that can fail may be put among them before
the tokens are rendered as well as afterwards. -/
theorem bind_run_render (resolve : String → ExceptT FormatError (Except FormatError) String)
    (tokens : List Token) :
    (render resolve tokens).run >>= id = render (fun token => (resolve token).run >>= id) tokens := by
  induction tokens with
  | nil => rfl
  | cons t rest ih =>
    have hfirst : (t.render resolve).run >>= id =
        t.render fun token => (resolve token).run >>= id := by
      unfold Token.render
      split <;> rfl
    rw [render, render, ← hfirst, ← ih]
    cases t.render resolve with
    | error e => rfl
    | ok first =>
      cases first with
      | error e => rfl
      | ok first =>
        cases render resolve rest with
        | error e => rfl
        | ok others => cases others <;> rfl

end TemporalFormat
