import TemporalFormat.Format.Duration
import TemporalFormat.Proofs.Format.Refusal

/-!
# How formatting uses a duration

A duration of any kind is given by its two operations, which may do more than answer. When each use
of them is noted, `Formatter.formatDurationWith_calls` says what the notes are in the end: one shift
to the units of the pattern, and then one look at the shifted duration for every unit that is
written.
-/

set_option autoImplicit false

namespace TemporalFormat

/-- A use of one of the operations on durations. -/
inductive DurationCall (δ : Type) where
  | shiftTo (d : δ) (units : List TimeUnit)
  | get (d : δ) (unit : TimeUnit)
  deriving DecidableEq

variable {m : Type → Type} [Monad m] {δ α : Type}

/-- The same operations, each use of which is first noted at the end of a list. -/
def DurationAccess.noted (access : DurationAccess m δ α) :
    DurationAccess (StateT (List (DurationCall δ)) m) δ α where
  shiftTo d units := do
    modify (· ++ [.shiftTo d units])
    access.shiftTo d units
  get d unit := do
    modify (· ++ [.get d unit])
    access.get d unit

/-- The unit that a token of a duration pattern stands for. -/
def Token.unit? : Token → Option TimeUnit :=
  Token.meaning? TimeUnit.ofToken?

/-- The units of a pattern are those of its tokens, in their order. -/
theorem unitsNamed_eq_filterMap (tokens : List Token) :
    unitsNamed tokens = tokens.filterMap Token.unit? := by
  unfold unitsNamed Token.unit?
  rw [List.filterMap_filter]
  congr 1
  funext t
  cases hliteral : t.literal <;> simp [Token.meaning?, hliteral]

section Noted

variable [LawfulMonad m] (access : DurationAccess m δ α) (d : δ) (calls : List (DurationCall δ))

/-- A shift whose call is noted is the shift, with the call at the end of the list. -/
theorem run_noted_shiftTo (units : List TimeUnit) :
    (access.noted.shiftTo d units).run calls = (do
      let shifted ← access.shiftTo d units
      pure (shifted, calls ++ [.shiftTo d units])) := by
  simp [DurationAccess.noted]

/-- An amount whose call is noted is the amount, with the call at the end of the list. -/
theorem run_noted_get (unit : TimeUnit) :
    (access.noted.get d unit).run calls = (do
      let value ← access.get d unit
      pure (value, calls ++ [.get d unit])) := by
  simp [DurationAccess.noted]

end Noted

namespace Formatter

variable [Magnitude α] (f : Formatter)

/-- The text of a token: the amount of its unit with at least as many digits as the token has
characters, or the token itself. -/
def unitText (access : DurationAccess m δ α) (shifted : δ) : Token → m String :=
  Token.written TimeUnit.ofToken? fun token unit => do
    let value ← access.get shifted unit
    pure (f.formatMagnitude token.length value)

variable [LawfulMonad m] (access : DurationAccess m δ α)

/-- The duration is shifted to the units of the pattern, and then the tokens are written. -/
theorem run_formatDurationWith (d : δ) (pattern : String) :
    (f.formatDurationWith access d pattern).run = (do
      let shifted ← access.shiftTo d ((tokenize pattern).filterMap Token.unit?)
      let texts ← (f.reached TimeUnit.ofToken? (tokenize pattern)).mapM (f.unitText access shifted)
      pure (f.outcome TimeUnit.ofToken? (tokenize pattern) (String.join texts))) := by
  have hrender : ∀ shifted, (render (f.resolveUnit access shifted) (tokenize pattern)).run = (do
      let texts ← (f.reached TimeUnit.ofToken? (tokenize pattern)).mapM (f.unitText access shifted)
      pure (f.outcome TimeUnit.ofToken? (tokenize pattern) (String.join texts))) := by
    intro shifted
    apply run_render_eq
    · intro token unit hunit
      simp only [resolveUnit, hunit, map_bind, map_pure]
      exact ExceptT.run_bind_lift _ _
    · intro token hunit
      simp [resolveUnit, hunit]
  simp only [formatDurationWith, unitsNamed_eq_filterMap, ← hrender]
  exact ExceptT.run_bind_lift _ _

/-- Writing a token notes one look for its unit, if it has one. -/
theorem run_unitText_noted (shifted : δ) (t : Token) (calls : List (DurationCall δ)) :
    (f.unitText access.noted shifted t).run calls = (do
      let text ← f.unitText access shifted t
      pure (text, calls ++ ([t].filterMap Token.unit?).map (.get shifted))) := by
  unfold unitText Token.written Token.unit?
  cases hunit : t.meaning? TimeUnit.ofToken? with
  | none => simp [hunit]
  | some unit => simp [hunit, run_noted_get]

/-- Writing tokens notes a look for each of their units, in their order. -/
theorem run_mapM_unitText_noted (shifted : δ) (tokens : List Token)
    (calls : List (DurationCall δ)) :
    (tokens.mapM (f.unitText access.noted shifted)).run calls = (do
      let texts ← tokens.mapM (f.unitText access shifted)
      pure (texts, calls ++ (tokens.filterMap Token.unit?).map (.get shifted))) := by
  induction tokens generalizing calls with
  | nil => simp
  | cons t rest ih =>
    have hunits : (t :: rest).filterMap Token.unit? =
        [t].filterMap Token.unit? ++ rest.filterMap Token.unit? := by
      rw [← List.filterMap_append, List.singleton_append]
    simp [List.mapM_cons, run_unitText_noted, ih, hunits]

/-- What is noted of a whole run: the shift, and a look for each unit that is reached. -/
theorem run_formatDurationWith_noted (d : δ) (pattern : String) (calls : List (DurationCall δ)) :
    (f.formatDurationWith access.noted d pattern).run.run calls = (do
      let shifted ← access.shiftTo d ((tokenize pattern).filterMap Token.unit?)
      let texts ← (f.reached TimeUnit.ofToken? (tokenize pattern)).mapM (f.unitText access shifted)
      pure (f.outcome TimeUnit.ofToken? (tokenize pattern) (String.join texts),
        calls ++ .shiftTo d ((tokenize pattern).filterMap Token.unit?) ::
          ((f.reached TimeUnit.ofToken? (tokenize pattern)).filterMap Token.unit?).map
            (.get shifted))) := by
  simp [run_formatDurationWith, run_noted_shiftTo, run_mapM_unitText_noted]

/-- **How a duration of any kind is used.** It is shifted once, before all else, to the units of the
pattern, and then only the shifted duration is looked at, once for each token that has a unit, in
the order of the tokens. An output is made up of the texts of all tokens. A strict formatter stops
at the first token without a unit and reports it. Taking notes changes nothing else. -/
theorem formatDurationWith_calls (d : δ) (pattern : String) (calls : List (DurationCall δ)) :
    (f.formatDurationWith access d pattern).run =
        Prod.fst <$> (f.formatDurationWith access.noted d pattern).run.run calls ∧
    ((f.strict = true → ∀ t ∈ tokenize pattern, t.isUnknown TimeUnit.ofToken? = false) →
      (f.formatDurationWith access.noted d pattern).run.run calls = (do
        let shifted ← access.shiftTo d ((tokenize pattern).filterMap Token.unit?)
        let texts ← (tokenize pattern).mapM (f.unitText access shifted)
        pure (.ok (String.join texts),
          calls ++ .shiftTo d ((tokenize pattern).filterMap Token.unit?) ::
            ((tokenize pattern).filterMap Token.unit?).map (.get shifted)))) ∧
    (f.strict = true → ∀ before t after, tokenize pattern = before ++ t :: after →
      (∀ s ∈ before, s.isUnknown TimeUnit.ofToken? = false) →
      t.isUnknown TimeUnit.ofToken? = true →
      (f.formatDurationWith access.noted d pattern).run.run calls = (do
        let shifted ← access.shiftTo d ((tokenize pattern).filterMap Token.unit?)
        let _ ← before.mapM (f.unitText access shifted)
        pure (.error (.unknownToken t.text),
          calls ++ .shiftTo d ((tokenize pattern).filterMap Token.unit?) ::
            (before.filterMap Token.unit?).map (.get shifted)))) := by
  refine ⟨?_, ?_, ?_⟩
  · rw [run_formatDurationWith, run_formatDurationWith_noted]
    simp
  · intro hknown
    have hrefuses : ∀ t ∈ tokenize pattern, f.refuses TimeUnit.ofToken? t = false := by
      intro t ht
      rw [refuses, Bool.and_eq_false_imp]
      exact fun hstrict => hknown hstrict t ht
    rw [run_formatDurationWith_noted, reached_eq_self hrefuses]
    simp only [outcome_eq_ok hrefuses]
  · intro hstrict before t after htokens hbefore ht
    have hrefuses : ∀ s ∈ before, f.refuses TimeUnit.ofToken? s = false := by
      intro s hs
      simp [refuses, hbefore s hs]
    have hfirst : f.refuses TimeUnit.ofToken? t = true := by
      simp [refuses, hstrict, ht]
    rw [run_formatDurationWith_noted, htokens, reached_eq_before hrefuses hfirst]
    simp only [outcome_eq_error hrefuses hfirst]

/-- A strict formatter shifts to both units of the pattern, but it stops before the second one. -/
theorem formatDurationWith_calls_stopped :
    let counted : DurationAccess Id Nat Rat :=
      ⟨fun d units => pure (d + units.length), fun d _ => pure (d : Rat)⟩
    ((formatDurationWith ⟨.english, true, true⟩ counted.noted 5 "h 'to' x m").run.run []).run =
      (.error (.unknownToken "x"), [.shiftTo 5 [.hour, .minute], .get 7 .hour]) := by
  intro counted
  have htokens : tokenize "h 'to' x m" = (tokenize "h 'to' x m").take 4 ++
      ⟨false, ['x'], 7⟩ :: (tokenize "h 'to' x m").drop 5 := by
    decide
  rw [(formatDurationWith_calls ⟨.english, true, true⟩ counted 5 "h 'to' x m" []).2.2 rfl _ _ _
    htokens (by decide) (by decide)]
  rfl

end Formatter

end TemporalFormat
