import TemporalFormat.Proofs.Pattern.Glyphs

/-!
# What a scan finds

The scan of a pattern keeps the text of the token that is being read, and the glyphs of this text
are a run that has not ended yet. Between two characters the tokens before, together with those of
this run and of the glyphs that are still to come, are always the same: `Scan.found_step` says so of
one character and `Scan.tokens_run` of the rest of the pattern. So the tokens that are found are
those of the longest runs of glyphs, `tokenize_eq_tokensOf`.
-/

set_option autoImplicit false

namespace TemporalFormat

namespace Scan

/-- What holds of a scan that has come to a place of the pattern: the text of the token that is
being read goes up to this place, and outside quotes it repeats the current character. -/
structure At (s : Scan) (position : Nat) : Prop where
  position_eq : s.bufferStart + s.buffer.length = position
  eq_current : s.quoted = false → ∀ c ∈ s.buffer, some c = s.current

/-- The glyphs of the token that is being read. -/
def pending (s : Scan) : List Glyph :=
  Glyph.ofText s.quoted s.bufferStart s.buffer

/-- The tokens that there are when a scan goes on with `rest`: those before, and those of all other
glyphs. -/
def found (s : Scan) (position : Nat) (rest : List Char) : List Token :=
  s.tokens ++
    ((s.pending ++ Glyph.ofChars s.quoted position rest).splitBy Glyph.joins).map Token.ofRun

variable {s : Scan} {position : Nat}

/-! ## The token that is being read -/

/-- The glyphs of the token that is being read stand before the place that is read next, and are
quoted when the scan is inside quotes. -/
theorem At.of_mem_pending (h : s.At position) {g : Glyph} (hg : g ∈ s.pending) :
    g.position < position ∧ g.quoted = s.quoted := by
  obtain ⟨hlt, hquoted⟩ := Glyph.of_mem_ofText _ _ hg
  exact ⟨h.position_eq ▸ hlt, hquoted⟩

/-- Outside quotes they repeat the current character. -/
theorem At.char_of_mem_pending (h : s.At position) (hq : s.quoted = false) {g : Glyph}
    (hg : g ∈ s.pending) : some g.char = s.current := by
  apply h.eq_current hq
  rw [← Glyph.map_char_ofText s.quoted s.bufferStart s.buffer]
  exact List.mem_map_of_mem hg

/-- They are one run. -/
theorem At.splitBy_pending (h : s.At position) (hne : s.buffer ≠ []) :
    s.pending.splitBy Glyph.joins = [s.pending] := by
  apply Glyph.splitBy_ofText _ _ hne
  intro hq c hc d hd
  exact Option.some.inj ((h.eq_current hq d hd).trans (h.eq_current hq c hc).symm)

/-- The token of this run is the one that the scan adds to the others. -/
theorem At.ofRun_pending (h : s.At position) (hne : s.buffer ≠ []) :
    Token.ofRun s.pending = ⟨s.pendingIsLiteral, s.buffer, s.bufferStart⟩ := by
  have hliteral : (s.buffer.all fun c => s.quoted || !isPatternLetter c) = s.pendingIsLiteral := by
    cases hq : s.quoted with
    | true => simp [pendingIsLiteral, hq]
    | false =>
      obtain ⟨c, hc⟩ := List.exists_mem_of_ne_nil _ hne
      have hcurrent := h.eq_current hq c hc
      have hrepeat : s.buffer = List.replicate s.buffer.length c :=
        List.eq_replicate_of_mem fun d hd =>
          Option.some.inj ((h.eq_current hq d hd).trans hcurrent.symm)
      rw [pendingIsLiteral, hq, ← hcurrent, hrepeat, List.all_replicate,
        if_neg (by simpa using hne), Option.any_some]
  rw [pending, Glyph.ofRun_ofText _ _ hne, hliteral]

/-- To end the token that is being read is right where its glyphs do not join those that come. -/
theorem At.tokens_flush (h : s.At position) (glyphs : List Glyph)
    (hgap : ∀ x ∈ s.pending.getLast?, ∀ y ∈ glyphs.head?, Glyph.joins x y = false) :
    s.flush.tokens ++ (glyphs.splitBy Glyph.joins).map Token.ofRun =
      s.tokens ++ ((s.pending ++ glyphs).splitBy Glyph.joins).map Token.ofRun := by
  by_cases hne : s.buffer = []
  · have hpending : s.pending = [] := by rw [pending, hne, Glyph.ofText]
    simp [flush, hne, hpending]
  · rw [List.splitBy_append hgap, h.splitBy_pending hne, List.map_append, List.map_singleton,
      h.ofRun_pending hne]
    simp [flush, hne]

/-- After a token has been ended there is no text. -/
theorem buffer_flush (s : Scan) : s.flush.buffer = [] := by
  rw [flush]
  split
  · rename_i hempty
    exact List.isEmpty_iff.mp hempty
  · rfl

/-- To end a token neither opens nor closes a quote. -/
theorem quoted_flush (s : Scan) : s.flush.quoted = s.quoted := by
  rw [flush]
  split <;> rfl

/-! ## One character -/

/-- A character more of the same token is one glyph more of the same run. -/
theorem At.found_push (h : s.At position) {c : Char} (hc : c ≠ quoteMark) (rest : List Char) :
    (s.push c).found (position + 1) rest = s.found position (c :: rest) := by
  have hpending : (s.push c).pending = s.pending ++ [⟨c, position, s.quoted⟩] := by
    rw [pending, push, Glyph.ofText_concat, h.position_eq]
    rfl
  rw [found, found, hpending, Glyph.ofChars, if_neg hc, List.append_assoc]
  rfl

/-- A scan that has come to a place comes to the next one. -/
theorem At.step (h : s.At position) (c : Char) : (s.step position c).At (position + 1) := by
  have hposition := h.position_eq
  rw [Scan.step]
  split
  · exact ⟨by simp [buffer_flush], by simp [buffer_flush]⟩
  · split
    · rename_i hq
      exact ⟨by simp [push]; omega, by simp [push, hq]⟩
    · split
      · rename_i hcurrent
        refine ⟨by simp [push]; omega, ?_⟩
        intro hq d hd
        rcases List.mem_append.mp hd with hmem | hmem
        · exact h.eq_current hq d hmem
        · rw [List.mem_singleton.mp hmem]
          exact hcurrent
      · exact ⟨by simp [push, buffer_flush], by simp [push, buffer_flush]⟩

/-- A quote leaves a gap: the token before it does not join what comes after it. -/
theorem At.joins_of_quote (h : s.At position) (quoted : Bool) (rest : List Char) :
    ∀ x ∈ s.pending.getLast?, ∀ y ∈ (Glyph.ofChars quoted (position + 1) rest).head?,
      Glyph.joins x y = false := by
  apply Glyph.joins_of_gap position
  · exact fun x hx => (h.of_mem_pending hx).1
  · exact fun y hy => Glyph.le_position_of_mem hy

/-- Outside quotes another character does not join the token before it. -/
theorem At.joins_of_ne_current (h : s.At position) (hq : s.quoted = false) {c : Char}
    (hc : c ≠ quoteMark) (hcurrent : some c ≠ s.current) (rest : List Char) :
    ∀ x ∈ s.pending.getLast?, ∀ y ∈ (Glyph.ofChars s.quoted position (c :: rest)).head?,
      Glyph.joins x y = false := by
  intro x hx y hy
  rw [Glyph.ofChars, if_neg hc, List.head?_cons, Option.mem_some_iff] at hy
  subst hy
  have hmem := List.mem_of_mem_getLast? hx
  have hne : c ≠ x.char := fun heq => hcurrent (heq ▸ h.char_of_mem_pending hq hmem)
  have hquoted := (h.of_mem_pending hmem).2
  simp [Glyph.joins, hne, hquoted, hq]

/-- **A character does not change what is found.** -/
theorem At.found_step (h : s.At position) (c : Char) (rest : List Char) :
    (s.step position c).found (position + 1) rest = s.found position (c :: rest) := by
  rw [Scan.step]
  split
  · rename_i hc
    have hflush := h.tokens_flush _ (h.joins_of_quote (!s.quoted) rest)
    simpa [found, pending, buffer_flush, Glyph.ofText, Glyph.ofChars, hc] using hflush
  · rename_i hc
    split
    · exact h.found_push hc rest
    · rename_i hq
      split
      · exact h.found_push hc rest
      · rename_i hcurrent
        have hq' : s.quoted = false := Bool.eq_false_of_not_eq_true hq
        have hflush := h.tokens_flush _ (h.joins_of_ne_current hq' hc hcurrent rest)
        simpa [found, pending, push, buffer_flush, quoted_flush, Glyph.ofText, Glyph.ofChars, hc]
          using hflush

/-! ## The rest of the pattern -/

/-- The tokens of a scan that has read the rest of the pattern. -/
theorem At.tokens_run (h : s.At position) (rest : List Char) :
    (s.run position rest).flush.tokens = s.found position rest := by
  induction rest generalizing s position with
  | nil => simpa [run, found, Glyph.ofChars] using h.tokens_flush [] (by simp)
  | cons c rest ih => rw [run, ih (h.step c), h.found_step]

end Scan

/-- **The tokens of a pattern** are those of the longest runs of its glyphs. -/
theorem tokenize_eq_tokensOf (pattern : String) : tokenize pattern = tokensOf pattern.toList := by
  have hstart : Scan.At {} 0 := ⟨rfl, fun _ _ hc => absurd hc List.not_mem_nil⟩
  exact hstart.tokens_run pattern.toList

end TemporalFormat
