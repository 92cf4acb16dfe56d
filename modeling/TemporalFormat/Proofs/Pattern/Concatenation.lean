import TemporalFormat.Pattern.Token
import TemporalFormat.Proofs.Pattern.Runs
import TemporalFormat.Proofs.Pattern.Scan

/-!
# Patterns in a row

Two patterns in a row are rendered one after the other, `render_tokensOf_append`, when the first
closes every quote that it opens and the two do not repeat a letter across their seam. The runs on
either side of the seam may still grow together, but then both are literals, and it makes no
difference whether a text is copied at once or in two parts.
-/

set_option autoImplicit false

namespace TemporalFormat

/-- A pattern closes every quote that it opens. -/
def Balanced (chars : List Char) : Prop :=
  chars.count quoteMark % 2 = 0

/-- A pattern ends and another one begins with the same letter. -/
def LetterSeam (before after : List Char) : Prop :=
  ∃ c ∈ before.getLast?, after.head? = some c ∧ IsAsciiLetter c

-- The seam is looked up on both sides. Without this all characters would be tried.
instance (before after : List Char) : Decidable (LetterSeam before after) :=
  decidable_of_iff
    (before.getLast?.any fun c => decide (after.head? = some c) && isPatternLetter c)
    (by simp [LetterSeam, Option.any_eq_true, isPatternLetter_iff])

instance (chars : List Char) : Decidable (Balanced chars) :=
  inferInstanceAs (Decidable (_ = _))

/-- No letter is repeated across a seam when something else stands on its left. -/
theorem not_letterSeam_of_getLast {before after : List Char}
    (h : before.getLast?.any isPatternLetter = false) : ¬ LetterSeam before after := by
  rintro ⟨c, hlast, -, hletter⟩
  rw [Option.mem_def.mp hlast, Option.any_some] at h
  exact Bool.false_ne_true (h.symm.trans ((isPatternLetter_iff c).mpr hletter))

/-- No letter is repeated across a seam when something else stands on its right. -/
theorem not_letterSeam_of_head {before after : List Char}
    (h : after.head?.any isPatternLetter = false) : ¬ LetterSeam before after := by
  rintro ⟨c, -, hhead, hletter⟩
  rw [hhead, Option.any_some] at h
  exact Bool.false_ne_true (h.symm.trans ((isPatternLetter_iff c).mpr hletter))

/-- Patterns in a row close every quote when each does. -/
theorem Balanced.append {xs ys : List Char} (hx : Balanced xs) (hy : Balanced ys) :
    Balanced (xs ++ ys) := by
  unfold Balanced at *
  rw [List.count_append]
  omega

/-! ## Runs across a seam -/

section Runs

variable {α : Type} {r : α → α → Bool}

/-- Splitting is the same in any likeness of a list. -/
theorem splitBy_map {β : Type} {f : β → α} {s : β → β → Bool} (h : ∀ a b, r (f a) (f b) = s a b)
    (l : List β) : (l.map f).splitBy r = (l.splitBy s).map (List.map f) := by
  rw [List.splitBy_eq_iff]
  refine ⟨?_, ?_, ?_, ?_⟩
  · rw [← List.map_flatten, List.flatten_splitBy]
  · simp
  · intro run hrun
    obtain ⟨run, hmem, rfl⟩ := List.mem_map.mp hrun
    rw [List.isChain_map]
    simpa only [h] using List.isChain_of_mem_splitBy hmem
  · rw [List.isChain_map]
    refine (List.isChain_getLast_head_splitBy s l).imp ?_
    rintro a b ⟨ha, hb, hab⟩
    exact ⟨by simpa using ha, by simpa using hb, by rw [List.getLast_map, List.head_map, h, hab]⟩

/-- The last run of a list ends with the last element. -/
theorem exists_last_run {l : List α} {x : α} (hx : l.getLast? = some x) :
    ∃ runs last, l.splitBy r = runs ++ [last] ∧ last.getLast? = some x := by
  have hflat := List.flatten_splitBy r l
  rcases List.eq_nil_or_concat' (l.splitBy r) with hnil | ⟨runs, last, hruns⟩
  · rw [List.splitBy_eq_nil] at hnil
    simp [hnil] at hx
  · have hne : last ≠ [] := List.ne_nil_of_mem_splitBy (r := r) (l := l) (by simp [hruns])
    refine ⟨runs, last, hruns, ?_⟩
    rw [hruns, List.flatten_append, List.flatten_singleton] at hflat
    rwa [← hflat, List.getLast?_append_of_ne_nil _ hne] at hx

/-- The first run of a list begins with the first element. -/
theorem exists_first_run {l : List α} {x : α} (hx : l.head? = some x) :
    ∃ first runs, l.splitBy r = first :: runs ∧ first.head? = some x := by
  have hflat := List.flatten_splitBy r l
  cases hruns : l.splitBy r with
  | nil =>
    rw [List.splitBy_eq_nil] at hruns
    simp [hruns] at hx
  | cons first runs =>
    have hne : first ≠ [] := List.ne_nil_of_mem_splitBy (r := r) (l := l) (by simp [hruns])
    refine ⟨first, runs, rfl, ?_⟩
    rw [hruns, List.flatten_cons] at hflat
    rwa [← hflat, List.head?_append_of_ne_nil _ hne] at hx

/-- When the last run of a list and the first run of the next list belong together, they become one
run, and the other runs stay. -/
theorem splitBy_append_of_joined {l m : List α} {before after : List (List α)}
    {left right : List α} (hl : l.splitBy r = before ++ [left])
    (hm : m.splitBy r = right :: after)
    (hjoin : ∀ x ∈ left.getLast?, ∀ y ∈ right.head?, r x y = true) :
    (l ++ m).splitBy r = before ++ (left ++ right) :: after := by
  have hleft := List.splitBy_eq_iff.mp hl
  have hright := List.splitBy_eq_iff.mp hm
  obtain ⟨hlflat, hlnil, hlchain, hlgap⟩ := hleft
  obtain ⟨hmflat, hmnil, hmchain, hmgap⟩ := hright
  have hne : left ≠ [] := by
    rintro rfl
    simp at hlnil
  have hne' : right ≠ [] := by
    rintro rfl
    simp at hmnil
  rw [List.splitBy_eq_iff]
  refine ⟨?_, ?_, ?_, ?_⟩
  · rw [hlflat, hmflat]
    simp
  · simp only [List.mem_append, List.mem_cons, not_or] at hlnil hmnil ⊢
    exact ⟨hlnil.1, fun h => hne (List.append_eq_nil_iff.mp h.symm).1, hmnil.2⟩
  · intro run hrun
    rcases List.mem_append.mp hrun with hmem | hmem
    · exact hlchain run (List.mem_append_left _ hmem)
    · rcases List.mem_cons.mp hmem with rfl | hmem
      · rw [List.isChain_append]
        exact ⟨hlchain left (by simp), hmchain right (by simp), hjoin⟩
      · exact hmchain run (List.mem_cons_of_mem _ hmem)
  · rw [List.isChain_append] at hlgap ⊢
    rw [List.isChain_cons] at hmgap ⊢
    refine ⟨hlgap.1, ⟨?_, hmgap.2⟩, ?_⟩
    · intro run hrun
      obtain ⟨ha, hb, hab⟩ := hmgap.1 run hrun
      refine ⟨List.append_ne_nil_of_right_ne_nil _ hne', hb, ?_⟩
      rwa [List.getLast_append_of_ne_nil _ hne']
    · intro run hrun next hnext
      obtain ⟨ha, hb, hab⟩ := hlgap.2.2 run hrun left rfl
      obtain rfl : left ++ right = next := Option.some.inj hnext
      refine ⟨ha, List.append_ne_nil_of_left_ne_nil hne _, ?_⟩
      rwa [List.head_append_left]

end Runs

/-! ## Moving a pattern -/

namespace Glyph

/-- A glyph further to the right. -/
def shift (n : Nat) (g : Glyph) : Glyph :=
  { g with position := g.position + n }

/-- Glyphs that are moved together belong together as before. -/
theorem joins_shift (n : Nat) (a b : Glyph) : joins (a.shift n) (b.shift n) = joins a b := by
  have hposition : b.position + n = a.position + n + 1 ↔ b.position = a.position + 1 := by omega
  simp [joins, shift, Bool.beq_eq_decide_eq, hposition]

/-- The glyphs of a text that begins further to the right. -/
theorem ofChars_add (quoted : Bool) (start n : Nat) (chars : List Char) :
    ofChars quoted (start + n) chars = (ofChars quoted start chars).map (shift n) := by
  induction chars generalizing quoted start with
  | nil => rfl
  | cons c rest ih =>
    have hstart : start + n + 1 = start + 1 + n := by omega
    by_cases hc : c = quoteMark
    · rw [ofChars, ofChars, if_pos hc, if_pos hc, hstart, ih]
    · rw [ofChars, ofChars, if_neg hc, if_neg hc, hstart, ih]
      rfl

end Glyph

/-- A run that is moved makes up the same kind of token. -/
theorem literal_ofRun_shift (n : Nat) (run : List Glyph) :
    (Token.ofRun (run.map (Glyph.shift n))).literal = (Token.ofRun run).literal := by
  rw [Token.ofRun, List.all_map]
  rfl

/-- A run that is moved makes up a token of the same characters. -/
theorem chars_ofRun_shift (n : Nat) (run : List Glyph) :
    (Token.ofRun (run.map (Glyph.shift n))).chars = (Token.ofRun run).chars := by
  rw [Token.ofRun, List.map_map]
  rfl

/-- A token that has any character but a letter is literal. -/
theorem literal_of_not_letter {chars : List Char} {t : Token} (ht : t ∈ tokensOf chars) {c : Char}
    (hc : c ∈ t.chars) (hletter : ¬ IsAsciiLetter c) : t.literal = true := by
  by_cases hq : QuotedAt chars t.start
  · exact literal_of_quotedAt ht hq
  · rw [← Bool.not_eq_false, literal_eq_false_iff ht hq hc]
    exact hletter

/-- A run that has any character but a letter is text, wherever the pattern stands. -/
theorem all_isText_of_mem_splitBy {n : Nat} {chars : List Char} {run : List Glyph}
    (hrun : run ∈ (Glyph.ofChars false n chars).splitBy Glyph.joins) {g : Glyph} (hg : g ∈ run)
    (hletter : ¬ IsAsciiLetter g.char) : run.all Glyph.isText = true := by
  have hshift := Glyph.ofChars_add false 0 n chars
  rw [Nat.zero_add] at hshift
  rw [hshift, splitBy_map (Glyph.joins_shift n)] at hrun
  obtain ⟨run, hmem, rfl⟩ := List.mem_map.mp hrun
  have hchar : g.char ∈ (Token.ofRun run).chars := by
    rw [← chars_ofRun_shift n]
    exact List.mem_map_of_mem hg
  calc (run.map (Glyph.shift n)).all Glyph.isText
      = (Token.ofRun (run.map (Glyph.shift n))).literal := rfl
    _ = (Token.ofRun run).literal := literal_ofRun_shift n run
    _ = true := literal_of_not_letter (List.mem_map_of_mem hmem) hchar hletter

/-- Where glyphs join across the seam, the patterns repeat a character there. -/
theorem char_eq_of_joins {before after : List Char} (hbefore : Balanced before) {x y : Glyph}
    (hx : x ∈ (Glyph.ofChars false 0 before).getLast?)
    (hy : y ∈ (Glyph.ofChars false before.length after).head?) (hjoin : Glyph.joins x y = true) :
    before.getLast? = some x.char ∧ after.head? = some x.char ∧ y.char = x.char := by
  have hxmem := List.mem_of_mem_getLast? hx
  have hle := Glyph.le_position_of_mem (List.mem_of_mem_head? hy)
  rw [Glyph.ofChars_eq_map, List.mem_map] at hxmem
  obtain ⟨i, hi, rfl⟩ := hxmem
  obtain ⟨c, hc, -⟩ := mem_textPlaces.mp hi
  have hlt := (List.getElem?_eq_some_iff.mp hc).1
  simp only [Glyph.joins, glyphAt, Bool.and_eq_true, beq_iff_eq, Bool.or_eq_true,
    decide_eq_true_eq] at hjoin
  obtain ⟨hposition, hjoin⟩ := hjoin
  have hlast : i = before.length - 1 := by omega
  -- the first pattern closes its quotes, so its last character stands outside them
  have hplain : ¬ QuotedAt before i := by
    rw [← quotedAt_succ hi, QuotedAt, List.take_of_length_le (by omega)]
    unfold Balanced at hbefore
    omega
  have hchar := hjoin.resolve_left hplain
  refine ⟨?_, ?_, hchar⟩
  · rw [List.getLast?_eq_getElem?, ← hlast, hc]
    simp [glyphAt, hc]
  · cases after with
    | nil => simp [Glyph.ofChars] at hy
    | cons d rest =>
      rw [Glyph.ofChars] at hy
      split at hy
      · have := Glyph.le_position_of_mem (List.mem_of_mem_head? hy)
        omega
      · obtain rfl := Option.some.inj hy
        exact congrArg some hchar

section Render

variable {m : Type → Type} [Monad m] (resolve : String → m String)

/-- What a run adds to the output does not depend on where it stands. -/
theorem render_ofRun_shift (n : Nat) (run : List Glyph) :
    (Token.ofRun (run.map (Glyph.shift n))).render resolve =
      (Token.ofRun run).render resolve := by
  rw [Token.render, Token.text, literal_ofRun_shift, chars_ofRun_shift]
  rfl

/-- A pattern is rendered the same wherever it stands. -/
theorem render_shift (n : Nat) (chars : List Char) :
    render resolve (((Glyph.ofChars false n chars).splitBy Glyph.joins).map Token.ofRun) =
      render resolve (tokensOf chars) := by
  have hruns : ∀ runs : List (List Glyph),
      render resolve ((runs.map (List.map (Glyph.shift n))).map Token.ofRun) =
        render resolve (runs.map Token.ofRun) := by
    intro runs
    induction runs with
    | nil => rfl
    | cons run rest ih =>
      simp only [List.map_cons, render, ih, render_ofRun_shift]
  have hshift := Glyph.ofChars_add false 0 n chars
  rw [Nat.zero_add] at hshift
  rw [hshift, splitBy_map (Glyph.joins_shift n), hruns]
  rfl

/-- Two runs of text are copied as well apart as together. -/
theorem render_ofRun_append [LawfulMonad m] {left right : List Glyph}
    (hleft : left.all Glyph.isText = true) (hright : right.all Glyph.isText = true) :
    (Token.ofRun (left ++ right)).render resolve =
      (do
        let first ← (Token.ofRun left).render resolve
        let others ← (Token.ofRun right).render resolve
        pure (first ++ others)) := by
  have hboth : (left ++ right).all Glyph.isText = true := by
    rw [List.all_append, hleft, hright]
    rfl
  simp [Token.render, Token.ofRun, Token.text, hleft, hright, hboth]

/-- **Patterns in a row are rendered one after the other** when the first closes its quotes and no
letter is repeated across their seam. -/
theorem render_tokensOf_append [LawfulMonad m] {before after : List Char}
    (hbefore : Balanced before) (hseam : ¬ LetterSeam before after) :
    render resolve (tokensOf (before ++ after)) =
      (do
        let first ← render resolve (tokensOf before)
        let others ← render resolve (tokensOf after)
        pure (first ++ others)) := by
  have hodd : ¬ before.count quoteMark % 2 = 1 := by
    unfold Balanced at hbefore
    omega
  rw [← render_shift resolve before.length after]
  rw [tokensOf, tokensOf, Glyph.ofChars_append, decide_eq_false hodd, Bool.false_xor, Nat.zero_add]
  by_cases hgap : ∀ x ∈ (Glyph.ofChars false 0 before).getLast?,
      ∀ y ∈ (Glyph.ofChars false before.length after).head?, Glyph.joins x y = false
  · rw [List.splitBy_append hgap, List.map_append, render_append]
  · -- the runs at the seam grow together; they are texts, since what is repeated is no letter
    push Not at hgap
    obtain ⟨x, hx, y, hy, hjoin⟩ := hgap
    rw [Bool.ne_false_iff] at hjoin
    obtain ⟨hlast, hhead, hchar⟩ := char_eq_of_joins hbefore hx hy hjoin
    have hletter : ¬ IsAsciiLetter x.char := fun h => hseam ⟨x.char, hlast, hhead, h⟩
    obtain ⟨runs, left, hleft, hx'⟩ := exists_last_run (r := Glyph.joins) hx
    obtain ⟨right, others, hright, hy'⟩ := exists_first_run (r := Glyph.joins) hy
    have hlefttext : left.all Glyph.isText = true :=
      all_isText_of_mem_splitBy (by rw [hleft]; simp) (List.mem_of_mem_getLast? hx') hletter
    have hrighttext : right.all Glyph.isText = true :=
      all_isText_of_mem_splitBy (by rw [hright]; simp) (List.mem_of_mem_head? hy')
        (by rwa [hchar])
    have hjoin' : ∀ a ∈ left.getLast?, ∀ b ∈ right.head?, Glyph.joins a b = true := by
      intro a ha b hb
      obtain rfl : x = a := Option.some.inj (hx'.symm.trans ha)
      obtain rfl : y = b := Option.some.inj (hy'.symm.trans hb)
      exact hjoin
    rw [splitBy_append_of_joined hleft hright hjoin', hleft, hright]
    simp only [List.map_append, List.map_cons, List.map_nil, render_append, render,
      render_ofRun_append resolve hlefttext hrighttext, bind_assoc, pure_bind,
      String.append_assoc, String.append_empty]

/-- Quoted text is copied, even when it is empty. -/
theorem render_quoted [LawfulMonad m] {content : List Char} (hquote : quoteMark ∉ content) :
    render resolve (tokensOf (quoteMark :: (content ++ [quoteMark]))) =
      pure (String.ofList content) := by
  have hglyphs : Glyph.ofChars false 0 (quoteMark :: (content ++ [quoteMark])) =
      Glyph.ofChars true 1 content := by
    rw [Glyph.ofChars, if_pos rfl, Glyph.ofChars_append]
    simp [Glyph.ofChars]
  rw [tokensOf, hglyphs]
  rcases eq_or_ne content [] with rfl | hne
  · rfl
  · rw [Glyph.ofChars_eq_ofText _ _ hquote, Glyph.splitBy_ofText _ _ hne (by simp),
      List.map_singleton, Glyph.ofRun_ofText _ _ hne]
    simp [render, Token.render, Token.text]

end Render

end TemporalFormat
