import Mathlib.Data.List.SplitBy
import Mathlib.Data.List.Sort
import TemporalFormat.Pattern.Token

/-!
# Where glyphs stand

What is left of a pattern without its quotes are glyphs, and `tokensOf` says what its tokens are
without any state: longest runs of glyphs that stand side by side and belong together. Quoted glyphs
always do, unquoted ones when they are the same character. Since a quote leaves a gap between the
positions of its neighbours, no token reaches across one.

The glyphs are told by their places alone: there is one glyph for each place that holds no quote, in
the order of the places, and it is quoted when an odd number of quotes stand before it.
`Glyph.ofChars_eq_map` says so. A run of glyphs that join stands on consecutive places, and the
quotation does not change along it.
-/

set_option autoImplicit false

namespace TemporalFormat

/-- A character of a pattern that is not a quote, with its place in the pattern. -/
structure Glyph where
  char : Char
  position : Nat
  quoted : Bool
  deriving DecidableEq

namespace Glyph

/-- Whether `b`, which comes after `a`, belongs to the same token as `a`. -/
def joins (a b : Glyph) : Bool :=
  b.position == a.position + 1 && (a.quoted || b.char == a.char)

/-- A glyph that stands for itself: it is quoted, or no directive letter. -/
def isText (g : Glyph) : Bool :=
  g.quoted || !isPatternLetter g.char

/-- The glyphs of the characters that begin at `position`, inside quotes or outside them. -/
def ofChars (quoted : Bool) (position : Nat) : List Char → List Glyph
  | [] => []
  | c :: rest =>
    if c = quoteMark then ofChars (!quoted) (position + 1) rest
    else ⟨c, position, quoted⟩ :: ofChars quoted (position + 1) rest

/-- The glyphs of two texts in a row. The second text begins as the first does when the first has
an even number of quotes, and the other way round when it has an odd number. -/
theorem ofChars_append (quoted : Bool) (position : Nat) (xs ys : List Char) :
    ofChars quoted position (xs ++ ys) = ofChars quoted position xs ++
      ofChars (quoted ^^ decide (xs.count quoteMark % 2 = 1)) (position + xs.length) ys := by
  induction xs generalizing quoted position with
  | nil => simp [ofChars]
  | cons c rest ih =>
    by_cases h : c = quoteMark
    · subst h
      rcases Nat.mod_two_eq_zero_or_one (rest.count quoteMark) with hm | hm <;>
        simp [ofChars, ih, Nat.add_mod, hm, Nat.add_assoc, Nat.add_comm 1]
    · simp [ofChars, h, ih, Nat.add_assoc, Nat.add_comm 1]

/-- No glyph stands before the place from which a text is read. -/
theorem le_position_of_mem {quoted : Bool} {start : Nat} {chars : List Char} {g : Glyph}
    (h : g ∈ ofChars quoted start chars) : start ≤ g.position := by
  induction chars generalizing quoted start with
  | nil => exact absurd h List.not_mem_nil
  | cons c rest ih =>
    rw [ofChars] at h
    split at h
    · have := ih h
      omega
    · rcases List.mem_cons.mp h with rfl | hrest
      · exact le_rfl
      · have := ih hrest
        omega

/-- No glyph stands past the end of the text that is read. -/
theorem position_lt_of_mem {quoted : Bool} {start : Nat} {chars : List Char} {g : Glyph}
    (h : g ∈ ofChars quoted start chars) : g.position < start + chars.length := by
  induction chars generalizing quoted start with
  | nil => exact absurd h List.not_mem_nil
  | cons c rest ih =>
    rw [List.length_cons]
    rw [ofChars] at h
    split at h
    · have := ih h
      omega
    · rcases List.mem_cons.mp h with rfl | hrest
      · exact Nat.lt_add_of_pos_right (Nat.succ_pos _)
      · have := ih hrest
        omega

/-- Glyphs do not join across a place at which no glyph stands. -/
theorem joins_of_gap {before after : List Glyph} (place : Nat)
    (hbefore : ∀ g ∈ before, g.position < place) (hafter : ∀ g ∈ after, place < g.position) :
    ∀ x ∈ before.getLast?, ∀ y ∈ after.head?, joins x y = false := by
  intro x hx y hy
  have hlt := hbefore x (List.mem_of_mem_getLast? hx)
  have hgt := hafter y (List.mem_of_mem_head? hy)
  have hne : y.position ≠ x.position + 1 := by omega
  simp [joins, hne]

end Glyph

/-- The token that a run of glyphs makes up. -/
def Token.ofRun (run : List Glyph) : Token where
  literal := run.all Glyph.isText
  chars := run.map Glyph.char
  start := (run.head?.map Glyph.position).getD 0

/-- The tokens of a list of characters, in the order in which they stand. -/
def tokensOf (chars : List Char) : List Token :=
  ((Glyph.ofChars false 0 chars).splitBy Glyph.joins).map Token.ofRun

/-! ## Text without quotes -/

namespace Glyph

/-- The glyphs of a text that holds no quote. -/
def ofText (quoted : Bool) (start : Nat) : List Char → List Glyph
  | [] => []
  | c :: rest => ⟨c, start, quoted⟩ :: ofText quoted (start + 1) rest

variable (quoted : Bool) (start : Nat)

/-- Text that holds no quote has a glyph for each character. -/
theorem ofChars_eq_ofText {text : List Char} (h : quoteMark ∉ text) :
    ofChars quoted start text = ofText quoted start text := by
  induction text generalizing start with
  | nil => rfl
  | cons c rest ih =>
    rw [List.mem_cons, not_or] at h
    have hc : c ≠ quoteMark := fun hc => h.1 hc.symm
    rw [ofChars, if_neg hc, ih (start + 1) h.2, ofText]

/-- A text with one character more has one glyph more. -/
theorem ofText_concat (text : List Char) (c : Char) :
    ofText quoted start (text ++ [c]) =
      ofText quoted start text ++ [⟨c, start + text.length, quoted⟩] := by
  induction text generalizing start with
  | nil => rfl
  | cons d rest ih => simp [ofText, ih, Nat.add_assoc, Nat.add_comm 1]

/-- The glyphs of a text stand for its characters. -/
theorem map_char_ofText (text : List Char) : (ofText quoted start text).map char = text := by
  induction text generalizing start with
  | nil => rfl
  | cons c rest ih => rw [ofText, List.map_cons, ih]

/-- A glyph of a text stands before the end of the text, and is quoted as the text is. -/
theorem of_mem_ofText {text : List Char} {g : Glyph} (h : g ∈ ofText quoted start text) :
    g.position < start + text.length ∧ g.quoted = quoted := by
  induction text generalizing start with
  | nil => exact absurd h List.not_mem_nil
  | cons c rest ih =>
    rw [List.length_cons]
    rcases List.mem_cons.mp h with rfl | hrest
    · exact ⟨Nat.lt_add_of_pos_right (Nat.succ_pos _), rfl⟩
    · obtain ⟨hposition, hquoted⟩ := ih (start + 1) hrest
      exact ⟨by omega, hquoted⟩

/-- A text that is quoted or repeats one character is one run of glyphs. -/
theorem splitBy_ofText {text : List Char} (hne : text ≠ [])
    (h : quoted = false → ∀ c ∈ text, ∀ d ∈ text, d = c) :
    (ofText quoted start text).splitBy joins = [ofText quoted start text] := by
  have hchain : (ofText quoted start text).IsChain fun a b => joins a b := by
    clear hne
    induction text generalizing start with
    | nil => exact .nil
    | cons c rest ih =>
      have hrest := ih (start + 1) fun hq d hd e he =>
        h hq d (List.mem_cons_of_mem _ hd) e (List.mem_cons_of_mem _ he)
      cases rest with
      | nil => exact .singleton _
      | cons d rest =>
        refine .cons_cons ?_ hrest
        cases quoted with
        | true => simp [joins]
        | false => simp [joins, h rfl c (by simp) d (by simp)]
  apply List.splitBy_of_isChain _ hchain
  obtain ⟨c, rest, rfl⟩ := List.exists_cons_of_ne_nil hne
  exact List.cons_ne_nil _ _

/-- The token of a text that is not empty. -/
theorem ofRun_ofText {text : List Char} (hne : text ≠ []) :
    Token.ofRun (ofText quoted start text) =
      ⟨text.all fun c => quoted || !isPatternLetter c, text, start⟩ := by
  have hliteral : (ofText quoted start text).all isText =
      text.all fun c => quoted || !isPatternLetter c := by
    clear hne
    induction text generalizing start with
    | nil => rfl
    | cons c rest ih => rw [ofText, List.all_cons, ih, List.all_cons, isText]
  rw [Token.ofRun, hliteral, map_char_ofText]
  obtain ⟨c, rest, rfl⟩ := List.exists_cons_of_ne_nil hne
  rfl

end Glyph

/-! ## Places -/

/-- A place of a pattern is quoted when an odd number of quotes stand before it. -/
def QuotedAt (chars : List Char) (i : Nat) : Prop :=
  (chars.take i).count quoteMark % 2 = 1

instance (chars : List Char) (i : Nat) : Decidable (QuotedAt chars i) :=
  inferInstanceAs (Decidable (_ = _))

/-- The places of a pattern that hold no quote. -/
def textPlaces (chars : List Char) : List Nat :=
  (List.range chars.length).filter fun i => chars[i]? ≠ some quoteMark

/-- The glyph at a place that holds no quote. -/
def glyphAt (chars : List Char) (i : Nat) : Glyph where
  char := chars[i]?.getD quoteMark
  position := i
  quoted := decide (QuotedAt chars i)

/-- The places without a quote are those that hold another character. -/
theorem mem_textPlaces {chars : List Char} {i : Nat} :
    i ∈ textPlaces chars ↔ ∃ c, chars[i]? = some c ∧ c ≠ quoteMark := by
  simp only [textPlaces, List.mem_filter, List.mem_range, decide_eq_true_eq]
  constructor
  · rintro ⟨hlt, hne⟩
    refine ⟨chars[i], List.getElem?_eq_getElem hlt, ?_⟩
    intro hq
    exact hne (by rw [List.getElem?_eq_getElem hlt, hq])
  · rintro ⟨c, hc, hne⟩
    refine ⟨(List.getElem?_eq_some_iff.mp hc).1, ?_⟩
    intro hq
    exact hne (Option.some.inj (hc.symm.trans hq))

/-- The places without a quote are listed from left to right. -/
theorem pairwise_textPlaces (chars : List Char) : (textPlaces chars).Pairwise (· < ·) :=
  List.Pairwise.filter _ List.pairwise_lt_range

/-- Past a character that is no quote the quotation is the same. -/
theorem quotedAt_succ {chars : List Char} {i : Nat} (h : i ∈ textPlaces chars) :
    QuotedAt chars (i + 1) ↔ QuotedAt chars i := by
  obtain ⟨c, hc, hne⟩ := mem_textPlaces.mp h
  unfold QuotedAt
  rw [List.take_add_one, hc, List.count_append]
  simp [hne]

/-- What a pattern goes on with does not change the glyphs of its beginning. -/
theorem glyphAt_append {xs : List Char} {i : Nat} (ys : List Char) (h : i < xs.length) :
    glyphAt (xs ++ ys) i = glyphAt xs i := by
  have hquoted : QuotedAt (xs ++ ys) i ↔ QuotedAt xs i := by
    unfold QuotedAt
    rw [List.take_append_of_le_length (Nat.le_of_lt h)]
  simp [glyphAt, List.getElem?_append_left h, hquoted]

/-- The places of a pattern with one character more. -/
theorem textPlaces_concat (xs : List Char) (c : Char) :
    textPlaces (xs ++ [c]) = textPlaces xs ++ if c = quoteMark then [] else [xs.length] := by
  have hleft : (List.range xs.length).filter (fun i => (xs ++ [c])[i]? ≠ some quoteMark) =
      textPlaces xs := by
    apply List.filter_congr
    intro i hi
    rw [List.getElem?_append_left (List.mem_range.mp hi)]
  rw [textPlaces, List.length_append, List.length_singleton, List.range_succ, List.filter_append,
    hleft]
  by_cases hc : c = quoteMark <;> simp [hc]

namespace Glyph

/-- **The glyphs of a pattern** are those at the places without a quote, in their order. -/
theorem ofChars_eq_map (chars : List Char) :
    ofChars false 0 chars = (textPlaces chars).map (glyphAt chars) := by
  induction chars using List.reverseRecOn with
  | nil => rfl
  | append_singleton xs c ih =>
    have hleft : (textPlaces xs).map (glyphAt (xs ++ [c])) = (textPlaces xs).map (glyphAt xs) := by
      apply List.map_congr_left
      intro i hi
      obtain ⟨d, hd, -⟩ := mem_textPlaces.mp hi
      exact glyphAt_append [c] (List.getElem?_eq_some_iff.mp hd).1
    rw [ofChars_append, ih, textPlaces_concat, List.map_append, hleft]
    by_cases hc : c = quoteMark
    · simp [ofChars, hc]
    · simp [ofChars, hc, glyphAt, QuotedAt]

/-- Joined glyphs stand on consecutive places. -/
theorem positions_eq_range' {run : List Glyph} (h : run.IsChain fun a b => joins a b) :
    run.map position = List.range' ((run.head?.map position).getD 0) run.length := by
  induction run with
  | nil => rfl
  | cons a rest ih =>
    rw [List.isChain_cons] at h
    obtain ⟨hhead, hrest⟩ := h
    cases rest with
    | nil => rfl
    | cons b rest =>
      have hjoin := hhead b rfl
      simp only [joins, Bool.and_eq_true, beq_iff_eq] at hjoin
      have htail := ih hrest
      simp only [List.head?_cons, Option.map_some, Option.getD_some, hjoin.1] at htail
      rw [List.map_cons, htail]
      simp [List.range'_succ]

end Glyph

end TemporalFormat
