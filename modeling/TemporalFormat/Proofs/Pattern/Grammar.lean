import Mathlib.Data.List.TakeWhile
import TemporalFormat.Proofs.Pattern.Runs
import TemporalFormat.Proofs.Pattern.Scan

/-!
# The grammar of patterns

`IsTokenization` says what the tokens of a pattern are without saying how to find them: which
places they stand on, what their texts are, which of them are literal, and that they are as long as
they can be. `tokenize_eq_iff` shows that the tokens which `tokenize` finds are the only ones of
this kind.

Both directions go through the glyphs on which a token stands. A list of tokens is the right one
when these runs of glyphs are the ones into which `List.splitBy` cuts the pattern.
-/

set_option autoImplicit false

namespace TemporalFormat

/-- The tokens of a list of characters. -/
structure IsTokenization (chars : List Char) (tokens : List Token) : Prop where
  /-- No token is empty. -/
  ne_nil : ∀ t ∈ tokens, t.chars ≠ []
  /-- No token contains a quote. -/
  quoteMark_notMem : ∀ t ∈ tokens, quoteMark ∉ t.chars
  /-- A token reads as the pattern does from its start. -/
  text_eq : ∀ t ∈ tokens, (chars.drop t.start).take t.chars.length = t.chars
  /-- Tokens stand one after the other and do not overlap. -/
  ordered : tokens.Pairwise fun s t => s.stop ≤ t.start
  /-- Tokens stand on the places that hold no quote, and on no others. -/
  covers_iff : ∀ i, (∃ t ∈ tokens, t.start ≤ i ∧ i < t.stop) ↔
    ∃ c, chars[i]? = some c ∧ c ≠ quoteMark
  /-- A token is quoted at all of its places or at none. -/
  quotedAt_iff : ∀ t ∈ tokens, ∀ i, t.start ≤ i → i < t.stop →
    (QuotedAt chars i ↔ QuotedAt chars t.start)
  /-- What stands between an opening quote and the next one, or the end, is one literal. -/
  quoted_mem : ∀ before content after, chars = before ++ quoteMark :: (content ++ after) →
    before.count quoteMark % 2 = 0 → content ≠ [] → quoteMark ∉ content →
    (∀ c ∈ after.head?, c = quoteMark) → ⟨true, content, before.length + 1⟩ ∈ tokens
  /-- Outside quotes a token repeats one character. -/
  eq_replicate : ∀ t ∈ tokens, ¬ QuotedAt chars t.start →
    ∃ c, t.chars = List.replicate t.chars.length c
  /-- Quoted tokens are literal. -/
  literal_of_quoted : ∀ t ∈ tokens, QuotedAt chars t.start → t.literal = true
  /-- Other tokens are literal unless they repeat a letter. -/
  literal_iff : ∀ t ∈ tokens, ¬ QuotedAt chars t.start →
    ∀ c ∈ t.chars, (t.literal = false ↔ IsAsciiLetter c)
  /-- Neighbours with no quote between them have different characters. -/
  maximal : tokens.IsChain fun s t => ¬ QuotedAt chars s.start → ¬ QuotedAt chars t.start →
    (∀ i, s.stop ≤ i → i < t.start → chars[i]? ≠ some quoteMark) →
    ∀ c ∈ s.chars, ∀ d ∈ t.chars, c ≠ d

/-- The tokens of a list of characters obey the grammar. -/
theorem isTokenization_tokensOf (chars : List Char) : IsTokenization chars (tokensOf chars) where
  ne_nil _ ht := chars_ne_nil ht
  quoteMark_notMem t ht hq := by
    obtain ⟨i, hstart, hstop, hchar⟩ := exists_place ht hq
    obtain ⟨c, hc, hne⟩ := mem_textPlaces.mp (mem_textPlaces_of_mem ht hstart hstop)
    rw [glyphAt, hc] at hchar
    exact hne hchar
  text_eq _ ht := take_drop_start ht
  ordered := pairwise_tokensOf chars
  covers_iff i := by
    rw [← mem_textPlaces, ← flatMap_places_tokensOf, List.mem_flatMap]
    simp only [Token.mem_places]
  quotedAt_iff _ ht _ hstart hstop := quotedAt_iff_start ht hstart hstop
  quoted_mem := by
    rintro before content after rfl heven hne hquote hafter
    exact quoted_mem_tokensOf before heven hne hquote hafter
  eq_replicate _ ht hq := ⟨_, chars_eq_replicate ht hq⟩
  literal_of_quoted _ ht hq := literal_of_quotedAt ht hq
  literal_iff _ ht hq _ hc := literal_eq_false_iff ht hq hc
  maximal := isChain_tokensOf chars

/-! ## No other tokens -/

/-- A quoted place that holds no quote stands between an opening quote and the next quote or the
end. -/
theorem exists_quoted_text {chars : List Char} {i : Nat} (hq : QuotedAt chars i)
    (hi : i ∈ textPlaces chars) :
    ∃ before content after, chars = before ++ quoteMark :: (content ++ after) ∧
      before.count quoteMark % 2 = 0 ∧ quoteMark ∉ content ∧
      (∀ c ∈ after.head?, c = quoteMark) ∧
      before.length + 1 ≤ i ∧ i < before.length + 1 + content.length := by
  have hmem : quoteMark ∈ (chars.take i).reverse := by
    rw [List.mem_reverse, ← List.count_pos_iff]
    unfold QuotedAt at hq
    omega
  obtain ⟨as, bs, hsplit, has⟩ := List.eq_append_cons_of_mem hmem
  have htake : chars.take i = bs.reverse ++ quoteMark :: as.reverse := by
    rw [← List.reverse_reverse (chars.take i), hsplit]
    simp
  obtain ⟨c, hc, hne⟩ := mem_textPlaces.mp hi
  obtain ⟨hlt, hget⟩ := List.getElem?_eq_some_iff.mp hc
  have hlen : bs.length + 1 + as.length = i := by
    have := congrArg List.length htake
    simp only [List.length_take, List.length_append, List.length_reverse, List.length_cons] at this
    omega
  have hdrop : chars.drop i = c :: chars.drop (i + 1) := by
    rw [List.drop_eq_getElem_cons hlt, hget]
  refine ⟨bs.reverse, as.reverse ++ (chars.drop i).takeWhile (· != quoteMark),
    (chars.drop i).dropWhile (· != quoteMark), ?_, ?_, ?_, ?_, ?_, ?_⟩
  · rw [List.append_assoc, List.takeWhile_append_dropWhile]
    calc
      chars = chars.take i ++ chars.drop i := (List.take_append_drop i chars).symm
      _ = bs.reverse ++ quoteMark :: (as.reverse ++ chars.drop i) := by rw [htake]; simp
  · have hcount : as.reverse.count quoteMark = 0 := by
      rw [List.count_reverse]
      exact List.count_eq_zero.mpr has
    unfold QuotedAt at hq
    rw [htake, List.count_append, List.count_cons_self, hcount] at hq
    omega
  · rw [List.mem_append, List.mem_reverse, not_or]
    refine ⟨has, ?_⟩
    intro hmem
    simpa using List.mem_takeWhile_imp hmem
  · intro d hd
    have hhead := List.head?_dropWhile_not (· != quoteMark) (chars.drop i)
    rw [Option.mem_def.mp hd] at hhead
    simpa using hhead
  · rw [List.length_reverse]
    omega
  · rw [hdrop, List.takeWhile_cons]
    simp only [bne_iff_ne, ne_eq, hne, not_false_eq_true, if_true, List.length_append,
      List.length_reverse, List.length_cons]
    omega

namespace IsTokenization

variable {chars : List Char} {tokens : List Token}

/-- A token starts before it stops. -/
theorem start_lt_stop (h : IsTokenization chars tokens) {t : Token} (ht : t ∈ tokens) :
    t.start < t.stop := by
  have := List.length_pos_of_ne_nil (h.ne_nil t ht)
  unfold Token.stop
  omega

/-- A place of a token holds no quote. -/
theorem mem_textPlaces (h : IsTokenization chars tokens) {t : Token} (ht : t ∈ tokens) {i : Nat}
    (hstart : t.start ≤ i) (hstop : i < t.stop) : i ∈ textPlaces chars :=
  TemporalFormat.mem_textPlaces.mpr ((h.covers_iff i).mp ⟨t, ht, hstart, hstop⟩)

/-- The places of the tokens are the places without a quote, in their order. -/
theorem flatMap_places (h : IsTokenization chars tokens) :
    tokens.flatMap Token.places = textPlaces chars := by
  have hpairwise : (tokens.flatMap Token.places).Pairwise (· < ·) := by
    rw [List.pairwise_flatMap]
    refine ⟨fun t _ => List.pairwise_lt_range', h.ordered.imp ?_⟩
    intro s t hst i hi j hj
    have := (Token.mem_places.mp hi).2
    have := (Token.mem_places.mp hj).1
    omega
  apply hpairwise.eq_of_mem_iff (pairwise_textPlaces chars)
  intro i
  rw [TemporalFormat.mem_textPlaces, ← h.covers_iff i, List.mem_flatMap]
  simp only [Token.mem_places]

/-- The glyphs of the tokens are those of the pattern. -/
theorem flatten_glyphs (h : IsTokenization chars tokens) :
    (tokens.map (Token.glyphs chars)).flatten = Glyph.ofChars false 0 chars := by
  have hmap : tokens.map (Token.glyphs chars) =
      (tokens.map Token.places).map (List.map (glyphAt chars)) := by
    rw [List.map_map]
    rfl
  rw [hmap, ← List.map_flatten, ← List.flatMap, h.flatMap_places, Glyph.ofChars_eq_map]

/-- The characters of a token are those of its glyphs. -/
theorem map_char_glyphs (h : IsTokenization chars tokens) {t : Token} (ht : t ∈ tokens) :
    (t.glyphs chars).map Glyph.char = t.chars := by
  have hlt := h.start_lt_stop ht
  obtain ⟨c, hc, -⟩ := TemporalFormat.mem_textPlaces.mp
    (h.mem_textPlaces ht (i := t.stop - 1) (by omega) (by omega))
  have hlen := (List.getElem?_eq_some_iff.mp hc).1
  conv_rhs => rw [← h.text_eq t ht]
  unfold Token.stop at hlt hlen
  rw [← map_getD_range' quoteMark (by omega), Token.glyphs, List.map_map]
  rfl

/-- The glyph at a place of a token has a character of the token. -/
theorem char_mem (h : IsTokenization chars tokens) {t : Token} (ht : t ∈ tokens) {i : Nat}
    (hstart : t.start ≤ i) (hstop : i < t.stop) : (glyphAt chars i).char ∈ t.chars := by
  rw [← h.map_char_glyphs ht]
  exact List.mem_map_of_mem (List.mem_map_of_mem (Token.mem_places.mpr ⟨hstart, hstop⟩))

/-- Outside quotes the characters of a token are all the same. -/
theorem char_eq (h : IsTokenization chars tokens) {t : Token} (ht : t ∈ tokens)
    (hq : ¬ QuotedAt chars t.start) {c d : Char} (hc : c ∈ t.chars) (hd : d ∈ t.chars) :
    c = d := by
  obtain ⟨e, he⟩ := h.eq_replicate t ht hq
  rw [he] at hc hd
  rw [List.eq_of_mem_replicate hc, List.eq_of_mem_replicate hd]

/-- No place belongs to two tokens. -/
theorem eq_of_mem_places (h : IsTokenization chars tokens) {s t : Token} (hs : s ∈ tokens)
    (ht : t ∈ tokens) {i : Nat} (hsi : s.start ≤ i) (hsi' : i < s.stop) (hti : t.start ≤ i)
    (hti' : i < t.stop) : s = t := by
  obtain ⟨m, hm, rfl⟩ := List.mem_iff_getElem.mp hs
  obtain ⟨n, hn, rfl⟩ := List.mem_iff_getElem.mp ht
  have hordered := List.pairwise_iff_getElem.mp h.ordered
  rcases Nat.lt_trichotomy m n with hlt | rfl | hgt
  · have := hordered m n hm hn hlt
    omega
  · rfl
  · have := hordered n m hn hm hgt
    omega

/-- The glyphs of a token join. -/
theorem isChain_glyphs (h : IsTokenization chars tokens) {t : Token} (ht : t ∈ tokens) :
    (t.glyphs chars).IsChain fun a b => Glyph.joins a b := by
  rw [Token.glyphs, List.isChain_map, List.isChain_iff_getElem]
  intro k hk
  simp only [Token.places, List.length_range'] at hk
  have hfirst : t.start + k ∈ t.places := Token.mem_places.mpr (by unfold Token.stop; omega)
  have hsecond : t.start + k + 1 ∈ t.places := Token.mem_places.mpr (by unfold Token.stop; omega)
  rw [Token.mem_places] at hfirst hsecond
  have hjoin : Glyph.joins (glyphAt chars (t.start + k)) (glyphAt chars (t.start + k + 1)) =
      true := by
    by_cases hq : QuotedAt chars t.start
    · have hquoted := (h.quotedAt_iff t ht _ hfirst.1 hfirst.2).mpr hq
      simp [Glyph.joins, glyphAt, hquoted]
    · have hchar := h.char_eq ht hq (h.char_mem ht hsecond.1 hsecond.2)
        (h.char_mem ht hfirst.1 hfirst.2)
      rw [Glyph.joins, hchar]
      simp [glyphAt]
  simpa [Token.places, Nat.add_assoc] using hjoin

/-- Two quoted tokens do not touch. -/
theorem stop_ne_start_of_quotedAt (h : IsTokenization chars tokens) {s t : Token}
    (hs : s ∈ tokens) (ht : t ∈ tokens) (hq : QuotedAt chars s.start) : s.stop ≠ t.start := by
  intro htouch
  have hlt := h.start_lt_stop hs
  have hlt' := h.start_lt_stop ht
  obtain ⟨before, content, after, hsplit, heven, hquote, hafter, hle, hlt''⟩ :=
    exists_quoted_text hq (h.mem_textPlaces hs le_rfl hlt)
  -- the text in quotes ends at a quote or with the pattern, so it goes on past the start of `t`
  have hend : before.length + 1 + content.length ∉ textPlaces chars := by
    rw [TemporalFormat.mem_textPlaces]
    rintro ⟨c, hc, hne⟩
    have hget : chars[before.length + 1 + content.length]? = after.head? := by
      rw [hsplit, List.getElem?_append_right (by omega)]
      have hindex : before.length + 1 + content.length - before.length = content.length + 1 := by
        omega
      rw [hindex, List.getElem?_cons_succ, List.getElem?_append_right le_rfl, Nat.sub_self,
        List.head?_eq_getElem?]
    rw [hget] at hc
    exact hne (hafter c hc)
  have hpast : t.start < before.length + 1 + content.length := by
    by_contra hnot
    apply hend
    rcases Nat.lt_or_ge (before.length + 1 + content.length) s.stop with hin | hout
    · exact h.mem_textPlaces hs (by omega) hin
    · have hstart : before.length + 1 + content.length = t.start := by omega
      rw [hstart]
      exact h.mem_textPlaces ht le_rfl hlt'
  have hmem := h.quoted_mem before content after hsplit heven
    (by rintro rfl; simp only [List.length_nil] at hlt''; omega) hquote hafter
  have hs' := h.eq_of_mem_places hs hmem (i := s.start) le_rfl hlt hle hlt''
  have ht' := h.eq_of_mem_places ht hmem (i := t.start) le_rfl hlt' (by simp only; omega) hpast
  have : s.start = t.start := by rw [hs', ht']
  omega

/-- The last glyph of a token and the first one of the next token do not join. -/
theorem isChain_not_joins (h : IsTokenization chars tokens) :
    (tokens.map (Token.glyphs chars)).IsChain fun a b =>
      ∃ ha hb, Glyph.joins (a.getLast ha) (b.head hb) = false := by
  have hne : ∀ t ∈ tokens, t.glyphs chars ≠ [] := by
    intro t ht
    simpa [Token.glyphs, Token.places] using h.ne_nil t ht
  rw [List.isChain_map, List.isChain_iff_getElem]
  intro n hn
  have hs : tokens[n] ∈ tokens := List.getElem_mem _
  have ht : tokens[n + 1] ∈ tokens := List.getElem_mem _
  have hlt := h.start_lt_stop hs
  have hlt' := h.start_lt_stop ht
  refine ⟨hne _ hs, hne _ ht, ?_⟩
  rw [getLast_glyphs, head_glyphs]
  by_contra hjoin
  simp only [Glyph.joins, Bool.not_eq_false, Bool.and_eq_true, Bool.or_eq_true, beq_iff_eq] at hjoin
  obtain ⟨hposition, hsame⟩ := hjoin
  have htouch : tokens[n].stop = tokens[n + 1].start := by
    have : tokens[n + 1].start = tokens[n].stop - 1 + 1 := hposition
    omega
  by_cases hq : QuotedAt chars tokens[n].start
  · exact h.stop_ne_start_of_quotedAt hs ht hq htouch
  · have hlast : ¬ QuotedAt chars (tokens[n].stop - 1) := by
      rw [h.quotedAt_iff _ hs _ (by omega) (by omega)]
      exact hq
    have hq' : ¬ QuotedAt chars tokens[n + 1].start := by
      have hsucc : tokens[n + 1].start = tokens[n].stop - 1 + 1 := by omega
      rw [hsucc, quotedAt_succ (h.mem_textPlaces hs (by omega) (by omega))]
      exact hlast
    rcases hsame with hquoted | hchar
    · exact hlast (of_decide_eq_true hquoted)
    · have hchain := List.isChain_iff_getElem.mp h.maximal n hn
      exact hchain hq hq' (fun i hi hi' => by omega) _ (h.char_mem hs (by omega) (by omega)) _
        (h.char_mem ht le_rfl hlt') hchar.symm

/-- A token is told by the glyphs on which it stands. -/
theorem ofRun_glyphs (h : IsTokenization chars tokens) {t : Token} (ht : t ∈ tokens) :
    Token.ofRun (t.glyphs chars) = t := by
  have hlt := h.start_lt_stop ht
  have hmem := h.char_mem ht le_rfl hlt
  have hliteral : (t.glyphs chars).all Glyph.isText = t.literal := by
    by_cases hq : QuotedAt chars t.start
    · rw [h.literal_of_quoted t ht hq]
      apply all_isText_of_quotedAt
      intro i hi
      rw [Token.mem_places] at hi
      exact (h.quotedAt_iff t ht i hi.1 hi.2).mpr hq
    · have hletter := h.literal_iff t ht hq _ hmem
      rw [← isPatternLetter_iff] at hletter
      rw [all_isText_of_not_quotedAt (h.ne_nil t ht) (c := (glyphAt chars t.start).char)]
      · cases hl : t.literal <;> simp_all
      · intro i hi
        rw [Token.mem_places] at hi
        rw [h.quotedAt_iff t ht i hi.1 hi.2]
        exact hq
      · intro i hi
        rw [Token.mem_places] at hi
        exact h.char_eq ht hq (h.char_mem ht hi.1 hi.2) hmem
  have hhead : ((t.glyphs chars).head?.map Glyph.position).getD 0 = t.start := by
    have hpos : t.chars.length ≠ 0 := by
      unfold Token.stop at hlt
      omega
    obtain ⟨n, hn⟩ := Nat.exists_eq_succ_of_ne_zero hpos
    simp [Token.glyphs, Token.places, hn, List.range'_succ, glyphAt]
  rw [Token.ofRun, hliteral, h.map_char_glyphs ht, hhead]

end IsTokenization

/-- **Tokens are what the grammar says.** The tokens of a pattern obey the grammar of patterns, and
no other list of tokens does. -/
theorem tokenize_eq_iff (pattern : String) (tokens : List Token) :
    tokenize pattern = tokens ↔ IsTokenization pattern.toList tokens := by
  rw [tokenize_eq_tokensOf]
  constructor
  · rintro rfl
    exact isTokenization_tokensOf pattern.toList
  · intro h
    have hsplit : (Glyph.ofChars false 0 pattern.toList).splitBy Glyph.joins =
        tokens.map (Token.glyphs pattern.toList) := by
      rw [List.splitBy_eq_iff]
      refine ⟨h.flatten_glyphs.symm, ?_, ?_, h.isChain_not_joins⟩
      · intro hnil
        obtain ⟨t, ht, hempty⟩ := List.mem_map.mp hnil
        exact h.ne_nil t ht (by simpa [Token.glyphs, Token.places] using hempty)
      · intro run hrun
        obtain ⟨t, ht, rfl⟩ := List.mem_map.mp hrun
        exact h.isChain_glyphs ht
    rw [tokensOf, hsplit, List.map_map]
    exact (List.map_congr_left fun t ht => h.ofRun_glyphs ht).trans (List.map_id tokens)

/-- A quoted text starts after its quote, and the two runs of one letter stay apart. -/
example : tokenize "dd''d'de'" =
    [⟨false, "dd".toList, 0⟩, ⟨false, "d".toList, 4⟩, ⟨true, "de".toList, 6⟩] := by decide

end TemporalFormat
