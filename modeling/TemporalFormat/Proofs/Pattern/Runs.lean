import TemporalFormat.Proofs.Pattern.Glyphs

/-!
# The tokens that are found

Facts about the tokens of a pattern, each read off the run of glyphs that the token comes from. The
runs are those of `List.splitBy`, so `map_glyphs_tokensOf` carries what is known of splitting over
to tokens.
-/

set_option autoImplicit false

namespace TemporalFormat

/-- The letters of the ASCII alphabet, capital and small. -/
def IsAsciiLetter (c : Char) : Prop :=
  'A' ≤ c ∧ c ≤ 'Z' ∨ 'a' ≤ c ∧ c ≤ 'z'

/-- The reserved letters are the ASCII letters. -/
theorem isPatternLetter_iff (c : Char) : isPatternLetter c = true ↔ IsAsciiLetter c := by
  change (decide ('A' ≤ c ∧ c ≤ 'Z') || (decide ('a' ≤ c) && decide (c ≤ 'z'))) = true ↔ _
  rw [Bool.or_eq_true, Bool.and_eq_true, decide_eq_true_eq, decide_eq_true_eq,
    decide_eq_true_eq, IsAsciiLetter]

/-! ## Where a token stands -/

namespace Token

/-- The place after the last character of a token. -/
def stop (t : Token) : Nat :=
  t.start + t.chars.length

/-- The places on which a token stands. -/
def places (t : Token) : List Nat :=
  List.range' t.start t.chars.length

/-- The glyphs on which a token stands in a pattern. -/
def glyphs (chars : List Char) (t : Token) : List Glyph :=
  t.places.map (glyphAt chars)

/-- A token stands on the places from its start to before its stop. -/
theorem mem_places {t : Token} {i : Nat} : i ∈ t.places ↔ t.start ≤ i ∧ i < t.stop := by
  rw [places, List.mem_range'_1, stop]

end Token

/-- The first glyph of a token. -/
theorem head_glyphs (chars : List Char) {t : Token} (h : t.glyphs chars ≠ []) :
    (t.glyphs chars).head h = glyphAt chars t.start := by
  simp [Token.glyphs, Token.places, List.head_eq_getElem]

/-- The last glyph of a token. -/
theorem getLast_glyphs (chars : List Char) {t : Token} (h : t.glyphs chars ≠ []) :
    (t.glyphs chars).getLast h = glyphAt chars (t.stop - 1) := by
  have hpos : 0 < t.chars.length := by
    simpa [Token.glyphs, Token.places, List.length_pos_iff] using h
  have hplace : t.start + (t.chars.length - 1) = t.stop - 1 := by
    unfold Token.stop
    omega
  simp [Token.glyphs, Token.places, List.getLast_eq_getElem, hplace]

/-- The glyphs of a quoted token stand for themselves. -/
theorem all_isText_of_quotedAt {chars : List Char} {t : Token}
    (hq : ∀ i ∈ t.places, QuotedAt chars i) : (t.glyphs chars).all Glyph.isText = true := by
  rw [List.all_eq_true]
  intro g hg
  obtain ⟨i, hi, rfl⟩ := List.mem_map.mp hg
  simp [Glyph.isText, glyphAt, hq i hi]

/-- Outside quotes the glyphs of a token that repeats one character stand for themselves when the
character is no reserved letter. -/
theorem all_isText_of_not_quotedAt {chars : List Char} {t : Token} {c : Char}
    (hne : t.chars ≠ []) (hq : ∀ i ∈ t.places, ¬ QuotedAt chars i)
    (hc : ∀ i ∈ t.places, (glyphAt chars i).char = c) :
    (t.glyphs chars).all Glyph.isText = !isPatternLetter c := by
  have htext : ∀ i ∈ t.places, Glyph.isText (glyphAt chars i) = !isPatternLetter c := by
    intro i hi
    have hquoted : (glyphAt chars i).quoted = false := decide_eq_false (hq i hi)
    rw [Glyph.isText, hquoted, Bool.false_or, hc i hi]
  have hstart : t.start ∈ t.places := by
    have := List.length_pos_of_ne_nil hne
    exact Token.mem_places.mpr ⟨le_rfl, by unfold Token.stop; omega⟩
  cases hletter : isPatternLetter c with
  | false =>
    rw [Bool.not_false, Token.glyphs, List.all_map, List.all_eq_true]
    intro i hi
    simp [htext i hi, hletter]
  | true =>
    rw [Bool.not_true, Token.glyphs, List.all_map, List.all_eq_false]
    exact ⟨t.start, hstart, by simp [htext t.start hstart, hletter]⟩

/-! ## Reading a token off its run -/

/-- The characters at consecutive places of a pattern. -/
theorem map_getD_range' {chars : List Char} {start n : Nat} (d : Char)
    (h : start + n ≤ chars.length) :
    (List.range' start n).map (fun i => chars[i]?.getD d) = (chars.drop start).take n := by
  apply List.ext_getElem
  · simp only [List.length_map, List.length_range', List.length_take, List.length_drop]
    omega
  · intro i hi _
    simp only [List.length_map, List.length_range'] at hi
    have hlt : start + i < chars.length := by omega
    simp [List.getElem?_eq_getElem hlt]

/-- Along places without a quote the quotation does not change. -/
theorem quotedAt_iff_of_textPlaces {chars : List Char} {a b : Nat}
    (h : ∀ k, a ≤ k → k < b → k ∈ textPlaces chars) {i : Nat} (hai : a ≤ i) (hib : i < b) :
    QuotedAt chars i ↔ QuotedAt chars a := by
  induction i, hai using Nat.le_induction with
  | base => exact Iff.rfl
  | succ i hai ih =>
    rw [quotedAt_succ (h i hai (by omega)), ih (by omega)]

/-! ## The tokens that are found -/

section Found

variable {chars : List Char}

/-- A run of glyphs is the glyphs at the places of its token. -/
theorem eq_glyphs_ofRun {run : List Glyph}
    (h : run ∈ (Glyph.ofChars false 0 chars).splitBy Glyph.joins) :
    (Token.ofRun run).glyphs chars = run := by
  have hplaces : (Token.ofRun run).places = run.map Glyph.position := by
    rw [Glyph.positions_eq_range' (List.isChain_of_mem_splitBy h)]
    simp [Token.places, Token.ofRun]
  have hglyph : ∀ g ∈ run, glyphAt chars g.position = g := by
    intro g hg
    have hmem : g ∈ Glyph.ofChars false 0 chars := by
      rw [← List.flatten_splitBy Glyph.joins (Glyph.ofChars false 0 chars)]
      exact List.mem_flatten.mpr ⟨run, h, hg⟩
    rw [Glyph.ofChars_eq_map, List.mem_map] at hmem
    obtain ⟨i, -, rfl⟩ := hmem
    rfl
  rw [Token.glyphs, hplaces, List.map_map]
  exact (List.map_congr_left hglyph).trans (List.map_id run)

/-- The glyphs of the tokens are the runs into which the pattern is cut. -/
theorem map_glyphs_tokensOf (chars : List Char) :
    (tokensOf chars).map (Token.glyphs chars) =
      (Glyph.ofChars false 0 chars).splitBy Glyph.joins := by
  rw [tokensOf, List.map_map]
  exact (List.map_congr_left fun run hrun => eq_glyphs_ofRun hrun).trans (List.map_id _)

/-- The places of the tokens, one after the other, are the places without a quote. -/
theorem flatMap_places_tokensOf (chars : List Char) :
    (tokensOf chars).flatMap Token.places = textPlaces chars := by
  have hposition : ∀ places : List Nat,
      (places.map (glyphAt chars)).map Glyph.position = places := by
    intro places
    rw [List.map_map]
    exact List.map_id places
  have hflat := congrArg List.flatten (map_glyphs_tokensOf chars)
  rw [List.flatten_splitBy, Glyph.ofChars_eq_map] at hflat
  have hmap := congrArg (List.map Glyph.position) hflat
  rw [hposition, List.map_flatten, List.map_map] at hmap
  rw [← hmap, List.flatMap]
  congr 1
  apply List.map_congr_left
  intro t _
  exact (hposition t.places).symm

/-- A place of a token holds no quote. -/
theorem mem_textPlaces_of_mem {t : Token} (ht : t ∈ tokensOf chars) {i : Nat}
    (hstart : t.start ≤ i) (hstop : i < t.stop) : i ∈ textPlaces chars := by
  rw [← flatMap_places_tokensOf]
  exact List.mem_flatMap.mpr ⟨t, ht, Token.mem_places.mpr ⟨hstart, hstop⟩⟩

/-- A token has a run of glyphs that it is made of. -/
theorem exists_run {t : Token} (ht : t ∈ tokensOf chars) :
    ∃ run ∈ (Glyph.ofChars false 0 chars).splitBy Glyph.joins,
      Token.ofRun run = t ∧ t.glyphs chars = run := by
  obtain ⟨run, hrun, rfl⟩ := List.mem_map.mp ht
  exact ⟨run, hrun, rfl, eq_glyphs_ofRun hrun⟩

/-- The characters of a token are those of its glyphs. -/
theorem map_char_glyphs {t : Token} (ht : t ∈ tokensOf chars) :
    (t.glyphs chars).map Glyph.char = t.chars := by
  obtain ⟨run, -, rfl, hglyphs⟩ := exists_run ht
  rw [hglyphs]
  rfl

/-- No token is empty. -/
theorem chars_ne_nil {t : Token} (ht : t ∈ tokensOf chars) : t.chars ≠ [] := by
  obtain ⟨run, hrun, rfl, -⟩ := exists_run ht
  have hne := List.ne_nil_of_mem_splitBy hrun
  simpa [Token.ofRun] using hne

/-- A token starts before it stops. -/
theorem start_lt_stop {t : Token} (ht : t ∈ tokensOf chars) : t.start < t.stop := by
  have hpos := List.length_pos_of_ne_nil (chars_ne_nil ht)
  unfold Token.stop
  omega

/-- A token ends within the pattern. -/
theorem stop_le_length {t : Token} (ht : t ∈ tokensOf chars) : t.stop ≤ chars.length := by
  have hlt := start_lt_stop ht
  obtain ⟨c, hc, -⟩ :=
    mem_textPlaces.mp (mem_textPlaces_of_mem ht (i := t.stop - 1) (by omega) (by omega))
  have := (List.getElem?_eq_some_iff.mp hc).1
  omega

/-- A token reads as the pattern does from its start. -/
theorem take_drop_start {t : Token} (ht : t ∈ tokensOf chars) :
    (chars.drop t.start).take t.chars.length = t.chars := by
  conv_rhs => rw [← map_char_glyphs ht]
  rw [← map_getD_range' quoteMark (stop_le_length ht), Token.glyphs, List.map_map]
  rfl

/-- A character of a token stands at one of its places. -/
theorem exists_place {t : Token} (ht : t ∈ tokensOf chars) {c : Char} (hc : c ∈ t.chars) :
    ∃ i, t.start ≤ i ∧ i < t.stop ∧ (glyphAt chars i).char = c := by
  rw [← map_char_glyphs ht, Token.glyphs, List.map_map, List.mem_map] at hc
  obtain ⟨i, hi, rfl⟩ := hc
  exact ⟨i, (Token.mem_places.mp hi).1, (Token.mem_places.mp hi).2, rfl⟩

/-- The glyphs at two consecutive places of a token join. -/
theorem joins_succ {t : Token} (ht : t ∈ tokensOf chars) {i : Nat} (hstart : t.start ≤ i)
    (hstop : i + 1 < t.stop) :
    Glyph.joins (glyphAt chars i) (glyphAt chars (i + 1)) = true := by
  obtain ⟨run, hrun, -, hglyphs⟩ := exists_run ht
  have hchain := List.isChain_of_mem_splitBy hrun
  rw [← hglyphs, List.isChain_iff_getElem] at hchain
  have hlen : (t.glyphs chars).length = t.chars.length := by
    simp [Token.glyphs, Token.places]
  unfold Token.stop at hstop
  have hstep := hchain (i - t.start) (by omega)
  have hi : t.start + (i - t.start) = i := by omega
  have hi' : t.start + (i - t.start + 1) = i + 1 := by omega
  simpa [Token.glyphs, Token.places, hi, hi'] using hstep

/-- A token is quoted at all of its places or at none. -/
theorem quotedAt_iff_start {t : Token} (ht : t ∈ tokensOf chars) {i : Nat}
    (hstart : t.start ≤ i) (hstop : i < t.stop) :
    QuotedAt chars i ↔ QuotedAt chars t.start :=
  quotedAt_iff_of_textPlaces (fun _ hk hk' => mem_textPlaces_of_mem ht hk hk') hstart hstop

/-- Outside quotes the places of a token all hold the same character. -/
theorem char_eq_start {t : Token} (ht : t ∈ tokensOf chars) (hq : ¬ QuotedAt chars t.start)
    {i : Nat} (hstart : t.start ≤ i) (hstop : i < t.stop) :
    (glyphAt chars i).char = (glyphAt chars t.start).char := by
  induction i, hstart using Nat.le_induction with
  | base => rfl
  | succ i hi ih =>
    have hjoin := joins_succ ht hi hstop
    have hplain : ¬ QuotedAt chars i := by
      rw [quotedAt_iff_start ht hi (by omega)]
      exact hq
    have hquoted : (glyphAt chars i).quoted = false := decide_eq_false hplain
    simp only [Glyph.joins, hquoted, Bool.false_or, Bool.and_eq_true, beq_iff_eq] at hjoin
    rw [hjoin.2, ih (by omega)]

/-- Outside quotes a token repeats one character. -/
theorem chars_eq_replicate {t : Token} (ht : t ∈ tokensOf chars)
    (hq : ¬ QuotedAt chars t.start) :
    t.chars = List.replicate t.chars.length (glyphAt chars t.start).char := by
  rw [List.eq_replicate_iff]
  refine ⟨rfl, ?_⟩
  intro c hc
  obtain ⟨i, hstart, hstop, rfl⟩ := exists_place ht hc
  exact char_eq_start ht hq hstart hstop

/-- A token is literal when all of its glyphs stand for themselves. -/
theorem literal_eq_all {t : Token} (ht : t ∈ tokensOf chars) :
    t.literal = (t.glyphs chars).all Glyph.isText := by
  obtain ⟨run, -, rfl, hglyphs⟩ := exists_run ht
  rw [hglyphs]
  rfl

/-- Quoted tokens are literal. -/
theorem literal_of_quotedAt {t : Token} (ht : t ∈ tokensOf chars)
    (hq : QuotedAt chars t.start) : t.literal = true := by
  rw [literal_eq_all ht]
  apply all_isText_of_quotedAt
  intro i hi
  rw [Token.mem_places] at hi
  exact (quotedAt_iff_start ht hi.1 hi.2).mpr hq

/-- Outside quotes a token is a directive when it repeats a letter, and literal otherwise. -/
theorem literal_eq_false_iff {t : Token} (ht : t ∈ tokensOf chars)
    (hq : ¬ QuotedAt chars t.start) {c : Char} (hc : c ∈ t.chars) :
    t.literal = false ↔ IsAsciiLetter c := by
  have htext : (t.glyphs chars).all Glyph.isText = !isPatternLetter c := by
    apply all_isText_of_not_quotedAt (chars_ne_nil ht)
    · intro i hi
      rw [Token.mem_places] at hi
      rw [quotedAt_iff_start ht hi.1 hi.2]
      exact hq
    · intro i hi
      rw [Token.mem_places] at hi
      obtain ⟨j, hj, hj', rfl⟩ := exists_place ht hc
      rw [char_eq_start ht hq hi.1 hi.2, char_eq_start ht hq hj hj']
  rw [← isPatternLetter_iff, literal_eq_all ht, htext, Bool.not_eq_false']

/-- Tokens stand one after the other. -/
theorem pairwise_tokensOf (chars : List Char) :
    (tokensOf chars).Pairwise fun s t => s.stop ≤ t.start := by
  have hplaces := pairwise_textPlaces chars
  rw [← flatMap_places_tokensOf, List.pairwise_flatMap] at hplaces
  refine hplaces.2.imp_of_mem ?_
  intro s t hs ht hst
  have hs' := start_lt_stop hs
  have hlast := hst (s.stop - 1) (Token.mem_places.mpr ⟨by omega, by omega⟩) t.start
    (Token.mem_places.mpr ⟨le_rfl, start_lt_stop ht⟩)
  omega

end Found

/-- A place before the stop of a token and not before the start of the next one is not covered when
tokens stand one after the other. -/
theorem not_covered_between {tokens : List Token}
    (h : tokens.Pairwise fun s t => s.stop ≤ t.start) (hlt : ∀ t ∈ tokens, t.start < t.stop)
    {n : Nat} (hn : n + 1 < tokens.length) {i : Nat} (hi : tokens[n].stop ≤ i)
    (hi' : i < tokens[n + 1].start) {t : Token} (ht : t ∈ tokens) :
    ¬ (t.start ≤ i ∧ i < t.stop) := by
  rintro ⟨hstart, hstop⟩
  obtain ⟨m, hm, rfl⟩ := List.mem_iff_getElem.mp ht
  rw [List.pairwise_iff_getElem] at h
  have hstep := hlt tokens[n] (List.getElem_mem _)
  have hstep' := hlt tokens[n + 1] (List.getElem_mem _)
  rcases Nat.lt_trichotomy m n with hlt' | rfl | hgt
  · have := h m n hm (by omega) hlt'
    omega
  · omega
  · rcases Nat.lt_or_ge (n + 1) m with hmn | hmn
    · have := h (n + 1) m hn hm hmn
      omega
    · obtain rfl : m = n + 1 := by omega
      omega

/-- The last glyph of a token and the first one of the next token do not join. -/
theorem not_joins_neighbour {chars : List Char} {n : Nat}
    (hn : n + 1 < (tokensOf chars).length) :
    Glyph.joins (glyphAt chars ((tokensOf chars)[n].stop - 1))
      (glyphAt chars (tokensOf chars)[n + 1].start) = false := by
  have hchain := List.isChain_getLast_head_splitBy Glyph.joins (Glyph.ofChars false 0 chars)
  rw [← map_glyphs_tokensOf, List.isChain_map, List.isChain_iff_getElem] at hchain
  obtain ⟨hlast, hhead, hjoin⟩ := hchain n hn
  rw [getLast_glyphs, head_glyphs] at hjoin
  exact hjoin

/-- Neighbours with no quote between them touch. -/
theorem stop_eq_start_of_no_quote {chars : List Char} {n : Nat}
    (hn : n + 1 < (tokensOf chars).length)
    (hgap : ∀ i, (tokensOf chars)[n].stop ≤ i → i < (tokensOf chars)[n + 1].start →
      chars[i]? ≠ some quoteMark) :
    (tokensOf chars)[n].stop = (tokensOf chars)[n + 1].start := by
  have hmem' : (tokensOf chars)[n + 1] ∈ tokensOf chars := List.getElem_mem _
  have hle := List.pairwise_iff_getElem.mp (pairwise_tokensOf chars) n (n + 1) (by omega) hn
    (by omega)
  by_contra hne
  -- a place in the gap holds a character that is no quote, so it belongs to a token
  have hlt : (tokensOf chars)[n].stop < (tokensOf chars)[n + 1].start := by omega
  have hlen := stop_le_length hmem'
  have hstart := start_lt_stop hmem'
  have hplace : (tokensOf chars)[n].stop ∈ textPlaces chars := by
    rw [mem_textPlaces]
    refine ⟨_, List.getElem?_eq_getElem (by omega), ?_⟩
    intro hq
    refine hgap _ le_rfl hlt ?_
    rw [List.getElem?_eq_getElem (by omega), hq]
  rw [← flatMap_places_tokensOf, List.mem_flatMap] at hplace
  obtain ⟨t, ht, hcover⟩ := hplace
  exact not_covered_between (pairwise_tokensOf chars) (fun _ => start_lt_stop) hn le_rfl hlt ht
    (Token.mem_places.mp hcover)

/-- Neighbours outside quotes with no quote between them have different characters. -/
theorem isChain_tokensOf (chars : List Char) :
    (tokensOf chars).IsChain fun s t => ¬ QuotedAt chars s.start → ¬ QuotedAt chars t.start →
      (∀ i, s.stop ≤ i → i < t.start → chars[i]? ≠ some quoteMark) →
      ∀ c ∈ s.chars, ∀ d ∈ t.chars, c ≠ d := by
  rw [List.isChain_iff_getElem]
  intro n hn hs ht hgap c hc d hd hcd
  have hmem : (tokensOf chars)[n] ∈ tokensOf chars := List.getElem_mem _
  have hmem' : (tokensOf chars)[n + 1] ∈ tokensOf chars := List.getElem_mem _
  have htouch := stop_eq_start_of_no_quote hn hgap
  have hlt := start_lt_stop hmem
  have hlt' := start_lt_stop hmem'
  obtain ⟨i, hi, hi', rfl⟩ := exists_place hmem hc
  obtain ⟨j, hj, hj', rfl⟩ := exists_place hmem' hd
  rw [char_eq_start hmem hs hi hi', char_eq_start hmem' ht hj hj',
    ← char_eq_start hmem hs (i := (tokensOf chars)[n].stop - 1) (by omega) (by omega)] at hcd
  have hjoin := not_joins_neighbour hn
  have hposition : (tokensOf chars)[n + 1].start = (tokensOf chars)[n].stop - 1 + 1 := by omega
  rw [Glyph.joins, hcd] at hjoin
  simp [glyphAt, hposition] at hjoin

/-- What stands between an opening quote and the next one, or the end, is one literal. -/
theorem quoted_mem_tokensOf (before : List Char) {content after : List Char}
    (heven : before.count quoteMark % 2 = 0) (hne : content ≠ []) (hquote : quoteMark ∉ content)
    (hafter : ∀ c ∈ after.head?, c = quoteMark) :
    ⟨true, content, before.length + 1⟩ ∈
      tokensOf (before ++ quoteMark :: (content ++ after)) := by
  have hcount : content.count quoteMark = 0 := List.count_eq_zero.mpr hquote
  have hglyphs : Glyph.ofChars false 0 (before ++ quoteMark :: (content ++ after)) =
      Glyph.ofChars false 0 before ++ (Glyph.ofChars true (before.length + 1) content ++
        Glyph.ofChars true (before.length + 1 + content.length) after) := by
    rw [Glyph.ofChars_append, Glyph.ofChars, if_pos rfl, Glyph.ofChars_append]
    simp [heven, hcount]
  have hcontent : Glyph.ofChars true (before.length + 1) content =
      Glyph.ofText true (before.length + 1) content :=
    Glyph.ofChars_eq_ofText _ _ hquote
  -- the quotes on either side leave gaps between the places
  have hleft : ∀ x ∈ (Glyph.ofChars false 0 before).getLast?,
      ∀ y ∈ (Glyph.ofChars true (before.length + 1) content ++
        Glyph.ofChars true (before.length + 1 + content.length) after).head?,
      Glyph.joins x y = false := by
    apply Glyph.joins_of_gap before.length
    · intro x hx
      simpa using Glyph.position_lt_of_mem hx
    · intro y hy
      rcases List.mem_append.mp hy with hmem | hmem
      · exact Glyph.le_position_of_mem hmem
      · have := Glyph.le_position_of_mem hmem
        omega
  have hright : ∀ x ∈ (Glyph.ofChars true (before.length + 1) content).getLast?,
      ∀ y ∈ (Glyph.ofChars true (before.length + 1 + content.length) after).head?,
      Glyph.joins x y = false := by
    apply Glyph.joins_of_gap (before.length + 1 + content.length)
    · exact fun x hx => Glyph.position_lt_of_mem hx
    · intro y hy
      cases after with
      | nil => exact absurd hy List.not_mem_nil
      | cons c rest =>
        rw [Glyph.ofChars, if_pos (hafter c rfl)] at hy
        exact Glyph.le_position_of_mem hy
  rw [tokensOf, hglyphs, List.splitBy_append hleft, List.splitBy_append hright,
    hcontent, Glyph.splitBy_ofText _ _ hne (by simp), List.map_append, List.map_append,
    List.map_singleton, Glyph.ofRun_ofText _ _ hne]
  simp

end TemporalFormat
