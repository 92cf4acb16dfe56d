import TemporalFormat.Format.DateTime
import TemporalFormat.Moment.DateTime
import TemporalFormat.Proofs.Pattern.Concatenation

/-!
# Patterns put together

The output of two patterns in a row is the outputs of the two in a row, and a failure of either is
a failure of both together, where the first failure counts. The seam must not fall into quoted text,
nor into a run of one letter, since the two sides would be other tokens than the whole. In front of
quoted text and behind it every seam is a good one: `Formatter.formatDateTime_compositional`.

So the output of a pattern is put together from the outputs of its parts. Quoted texts, single
literals and single tokens are the parts to begin with, and `Formatter.Yields.append` puts parts in
a row.
-/

set_option autoImplicit false

namespace TemporalFormat

/-- The characters of a quoted text. -/
theorem toList_quoted (content : String) :
    ("'" ++ content ++ "'").toList = quoteMark :: (content.toList ++ [quoteMark]) := by
  rw [String.toList_append, String.toList_append]
  rfl

/-- A moment is written after two patterns in a row as after each of them, when the first closes its
quotes and no letter is repeated across their seam. -/
theorem Formatter.formatDateTime_append (f : Formatter) (m : Moment) {p q : String}
    (hp : Balanced p.toList) (hseam : ¬ LetterSeam p.toList q.toList) :
    f.formatDateTime m (p ++ q) = (do
      let first ← f.formatDateTime m p
      let others ← f.formatDateTime m q
      pure (first ++ others)) := by
  rw [formatDateTime, tokenize_eq_tokensOf, String.toList_append, render_tokensOf_append _ hp hseam,
    formatDateTime, formatDateTime, tokenize_eq_tokensOf, tokenize_eq_tokensOf]

/-- A quoted text is written as it is. -/
theorem Formatter.formatDateTime_quoted (f : Formatter) (m : Moment) {content : String}
    (hquote : quoteMark ∉ content.toList) :
    f.formatDateTime m ("'" ++ content ++ "'") = pure content := by
  rw [formatDateTime, tokenize_eq_tokensOf, toList_quoted, render_quoted _ hquote, String.ofList_toList]

/-- Both quotes of a quoted text are there. -/
theorem balanced_quoted {content : String} (hquote : quoteMark ∉ content.toList) :
    Balanced ("'" ++ content ++ "'").toList := by
  have hcount : content.toList.count quoteMark = 0 := List.count_eq_zero.mpr hquote
  rw [toList_quoted, Balanced]
  simp [hcount]

/-- Quoted text begins with no letter. -/
theorem not_letterSeam_quoted_right (before : List Char) (content rest : String) :
    ¬ LetterSeam before ("'" ++ content ++ "'" ++ rest).toList := by
  apply not_letterSeam_of_head
  rw [String.toList_append, toList_quoted]
  rfl

/-- Quoted text ends with no letter. -/
theorem not_letterSeam_quoted_left (content : String) (after : List Char) :
    ¬ LetterSeam ("'" ++ content ++ "'").toList after := by
  apply not_letterSeam_of_getLast
  rw [toList_quoted, ← List.cons_append, List.getLast?_concat]
  rfl

namespace Formatter

variable (f : Formatter) (m : Moment)

/-- Quoted text between two patterns is copied between their outputs. -/
theorem formatDateTime_append_quoted {p content r : String} (hp : Balanced p.toList)
    (hquote : quoteMark ∉ content.toList) :
    f.formatDateTime m (p ++ ("'" ++ content ++ "'" ++ r)) = (do
      let before ← f.formatDateTime m p
      let after ← f.formatDateTime m r
      pure (before ++ content ++ after)) := by
  rw [f.formatDateTime_append m hp (not_letterSeam_quoted_right _ content r),
    f.formatDateTime_append m (balanced_quoted hquote) (not_letterSeam_quoted_left content _),
    f.formatDateTime_quoted m hquote]
  simp only [pure_bind, bind_assoc, String.append_assoc]

/-- **Outputs are put together as patterns are.** The first pattern closes its quotes, and no letter
is repeated across the seam. -/
theorem formatDateTime_compositional :
    (∀ p q : String, Balanced p.toList → ¬ LetterSeam p.toList q.toList →
      (∀ s t, f.formatDateTime m p = .ok s → f.formatDateTime m q = .ok t →
        f.formatDateTime m (p ++ q) = .ok (s ++ t)) ∧
      (∀ e, f.formatDateTime m p = .error e → f.formatDateTime m (p ++ q) = .error e) ∧
      (∀ s e, f.formatDateTime m p = .ok s → f.formatDateTime m q = .error e →
        f.formatDateTime m (p ++ q) = .error e)) ∧
    (∀ p content r : String, Balanced p.toList → quoteMark ∉ content.toList →
      f.formatDateTime m (p ++ ("'" ++ content ++ "'" ++ r)) = (do
        let before ← f.formatDateTime m p
        let after ← f.formatDateTime m r
        pure (before ++ content ++ after))) := by
  refine ⟨?_, ?_⟩
  · intro p q hp hseam
    rw [f.formatDateTime_append m hp hseam]
    refine ⟨?_, ?_, ?_⟩
    · intro s t hs ht
      rw [hs, ht]
      rfl
    · intro e he
      rw [he]
      rfl
    · intro s e hs he
      rw [hs, he]
      rfl
  · intro p content r hp hquote
    exact f.formatDateTime_append_quoted m hp hquote

/-- Hyphens may meet at a seam, and an unknown token fails behind quoted text that reads like it. -/
theorem formatDateTime_compositional_hyphens :
    let f : Formatter := ⟨.english, true, true⟩
    let m := (DateTime.midnight ⟨1983, 10, 14⟩).toMoment
    f.formatDateTime m ("dd''--" ++ "-MM") = .ok ("14--" ++ "-10") ∧
      f.formatDateTime m ("dd" ++ ("'" ++ "qq" ++ "'" ++ "qq")) = .error (.unknownToken "qq") := by
  intro f m
  obtain ⟨hparts, hquoted⟩ := formatDateTime_compositional f m
  refine ⟨(hparts _ _ (by decide) (by decide)).1 _ _ (by decide) (by decide), ?_⟩
  rw [hquoted _ _ _ (by decide) (by decide)]
  decide

end Formatter

/-! ## What patterns yield -/

/-- A pattern closes its quotes, and the moment written after it is the output. -/
structure Formatter.Yields (f : Formatter) (m : Moment) (pattern : String)
    (output : Except FormatError String) : Prop where
  balanced : Balanced pattern.toList
  formatDateTime_eq : f.formatDateTime m pattern = output

namespace Formatter.Yields

variable {f : Formatter} {m : Moment} {p q : String} {x y : Except FormatError String}

/-- The empty pattern yields the empty text. -/
theorem empty : f.Yields m "" (pure "") where
  balanced := rfl
  formatDateTime_eq := rfl

/-- Patterns in a row yield their outputs in a row. -/
theorem append (hp : f.Yields m p x) (hq : f.Yields m q y)
    (hseam : ¬ LetterSeam p.toList q.toList) :
    f.Yields m (p ++ q) (do
      let first ← x
      let others ← y
      pure (first ++ others)) where
  balanced := by
    rw [String.toList_append]
    exact hp.balanced.append hq.balanced
  formatDateTime_eq := by
    rw [f.formatDateTime_append m hp.balanced hseam, hp.formatDateTime_eq, hq.formatDateTime_eq]

/-- An output may be given in another way. -/
theorem congr (h : f.Yields m p x) (hxy : x = y) : f.Yields m p y :=
  hxy ▸ h

/-- A pattern that may be left out yields an output that is left out with it. -/
theorem ite {c : Prop} [Decidable c] (h : f.Yields m p x) :
    f.Yields m (if c then p else "") (if c then x else pure "") := by
  split
  · exact h
  · exact empty

/-- No letter is repeated before a pattern that may be left out when it begins with something
else. -/
theorem not_letterSeam_ite {before : List Char} {c : Prop} [Decidable c]
    (h : p.toList.head?.any isPatternLetter = false) :
    ¬ LetterSeam before (if c then p else "").toList := by
  apply not_letterSeam_of_head
  split
  · exact h
  · rfl

/-- A quoted text yields itself. -/
theorem quoted {content : String} (hquote : quoteMark ∉ content.toList) :
    f.Yields m ("'" ++ content ++ "'") (pure content) where
  balanced := balanced_quoted hquote
  formatDateTime_eq := f.formatDateTime_quoted m hquote

/-- A single literal yields itself. -/
theorem literal (htoken : tokenize p = [⟨true, p.toList, 0⟩]) (hp : Balanced p.toList) :
    f.Yields m p (pure p) where
  balanced := hp
  formatDateTime_eq := by
    rw [formatDateTime, htoken]
    simp [render, Token.render, Token.text]

/-- A single token yields what its directive says. -/
theorem directive {d : Directive} (htoken : tokenize p = [⟨false, p.toList, 0⟩])
    (hdirective : Directive.ofToken? p = some d) (hp : Balanced p.toList)
    (hx : f.applyDirective m d = x) : f.Yields m p x where
  balanced := hp
  formatDateTime_eq := by
    rw [formatDateTime, htoken]
    simp [render, Token.render, Token.text, resolve, hdirective, hx]

end Formatter.Yields

/-! ## Dated numbers -/

namespace Formatter

variable (f : Formatter) (m : Moment)

/-- A dated number is a field of the locale even without an output calendar, when the number is what
the Gregorian calendar writes for the field. The field may have any other surroundings in which it
looks the same. -/
theorem applyDirective_dated {number : NumericField} {digits : Nat} {field : Field}
    {skeleton surroundings : Skeleton}
    (hlooks : f.locale.fieldText m skeleton field = f.locale.fieldText m surroundings field)
    (hgregory : f.locale.calendar = .gregory →
      f.locale.fieldText m surroundings field = pure (f.formatNumber digits (m.read number))) :
    f.applyDirective m (.dated number digits field skeleton) =
      f.locale.fieldText m surroundings field := by
  rw [applyDirective]
  split
  · exact hlooks
  · rename_i hnone
    rw [Option.not_isSome_iff_eq_none] at hnone
    refine (hgregory ?_).symm
    rw [Locale.calendar, hnone, Option.getD_none]

/-- The day is the same with an output calendar and without one. -/
theorem applyDirective_day (width : NumberWidth) :
    f.applyDirective m
        (.dated .day (minDigits (some width)) .day { day := some width }) =
      f.locale.fieldText m { day := some width } .day := by
  apply f.applyDirective_dated m rfl
  intro hcalendar
  rw [Locale.fieldText, hcalendar]
  rfl

/-- The number of the month is the same with an output calendar and without one. -/
theorem applyDirective_month (width : NumberWidth) :
    f.applyDirective m
        (.dated .month (minDigits (some width)) .month { month := some (.number width) }) =
      f.locale.fieldText m { month := some (.number width), day := some .numeric } .month := by
  apply f.applyDirective_dated m rfl
  intro hcalendar
  rw [Locale.fieldText, hcalendar]
  rfl

/-- The year is the same with an output calendar and without one. -/
theorem applyDirective_year :
    f.applyDirective m (.dated .year 0 .year { year := some .numeric }) =
      f.locale.fieldText m { year := some .numeric } .year := by
  apply f.applyDirective_dated m rfl
  intro hcalendar
  rw [Locale.fieldText, hcalendar]
  rfl

/-- The last two digits of the year are the same with an output calendar and without one. -/
theorem applyDirective_twoDigitYear :
    f.applyDirective m (.dated .yearTwoDigit 2 .year { year := some .twoDigit }) =
      f.locale.fieldText m { year := some .twoDigit } .year := by
  apply f.applyDirective_dated m rfl
  intro hcalendar
  rw [Locale.fieldText, hcalendar]
  rfl

end Formatter

end TemporalFormat
