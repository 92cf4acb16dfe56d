import Mathlib.Data.List.Basic
import TemporalFormat.Locale.Tag

/-!
# The parts of a locale tag

In its common form a tag is a base and, after the first mark `-u-`, a list of subtags with hyphens
between them. `LocaleTag.Divides` says what the base and the subtags are by putting them together
again. By `LocaleTag.divides_iff` every tag is divided in one way, the one that a scan from the left
finds.
-/

set_option autoImplicit false

namespace TemporalFormat.LocaleTag

/-- The text of the mark and the subtags after it. A tag without a mark has no subtags. -/
def extensionText (subtags : List String) : List Char :=
  if subtags = [] then []
  else extensionMark ++ ['-'].intercalate (subtags.map String.toList)

/-- A tag consists of a base and subtags. The base ends where the first mark begins, and nothing
more can be split off a subtag. -/
structure Divides (tag : String) (base : List Char) (subtags : List String) : Prop where
  joined : normalize tag.toList = base ++ extensionText subtags
  first : ∀ n, extensionMark <+: (normalize tag.toList).drop n → base.length ≤ n
  no_hyphen : ∀ subtag ∈ subtags, '-' ∉ subtag.toList

/-- Texts in a row are normalized one by one. -/
theorem normalize_append (xs ys : List Char) :
    normalize (xs ++ ys) = normalize xs ++ normalize ys :=
  List.map_append

/-! ## The first mark -/

/-- A text that begins with the mark is an extension and nothing else. -/
theorem splitExtension_extensionMark_append (extension : List Char) :
    splitExtension (extensionMark ++ extension) = ([], some extension) :=
  rfl

/-- A scan goes over characters at which no mark begins. -/
theorem splitExtension_append {base rest : List Char}
    (hfirst : ∀ n < base.length, ¬ extensionMark <+: (base ++ rest).drop n) :
    splitExtension (base ++ rest) =
      (base ++ (splitExtension rest).1, (splitExtension rest).2) := by
  induction base with
  | nil => rfl
  | cons c base ih =>
    have hhere : ¬ extensionMark <+: c :: (base ++ rest) := hfirst 0 (by simp)
    have hlater : ∀ n < base.length, ¬ extensionMark <+: (base ++ rest).drop n := by
      intro n hn
      exact hfirst (n + 1) (by simpa using hn)
    rw [List.cons_append, splitExtension, if_neg (by simpa using hhere), ih hlater]
    rfl

/-- No mark begins in the part of a text that a scan takes as the base. -/
theorem length_splitExtension_le (chars : List Char) (n : ℕ)
    (hmark : extensionMark <+: chars.drop n) : (splitExtension chars).1.length ≤ n := by
  induction chars generalizing n with
  | nil => simp [splitExtension]
  | cons c rest ih =>
    rw [splitExtension]
    split
    case isTrue => simp
    case isFalse hhere =>
      cases n with
      | zero => exact absurd (by simpa using hmark) hhere
      | succ n => simpa using ih n hmark

/-- A scan loses nothing but the mark. -/
theorem splitExtension_joined (chars : List Char) :
    chars = (splitExtension chars).1 ++ (splitExtension chars).2.elim [] (extensionMark ++ ·) := by
  induction chars with
  | nil => rfl
  | cons c rest ih =>
    rw [splitExtension]
    split
    case isTrue hhere =>
      obtain ⟨extension, hextension⟩ := List.isPrefixOf_iff_prefix.mp hhere
      rw [← hextension]
      simp
    case isFalse => simpa using ih

/-! ## Subtags -/

/-- Nothing that is split off at a separator contains it. -/
theorem notMem_of_mem_splitOn {α : Type} [BEq α] [LawfulBEq α] {separator : α} {items part : List α}
    (hpart : part ∈ items.splitOn separator) : separator ∉ part := by
  induction items generalizing part with
  | nil =>
    have hnil : part = [] := by simpa using hpart
    simp [hnil]
  | cons item items ih =>
    obtain ⟨head, parts, hparts⟩ :=
      List.exists_cons_of_ne_nil (List.splitOnP_ne_nil (· == separator) items)
    have hhead : separator ∉ head := ih (by simp [List.splitOn, hparts])
    -- an item either closes an empty first part or is added to the first part of the rest
    rw [List.splitOn, List.splitOnP_cons_eq_if_modifyHead, hparts] at hpart
    split at hpart
    case isTrue =>
      obtain rfl | hlater := List.mem_cons.mp hpart
      · simp
      · exact ih (by rwa [List.splitOn, hparts])
    case isFalse hitem =>
      obtain rfl | hlater := List.mem_cons.mp hpart
      · have hne : separator ≠ item := by
          rintro rfl
          exact hitem (beq_self_eq_true _)
        simp [hne, hhead]
      · exact ih (by simp [List.splitOn, hparts, hlater])

/-- The subtags are what stands between the hyphens. -/
theorem map_toList_subtags (extension : List Char) :
    (subtags extension).map String.toList = extension.splitOn '-' := by
  simp [subtags, Function.comp_def]

/-- There is always a subtag, even if it is empty. -/
theorem subtags_ne_nil (extension : List Char) : subtags extension ≠ [] := by
  simp [subtags]

/-- The subtags of an extension with hyphens between them are the extension again. -/
theorem extensionText_elim_subtags (extension : Option (List Char)) :
    extensionText (extension.elim [] subtags) = extension.elim [] (extensionMark ++ ·) := by
  cases extension with
  | none => rfl
  | some extension =>
    rw [Option.elim_some, extensionText, if_neg (subtags_ne_nil extension), map_toList_subtags,
      List.intercalate_splitOn, Option.elim_some]

/-- Subtags without hyphens are found again in their text. -/
theorem splitExtension_extensionText {parts : List String}
    (hparts : ∀ subtag ∈ parts, '-' ∉ subtag.toList) :
    (splitExtension (extensionText parts)).1 = [] ∧
      (splitExtension (extensionText parts)).2.elim [] subtags = parts := by
  by_cases hnil : parts = []
  · subst hnil
    exact ⟨rfl, rfl⟩
  · have hsubtags : subtags (['-'].intercalate (parts.map String.toList)) = parts := by
      rw [subtags, List.splitOn_intercalate '-' (by simpa using hparts) (by simpa using hnil)]
      simp
    rw [extensionText, if_neg hnil, splitExtension_extensionMark_append]
    exact ⟨rfl, hsubtags⟩

/-! ## Subtags in their common form -/

/-- A text is one subtag, in its common form. -/
def IsPlain (part : String) : Prop :=
  normalize part.toList = part.toList ∧ '-' ∉ part.toList

/-- Parts with hyphens between them are normalized one by one. -/
theorem normalize_intercalate (parts : List (List Char)) :
    normalize (['-'].intercalate parts) = ['-'].intercalate (parts.map normalize) := by
  induction parts with
  | nil => rfl
  | cons part parts ih =>
    cases parts with
    | nil => simp
    | cons next parts =>
      rw [List.intercalate_cons_cons, normalize_append, normalize_append, ih, List.map_cons,
        List.map_cons, List.map_cons, List.intercalate_cons_cons]
      rfl

/-- An extension of plain parts needs no normalization. -/
theorem normalize_extensionText {parts : List String} (hplain : ∀ part ∈ parts, IsPlain part) :
    normalize (extensionText parts) = extensionText parts := by
  have hmap : (parts.map String.toList).map normalize = parts.map String.toList := by
    rw [List.map_map]
    exact List.map_congr_left fun part hpart => (hplain part hpart).1
  rw [extensionText]
  split
  · rfl
  · rw [normalize_append, normalize_intercalate, hmap]
    rfl

/-! ## The division -/

/-- A tag is divided as a scan from the left divides it, and in no other way. -/
theorem divides_iff {tag : String} {base : List Char} {parts : List String} :
    Divides tag base parts ↔
      (splitExtension (normalize tag.toList)).1 = base ∧
        (splitExtension (normalize tag.toList)).2.elim [] subtags = parts := by
  constructor
  · rintro ⟨hjoined, hfirst, hhyphen⟩
    obtain ⟨hbase, hparts⟩ := splitExtension_extensionText hhyphen
    have hscan : ∀ n < base.length, ¬ extensionMark <+: (base ++ extensionText parts).drop n := by
      intro n hn hmark
      exact absurd (hfirst n (hjoined ▸ hmark)) (by omega)
    rw [hjoined, splitExtension_append hscan, hbase, List.append_nil]
    exact ⟨rfl, hparts⟩
  · rintro ⟨rfl, rfl⟩
    refine ⟨?_, length_splitExtension_le _, ?_⟩
    · rw [extensionText_elim_subtags, ← splitExtension_joined]
    · intro subtag hsubtag
      cases hextension : (splitExtension (normalize tag.toList)).2 with
      | none => simp [hextension] at hsubtag
      | some extension =>
        have hmem : subtag.toList ∈ extension.splitOn '-' := by
          rw [hextension, Option.elim_some] at hsubtag
          rw [← map_toList_subtags]
          exact List.mem_map_of_mem hsubtag
        exact notMem_of_mem_splitOn hmem

/-- Every tag is divided in exactly one way. -/
theorem existsUnique_divides (tag : String) :
    ∃! parts : List Char × List String, Divides tag parts.1 parts.2 := by
  refine ⟨((splitExtension (normalize tag.toList)).1,
    (splitExtension (normalize tag.toList)).2.elim [] subtags), divides_iff.mpr ⟨rfl, rfl⟩, ?_⟩
  rintro ⟨base, parts⟩ hdivides
  obtain ⟨rfl, rfl⟩ := divides_iff.mp hdivides
  rfl

end TemporalFormat.LocaleTag
