import TemporalFormat.Proofs.Locale.TagParts

/-!
# What a locale tag means

The subtags of a tag are read in pairs of neighbours. A pair of a key and one of its values chooses
something, and the last choice counts. The first pair of a key and something else is reported. So
the language and the pairs settle what a tag leads to, `Locale.ofTag_eq`.
-/

set_option autoImplicit false

namespace TemporalFormat

namespace LocaleTag

/-- The knowledge about the languages that have tags. -/
def languageData : List (String × LocaleData) :=
  [("en", .english), ("ru", .russian)]

/-- The values of the key `nu`. -/
def numberingValues : List (String × NumberingSystem) :=
  [("latn", .latn), ("arab", .arab), ("arabext", .arabext), ("deva", .deva), ("beng", .beng),
    ("thai", .thai), ("hanidec", .hanidec), ("fullwide", .fullwide)]

/-- The values of the key `ca`. -/
def calendarValues : List (String × Calendar) :=
  [("gregory", .gregory), ("gregorian", .gregory), ("buddhist", .buddhist), ("islamic", .islamic)]

/-- The language of a tag with the given base. -/
def language (base : List Char) : String :=
  String.ofList (base.takeWhile (· != '-'))

/-- A key stands before a subtag that is not one of its values. -/
def Offends (pair : String × String) : Prop :=
  pair.1 = "nu" ∧ numberingValues.lookup pair.2 = none ∨
    pair.1 = "ca" ∧ calendarValues.lookup pair.2 = none

instance : DecidablePred Offends :=
  fun pair => inferInstanceAs
    (Decidable (pair.1 = "nu" ∧ numberingValues.lookup pair.2 = none ∨
      pair.1 = "ca" ∧ calendarValues.lookup pair.2 = none))

/-- What is reported about a key and a wrong value. -/
def complaint (pair : String × String) : FormatError :=
  .invalidSetting (if pair.1 = "nu" then .numberingSystem else .outputCalendar) pair.2

/-- The value of the last pair with a given key. -/
def lastValue (key : String) (pairs : List (String × String)) : Option String :=
  pairs.reverse.lookup key

/-- The locale over the data of a language with the last value of each key. -/
def described (data : LocaleData) (pairs : List (String × String)) : Locale where
  data := data
  numberingSystem :=
    ((lastValue "nu" pairs).bind fun value => numberingValues.lookup value).getD .latn
  outputCalendar := (lastValue "ca" pairs).bind fun value => calendarValues.lookup value

/-- The last value of a key is that of the last pair, if the pair has this key. -/
theorem lastValue_concat (key : String) (pairs : List (String × String)) (pair : String × String) :
    lastValue key (pairs ++ [pair]) =
      if pair.1 = key then some pair.2 else lastValue key pairs := by
  obtain ⟨k, value⟩ := pair
  by_cases hkey : k = key
  · simp [lastValue, hkey]
  · have hbeq : (key == k) = false := by simpa using Ne.symm hkey
    simp [lastValue, List.lookup_cons, hkey, hbeq]

/-! ## Names and values -/

/-- What is found for a language is listed for it. -/
theorem mem_languageData_of_lookup {name : String} {data : LocaleData}
    (hlookup : languageData.lookup name = some data) : (name, data) ∈ languageData := by
  obtain ⟨before, after, h, _⟩ := List.lookup_eq_some_iff.mp hlookup
  simp [h]

/-- The known languages are English and Russian. -/
theorem lookup_languageData_ne_none_iff {name : String} :
    languageData.lookup name ≠ none ↔ name ∈ ["en", "ru"] := by
  constructor
  · intro hlookup
    obtain ⟨data, hdata⟩ := Option.ne_none_iff_exists'.mp hlookup
    have hname : name ∈ languageData.map Prod.fst :=
      List.mem_map_of_mem (mem_languageData_of_lookup hdata)
    exact hname
  · intro hname
    obtain rfl | rfl : name = "en" ∨ name = "ru" := by simpa using hname
    · exact Option.some_ne_none _
    · exact Option.some_ne_none _

/-- The name of a calendar is a value of its key. -/
theorem calendarValues_lookup_name (calendar : Calendar) :
    calendarValues.lookup calendar.name = some calendar := by
  cases calendar <;> rfl

/-- The name of a numbering system is a value of its key. -/
theorem numberingValues_lookup_name (system : NumberingSystem) :
    numberingValues.lookup system.name = some system := by
  cases system <;> rfl

/-- A numbering system by its name is no mistake. -/
theorem not_offends_numberingSystem (system : NumberingSystem) :
    ¬ Offends ("nu", system.name) := by
  simp [Offends, numberingValues_lookup_name]

/-- A calendar by its name is no mistake. -/
theorem not_offends_calendar (calendar : Calendar) : ¬ Offends ("ca", calendar.name) := by
  simp [Offends, calendarValues_lookup_name]

/-- The name of a calendar is not a key. -/
theorem not_offends_calendar_name (calendar : Calendar) (value : String) :
    ¬ Offends (calendar.name, value) := by
  cases calendar <;> simp [Offends, Calendar.name]

/-- No calendar has the name of its key. -/
theorem ca_beq_calendar_name (calendar : Calendar) : ("ca" == calendar.name) = false := by
  cases calendar <;> rfl

/-- To find an item by its name is to look the name up in the table of all names. -/
theorem find?_beq_eq_lookup {α β : Type} [BEq β] [LawfulBEq β] (name : α → β) (items : List α)
    (key : β) :
    items.find? (fun item => name item == key) =
      (items.map fun item => (name item, item)).lookup key := by
  induction items with
  | nil => rfl
  | cons item items ih =>
    rw [List.find?_cons, List.map_cons, List.lookup_cons, ih, BEq.comm]

/-- The values of the key `nu` are the names of the numbering systems. -/
theorem numberingSystem_ofName_eq (value : String) :
    NumberingSystem.ofName value =
      ((numberingValues.lookup value).map Except.ok).getD
        (.error (.invalidSetting .numberingSystem value)) := by
  have htable : numberingValues =
      NumberingSystem.all.map fun system => (system.name, system) := rfl
  rw [NumberingSystem.ofName, find?_beq_eq_lookup, ← htable]
  cases numberingValues.lookup value <;> rfl

/-- A calendar can have one more name, but that has a hyphen in it. -/
theorem calendar_ofName_eq {value : String} (hvalue : '-' ∉ value.toList) :
    Calendar.ofName value =
      ((calendarValues.lookup value).map Except.ok).getD
        (.error (.invalidSetting .outputCalendar value)) := by
  have hne : (value == "islamic-civil") = false := by
    rw [beq_eq_false_iff_ne]
    rintro rfl
    exact hvalue (by decide)
  have htable : Calendar.names = calendarValues ++ [("islamic-civil", .islamic)] := rfl
  rw [Calendar.ofName, htable, List.lookup_append, List.lookup_cons, hne, List.lookup_nil,
    Option.or_none]
  cases calendarValues.lookup value <;> rfl

/-! ## Pair after pair -/

/-- A pair is taken over as the last one with its key, or it is reported. -/
theorem apply_described (data : LocaleData) (done : List (String × String))
    {pair : String × String} (hvalue : '-' ∉ pair.2.toList) :
    apply (described data done) pair =
      if Offends pair then .error (complaint pair) else .ok (described data (done ++ [pair])) := by
  by_cases hnu : pair.1 = "nu"
  · have hca : pair.1 ≠ "ca" := by simp [hnu]
    cases hlookup : numberingValues.lookup pair.2 with
    | none =>
      have hoffends : Offends pair := .inl ⟨hnu, hlookup⟩
      simp only [apply, complaint, if_pos hnu, if_pos hoffends, numberingSystem_ofName_eq, hlookup]
      rfl
    | some system =>
      have hoffends : ¬ Offends pair := by simp [Offends, hca, hlookup]
      simp only [apply, described, lastValue_concat, if_pos hnu, if_neg hca, if_neg hoffends,
        numberingSystem_ofName_eq, Option.bind_some, hlookup]
      rfl
  · by_cases hca : pair.1 = "ca"
    · cases hlookup : calendarValues.lookup pair.2 with
      | none =>
        have hoffends : Offends pair := .inr ⟨hca, hlookup⟩
        simp only [apply, complaint, if_neg hnu, if_pos hca, if_pos hoffends,
          calendar_ofName_eq hvalue, hlookup]
        rfl
      | some calendar =>
        have hoffends : ¬ Offends pair := by simp [Offends, hnu, hlookup]
        simp only [apply, described, lastValue_concat, if_neg hnu, if_pos hca, if_neg hoffends,
          calendar_ofName_eq hvalue, Option.bind_some, hlookup]
        rfl
    · -- a pair with any other key changes nothing
      have hoffends : ¬ Offends pair := by simp [Offends, hnu, hca]
      simp only [apply, described, lastValue_concat, if_neg hnu, if_neg hca, if_neg hoffends]
      rfl

/-- Pairs are taken over up to the first that offends. -/
theorem applyAll_described (data : LocaleData) {pairs : List (String × String)}
    (hvalues : ∀ pair ∈ pairs, '-' ∉ pair.2.toList) (done : List (String × String)) :
    applyAll (described data done) pairs =
      match pairs.find? (Offends ·) with
      | some pair => .error (complaint pair)
      | none => .ok (described data (done ++ pairs)) := by
  -- the locale so far is the one that the pairs so far describe
  induction pairs generalizing done with
  | nil =>
    rw [List.append_nil]
    rfl
  | cons pair pairs ih =>
    have hpair : '-' ∉ pair.2.toList := hvalues pair List.mem_cons_self
    have hrest : ∀ other ∈ pairs, '-' ∉ other.2.toList :=
      fun other hother => hvalues other (List.mem_cons_of_mem pair hother)
    rw [applyAll, apply_described data done hpair]
    by_cases hoffends : Offends pair
    · rw [if_pos hoffends, List.find?_cons_of_pos (by simpa using hoffends)]
      rfl
    · rw [if_neg hoffends, List.find?_cons_of_neg (by simpa using hoffends),
        List.append_cons done pair pairs]
      exact ih hrest (done ++ [pair])

/-! ## Whole tags -/

/-- Pairs of neighbours are the same whether a tag has no mark or nothing after it. -/
theorem neighbours_subtags_getD (extension : Option (List Char)) :
    neighbours (subtags (extension.getD [])) = neighbours (extension.elim [] subtags) := by
  cases extension <;> rfl

/-- The second of two neighbours is one of the items. -/
theorem mem_of_mem_neighbours {α : Type} {items : List α} {pair : α × α}
    (hpair : pair ∈ neighbours items) : pair.2 ∈ items :=
  List.mem_of_mem_tail (List.of_mem_zip hpair).2

/-- Only the last values of the two keys count. -/
theorem described_congr (data : LocaleData) {pairs others : List (String × String)}
    (hlast : ∀ key ∈ ["nu", "ca"], lastValue key others = lastValue key pairs) :
    described data others = described data pairs := by
  rw [described, hlast "nu" (by decide), hlast "ca" (by decide), described]

end LocaleTag

namespace Locale

open LocaleTag

/-- A tag that says nothing more has the locale over the data of its language. -/
theorem languages_lookup (name : String) :
    languages.lookup name = (languageData.lookup name).map fun data => described data [] := by
  have htable : languages =
      languageData.map fun entry => (entry.1, described entry.2 []) := rfl
  rw [htable]
  induction languageData with
  | nil => rfl
  | cons entry entries ih =>
    rw [List.map_cons, List.lookup_cons, List.lookup_cons, ih]
    cases name == entry.1 <;> rfl

/-- What a tag leads to is settled by its language and the pairs of neighbours. -/
theorem ofTag_eq {tag : String} {base : List Char} {parts : List String}
    (hdivides : Divides tag base parts) :
    ofTag tag =
      match languageData.lookup (language base) with
      | none => .error (.invalidSetting .locale tag)
      | some data =>
        match (neighbours parts).find? (Offends ·) with
        | some pair => .error (complaint pair)
        | none => .ok (described data (neighbours parts)) := by
  have hvalues : ∀ pair ∈ neighbours parts, '-' ∉ pair.2.toList :=
    fun pair hpair => hdivides.no_hyphen pair.2 (mem_of_mem_neighbours hpair)
  obtain ⟨rfl, rfl⟩ := divides_iff.mp hdivides
  rw [ofTag]
  simp only [neighbours_subtags_getD, languages_lookup, language]
  cases languageData.lookup
      (String.ofList ((splitExtension (normalize tag.toList)).1.takeWhile (· != '-'))) with
  | none => rfl
  | some data => exact applyAll_described data hvalues []

/-- A tag leads to a locale if its language has data and no pair of neighbours offends. -/
theorem ofTag_eq_ok_iff {tag : String} {base : List Char} {parts : List String}
    (hdivides : Divides tag base parts) (loc : Locale) :
    ofTag tag = .ok loc ↔
      (∀ pair ∈ neighbours parts, ¬ Offends pair) ∧
        ∃ data, languageData.lookup (language base) = some data ∧
          loc = described data (neighbours parts) := by
  have hnone : (∀ pair ∈ neighbours parts, ¬ Offends pair) ↔
      (neighbours parts).find? (Offends ·) = none := by
    simp only [List.find?_eq_none, decide_eq_true_eq]
  rw [ofTag_eq hdivides, hnone]
  cases languageData.lookup (language base) with
  | none => simp
  | some data =>
    cases (neighbours parts).find? (Offends ·) with
    | none => simp [eq_comm]
    | some pair => simp

/-- A tag fails by its language, or else by the first pair of neighbours that offends. -/
theorem ofTag_eq_error_iff {tag : String} {base : List Char} {parts : List String}
    (hdivides : Divides tag base parts) (e : FormatError) :
    ofTag tag = .error e ↔
      languageData.lookup (language base) = none ∧ e = .invalidSetting .locale tag ∨
        languageData.lookup (language base) ≠ none ∧
          ∃ pair, (neighbours parts).find? (Offends ·) = some pair ∧ e = complaint pair := by
  rw [ofTag_eq hdivides]
  cases languageData.lookup (language base) with
  | none => simp [eq_comm]
  | some data =>
    cases (neighbours parts).find? (Offends ·) with
    | none => simp
    | some pair => simp [eq_comm]

end Locale

end TemporalFormat
