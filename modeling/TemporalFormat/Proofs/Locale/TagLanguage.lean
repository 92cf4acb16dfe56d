import TemporalFormat.Proofs.Locale.TagMeaning

/-!
# The language of locale tags

A tag is accepted if its language is known and every key `nu` or `ca` that has a subtag after it
has one of its values there: `Locale.ofTag_settled`, which also says which locale or which failure
it leads to. The text that a locale writes as its tag is divided into the tag of its language and
its keywords, so it leads back to the locale, `Locale.ofTag_toTag`.
-/

set_option autoImplicit false

namespace TemporalFormat.Locale

open LocaleTag

/-! ## The tag of a locale -/

/-- The subtags of the tag of a locale. -/
def keywords (loc : Locale) : List String :=
  (match loc.outputCalendar with
    | none => []
    | some calendar => ["ca", calendar.name]) ++
  if loc.numberingSystem = .latn then [] else ["nu", loc.numberingSystem.name]

/-- The name of a calendar needs no normalization. -/
theorem isPlain_calendar_name (calendar : Calendar) : IsPlain calendar.name := by
  cases calendar <;> exact ⟨rfl, by decide⟩

/-- The name of a numbering system needs no normalization. -/
theorem isPlain_numberingSystem_name (system : NumberingSystem) : IsPlain system.name := by
  cases system <;> exact ⟨rfl, by decide⟩

/-- Nothing in the keywords of a locale changes in the common form. -/
theorem isPlain_of_mem_keywords (loc : Locale) : ∀ part ∈ loc.keywords, IsPlain part := by
  have hca : IsPlain "ca" := ⟨rfl, by decide⟩
  have hnu : IsPlain "nu" := ⟨rfl, by decide⟩
  obtain ⟨data, system, calendar⟩ := loc
  by_cases hlatn : system = .latn <;> cases calendar <;>
    simp [keywords, hlatn, hca, hnu, isPlain_calendar_name, isPlain_numberingSystem_name]

/-- The tag of a locale puts its subtags after the tag of its language. -/
theorem toList_toTag (loc : Locale) :
    loc.toTag.toList = loc.data.tag.toList ++ extensionText loc.keywords := by
  obtain ⟨data, system, calendar⟩ := loc
  by_cases hlatn : system = .latn <;> cases calendar <;>
    simp [toTag, keywords, extensionText, extensionMark, hlatn, List.intercalate]

/-- The keywords of a locale describe it. -/
theorem described_keywords (loc : Locale) :
    (∀ pair ∈ neighbours loc.keywords, ¬ Offends pair) ∧
      described loc.data (neighbours loc.keywords) = loc := by
  obtain ⟨data, system, calendar⟩ := loc
  by_cases hlatn : system = .latn <;> cases calendar <;>
    simp [keywords, neighbours, described, lastValue, hlatn, not_offends_calendar,
      not_offends_numberingSystem, not_offends_calendar_name, numberingValues_lookup_name,
      calendarValues_lookup_name, List.lookup_cons, ca_beq_calendar_name]

/-- The tag of a locale is divided into the tag of its language and the keywords. -/
theorem divides_toTag {loc : Locale} (hdata : loc.data ∈ languageData.map Prod.snd) :
    Divides loc.toTag (normalize loc.data.tag.toList) loc.keywords := by
  have hplain := isPlain_of_mem_keywords loc
  have hjoined : normalize loc.toTag.toList =
      normalize loc.data.tag.toList ++ extensionText loc.keywords := by
    rw [toList_toTag, normalize_append, normalize_extensionText hplain]
  have hscan : ∀ rest, splitExtension (normalize loc.data.tag.toList ++ rest) =
      (normalize loc.data.tag.toList ++ (splitExtension rest).1, (splitExtension rest).2) := by
    -- no mark begins in either of the two tags, so a scan goes over them
    intro rest
    obtain henglish | hrussian : loc.data = .english ∨ loc.data = .russian := by
      simpa [languageData] using hdata
    · rw [henglish]
      rfl
    · rw [hrussian]
      rfl
  obtain ⟨hbase, hparts⟩ := splitExtension_extensionText fun part hpart => (hplain part hpart).2
  refine divides_iff.mpr ⟨?_, ?_⟩
  · rw [hjoined, hscan, hbase, List.append_nil]
  · rw [hjoined, hscan, hparts]

/-- The language of a tag of a known locale leads to that locale. -/
theorem lookup_language_tag {data : LocaleData} (hdata : data ∈ languageData.map Prod.snd) :
    languageData.lookup (language (normalize data.tag.toList)) = some data := by
  obtain rfl | rfl : data = .english ∨ data = .russian := by simpa [languageData] using hdata
  · rfl
  · rfl

/-- The tag of a locale leads back to the locale. -/
theorem ofTag_toTag {loc : Locale} (hdata : loc.data ∈ languageData.map Prod.snd) :
    ofTag loc.toTag = .ok loc := by
  obtain ⟨hpairs, hdescribed⟩ := described_keywords loc
  exact (ofTag_eq_ok_iff (divides_toTag hdata) loc).mpr
    ⟨hpairs, loc.data, lookup_language_tag hdata, hdescribed.symm⟩

/-! ## All tags -/

/-- What every tag leads to: it is divided in one way, it is accepted for a known language and
neighbours that do not offend, the locale is that of the language and of the last values and can be
read from its own tag, and a failure is that of the language or of the first pair that offends. So
neither other keys nor the order of the keys matter. -/
theorem ofTag_settled (tag : String) :
    (∃! parts : List Char × List String, Divides tag parts.1 parts.2) ∧
      ∀ base parts, Divides tag base parts →
        ((∃ loc, ofTag tag = .ok loc) ↔
          language base ∈ ["en", "ru"] ∧ ∀ pair ∈ neighbours parts, ¬ Offends pair) ∧
        (∀ loc, ofTag tag = .ok loc →
          (language base, loc.data) ∈ languageData ∧
            loc = described loc.data (neighbours parts) ∧ ofTag loc.toTag = .ok loc) ∧
        (∀ e, ofTag tag = .error e ↔
          language base ∉ ["en", "ru"] ∧ e = .invalidSetting .locale tag ∨
            language base ∈ ["en", "ru"] ∧
              ∃ pair, (neighbours parts).find? (Offends ·) = some pair ∧ e = complaint pair) ∧
        (∀ other otherBase otherParts loc otherLoc, Divides other otherBase otherParts →
          language otherBase = language base →
          (∀ key ∈ ["nu", "ca"],
            lastValue key (neighbours otherParts) = lastValue key (neighbours parts)) →
          ofTag tag = .ok loc → ofTag other = .ok otherLoc → otherLoc = loc) := by
  refine ⟨existsUnique_divides tag, fun base parts hdivides => ?_⟩
  have hok := ofTag_eq_ok_iff hdivides
  refine ⟨?_, ?_, ?_, ?_⟩
  · rw [← lookup_languageData_ne_none_iff, Option.ne_none_iff_exists']
    constructor
    · rintro ⟨loc, hloc⟩
      obtain ⟨hpairs, data, hdata, _⟩ := (hok loc).mp hloc
      exact ⟨⟨data, hdata⟩, hpairs⟩
    · rintro ⟨⟨data, hdata⟩, hpairs⟩
      exact ⟨described data (neighbours parts), (hok _).mpr ⟨hpairs, data, hdata, rfl⟩⟩
  · intro loc hloc
    obtain ⟨hpairs, data, hdata, rfl⟩ := (hok loc).mp hloc
    have hmem := mem_languageData_of_lookup hdata
    exact ⟨hmem, rfl, ofTag_toTag (List.mem_map_of_mem hmem)⟩
  · intro e
    rw [ofTag_eq_error_iff hdivides, ← lookup_languageData_ne_none_iff, not_ne_iff]
  · intro other otherBase otherParts loc otherLoc hother hlanguage hlast hloc hotherLoc
    obtain ⟨_, data, hdata, rfl⟩ := (hok loc).mp hloc
    obtain ⟨_, otherData, hotherData, rfl⟩ := (ofTag_eq_ok_iff hother otherLoc).mp hotherLoc
    have hsame : otherData = data := by
      rw [hlanguage, hdata] at hotherData
      exact (Option.some.inj hotherData).symm
    rw [hsame]
    exact described_congr data hlast

/-- The last of two values counts, even where another key stands between them. -/
theorem ofTag_settled_repeatedKey :
    Divides "EN_us-u-nu-thai-co-nu-arab-ca" "en-us".toList
        ["nu", "thai", "co", "nu", "arab", "ca"] ∧
      ∃ loc, ofTag "EN_us-u-nu-thai-co-nu-arab-ca" = .ok loc ∧
        loc.data = .english ∧ loc.numberingSystem = .arab ∧ loc.outputCalendar = none ∧
        ofTag loc.toTag = .ok loc := by
  have hdivides : Divides "EN_us-u-nu-thai-co-nu-arab-ca" "en-us".toList
      ["nu", "thai", "co", "nu", "arab", "ca"] := divides_iff.mpr ⟨by decide, by decide⟩
  obtain ⟨haccepts, hdescribes, _⟩ := (ofTag_settled _).2 _ _ hdivides
  obtain ⟨loc, hloc⟩ := haccepts.mpr ⟨by decide, by decide⟩
  obtain ⟨hdata, hdescribed, htag⟩ := hdescribes loc hloc
  refine ⟨hdivides, loc, hloc, ?_, ?_, ?_, htag⟩
  · simpa [languageData, language] using hdata
  · rw [hdescribed]
    rfl
  · rw [hdescribed]
    rfl

end TemporalFormat.Locale
