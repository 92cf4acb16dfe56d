import TemporalFormat.Locale.Basic

/-!
# Locale tags

A tag such as `en-US-u-nu-arab-ca-islamic` names a language and, after a `u`, keys with values. The
key `nu` chooses the numbering system and `ca` the calendar. Every subtag can be a key for the one
after it, whether or not it is itself a value.
-/

set_option autoImplicit false

namespace TemporalFormat

namespace LocaleTag

/-- A tag in its common form: ASCII letters in lower case, and hyphens between subtags. -/
def normalize (tag : List Char) : List Char :=
  tag.map fun c => if c = '_' then '-' else c.toLower

/-- What opens the list of keys and values. -/
def extensionMark : List Char :=
  ['-', 'u', '-']

/-- The part of a tag before the first extension mark, and the part after it if there is one. -/
def splitExtension : List Char → List Char × Option (List Char)
  | [] => ([], none)
  | c :: rest =>
    if extensionMark.isPrefixOf (c :: rest) then ([], some ((c :: rest).drop extensionMark.length))
    else
      let (base, extension) := splitExtension rest
      (c :: base, extension)

/-- The pairs of neighbours in a list. -/
def neighbours {α : Type} (items : List α) : List (α × α) :=
  items.zip items.tail

/-- The locale after a key with its value. Keys without a meaning change nothing. -/
def apply (loc : Locale) (pair : String × String) : Except FormatError Locale :=
  if pair.1 = "nu" then do
    let system ← NumberingSystem.ofName pair.2
    pure { loc with numberingSystem := system }
  else if pair.1 = "ca" then do
    let calendar ← Calendar.ofName pair.2
    pure { loc with outputCalendar := some calendar }
  else pure loc

/-- The locale after some keys with their values. -/
def applyAll (loc : Locale) : List (String × String) → Except FormatError Locale
  | [] => pure loc
  | pair :: rest => do
    let next ← apply loc pair
    applyAll next rest

/-- The subtags of the part of a tag after the extension mark. -/
def subtags (extension : List Char) : List String :=
  (extension.splitOn '-').map String.ofList

end LocaleTag

namespace Locale

/-- The locales with tags, by their language. -/
def languages : List (String × Locale) :=
  [("en", english), ("ru", russian)]

/-- The locale of a tag. -/
def ofTag (tag : String) : Except FormatError Locale :=
  let (base, extension) := LocaleTag.splitExtension (LocaleTag.normalize tag.toList)
  match languages.lookup (String.ofList (base.takeWhile (· != '-'))) with
  | none => .error (.invalidSetting .locale tag)
  | some loc =>
    LocaleTag.applyAll loc (LocaleTag.neighbours (LocaleTag.subtags (extension.getD [])))

/-- The tag of a locale, with the calendar and the numbering system where they are not those that
the locale has without a word about them. -/
def toTag (loc : Locale) : String :=
  let numbering := if loc.numberingSystem = .latn then "" else "-nu-" ++ loc.numberingSystem.name
  let calendar := match loc.outputCalendar with
    | none => ""
    | some calendar => "-ca-" ++ calendar.name
  loc.data.tag ++ (if numbering = "" ∧ calendar = "" then "" else "-u") ++ calendar ++ numbering

end Locale

end TemporalFormat
