import TemporalFormat.Error

/-!
# Numbering systems

A numbering system writes the decimal digits with characters of its own. A number is first written
with ASCII digits, padded with zeros on the left; then each digit is replaced and nothing else
changes, so the width of a number does not depend on the system.
-/

set_option autoImplicit false

namespace TemporalFormat

/-- The sets of digits that numbers can be written with. -/
inductive NumberingSystem where
  | latn
  | arab
  | arabext
  | deva
  | beng
  | thai
  | hanidec
  | fullwide
  deriving DecidableEq

/-- The decimal digits of `n`, with zeros on the left up to `minDigits` digits. -/
def paddedDigits (minDigits n : Nat) : List Char :=
  (Nat.toDigits 10 n).leftpad minDigits '0'

/-- A number has the least number of digits asked for, or its own number of digits if that is
more. -/
theorem length_paddedDigits (minDigits n : Nat) :
    (paddedDigits minDigits n).length = max minDigits (Nat.toDigits 10 n).length := by
  rw [paddedDigits, List.length_leftpad]

/-- The integer `n` in ASCII digits. The zeros after its sign fill it up to `width` characters, of
which the sign is one. -/
def asciiNumber (width : Nat) (n : Int) : String :=
  if n < 0 then "-" ++ String.ofList (paddedDigits (width - 1) n.natAbs)
  else String.ofList (paddedDigits width n.natAbs)

namespace NumberingSystem

/-- Every numbering system. -/
def all : List NumberingSystem :=
  [.latn, .arab, .arabext, .deva, .beng, .thai, .hanidec, .fullwide]

/-- The registered name of a numbering system. -/
def name : NumberingSystem → String
  | .latn => "latn"
  | .arab => "arab"
  | .arabext => "arabext"
  | .deva => "deva"
  | .beng => "beng"
  | .thai => "thai"
  | .hanidec => "hanidec"
  | .fullwide => "fullwide"

/-- The numbering system with a given name. -/
def ofName (name : String) : Except FormatError NumberingSystem :=
  match all.find? (fun system => system.name == name) with
  | some system => .ok system
  | none => .error (.invalidSetting .numberingSystem name)

/-- The ten digits of a numbering system, zero first. -/
def digits : NumberingSystem → Vector Char 10
  | .latn => #v['0', '1', '2', '3', '4', '5', '6', '7', '8', '9']
  | .arab => #v['٠', '١', '٢', '٣', '٤', '٥', '٦', '٧', '٨', '٩']
  | .arabext => #v['۰', '۱', '۲', '۳', '۴', '۵', '۶', '۷', '۸', '۹']
  | .deva => #v['०', '१', '२', '३', '४', '५', '६', '७', '८', '९']
  | .beng => #v['০', '১', '২', '৩', '৪', '৫', '৬', '৭', '৮', '৯']
  | .thai => #v['๐', '๑', '๒', '๓', '๔', '๕', '๖', '๗', '๘', '๙']
  | .hanidec => #v['〇', '一', '二', '三', '四', '五', '六', '七', '八', '九']
  | .fullwide => #v['０', '１', '２', '３', '４', '５', '６', '７', '８', '９']

/-- The character that stands for `c` in a text of this system: an ASCII digit becomes the digit
of the same value, any other character is kept. -/
def transcribeChar (system : NumberingSystem) (c : Char) : Char :=
  if c.isDigit then system.digits.get (Fin.ofNat 10 (c.toNat - '0'.toNat)) else c

/-- A text with its ASCII digits replaced by the digits of this system. -/
def transcribe (system : NumberingSystem) (chars : List Char) : List Char :=
  chars.map system.transcribeChar

/-- Digits are replaced one for one. -/
theorem length_transcribe (system : NumberingSystem) (chars : List Char) :
    (system.transcribe chars).length = chars.length := by
  rw [transcribe, List.length_map]

/-- A text is transcribed part by part. -/
theorem transcribe_append (system : NumberingSystem) (xs ys : List Char) :
    system.transcribe (xs ++ ys) = system.transcribe xs ++ system.transcribe ys := by
  rw [transcribe, transcribe, transcribe, List.map_append]

/-- The number `n` with at least `minDigits` digits. Padding never cuts a number short. -/
def numeral (system : NumberingSystem) (minDigits n : Nat) : String :=
  String.ofList (system.transcribe (paddedDigits minDigits n))

/-- The characters of a numeral are its padded digits, transcribed. -/
theorem toList_numeral (system : NumberingSystem) (minDigits n : Nat) :
    (system.numeral minDigits n).toList = system.transcribe (paddedDigits minDigits n) := by
  rw [numeral, String.toList_ofList]

/-- The integer `n` with at least `minDigits` digits after its sign, which is written for negative
numbers only. -/
def signedNumeral (system : NumberingSystem) (minDigits : Nat) (n : Int) : String :=
  (if n < 0 then "-" else "") ++ system.numeral minDigits n.natAbs

/-- A natural number has no sign. -/
theorem signedNumeral_natCast (system : NumberingSystem) (minDigits n : Nat) :
    system.signedNumeral minDigits n = system.numeral minDigits n := by
  rw [signedNumeral, if_neg (by omega), String.empty_append, Int.natAbs_natCast]

end NumberingSystem

end TemporalFormat
