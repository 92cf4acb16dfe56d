import Mathlib.Data.List.Forall2
import TemporalFormat.Proofs.Numeral.Decoding

/-!
# The same text in other digits

The texts of two numbering systems have the same length, and where they differ each has its own
digit of one value. `NumberingSystem.SameButDigits` compares a text in ASCII digits with one in the
digits of a system; numerals and decimals are related by it, since a number is padded and given its
sign and separator before any digit is replaced.
-/

set_option autoImplicit false

namespace TemporalFormat

namespace NumberingSystem

/-- What can stand in a text of a system where `c` stands in a text with ASCII digits: the same
character, or the digit of the same value. -/
def Counterpart (system : NumberingSystem) (c c' : Char) : Prop :=
  c = c' ∨ ∃ value : Fin 10, c = latn.digits.get value ∧ c' = system.digits.get value

/-- Two texts of the same length with counterparts at every place. -/
def SameButDigits (system : NumberingSystem) (s t : String) : Prop :=
  List.Forall₂ system.Counterpart s.toList t.toList

variable {system : NumberingSystem}

/-! ## Characters -/

/-- The ASCII digits are the digits of their own system. -/
theorem exists_latn_digit {c : Char} (h : c.isDigit = true) :
    ∃ value : Fin 10, c = latn.digits.get value ∧
      ∀ system : NumberingSystem, system.transcribeChar c = system.digits.get value := by
  have hzero := (Char.isDigit_iff_toNat.mp h).1
  have hvalue : c.toNat - '0'.toNat < 10 := by
    obtain ⟨hlt, -⟩ := latn.transcribeChar_eq_getElem h
    rwa [Vector.length_toList] at hlt
  refine ⟨⟨c.toNat - '0'.toNat, hvalue⟩, ?_, ?_⟩
  · have hdigits : ∀ value : Fin 10, latn.digits.get value = Char.ofNat ('0'.toNat + value) := by
      decide
    rw [hdigits, Nat.add_sub_cancel' hzero, Char.ofNat_toNat]
  · intro system
    obtain ⟨hlt, hchar⟩ := system.transcribeChar_eq_getElem h
    rw [hchar]
    simp [Vector.get]

/-- In ASCII digits every character is kept. -/
theorem transcribeChar_latn (c : Char) : latn.transcribeChar c = c := by
  cases h : c.isDigit with
  | true =>
    obtain ⟨value, hc, htranscribe⟩ := exists_latn_digit h
    rw [htranscribe, ← hc]
  | false => exact latn.transcribeChar_eq_self h

/-- In ASCII digits a text is kept. -/
theorem transcribe_latn (chars : List Char) : latn.transcribe chars = chars :=
  (List.map_congr_left fun c _ => transcribeChar_latn c).trans (List.map_id chars)

/-- A number that is not negative is written with ASCII digits in the same way by those who count
its sign among the characters and by those who do not. -/
theorem asciiNumber_eq_signedNumeral (width : Nat) {n : Int} (h : 0 ≤ n) :
    asciiNumber width n = latn.signedNumeral width n := by
  rw [asciiNumber, signedNumeral, if_neg (by omega), if_neg (by omega), numeral, transcribe_latn,
    String.empty_append]

/-- A character has a counterpart in every system. -/
theorem counterpart_transcribeChar (c : Char) : system.Counterpart c (system.transcribeChar c) := by
  cases h : c.isDigit with
  | true =>
    obtain ⟨value, hc, htranscribe⟩ := exists_latn_digit h
    exact Or.inr ⟨value, hc, htranscribe system⟩
  | false => exact Or.inl (system.transcribeChar_eq_self h).symm

/-! ## Texts -/

namespace SameButDigits

/-- Every text is the same but for its digits as itself. -/
theorem refl (s : String) : system.SameButDigits s s :=
  List.forall₂_same.mpr fun _ _ => Or.inl rfl

/-- Texts that are the same but for their digits are so in a row. -/
theorem append {s t s' t' : String} (h : system.SameButDigits s t)
    (h' : system.SameButDigits s' t') : system.SameButDigits (s ++ s') (t ++ t') := by
  unfold SameButDigits at *
  rw [String.toList_append, String.toList_append]
  exact List.rel_append h h'

/-- Both systems transcribe the same characters. -/
theorem transcribe (chars : List Char) :
    system.SameButDigits (String.ofList (latn.transcribe chars))
      (String.ofList (system.transcribe chars)) := by
  unfold SameButDigits
  rw [String.toList_ofList, String.toList_ofList]
  induction chars with
  | nil => exact .nil
  | cons c rest ih =>
    have hhead : system.Counterpart (latn.transcribeChar c) (system.transcribeChar c) := by
      rw [transcribeChar_latn]
      exact counterpart_transcribeChar c
    exact .cons hhead ih

/-- A number has the same numeral in all systems but for its digits. -/
theorem numeral (minDigits n : Nat) :
    system.SameButDigits (latn.numeral minDigits n) (system.numeral minDigits n) :=
  transcribe _

/-- The sign stands outside the padding and is no digit. -/
theorem signedNumeral (minDigits : Nat) (n : Int) :
    system.SameButDigits (latn.signedNumeral minDigits n) (system.signedNumeral minDigits n) :=
  (refl _).append (numeral minDigits n.natAbs)

end SameButDigits

end NumberingSystem

end TemporalFormat
