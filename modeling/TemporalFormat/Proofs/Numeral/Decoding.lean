import Mathlib.Algebra.Group.Nat.Defs
import Mathlib.Data.List.Basic
import Mathlib.Data.List.Lex
import Mathlib.Data.List.TakeWhile
import Mathlib.Data.String.Basic
import TemporalFormat.Numeral.System

/-!
# Reading numerals

A numeral can be read again. The value of a digit is its place among the digits of the system, and
reading undoes writing whatever the padding: `NumberingSystem.integer_signedNumeral`. So a numeral
tells its number. Numbers with a mark between them are read by the parts before and after the mark,
which is found because it is no digit.

Texts are compared character by character, and the first difference decides. Numerals of one width
come in the order of their numbers, since an ASCII digit comes before another one exactly when its
value is less: `paddedDigits_lt_iff`. Lists that are made up of parts of the same lengths are
compared part by part, `append_lt_append_iff`.
-/

set_option autoImplicit false

namespace TemporalFormat

/-- Padded digits are ASCII digits. -/
theorem isDigit_of_mem_paddedDigits {minDigits n : Nat} {c : Char}
    (h : c ∈ paddedDigits minDigits n) : c.isDigit = true := by
  rw [paddedDigits, List.leftpad, List.mem_append] at h
  rcases h with h | h
  · rw [List.eq_of_mem_replicate h]
    rfl
  · exact Nat.isDigit_of_mem_toDigits (by decide) (by decide) h

/-- Padding does not change the number that the digits are read as. -/
theorem ofDigitChars_paddedDigits (minDigits n : Nat) :
    Nat.ofDigitChars 10 (paddedDigits minDigits n) 0 = n := by
  rw [paddedDigits, List.leftpad, Nat.ofDigitChars_append, Nat.ofDigitChars_replicate_zero,
    Nat.mul_zero, Nat.ofDigitChars_ten_toDigits]

/-- What is asked for matters only as far as it changes the width. -/
theorem paddedDigits_congr {minDigits minDigits' n : Nat}
    (h : max minDigits (Nat.toDigits 10 n).length = max minDigits' (Nat.toDigits 10 n).length) :
    paddedDigits minDigits n = paddedDigits minDigits' n := by
  have hzeros : minDigits - (Nat.toDigits 10 n).length =
      minDigits' - (Nat.toDigits 10 n).length := by
    omega
  rw [paddedDigits, paddedDigits, List.leftpad, List.leftpad, hzeros]

/-- A number that fits has as many digits as asked for. -/
theorem length_paddedDigits_of_lt {minDigits n : Nat} (hpos : 0 < minDigits)
    (h : n < 10 ^ minDigits) : (paddedDigits minDigits n).length = minDigits := by
  have hle := (Nat.length_toDigits_le_iff (by decide) hpos).mpr h
  rw [length_paddedDigits]
  omega

/-! ## Marks -/

/-- What stands before the first mark of a kind, which is all there is without one. -/
def beforeMark (mark : Char) (chars : List Char) : List Char :=
  chars.takeWhile (· != mark)

/-- What stands after the first mark of a kind, which is nothing without one. -/
def afterMark (mark : Char) (chars : List Char) : List Char :=
  (chars.dropWhile (· != mark)).tail

section Marks

variable {mark : Char} {before : List Char} (h : mark ∉ before)

include h

/-- A character of a text without the mark is not the mark. -/
theorem bne_mark_of_mem {c : Char} (hc : c ∈ before) : (c != mark) = true :=
  bne_iff_ne.mpr fun heq => h (heq ▸ hc)

/-- What stands before the first mark is read again. -/
theorem beforeMark_append (after : List Char) :
    beforeMark mark (before ++ mark :: after) = before := by
  rw [beforeMark, List.takeWhile_append_of_pos fun _ => bne_mark_of_mem h,
    List.takeWhile_cons_of_neg (by simp), List.append_nil]

/-- What stands behind the first mark is read again. -/
theorem afterMark_append (after : List Char) :
    afterMark mark (before ++ mark :: after) = after := by
  rw [afterMark, List.dropWhile_append_of_pos fun _ => bne_mark_of_mem h,
    List.dropWhile_cons_of_neg (by simp), List.tail_cons]

/-- A text without the mark stands before it as a whole. -/
theorem beforeMark_of_notMem : beforeMark mark before = before :=
  List.takeWhile_eq_self_iff.mpr fun _ => bne_mark_of_mem h

/-- Nothing stands behind a mark that is not there. -/
theorem afterMark_of_notMem : afterMark mark before = [] := by
  rw [afterMark, List.dropWhile_eq_nil_iff.mpr fun _ => bne_mark_of_mem h, List.tail_nil]

/-- A mark that may be put in front is there only if it was put there. -/
theorem mem_ite_append_iff (marked : Prop) [Decidable marked] :
    mark ∈ (if marked then [mark] else []) ++ before ↔ marked := by
  rw [List.mem_append, or_iff_left h]
  split
  · rename_i hmarked
    exact iff_of_true List.mem_cons_self hmarked
  · rename_i hunmarked
    exact iff_of_false List.not_mem_nil hunmarked

end Marks

namespace NumberingSystem

variable (system : NumberingSystem)

/-- The value of a digit is its place among the digits of the system. -/
def digitValue (c : Char) : Nat :=
  system.digits.toList.idxOf c

/-- The number that a row of digits is read as. -/
def natural (chars : List Char) : Nat :=
  chars.foldl (fun n c => 10 * n + system.digitValue c) 0

/-- The number that a row of digits is read as when a sign may stand before it. -/
def integer : List Char → Int
  | [] => 0
  | c :: chars => if c = '-' then -system.natural chars else system.natural (c :: chars)

/-! ## Digits -/

/-- The digits of a system are told apart. -/
theorem nodup_digits : system.digits.toList.Nodup := by
  cases system <;> decide

/-- The minus is no digit in any system. -/
theorem minus_notMem_digits : '-' ∉ system.digits.toList := by
  cases system <;> decide

/-- The colon is no digit in any system. -/
theorem colon_notMem_digits : ':' ∉ system.digits.toList := by
  cases system <;> decide

/-- An ASCII digit is replaced by a digit of the system. -/
theorem transcribeChar_eq_getElem {c : Char} (h : c.isDigit = true) :
    ∃ hlt : c.toNat - '0'.toNat < system.digits.toList.length,
      system.transcribeChar c = system.digits.toList[c.toNat - '0'.toNat] := by
  have hlt : c.toNat - '0'.toNat < 10 := by
    have hrange := (Char.isDigit_iff_toNat.mp h).2
    have hnine : '9'.toNat = '0'.toNat + 9 := rfl
    omega
  have hlength : c.toNat - '0'.toNat < system.digits.toList.length := by
    rw [Vector.length_toList]
    exact hlt
  have hmod : (c.toNat - '0'.toNat) % 10 = c.toNat - '0'.toNat := Nat.mod_eq_of_lt hlt
  refine ⟨hlength, ?_⟩
  rw [transcribeChar, if_pos h]
  simp only [Vector.get, Fin.ofNat, hmod, Vector.getElem_toList]
  rfl

/-- What is no ASCII digit is kept. -/
theorem transcribeChar_eq_self {c : Char} (h : c.isDigit = false) :
    system.transcribeChar c = c := by
  rw [transcribeChar, h, if_neg Bool.false_ne_true]

/-- Transcribed digits are digits of the system. -/
theorem mem_digits_of_mem_transcribe {chars : List Char} (h : ∀ c ∈ chars, c.isDigit = true)
    {c : Char} (hc : c ∈ system.transcribe chars) : c ∈ system.digits.toList := by
  rw [transcribe, List.mem_map] at hc
  obtain ⟨d, hd, rfl⟩ := hc
  obtain ⟨hlt, hchar⟩ := system.transcribeChar_eq_getElem (h d hd)
  rw [hchar]
  exact List.getElem_mem hlt

/-- A digit has the value of the ASCII digit that it replaces. -/
theorem digitValue_transcribeChar {c : Char} (h : c.isDigit = true) :
    system.digitValue (system.transcribeChar c) = c.toNat - '0'.toNat := by
  obtain ⟨hlt, hchar⟩ := system.transcribeChar_eq_getElem h
  rw [digitValue, hchar, system.nodup_digits.idxOf_getElem]

/-! ## Numerals -/

/-- Transcribed digits are read as the same number. -/
theorem natural_transcribe {chars : List Char} (h : ∀ c ∈ chars, c.isDigit = true) :
    system.natural (system.transcribe chars) = Nat.ofDigitChars 10 chars 0 := by
  rw [natural, transcribe, Nat.ofDigitChars_eq_foldl, List.foldl_map]
  apply List.foldl_ext
  intro n c hc
  rw [system.digitValue_transcribeChar (h c hc)]

/-- The characters of a numeral are read as its number. -/
theorem natural_numeral (minDigits n : Nat) :
    system.natural (system.numeral minDigits n).toList = n := by
  rw [toList_numeral, natural_transcribe system fun _ => isDigit_of_mem_paddedDigits,
    ofDigitChars_paddedDigits]

/-- A numeral has digits of the system and nothing else. -/
theorem mem_digits_of_mem_numeral {minDigits n : Nat} {c : Char}
    (h : c ∈ (system.numeral minDigits n).toList) : c ∈ system.digits.toList := by
  rw [toList_numeral] at h
  exact system.mem_digits_of_mem_transcribe (fun _ => isDigit_of_mem_paddedDigits) h

/-- A numeral is never empty. -/
theorem numeral_ne_nil (minDigits n : Nat) : (system.numeral minDigits n).toList ≠ [] := by
  have hpos : 0 < (Nat.toDigits 10 n).length := Nat.length_toDigits_pos
  rw [← List.length_pos_iff, toList_numeral, length_transcribe, length_paddedDigits]
  omega

/-- A number that fits its width is as long as the width. -/
theorem length_numeral_of_lt {minDigits n : Nat} (hpos : 0 < minDigits) (h : n < 10 ^ minDigits) :
    (system.numeral minDigits n).toList.length = minDigits := by
  rw [toList_numeral, length_transcribe, length_paddedDigits_of_lt hpos h]

/-- No sign stands in a numeral without one. -/
theorem minus_notMem_numeral (minDigits n : Nat) :
    '-' ∉ (system.numeral minDigits n).toList :=
  fun h => system.minus_notMem_digits (system.mem_digits_of_mem_numeral h)

/-- A row of digits after a sign is read as a number that is not positive. -/
theorem integer_minus (chars : List Char) :
    system.integer ('-' :: chars) = -system.natural chars := by
  rw [integer, if_pos rfl]

/-- A row of digits without a sign is read as a natural number. -/
theorem integer_of_notMem {chars : List Char} (h : '-' ∉ chars) :
    system.integer chars = system.natural chars := by
  cases chars with
  | nil => rfl
  | cons c rest =>
    rw [List.mem_cons, not_or] at h
    rw [integer, if_neg (Ne.symm h.1)]

/-- The sign stands before the padding. -/
theorem toList_signedNumeral (minDigits : Nat) (n : Int) :
    (system.signedNumeral minDigits n).toList =
      (if n < 0 then ['-'] else []) ++ (system.numeral minDigits n.natAbs).toList := by
  rw [signedNumeral, String.toList_append]
  split <;> rfl

/-- **Reading undoes writing**, whatever the padding. -/
theorem integer_signedNumeral (minDigits : Nat) (n : Int) :
    system.integer (system.signedNumeral minDigits n).toList = n := by
  rw [toList_signedNumeral]
  split
  · rw [List.singleton_append, integer_minus, natural_numeral]
    omega
  · rw [List.nil_append,
      system.integer_of_notMem (system.minus_notMem_numeral minDigits n.natAbs), natural_numeral]
    omega

/-- Numerals are the same only for the same number. -/
theorem eq_of_signedNumeral_eq {minDigits minDigits' : Nat} {n n' : Int}
    (h : system.signedNumeral minDigits n = system.signedNumeral minDigits' n') : n = n' := by
  calc n = system.integer (system.signedNumeral minDigits n).toList :=
        (system.integer_signedNumeral minDigits n).symm
    _ = system.integer (system.signedNumeral minDigits' n').toList := by rw [h]
    _ = n' := system.integer_signedNumeral minDigits' n'

/-- A number has a character for its sign and one for each digit. -/
theorem length_signedNumeral_eq_add (minDigits : Nat) (n : Int) :
    (system.signedNumeral minDigits n).length =
      (if n < 0 then 1 else 0) + max minDigits (Nat.toDigits 10 n.natAbs).length := by
  have hsign : (if n < 0 then "-" else "").length = if n < 0 then 1 else 0 := by
    split <;> rfl
  rw [signedNumeral, String.length_append, hsign, ← String.length_toList, toList_numeral,
    length_transcribe, length_paddedDigits]

/-- **Numerals are the same only for the same number in the same width.** -/
theorem signedNumeral_eq_iff {minDigits minDigits' : Nat} {n n' : Int} :
    system.signedNumeral minDigits n = system.signedNumeral minDigits' n' ↔
      n = n' ∧ max minDigits (Nat.toDigits 10 n.natAbs).length =
        max minDigits' (Nat.toDigits 10 n.natAbs).length := by
  constructor
  · intro h
    obtain rfl := system.eq_of_signedNumeral_eq h
    have hlength := congrArg String.length h
    rw [length_signedNumeral_eq_add, length_signedNumeral_eq_add] at hlength
    exact ⟨rfl, Nat.add_left_cancel hlength⟩
  · rintro ⟨rfl, hwidth⟩
    rw [signedNumeral, signedNumeral, numeral, numeral, paddedDigits_congr hwidth]

/-- A number that fits has as many characters as digits are asked for. -/
theorem length_signedNumeral {minDigits n : Nat} (hpos : 0 < minDigits)
    (h : n < 10 ^ minDigits) :
    (system.signedNumeral minDigits n).toList.length = minDigits := by
  have hneg : ¬ (n : Int) < 0 := by omega
  rw [signedNumeral, if_neg hneg, String.empty_append, Int.natAbs_natCast,
    system.length_numeral_of_lt hpos h]

end NumberingSystem

/-! ## The order of numerals -/

/-- When the first parts of two lists have the same length, the second parts are compared only if
the first ones are the same. -/
theorem append_lt_append_iff {α : Type} [LinearOrder α] {xs xs' : List α}
    (hlength : xs.length = xs'.length) (ys ys' : List α) :
    xs ++ ys < xs' ++ ys' ↔ xs < xs' ∨ xs = xs' ∧ ys < ys' := by
  induction xs generalizing xs' with
  | nil =>
    obtain rfl := List.length_eq_zero_iff.mp hlength.symm
    simp
  | cons x rest ih =>
    cases xs' with
    | nil => cases hlength
    | cons x' rest' =>
      rw [List.cons_append, List.cons_append, List.cons_lt_cons_iff, List.cons_lt_cons_iff,
        ih (Nat.succ.inj hlength), List.cons.injEq]
      tauto

/-- The digits below ten come in the order of their values. -/
theorem digitChar_lt_iff {n m : Nat} (hn : n < 10) (hm : m < 10) :
    n.digitChar < m.digitChar ↔ n < m := by
  have hdigits : ∀ n < 10, ∀ m < 10, n.digitChar < m.digitChar ↔ n < m := by decide
  exact hdigits n hn m hm

/-- Numbers are told apart by their digits. -/
theorem paddedDigits_inj {width n m : Nat} :
    paddedDigits width n = paddedDigits width m ↔ n = m := by
  constructor
  · intro h
    rw [← ofDigitChars_paddedDigits width n, h, ofDigitChars_paddedDigits]
  · exact congrArg _

/-- A number below ten has one digit. -/
theorem paddedDigits_one {n : Nat} (h : n < 10) : paddedDigits 1 n = [n.digitChar] := by
  have hdigit : ∀ n < 10, paddedDigits 1 n = [n.digitChar] := by decide
  exact hdigit n h

/-- A number has the digits of its tens and a last digit for what is left over by them. -/
theorem paddedDigits_succ {width : Nat} (hwidth : 0 < width) (n : Nat) :
    paddedDigits (width + 1) n = paddedDigits width (n / 10) ++ [(n % 10).digitChar] := by
  have hmod : n % 10 < 10 := Nat.mod_lt n (by decide)
  rw [paddedDigits, paddedDigits, List.leftpad, List.leftpad]
  rcases Nat.eq_zero_or_pos (n / 10) with htens | htens
  · -- the digit of no tens is one of the zeros in front
    have hdigit : Nat.toDigits 10 n = [(n % 10).digitChar] := by
      rw [Nat.toDigits_of_lt_base (show n < 10 by omega), Nat.mod_eq_of_lt (by omega)]
    have hzero : Nat.toDigits 10 0 = List.replicate 1 '0' := rfl
    rw [htens, hzero, hdigit, List.length_replicate, List.replicate_append_replicate,
      Nat.sub_add_cancel hwidth, List.length_singleton, Nat.add_sub_cancel]
  · have hdigits : Nat.toDigits 10 n = Nat.toDigits 10 (n / 10) ++ [(n % 10).digitChar] := by
      rw [← Nat.toDigits_of_lt_base hmod, Nat.toDigits_append_toDigits (by decide) htens hmod,
        Nat.div_add_mod]
    rw [hdigits, List.length_append, List.length_singleton, Nat.add_sub_add_right,
      List.append_assoc]

/-- Numbers of one width come in the order of their digits. -/
theorem paddedDigits_lt_iff {width n m : Nat} (hwidth : 0 < width) (hn : n < 10 ^ width)
    (hm : m < 10 ^ width) : paddedDigits width n < paddedDigits width m ↔ n < m := by
  induction width, hwidth using Nat.le_induction generalizing n m with
  | base =>
    rw [Nat.pow_one] at hn hm
    rw [paddedDigits_one hn, paddedDigits_one hm, List.cons_lt_cons_iff, digitChar_lt_iff hn hm]
    simp
  | succ width hwidth ih =>
    rw [Nat.pow_succ] at hn hm
    have hn' : n / 10 < 10 ^ width := by omega
    have hm' : m / 10 < 10 ^ width := by omega
    have hlength : (paddedDigits width (n / 10)).length = (paddedDigits width (m / 10)).length := by
      rw [length_paddedDigits_of_lt hwidth hn', length_paddedDigits_of_lt hwidth hm']
    have hlast : [(n % 10).digitChar] < [(m % 10).digitChar] ↔ n % 10 < m % 10 := by
      rw [List.cons_lt_cons_iff, digitChar_lt_iff (Nat.mod_lt n (by decide))
        (Nat.mod_lt m (by decide))]
      simp
    -- the tens are compared first, and the last digits only if the tens are the same
    rw [paddedDigits_succ hwidth, paddedDigits_succ hwidth, append_lt_append_iff hlength,
      ih hn' hm', paddedDigits_inj, hlast]
    omega

end TemporalFormat
