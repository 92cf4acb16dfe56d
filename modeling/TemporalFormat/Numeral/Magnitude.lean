import TemporalFormat.Numeral.System

/-!
# Magnitudes and what they amount to

Durations are counted in magnitudes: numbers with the four operations, a truncation toward zero
and an exact reading. Binary floating-point numbers of 64 bits are what programs bring; rational
numbers are the same arithmetic without rounding. A magnitude is written from its reading, which is
an exact rational number or one of the values that are no number, and there are two ways to write
it: as a whole number and as a decimal. Both round a quotient of natural numbers to the nearer of
the whole numbers around it, and a rule says what to do half way.
-/

set_option autoImplicit false

namespace TemporalFormat

/-! ## Rounding quotients -/

/-- What to do with a quotient half way between two whole numbers. -/
inductive Tie where
  | awayFromZero
  | toEven
  deriving DecidableEq

/-- Whether a quotient half way above `below` is rounded up. -/
def Tie.roundsUp (tie : Tie) (below : Nat) : Bool :=
  match tie with
  | .awayFromZero => true
  | .toEven => below % 2 == 1

/-- The whole number nearest to `num / den`. -/
def roundQuotient (tie : Tie) (num den : Nat) : Nat :=
  let below := num / den
  let twice := 2 * (num % den)
  if twice < den then below
  else if den < twice then below + 1
  else if tie.roundsUp below then below + 1
  else below

/-- The rounded quotient is the whole number below, if what is left over is at most half of the
divisor, or the one above it, if what is left over is at least half. -/
theorem roundQuotient_cases (tie : Tie) (num den : Nat) :
    roundQuotient tie num den = num / den ∧ 2 * (num % den) ≤ den ∨
      roundQuotient tie num den = num / den + 1 ∧ den ≤ 2 * (num % den) := by
  by_cases hlt : 2 * (num % den) < den
  · exact Or.inl ⟨by rw [roundQuotient, if_pos hlt], Nat.le_of_lt hlt⟩
  · by_cases hgt : den < 2 * (num % den)
    · exact Or.inr ⟨by rw [roundQuotient, if_neg hlt, if_pos hgt], Nat.le_of_lt hgt⟩
    · by_cases hup : tie.roundsUp (num / den) = true
      · exact Or.inr ⟨by rw [roundQuotient, if_neg hlt, if_neg hgt, if_pos hup], by omega⟩
      · exact Or.inl ⟨by rw [roundQuotient, if_neg hlt, if_neg hgt, if_neg hup], by omega⟩

/-- The rounded quotient is within half a unit of the quotient. -/
theorem roundQuotient_near (tie : Tie) (num : Nat) {den : Nat} (h : 0 < den) :
    2 * (den * roundQuotient tie num den) ≤ 2 * num + den ∧
      2 * num ≤ 2 * (den * roundQuotient tie num den) + den := by
  have hdiv := Nat.div_add_mod num den
  have hmod := Nat.mod_lt num h
  obtain ⟨hr, hhalf⟩ | ⟨hr, hhalf⟩ := roundQuotient_cases tie num den
  · rw [hr]
    omega
  · rw [hr, Nat.mul_add]
    omega

/-- The number that is written with a one and `places` zeros. -/
def tenPower (places : Nat) : Nat :=
  Nat.pow 10 places

/-- The magnitude of `q` in units of the last of `places` decimal places, to the nearest unit and
half way to the even one. -/
def unitsOf (places : Nat) (q : Rat) : Nat :=
  roundQuotient .toEven (q.num.natAbs * tenPower places) q.den

/-- The integer nearest to `q`, half way away from zero. -/
def nearestInt (q : Rat) : Int :=
  q.num.sign * roundQuotient .awayFromZero q.num.natAbs q.den

/-! ## Readings -/

/-- The exact value of a magnitude. -/
inductive Reading where
  | notANumber
  | infinite (negative : Bool)
  | finite (value : Rat)
  deriving DecidableEq

/-- The parts of a decimal before padding and digit replacement. The fraction has no zeros at its
end, and is empty for a whole number. -/
structure DecimalParts where
  negative : Bool
  whole : List Char
  fraction : List Char
  deriving DecidableEq

/-- A list of digits without the zeros at its end. -/
def dropFinalZeros (digits : List Char) : List Char :=
  (digits.reverse.dropWhile (· == '0')).reverse

namespace Reading

/-- Whole numbers have 64 bits with the sign: they lie between minus this limit and one below
it. -/
def wholeLimit : Int :=
  9223372036854775808

/-- The nearest whole number, half way away from zero. Beyond 64 bits it is the outermost number
that has a place there, and what is no number counts as zero. -/
def toWhole : Reading → Int
  | .notANumber => 0
  | .infinite negative => if negative then -wholeLimit else wholeLimit - 1
  | .finite value => max (-wholeLimit) (min (wholeLimit - 1) (nearestInt value))

/-- The decimal with at most `places` fraction digits that is nearest, half way to the even one.
What rounds to zero has no sign. -/
def toDecimal (places : Nat) : Reading → DecimalParts
  | .notANumber => ⟨false, ['N', 'a', 'N'], []⟩
  | .infinite negative => ⟨negative, ['i', 'n', 'f'], []⟩
  | .finite value =>
    let units := unitsOf places value
    { negative := decide (value.num < 0 ∧ units ≠ 0)
      whole := Nat.toDigits 10 (units / tenPower places)
      fraction := dropFinalZeros (paddedDigits places (units % tenPower places)) }

end Reading

/-- A decimal with its whole part padded to `minDigits` characters. The separator stands only in
front of a fraction. -/
def DecimalParts.chars (parts : DecimalParts) (minDigits : Nat) (separator : Char) : List Char :=
  (if parts.negative then ['-'] else []) ++ parts.whole.leftpad minDigits '0' ++
    (if parts.fraction.isEmpty then [] else separator :: parts.fraction)

/-! ## Magnitudes -/

/-- The numbers in which durations are counted. -/
class Magnitude (α : Type) extends Add α, Sub α, Mul α, Div α where
  /-- The magnitude nearest to an integer. -/
  ofInt : Int → α
  /-- The magnitude without its fraction. -/
  truncate : α → α
  /-- The exact value of a magnitude. -/
  reading : α → Reading

namespace Binary64

/-- The sign bit of a word. -/
def isNegative (word : Nat) : Bool :=
  decide (1 <<< 63 ≤ word)

/-- The exponent field of a word, of 11 bits. -/
def exponentField (word : Nat) : Nat :=
  (word >>> 52) % 2048

/-- The fraction field of a word, of 52 bits. -/
def fractionField (word : Nat) : Nat :=
  word % (1 <<< 52)

/-- The exact value of a word whose exponent field is not the highest: a signed significand times a
power of two, where the lowest exponent field has no leading bit. -/
def finiteValue (word : Nat) : Rat :=
  let field := exponentField word
  let significand := if field = 0 then fractionField word else (1 <<< 52) + fractionField word
  let exponent := max 1 field
  let scaled : Nat := significand <<< (exponent - 1075)
  mkRat (if isNegative word then -(scaled : Int) else scaled) (1 <<< (1075 - exponent))

/-- The exact value of a number. -/
def reading (x : Float) : Reading :=
  let word := x.toBits.toNat
  if exponentField word = 2047 then
    if fractionField word = 0 then .infinite (isNegative word) else .notANumber
  else .finite (finiteValue word)

/-- The count of bits at the low end of a word that stand for what is below one: all but the sign
for a number below one, none for an integer. -/
def fractionBits (word : Nat) : Nat :=
  if exponentField word < 1023 then 63 else 1075 - exponentField word

/-- A number without its fraction: the bits below one are cleared, so the sign stays even when
nothing else does. -/
def truncate (x : Float) : Float :=
  let bits := x.toBits
  let dropped := UInt64.ofNat (fractionBits bits.toNat)
  Float.ofBits ((bits >>> dropped) <<< dropped)

end Binary64

instance : Magnitude Float where
  ofInt := Float.ofInt
  truncate := Binary64.truncate
  reading := Binary64.reading

instance : Magnitude Rat where
  ofInt := Rat.ofInt
  truncate q := Rat.ofInt (q.num.tdiv q.den)
  reading := .finite

end TemporalFormat
