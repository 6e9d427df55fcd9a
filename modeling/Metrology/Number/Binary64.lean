import Metrology.Number.Scalar
import Metrology.Number.Shortest

/-!
# Machine numbers

The 64-bit binary format: its words are taken apart into exact numbers and
made from exact numbers by rounding to nearest, ties to even.  With these the
machine numbers are scalars.
-/

namespace Metrology

namespace Binary64

/-- What a word denotes: `finite negative significand exponent` is
`± significand * 2 ^ exponent`. -/
inductive Datum where
  | undefined
  | infinite (negative : Bool)
  | finite (negative : Bool) (significand : Nat) (exponent : Int)
  deriving DecidableEq, Repr

/-- The exponent of the smallest positive number. -/
def leastExponent : Int := -1074

/-- The number of bits after the leading one. -/
def fractionBits : Nat := 52

/-- The word of positive infinity, which is also the first word above all
finite numbers. -/
def infinityWord : Nat := 2047 * Nat.pow 2 fractionBits

/-- Take a word apart. -/
def decode (word : Nat) : Datum :=
  let negative := word / Nat.pow 2 63 % 2 == 1
  let biased := word / Nat.pow 2 fractionBits % 2048
  let fraction := word % Nat.pow 2 fractionBits
  if biased = 2047 then
    if fraction = 0 then .infinite negative else .undefined
  else if biased = 0 then .finite negative fraction leastExponent
  else .finite negative (fraction + Nat.pow 2 fractionBits) (biased - 1 + leastExponent)

/-- The quotient of two naturals over `2 ^ shift`, as a fraction. -/
def scaled (numerator denominator : Nat) (shift : Int) : Nat × Nat :=
  (numerator * Nat.pow 2 (-shift).toNat, denominator * Nat.pow 2 shift.toNat)

/-- A fraction rounded to a whole number, ties to even. -/
def roundedQuotient (numerator denominator : Nat) : Nat :=
  let quotient := numerator / denominator
  let twice := 2 * (numerator % denominator)
  if denominator < twice ∨ (twice = denominator ∧ quotient % 2 = 1) then quotient + 1
  else quotient

/-- The exponent at which a positive fraction has a 53-bit significand, or the
least exponent if that is larger. -/
def exponentOf (numerator denominator : Nat) : Int :=
  let estimate := max ((numerator.log2 : Int) - denominator.log2 - 53) leastExponent
  let (above, below) := scaled numerator denominator estimate
  if Nat.pow 2 53 ≤ above / below then estimate + 1 else estimate

/-- The word of the machine number nearest to a fraction. -/
def encode (numerator denominator : Nat) : Nat :=
  if numerator = 0 then 0
  else
    let exponent := exponentOf numerator denominator
    let (above, below) := scaled numerator denominator exponent
    let significand := roundedQuotient above below
    let word := (exponent - leastExponent).toNat * Nat.pow 2 fractionBits + significand
    min word infinityWord

/-- The word of a decimal.  Decimals whose order of magnitude is far outside
the format are settled without expanding them. -/
def encodeDecimal (digits : Nat) (exponent : Int) : Nat :=
  let size : Int := digits.log2
  if digits = 0 ∨ exponent + ((size + 1) * 30103 / 100000 + 1) < -330 then 0
  else if 310 < exponent + size * 30102 / 100000 then infinityWord
  else encode (digits * Nat.pow 10 exponent.toNat) (Nat.pow 10 (-exponent).toNat)

/-- The word of the machine number nearest to a numeral. -/
def wordOfNumeral : Numeral → Nat
  | .undefined => infinityWord + Nat.pow 2 (fractionBits - 1)
  | .infinite negative => infinityWord + if negative then Nat.pow 2 63 else 0
  | .finite negative digits exponent =>
      encodeDecimal digits exponent + if negative then Nat.pow 2 63 else 0

/-- The shortest numeral that a word is nearest to. -/
def numeralOfWord (word : Nat) : Numeral :=
  match decode word with
  | .undefined => .undefined
  | .infinite negative => .infinite negative
  | .finite negative significand exponent =>
      if significand = 0 then .finite negative 0 0
      else
        let nearBelow := significand == Nat.pow 2 fractionBits && leastExponent < exponent
        let (digits, power) := BinaryPoint.shortest ⟨significand, exponent, nearBelow⟩
        .finite negative digits power

/-- The whole number that a word denotes, if it denotes one. -/
def intOfWord? (word : Nat) : Option Int :=
  match decode word with
  | .undefined => none
  | .infinite _ => none
  | .finite negative significand exponent =>
      let unit := Nat.pow 2 (-exponent).toNat
      if significand % unit = 0 then
        let size := significand * Nat.pow 2 exponent.toNat / unit
        some (if negative then -(size : Int) else size)
      else none

end Binary64

instance : Scalar Float where
  ofNumeral numeral := Float.ofBits (UInt64.ofNat (Binary64.wordOfNumeral numeral))
  toNumeral value := Binary64.numeralOfWord value.toBits.toNat
  same left right := left == right
  less left right := left < right
  absolute := Float.abs
  isFinite := Float.isFinite
  toInt? value := Binary64.intOfWord? value.toBits.toNat
  power := Float.pow
  exponential := Float.exp
  naturalLogarithm := Float.log
  decimalLogarithm := Float.log10
  sine := Float.sin
  cosine := Float.cos
  tangent := Float.tan
  arcsine := Float.asin
  arccosine := Float.acos
  arctangent := Float.atan

end Metrology
