import Metrology.Number.Scalar

/-!
# Numbers as JSON text writes them

A number with a point or an exponent, or too long to stay whole, is read in two
parts: a significand, which takes digits as long as they fit a word, and a power
of ten.  Its scalar is the significand multiplied or divided by the power, so
that it need not be the nearest one.
-/

namespace Metrology.Json

/-- The number `± significand * 10 ^ exponent`. -/
structure Written where
  negative : Bool
  significand : Nat
  exponent : Int
  deriving DecidableEq, Repr

namespace Written

/-- The greatest significand, a word of 64 bits. -/
def greatestSignificand : Nat := 18446744073709551615

/-- Append digits to a significand up to the first one that would exceed a word.
The digits from there on are returned too. -/
def append (significand : Nat) : List Char → Nat × List Char
  | [] => (significand, [])
  | digit :: rest =>
      let next := significand * 10 + (digit.toNat - '0'.toNat)
      if next ≤ greatestSignificand then append next rest
      else (significand, digit :: rest)

/-- The number with the given digits before and after the point, and the given
exponent.  A digit of the integer that is left out counts as a zero, one of the
fraction not at all. -/
def ofDigits (negative : Bool) (integer fraction : List Char) (exponent : Int) :
    Written :=
  let (leading, beyond) := append 0 integer
  let (significand, cut) := append leading fraction
  { negative
    significand
    exponent := exponent + beyond.length - (fraction.length - cut.length : Nat) }

section

variable {α : Type} [Scalar α]

/-- The exponent of the greatest power of ten that one step multiplies or
divides by. -/
def greatestStep : Nat := 308

/-- The power of ten that one step multiplies or divides by. -/
def powerOfTen (exponent : Nat) : α :=
  Scalar.ofNumeral (.finite false 1 exponent)

/-- A magnitude times a power of ten, unless that is beyond the finite scalars.
A power out of reach is divided by in several steps. -/
def scaled (magnitude : α) (exponent : Int) : Option α :=
  if exponent.natAbs ≤ greatestStep then
    if exponent < 0 then some (magnitude / powerOfTen exponent.natAbs)
    else
      let product := magnitude * powerOfTen exponent.natAbs
      if Scalar.isFinite product then some product else none
  else if Scalar.isZero magnitude then some magnitude
  else if 0 ≤ exponent then none
  else scaled (magnitude / powerOfTen greatestStep) (exponent + greatestStep)
  termination_by (-exponent).toNat
  decreasing_by simp only [greatestStep]; omega

/-- The scalar that a number is read as. -/
def toScalar? (number : Written) : Option α :=
  (scaled (Scalar.ofInt number.significand) number.exponent).map fun magnitude =>
    if number.negative then -magnitude else magnitude

end

end Written

end Metrology.Json
