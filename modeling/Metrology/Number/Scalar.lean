import Metrology.Number.Layout

/-!
# Scalars

The numbers that magnitudes are made of, as a class of operations without
laws.  Everything that computes with magnitudes is written for any scalar, so
that it runs on machine numbers and can be reasoned about on exact ones.
-/

namespace Metrology

/-- The operations that magnitudes need. -/
class Scalar (α : Type) extends
    Zero α, One α, Add α, Sub α, Mul α, Div α, Neg α where
  /-- The number nearest to a numeral. -/
  ofNumeral : Numeral → α
  /-- The shortest numeral that denotes the number. -/
  toNumeral : α → Numeral
  /-- Equality as the numbers compare; an undefined number differs from itself. -/
  same : α → α → Bool
  less : α → α → Bool
  absolute : α → α
  isFinite : α → Bool
  /-- The whole number that a number is, if it is one. -/
  toInt? : α → Option Int
  power : α → α → α
  exponential : α → α
  naturalLogarithm : α → α
  decimalLogarithm : α → α
  sine : α → α
  cosine : α → α
  tangent : α → α
  arcsine : α → α
  arccosine : α → α
  arctangent : α → α

namespace Scalar

variable {α : Type} [Scalar α]

/-- The scalar that a whole number denotes. -/
def ofInt (value : Int) : α :=
  ofNumeral (Numeral.ofInt value)

/-- The scalar of a decimal: `decimal digits places` is `digits / 10 ^ places`. -/
def decimal (digits : Nat) (places : Nat) : α :=
  ofNumeral (.finite false digits (-(places : Int)))

def isZero (value : α) : Bool :=
  same value 0

/-- The larger of two numbers; an undefined one gives way. -/
def larger (left right : α) : α :=
  if less left right || !same left left then right else left

/-- How two numbers compare, if they do. -/
def compare? (left right : α) : Option Ordering :=
  if less left right then some .lt
  else if same left right then some .eq
  else if less right left then some .gt
  else none

/-- Multiply `result` by the power `count` of `base`, squaring `base` between
the binary digits of `count`. -/
def powerOnto (result base : α) (count : Nat) : α :=
  let next := if count % 2 = 1 then result * base else result
  if count / 2 = 0 then next
  else powerOnto next (base * base) (count / 2)
  termination_by count
  decreasing_by omega

/-- A whole power; a negative one is the reciprocal of the positive one. -/
def powerInt (base : α) (exponent : Int) : α :=
  let positive := powerOnto 1 base exponent.natAbs
  if exponent < 0 then 1 / positive else positive

/-- The readable text of a number. -/
def plainText (value : α) : String :=
  Layout.plain.text (toNumeral value)

/-- The text of a number that is always recognised as fractional. -/
def markedText (value : α) : String :=
  Layout.marked.text (toNumeral value)

/-- Read a number. -/
def read? (text : List Char) : Option α :=
  (Numeral.read? text).map ofNumeral

theorem powerInt_zero (base : α) : powerInt base 0 = 1 := by
  simp [powerInt, powerOnto]

end Scalar

end Metrology
