import Metrology.Normalization

/-!
# Amounts

An amount is a magnitude on the SI scale together with its dimension.  Sums and
comparisons need equal dimensions; products, quotients and powers combine them.
-/

namespace Metrology

structure Amount (α : Type) where
  magnitude : α
  dimension : Dimension
  deriving DecidableEq, Repr

namespace Amount

variable {α : Type} [Scalar α]

/-- An amount of the dimensionless kind. -/
def ratio (magnitude : α) : Amount α :=
  ⟨magnitude, .ratio⟩

/-- A value of a unit expression as an amount. -/
def ofUnit (value : α) (expression : String) : Attempt (Registry α) (Amount α) := do
  let normalized ← Registry.normalizing expression
  return ⟨normalized.toSI value, normalized.dimension⟩

/-- The amount as a value of a unit expression of the same dimension. -/
def inUnit (amount : Amount α) (expression : String) : Attempt (Registry α) α := do
  let normalized ← Registry.normalizing expression
  if normalized.dimension ≠ amount.dimension then
    throw (.incompatible amount.dimension.text
      (expression ++ " [" ++ normalized.dimension.text ++ "]"))
  else return normalized.ofSI amount.magnitude

def isRatio (amount : Amount α) : Bool :=
  amount.dimension.isRatio

def isZero (amount : Amount α) : Bool :=
  Scalar.isZero amount.magnitude

/-- Equal dimensions and magnitudes that compare equal. -/
def same (left right : Amount α) : Bool :=
  Scalar.same left.magnitude right.magnitude && left.dimension == right.dimension

/-! ## Arithmetic -/

/-- Combine the magnitudes of amounts of one dimension. -/
def combine {β : Type} (operation : α → α → β) (left right : Amount α) :
    Except Error β :=
  if left.dimension = right.dimension then
    .ok (operation left.magnitude right.magnitude)
  else .error (.incompatible left.dimension.text right.dimension.text)

def add (left right : Amount α) : Except Error (Amount α) :=
  (left.combine (· + ·) right).map (⟨·, left.dimension⟩)

def sub (left right : Amount α) : Except Error (Amount α) :=
  (left.combine (· - ·) right).map (⟨·, left.dimension⟩)

def mul (left right : Amount α) : Except Error (Amount α) :=
  (left.dimension.plus right.dimension).map (⟨left.magnitude * right.magnitude, ·⟩)

def div (left right : Amount α) : Except Error (Amount α) :=
  (left.dimension.minus right.dimension).map (⟨left.magnitude / right.magnitude, ·⟩)

def powerInt (amount : Amount α) (exponent : Int) : Except Error (Amount α) :=
  (amount.dimension.times exponent).map
    (⟨Scalar.powerInt amount.magnitude exponent, ·⟩)

def neg (amount : Amount α) : Amount α :=
  { amount with magnitude := -amount.magnitude }

def scale (amount : Amount α) (factor : α) : Amount α :=
  { amount with magnitude := amount.magnitude * factor }

def unscale (amount : Amount α) (divisor : α) : Amount α :=
  { amount with magnitude := amount.magnitude / divisor }

/-- How two amounts of one dimension compare, if their magnitudes do. -/
def compare? (left right : Amount α) : Except Error (Option Ordering) :=
  left.combine Scalar.compare? right

/-- Whether two amounts of one dimension differ by no more than a part of the
larger one, or of one when both are smaller. -/
def isNear (left right : Amount α) (tolerance : α) : Bool :=
  let size := Scalar.larger
    (Scalar.larger (Scalar.absolute left.magnitude) (Scalar.absolute right.magnitude)) 1
  let distance := Scalar.absolute (left.magnitude - right.magnitude)
  left.dimension == right.dimension &&
    (Scalar.less distance (tolerance * size) ||
      Scalar.same distance (tolerance * size))

/-- The magnitude and, unless it is a pure number, the dimension. -/
def text (amount : Amount α) : String :=
  if amount.isRatio then Scalar.plainText amount.magnitude
  else Scalar.plainText amount.magnitude ++ " [" ++ amount.dimension.text ++ "]"

end Amount

end Metrology
