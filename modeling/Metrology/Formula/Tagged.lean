import Metrology.Amount

/-!
# Tagged amounts

The result of a formula is an amount together with a tag: the unit expression
it is to be shown in, or nothing.
-/

namespace Metrology.Formula

structure Tagged (α : Type) where
  amount : Amount α
  tag : String
  deriving DecidableEq, Repr

namespace Tagged

variable {α : Type} [Scalar α]

def untagged (amount : Amount α) : Tagged α :=
  ⟨amount, ""⟩

/-- One for truth and zero for falsehood. -/
def ofBool (value : Bool) : Tagged α :=
  untagged (.ratio (if value then 1 else 0))

/-- Anything but zero counts as true. -/
def isTrue (value : Tagged α) : Bool :=
  !value.amount.isZero

/-- The expression of the SI unit for a dimension, or the dimension itself when
no quantity owns it. -/
def siExpression (registry : Registry α) (dimension : Dimension) : String :=
  (((registry.ownerOf? dimension).bind (·.siUnit?)).map (·.expression)).getD
    dimension.text

/-- The magnitude on the SI scale with its unit. -/
def shownInSI (value : Tagged α) : Attempt (Registry α) (α × String) := do
  let registry ← get
  return (value.amount.magnitude, siExpression registry value.amount.dimension)

/-- The value as it is shown: in the unit of its tag, or in the SI unit when
there is no tag or the tag has another dimension. -/
def shown (value : Tagged α) : Attempt (Registry α) (α × String) :=
  if value.tag.isEmpty then value.shownInSI
  else do
    let normalized ← Registry.normalizing value.tag
    if normalized.dimension = value.amount.dimension then
      return (normalized.ofSI value.amount.magnitude, normalized.userExpression)
    else value.shownInSI

def text (value : Tagged α) : String :=
  if value.tag.isEmpty then value.amount.text
  else value.amount.text ++ " (SI) \x7b" ++ value.tag ++ "\x7d"

/-- The tag of a sum or a difference: that of the left operand, if it has one. -/
def additiveTag (left right : String) : String :=
  if left.isEmpty then right else left

/-- The tag of a product, for `sign` one, or of a quotient, for minus one. -/
def multiplicativeTag (left right : String) (sign : Int) : String :=
  match UnitExpression.split left, UnitExpression.split right with
  | .ok leftTerms, .ok rightTerms =>
      UnitExpression.format (leftTerms ++ rightTerms.map fun term =>
        { term with exponent := term.exponent * sign })
  | _, _ => ""

end Tagged

end Metrology.Formula
