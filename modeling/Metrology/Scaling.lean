import Metrology.Registry

/-!
# Scaling to a readable unit

A value is moved along the neighbours of its unit until it is at least one and
would be less than one in the next larger unit.
-/

namespace Metrology

namespace MeasureUnit

variable {α : Type} [Scalar α]

/-- A value of one unit in another. -/
def rescale (source target : MeasureUnit α) (value : α) : α :=
  target.ofSI (source.toSI value)

end MeasureUnit

namespace Quantity

variable {α : Type} [Scalar α]

/-- Whether a value counts at least one unit. -/
def atLeastOne (value : α) : Bool :=
  Scalar.less 1 (Scalar.absolute value) || Scalar.same (Scalar.absolute value) 1

/-- The value in the next larger unit, if it counts at least one there. -/
def enlarge? (quantity : Quantity α) (value : α) (unit : MeasureUnit α) :
    Option (α × MeasureUnit α) := do
  let larger ← unit.larger.bind quantity.findUnit?
  let scaled := unit.rescale larger value
  if atLeastOne scaled then some (scaled, larger) else none

/-- The value in the next smaller unit, if it counts less than one. -/
def reduce? (quantity : Quantity α) (value : α) (unit : MeasureUnit α) :
    Option (α × MeasureUnit α) :=
  if Scalar.less (Scalar.absolute value) 1 then do
    let smaller ← unit.smaller.bind quantity.findUnit?
    some (unit.rescale smaller value, smaller)
  else none

/-- Move a value along the neighbours until it settles, in at most `count`
rounds. -/
def settle? (quantity : Quantity α) :
    Nat → α → MeasureUnit α → Option (α × MeasureUnit α)
  | 0, _, _ => none
  | count + 1, value, unit =>
      match quantity.enlarge? value unit with
      | some (next, larger) => quantity.settle? count next larger
      | none =>
        match quantity.reduce? value unit with
        | some (next, smaller) => quantity.settle? count next smaller
        | none => some (value, unit)

end Quantity

namespace Registry

variable {α : Type} [Scalar α]

/-- A value of a unit in the unit of the same quantity that reads best.  Zero
and values that are not finite stay as they are. -/
def autoScale (registry : Registry α) (value : α) (expression : String) :
    Except Error (α × String) := do
  let entry ← registry.findUnit expression
  if Scalar.isZero value || !Scalar.isFinite value then
    .ok (value, entry.expression)
  else
    match entry.quantity.settle? registry.stepLimit value entry.unit with
    | some (settled, unit) => .ok (settled, unit.expression)
    | none => .error (.internal s!"auto-scaling '{expression}' did not settle")

end Registry

end Metrology
