import Metrology.Number.Scalar
import Metrology.UnitExpression

/-!
# Units of measure

A unit is one scale of a quantity.  Values written in it reach the SI scale by
an affine map, and units multiply, divide and take powers together with the
expressions that name them.
-/

namespace Metrology

/-- One scale: `si = value * slope + intercept`. -/
structure MeasureUnit (α : Type) where
  /-- The expression of the unit, such as `kg` or `J/kg`. -/
  expression : String
  /-- The name shown to people. -/
  name : String
  slope : α
  intercept : α
  /-- The expression of the next larger unit, if scaling may go there. -/
  larger : Option String
  /-- The expression of the next smaller unit, if scaling may go there. -/
  smaller : Option String
  /-- Whether the unit is offered for choice. -/
  visible : Bool
  deriving DecidableEq, Repr

namespace MeasureUnit

variable {α : Type} [Scalar α]

/-- A visible unit without neighbours whose scale is proportional. -/
def proportional (expression name : String) (slope : α) : MeasureUnit α :=
  ⟨expression, name, slope, 0, none, none, true⟩

/-- Whether the unit is the SI scale itself. -/
def isSI (unit : MeasureUnit α) : Bool :=
  Scalar.same unit.slope 1 && Scalar.same unit.intercept 0

def hasOffset (unit : MeasureUnit α) : Bool :=
  !Scalar.same unit.intercept 0

/-- A value of the unit on the SI scale. -/
def toSI (unit : MeasureUnit α) (value : α) : α :=
  value * unit.slope + unit.intercept

/-- A value of the SI scale in the unit. -/
def ofSI (unit : MeasureUnit α) (value : α) : α :=
  (value - unit.intercept) / unit.slope

/-- The unit raised to a power.  Offsets and neighbours are lost, except by the
first power, which changes nothing. -/
def power (unit : MeasureUnit α) (exponent : Int) : MeasureUnit α :=
  if exponent = 1 then unit
  else
    { expression := UnitExpression.product [(unit.expression, exponent)]
      name := unit.name ++ "^" ++ exponent.repr
      slope := Scalar.powerInt unit.slope exponent
      intercept := 0
      larger := none
      smaller := none
      visible := unit.visible }

theorem power_one (unit : MeasureUnit α) : unit.power 1 = unit :=
  if_pos rfl

theorem expression_power (unit : MeasureUnit α) {exponent : Int} (several : exponent ≠ 1) :
    (unit.power exponent).expression =
      UnitExpression.product [(unit.expression, exponent)] := by
  rw [power, if_neg several]

theorem intercept_power (unit : MeasureUnit α) {exponent : Int} (several : exponent ≠ 1) :
    (unit.power exponent).intercept = 0 := by
  rw [power, if_neg several]

/-- The product of two units.  The neighbours are those of the left factor. -/
def multiply (left right : MeasureUnit α) : MeasureUnit α :=
  let beside (expression : String) :=
    UnitExpression.product [(expression, 1), (right.expression, 1)]
  { expression := beside left.expression
    name := left.name ++ " " ++ right.name
    slope := left.slope * right.slope
    intercept := 0
    larger := left.larger.map beside
    smaller := left.smaller.map beside
    visible := left.visible && right.visible }

theorem expression_multiply (left right : MeasureUnit α) :
    (left.multiply right).expression =
      UnitExpression.product [(left.expression, 1), (right.expression, 1)] := by
  rw [multiply]

/-- The quotient of two units.  The neighbours are those of the numerator. -/
def divide (left right : MeasureUnit α) : MeasureUnit α :=
  let beside (expression : String) :=
    UnitExpression.product [(expression, 1), (right.expression, -1)]
  { expression := beside left.expression
    name := left.name ++ " per " ++ right.name
    slope := left.slope / right.slope
    intercept := 0
    larger := left.larger.map beside
    smaller := left.smaller.map beside
    visible := left.visible && right.visible }

theorem expression_divide (left right : MeasureUnit α) :
    (left.divide right).expression =
      UnitExpression.product [(left.expression, 1), (right.expression, -1)] := by
  rw [divide]

end MeasureUnit

end Metrology
