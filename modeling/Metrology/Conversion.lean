import Metrology.Registry

/-!
# Conversions

A conversion is a list of affine steps that take a value to the SI scale, one
for each power of each factor of a unit expression.  Read backwards it takes a
value of the SI scale to the expression.
-/

namespace Metrology

/-- A unit raised to a power. -/
structure Factor (α : Type) where
  entry : UnitEntry α
  exponent : Int

namespace Factor

variable {α : Type}

/-- Multiply terms with distinct units by a power of a unit. -/
def addPower (entry : UnitEntry α) (exponent : Int) :
    List (Factor α) → List (Factor α)
  | [] => [⟨entry, exponent⟩]
  | first :: rest =>
      if first.entry.samePlace entry then
        { first with exponent := first.exponent + exponent } :: rest
      else first :: addPower entry exponent rest

/-- The factors above the slash. -/
def above (factors : List (Factor α)) : List (Factor α) :=
  factors.filter (0 < ·.exponent)

/-- The factors below the slash. -/
def below (factors : List (Factor α)) : List (Factor α) :=
  factors.filter (·.exponent < 0)

/-- The dimension of the product of factors. -/
def dimension (factors : List (Factor α)) : Except Error Dimension :=
  factors.foldlM (fun sofar factor => do
    sofar.plus (← factor.entry.dimension.times factor.exponent)) Dimension.ratio

end Factor

/-- One affine step.  The step of a factor below the slash is the inverse of
its unit's map. -/
structure ConversionStep (α : Type) where
  slope : α
  intercept : α
  inverse : Bool
  deriving DecidableEq, Repr

namespace ConversionStep

variable {α : Type} [Scalar α]

def apply (step : ConversionStep α) (value : α) : α :=
  if step.inverse then (value - step.intercept) / step.slope
  else value * step.slope + step.intercept

def undo (step : ConversionStep α) (value : α) : α :=
  if step.inverse then value * step.slope + step.intercept
  else (value - step.intercept) / step.slope

/-- The slope and the intercept of this step after an affine map. -/
def after (step : ConversionStep α) (map : α × α) : α × α :=
  if step.inverse then
    (map.1 / step.slope, (map.2 - step.intercept) / step.slope)
  else (map.1 * step.slope, map.2 * step.slope + step.intercept)

end ConversionStep

/-- The steps that take a value to the SI scale, in order. -/
structure ConversionPlan (α : Type) where
  steps : List (ConversionStep α)
  deriving DecidableEq, Repr

namespace ConversionPlan

variable {α : Type} [Scalar α]

/-- The step of each single power of a factor. -/
def stepOf (factor : Factor α) : ConversionStep α :=
  ⟨factor.entry.unit.slope, factor.entry.unit.intercept, factor.exponent < 0⟩

/-- Add the steps of a factor, as long as they fit the limit. -/
def addFactor (limit : Nat) (plan : ConversionPlan α) (factor : Factor α) :
    Except Error (ConversionPlan α) := do
  let _ ← factor.entry.siUnit
  if plan.steps.length + factor.exponent.natAbs ≤ limit then
    .ok ⟨plan.steps ++ List.replicate factor.exponent.natAbs (stepOf factor)⟩
  else .error (.internal ("conversion needs more than " ++ limit.repr ++ " steps"))

/-- The plan of factors, those above the slash first. -/
def ofFactors (factors : List (Factor α)) (limit : Nat) :
    Except Error (ConversionPlan α) :=
  (Factor.above factors ++ Factor.below factors).foldlM (addFactor limit) ⟨[]⟩

/-- A value on the SI scale. -/
def toSI (plan : ConversionPlan α) (value : α) : α :=
  plan.steps.foldl (fun sofar step => step.apply sofar) value

/-- A value of the SI scale taken back. -/
def ofSI (plan : ConversionPlan α) (value : α) : α :=
  plan.steps.foldr (fun step sofar => step.undo sofar) value

/-- The slope and the intercept of the whole plan. -/
def affine (plan : ConversionPlan α) : α × α :=
  plan.steps.foldl (fun sofar step => step.after sofar) (1, 0)

end ConversionPlan

end Metrology
