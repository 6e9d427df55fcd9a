import Metrology.Attempt
import Metrology.Conversion

/-!
# Normalization of unit expressions

Every unit expression that anything is given in is normalized first: its tokens
are resolved, its dimension is found, and the quantity that owns the dimension
is looked up, or derived from the factors and registered.
-/

namespace Metrology

/-- What an expression comes to. -/
structure Normalized (α : Type) where
  /-- The expression of the SI unit of the same quantity. -/
  siExpression : String
  /-- The expression with the registered spelling of its units. -/
  userExpression : String
  dimension : Dimension
  /-- The name of the quantity that owns the dimension. -/
  quantity : String
  slope : α
  intercept : α
  deriving DecidableEq, Repr

namespace Normalized

variable {α : Type} [Scalar α]

def toSI (normalized : Normalized α) (value : α) : α :=
  value * normalized.slope + normalized.intercept

def ofSI (normalized : Normalized α) (value : α) : α :=
  (value - normalized.intercept) / normalized.slope

end Normalized

namespace Registry

variable {α : Type}

/-! ## Resolving -/

/-- Resolve terms one after another onto factors with distinct units. -/
def resolveTerms (registry : Registry α) :
    List (Factor α) → List UnitTerm → Except Error (List (Factor α))
  | factors, [] => .ok factors
  | factors, term :: rest => do
      let entry ← registry.findUnit term.token
      resolveTerms registry (Factor.addPower entry term.exponent factors) rest

/-- The factors of an expression.  An expression that is registered as a whole
is one factor; cancelled units are left out. -/
def factors (registry : Registry α) (expression : String) :
    Except Error (List (Factor α)) :=
  let expression := Text.trimmed expression
  if expression.isEmpty then .ok []
  else
    match registry.findExpression? expression with
    | some entry => .ok [⟨entry, 1⟩]
    | none => do
        let terms ← UnitExpression.split expression
        let resolved ← registry.resolveTerms [] terms
        .ok (resolved.filter (·.exponent ≠ 0))

variable [Scalar α]

/-- The conversion plan of an expression. -/
def plan (registry : Registry α) (expression : String) :
    Except Error (ConversionPlan α) := do
  ConversionPlan.ofFactors (← registry.factors expression) registry.stepLimit

/-! ## Deriving the quantity -/

/-- Multiply a quantity, if there is one, by the power of a factor's quantity. -/
def multiplyOnto (product : Option (Quantity α)) (factor : Factor α) :
    Except Error (Option (Quantity α)) := do
  let powered ← factor.entry.quantity.power factor.exponent.natAbs
  match product with
  | none => .ok (some powered)
  | some product => do
      let next ← product.product powered
      .ok (some next)

/-- The product of the quantities of factors, if there are any. -/
def productOf (factors : List (Factor α)) : Except Error (Option (Quantity α)) :=
  factors.foldlM multiplyOnto none

/-- What stands above the slash when no factor does. -/
def neutralQuantity (registry : Registry α) : Except Error (Quantity α) :=
  match registry.ownerOf? Dimension.ratio with
  | some quantity => .ok quantity
  | none => .error (.internal "no ratio quantity registered")

/-- Derive the quantity of factors whose dimension has no owner, and register
it. -/
def synthesize (registry : Registry α) (factors : List (Factor α))
    (dimension : Dimension) (expression : String) :
    Except Error (Quantity α × Registry α) :=
  if !registry.growth then
    .error (.unknownUnit (Text.trimmed expression ++
      " (no quantity for dimension " ++ dimension.text ++ ")"))
  else do
    let above ← productOf (Factor.above factors)
    let below ← productOf (Factor.below factors)
    let numerator ← match above with
      | some quantity => .ok quantity
      | none => registry.neutralQuantity
    let derived ← numerator.derive below
    if derived.dimension ≠ dimension then
      .error (.internal (s!"derived quantity '{derived.name}' has dimension " ++
        derived.dimension.text ++ " instead of " ++ dimension.text))
    else registry.registerDerived derived

/-- The owner of a dimension, derived from factors if there is none yet. -/
def ownerOrDerived (registry : Registry α) (factors : List (Factor α))
    (dimension : Dimension) (expression : String) :
    Except Error (Quantity α × Registry α) :=
  match registry.ownerOf? dimension with
  | some owner => .ok (owner, registry)
  | none => registry.synthesize factors dimension expression

/-! ## Normalizing -/

/-- Normalize an expression.  The registry is returned as it is afterwards. -/
def normalize (registry : Registry α) (expression : String) :
    Except Error (Normalized α × Registry α) := do
  let factors ← registry.factors expression
  let dimension ← Factor.dimension factors
  let plan ← ConversionPlan.ofFactors factors registry.stepLimit
  let (owner, grown) ← registry.ownerOrDerived factors dimension expression
  match owner.siUnit? with
  | none => .error (.internal s!"quantity '{owner.name}' has no SI unit")
  | some unit =>
      .ok
        ({ siExpression := unit.expression
           userExpression := UnitExpression.product
             (factors.map fun factor => (factor.entry.expression, factor.exponent))
           dimension
           quantity := owner.name
           slope := plan.affine.1
           intercept := plan.affine.2 }, grown)

/-- `normalize` as an attempt on the registry. -/
def normalizing (expression : String) : Attempt (Registry α) (Normalized α) :=
  Attempt.ofStep fun registry => registry.normalize expression

/-! ## Converting -/

/-- A value of an expression on the SI scale. -/
def toSI (registry : Registry α) (value : α) (expression : String) :
    Except Error α := do
  .ok ((← registry.plan expression).toSI value)

/-- A value of the SI scale in an expression. -/
def ofSI (registry : Registry α) (value : α) (expression : String) :
    Except Error α := do
  .ok ((← registry.plan expression).ofSI value)

/-- A value of one expression in another one of the same dimension. -/
def convert (value : α) (source target : String) : Attempt (Registry α) α := do
  let from_source ← normalizing source
  let to_target ← normalizing target
  if from_source.dimension ≠ to_target.dimension then
    throw (.incompatible (source ++ " [" ++ from_source.dimension.text ++ "]")
      (target ++ " [" ++ to_target.dimension.text ++ "]"))
  else do
    let registry ← get
    let si ← Attempt.ofExcept (registry.toSI value source)
    Attempt.ofExcept (registry.ofSI si target)

end Registry

end Metrology
