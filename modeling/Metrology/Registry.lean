import Metrology.Definition.Builtin
import Metrology.Quantity
import Metrology.Settings
import Metrology.Text.LowerCase

/-!
# Registries

A registry is a list of quantities that only grows at its end.  Its look-ups
search the units in the order of registration, so the first answer stays the
answer.
-/

namespace Metrology

structure Registry (α : Type) where
  /-- The quantities in the order of registration. -/
  quantities : List (Quantity α)
  /-- Former names with present ones. -/
  legacy : List (String × String)
  /-- Whether quantities may be added. -/
  growth : Bool
  /-- The greatest number of steps in one conversion. -/
  stepLimit : Nat

/-- A unit at its place in a registry. -/
structure UnitEntry (α : Type) where
  quantityIndex : Nat
  unitIndex : Nat
  quantity : Quantity α
  unit : MeasureUnit α

namespace UnitEntry

variable {α : Type}

/-- Two entries of one registry are the same when their places are. -/
def samePlace (left right : UnitEntry α) : Bool :=
  left.quantityIndex == right.quantityIndex && left.unitIndex == right.unitIndex

def expression (entry : UnitEntry α) : String :=
  entry.unit.expression

def dimension (entry : UnitEntry α) : Dimension :=
  entry.quantity.dimension

/-- The SI unit of the quantity that owns the unit. -/
def siUnit [Scalar α] (entry : UnitEntry α) : Except Error (MeasureUnit α) :=
  match entry.quantity.siUnit? with
  | some unit => .ok unit
  | none => .error (.internal s!"quantity '{entry.quantity.name}' lost its SI unit")

end UnitEntry

namespace Registry

variable {α : Type}

def size (registry : Registry α) : Nat :=
  registry.quantities.length

/-- All units, quantity by quantity. -/
def entries (registry : Registry α) : List (UnitEntry α) :=
  registry.quantities.zipIdx.flatMap fun (quantity, quantityIndex) =>
    quantity.units.zipIdx.map fun (unit, unitIndex) =>
      { quantityIndex, unitIndex, quantity, unit }

/-! ## Look-up -/

/-- The first quantity of a dimension. -/
def ownerOf? (registry : Registry α) (dimension : Dimension) : Option (Quantity α) :=
  registry.quantities.find? (·.dimension == dimension)

/-- The present name for a former one. -/
def presentName? (registry : Registry α) (former : String) : Option String :=
  registry.legacy.lookup former

/-- A quantity by its present or former name. -/
def findByName? (registry : Registry α) (name : String) : Option (Quantity α) :=
  let present := (registry.presentName? name).getD name
  registry.quantities.find? (·.name == present)

/-- The first unit with exactly this expression. -/
def findExpression? (registry : Registry α) (expression : String) :
    Option (UnitEntry α) :=
  registry.entries.find? (·.unit.expression == expression)

/-- The first unit with exactly this display name. -/
def findDisplayName? (registry : Registry α) (name : String) :
    Option (UnitEntry α) :=
  registry.entries.find? (·.unit.name == name)

/-- The unit that a former unit name stands for. -/
def findFormerName? (registry : Registry α) (name : String) :
    Option (UnitEntry α) :=
  (registry.presentName? name).bind registry.findExpression?

/-- A small text without a plural `s`, unless nothing else is in it. -/
def singular? (small : List Char) : Option (List Char) :=
  if small.getLast? = some 's' ∧ 1 < small.length then some small.dropLast else none

/-- The small texts that a token names when its case and a plural `s` at its end
are disregarded. -/
def looseForms (token : String) : List (List Char) :=
  let small := Text.lower token.toList
  small :: (singular? small).toList

/-- The units whose expression or display name matches a token loosely. -/
def looseMatches (registry : Registry α) (token : String) : List (UnitEntry α) :=
  let forms := looseForms token
  registry.entries.filter fun entry =>
    entry.unit.expression != "" &&
      (forms.contains (Text.lower entry.unit.expression.toList) ||
        forms.contains (Text.lower entry.unit.name.toList))

/-- The unit that a token stands for: its expression, its display name, its
former name, or else the only unit that matches loosely. -/
def findUnit (registry : Registry α) (token : String) :
    Except Error (UnitEntry α) :=
  let token := Text.trimmed token
  match registry.findExpression? token with
  | some entry => .ok entry
  | none =>
    match registry.findDisplayName? token with
    | some entry => .ok entry
    | none =>
      match registry.findFormerName? token with
      | some entry => .ok entry
      | none =>
        match registry.looseMatches token with
        | [] => .error (.unknownUnit token)
        | [entry] => .ok entry
        | candidates => .error (.ambiguousUnit token (candidates.map (·.expression)))

/-- The units of a quantity that are offered for choice. -/
def visibleUnits (registry : Registry α) (name : String) :
    Except Error (List (MeasureUnit α)) :=
  match registry.findByName? name with
  | some quantity => .ok quantity.visibleUnits
  | none => .error (.unknownUnit s!"no quantity named '{name}'")

/-! ## Growth -/

/-- The registry with one more quantity. -/
def append (registry : Registry α) (quantity : Quantity α) : Registry α :=
  { registry with quantities := registry.quantities ++ [quantity] }

variable [Scalar α]

/-- Register a derived quantity unless its dimension has an owner already.  The
owner is returned with the registry as it is afterwards. -/
def registerDerived (registry : Registry α) (quantity : Quantity α) :
    Except Error (Quantity α × Registry α) :=
  match registry.ownerOf? quantity.dimension with
  | some owner => .ok (owner, registry)
  | none =>
      if !registry.growth then
        .error (.unknownUnit ("no quantity for dimension " ++ quantity.dimension.text))
      else if quantity.siUnit?.isNone then
        .error (.internal s!"derived quantity '{quantity.name}' has no SI unit")
      else .ok (quantity, registry.append quantity)

/-! ## Loading -/

/-- The first failure to take the expression of a unit apart. -/
def splitUnits (name : String) (units : List (MeasureUnit α)) :
    Except Error Unit :=
  units.forM fun unit =>
    match UnitExpression.split unit.expression with
    | .ok _ => .ok ()
    | .error failure => .error (.definition s!"unit of '{name}': {failure.message}")

/-- Add a base quantity whose dimension is free and whose unit expressions can
be taken apart. -/
def define (registry : Registry α) (definition : QuantityDefinition α) :
    Except Error (Registry α) :=
  match registry.ownerOf? definition.dimension with
  | some owner =>
      .error (.definition (s!"quantities '{owner.name}' and '{definition.name}'" ++
        " share dimension " ++ definition.dimension.text))
  | none => do
      let quantity ← Quantity.base definition.name definition.symbol
        definition.dimension definition.units definition.preferred
      splitUnits definition.name quantity.units
      .ok (registry.append quantity)

/-- The registry without quantities, as settings ask for it. -/
def empty (settings : Settings) (legacy : List (String × String)) : Registry α :=
  { quantities := []
    legacy
    growth := settings.growth
    stepLimit := max 1 settings.stepLimit }

/-- The registry of a document, as settings ask for it. -/
def ofDefinitions (definitions : Definitions α) (settings : Settings) :
    Except Error (Registry α) :=
  definitions.quantities.foldlM define (empty settings definitions.legacy)

/-- The registry of the built-in document. -/
def builtin : Except Error (Registry α) :=
  ofDefinitions Definitions.builtin {}

/-- The registry that settings ask for, given the file of the document that
they name. -/
def ofSettings (settings : Settings) (file : Option SourceFile) :
    Except Error (Registry α) :=
  match file with
  | none => ofDefinitions Definitions.builtin settings
  | some file =>
      match file.text with
      | .error reason => .error (.definition reason)
      | .ok text => do
          let definitions ← Definitions.ofText text
          ofDefinitions definitions settings

end Registry

end Metrology
