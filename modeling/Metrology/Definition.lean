import Metrology.Dimension
import Metrology.Json.Decoder
import Metrology.MeasureUnit

/-!
# Definition documents

A document lists the base quantities with their units, and the names that have
been replaced by newer ones.  It is read from JSON and written as JSON.
-/

namespace Metrology

/-- A base quantity as a document states it. -/
structure QuantityDefinition (α : Type) where
  name : String
  symbol : String
  dimension : Dimension
  preferred : Nat
  units : List (MeasureUnit α)
  deriving DecidableEq, Repr

/-- A document. -/
structure Definitions (α : Type) where
  quantities : List (QuantityDefinition α)
  /-- Former names of quantities and units with their present names, in the
  order of the former names. -/
  legacy : List (String × String)
  deriving DecidableEq, Repr

namespace Definitions

/-! ## Reading -/

section

variable {α : Type} [Scalar α]

/-- A dimension written as its four exponents. -/
def readDimension : Json.Decoder Dimension
  | .array [mass, length, time, currency] => do
      let exponent := Json.Decoder.int (-2147483648) 2147483647
      let exponents : Exponents :=
        ⟨← exponent mass, ← exponent length, ← exponent time, ← exponent currency⟩
      match Dimension.ofExponents exponents with
      | .ok dimension => .ok dimension
      | .error failure => .error (.refused failure.message)
  | _ => .error (.expected "four exponents")

def readUnit : Json.Decoder (MeasureUnit α) := fun value => do
  let record ← Json.record
    ["expression", "name", "slope", "intercept", "larger", "smaller", "visible"] value
  let expression ← record.required "expression" Json.Decoder.string
  let name ← record.required "name" Json.Decoder.string
  let slope ← record.required "slope" Json.Decoder.scalar
  let intercept ← record.withDefault "intercept" Json.Decoder.scalar 0
  let neighbour := Json.Decoder.optional Json.Decoder.string
  let larger ← record.withDefault "larger" neighbour none
  let smaller ← record.withDefault "smaller" neighbour none
  let visible ← record.withDefault "visible" Json.Decoder.bool true
  .ok { expression, name, slope, intercept, larger, smaller, visible }

def readQuantity : Json.Decoder (QuantityDefinition α) := fun value => do
  let record ← Json.record
    ["name", "symbol", "dimension", "preferred", "units"] value
  let name ← record.required "name" Json.Decoder.string
  let symbol ← record.required "symbol" Json.Decoder.string
  let dimension ← record.required "dimension" readDimension
  let preferred ← record.withDefault "preferred" Json.Decoder.nat 0
  let units ← record.required "units" (Json.Decoder.list readUnit)
  .ok { name, symbol, dimension, preferred, units }

def read : Json.Decoder (Definitions α) := fun value => do
  let record ← Json.record ["quantities", "legacy"] value
  let quantities ← record.required "quantities" (Json.Decoder.list readQuantity)
  let legacy ←
    record.withDefault "legacy" (Json.Decoder.members Json.Decoder.string) []
  .ok { quantities, legacy := Json.arrange legacy }

/-- The document in a text. -/
def ofText (text : String) : Except Error (Definitions α) :=
  (Json.decodeText read text).mapError fun fault =>
    .definition s!"invalid definition JSON: {fault.message}"

/-! ## Writing -/

def dimensionJson (dimension : Dimension) : Json :=
  .array (dimension.exponents.toList.map .whole)

/-- A member that is left out when there is nothing to say. -/
def optionalMember (name : String) (value : Option String) : List (String × Json) :=
  (value.map fun text => (name, Json.string text)).toList

def unitJson (unit : MeasureUnit α) : Json :=
  .object
    ([("expression", .string unit.expression), ("name", .string unit.name),
        ("slope", .ofScalar unit.slope), ("intercept", .ofScalar unit.intercept)] ++
      optionalMember "larger" unit.larger ++ optionalMember "smaller" unit.smaller ++
      [("visible", .bool unit.visible)])

def quantityJson (quantity : QuantityDefinition α) : Json :=
  .object
    [("name", .string quantity.name), ("symbol", .string quantity.symbol),
      ("dimension", dimensionJson quantity.dimension),
      ("preferred", .whole quantity.preferred),
      ("units", .array (quantity.units.map unitJson))]

/-- The document as a value. -/
def toJson (definitions : Definitions α) : Json :=
  .object
    [("quantities", .array (definitions.quantities.map quantityJson)),
      ("legacy", .object (definitions.legacy.map fun entry =>
        (entry.1, .string entry.2)))]

end

end Definitions

end Metrology
