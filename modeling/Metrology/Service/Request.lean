import Metrology.Attempt
import Metrology.Json.Decoder
import Metrology.Registry

/-!
# Requests

A request names a method and gives its parameters; whatever id it has is
repeated in the answer.  It may be refused, for its form or because the engine
failed on it.
-/

namespace Metrology.Service

/-- Why a request gets no result. -/
inductive Refusal where
  /-- The request itself is malformed. -/
  | badRequest (details : String)
  /-- The engine failed. -/
  | failed (failure : Error)
  deriving DecidableEq, Repr

/-- The refusal as it is answered. -/
def Refusal.json : Refusal → Json
  | .badRequest details =>
      .object [("code", .string "BAD_REQUEST"),
        ("severity", .string Severity.error.name), ("message", .string details)]
  | .failed failure =>
      .object [("code", .string failure.code),
        ("severity", .string failure.severity.name),
        ("message", .string failure.message)]

/-- A request. -/
structure Request where
  id : Option Json
  method : String
  params : Json
  deriving Repr

/-- The containers that a part of a request may nest. -/
def nestingLimit : Nat := 126

def readRequest (α : Type) [Scalar α] : Json.Decoder Request := fun value => do
  let record ← Json.record ["id", "method", "params"] value
  let part := Json.settled α nestingLimit
  let id ← record.withDefault "id" (Json.Decoder.optional part) none
  let method ← record.required "method" Json.Decoder.string
  let params ← record.withDefault "params" part .null
  .ok { id, method, params }

variable {α : Type} [Scalar α]

/-- Work on the registry that may be refused. -/
abbrev Handler (α β : Type) := ExceptT Refusal (StateM (Registry α)) β

/-- Work that leaves the registry alone. -/
def given {β : Type} (outcome : Except Refusal β) : Handler α β := fun registry =>
  (outcome, registry)

/-- An attempt whose failure is the refusal. -/
def attempt {β : Type} (work : Attempt (Registry α) β) : Handler α β := fun registry =>
  let (outcome, next) := work registry
  (outcome.mapError .failed, next)

/-! ## Parameters of requests -/

def stringParam (params : Json) (name : String) : Except Refusal String :=
  match (params.member? name).bind Json.string? with
  | some value => .ok value
  | none => .error (.badRequest s!"missing string parameter '{name}'")

def numberParam (params : Json) (name : String) : Except Refusal α :=
  match (params.member? name).bind Json.toScalar? with
  | some value => .ok value
  | none => .error (.badRequest s!"missing numeric parameter '{name}'")

/-- A value and a unit that a request gives for a reference. -/
def readReference : Json.Decoder (α × String) := fun value => do
  let record ← Json.record ["value", "unit"] value
  let magnitude ← record.required "value" Json.Decoder.scalar
  let unit ← record.withDefault "unit" Json.Decoder.string ""
  .ok (magnitude, unit)

/-- The references of a request, if it gives any. -/
def referencesParam (params : Json) : Except Refusal (List (String × α × String)) :=
  match params.member? "references" with
  | none => .ok []
  | some given =>
      (Json.Decoder.members readReference given).mapError fun fault =>
        .badRequest s!"invalid references: {fault.message}"

end Metrology.Service
