import Metrology.Parameter.Record
import Metrology.Scaling
import Metrology.Service.Request
import Metrology.Store

/-!
# The request service

The service reads one JSON request from each line and answers each with one
JSON value.  All requests share one registry, which may grow from one to the
next.
-/

namespace Metrology.Service

open Formula

variable {α : Type} [Scalar α]

/-! ## Methods -/

/-- The amounts of given references. -/
def referenceAmounts (references : List (String × α × String)) :
    Attempt (Registry α) (List (String × Amount α)) :=
  references.mapM fun (name, value, unit) => do
    let amount ← Amount.ofUnit value unit
    return (name, amount)

/-- Evaluate a formula whose references are the given amounts. -/
def evaluateFormula (table : FunctionTable α) (formula : String)
    (amounts : List (String × Amount α)) : Attempt (Registry α) (Tagged α) :=
  fun registry =>
    let (outcome, grown, _) :=
      Formula.evaluate table (Resolver.ofTable amounts) formula (registry, ())
    (outcome, grown)

def evaluate (table : FunctionTable α) (params : Json) : Handler α Json := do
  let formula ← given (stringParam params "formula")
  let references ← given (referencesParam params)
  attempt do
    let amounts ← referenceAmounts references
    let result ← evaluateFormula table formula amounts
    let (value, unit) ← result.shown
    return .object
      [("si", .ofScalar result.amount.magnitude),
        ("dimension", Definitions.dimensionJson result.amount.dimension),
        ("value", .ofScalar value), ("unit", .string unit)]

def normalizedJson (normalized : Normalized α) : Json :=
  .object
    [("si_expression", .string normalized.siExpression),
      ("user_expression", .string normalized.userExpression),
      ("dimension", Definitions.dimensionJson normalized.dimension),
      ("quantity", .string normalized.quantity), ("slope", .ofScalar normalized.slope),
      ("intercept", .ofScalar normalized.intercept)]

def filter (params : Json) : Handler α Json := do
  let expression ← given (stringParam params "expression")
  attempt do
    let normalized ← Registry.normalizing expression
    return normalizedJson normalized

/-- A value with the unit it is in. -/
def valueJson (value : α) (unit : String) : Json :=
  .object [("value", .ofScalar value), ("unit", .string unit)]

def convert (params : Json) : Handler α Json := do
  let value : α ← given (numberParam params "value")
  let source ← given (stringParam params "from")
  let target ← given (stringParam params "to")
  attempt do
    let converted ← Registry.convert value source target
    return valueJson converted target

def scale (params : Json) : Handler α Json := do
  let value : α ← given (numberParam params "value")
  let unit ← given (stringParam params "unit")
  attempt do
    let registry ← get
    let (scaled, best) ← Attempt.ofExcept (registry.autoScale value unit)
    return valueJson scaled best

def quantityJson (quantity : Quantity α) : Json :=
  .object
    [("name", .string quantity.name), ("symbol", .string quantity.symbol),
      ("dimension", Definitions.dimensionJson quantity.dimension),
      ("derived", .bool quantity.isDerived),
      ("preferred", .string quantity.preferredUnit.expression),
      ("units", .strings (quantity.visibleUnits.map (·.expression)))]

def quantities : Handler α Json := do
  let registry ← get
  return .object [("quantities", .array (registry.quantities.map quantityJson))]

def functionJson (info : FunctionInfo) : Json :=
  .object
    [("name", .string info.name), ("description", .string info.description),
      ("usage", .string info.usage), ("arity", .whole info.arity),
      ("category", .string info.category)]

def functions (table : FunctionTable α) : Handler α Json :=
  return .object [("functions", .array (table.list.map functionJson))]

/-! ## Stored parameters -/

/-- Register the parameter of each line. -/
def registerLines (store : Store α) : List Json → Except Refusal (Store α)
  | [] => .ok store
  | .string line :: rest =>
      match (Parameter.ofLine line).bind store.register with
      | .ok next => registerLines next rest
      | .error failure => .error (.failed failure)
  | _ :: _ => .error (.badRequest "parameter lines must be strings")

/-- The values of a parameter that was brought up to date. -/
def parameterJson (parameter : Parameter α) : StateM (Registry α) Json :=
  fun registry =>
    let (value, grown) := parameter.value registry
    let shown := match value with
      | .ok value => Json.ofScalar value
      | .error _ => .null
    let si := match parameter.amount with
      | .ok amount => Json.ofScalar amount.magnitude
      | .error _ => .null
    (.object
      [("id", .string parameter.id), ("value", shown),
        ("unit", .string parameter.unit), ("si", si)], grown)

def failureJson (failure : String × Error) : Json :=
  .object [("id", .string failure.1), ("error", (Refusal.failed failure.2).json)]

/-- Run one pass over a store and describe what came of each parameter. -/
def passJson (store : Store α) : Json × Registry α :=
  let ((_, failures), next) := store.runPass
  let succeeded := next.pool.parameters.filter fun parameter =>
    !failures.any (·.1 == parameter.id)
  let (values, grown) := (succeeded.mapM parameterJson : StateM _ _) next.registry
  (.object
    [("values", .array values), ("errors", .array (failures.map failureJson))], grown)

def parameters (table : FunctionTable α) (params : Json) : Handler α Json := do
  match (params.member? "lines").bind Json.items? with
  | none => throw (.badRequest "missing array parameter 'lines'")
  | some lines => do
      let registry ← get
      let store ← given (registerLines (Store.empty registry table) lines)
      let (answer, grown) := passJson store
      set grown
      return answer

/-! ## Requests and lines -/

/-- Carry out a request. -/
def handle (table : FunctionTable α) (request : Request) : Handler α Json :=
  match request.method with
  | "evaluate" => evaluate table request.params
  | "filter" => filter request.params
  | "convert" => convert request.params
  | "scale" => scale request.params
  | "quantities" => quantities
  | "functions" => functions table
  | "parameters" => parameters table request.params
  | other => throw (.badRequest s!"unknown method: {other}")

/-- An answer: the id of its request, if it has one, and the outcome. -/
def answerJson (id : Option Json) (outcome : Except Refusal Json) : Json :=
  .object
    ((id.map fun id => ("id", id)).toList ++
      match outcome with
      | .ok result => [("result", result)]
      | .error refusal => [("error", refusal.json)])

/-- Answer a line that is not blank. -/
def answerLine (table : FunctionTable α) (line : String) :
    StateM (Registry α) Json := fun registry =>
  match Json.decodeText (readRequest α) line with
  | .error fault =>
      (answerJson none (.error (.badRequest s!"invalid request: {fault.message}")),
        registry)
  | .ok request =>
      let (outcome, next) := handle table request registry
      (answerJson request.id outcome, next)

/-- Answer a line, unless it is blank. -/
def answer? (table : FunctionTable α) (line : String) :
    StateM (Registry α) (Option Json) := do
  let trimmed := Text.trimmed line
  if trimmed.isEmpty then return none
  else do
    let answer ← answerLine table trimmed
    return some answer

/-- The answers to all lines of a text. -/
def answerText (registry : Registry α) (text : String) : List Json :=
  let lines := (text.toList.splitOn '\n').map String.ofList
  ((lines.mapM (answer? FunctionTable.standard) : StateM _ _) registry).1.filterMap id

end Metrology.Service
