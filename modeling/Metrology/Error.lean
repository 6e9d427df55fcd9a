import Metrology.Axis

/-!
# Errors

Every failure of the engine is one of these causes.  A cause has a code for
programs, a severity, and a message for people.
-/

namespace Metrology

/-- How far a failure reaches. -/
inductive Severity where
  /-- One operation failed and the rest can go on. -/
  | error
  /-- The registry or the settings cannot be used. -/
  | fatal
  deriving DecidableEq, Repr

def Severity.name : Severity → String
  | .error => "error"
  | .fatal => "fatal"

inductive Error where
  /-- A formula, a unit expression or a stored field is malformed. -/
  | parse (details : String)
  /-- A token matches several units when its case or plural is disregarded. -/
  | ambiguousUnit (token : String) (candidates : List String)
  /-- Two unequal dimensions met. -/
  | incompatible (left right : String)
  | unknownUnit (token : String)
  /-- A formula could not be reduced to a value. -/
  | evaluation (details : String)
  /-- An exponent left the range of dimensions. -/
  | rangeOverflow (axis : Axis) (exponent : Int)
  /-- The registry contradicts itself or a bound was exceeded. -/
  | internal (details : String)
  | unknownParameter (id : String)
  | duplicateParameter (id : String)
  /-- A parameter depends on itself through the listed ids. -/
  | circular (ids : List String)
  /-- A definition document cannot be used. -/
  | definition (details : String)
  | settings (details : String)
  deriving DecidableEq, Repr

namespace Error

/-- The code of a cause. -/
def code : Error → String
  | .parse _ => "PARSE_FAILURE"
  | .ambiguousUnit _ _ => "AMBIGUOUS_UNIT"
  | .incompatible _ _ => "INCOMPATIBLE_DIMENSION"
  | .unknownUnit _ => "UNKNOWN_UNIT"
  | .evaluation _ => "EVALUATION_FAILED"
  | .rangeOverflow _ _ => "RANGE_OVERFLOW"
  | .internal _ => "INTERNAL"
  | .unknownParameter _ => "UNKNOWN_PARAMETER"
  | .duplicateParameter _ => "DUPLICATE_PARAMETER"
  | .circular _ => "CIRCULAR_REF"
  | .definition _ => "DEFINITION"
  | .settings _ => "CONFIG"

def severity : Error → Severity
  | .internal _ => .fatal
  | .definition _ => .fatal
  | .settings _ => .fatal
  | _ => .error

/-- The text of a failure. -/
def message : Error → String
  | .parse details => s!"Parse error: {details}"
  | .ambiguousUnit token candidates =>
      s!"Ambiguous unit '{token}': matches " ++ ", ".intercalate candidates
  | .incompatible left right => s!"Incompatible dimensions: {left} vs {right}"
  | .unknownUnit token => s!"Unknown unit: {token}"
  | .evaluation details => s!"Evaluation failed: {details}"
  | .rangeOverflow axis exponent =>
      "Dimension exponent " ++ exponent.repr ++ " on " ++ axis.name ++
        " is outside [-16, 15]"
  | .internal details => s!"Internal consistency error: {details}"
  | .unknownParameter id => s!"Unknown parameter: {id}"
  | .duplicateParameter id => s!"Parameter id already registered: {id}"
  | .circular ids => "Circular reference: " ++ " -> ".intercalate ids
  | .definition details => s!"Definition error: {details}"
  | .settings details => s!"Configuration error: {details}"

/-- The failure of an evaluation that met another failure in some context.  An
evaluation failure is extended rather than quoted. -/
def asEvaluation (context : String) : Error → Error
  | .evaluation details => .evaluation s!"{context}: {details}"
  | other => .evaluation s!"{context}: {other.message}"

@[simp]
theorem code_asEvaluation (context : String) (failure : Error) :
    (failure.asEvaluation context).code = "EVALUATION_FAILED" := by
  cases failure <;> rfl

end Error

end Metrology
