import Metrology.Formula.Function
import Metrology.Formula.Parser

/-!
# Evaluating formulas

Evaluation keeps every intermediate value as an amount with its dimension.  The
registry may grow on the way; a reference is handed to a resolver, which works
on a state of its own.
-/

namespace Metrology.Formula

/-- A computation on the registry and on the state of a resolver. -/
abbrev Calculation (α σ β : Type) := Attempt (Registry α × σ) β

/-- What supplies the amounts behind references. -/
abbrev Resolver (α σ : Type) := String → Calculation α σ (Amount α)

namespace Resolver

variable {α σ : Type}

/-- The resolver that knows no name. -/
def none : Resolver α σ := fun name =>
  Attempt.ofExcept (.error (.unknownParameter name))

/-- The resolver of fixed amounts, of which the last of a name counts. -/
def ofTable (amounts : List (String × Amount α)) : Resolver α σ := fun name =>
  Attempt.ofExcept <|
    match amounts.reverse.lookup name with
    | some amount => .ok amount
    | Option.none => .error (.unknownParameter name)

/-- The resolver that also writes down the names it is asked for. -/
def recording (resolver : Resolver α σ) : Resolver α (σ × List String) :=
  fun name state =>
    let (registry, inner, names) := state
    let (outcome, registry, inner) := resolver name (registry, inner)
    (outcome, registry, inner, names ++ [name])

end Resolver

variable {α σ : Type} [Scalar α]

/-! ## Operators -/

/-- The greatest size of a whole power of a dimensioned amount. -/
def greatestPower : Nat := 2147483647

/-- The power of an amount.  Pure numbers take any power, and amounts with a
dimension whole ones. -/
def power (base exponent : Amount α) : Except Error (Amount α) :=
  if !exponent.isRatio then
    .error (.incompatible ("exponent [" ++ exponent.dimension.text ++ "]")
      Dimension.ratio.text)
  else if base.isRatio then
    .ok (.ratio (Scalar.power base.magnitude exponent.magnitude))
  else
    match (Scalar.toInt? exponent.magnitude).filter (·.natAbs ≤ greatestPower) with
    | some whole => base.powerInt whole
    | none =>
        .error (.evaluation ("non-integer power " ++
          Scalar.plainText exponent.magnitude ++ " of a value with dimension " ++
          base.dimension.text))

/-- Whether a comparison holds of amounts that compare in a given way.  Amounts
that do not compare are different. -/
def holds (operator : Operator) (ordering : Option Ordering) : Bool :=
  match operator with
  | .equal => ordering == some .eq
  | .notEqual => ordering != some .eq
  | .less => ordering == some .lt
  | .greater => ordering == some .gt
  | .lessOrEqual => ordering == some .lt || ordering == some .eq
  | .greaterOrEqual => ordering == some .gt || ordering == some .eq
  | _ => false

/-- The value of an operator that needs both operands. -/
def applyOperator (operator : Operator) (left right : Tagged α) :
    Except Error (Tagged α) :=
  match operator with
  | .add => do
      let sum ← left.amount.add right.amount
      .ok ⟨sum, Tagged.additiveTag left.tag right.tag⟩
  | .subtract => do
      let difference ← left.amount.sub right.amount
      .ok ⟨difference, Tagged.additiveTag left.tag right.tag⟩
  | .multiply => do
      let product ← left.amount.mul right.amount
      .ok ⟨product, Tagged.multiplicativeTag left.tag right.tag 1⟩
  | .divide => do
      let quotient ← left.amount.div right.amount
      .ok ⟨quotient, Tagged.multiplicativeTag left.tag right.tag (-1)⟩
  | .power => do
      let value ← power left.amount right.amount
      .ok (.untagged value)
  | comparison => do
      let ordering ← left.amount.compare? right.amount
      .ok (.ofBool (holds comparison ordering))

/-! ## Leaves -/

/-- The value of a number with a unit tag. -/
def evaluateTagged (value : α) (tag : String) : Calculation α σ (Tagged α) := do
  let normalized ← Attempt.onFirst (Registry.normalizing tag)
  return ⟨⟨normalized.toSI value, normalized.dimension⟩, normalized.userExpression⟩

/-- The failure to resolve a name, as the formula reports it.  A circular
reference is passed on unchanged. -/
def referenceFailure (name : String) : Error → Error
  | .circular ids => .circular ids
  | other => other.asEvaluation ("[" ++ name ++ "]")

/-- The value behind a reference. -/
def evaluateReference (resolve : Resolver α σ) (name : String) :
    Calculation α σ (Tagged α) := do
  let amount ← Attempt.mapFailure (referenceFailure name) (resolve name)
  return .untagged amount

/-- How the leaves of an expression that are not plain numbers get their
values. -/
structure Leaves (α σ : Type) where
  /-- The value of a number with a unit tag. -/
  tagged : α → String → Calculation α σ (Tagged α)
  /-- The value behind a reference. -/
  reference : String → Calculation α σ (Tagged α)

/-- Tags are read by the registry, and references by a resolver. -/
def Leaves.ofResolver (resolve : Resolver α σ) : Leaves α σ :=
  ⟨evaluateTagged, evaluateReference resolve⟩

/-- Whether a name is that of the conditional, in any case. -/
def isConditional (name : String) : Bool :=
  name.toList.map Char.toLower == ['i', 'f']

/-! ## Evaluation -/

namespace Expression

mutual

/-- The value of an expression.  The operators `||` and `&&` evaluate their
right operand only if the left one leaves the value open, and `if` evaluates
only the branch that it chooses. -/
def evaluate (table : FunctionTable α) (leaves : Leaves α σ) :
    Expression α → Calculation α σ (Tagged α)
  | .number value none => return .untagged (.ratio value)
  | .number value (some tag) => leaves.tagged value tag
  | .reference name => leaves.reference name
  | .negate operand => do
      let value ← evaluate table leaves operand
      return ⟨value.amount.neg, value.tag⟩
  | .binary .and left right => do
      let first ← evaluate table leaves left
      if first.isTrue then do
        let second ← evaluate table leaves right
        return .ofBool second.isTrue
      else return .ofBool false
  | .binary .or left right => do
      let first ← evaluate table leaves left
      if first.isTrue then return .ofBool true
      else do
        let second ← evaluate table leaves right
        return .ofBool second.isTrue
  | .binary operator left right => do
      let first ← evaluate table leaves left
      let second ← evaluate table leaves right
      Attempt.ofExcept (applyOperator operator first second)
  | .call name arguments =>
      if isConditional name then evaluateConditional table leaves arguments
      else do
        let values ← evaluateAll table leaves arguments
        Attempt.ofExcept (table.call name values)

/-- The value of a conditional: its condition and one of its branches. -/
def evaluateConditional (table : FunctionTable α) (leaves : Leaves α σ) :
    List (Expression α) → Calculation α σ (Tagged α)
  | [condition, whenTrue, whenFalse] => do
      let decision ← evaluate table leaves condition
      if decision.isTrue then evaluate table leaves whenTrue
      else evaluate table leaves whenFalse
  | arguments =>
      throw (.evaluation
        ("if(cond, a, b) expects 3 arguments, got " ++ arguments.length.repr))

/-- The values of expressions, from left to right. -/
def evaluateAll (table : FunctionTable α) (leaves : Leaves α σ) :
    List (Expression α) → Calculation α σ (List (Tagged α))
  | [] => return []
  | expression :: rest => do
      let value ← evaluate table leaves expression
      let others ← evaluateAll table leaves rest
      return value :: others

end

end Expression

/-- Read and evaluate a formula. -/
def evaluate (table : FunctionTable α) (resolve : Resolver α σ) (formula : String) :
    Calculation α σ (Tagged α) := do
  let expression ← Attempt.ofExcept (parse formula)
  expression.evaluate table (.ofResolver resolve)

end Metrology.Formula
