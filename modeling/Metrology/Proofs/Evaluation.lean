import Metrology.Formula.Evaluator
import Metrology.Proofs.Coupling

/-!
# Evaluations in step

Two evaluations of one expression run in step as soon as their leaves do and
the operators and functions respect the relation between values.  Only the
leaves that occur in the expression matter.
-/

namespace Metrology.Formula

/-! ## Leaves of an expression -/

namespace Expression

variable {α : Type}

/-- The unit tags of the numbers, from left to right. -/
def tags : Expression α → List String
  | .number _ unit => unit.toList
  | .reference _ => []
  | .negate operand => operand.tags
  | .binary _ left right => left.tags ++ right.tags
  | .call _ arguments => argumentTags arguments
where
  argumentTags : List (Expression α) → List String
    | [] => []
    | argument :: rest => argument.tags ++ argumentTags rest

end Expression

/-! ## Respected relations -/

variable {α σ τ : Type} [Scalar α]

/-- A relation between values that everything but the leaves respects. -/
structure Respected (coupling : Coupling (Registry α × σ) (Registry α × τ))
    (table : FunctionTable α) (values : Tagged α → Tagged α → Prop) : Prop where
  number : ∀ value : α,
    values (.untagged (.ratio value)) (.untagged (.ratio value))
  isTrue : ∀ {left right}, values left right → left.isTrue = right.isTrue
  negate : ∀ {left right}, values left right →
    values ⟨left.amount.neg, left.tag⟩ ⟨right.amount.neg, right.tag⟩
  operator : ∀ (operator : Operator) {first first' second second'},
    values first first' → values second second' →
      coupling.Outcomes values (applyOperator operator first second)
        (applyOperator operator first' second')
  call : ∀ (name : String) {left right}, List.Forall₂ values left right →
    coupling.Outcomes values (table.call name left) (table.call name right)

/-- Equal values are respected. -/
theorem respected_eq (coupling : Coupling (Registry α × σ) (Registry α × τ))
    (table : FunctionTable α) : Respected coupling table Eq where
  number _ := rfl
  isTrue same := congrArg Tagged.isTrue same
  negate same := by rw [same]
  operator operator first first' second second' same same' := by
    subst same same'
    cases applyOperator operator first second with
    | ok value => rfl
    | error failure => exact coupling.failures_refl failure
  call name left right same := by
    rw [List.forall₂_eq_eq_eq] at same
    subst same
    cases table.call name left with
    | ok value => rfl
    | error failure => exact coupling.failures_refl failure

/-- What it takes for the leaves with certain tags and names to run in step. -/
structure LeavesInStep (coupling : Coupling (Registry α × σ) (Registry α × τ))
    (values : Tagged α → Tagged α → Prop) (left : Leaves α σ) (right : Leaves α τ)
    (tags names : List String) : Prop where
  tagged : ∀ tag ∈ tags, ∀ value,
    coupling.InStep values (left.tagged value tag) (right.tagged value tag)
  reference : ∀ name ∈ names,
    coupling.InStep values (left.reference name) (right.reference name)

namespace LeavesInStep

variable {coupling : Coupling (Registry α × σ) (Registry α × τ)}
  {values : Tagged α → Tagged α → Prop} {left : Leaves α σ} {right : Leaves α τ}
  {tags moreTags names moreNames : List String}

omit [Scalar α] in
theorem append_left (leaves : LeavesInStep coupling values left right
      (tags ++ moreTags) (names ++ moreNames)) :
    LeavesInStep coupling values left right tags names where
  tagged tag member := leaves.tagged tag (List.mem_append_left _ member)
  reference name member := leaves.reference name (List.mem_append_left _ member)

omit [Scalar α] in
theorem append_right (leaves : LeavesInStep coupling values left right
      (tags ++ moreTags) (names ++ moreNames)) :
    LeavesInStep coupling values left right moreTags moreNames where
  tagged tag member := leaves.tagged tag (List.mem_append_right _ member)
  reference name member := leaves.reference name (List.mem_append_right _ member)

end LeavesInStep

namespace Expression

variable {coupling : Coupling (Registry α × σ) (Registry α × τ)}
  {table : FunctionTable α} {values : Tagged α → Tagged α → Prop}
  {left : Leaves α σ} {right : Leaves α τ}

theorem evaluate_strict (leaves : Leaves α σ) {operator : Operator}
    (notAnd : operator ≠ .and) (notOr : operator ≠ .or)
    (first second : Expression α) :
    (Expression.binary operator first second).evaluate table leaves = (do
      let value ← first.evaluate table leaves
      let other ← second.evaluate table leaves
      Attempt.ofExcept (applyOperator operator value other)) := by
  cases operator with
  | and => exact absurd rfl notAnd
  | or => exact absurd rfl notOr
  | _ => rfl

mutual

theorem evaluate_inStep (respected : Respected coupling table values) :
    (expression : Expression α) →
    LeavesInStep coupling values left right expression.tags expression.occurrences →
    coupling.InStep values (expression.evaluate table left)
      (expression.evaluate table right)
  | .number value none, _ => by
      unfold evaluate
      exact Coupling.inStep_pure (respected.number value)
  | .number value (some tag), leaves => by
      unfold evaluate
      exact leaves.tagged tag (by simp [tags]) value
  | .reference name, leaves => by
      unfold evaluate
      exact leaves.reference name (by simp [occurrences])
  | .negate operand, leaves => by
      unfold evaluate
      refine Coupling.inStep_bind (evaluate_inStep respected operand leaves) ?_
      intro value value' related
      exact Coupling.inStep_pure (respected.negate related)
  | .binary operator first second, leaves => by
      have firstInStep := evaluate_inStep respected first leaves.append_left
      have secondInStep := evaluate_inStep respected second leaves.append_right
      -- The two operators that may stop early are apart from the strict ones.
      by_cases isAnd : operator = .and
      · subst isAnd
        unfold evaluate
        refine Coupling.inStep_bind firstInStep fun value value' related => ?_
        rw [respected.isTrue related]
        split
        · refine Coupling.inStep_bind secondInStep fun other other' alike => ?_
          rw [respected.isTrue alike]
          exact Coupling.inStep_pure (respected.number _)
        · exact Coupling.inStep_pure (respected.number _)
      · by_cases isOr : operator = .or
        · subst isOr
          unfold evaluate
          refine Coupling.inStep_bind firstInStep fun value value' related => ?_
          rw [respected.isTrue related]
          split
          · exact Coupling.inStep_pure (respected.number _)
          · refine Coupling.inStep_bind secondInStep fun other other' alike => ?_
            rw [respected.isTrue alike]
            exact Coupling.inStep_pure (respected.number _)
        · rw [evaluate_strict left isAnd isOr, evaluate_strict right isAnd isOr]
          refine Coupling.inStep_bind firstInStep fun value value' related => ?_
          refine Coupling.inStep_bind secondInStep fun other other' alike => ?_
          exact Coupling.inStep_ofExcept (respected.operator operator related alike)
  | .call name arguments, leaves => by
      unfold evaluate
      split
      · exact evaluateConditional_inStep respected arguments leaves
      · refine Coupling.inStep_bind (evaluateAll_inStep respected arguments leaves) ?_
        intro arguments' arguments'' related
        exact Coupling.inStep_ofExcept (respected.call name related)

theorem evaluateConditional_inStep (respected : Respected coupling table values) :
    (arguments : List (Expression α)) →
    LeavesInStep coupling values left right (tags.argumentTags arguments)
      (occurrences.argumentOccurrences arguments) →
    coupling.InStep values (evaluateConditional table left arguments)
      (evaluateConditional table right arguments)
  | [condition, whenTrue, whenFalse], leaves => by
      unfold evaluateConditional
      refine Coupling.inStep_bind
        (evaluate_inStep respected condition leaves.append_left) ?_
      intro decision decision' related
      rw [respected.isTrue related]
      split
      · exact evaluate_inStep respected whenTrue leaves.append_right.append_left
      · exact evaluate_inStep respected whenFalse
          leaves.append_right.append_right.append_left
  | [], _ => Coupling.inStep_throw _
  | [_], _ => Coupling.inStep_throw _
  | [_, _], _ => Coupling.inStep_throw _
  | _ :: _ :: _ :: _ :: _, _ => Coupling.inStep_throw _

theorem evaluateAll_inStep (respected : Respected coupling table values) :
    (arguments : List (Expression α)) →
    LeavesInStep coupling values left right (tags.argumentTags arguments)
      (occurrences.argumentOccurrences arguments) →
    coupling.InStep (List.Forall₂ values) (evaluateAll table left arguments)
      (evaluateAll table right arguments)
  | [], _ => by
      unfold evaluateAll
      exact Coupling.inStep_pure .nil
  | argument :: rest, leaves => by
      unfold evaluateAll
      refine Coupling.inStep_bind
        (evaluate_inStep respected argument leaves.append_left) ?_
      intro value value' related
      refine Coupling.inStep_bind
        (evaluateAll_inStep respected rest leaves.append_right) ?_
      intro values' values'' alike
      exact Coupling.inStep_pure (.cons related alike)

end

end Expression

end Metrology.Formula
