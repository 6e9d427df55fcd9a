import Metrology.Proofs.Evaluation

/-!
# Properties of evaluations

What evaluation does is composed of leaves, operators and calls.  A property that these have and
that is kept when one calculation goes on with the value of another one, is a property of every
evaluation.
-/

namespace Metrology.Formula

variable {α σ : Type}

namespace Expression

/-- Whether nothing is evaluated on a condition: there is no `if`, no `&&` and no `||`. -/
def isStraight : Expression α → Bool
  | .number _ _ => true
  | .reference _ => true
  | .negate operand => operand.isStraight
  | .binary operator left right =>
      operator != .and && operator != .or && left.isStraight && right.isStraight
  | .call name arguments => !isConditional name && argumentsStraight arguments
where
  argumentsStraight : List (Expression α) → Bool
    | [] => true
    | argument :: rest => argument.isStraight && argumentsStraight rest

end Expression

/-- A property of calculations, which depends on a condition, on the names that are asked for, and
on what is known of the value. -/
abbrev Property (α σ : Type) :=
  ∀ β : Type, Prop → List String → (β → Prop) → Calculation α σ β → Prop

variable [Scalar α]

/-- What it takes for a property to hold of all evaluations.  The condition is that nothing is
evaluated on a condition; where it fails, names may be passed over. -/
structure Composes (property : Property α σ) (table : FunctionTable α) (leaves : Leaves α σ)
    (values : Tagged α → Prop) : Prop where
  untagged : ∀ amount, values (.untagged amount)
  negate : ∀ {value : Tagged α}, values value → values ⟨value.amount.neg, value.tag⟩
  tagged : ∀ {straight : Prop} (value : α) (tag : String),
    property _ straight [] values (leaves.tagged value tag)
  reference : ∀ {straight : Prop} (name : String),
    property _ straight [name] values (leaves.reference name)
  operator : ∀ {straight : Prop} (operator : Operator) (left right : Tagged α),
    property _ straight [] (fun result => values left → values right → values result)
      (Attempt.ofExcept (applyOperator operator left right))
  call : ∀ {straight : Prop} (name : String) (arguments : List (Tagged α)),
    property _ straight []
      (fun result => (∀ argument ∈ arguments, values argument) → values result)
      (Attempt.ofExcept (table.call name arguments))
  /-- A conditional may have the wrong number of arguments. -/
  refuse : ∀ {β : Type} {holds : β → Prop} (text : String),
    property _ False [] holds (throw (.evaluation text))
  done : ∀ {β : Type} {straight : Prop} {holds : β → Prop} {value : β}, holds value →
    property _ straight [] holds (pure value)
  /-- The names of the first part come first, and the second part may rely on its value. -/
  bind : ∀ {β γ : Type} {straight : Prop} {names more : List String} {first : β → Prop}
    {holds : γ → Prop} {calculation : Calculation α σ β} {next : β → Calculation α σ γ},
    property _ straight names first calculation →
      (∀ value, property _ straight more (fun result => first value → holds result) (next value)) →
        property _ straight (names ++ more) holds (calculation >>= next)
  weaken : ∀ {β : Type} {straight fewer : Prop} {names : List String} {holds weaker : β → Prop}
    {calculation : Calculation α σ β}, property _ straight names holds calculation →
      (fewer → straight) → (∀ value, holds value → weaker value) →
        property _ fewer names weaker calculation
  /-- Names that are passed over may stand between the others. -/
  among : ∀ {β : Type} {straight : Prop} {names more : List String} {holds : β → Prop}
    {calculation : Calculation α σ β}, property _ straight names holds calculation →
      names.Sublist more → property _ False more holds calculation

namespace Composes

variable {property : Property α σ} {table : FunctionTable α} {leaves : Leaves α σ}
  {values : Tagged α → Prop} (composes : Composes property table leaves values)
include composes

/-- What comes after the last name to be asked for. -/
theorem bind_done {β γ : Type} {straight : Prop} {names : List String} {first : β → Prop}
    {holds : γ → Prop} {calculation : Calculation α σ β} {next : β → Calculation α σ γ}
    (here : property _ straight names first calculation)
    (later : ∀ value,
      property _ straight [] (fun result => first value → holds result) (next value)) :
    property _ straight names holds (calculation >>= next) := by
  have both := composes.bind here later
  rwa [List.append_nil] at both

/-- Names may be passed over altogether. -/
theorem pass {β : Type} {names : List String} {holds : β → Prop} {value : β} (held : holds value) :
    property _ False names holds (pure value) :=
  have done : property _ True [] holds (pure value) := composes.done held
  composes.among done (List.nil_sublist _)

mutual

/-- What evaluations are composed of has the property, so every evaluation has it. -/
theorem evaluate : (expression : Expression α) →
    property _ (expression.isStraight = true) expression.occurrences values
      (expression.evaluate table leaves)
  | .number value none => by
      unfold Expression.evaluate
      exact composes.done (composes.untagged _)
  | .number value (some tag) => by
      unfold Expression.evaluate
      exact composes.tagged value tag
  | .reference name => by
      unfold Expression.evaluate
      exact composes.reference name
  | .negate operand => by
      unfold Expression.evaluate
      exact composes.bind_done (evaluate operand) fun value => composes.done composes.negate
  | .binary operator first second => by
      have left := evaluate first
      have right := evaluate second
      -- The two operators that may stop early are apart from the strict ones.
      by_cases isAnd : operator = .and
      · subst isAnd
        unfold Expression.evaluate
        refine composes.weaken (composes.bind (composes.among left (.refl _)) fun value => ?_)
          (by simp [Expression.isStraight]) fun _ held => held
        split
        · exact composes.bind_done (composes.among right (.refl _)) fun other =>
            composes.done fun _ _ => composes.untagged _
        · exact composes.pass fun _ => composes.untagged _
      · by_cases isOr : operator = .or
        · subst isOr
          unfold Expression.evaluate
          refine composes.weaken (composes.bind (composes.among left (.refl _)) fun value => ?_)
            (by simp [Expression.isStraight]) fun _ held => held
          split
          · exact composes.pass fun _ => composes.untagged _
          · exact composes.bind_done (composes.among right (.refl _)) fun other =>
              composes.done fun _ _ => composes.untagged _
        · rw [Expression.evaluate_strict _ isAnd isOr]
          have straight (both : (Expression.binary operator first second).isStraight = true) :
              first.isStraight = true ∧ second.isStraight = true := by
            simp only [Expression.isStraight, Bool.and_eq_true] at both
            exact ⟨both.1.2, both.2⟩
          refine composes.bind (composes.weaken left (And.left ∘ straight) fun _ => id) fun value =>
            composes.bind_done (composes.weaken right (And.right ∘ straight) fun _ => id)
              fun other => ?_
          exact composes.weaken (composes.operator operator value other) id
            fun _ held second first => held first second
  | .call name arguments => by
      unfold Expression.evaluate
      split
      · next conditional =>
          exact composes.weaken (evaluateConditional arguments)
            (by simp [Expression.isStraight, conditional]) fun _ => id
      · refine composes.bind_done (composes.weaken (evaluateAll arguments) ?_ fun _ => id)
          fun values => composes.call name values
        simp only [Expression.isStraight, Bool.and_eq_true]
        exact And.right

theorem evaluateConditional : (arguments : List (Expression α)) →
    property _ False (Expression.occurrences.argumentOccurrences arguments) values
      (Expression.evaluateConditional table leaves arguments)
  | [condition, whenTrue, whenFalse] => by
      unfold Expression.evaluateConditional
      refine composes.bind (composes.among (evaluate condition) (.refl _)) fun decision => ?_
      split
      · exact composes.weaken
          (composes.among (evaluate whenTrue) (List.sublist_append_left _ _)) id
          fun _ held _ => held
      · refine composes.weaken (composes.among (evaluate whenFalse) ?_) id fun _ held _ => held
        exact (List.sublist_append_left _ _).trans (List.sublist_append_right _ _)
  | [] => composes.refuse _
  | [_] => composes.among (composes.refuse _) (List.nil_sublist _)
  | [_, _] => composes.among (composes.refuse _) (List.nil_sublist _)
  | _ :: _ :: _ :: _ :: _ => composes.among (composes.refuse _) (List.nil_sublist _)

theorem evaluateAll : (arguments : List (Expression α)) →
    property _ (Expression.isStraight.argumentsStraight arguments = true)
      (Expression.occurrences.argumentOccurrences arguments)
      (fun results => ∀ result ∈ results, values result)
      (Expression.evaluateAll table leaves arguments)
  | [] => by
      unfold Expression.evaluateAll
      exact composes.done fun _ impossible => absurd impossible List.not_mem_nil
  | argument :: rest => by
      have straight (both : Expression.isStraight.argumentsStraight (argument :: rest) = true) :
          argument.isStraight = true ∧
            Expression.isStraight.argumentsStraight rest = true := by
        simpa only [Expression.isStraight.argumentsStraight, Bool.and_eq_true] using both
      unfold Expression.evaluateAll
      refine composes.bind (composes.weaken (evaluate argument) (And.left ∘ straight) fun _ => id)
        fun value => composes.bind_done
          (composes.weaken (evaluateAll rest) (And.right ∘ straight) fun _ => id) fun others =>
            composes.done fun later here => List.forall_mem_cons.2 ⟨here, later⟩

end

end Composes

end Metrology.Formula
