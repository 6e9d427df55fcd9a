import Metrology.Number.Binary64
import Metrology.Proofs.Functions

/-!
# Kinds of results

The dimension and the tag of a result are its kind.  As long as no reference decides what is
evaluated, or to which power, the kind of a result does not depend on magnitudes, and neither
does a failure with its text or what is registered on the way.
-/

namespace Metrology

namespace Formula

variable {α σ : Type}

/-- What a value is apart from its magnitude. -/
def Tagged.kind (value : Tagged α) : Dimension × String :=
  (value.amount.dimension, value.tag)

/-- Two calculations that leave the same state and fail alike, or come to values of one kind. -/
def KeepsKind (left right : Calculation α σ (Tagged α)) : Prop :=
  (Coupling.same (Registry α × σ)).InStep (fun value other => value.kind = other.kind) left right

theorem KeepsKind.start {left right : Calculation α σ (Tagged α)} (keeps : KeepsKind left right)
    (state : Registry α × σ) :
    (left.start state).1.map Tagged.kind = (right.start state).1.map Tagged.kind ∧
      (left.start state).2 = (right.start state).2 := by
  rcases keeps state state rfl with ⟨_, _, impossible⟩ | ⟨outcomes, states⟩
  · exact impossible.elim
  · exact ⟨Coupling.outcomes_same_view.1 outcomes, states⟩

theorem keepsKind_refl (calculation : Calculation α σ (Tagged α)) :
    KeepsKind calculation calculation := by
  rintro state _ rfl
  exact .inr ⟨Coupling.outcomes_same_view.2 rfl, rfl⟩

variable [Scalar α]

/-! ## Operators and functions -/

/-- All operators but powers choose the dimension, the tag and the text of a failure without
looking at magnitudes. -/
theorem kind_applyOperator {operator : Operator} (notPower : operator ≠ .power)
    {first first' second second' : Tagged α} (same : first.kind = first'.kind)
    (alike : second.kind = second'.kind) :
    (applyOperator operator first second).map Tagged.kind =
      (applyOperator operator first' second').map Tagged.kind := by
  obtain ⟨⟨magnitude, dimension⟩, tag⟩ := first
  obtain ⟨⟨magnitude', dimension'⟩, tag'⟩ := first'
  obtain ⟨⟨amount, other⟩, label⟩ := second
  obtain ⟨⟨amount', other'⟩, label'⟩ := second'
  cases same
  cases alike
  cases operator with
  | power => exact absurd rfl notPower
  | multiply =>
      simp only [applyOperator, Amount.mul]
      cases dimension.plus other <;> rfl
  | divide =>
      simp only [applyOperator, Amount.div]
      cases dimension.minus other <;> rfl
  | _ =>
      by_cases equal : dimension = other
      · simp only [applyOperator, Amount.add, Amount.sub, Amount.compare?, Amount.combine, equal,
          if_true]
        rfl
      · simp only [applyOperator, Amount.add, Amount.sub, Amount.compare?, Amount.combine, equal,
          if_false]

/-- A power looks at the magnitude of its exponent, but not at that of its base. -/
theorem kind_power {base base' : Tagged α} (same : base.kind = base'.kind)
    (exponent : Tagged α) :
    (applyOperator .power base exponent).map Tagged.kind =
      (applyOperator .power base' exponent).map Tagged.kind := by
  obtain ⟨⟨magnitude, dimension⟩, tag⟩ := base
  obtain ⟨⟨magnitude', dimension'⟩, tag'⟩ := base'
  cases same
  simp only [applyOperator, power, Amount.isRatio]
  by_cases pure : exponent.amount.dimension.isRatio = true
  · by_cases plain : dimension.isRatio = true
    · simp only [pure, plain, Bool.not_true, Bool.false_eq_true, if_false, if_true]
      rfl
    · simp only [pure, plain, Bool.not_true, Bool.false_eq_true, if_false]
      cases (Scalar.toInt? exponent.amount.magnitude).filter (·.natAbs ≤ greatestPower) with
      | none => rfl
      | some whole =>
          simp only [Amount.powerInt]
          cases dimension.times whole <;> rfl
  · simp only [pure, Bool.not_false, if_true]

omit [Scalar α] in
/-- A map of pure numbers looks at the dimension of its argument. -/
theorem kind_onPure (name : String) (apply : α → α) {argument argument' : Tagged α}
    (same : argument.kind = argument'.kind) :
    (FormulaFunction.onPure name apply argument).map Tagged.kind =
      (FormulaFunction.onPure name apply argument').map Tagged.kind := by
  obtain ⟨⟨magnitude, dimension⟩, tag⟩ := argument
  obtain ⟨⟨magnitude', dimension'⟩, tag'⟩ := argument'
  cases same
  unfold FormulaFunction.onPure
  by_cases isRatio : dimension.isRatio = true
  · simp only [Amount.isRatio, isRatio, if_true]
    rfl
  · simp only [Amount.isRatio, isRatio, Bool.false_eq_true, if_false]

/-! ## References that only supply values -/

namespace Expression

/-- Expressions in which references only supply values: no exponent, no condition and no left
operand of `&&` and `||` refers to a name. -/
inductive Steady : Expression α → Prop where
  | number (value : α) (unit : Option String) : Steady (.number value unit)
  | reference (name : String) : Steady (.reference name)
  | negate {operand : Expression α} (inner : Steady operand) : Steady (.negate operand)
  | binary {operator : Operator} {left right : Expression α} (notPower : operator ≠ .power)
      (notAnd : operator ≠ .and) (notOr : operator ≠ .or) (first : Steady left)
      (second : Steady right) : Steady (.binary operator left right)
  | power {base exponent : Expression α} (inner : Steady base)
      (unreferenced : exponent.occurrences = []) : Steady (.binary .power base exponent)
  | and {left right : Expression α} (unreferenced : left.occurrences = []) (inner : Steady right) :
      Steady (.binary .and left right)
  | or {left right : Expression α} (unreferenced : left.occurrences = []) (inner : Steady right) :
      Steady (.binary .or left right)
  | call {name : String} {arguments : List (Expression α)} (plain : isConditional name = false)
      (each : ∀ argument ∈ arguments, Steady argument) : Steady (.call name arguments)
  | conditional {name : String} {condition : Expression α} {branches : List (Expression α)}
      (choice : isConditional name = true) (unreferenced : condition.occurrences = [])
      (each : ∀ branch ∈ branches, Steady branch) : Steady (.call name (condition :: branches))

variable {table : FunctionTable α} {resolve other : Resolver α σ}

/-- Where no name is referred to, it does not matter what resolves names. -/
theorem evaluate_of_unreferenced (resolve other : Resolver α σ) {expression : Expression α}
    (unreferenced : expression.occurrences = []) :
    expression.evaluate table (.ofResolver other) =
      expression.evaluate table (.ofResolver resolve) := by
  refine Coupling.inStep_same_eq.1 (evaluate_inStep (respected_eq _ table) expression ?_)
  constructor
  · exact fun tag _ value => Coupling.inStep_same_eq.2 rfl
  · intro name member
    rw [unreferenced] at member
    cases member

/-- Arguments of one kind each are arguments of one kind all together. -/
theorem evaluateAll_keepsKind {arguments : List (Expression α)}
    (each : ∀ argument ∈ arguments, KeepsKind (argument.evaluate table (.ofResolver resolve))
      (argument.evaluate table (.ofResolver other))) :
    (Coupling.same (Registry α × σ)).InStep
      (List.Forall₂ fun value value' : Tagged α => value.kind = value'.kind)
      (evaluateAll table (.ofResolver resolve) arguments)
      (evaluateAll table (.ofResolver other) arguments) := by
  induction arguments with
  | nil => exact Coupling.inStep_pure .nil
  | cons argument rest ih =>
      unfold evaluateAll
      refine Coupling.inStep_bind (each argument List.mem_cons_self) fun value value' same => ?_
      have later := ih fun argument member => each argument (List.mem_cons_of_mem _ member)
      refine Coupling.inStep_bind later fun values values' alike => ?_
      exact Coupling.inStep_pure (.cons same alike)

/-- A condition that refers to no name chooses the same branch. -/
theorem evaluateConditional_keepsKind {condition : Expression α} {branches : List (Expression α)}
    (unreferenced : condition.occurrences = [])
    (each : ∀ branch ∈ branches, KeepsKind (branch.evaluate table (.ofResolver resolve))
      (branch.evaluate table (.ofResolver other))) :
    KeepsKind (evaluateConditional table (.ofResolver resolve) (condition :: branches))
      (evaluateConditional table (.ofResolver other) (condition :: branches)) := by
  match branches with
  | [whenTrue, whenFalse] =>
      unfold evaluateConditional
      rw [evaluate_of_unreferenced resolve other unreferenced]
      refine Coupling.inStep_bind_eq (Coupling.inStep_same_eq.2 rfl) fun decision => ?_
      split
      · exact each whenTrue (by simp)
      · exact each whenFalse (by simp)
  | [] => exact Coupling.inStep_throw _
  | [_] => exact Coupling.inStep_throw _
  | _ :: _ :: _ :: _ => exact Coupling.inStep_throw _

/-- A steady expression comes to values of one kind under resolvers that do. -/
theorem Steady.keepsKind (plain : table.Plain) {expression : Expression α}
    (steady : expression.Steady)
    (resolves : ∀ name, KeepsKind (evaluateReference resolve name) (evaluateReference other name)) :
    KeepsKind (expression.evaluate table (.ofResolver resolve))
      (expression.evaluate table (.ofResolver other)) := by
  induction steady with
  | number value unit =>
      cases unit with
      | none => exact keepsKind_refl (return .untagged (.ratio value))
      | some tag => exact keepsKind_refl (evaluateTagged value tag)
  | reference name => exact resolves name
  | negate inner ih =>
      unfold evaluate
      refine Coupling.inStep_bind ih fun value value' same => ?_
      exact Coupling.inStep_pure same
  | binary notPower notAnd notOr first second ihFirst ihSecond =>
      rw [evaluate_strict _ notAnd notOr, evaluate_strict _ notAnd notOr]
      refine Coupling.inStep_bind ihFirst fun value value' same => ?_
      refine Coupling.inStep_bind ihSecond fun operand operand' alike => ?_
      have outcomes := kind_applyOperator notPower same alike
      exact Coupling.inStep_ofExcept (Coupling.outcomes_same_view.2 outcomes)
  | power inner unreferenced ih =>
      unfold evaluate
      rw [evaluate_of_unreferenced resolve other unreferenced]
      refine Coupling.inStep_bind ih fun value value' same => ?_
      refine Coupling.inStep_bind_eq (Coupling.inStep_same_eq.2 rfl) fun exponent => ?_
      exact Coupling.inStep_ofExcept (Coupling.outcomes_same_view.2 (kind_power same exponent))
  | and unreferenced inner ih =>
      unfold evaluate
      rw [evaluate_of_unreferenced resolve other unreferenced]
      refine Coupling.inStep_bind_eq (Coupling.inStep_same_eq.2 rfl) fun decision => ?_
      -- Whether the right operand holds is a magnitude; that it is a pure number is not.
      split
      · exact Coupling.inStep_bind ih fun value value' same => Coupling.inStep_pure rfl
      · exact Coupling.inStep_pure rfl
  | or unreferenced inner ih =>
      unfold evaluate
      rw [evaluate_of_unreferenced resolve other unreferenced]
      refine Coupling.inStep_bind_eq (Coupling.inStep_same_eq.2 rfl) fun decision => ?_
      split
      · exact Coupling.inStep_pure rfl
      · exact Coupling.inStep_bind ih fun value value' same => Coupling.inStep_pure rfl
  | @call name arguments unconditional each ih =>
      unfold evaluate
      simp only [unconditional, Bool.false_eq_true, if_false]
      refine Coupling.inStep_bind (evaluateAll_keepsKind ih) fun values values' same => ?_
      refine Coupling.inStep_ofExcept (plain.outcomes (fun label apply value value' alike => ?_) name
        same)
      exact Coupling.outcomes_same_view.2 (kind_onPure label apply alike)
  | conditional choice unreferenced each ih =>
      unfold evaluate
      simp only [choice, if_true]
      exact evaluateConditional_keepsKind unreferenced ih

end Expression

/-! ## Formulas over tables of amounts -/

/-- Tables that know the same names, each with one dimension. -/
def SameDimensions (amounts others : List (String × Amount α)) : Prop :=
  ∀ name, (amounts.reverse.lookup name).map (·.dimension) =
    (others.reverse.lookup name).map (·.dimension)

omit [Scalar α] in
/-- References look up amounts of the same dimensions. -/
theorem evaluateReference_keepsKind {amounts others : List (String × Amount α)}
    (alike : SameDimensions amounts others) (name : String) :
    KeepsKind (evaluateReference (.ofTable amounts) name : Calculation α σ (Tagged α))
      (evaluateReference (.ofTable others) name) := by
  have resolves : (Coupling.same (Registry α × σ)).InStep
      (fun amount amount' : Amount α => amount.dimension = amount'.dimension)
      (Resolver.ofTable amounts name) (Resolver.ofTable others name) := by
    refine Coupling.inStep_ofExcept (Coupling.outcomes_same_view.2 ?_)
    have same := alike name
    cases found : amounts.reverse.lookup name with
    | none =>
        rw [found, Option.map_none, eq_comm, Option.map_eq_none_iff] at same
        rw [same]
    | some amount =>
        rw [found, Option.map_some, eq_comm, Option.map_eq_some_iff] at same
        obtain ⟨amount', found', dimension⟩ := same
        rw [found']
        exact congrArg Except.ok dimension.symm
  refine Coupling.inStep_bind (Coupling.inStep_mapFailure resolves (congrArg _) id) ?_
  intro amount amount' dimension
  exact Coupling.inStep_pure (congrArg (·, "") dimension)

/-- Formulas over plain functions, whose references only supply values, cannot tell tables with
the same dimensions apart: they fail with the same text, or come to values of one dimension and one tag, and leave
the same registry. -/
theorem evaluate_kind {table : FunctionTable α} (plain : table.Plain) {amounts others : List (String × Amount α)}
    (alike : SameDimensions amounts others) {formula : String}
    (steady : ∀ expression : Expression α, parse formula = .ok expression → expression.Steady)
    (state : Registry α × σ) :
    ((evaluate table (.ofTable amounts) formula).start state).1.map Tagged.kind =
        ((evaluate table (.ofTable others) formula).start state).1.map Tagged.kind ∧
      ((evaluate table (.ofTable amounts) formula).start state).2 =
        ((evaluate table (.ofTable others) formula).start state).2 := by
  refine KeepsKind.start ?_ state
  unfold evaluate
  cases parsed : (parse formula : Except Error (Expression α)) with
  | error failure => exact keepsKind_refl (throw failure >>= _)
  | ok expression =>
      exact (steady expression parsed).keepsKind plain (evaluateReference_keepsKind alike)

/-- A distance and the time it took. -/
def trip (distance duration : Float) : List (String × Amount Float) :=
  [("distance", ⟨distance, .length⟩), ("duration", ⟨duration, .time⟩)]

theorem sameDimensions_trip (distance duration other time : Float) :
    SameDimensions (trip distance duration) (trip other time) := by
  intro name
  simp only [trip, List.reverse_cons, List.reverse_nil, List.nil_append, List.cons_append,
    List.lookup_cons]
  cases name == "duration" <;> cases name == "distance" <;> rfl

/-- Whether an expression divides one reference by another. -/
def Expression.isQuotient : Expression α → Bool
  | .binary .divide (.reference _) (.reference _) => true
  | _ => false

/-- No time at all gives a velocity like any other. -/
theorem evaluate_kind_trip :
    SameDimensions (trip 0 0) (trip 12 (0 / 0)) ∧
      ((evaluate .standard (.ofTable (trip 0 0)) "[distance]/[duration]").start
          (.empty {} [], ())).1.map Tagged.kind =
        ((evaluate .standard (.ofTable (trip 12 (0 / 0))) "[distance]/[duration]").start
          (.empty {} [], ())).1.map Tagged.kind ∧
      ((evaluate .standard (.ofTable (trip 0 0)) "[distance]/[duration]").start
          (.empty {} [], ())).2 =
        ((evaluate .standard (.ofTable (trip 12 (0 / 0))) "[distance]/[duration]").start
          (.empty {} [], ())).2 := by
  have quotient : (parse "[distance]/[duration]" : Except Error (Expression Float)).toOption.map
      Expression.isQuotient = some true := by decide +kernel
  have alike := sameDimensions_trip 0 0 12 (0 / 0)
  refine ⟨alike, evaluate_kind FunctionTable.plain_standard alike (fun expression parsed => ?_) _⟩
  rw [parsed] at quotient
  match expression, quotient with
  | .binary .divide (.reference _) (.reference _), _ =>
      exact .binary nofun nofun nofun (.reference _) (.reference _)

end Formula
end Metrology
