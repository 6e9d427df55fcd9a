import Metrology.Proofs.Dimension
import Metrology.Proofs.Exact
import Metrology.Proofs.Functions

/-!
# Change of base units

A change of base units multiplies every amount by a factor that depends on its
dimension only and takes sums of dimensions to products.  No formula can tell
which base units its amounts are given in: the factor of the result is that of
its dimension, and failures stay the same.
-/

namespace Metrology

/-- The factors of a change of base units. -/
structure Rescaling (α : Type) [Field α] [LinearOrder α] where
  factor : Dimension → α
  factor_pos : ∀ dimension, 0 < factor dimension
  factor_ratio : factor .ratio = 1
  factor_plus : ∀ {left right sum : Dimension}, left.plus right = .ok sum →
    factor sum = factor left * factor right

namespace Rescaling

variable {α : Type} [Field α] [LinearOrder α] (scale : Rescaling α)

theorem factor_ne_zero (dimension : Dimension) : scale.factor dimension ≠ 0 :=
  (scale.factor_pos dimension).ne'

theorem factor_minus {left right difference : Dimension}
    (quotient : left.minus right = .ok difference) :
    scale.factor difference = scale.factor left / scale.factor right := by
  rw [eq_div_iff (scale.factor_ne_zero right)]
  exact (scale.factor_plus (Dimension.minus_plus quotient)).symm

/-- Steps that multiply the factor by a constant multiply it by its power. -/
theorem factor_repeated {step : Dimension → Except Error Dimension} (ratio : α)
    (stepFactor : ∀ {before after}, step before = .ok after →
      scale.factor after = scale.factor before * ratio)
    {count : Nat} {start last : Dimension}
    (run : Dimension.repeated step count start = .ok last) :
    scale.factor last = scale.factor start * ratio ^ count := by
  induction count generalizing start with
  | zero =>
      cases run
      rw [pow_zero, mul_one]
  | succ count ih =>
      rw [Dimension.repeated] at run
      cases taken : step start with
      | error failure =>
          rw [taken] at run
          cases run
      | ok next =>
          rw [taken] at run
          rw [ih run, stepFactor taken, mul_assoc, pow_succ']

theorem factor_times {dimension result : Dimension} {power : Int}
    (powered : dimension.times power = .ok result) :
    scale.factor result = scale.factor dimension ^ power := by
  rw [Dimension.times] at powered
  split at powered
  · next isRatio =>
      cases powered
      rw [Dimension.isRatio_iff.1 isRatio, scale.factor_ratio, one_zpow]
  · split at powered
    · next positive =>
        have product := scale.factor_repeated (scale.factor dimension)
          (fun step => scale.factor_plus step) powered
        rw [product, scale.factor_ratio, one_mul, ← zpow_natCast]
        congr 1
        omega
    · next nonpositive =>
        have product := scale.factor_repeated (scale.factor dimension)⁻¹
          (fun step => (scale.factor_minus step).trans (div_eq_mul_inv _ _)) powered
        rw [product, scale.factor_ratio, one_mul, inv_pow, ← zpow_natCast, ← zpow_neg]
        congr 1
        omega

/-- The change that replaces the base unit of every axis. -/
def ofAxes [IsStrictOrderedRing α] (units : Axis → α)
    (positive : ∀ axis, 0 < units axis) : Rescaling α where
  factor dimension := (Axis.all.map fun axis => units axis ^ dimension.exponent axis).prod
  factor_pos dimension := by
    refine List.prod_pos ?_
    simp only [List.mem_map]
    rintro _ ⟨axis, _, rfl⟩
    exact zpow_pos (positive axis) _
  factor_ratio := by
    simp [Axis.all]
  factor_plus {left right sum} total := by
    have exponents (axis : Axis) :
        sum.exponent axis = left.exponent axis + right.exponent axis := by
      have added := congrArg (Exponents.get · axis) (Dimension.plus_eq_ok_iff.1 total)
      simpa [Exponents.add] using added
    rw [← List.prod_map_mul]
    refine congrArg List.prod (List.map_congr_left fun axis _ => ?_)
    rw [exponents, zpow_add₀ (positive axis).ne']

end Rescaling

/-! ## Amounts in other base units -/

section Rescaled

variable {α : Type} [Field α] [LinearOrder α]

def Amount.rescaled (scale : Rescaling α) (amount : Amount α) : Amount α :=
  ⟨scale.factor amount.dimension * amount.magnitude, amount.dimension⟩

def Formula.Tagged.rescaled (scale : Rescaling α) (value : Formula.Tagged α) :
    Formula.Tagged α :=
  ⟨value.amount.rescaled scale, value.tag⟩

variable (scale : Rescaling α)

@[simp]
theorem Amount.dimension_rescaled (amount : Amount α) :
    (amount.rescaled scale).dimension = amount.dimension := rfl

@[simp]
theorem Amount.magnitude_rescaled (amount : Amount α) :
    (amount.rescaled scale).magnitude =
      scale.factor amount.dimension * amount.magnitude := rfl

@[simp]
theorem Amount.isRatio_rescaled (amount : Amount α) :
    (amount.rescaled scale).isRatio = amount.isRatio := rfl

/-- Pure numbers do not depend on base units. -/
theorem Amount.rescaled_of_ratio {amount : Amount α}
    (isRatio : amount.dimension = .ratio) : amount.rescaled scale = amount := by
  rw [Amount.rescaled, isRatio, scale.factor_ratio, one_mul, ← isRatio]

end Rescaled

namespace Amount

variable {α : Type} [Field α] [LinearOrder α] [Elementary α] (scale : Rescaling α)

/-- Amounts of one dimension change by the same factor. -/
theorem combine_rescaled {β : Type} (operation : α → α → β) (left right : Amount α) :
    (left.rescaled scale).combine operation (right.rescaled scale) =
      left.combine (fun first second =>
        operation (scale.factor left.dimension * first)
          (scale.factor left.dimension * second)) right := by
  by_cases same : left.dimension = right.dimension
  · simp only [combine, dimension_rescaled, magnitude_rescaled, same, if_true]
  · simp only [combine, dimension_rescaled, same, if_false]

theorem add_rescaled (left right : Amount α) :
    (left.rescaled scale).add (right.rescaled scale) =
      (left.add right).map (rescaled scale) := by
  rw [add, combine_rescaled, add]
  by_cases same : left.dimension = right.dimension
  · simp only [combine, same, if_true, Except.map, rescaled, mul_add]
  · simp only [combine, same, if_false, Except.map]

theorem sub_rescaled (left right : Amount α) :
    (left.rescaled scale).sub (right.rescaled scale) =
      (left.sub right).map (rescaled scale) := by
  rw [sub, combine_rescaled, sub]
  by_cases same : left.dimension = right.dimension
  · simp only [combine, same, if_true, Except.map, rescaled, mul_sub]
  · simp only [combine, same, if_false, Except.map]

theorem mul_rescaled (left right : Amount α) :
    (left.rescaled scale).mul (right.rescaled scale) =
      (left.mul right).map (rescaled scale) := by
  simp only [mul, dimension_rescaled, magnitude_rescaled]
  cases total : left.dimension.plus right.dimension with
  | error failure => rfl
  | ok sum =>
      simp only [Except.map, rescaled, scale.factor_plus total]
      rw [mul_mul_mul_comm]

theorem div_rescaled (left right : Amount α) :
    (left.rescaled scale).div (right.rescaled scale) =
      (left.div right).map (rescaled scale) := by
  simp only [div, dimension_rescaled, magnitude_rescaled]
  cases total : left.dimension.minus right.dimension with
  | error failure => rfl
  | ok difference =>
      simp only [Except.map, rescaled, scale.factor_minus total]
      rw [mul_div_mul_comm]

theorem powerInt_rescaled (amount : Amount α) (exponent : Int) :
    (amount.rescaled scale).powerInt exponent =
      (amount.powerInt exponent).map (rescaled scale) := by
  simp only [powerInt, dimension_rescaled, magnitude_rescaled,
    Scalar.powerInt_eq_zpow]
  cases total : amount.dimension.times exponent with
  | error failure => rfl
  | ok power =>
      simp only [Except.map, rescaled, scale.factor_times total]
      rw [mul_zpow]

theorem neg_rescaled (amount : Amount α) :
    (amount.rescaled scale).neg = amount.neg.rescaled scale := by
  simp only [neg, rescaled, mul_neg]

variable [IsStrictOrderedRing α]

/-- A positive factor keeps the order. -/
theorem compare?_rescaled (left right : Amount α) :
    (left.rescaled scale).compare? (right.rescaled scale) = left.compare? right := by
  have positive := scale.factor_pos left.dimension
  rw [compare?, combine_rescaled, compare?]
  congr 1
  funext first second
  simp only [Scalar.compare?, Scalar.less, Scalar.same, mul_lt_mul_iff_right₀ positive,
    mul_right_inj' positive.ne']

omit [IsStrictOrderedRing α] in
theorem isZero_rescaled (amount : Amount α) :
    (amount.rescaled scale).isZero = amount.isZero := by
  simp only [isZero, Scalar.isZero, Scalar.same, magnitude_rescaled,
    mul_eq_zero_iff_left (scale.factor_ne_zero amount.dimension)]

end Amount

namespace Formula

variable {α σ : Type} [Field α] [LinearOrder α] [Elementary α] (scale : Rescaling α)

/-! ## Operators and functions -/

theorem power_rescaled (base exponent : Amount α) :
    power (base.rescaled scale) (exponent.rescaled scale) =
      (power base exponent).map (Amount.rescaled scale) := by
  unfold power
  rw [Amount.isRatio_rescaled, Amount.isRatio_rescaled]
  by_cases exponentRatio : exponent.isRatio = true
  · -- The exponent and a base that is a pure number are the same in all units.
    rw [Amount.rescaled_of_ratio scale (Dimension.isRatio_iff.1 exponentRatio)]
    by_cases baseRatio : base.isRatio = true
    · rw [Amount.rescaled_of_ratio scale (Dimension.isRatio_iff.1 baseRatio)]
      simp only [exponentRatio, baseRatio, Bool.not_true, Bool.false_eq_true, if_false,
        if_true, Except.map]
      rw [Amount.rescaled_of_ratio scale rfl]
    · simp only [exponentRatio, baseRatio, Bool.not_true, Bool.false_eq_true, if_false]
      split
      · exact Amount.powerInt_rescaled scale base _
      · rfl
  · simp only [exponentRatio, Bool.not_false, if_true]
    rfl

theorem rescaled_ofBool (value : Bool) :
    (Tagged.ofBool value : Tagged α).rescaled scale = Tagged.ofBool value :=
  congrArg (Tagged.mk · "") (Amount.rescaled_of_ratio scale rfl)

theorem isTrue_rescaled (value : Tagged α) :
    (value.rescaled scale).isTrue = value.isTrue :=
  congrArg not (Amount.isZero_rescaled scale value.amount)

/-- Comparisons look at the order only. -/
theorem compare_rescaled [IsStrictOrderedRing α] (comparison : Operator)
    (left right : Amount α) :
    (do
      let ordering ← (left.rescaled scale).compare? (right.rescaled scale)
      .ok (Tagged.ofBool (holds comparison ordering)) : Except Error (Tagged α)) =
    Except.map (Tagged.rescaled scale) (do
      let ordering ← left.compare? right
      .ok (Tagged.ofBool (holds comparison ordering))) := by
  rw [Amount.compare?_rescaled]
  cases left.compare? right with
  | error failure => rfl
  | ok ordering => exact congrArg Except.ok (rescaled_ofBool scale _).symm

theorem applyOperator_rescaled [IsStrictOrderedRing α] (operator : Operator)
    (left right : Tagged α) :
    applyOperator operator (left.rescaled scale) (right.rescaled scale) =
      (applyOperator operator left right).map (Tagged.rescaled scale) := by
  cases operator with
  | add =>
      simp only [applyOperator, Tagged.rescaled, Amount.add_rescaled]
      cases left.amount.add right.amount <;> rfl
  | subtract =>
      simp only [applyOperator, Tagged.rescaled, Amount.sub_rescaled]
      cases left.amount.sub right.amount <;> rfl
  | multiply =>
      simp only [applyOperator, Tagged.rescaled, Amount.mul_rescaled]
      cases left.amount.mul right.amount <;> rfl
  | divide =>
      simp only [applyOperator, Tagged.rescaled, Amount.div_rescaled]
      cases left.amount.div right.amount <;> rfl
  | power =>
      simp only [applyOperator, Tagged.rescaled, power_rescaled]
      cases power left.amount right.amount <;> rfl
  | _ => exact compare_rescaled scale _ left.amount right.amount

omit [Elementary α] in
/-- Mathematical functions take and give pure numbers, which are the same in all units. -/
theorem onPure_rescaled (name : String) (apply : α → α) (argument : Tagged α) :
    FormulaFunction.onPure name apply (argument.rescaled scale) =
      (FormulaFunction.onPure name apply argument).map (Tagged.rescaled scale) := by
  simp only [FormulaFunction.onPure, Tagged.rescaled, Amount.isRatio_rescaled,
    Amount.dimension_rescaled]
  by_cases isRatio : argument.amount.isRatio = true
  · rw [Amount.rescaled_of_ratio scale (Dimension.isRatio_iff.1 isRatio)]
    simp only [isRatio, if_true, Except.map]
    exact congrArg (Except.ok ∘ Tagged.untagged)
      (Amount.rescaled_of_ratio scale rfl).symm
  · simp only [isRatio, Bool.false_eq_true, if_false, Except.map]

/-! ## Evaluation -/

/-- The resolver whose amounts are given in the other base units. -/
def Resolver.rescaled (resolve : Resolver α σ) : Resolver α σ := fun name =>
  Amount.rescaled scale <$> resolve name

/-- The leaves with the amounts of tagged numbers and of references given in the
other base units.  Plain numbers are pure and stay as they are. -/
def Leaves.rescaled (resolve : Resolver α σ) : Leaves α σ where
  tagged value tag := Tagged.rescaled scale <$> evaluateTagged value tag
  reference := evaluateReference (resolve.rescaled scale)

omit [Elementary α] in
theorem evaluateReference_rescaled (resolve : Resolver α σ) (name : String) :
    evaluateReference (resolve.rescaled scale) name =
      Tagged.rescaled scale <$> evaluateReference resolve name := by
  unfold evaluateReference Resolver.rescaled
  rw [Attempt.mapFailure_map, bind_map_left, map_bind]
  rfl

theorem respected_rescaled [IsStrictOrderedRing α] {table : FunctionTable α} (plain : table.Plain) :
    Respected (.same (Registry α × σ)) table fun value changed =>
      changed = value.rescaled scale where
  number value := congrArg Tagged.untagged (Amount.rescaled_of_ratio scale rfl).symm
  isTrue {left right} equal := by
    rw [equal, isTrue_rescaled]
  negate {left right} equal := by
    rw [equal]
    exact congrArg (Tagged.mk · left.tag) (Amount.neg_rescaled scale left.amount)
  operator operator first first' second second' equal equal' := by
    rw [equal, equal', applyOperator_rescaled]
    exact Coupling.outcomes_same.2 rfl
  call := plain.outcomes fun name apply argument other equal => by
    rw [equal, onPure_rescaled]
    exact Coupling.outcomes_same.2 rfl

/-- Formulas over plain functions cannot tell which base units their amounts are given in. -/
theorem evaluate_rescaled [IsStrictOrderedRing α] {table : FunctionTable α} (plain : table.Plain)
    (resolve : Resolver α σ) (expression : Expression α) :
    expression.evaluate table (.rescaled scale resolve) =
      Tagged.rescaled scale <$> expression.evaluate table (.ofResolver resolve) := by
  refine Coupling.inStep_same.1 (Expression.evaluate_inStep
    (respected_rescaled scale plain) expression ⟨?_, ?_⟩)
  · intro tag _ value
    exact Coupling.inStep_same.2 rfl
  · intro name _
    exact Coupling.inStep_same.2 (evaluateReference_rescaled scale resolve name)

/-- The square of three metres is nine million square millimetres. -/
theorem evaluate_rescaled_square :
    let metre : Dimension := ⟨Dimension.pack ⟨0, 1, 0, 0⟩⟩
    let millimetres : Rescaling ℚ :=
      .ofAxes (fun axis => if axis = .length then 1000 else 1)
        (by intro axis; cases axis <;> decide)
    let square : Expression ℚ := .binary .multiply (.reference "side") (.reference "side")
    ((square.evaluate .standard (.rescaled millimetres
      (.ofTable [("side", ⟨3, metre⟩)]))).start (Registry.empty {} [], ())).1 =
        .ok ⟨⟨9000000, ⟨Dimension.pack ⟨0, 2, 0, 0⟩⟩⟩, ""⟩ := by
  have evaluated :
      (Expression.evaluate .standard (.ofResolver
        (.ofTable [("side", ⟨(3 : ℚ), ⟨Dimension.pack ⟨0, 1, 0, 0⟩⟩⟩)]))
        (.binary .multiply (.reference "side") (.reference "side"))).start
          (Registry.empty {} [], ()) =
        (.ok ⟨⟨3 * 3, ⟨Dimension.pack ⟨0, 2, 0, 0⟩⟩⟩, ""⟩, (Registry.empty {} [], ())) := by
    rfl
  intro metre millimetres square
  have factor : millimetres.factor ⟨Dimension.pack ⟨0, 2, 0, 0⟩⟩ = 1000000 := by
    decide +kernel
  rw [evaluate_rescaled millimetres FunctionTable.plain_standard, Attempt.start_map, evaluated]
  simp only [Except.map, Tagged.rescaled, Amount.rescaled, factor]
  norm_num

end Formula

end Metrology
