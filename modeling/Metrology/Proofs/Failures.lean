import Metrology.Proofs.Alike

/-!
# Where circular references come from

Reading, normalizing and calculating fail in many ways, but never with a circular
reference.  So a formula that fails with one has got it from a resolver.
-/

namespace Metrology

/-! ## Settled steps -/

section Steps

variable {β γ : Type}

@[simp]
theorem settled_ok (value : β) : Settled (.ok value : Except Error β) := trivial

theorem settled_bind {outcome : Except Error β} {next : β → Except Error γ}
    (settled : Settled outcome) (later : ∀ value, Settled (next value)) :
    Settled (outcome >>= next) := by
  cases outcome with
  | ok value => exact later value
  | error failure => exact settled

theorem settled_map {outcome : Except Error β} (settled : Settled outcome)
    (change : β → γ) : Settled (outcome.map change) := by
  cases outcome with
  | ok value => trivial
  | error failure => exact settled

theorem settled_foldlM {step : γ → β → Except Error γ}
    (settled : ∀ sofar value, Settled (step sofar value)) (values : List β) (start : γ) :
    Settled (values.foldlM step start) := by
  induction values generalizing start with
  | nil => trivial
  | cons value rest ih => exact settled_bind (settled start value) ih

end Steps

/-! ## Dimensions and quantities -/

namespace Dimension

theorem settled_ofExponents (exponents : Exponents) : Settled (ofExponents exponents) := by
  unfold ofExponents
  split
  · rfl
  · trivial

theorem settled_plus (left right : Dimension) : Settled (left.plus right) :=
  settled_ofExponents _

theorem settled_minus (left right : Dimension) : Settled (left.minus right) :=
  settled_ofExponents _

theorem settled_repeated {step : Dimension → Except Error Dimension}
    (settled : ∀ dimension, Settled (step dimension)) (count : Nat) (dimension : Dimension) :
    Settled (repeated step count dimension) := by
  induction count generalizing dimension with
  | zero => trivial
  | succ count ih => exact settled_bind (settled dimension) ih

theorem settled_times (dimension : Dimension) (power : Int) :
    Settled (dimension.times power) := by
  unfold times
  split
  · trivial
  · split
    · exact settled_repeated (settled_plus · dimension) _ _
    · exact settled_repeated (settled_minus · dimension) _ _

end Dimension

variable {α : Type}

theorem Factor.settled_dimension (factors : List (Factor α)) :
    Settled (Factor.dimension factors) :=
  settled_foldlM (fun sofar _ => settled_bind (Dimension.settled_times _ _)
    (Dimension.settled_plus sofar)) _ _

section Scalars

variable [Scalar α]

namespace Quantity

theorem settled_power (quantity : Quantity α) (exponent : Int) :
    Settled (quantity.power exponent) := by
  unfold power
  split
  · trivial
  · exact settled_bind (Dimension.settled_times _ _) fun _ => trivial

theorem settled_product (left right : Quantity α) : Settled (left.product right) :=
  settled_bind (Dimension.settled_plus _ _) fun _ => trivial

theorem settled_derive (numerator : Quantity α) (denominator : Option (Quantity α)) :
    Settled (numerator.derive denominator) := by
  cases denominator with
  | none => trivial
  | some denominator => exact settled_bind (Dimension.settled_minus _ _) fun _ => trivial

end Quantity

theorem ConversionPlan.settled_ofFactors (factors : List (Factor α)) (limit : Nat) :
    Settled (ConversionPlan.ofFactors factors limit) := by
  refine settled_foldlM (fun plan factor => settled_bind ?_ fun _ => ?_) _ _
  · unfold UnitEntry.siUnit
    split
    · trivial
    · rfl
  · split
    · trivial
    · rfl

/-! ## Normalization -/

theorem UnitExpression.isCircular_of_split {expression : String} {failure : Error}
    (fails : UnitExpression.split expression = .error failure) :
    failure.isCircular = false := by
  unfold UnitExpression.split at fails
  simp only at fails
  split at fails
  · cases fails
  · cases fails
    rfl

namespace Registry

omit [Scalar α] in
theorem settled_findUnit (registry : Registry α) (token : String) :
    Settled (registry.findUnit token) := by
  unfold findUnit
  simp only
  repeat' split
  all_goals trivial

omit [Scalar α] in
theorem settled_resolveTerms (registry : Registry α) (factors : List (Factor α))
    (terms : List UnitTerm) : Settled (registry.resolveTerms factors terms) := by
  induction terms generalizing factors with
  | nil => trivial
  | cons term rest ih => exact settled_bind (registry.settled_findUnit _) fun _ => ih _

omit [Scalar α] in
theorem settled_factors (registry : Registry α) (expression : String) :
    Settled (registry.factors expression) := by
  unfold factors
  simp only
  split
  · trivial
  · split
    · trivial
    · cases parsed : UnitExpression.split (Text.trimmed expression) with
      | error failure => exact UnitExpression.isCircular_of_split parsed
      | ok terms =>
          exact settled_bind (settled_ok terms) fun terms =>
            settled_bind (registry.settled_resolveTerms [] terms) fun _ => settled_ok _

theorem settled_multiplyOnto (product : Option (Quantity α)) (factor : Factor α) :
    Settled (multiplyOnto product factor) := by
  refine settled_bind (Quantity.settled_power _ _) fun powered => ?_
  cases product with
  | none => trivial
  | some product => exact settled_bind (product.settled_product powered) fun _ => trivial

theorem settled_productOf (factors : List (Factor α)) : Settled (productOf factors) :=
  settled_foldlM settled_multiplyOnto _ _

omit [Scalar α] in
theorem settled_neutralQuantity (registry : Registry α) :
    Settled registry.neutralQuantity := by
  unfold neutralQuantity
  split
  · trivial
  · rfl

theorem settled_registerDerived (registry : Registry α) (quantity : Quantity α) :
    Settled (registry.registerDerived quantity) := by
  unfold registerDerived
  repeat' split
  all_goals trivial

theorem settled_synthesize (registry : Registry α) (factors : List (Factor α))
    (dimension : Dimension) (expression : String) :
    Settled (registry.synthesize factors dimension expression) := by
  unfold synthesize
  split
  · rfl
  · refine settled_bind (settled_productOf _) fun above =>
      settled_bind (settled_productOf _) fun below => ?_
    have derives (numerator : Quantity α) : Settled (do
        let derived ← numerator.derive below
        if derived.dimension ≠ dimension then
          .error (.internal (s!"derived quantity '{derived.name}' has dimension " ++
            derived.dimension.text ++ " instead of " ++ dimension.text))
        else registry.registerDerived derived) := by
      refine settled_bind (numerator.settled_derive below) fun derived => ?_
      split
      · rfl
      · exact registry.settled_registerDerived derived
    cases above with
    | some quantity => exact derives quantity
    | none => exact settled_bind registry.settled_neutralQuantity derives

theorem settled_normalize (registry : Registry α) (expression : String) :
    Settled (registry.normalize expression) := by
  refine settled_bind (registry.settled_factors _) fun factors =>
    settled_bind (Factor.settled_dimension factors) fun dimension =>
      settled_bind (ConversionPlan.settled_ofFactors factors _) fun plan =>
        settled_bind ?_ fun owned => ?_
  · unfold ownerOrDerived
    split
    · trivial
    · exact registry.settled_synthesize _ _ _
  · simp only
    split
    · rfl
    · trivial

theorem settled_normalizing (expression : String) (registry : Registry α) :
    Settled ((normalizing expression).start registry).1 := by
  have settled := registry.settled_normalize expression
  unfold normalizing
  cases outcome : registry.normalize expression with
  | error failure =>
      rw [Attempt.start_ofStep_of_error (fun start : Registry α => start.normalize expression)
        outcome]
      rwa [outcome] at settled
  | ok found =>
      rw [Attempt.start_ofStep_of_ok (fun start : Registry α => start.normalize expression)
        outcome]
      trivial

end Registry

/-! ## Calculating -/

namespace Amount

omit [Scalar α] in
theorem settled_combine {β : Type} (operation : α → α → β) (left right : Amount α) :
    Settled (left.combine operation right) := by
  unfold combine
  split
  · trivial
  · rfl

end Amount

namespace Formula

theorem settled_power (base exponent : Amount α) : Settled (power base exponent) := by
  unfold power
  repeat' split
  · rfl
  · trivial
  · exact settled_map (Dimension.settled_times _ _) _
  · rfl

theorem settled_applyOperator (operator : Operator) (left right : Tagged α) :
    Settled (applyOperator operator left right) := by
  unfold applyOperator
  split
  · exact settled_bind (settled_map (Amount.settled_combine _ _ _) _) fun _ => trivial
  · exact settled_bind (settled_map (Amount.settled_combine _ _ _) _) fun _ => trivial
  · exact settled_bind (settled_map (Dimension.settled_plus _ _) _) fun _ => trivial
  · exact settled_bind (settled_map (Dimension.settled_minus _ _) _) fun _ => trivial
  · exact settled_bind (settled_power _ _) fun _ => trivial
  · exact settled_bind (Amount.settled_combine _ _ _) fun _ => trivial

theorem settled_parse (formula : String) :
    Settled (parse formula : Except Error (Expression α)) := by
  unfold parse
  split
  · trivial
  · rfl

end Formula

end Scalars

end Metrology
