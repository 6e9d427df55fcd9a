import Metrology.Proofs.Histories

/-!
# Normalizing is all or nothing

Normalizing fails at many places, and one of them comes after the registry has grown.  Taken
step by step, with the growth where it happens, it still leaves the registry of a failure as
it was: what has just been registered has an SI unit, so nothing fails behind it.
-/

namespace Metrology

namespace Attempt

variable {σ β γ : Type}

/-- A look at the state, which may fail and changes nothing. -/
def looking (look : σ → Except Error β) : Attempt σ β :=
  fun state => (look state, state)

/-- The outcome and the state after a step that only replaces the state at its end. -/
def settled (state : σ) : Except Error (β × σ) → Except Error β × σ
  | .ok (value, next) => (.ok value, next)
  | .error failure => (.error failure, state)

theorem start_ofStep (step : σ → Except Error (β × σ)) (state : σ) :
    (ofStep step).start state = settled state (step state) := by
  cases stepped : step state with
  | error failure => exact start_ofStep_of_error step stepped
  | ok result => exact start_ofStep_of_ok step stepped

/-- A look before what only replaces the state at its end. -/
theorem start_looking_bind {look : σ → Except Error β} {next : β → Attempt σ γ}
    {step : β → Except Error (γ × σ)} {state : σ}
    (follows : ∀ value, look state = .ok value →
      (next value).start state = settled state (step value)) :
    (looking look >>= next).start state = settled state (look state >>= step) := by
  cases seen : look state with
  | error failure => exact start_bind_of_error seen
  | ok value => exact (start_bind_of_start (congrArg (·, state) seen)).trans (follows value seen)

end Attempt

namespace Registry

variable {α : Type} [Scalar α]

/-! ## Step by step -/

/-- Register what is derived from a numerator, unless its dimension is another one. -/
def registeringQuotient (dimension : Dimension) (below : Option (Quantity α))
    (numerator : Quantity α) : Attempt (Registry α) (Quantity α) := do
  let derived ← Attempt.ofExcept (numerator.derive below)
  if derived.dimension ≠ dimension then
    throw (.internal (s!"derived quantity '{derived.name}' has dimension " ++
      derived.dimension.text ++ " instead of " ++ dimension.text))
  else registering derived

/-- `synthesize` step by step. -/
def synthesizing (factors : List (Factor α)) (dimension : Dimension) (expression : String) :
    Attempt (Registry α) (Quantity α) := do
  let growth ← Attempt.looking fun registry => .ok registry.growth
  if !growth then
    throw (.unknownUnit (Text.trimmed expression ++
      " (no quantity for dimension " ++ dimension.text ++ ")"))
  else do
    let above ← Attempt.ofExcept (productOf (Factor.above factors))
    let below ← Attempt.ofExcept (productOf (Factor.below factors))
    let numerator ← match above with
      | some quantity => pure quantity
      | none => Attempt.looking neutralQuantity
    registeringQuotient dimension below numerator

/-- `ownerOrDerived` step by step. -/
def owning (factors : List (Factor α)) (dimension : Dimension) (expression : String) :
    Attempt (Registry α) (Quantity α) := do
  match ← Attempt.looking fun registry => .ok (registry.ownerOf? dimension) with
  | some owner => pure owner
  | none => synthesizing factors dimension expression

/-- `normalizing` step by step.  The SI unit of the owner is looked for last, when the
registry may have grown already. -/
def normalizingInSteps (expression : String) : Attempt (Registry α) (Normalized α) := do
  let factors ← Attempt.looking fun registry => registry.factors expression
  let dimension ← Attempt.ofExcept (Factor.dimension factors)
  let plan ← Attempt.looking fun registry =>
    ConversionPlan.ofFactors factors registry.stepLimit
  let owner ← owning factors dimension expression
  match owner.siUnit? with
  | none => throw (.internal s!"quantity '{owner.name}' has no SI unit")
  | some unit =>
      return {
        siExpression := unit.expression
        userExpression := UnitExpression.product
          (factors.map fun factor => (factor.entry.expression, factor.exponent))
        dimension
        quantity := owner.name
        slope := plan.affine.1
        intercept := plan.affine.2 }

variable (registry : Registry α)

theorem start_registeringQuotient (dimension : Dimension) (below : Option (Quantity α))
    (numerator : Quantity α) :
    (registeringQuotient dimension below numerator).start registry =
      Attempt.settled registry (do
        let derived ← numerator.derive below
        if derived.dimension ≠ dimension then
          .error (.internal (s!"derived quantity '{derived.name}' has dimension " ++
            derived.dimension.text ++ " instead of " ++ dimension.text))
        else registry.registerDerived derived) := by
  refine Attempt.start_looking_bind fun derived _ => ?_
  by_cases differs : derived.dimension ≠ dimension
  · rw [if_pos differs, if_pos differs]
    rfl
  · rw [if_neg differs, if_neg differs]
    exact Attempt.start_ofStep _ registry

/-- A synthesis fails before it registers anything. -/
theorem start_synthesizing (factors : List (Factor α)) (dimension : Dimension)
    (expression : String) :
    (synthesizing factors dimension expression).start registry =
      Attempt.settled registry (registry.synthesize factors dimension expression) := by
  refine (Attempt.start_bind_of_start rfl).trans ?_
  unfold synthesize
  by_cases closed : (!registry.growth) = true
  · rw [if_pos closed, if_pos closed]
    rfl
  · rw [if_neg closed, if_neg closed]
    refine Attempt.start_looking_bind fun above _ => Attempt.start_looking_bind fun below _ => ?_
    cases above with
    | none =>
      exact Attempt.start_looking_bind fun numerator _ =>
        start_registeringQuotient registry dimension below numerator
    | some numerator => exact start_registeringQuotient registry dimension below numerator

theorem start_owning (factors : List (Factor α)) (dimension : Dimension)
    (expression : String) :
    (owning factors dimension expression).start registry =
      Attempt.settled registry (registry.ownerOrDerived factors dimension expression) := by
  refine (Attempt.start_bind_of_start rfl).trans ?_
  unfold ownerOrDerived
  cases registry.ownerOf? dimension with
  | none => exact start_synthesizing registry factors dimension expression
  | some owner => rfl

/-- The growth is the last thing that can happen: what is registered has an SI unit. -/
theorem start_normalizingInSteps (expression : String) :
    (normalizingInSteps expression).start registry = (normalizing expression).start registry := by
  rw [normalizing, Attempt.start_ofStep]
  refine Attempt.start_looking_bind fun factors resolved =>
    Attempt.start_looking_bind fun dimension _ => Attempt.start_looking_bind fun plan _ => ?_
  cases owned : registry.ownerOrDerived factors dimension expression with
  | error failure =>
      have failed := start_owning registry factors dimension expression
      rw [owned] at failed
      exact (Attempt.start_bind_of_error (congrArg Prod.fst failed)).trans
        (congrArg (_, ·) (congrArg Prod.snd failed))
  | ok result =>
      obtain ⟨owner, grown⟩ := result
      have found := start_owning registry factors dimension expression
      rw [owned] at found
      refine (Attempt.start_bind_of_start found).trans ?_
      simp only [bind, Except.bind]
      cases siUnit : owner.siUnit? with
      | some unit => rfl
      | none =>
          rcases ownerOrDerived_eq_ok owned with ⟨_, rfl⟩ | ⟨unowned, made⟩
          · rfl
          · obtain ⟨_, _, withSI, _⟩ := synthesize_eq_ok (mem_of_factors resolved) unowned made
            rw [siUnit] at withSI
            cases withSI

/-! ## All or nothing -/

theorem isDerived_of_derive {numerator derived : Quantity α}
    {below : Option (Quantity α)} (derives : numerator.derive below = .ok derived) :
    derived.isDerived = true := by
  cases below with
  | none =>
      cases derives
      rfl
  | some denominator =>
      obtain ⟨dimension, _, made⟩ := exists_of_bind_eq_ok derives
      cases made
      rfl

/-- What normalizing leaves behind: the registry it started from, or this registry with one
derived quantity, of a dimension that had no owner, at its end. -/
structure AllOrNothing (registry : Registry α)
    (result : Except Error (Normalized α) × Registry α) : Prop where
  failed : ∀ failure, result.1 = .error failure → result.2 = registry
  covered : ∀ normalized, result.1 = .ok normalized →
    (registry.ownerOf? normalized.dimension).isSome = true → result.2 = registry
  added : ∀ normalized, result.1 = .ok normalized →
    registry.ownerOf? normalized.dimension = none →
      ∃ quantity, result.2 = registry.append quantity ∧
        quantity.dimension = normalized.dimension ∧ quantity.isDerived = true
  owner : ∀ normalized, result.1 = .ok normalized →
    ∃ owner unit, result.2.ownerOf? normalized.dimension = some owner ∧
      owner.name = normalized.quantity ∧ owner.siUnit? = some unit ∧
      unit.expression = normalized.siExpression

theorem allOrNothing_of_error {registry : Registry α} (failure : Error) :
    registry.AllOrNothing (.error failure, registry) where
  failed _ _ := rfl
  covered _ impossible := by cases impossible
  added _ impossible := by cases impossible
  owner _ impossible := by cases impossible

theorem allOrNothing_of_normalize {registry grown : Registry α} {expression : String}
    {normalized : Normalized α}
    (made : registry.normalize expression = .ok (normalized, grown)) :
    registry.AllOrNothing (.ok normalized, grown) := by
  obtain ⟨factors, owner, unit, resolved, _, owned, _⟩ := normalize_eq_ok_iff.1 made
  refine ⟨?failed, ?covered, ?added, ?owner⟩
  case failed =>
    intro failure impossible
    cases impossible
  case covered =>
    rintro _ ⟨rfl⟩ present
    rcases ownerOrDerived_eq_ok owned with ⟨_, same⟩ | ⟨unowned, _⟩
    · exact same
    · rw [unowned] at present
      cases present
  case added =>
    rintro _ ⟨rfl⟩ unowned
    rcases ownerOrDerived_eq_ok owned with ⟨found, _⟩ | ⟨_, synthesized⟩
    · rw [unowned] at found
      cases found
    · obtain ⟨_, _, _, _, _, _, derives, appended, dimension, _⟩ :=
        exists_of_synthesize unowned synthesized
      exact ⟨owner, appended, dimension, isDerived_of_derive derives⟩
  case owner =>
    rintro _ ⟨rfl⟩
    obtain ⟨owner, unit, found, siUnit, si, named⟩ := owner_of_normalize made
    exact ⟨owner, unit, found, named.symm, siUnit, si.symm⟩

/-- Whatever the expression and wherever it fails, normalizing changes nothing or adds the one
quantity that the dimension lacked. -/
theorem normalizing_all_or_nothing (expression : String) :
    (normalizing expression).start registry = (normalizingInSteps expression).start registry ∧
      registry.AllOrNothing ((normalizingInSteps expression).start registry) := by
  have same := start_normalizingInSteps registry expression
  refine ⟨same.symm, ?_⟩
  rw [same]
  cases made : registry.normalize expression with
  | error failure =>
      rw [start_normalizing_of_error made]
      exact allOrNothing_of_error failure
  | ok result =>
      rw [start_normalizing_of_ok made]
      exact allOrNothing_of_normalize made

end Registry

end Metrology
