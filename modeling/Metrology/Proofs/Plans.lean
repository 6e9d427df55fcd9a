import Metrology.Proofs.Rereading
import Metrology.Proofs.Valuing

/-!
# Plans and their affine maps

The steps of a plan compose to one affine map.  As long as no unit has a vanishing
slope, every step can be undone, and so can the plan as a whole.  Factors have a plan
just when their single powers fit the limit.
-/

namespace Metrology

section Exact

variable {α : Type} [Field α] [LinearOrder α] [Elementary α]

/-! ## One step -/

namespace ConversionStep

/-- A step after an affine map is the affine map that it says it is. -/
theorem apply_affine (step : ConversionStep α) (map : α × α) (value : α) :
    step.apply (value * map.1 + map.2) =
      value * (step.after map).1 + (step.after map).2 := by
  unfold apply after
  split
  · simp only [div_eq_mul_inv]
    ring
  · ring

theorem slope_after_ne_zero {step : ConversionStep α} (sound : step.slope ≠ 0) {map : α × α}
    (slope : map.1 ≠ 0) : (step.after map).1 ≠ 0 := by
  unfold after
  split
  · exact div_ne_zero slope sound
  · exact mul_ne_zero slope sound

theorem undo_apply {step : ConversionStep α} (sound : step.slope ≠ 0) (value : α) :
    step.undo (step.apply value) = value := by
  unfold undo apply
  split
  · rw [div_mul_cancel₀ _ sound, sub_add_cancel]
  · rw [add_sub_cancel_right, mul_div_cancel_right₀ _ sound]

theorem apply_undo {step : ConversionStep α} (sound : step.slope ≠ 0) (value : α) :
    step.apply (step.undo value) = value := by
  unfold undo apply
  split
  · rw [add_sub_cancel_right, mul_div_cancel_right₀ _ sound]
  · rw [div_mul_cancel₀ _ sound, sub_add_cancel]

end ConversionStep

/-! ## Whole plans -/

namespace ConversionPlan

/-- Every step of the plan can be undone. -/
def Sound (plan : ConversionPlan α) : Prop :=
  ∀ step ∈ plan.steps, step.slope ≠ 0

theorem foldl_apply (steps : List (ConversionStep α)) (map : α × α) (value : α) :
    steps.foldl (fun sofar step => step.apply sofar) (value * map.1 + map.2) =
      value * (steps.foldl (fun sofar step => step.after sofar) map).1 +
        (steps.foldl (fun sofar step => step.after sofar) map).2 := by
  induction steps generalizing map with
  | nil => rfl
  | cons step rest ih =>
      rw [List.foldl_cons, List.foldl_cons, step.apply_affine, ih]

/-- A plan takes values to the SI scale by its affine map. -/
theorem toSI_eq (plan : ConversionPlan α) (value : α) :
    plan.toSI value = value * plan.affine.1 + plan.affine.2 := by
  have whole := foldl_apply plan.steps (1, 0) value
  rw [mul_one, add_zero] at whole
  exact whole

variable {plan : ConversionPlan α}

theorem Sound.slope_ne_zero (sound : plan.Sound) : plan.affine.1 ≠ 0 := by
  have kept : ∀ (steps : List (ConversionStep α)) (map : α × α),
      (∀ step ∈ steps, step.slope ≠ 0) → map.1 ≠ 0 →
      (steps.foldl (fun sofar step => step.after sofar) map).1 ≠ 0 := by
    intro steps
    induction steps with
    | nil => exact fun _ _ slope => slope
    | cons step rest ih =>
        intro map sound slope
        exact ih _ (fun other member => sound other (List.mem_cons_of_mem _ member))
          (ConversionStep.slope_after_ne_zero (sound step List.mem_cons_self) slope)
  exact kept plan.steps (1, 0) sound one_ne_zero

/-- Undoing the steps from the last to the first brings a value back. -/
theorem Sound.ofSI_toSI (sound : plan.Sound) (value : α) :
    plan.ofSI (plan.toSI value) = value := by
  obtain ⟨steps⟩ := plan
  unfold ofSI toSI Sound at *
  induction steps generalizing value with
  | nil => rfl
  | cons step rest ih =>
      rw [List.foldl_cons, List.foldr_cons,
        ih _ fun other member => sound other (List.mem_cons_of_mem _ member),
        ConversionStep.undo_apply (sound step List.mem_cons_self)]

theorem Sound.toSI_ofSI (sound : plan.Sound) (value : α) :
    plan.toSI (plan.ofSI value) = value := by
  obtain ⟨steps⟩ := plan
  unfold ofSI toSI Sound at *
  induction steps with
  | nil => rfl
  | cons step rest ih =>
      rw [List.foldl_cons, List.foldr_cons,
        ConversionStep.apply_undo (sound step List.mem_cons_self),
        ih fun other member => sound other (List.mem_cons_of_mem _ member)]

/-- A plan takes values of the SI scale back by the inverse of its affine map. -/
theorem Sound.ofSI_eq (sound : plan.Sound) (value : α) :
    plan.ofSI value = (value - plan.affine.2) / plan.affine.1 := by
  have back := plan.toSI_eq (plan.ofSI value)
  rw [sound.toSI_ofSI] at back
  rw [eq_div_iff sound.slope_ne_zero, eq_sub_iff_add_eq]
  exact back.symm

/-- The plan of factors whose units have slopes can be undone. -/
theorem sound_of_ofFactors {factors : List (Factor α)} {limit : Nat}
    (slopes : ∀ factor ∈ factors, factor.entry.unit.slope ≠ 0)
    (planned : ofFactors factors limit = .ok plan) : plan.Sound := by
  intro step member
  rw [(ofFactors_eq_ok planned).1] at member
  obtain ⟨factor, chosen, repeated⟩ := List.mem_flatMap.1 member
  rw [(List.mem_replicate.1 repeated).2]
  refine slopes factor ?_
  rcases List.mem_append.1 chosen with above | below
  · exact List.mem_of_mem_filter above
  · exact List.mem_of_mem_filter below

end ConversionPlan

end Exact

/-! ## When there is a plan -/

namespace ConversionPlan

variable {α : Type} [Scalar α] {plan : ConversionPlan α}

theorem exists_foldlM_addFactor_iff {factors : List (Factor α)} {limit : Nat}
    (withSI : ∀ factor ∈ factors, factor.entry.quantity.siUnit?.isSome = true)
    (fits : plan.steps.length ≤ limit) :
    (∃ last, factors.foldlM (addFactor limit) plan = .ok last) ↔
      plan.steps.length + Registry.powers factors ≤ limit := by
  constructor
  · rintro ⟨last, added⟩
    exact (foldlM_addFactor added fits).2
  · intro room
    induction factors generalizing plan with
    | nil => exact ⟨plan, rfl⟩
    | cons factor rest ih =>
        rw [Registry.powers, List.map_cons, List.sum_cons, ← Registry.powers] at room
        obtain ⟨unit, siUnit⟩ := Option.isSome_iff_exists.1 (withSI factor List.mem_cons_self)
        have here : plan.steps.length + factor.exponent.natAbs ≤ limit := by omega
        have added : addFactor limit plan factor =
            .ok ⟨plan.steps ++ List.replicate factor.exponent.natAbs (stepOf factor)⟩ := by
          simp only [addFactor, UnitEntry.siUnit, siUnit, bind, Except.bind]
          exact if_pos here
        have length : (plan.steps ++ List.replicate factor.exponent.natAbs
            (stepOf factor)).length = plan.steps.length + factor.exponent.natAbs := by
          rw [List.length_append, List.length_replicate]
        have next := (length.trans_le here : (ConversionPlan.mk _).steps.length ≤ limit)
        obtain ⟨last, made⟩ := ih
          (fun other member => withSI other (List.mem_cons_of_mem _ member)) next
          (by rw [length]; omega)
        refine ⟨last, ?_⟩
        rw [List.foldlM_cons, added]
        exact made

omit [Scalar α] in
/-- Factors that vanish take no steps. -/
theorem powers_above_below (factors : List (Factor α)) :
    Registry.powers (Factor.above factors ++ Factor.below factors) = Registry.powers factors := by
  rw [Registry.powers, List.map_append, List.sum_append]
  have neutral (factor : Factor α) (vanishing : factor.exponent = 0) :
      Multiplicative.ofAdd factor.exponent.natAbs = 1 := by
    rw [vanishing]
    rfl
  exact UnitExpression.prod_signs Factor.exponent neutral factors

omit [Scalar α] in
theorem stepsOf_append (left right : List (Factor α)) :
    stepsOf (left ++ right) = stepsOf left ++ stepsOf right :=
  List.flatMap_append

omit [Scalar α] in
theorem length_stepsOf (factors : List (Factor α)) :
    (stepsOf factors).length = Registry.powers factors := by
  induction factors with
  | nil => rfl
  | cons factor rest ih =>
      rw [stepsOf, List.flatMap_cons, ← stepsOf, List.length_append, List.length_replicate, ih,
        Registry.powers, Registry.powers, List.map_cons, List.sum_cons]

/-- There is a plan just when the single powers fit the limit. -/
theorem exists_ofFactors_iff {factors : List (Factor α)} {limit : Nat}
    (withSI : ∀ factor ∈ factors, factor.entry.quantity.siUnit?.isSome = true) :
    (∃ plan, ofFactors factors limit = .ok plan) ↔ Registry.powers factors ≤ limit := by
  have inOrder : ∀ factor ∈ Factor.above factors ++ Factor.below factors,
      factor.entry.quantity.siUnit?.isSome = true := by
    intro factor member
    rcases List.mem_append.1 member with above | below
    · exact withSI factor (List.mem_of_mem_filter above)
    · exact withSI factor (List.mem_of_mem_filter below)
  rw [ofFactors, exists_foldlM_addFactor_iff inOrder (Nat.zero_le _), List.length_nil,
    Nat.zero_add, powers_above_below]

/-- Factors of quantities with SI units have no plan only when they need too many steps. -/
theorem failure_of_ofFactors {factors : List (Factor α)} {limit : Nat} {failure : Error}
    (withSI : ∀ factor ∈ factors, factor.entry.quantity.siUnit?.isSome = true)
    (failed : ofFactors factors limit = .error failure) :
    failure = .internal ("conversion needs more than " ++ limit.repr ++ " steps") := by
  have added (remaining : List (Factor α)) (plan : ConversionPlan α)
      (among : ∀ factor ∈ remaining, factor ∈ factors)
      (failed : remaining.foldlM (addFactor limit) plan = .error failure) :
      failure = .internal ("conversion needs more than " ++ limit.repr ++ " steps") := by
    induction remaining generalizing plan with
    | nil => cases failed
    | cons factor rest ih =>
        obtain ⟨unit, siUnit⟩ :=
          Option.isSome_iff_exists.1 (withSI factor (among factor List.mem_cons_self))
        rw [List.foldlM_cons] at failed
        cases stepped : addFactor limit plan factor with
        | ok next =>
            rw [stepped] at failed
            exact ih next (fun other member => among other (List.mem_cons_of_mem _ member)) failed
        | error reason =>
            rw [stepped] at failed
            cases failed
            simp only [addFactor, UnitEntry.siUnit, siUnit, bind, Except.bind] at stepped
            split at stepped
            · cases stepped
            · exact (Except.error.inj stepped).symm
  refine added _ _ (fun factor member => ?_) failed
  rcases List.mem_append.1 member with above | below
  · exact List.mem_of_mem_filter above
  · exact List.mem_of_mem_filter below

end ConversionPlan

/-! ## Plans of factors -/

namespace ConversionPlan

section Exact

variable {α : Type} [Field α] [LinearOrder α] [Elementary α]

/-- A plan of factors that is one affine map, forwards as well as backwards. -/
structure Carries (plan : ConversionPlan α) (factors : List (Factor α)) : Prop where
  steps : plan.steps = stepsOf (Factor.above factors) ++ stepsOf (Factor.below factors)
  length : plan.steps.length = Registry.powers factors
  slope : plan.affine.1 ≠ 0
  toSI : ∀ value, plan.toSI value = plan.affine.1 * value + plan.affine.2
  back : ∀ value, plan.ofSI (plan.toSI value) = value
  forth : ∀ value, plan.toSI (plan.ofSI value) = value

/-- Factors of quantities with SI units have a plan just when their single powers fit the limit.  If
no slope vanishes, the plan is an affine map with an inverse. -/
theorem ofFactors_carries {factors : List (Factor α)} (limit : Nat)
    (withSI : ∀ factor ∈ factors, factor.entry.quantity.siUnit?.isSome = true)
    (slopes : ∀ factor ∈ factors, factor.entry.unit.slope ≠ 0) :
    ((∃ plan, ofFactors factors limit = .ok plan) ↔ Registry.powers factors ≤ limit) ∧
      ∀ plan, ofFactors factors limit = .ok plan → plan.Carries factors := by
  refine ⟨exists_ofFactors_iff withSI, fun plan planned => ?_⟩
  have steps := (ofFactors_eq_ok planned).1
  have sound := sound_of_ofFactors slopes planned
  exact {
    steps := by rw [steps, stepsOf_append]
    length := by rw [steps, length_stepsOf, powers_above_below]
    slope := sound.slope_ne_zero
    toSI := fun value => by rw [plan.toSI_eq, mul_comm]
    back := sound.ofSI_toSI
    forth := sound.toSI_ofSI }

end Exact

/-- Warmth on three scales, of which only one starts at nothing. -/
def warmth : Quantity ℚ where
  name := "warmth"
  symbol := "w"
  dimension := .energy
  units := [.proportional "K" "kelvin" 1, ⟨"degC", "celsius", 1, 273, none, none, true⟩,
    ⟨"degRe", "reaumur", 5 / 4, 273, none, none, true⟩]
  preferred := 0
  preferred_lt := by decide
  origin := .base

/-- The square of one scale over another one, which is written first. -/
def warmths : List (Factor ℚ) :=
  [⟨⟨0, 1, warmth, ⟨"degC", "celsius", 1, 273, none, none, true⟩⟩, -1⟩,
    ⟨⟨0, 2, warmth, ⟨"degRe", "reaumur", 5 / 4, 273, none, none, true⟩⟩, 2⟩]

/-- Three steps are enough and two are not.  In the order in which the factors are written the
intercept would be another one. -/
theorem ofFactors_carries_warmths :
    (∀ factor ∈ warmths, factor.entry.quantity.siUnit?.isSome = true) ∧
      (∀ factor ∈ warmths, factor.entry.unit.slope ≠ 0) ∧
      (¬∃ plan, ofFactors warmths 2 = .ok plan) ∧
      ∃ plan, ofFactors warmths 3 = .ok plan ∧ plan.Carries warmths ∧
        plan.affine = (25 / 16, 1365 / 4) ∧
        (ConversionPlan.mk (stepsOf warmths)).affine = (25 / 16, 3003 / 16) := by
  have withSI : ∀ factor ∈ warmths, factor.entry.quantity.siUnit?.isSome = true := by
    decide +kernel
  have slopes : ∀ factor ∈ warmths, factor.entry.unit.slope ≠ 0 := by decide +kernel
  obtain ⟨plan, planned⟩ := (ofFactors_carries 3 withSI slopes).1.2 (by decide)
  have carries := (ofFactors_carries 3 withSI slopes).2 plan planned
  refine ⟨withSI, slopes, fun fits => ?_, plan, planned, carries, ?_, by decide +kernel⟩
  · exact absurd ((ofFactors_carries 2 withSI slopes).1.1 fits) (by decide)
  · rw [affine, carries.steps]
    decide +kernel

end ConversionPlan

end Metrology
