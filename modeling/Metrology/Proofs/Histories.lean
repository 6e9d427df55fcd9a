import Metrology.Proofs.Coupling
import Metrology.Proofs.Renormalizing

/-!
# Histories of a registry

A registry changes by calls that normalize an expression or register a quantity.  One
call changes nothing or adds one quantity at the end, whose dimension had no owner; so
whatever calls are made, what has been found stays found.
-/

namespace Metrology.Registry

variable {α : Type}

/-! ## Calls -/

/-- What may change a registry. -/
inductive Call (α : Type) where
  | normalize (expression : String)
  | register (quantity : Quantity α)

section Calls

variable [Scalar α]

/-- `registerDerived` as an attempt on the registry. -/
def registering (quantity : Quantity α) : Attempt (Registry α) (Quantity α) :=
  Attempt.ofStep fun registry => registry.registerDerived quantity

/-- The registry after a call, whether the call succeeds or not. -/
def answering (registry : Registry α) : Call α → Registry α
  | .normalize expression => ((normalizing expression).start registry).2
  | .register quantity => ((registering quantity).start registry).2

/-- The registry after calls. -/
def run (registry : Registry α) (calls : List (Call α)) : Registry α :=
  calls.foldl answering registry

/-- The registry after expressions have been normalized. -/
def normalizeAll (registry : Registry α) (expressions : List String) : Registry α :=
  registry.run (expressions.map .normalize)

theorem run_append (registry : Registry α) (calls later : List (Call α)) :
    registry.run (calls ++ later) = (registry.run calls).run later :=
  List.foldl_append

theorem normalizeAll_append (registry : Registry α) (expressions later : List String) :
    registry.normalizeAll (expressions ++ later) =
      (registry.normalizeAll expressions).normalizeAll later := by
  rw [normalizeAll, List.map_append, run_append]
  rfl

theorem snd_start_ofStep {σ β : Type} (step : σ → Except Error (β × σ)) (state : σ) :
    ((Attempt.ofStep step).start state).2 = state ∨
      ∃ value, step state = .ok (value, ((Attempt.ofStep step).start state).2) := by
  unfold Attempt.start Attempt.ofStep
  cases step state with
  | error failure => exact .inl rfl
  | ok result => exact .inr ⟨result.1, rfl⟩

theorem start_normalizing_of_ok {registry grown : Registry α} {expression : String}
    {normalized : Normalized α}
    (made : registry.normalize expression = .ok (normalized, grown)) :
    (normalizing expression).start registry = (.ok normalized, grown) :=
  Attempt.start_ofStep_of_ok (fun registry : Registry α => registry.normalize expression) made

theorem start_normalizing_of_error {registry : Registry α} {expression : String}
    {failure : Error} (failed : registry.normalize expression = .error failure) :
    (normalizing expression).start registry = (.error failure, registry) :=
  Attempt.start_ofStep_of_error (fun registry : Registry α => registry.normalize expression) failed

/-- A quantity that a registry takes up. -/
structure Admits (registry : Registry α) (quantity : Quantity α) : Prop where
  growth : registry.growth = true
  unowned : registry.ownerOf? quantity.dimension = none
  withSI : quantity.siUnit?.isSome = true

variable {registry grown : Registry α}

theorem registerDerived_cases {quantity owner : Quantity α}
    (made : registry.registerDerived quantity = .ok (owner, grown)) :
    (registry.ownerOf? quantity.dimension = some owner ∧ grown = registry) ∨
      (owner = quantity ∧ registry.Admits quantity ∧ grown = registry.append quantity) := by
  cases owned : registry.ownerOf? quantity.dimension with
  | some found =>
      rw [registerDerived, owned] at made
      cases made
      exact .inl ⟨rfl, rfl⟩
  | none =>
      obtain ⟨same, appended, withSI⟩ := registerDerived_eq_ok owned made
      refine .inr ⟨same, ⟨?_, owned, withSI⟩, appended⟩
      by_contra closed
      rw [registerDerived, owned] at made
      simp [closed] at made

theorem growth_of_synthesize {factors : List (Factor α)} {dimension : Dimension}
    {expression : String} {result : Quantity α × Registry α}
    (made : registry.synthesize factors dimension expression = .ok result) :
    registry.growth = true := by
  unfold synthesize at made
  split at made
  · cases made
  · next allowed => simpa using allowed

theorem normalize_cases {expression : String} {normalized : Normalized α}
    (made : registry.normalize expression = .ok (normalized, grown)) :
    grown = registry ∨ ∃ quantity, registry.Admits quantity ∧
      grown = registry.append quantity := by
  obtain ⟨factors, owner, unit, resolved, _, owned, _⟩ := normalize_eq_ok_iff.1 made
  rcases ownerOrDerived_eq_ok owned with ⟨_, rfl⟩ | ⟨unowned, made⟩
  · exact .inl rfl
  · obtain ⟨appended, dimension, withSI, _⟩ :=
      synthesize_eq_ok (mem_of_factors resolved) unowned made
    exact .inr ⟨owner, ⟨growth_of_synthesize made, by rwa [dimension], withSI⟩, appended⟩

/-- A call changes nothing or adds one quantity. -/
theorem answering_cases (registry : Registry α) (call : Call α) :
    registry.answering call = registry ∨ ∃ quantity, registry.Admits quantity ∧
      registry.answering call = registry.append quantity := by
  cases call with
  | normalize expression =>
      rcases snd_start_ofStep (fun registry => registry.normalize expression) registry with
        same | ⟨normalized, made⟩
      · exact .inl same
      · exact normalize_cases made
  | register quantity =>
      rcases snd_start_ofStep (fun registry => registry.registerDerived quantity) registry with
        same | ⟨owner, made⟩
      · exact .inl same
      · rcases registerDerived_cases made with ⟨_, same⟩ | ⟨_, admitted, appended⟩
        · exact .inl same
        · exact .inr ⟨quantity, admitted, appended⟩

/-- What additions preserve, calls preserve. -/
theorem run_induction {motive : Registry α → Prop}
    (added : ∀ registry quantity, Admits registry quantity → motive registry →
      motive (registry.append quantity))
    (calls : List (Call α)) (start : motive registry) : motive (registry.run calls) := by
  induction calls generalizing registry with
  | nil => exact start
  | cons call later ih =>
      refine ih ?_
      rcases answering_cases registry call with same | ⟨quantity, admitted, appended⟩
      · rwa [same]
      · rw [appended]
        exact added registry quantity admitted start

/-- A registry that may not grow never changes. -/
theorem run_of_closed (closed : registry.growth = false) (calls : List (Call α)) :
    registry.run calls = registry := by
  refine run_induction (motive := fun reached => reached = registry) ?_ calls rfl
  rintro reached quantity admitted rfl
  exact absurd (admitted.growth.symm.trans closed) Bool.true_eq_false.mp

end Calls

/-! ## Look-ups -/

/-- A registry with perhaps more quantities, after those of another. -/
structure Extends (earlier later : Registry α) : Prop where
  quantities : earlier.quantities <+: later.quantities
  legacy : later.legacy = earlier.legacy
  growth : later.growth = earlier.growth
  stepLimit : later.stepLimit = earlier.stepLimit

namespace Extends

variable {first earlier later : Registry α}

theorem refl (registry : Registry α) : registry.Extends registry :=
  ⟨List.prefix_refl _, rfl, rfl, rfl⟩

theorem trans (left : first.Extends earlier) (right : earlier.Extends later) :
    first.Extends later :=
  ⟨left.quantities.trans right.quantities, right.legacy.trans left.legacy,
    right.growth.trans left.growth, right.stepLimit.trans left.stepLimit⟩

theorem append (registry : Registry α) (quantity : Quantity α) :
    registry.Extends (registry.append quantity) :=
  ⟨List.prefix_append _ _, rfl, rfl, rfl⟩

theorem run [Scalar α] (registry : Registry α) (calls : List (Call α)) :
    registry.Extends (registry.run calls) :=
  run_induction (fun _ quantity _ kept => kept.trans (append _ quantity)) calls (refl registry)

theorem mem (kept : earlier.Extends later) {quantity : Quantity α}
    (member : quantity ∈ earlier.quantities) : quantity ∈ later.quantities :=
  kept.quantities.subset member

/-- A registry that is no larger is the same. -/
theorem eq_of_size (kept : earlier.Extends later) (size : later.size = earlier.size) :
    later = earlier := by
  obtain ⟨quantities, legacy, growth, stepLimit⟩ := kept
  have same := quantities.eq_of_length size.symm
  cases earlier
  cases later
  dsimp only at legacy growth stepLimit same
  rw [same, legacy, growth, stepLimit]

theorem entries (kept : earlier.Extends later) : earlier.entries <+: later.entries := by
  obtain ⟨newcomers, same⟩ := kept.quantities
  simp only [Registry.entries, ← same, List.zipIdx_append, List.flatMap_append]
  exact List.prefix_append _ _

theorem ownerOf? (kept : earlier.Extends later) {dimension : Dimension}
    {quantity : Quantity α} (found : earlier.ownerOf? dimension = some quantity) :
    later.ownerOf? dimension = some quantity :=
  kept.quantities.find?_eq_some found

theorem findByName? (kept : earlier.Extends later) {name : String}
    {quantity : Quantity α} (found : earlier.findByName? name = some quantity) :
    later.findByName? name = some quantity := by
  unfold Registry.findByName? presentName? at found ⊢
  rw [kept.legacy]
  exact kept.quantities.find?_eq_some found

theorem findExpression? (kept : earlier.Extends later) {expression : String}
    {entry : UnitEntry α} (found : earlier.findExpression? expression = some entry) :
    later.findExpression? expression = some entry :=
  kept.entries.find?_eq_some found

end Extends

end Metrology.Registry
