import Metrology.Proofs.Consistency
import Metrology.Proofs.Discipline

/-!
# One refresh in a pass

Under one pass a parameter is refreshed at most once, whatever comes of it: the token
that a refresh leaves keeps every later one away.  So a pass that is run again finds
nothing to do and tells the same failures.
-/

namespace Metrology

open Formula

variable {α : Type}

/-! ## One parameter -/

namespace Parameter

/-- What one refresh under a pass does to a parameter that was not refreshed yet. -/
structure RefreshedOnce (pass : PassToken) (before after : Parameter α) : Prop where
  untraced : before.tracer ≠ some pass
  traced : after.tracer = some pass
  id : after.id = before.id
  evaluations : after.evaluations =
    before.evaluations + if before.activeState.source.isFormula then 1 else 0

/-- What a pass does to a parameter: nothing, or one refresh. -/
def Advances (pass : PassToken) (before after : Parameter α) : Prop :=
  after = before ∨ RefreshedOnce pass before after

namespace Advances

variable {pass : PassToken} {before middle after : Parameter α}

theorem refl (pass : PassToken) (parameter : Parameter α) : Advances pass parameter parameter :=
  .inl rfl

theorem eq_of_traced (advances : Advances pass before after)
    (traced : before.tracer = some pass) : after = before :=
  advances.resolve_right fun refreshed => refreshed.untraced traced

theorem trans (first : Advances pass before middle) (second : Advances pass middle after) :
    Advances pass before after := by
  rcases first with rfl | refreshed
  · exact second
  · rw [second.eq_of_traced refreshed.traced]
    exact .inr refreshed

theorem id_eq (advances : Advances pass before after) : after.id = before.id := by
  rcases advances with rfl | refreshed
  · rfl
  · exact refreshed.id

/-- Who has been refreshed in the end was refreshed before or now. -/
theorem evaluations_eq (advances : Advances pass before after)
    (traced : after.tracer = some pass) :
    after.evaluations = before.evaluations +
      if before.activeState.source.isFormula ∧ before.tracer ≠ some pass then 1 else 0 := by
  rcases advances with rfl | refreshed
  · rw [if_neg fun wanted => wanted.2 traced]
    rfl
  · rw [refreshed.evaluations]
    simp only [refreshed.untraced, ne_eq, not_false_eq_true, and_true]

end Advances

@[simp]
theorem evaluations_setActiveState (parameter : Parameter α) (state : TrackState α) :
    (parameter.setActiveState state).evaluations = parameter.evaluations := by
  unfold setActiveState
  split <;> rfl

theorem evaluations_counted (parameter : Parameter α) :
    parameter.counted.evaluations =
      parameter.evaluations + if parameter.activeState.source.isFormula then 1 else 0 := by
  unfold counted
  split <;> rfl

variable [Scalar α]

theorem evaluations_takeUp (parameter : Parameter α) (pass : PassToken)
    (recomputed : Except Error (Option (Amount α))) :
    (parameter.takeUp pass recomputed).parameter.evaluations = parameter.evaluations := by
  match recomputed with
  | .error failure => simp [takeUp]
  | .ok (some fresh) => simp [takeUp]
  | .ok none => rfl

/-- A refresh leaves its token and the outcome that it returns, and touches nothing
under a token that it finds. -/
theorem refresh_advances {σ : Type} (table : FunctionTable α) {pass : PassToken}
    (real : pass.isEmpty = false) (parameter : Parameter α) (resolve : Resolver α σ)
    (state : Registry α × σ) :
    let refreshed := (parameter.refresh table pass resolve state).1
    Advances pass parameter refreshed.parameter ∧ refreshed.parameter.tracer = some pass ∧
      refreshed.outcome = refreshed.parameter.recorded := by
  by_cases traced : parameter.tracer = some pass
  · rw [refresh_of_traced real traced]
    exact ⟨.refl pass parameter, traced, rfl⟩
  · rw [refresh_of_untraced traced]
    obtain ⟨id, tracer, _⟩ := takeUp_eq parameter.counted pass
      ((recompute table resolve parameter.activeState).start state).1
    refine ⟨.inr ⟨traced, tracer, id.trans (counted_eq parameter).1, ?_⟩, tracer,
      outcome_takeUp _ _ _⟩
    rw [evaluations_takeUp, evaluations_counted]

end Parameter

/-! ## All parameters -/

namespace Pool

/-- What a pass does to a pool. -/
structure Advances (pass : PassToken) (before after : Pool α) : Prop where
  ids : after.ids = before.ids
  parameter : ∀ {id old new}, before.find? id = some old → after.find? id = some new →
    Parameter.Advances pass old new

/-- The parameter with an id, if there is one, has been refreshed under a pass. -/
def Traced (pass : PassToken) (pool : Pool α) (id : String) : Prop :=
  ∀ parameter, pool.find? id = some parameter → parameter.tracer = some pass

namespace Advances

variable {pass : PassToken} {before middle after : Pool α}

theorem refl (pass : PassToken) (pool : Pool α) : Advances pass pool pool where
  ids := rfl
  parameter found again := by
    rw [found] at again
    cases again
    exact .refl pass _

theorem exists_of_find? (advances : Advances pass before after) {id : String}
    {old : Parameter α} (found : before.find? id = some old) :
    ∃ new, after.find? id = some new ∧ Parameter.Advances pass old new := by
  have known : id ∈ after.ids := advances.ids ▸ mem_ids_of_find? found
  obtain ⟨new, again⟩ := Option.isSome_iff_exists.1 (find?_isSome_iff.2 known)
  exact ⟨new, again, advances.parameter found again⟩

theorem trans (first : Advances pass before middle) (second : Advances pass middle after) :
    Advances pass before after where
  ids := second.ids.trans first.ids
  parameter found again := by
    obtain ⟨between, present, advanced⟩ := first.exists_of_find? found
    exact advanced.trans (second.parameter present again)

theorem put (advances : Advances pass before after) {id : String} {old new : Parameter α}
    (found : before.find? id = some old) (same : new.id = id)
    (advanced : Parameter.Advances pass old new) (told : List (Notification α)) :
    Advances pass before (after.put new told) := by
  subst same
  obtain ⟨current, present, _⟩ := advances.exists_of_find? found
  refine ⟨(ids_put _ _ _).trans advances.ids, ?_⟩
  intro id older newer earlier later
  by_cases same : id = new.id
  · subst same
    rw [find?_put_self present] at later
    rw [found] at earlier
    cases later
    cases earlier
    exact advanced
  · rw [find?_put_of_ne same] at later
    exact advances.parameter earlier later

/-- What has been refreshed stays as it is. -/
theorem find?_of_traced (advances : Advances pass before after) {id : String}
    (traced : before.Traced pass id) : after.find? id = before.find? id := by
  cases found : before.find? id with
  | none => rwa [find?_eq_none_iff, advances.ids, ← find?_eq_none_iff]
  | some old =>
      obtain ⟨new, again, advanced⟩ := advances.exists_of_find? found
      rw [again, advanced.eq_of_traced (traced old found)]

theorem traced (advances : Advances pass before after) {id : String}
    (traced : before.Traced pass id) : after.Traced pass id := by
  intro parameter found
  rw [advances.find?_of_traced traced] at found
  exact traced parameter found

end Advances

/-- Nothing changes when a parameter is put where it is. -/
theorem put_self {pool : Pool α} (distinct : pool.ids.Nodup) {id : String}
    {parameter : Parameter α} (found : pool.find? id = some parameter) :
    pool.put parameter [] = pool := by
  unfold put
  rw [List.append_nil]
  congr 1
  refine (List.map_congr_left fun other member => ?_).trans (List.map_id _)
  split
  · next same =>
      exact List.inj_on_of_nodup_map distinct (mem_of_find? found) member same.symm
  · rfl

end Pool

/-! ## Resolving -/

namespace Store

variable [Scalar α] {pass : PassToken}

section Resolving

variable (table : FunctionTable α)

/-- A resolver that only advances pools lets a refresh do no more. -/
theorem refresh_advances_pool (real : pass.isEmpty = false) (parameter : Parameter α)
    {resolve : Resolver α (Pool α)}
    (nested : ∀ name registry pool,
      Pool.Advances pass pool ((resolve name).start (registry, pool)).2.2)
    (registry : Registry α) (pool : Pool α) :
    Pool.Advances pass pool
      (parameter.refresh table pass resolve (registry, pool)).2.2 := by
  by_cases traced : parameter.tracer = some pass
  · rw [Parameter.refresh_of_traced real traced]
    exact .refl pass pool
  · rw [Parameter.refresh_of_untraced traced]
    refine Discipline.after_always.1
      (Parameter.recompute_keeps (fun _ _ => Discipline.keeps_always_ofExcept _) _ ?_ registry pool
        (Pool.Advances.refl pass pool))
    -- References go on from wherever the earlier ones have come to.
    intro name _ registry inner advanced
    exact Discipline.after_always.2 (advanced.trans (nested name registry inner))

/-- Resolving refreshes each parameter at most once, and the one that it starts
answers with what was recorded. -/
theorem resolve_advances (real : pass.isEmpty = false) (idle running : List String)
    (id : String) (registry : Registry α) (pool : Pool α) :
    let run := (resolve table pass idle running id).start (registry, pool)
    Pool.Advances pass pool run.2.2 ∧ (id ∉ running → id ∈ idle →
      ∀ parameter, run.2.2.find? id = some parameter →
        parameter.tracer = some pass ∧ run.1 = parameter.outcome) := by
  induction idle, running, id, pool using request_induction generalizing registry with
  | circular started =>
      rw [resolve_of_running started]
      exact ⟨.refl pass _, fun waiting => absurd started waiting⟩
  | unknown started unknown =>
      rw [resolve_of_unknown started unknown]
      refine ⟨.refl pass _, fun _ startable new found => ?_⟩
      rw [unknown startable] at found
      cases found
  | @start idle running id pool parameter started startable found ih =>
      have nested := refresh_advances_pool table real parameter
        (fun name registry pool => (ih name pool registry).1) registry pool
      have refreshed := Parameter.refresh_advances table real parameter
        (resolve table pass (idle.erase id) (running ++ [id])) (registry, pool)
      rw [resolve_of_found started startable found]
      generalize parameter.refresh table pass
        (resolve table pass (idle.erase id) (running ++ [id])) (registry, pool) = run
        at nested refreshed
      obtain ⟨advanced, traced, recorded⟩ := refreshed
      have same : run.1.parameter.id = id :=
        advanced.id_eq.trans (Pool.id_of_find? found)
      refine ⟨nested.put found same advanced _, fun _ _ new again => ?_⟩
      obtain ⟨current, present, _⟩ := nested.exists_of_find? found
      simp only at again
      rw [← same] at present again
      rw [Pool.find?_put_self present] at again
      cases again
      simp only [recorded]
      exact ⟨traced, rfl⟩

end Resolving

/-- Nothing happens for an id that is not registered. -/
theorem evaluate_of_missing {store : Store α} {id : String}
    (missing : store.pool.find? id = none) :
    evaluate id pass store = (.error (.unknownParameter id), store) := by
  have run : (resolve store.table pass store.ids [] id).start (store.registry, store.pool) =
      (.error (.unknownParameter id), store.registry, store.pool) :=
    resolve_of_unknown List.not_mem_nil fun _ => missing
  rw [evaluate_eq, run]

/-- Bringing one parameter up to date advances the pool, and answers with what the
pool then shows of it. -/
theorem evaluate_advances (real : pass.isEmpty = false) (store : Store α) (id : String) :
    let run := evaluate id pass store
    Pool.Advances pass store.pool run.2.pool ∧ run.2.pool.Traced pass id ∧
      run.1 = run.2.answers id := by
  obtain ⟨advances, answered⟩ := resolve_advances store.table real store.ids [] id
    store.registry store.pool
  cases found : (evaluate id pass store).2.pool.find? id with
  | none =>
      refine ⟨advances, fun parameter present => ?_, ?_⟩
      · rw [found] at present
        cases present
      · rw [answers, Store.find?, found]
        have unknown : store.pool.find? id = none := by
          rw [Pool.find?_eq_none_iff, ← advances.ids]
          exact Pool.find?_eq_none_iff.1 found
        rw [evaluate_of_missing unknown]
  | some parameter =>
      have startable : id ∈ store.ids := by
        rw [Store.ids, ← advances.ids]
        exact Pool.mem_ids_of_find? found
      obtain ⟨traced, outcome⟩ := answered List.not_mem_nil startable parameter found
      refine ⟨advances, fun other present => ?_, ?_⟩
      · rw [found] at present
        cases present
        exact traced
      · rw [answers, Store.find?, found]
        exact outcome

/-! ## Passes -/

theorem updateEach_cons (pass : PassToken) (id : String) (rest : List String)
    (store : Store α) :
    updateEach pass (id :: rest) store =
      (((failure? (evaluate id pass store).1).map fun failure => (id, failure)).toList ++
          (updateEach pass rest (evaluate id pass store).2).1,
        (updateEach pass rest (evaluate id pass store).2).2) := by
  rw [updateEach]
  beta_reduce
  rcases evaluate id pass store with ⟨failure | amount, next⟩ <;> rfl

omit [Scalar α] in
/-- The failures that a store shows for some ids. -/
def failuresOf (store : Store α) (ids : List String) : List (String × Error) :=
  ids.flatMap fun id => ((failure? (store.answers id)).map fun failure => (id, failure)).toList

omit [Scalar α] in
theorem answers_of_traced {before after : Store α}
    (advances : Pool.Advances pass before.pool after.pool) {id : String}
    (traced : before.pool.Traced pass id) : after.answers id = before.answers id := by
  rw [answers, answers, Store.find?, Store.find?, advances.find?_of_traced traced]

/-- A pass leaves every parameter that it comes to refreshed, and its failures are
those that are shown in the end. -/
theorem updateEach_advances (real : pass.isEmpty = false) (ids : List String)
    (store : Store α) :
    let run := updateEach pass ids store
    Pool.Advances pass store.pool run.2.pool ∧ (∀ id ∈ ids, run.2.pool.Traced pass id) ∧
      run.1 = run.2.failuresOf ids := by
  induction ids generalizing store with
  | nil => exact ⟨.refl pass store.pool, nofun, rfl⟩
  | cons id rest ih =>
      obtain ⟨first, traced, answered⟩ := evaluate_advances real store id
      obtain ⟨later, others, failures⟩ := ih (evaluate id pass store).2
      rw [updateEach_cons]
      refine ⟨first.trans later, ?_, ?_⟩
      · intro other member
        rcases List.mem_cons.1 member with rfl | member
        · exact later.traced traced
        · exact others other member
      · rw [failuresOf, List.flatMap_cons, ← failuresOf]
        simp only
        rw [failures, answers_of_traced later traced, answered]

/-- Whoever has been refreshed is not touched again. -/
theorem evaluate_of_traced (real : pass.isEmpty = false) {store : Store α}
    (distinct : store.ids.Nodup) {id : String} (traced : store.pool.Traced pass id) :
    (evaluate id pass store).2 = store := by
  cases found : store.pool.find? id with
  | none => rw [evaluate_of_missing found]
  | some parameter =>
      have startable : id ∈ store.ids := Pool.mem_ids_of_find? found
      have run : (resolve store.table pass store.ids [] id).start
          (store.registry, store.pool) = _ :=
        resolve_of_found List.not_mem_nil startable found
      rw [Parameter.refresh_of_traced real (traced parameter found)] at run
      rw [evaluate_eq, run]
      simp only [Pool.put_self distinct found]

theorem updateEach_of_traced (real : pass.isEmpty = false) {store : Store α}
    (distinct : store.ids.Nodup) {ids : List String}
    (traced : ∀ id ∈ ids, store.pool.Traced pass id) :
    (updateEach pass ids store).2 = store := by
  induction ids with
  | nil => rfl
  | cons id rest ih =>
      rw [updateEach_cons]
      simp only
      rw [evaluate_of_traced real distinct (traced id List.mem_cons_self)]
      exact ih fun other member => traced other (List.mem_cons_of_mem _ member)

/-- In a pass the formula of each parameter is run once if it was not run under the
same token before, and not at all otherwise; and the pass that is run again does nothing
and tells the same failures. -/
theorem updateAll_once (store : Store α) (pass : PassToken) (real : pass.isEmpty = false)
    (distinct : store.ids.Nodup) :
    let after := (updateAll pass store).2
    after.ids = store.ids ∧
      (∀ id old, store.find? id = some old → ∃ new, after.find? id = some new ∧
        new.evaluations = old.evaluations +
          if old.activeState.source.isFormula ∧ old.tracer ≠ some pass then 1 else 0) ∧
      updateAll pass after = updateAll pass store := by
  obtain ⟨advances, traced, failures⟩ := updateEach_advances real store.ids store
  intro after
  have ids : after.ids = store.ids := advances.ids
  refine ⟨ids, ?_, ?_⟩
  · intro id old found
    obtain ⟨new, again, advanced⟩ := advances.exists_of_find? found
    have member : id ∈ store.ids := Pool.mem_ids_of_find? found
    exact ⟨new, again, advanced.evaluations_eq (traced id member new again)⟩
  · obtain ⟨_, _, again⟩ := updateEach_advances real after.ids after
    have rest : (updateAll pass after).2 = after :=
      updateEach_of_traced real (by rwa [ids]) (by rwa [ids])
    refine Prod.ext ?_ rest
    calc (updateAll pass after).1
        = (updateAll pass after).2.failuresOf after.ids := again
      _ = after.failuresOf store.ids := by rw [rest, ids]
      _ = (updateAll pass store).1 := failures.symm

/-- The circle fails, the way out is shared, and each formula has run once. -/
theorem updateAll_once_knot :
    let after := (updateAll ⟨1⟩ (unitless knot)).2
    after.pool.parameters.map (·.evaluations) = [1, 1, 1, 0] ∧
      updateAll ⟨1⟩ after = updateAll ⟨1⟩ (unitless knot) :=
  ⟨by decide +kernel, (updateAll_once (unitless knot) ⟨1⟩ (by decide) (by decide)).2.2⟩

end Store

end Metrology
