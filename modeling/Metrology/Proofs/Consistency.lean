import Metrology.Proofs.Exact
import Metrology.Proofs.Resolving

/-!
# Consistency of a pass

A pass brings every parameter to what it means, whichever parameter it comes to
first.  So the formulas agree with the amounts that are buffered in the end, and
the order of the work leaves no trace.
-/

namespace Metrology

open Formula

variable {α : Type}

/-! ## Looking up by distinct ids -/

namespace Pool

theorem find?_of_mem {pool : Pool α} (distinct : pool.ids.Nodup) {parameter : Parameter α}
    (member : parameter ∈ pool.parameters) : pool.find? parameter.id = some parameter := by
  cases found : pool.find? parameter.id with
  | none =>
      have absent := find?_isSome_iff.2 (List.mem_map_of_mem member)
      rw [found] at absent
      cases absent
  | some other =>
      have same := List.inj_on_of_nodup_map distinct (mem_of_find? found) member
        (id_of_find? found)
      rw [same]

theorem mem_ids_of_find? {pool : Pool α} {id : String} {parameter : Parameter α}
    (found : pool.find? id = some parameter) : id ∈ pool.ids :=
  find?_isSome_iff.1 (Option.isSome_iff_exists.2 ⟨parameter, found⟩)

theorem find?_eq_none_iff {pool : Pool α} {id : String} :
    pool.find? id = none ↔ id ∉ pool.ids := by
  rw [← Option.not_isSome_iff_eq_none, find?_isSome_iff]

/-- The order of registration does not matter for looking up. -/
theorem find?_eq_of_perm {left right : Pool α} (distinct : left.ids.Nodup)
    (permuted : left.parameters.Perm right.parameters) (id : String) :
    left.find? id = right.find? id := by
  cases found : left.find? id with
  | none =>
      cases present : right.find? id with
      | none => rfl
      | some parameter =>
          have again := find?_of_mem distinct
            (permuted.mem_iff.2 (mem_of_find? present))
          rw [id_of_find? present, found] at again
          cases again
  | some parameter =>
      have rightDistinct : right.ids.Nodup := (permuted.map _).nodup_iff.1 distinct
      have again := find?_of_mem rightDistinct (permuted.mem_iff.1 (mem_of_find? found))
      rw [id_of_find? found] at again
      exact again.symm

/-- Outcomes depend on what is found under ids only. -/
theorem outcomeAt_congr [Scalar α] {table : FunctionTable α} {registry : Registry α}
    {left right : Pool α} (same : ∀ id, left.find? id = right.find? id) :
    outcomeAt table registry left = outcomeAt table registry right := by
  funext depth
  induction depth with
  | zero => rfl
  | succ depth ih =>
      funext id
      rw [outcomeAt, outcomeAt, same, ih]

end Pool

namespace Store

/-- Only free ids are registered, so they stay distinct. -/
theorem nodup_ids_register {before after : Store α} {parameter : Parameter α}
    (distinct : before.ids.Nodup) (registered : before.register parameter = .ok after) :
    after.ids.Nodup := by
  unfold register at registered
  split at registered
  · cases registered
  · next free =>
      cases registered
      have absent : parameter.id ∉ before.ids := by simpa using free
      have appended := List.Nodup.concat absent distinct
      rw [List.concat_eq_append] at appended
      simpa only [ids, Pool.ids, List.map_append, List.map_cons, List.map_nil] using appended

/-- What each id answers with: the outcome that its parameter shows. -/
def answers (store : Store α) (id : String) : Except Error (Amount α) :=
  match store.find? id with
  | none => .error (.unknownParameter id)
  | some parameter => parameter.outcome

variable [Scalar α]

/-- Every formula holds the outcome that it comes to with the answers of the
store. -/
def Agrees (store : Store α) : Prop :=
  ∀ parameter ∈ store.pool.parameters, ∀ text unit,
    parameter.activeState.source = .formula text unit →
      parameter.Holds parameter.outcome ∧
      Alike parameter.outcome
        ((Parameter.evaluateShown store.table (.answering store.answers) text unit).start
          (store.registry, ())).1

/-! ## Passes that write down readings -/

/-- `evaluate` with what all formulas read on the way. -/
def evaluateNoting (pass : PassToken) (state : Store α × List (Reading α)) (id : String) :
    Store α × List (Reading α) :=
  let (_, registry, pool, readings) :=
    resolveNoting state.1.table pass state.1.ids [] id
      (state.1.registry, state.1.pool, state.2)
  ({ state.1 with registry, pool }, readings)

/-- `updateAll` with what all formulas read on the way. -/
def updateAllNoting (pass : PassToken) (store : Store α) : Store α × List (Reading α) :=
  store.ids.foldl (evaluateNoting pass) (store, [])

theorem evaluate_eq (pass : PassToken) (id : String) (store : Store α) :
    evaluate id pass store =
      let run := (resolve store.table pass store.ids [] id).start (store.registry, store.pool)
      (run.1, { store with registry := run.2.1, pool := run.2.2 }) := rfl

/-- The store after bringing parameters up to date one after another. -/
def evaluateEach (pass : PassToken) (requests : List String) (store : Store α) : Store α :=
  requests.foldl (fun store id => (evaluate id pass store).2) store

theorem updateEach_snd (pass : PassToken) (ids : List String) (store : Store α) :
    (updateEach pass ids store).2 = evaluateEach pass ids store := by
  induction ids generalizing store with
  | nil => rfl
  | cons id rest ih =>
      refine Eq.trans ?_ (ih (evaluate id pass store).2)
      rw [updateEach]
      beta_reduce
      rcases evaluate id pass store with ⟨failure | amount, next⟩ <;> rfl

theorem evaluateNoting_fst (pass : PassToken) (state : Store α × List (Reading α))
    (id : String) :
    (evaluateNoting pass state id).1 = (evaluate id pass state.1).2 := by
  rcases resolveNoting_forgetting state.1.table pass state.1.ids [] id
      (state.1.registry, state.1.pool, state.2) _ rfl with ⟨_, _, excuse⟩ | ⟨_, states⟩
  · exact excuse.elim
  · exact congrArg (fun after : Registry α × Pool α =>
      { state.1 with registry := after.1, pool := after.2 }) (Eq.symm states)

theorem foldl_evaluateNoting_fst (pass : PassToken) (requests : List String)
    (state : Store α × List (Reading α)) :
    (requests.foldl (evaluateNoting pass) state).1 = evaluateEach pass requests state.1 := by
  induction requests generalizing state with
  | nil => rfl
  | cons id rest ih =>
      rw [List.foldl_cons, ih, evaluateNoting_fst]
      rfl

/-! ## Runs of a pass -/

/-- A pass over a store is under way. -/
structure UnderwayIn (start : Store α) (depth : Nat) (pass : PassToken)
    (done : String → Prop) (state : Store α × List (Reading α)) : Prop where
  registry : state.1.registry = start.registry
  table : state.1.table = start.table
  inner : Underway pass (Pool.outcomeAt start.table start.registry start.pool depth)
    start.pool done (state.1.pool, state.2)

variable {start : Store α} {depth : Nat} {pass : PassToken} {done : String → Prop}

/-- Bringing one parameter up to date makes it done. -/
theorem UnderwayIn.evaluateNoting {state : Store α × List (Reading α)}
    (prepared : Prepared start.table start.registry start.pool depth pass)
    (underway : UnderwayIn start depth pass done state) (id : String) :
    UnderwayIn start depth pass (fun other => done other ∨ other = id)
      (evaluateNoting pass state id) := by
  have known : ∀ name ∈ start.pool.ids, name ∈ state.1.ids ∨ name ∈ ([] : List String) := by
    intro name member
    left
    rwa [← underway.inner.pool.ids] at member
  have descends : Pool.Descends start.table start.registry start.pool [] id :=
    fun _ impossible => absurd impossible List.not_mem_nil
  rcases prepared.resolveNoting_endsAs known descends underway.inner with
    ⟨impossible, _⟩ | ⟨_, rest, kept⟩
  · exact impossible.elim
  · have run : Store.evaluateNoting pass state id =
        let after := (resolveNoting start.table pass state.1.ids [] id).start
          (start.registry, state.1.pool, state.2)
        ({ state.1 with registry := after.2.1, pool := after.2.2.1 }, after.2.2.2) := by
      rw [← underway.table, ← underway.registry]
      rfl
    rw [run]
    exact ⟨rest, underway.table,
      kept.mono fun _ => Or.imp_right fun last => ⟨last, List.not_mem_nil⟩⟩

theorem UnderwayIn.foldl {state : Store α × List (Reading α)}
    (prepared : Prepared start.table start.registry start.pool depth pass)
    (underway : UnderwayIn start depth pass done state) (requests : List String) :
    UnderwayIn start depth pass (fun other => done other ∨ other ∈ requests)
      (requests.foldl (Store.evaluateNoting pass) state) := by
  induction requests generalizing done state with
  | nil =>
      refine ⟨underway.registry, underway.table, underway.inner.mono ?_⟩
      exact fun _ doneId => doneId.resolve_right List.not_mem_nil
  | cons id rest ih =>
      have later := ih (underway.evaluateNoting prepared id)
      refine ⟨later.registry, later.table, later.inner.mono ?_⟩
      intro other doneId
      rwa [or_assoc, ← List.mem_cons]

/-- A whole pass is under way with every registered parameter done. -/
theorem underwayIn_foldl_ids (prepared : Prepared start.table start.registry start.pool depth pass)
    (requests : List String) :
    UnderwayIn start depth pass (· ∈ requests)
      (requests.foldl (Store.evaluateNoting pass) (start, [])) := by
  have initially : UnderwayIn start depth pass (fun _ => False) (start, []) :=
    ⟨rfl, rfl, .start, fun _ absent => absurd absent List.not_mem_nil⟩
  have ended := initially.foldl prepared requests
  exact ⟨ended.registry, ended.table, ended.inner.mono fun _ => Or.inr⟩

/-- A parameter that is done is finished. -/
theorem UnderwayIn.finished {state : Store α × List (Reading α)}
    (prepared : Prepared start.table start.registry start.pool depth pass)
    (underway : UnderwayIn start depth pass done state) {id : String}
    {old new : Parameter α} (registered : start.find? id = some old)
    (present : state.1.find? id = some new) (doneId : done id) :
    Parameter.Finished pass
      (Pool.outcomeAt start.table start.registry start.pool depth id) old new := by
  rcases underway.inner.pool.parameter registered present with rfl | finished
  · exact absurd (underway.inner.pool.done doneId present)
      (prepared.untraced new (Pool.mem_of_find? registered))
  · exact finished

/-- When every parameter is done, each id answers with what it means. -/
theorem UnderwayIn.answers_alike {state : Store α × List (Reading α)}
    (prepared : Prepared start.table start.registry start.pool depth pass)
    (underway : UnderwayIn start depth pass done state)
    (allDone : ∀ id ∈ start.ids, done id) (id : String) :
    Alike (Pool.outcomeAt start.table start.registry start.pool depth id)
      (state.1.answers id) := by
  unfold answers
  cases present : state.1.find? id with
  | none =>
      have unregistered := underway.inner.pool.find?_eq_none_iff.1 present
      rw [prepared.complete.of_none prepared.covered unregistered]
      exact .refl _
  | some new =>
      cases registered : start.find? id with
      | none =>
          rw [Store.find?, underway.inner.pool.find?_eq_none_iff.2 registered] at present
          cases present
      | some old =>
          have member : id ∈ start.ids := Pool.find?_isSome_iff.1 (by
            rw [show start.pool.find? id = some old from registered]
            rfl)
          exact (underway.finished prepared registered present (allDone id member)).alike

/-- What a parameter means is what recomputing it comes to, given the answers that
all parameters end with. -/
theorem UnderwayIn.worth_alike {state : Store α × List (Reading α)}
    (prepared : Prepared start.table start.registry start.pool depth pass)
    (underway : UnderwayIn start depth pass done state)
    (allDone : ∀ id ∈ start.ids, done id) {id : String} {old : Parameter α}
    (registered : start.pool.find? id = some old) :
    Alike (Pool.outcomeAt start.table start.registry start.pool depth id)
      (old.worth start.table start.registry state.1.answers) := by
  refine (prepared.complete.alike_succ prepared.covered id).trans ?_
  rw [Pool.outcomeAt_succ_of_some registered]
  have answers (name : String) := underway.answers_alike prepared allDone name
  rcases Parameter.worth_alike start.table
    (prepared.covered old (Pool.mem_of_find? registered))
    (fun name => Or.inr (answers name)) with ⟨impossible, _⟩ | alike
  · exact (impossible : False).elim
  · exact alike

/-- After a pass the same parameters are registered, and every formula agrees with
the outcomes that they end with and has read no other ones. -/
theorem updateAll_consistent (store : Store α) (pass : PassToken)
    (real : pass.isEmpty = false)
    (untraced : ∀ parameter ∈ store.pool.parameters, parameter.tracer ≠ some pass)
    (distinct : store.ids.Nodup) (covered : store.pool.Covered store.registry) :
    let after := (updateAll pass store).2
    after.ids = store.ids ∧ after.Agrees ∧ (updateAllNoting pass store).1 = after ∧
      ∀ reading ∈ (updateAllNoting pass store).2,
        Alike reading.outcome (after.answers reading.name) := by
  obtain ⟨depth, complete⟩ := Pool.exists_complete store.table covered
  have prepared : Prepared store.table store.registry store.pool depth pass :=
    ⟨covered, complete, real, untraced⟩
  have ended : UnderwayIn store depth pass (· ∈ store.ids) (updateAllNoting pass store) :=
    underwayIn_foldl_ids prepared store.ids
  have answers := ended.answers_alike prepared fun _ member => member
  have same : (updateAllNoting pass store).1 = (updateAll pass store).2 := by
    rw [updateAllNoting, foldl_evaluateNoting_fst, updateAll, updateEach_snd]
  intro after
  rw [same] at answers
  have ids : after.pool.ids = store.pool.ids := by
    have kept := ended.inner.pool.ids
    rwa [same] at kept
  refine ⟨ids, ?_, same, fun reading member =>
    (ended.inner.readings reading member).symm.trans (answers reading.name)⟩
  intro parameter member text unit source
  have present : after.find? parameter.id = some parameter :=
    Pool.find?_of_mem (by rwa [ids]) member
  have registered : parameter.id ∈ store.pool.ids := by
    rw [← ids]
    exact List.mem_map_of_mem member
  obtain ⟨old, found⟩ := Option.isSome_iff_exists.1 (Pool.find?_isSome_iff.2 registered)
  have finished := ended.finished prepared found (by rwa [same]) registered
  obtain ⟨outcome, alike, holds⟩ := finished.holds
  have recomputed := ended.worth_alike prepared (fun _ member => member) found
  rw [Parameter.worth, Parameter.result_formula (finished.source.symm.trans source), same] at recomputed
  have rest : after.registry = store.registry := by
    have kept := ended.registry
    rwa [same] at kept
  have table : after.table = store.table := by
    have kept := ended.table
    rwa [same] at kept
  rw [holds.outcome_eq, rest, table]
  exact ⟨holds, alike.symm.trans recomputed⟩

/-! ## A store with a circle -/

/-- Two formulas that refer to each other, one that has a way out of the circle,
and the literal that it leads to. -/
def knot : List (Parameter ℚ) :=
  [.formula "chicken" "[egg]" "", .formula "egg" "[chicken]" "",
    .formula "fox" "if(1, [two], [egg])" "",
    { id := "two", defaultTrack := ⟨.literal 2 "", some (.ratio 2), false⟩ }]

/-- The store of some parameters over a registry without quantities. -/
def unitless (parameters : List (Parameter ℚ)) : Store ℚ :=
  { empty (.empty {} []) .standard with pool := ⟨parameters, []⟩ }

theorem covers_blank : (unitless []).registry.Covers "" := by
  intro normalized grown found
  have failed : ((unitless []).registry.normalize "").toOption = none := by decide +kernel
  rw [found] at failed
  cases failed

/-- Formulas without unit tags mention no unit. -/
theorem not_mentions {text : String}
    (tagless : ((parse text : Except Error (Expression ℚ)).map
      Expression.tags).toOption = some [])
    (expression : String) : ¬ (Source.formula text "" : Source ℚ).Mentions expression := by
  rintro (⟨parsed, found, member⟩ | ⟨given, _⟩)
  · rw [found] at tagless
    have empty : parsed.tags = [] := Option.some.inj tagless
    rw [empty] at member
    exact absurd member List.not_mem_nil
  · cases given

theorem covered_knot : (unitless knot).pool.Covered (unitless knot).registry := by
  intro parameter member expression mentions
  simp only [unitless, knot, List.mem_cons, List.not_mem_nil, or_false] at member
  rcases member with rfl | rfl | rfl | rfl
  · exact absurd mentions (not_mentions (by decide +kernel) expression)
  · exact absurd mentions (not_mentions (by decide +kernel) expression)
  · exact absurd mentions (not_mentions (by decide +kernel) expression)
  · cases mentions
    exact covers_blank

/-- In the circle all formulas agree on the failure, and the one outside of it
has its amount. -/
theorem updateAll_consistent_knot :
    let after := (updateAll ⟨1⟩ (unitless knot)).2
    after.Agrees ∧
      (∀ reading ∈ (updateAllNoting ⟨1⟩ (unitless knot)).2,
        Alike reading.outcome (after.answers reading.name)) ∧
      ((after.find? "chicken").bind (·.lastError)).map Error.code = some "CIRCULAR_REF" ∧
      (after.find? "fox").bind (·.activeState.cached) = some (.ratio 2) := by
  obtain ⟨_, agrees, _, readings⟩ := updateAll_consistent (unitless knot) ⟨1⟩
    (by decide) (by decide) (by decide) covered_knot
  exact ⟨agrees, readings, by decide +kernel, by decide +kernel⟩

/-! ## Independence of the order -/

/-- After a pass every registered parameter is finished, whatever was evaluated
under the pass before. -/
theorem updateAll_finished
    (prepared : Prepared start.table start.registry start.pool depth pass)
    (requests : List String) {id : String} {old : Parameter α}
    (registered : start.pool.find? id = some old) :
    ∃ new, (updateAll pass (evaluateEach pass requests start)).2.find? id = some new ∧
      Parameter.Finished pass
        (Pool.outcomeAt start.table start.registry start.pool depth id) old new := by
  have requested := underwayIn_foldl_ids prepared requests
  have ids : (evaluateEach pass requests start).ids = start.ids := by
    have kept := requested.inner.pool.ids
    rwa [foldl_evaluateNoting_fst] at kept
  have ended := underwayIn_foldl_ids prepared (requests ++ start.ids)
  have same : ((requests ++ start.ids).foldl (evaluateNoting pass) (start, [])).1 =
      (updateAll pass (evaluateEach pass requests start)).2 := by
    rw [foldl_evaluateNoting_fst, updateAll, updateEach_snd, ids, evaluateEach,
      List.foldl_append]
    rfl
  have member : id ∈ start.ids := Pool.find?_isSome_iff.1 (by rw [registered]; rfl)
  cases present : (updateAll pass (evaluateEach pass requests start)).2.find? id with
  | none =>
      rw [← same, Store.find?, ended.inner.pool.find?_eq_none_iff, registered] at present
      cases present
  | some new =>
      refine ⟨new, rfl, ended.finished prepared registered ?_ (List.mem_append_right _ member)⟩
      rwa [same]

/-- A pass leaves every parameter with a value or a failure, and with the same value or a failure
of the same code in whatever order the parameters were registered and evaluated. -/
theorem updateAll_order_independent (left right : Store α) (pass : PassToken)
    (real : pass.isEmpty = false)
    (untraced : ∀ parameter ∈ left.pool.parameters, parameter.tracer ≠ some pass)
    (distinct : left.ids.Nodup) (covered : left.pool.Covered left.registry)
    (registry : left.registry = right.registry) (table : left.table = right.table)
    (permuted : left.pool.parameters.Perm right.pool.parameters)
    (leftRequests rightRequests : List String) :
    ∀ id ∈ left.ids, ∃ first second,
      (updateAll pass (evaluateEach pass leftRequests left)).2.find? id = some first ∧
      (updateAll pass (evaluateEach pass rightRequests right)).2.find? id = some second ∧
      first.activeState.cached = second.activeState.cached ∧
      first.lastError.map Error.code = second.lastError.map Error.code ∧
      (first.lastError = none ↔ first.activeState.cached.isSome = true) := by
  obtain ⟨depth, complete⟩ := Pool.exists_complete left.table covered
  have found := Pool.find?_eq_of_perm distinct permuted
  have outcomes : Pool.outcomeAt left.table left.registry left.pool =
      Pool.outcomeAt right.table right.registry right.pool := by
    rw [registry, table]
    exact Pool.outcomeAt_congr found
  have leftPrepared : Prepared left.table left.registry left.pool depth pass :=
    ⟨covered, complete, real, untraced⟩
  have rightPrepared : Prepared right.table right.registry right.pool depth pass := by
    refine ⟨?_, ?_, real, fun parameter member =>
      untraced parameter (permuted.mem_iff.2 member)⟩
    · rw [← registry]
      exact fun parameter member => covered parameter (permuted.mem_iff.2 member)
    · unfold Pool.Complete
      rw [← outcomes]
      exact complete
  intro id member
  obtain ⟨old, registered⟩ := Option.isSome_iff_exists.1 (Pool.find?_isSome_iff.2 member)
  obtain ⟨first, firstFound, firstFinished⟩ :=
    updateAll_finished leftPrepared leftRequests registered
  obtain ⟨second, secondFound, secondFinished⟩ :=
    updateAll_finished rightPrepared rightRequests (by rwa [← found])
  refine ⟨first, second, firstFound, secondFound, ?_⟩
  obtain ⟨firstOutcome, firstAlike, firstHolds⟩ := firstFinished.holds
  obtain ⟨secondOutcome, secondAlike, secondHolds⟩ := secondFinished.holds
  rw [← outcomes] at secondAlike
  rw [firstHolds.cached, secondHolds.cached, firstHolds.lastError, secondHolds.lastError]
  obtain ⟨cached, codes⟩ := (firstAlike.symm.trans secondAlike).toOption_eq
  refine ⟨cached, codes, ?_⟩
  cases firstOutcome <;> simp [failure?, Except.toOption]

/-- The circle fails alike wherever it is entered first. -/
theorem updateAll_order_independent_knot :
    ∃ first second,
      (updateAll ⟨1⟩ (evaluateEach ⟨1⟩ ["egg", "omelette"] (unitless knot))).2.find? "egg" =
        some first ∧
      (updateAll ⟨1⟩ (evaluateEach ⟨1⟩ [] (unitless knot.reverse))).2.find? "egg" =
        some second ∧
      first.activeState.cached = none ∧ second.activeState.cached = none ∧
      first.lastError.map Error.code = some "CIRCULAR_REF" ∧
      second.lastError.map Error.code = some "CIRCULAR_REF" := by
  obtain ⟨first, second, firstFound, secondFound, cached, codes, ends⟩ :=
    updateAll_order_independent (unitless knot) (unitless knot.reverse) ⟨1⟩
      (by decide) (by decide) (by decide) covered_knot rfl rfl
      (List.reverse_perm knot).symm ["egg", "omelette"] [] "egg" (by decide)
  have circular : (((updateAll ⟨1⟩ (evaluateEach ⟨1⟩ ["egg", "omelette"]
      (unitless knot))).2.find? "egg").bind (·.lastError)).map Error.code =
        some "CIRCULAR_REF" := by decide +kernel
  rw [firstFound, Option.bind_some] at circular
  have nothing : first.activeState.cached = none := by
    cases buffered : first.activeState.cached with
    | none => rfl
    | some amount =>
        rw [ends.2 (by rw [buffered]; rfl)] at circular
        cases circular
  exact ⟨first, second, firstFound, secondFound, nothing, cached.symm.trans nothing, circular,
    codes.symm.trans circular⟩

end Store

end Metrology
