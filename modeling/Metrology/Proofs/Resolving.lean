import Metrology.Proofs.Meaning

/-!
# Resolving under one pass

While a pass is under way each parameter either is as it was or holds what it
means.  Resolving an id keeps this invariant, and returns what the id means even
if the answer comes from a cycle that was entered somewhere else.
-/

namespace Metrology

open Formula

/-! ## Putting a parameter back -/

namespace Pool

variable {α : Type} {pool : Pool α}

theorem ids_put (pool : Pool α) (parameter : Parameter α)
    (told : List (Notification α)) : (pool.put parameter told).ids = pool.ids := by
  simp only [ids, put, List.map_map]
  refine List.map_congr_left fun other _ => ?_
  by_cases same : other.id = parameter.id
  · simp [same]
  · simp [same]

theorem find?_put (parameter : Parameter α) (told : List (Notification α))
    (id : String) :
    (pool.put parameter told).find? id =
      (pool.find? id).map fun other =>
        if other.id = parameter.id then parameter else other := by
  unfold find? put
  rw [List.find?_map]
  refine congrArg _ (congrArg (List.find? · pool.parameters) ?_)
  funext other
  by_cases same : other.id = parameter.id
  · simp [same]
  · simp [same]

theorem find?_put_self {parameter old : Parameter α} {told : List (Notification α)}
    (found : pool.find? parameter.id = some old) :
    (pool.put parameter told).find? parameter.id = some parameter := by
  rw [find?_put, found, Option.map_some, if_pos (id_of_find? found)]

theorem find?_put_of_ne {parameter : Parameter α} {told : List (Notification α)}
    {id : String} (other : id ≠ parameter.id) :
    (pool.put parameter told).find? id = pool.find? id := by
  rw [find?_put]
  cases found : pool.find? id with
  | none => rfl
  | some present =>
      rw [Option.map_some, if_neg (by rwa [id_of_find? found])]

end Pool

/-! ## The invariant of a pass -/

/-- A parameter that has been refreshed under a pass and holds what was
expected. -/
structure Parameter.Finished {α : Type} (pass : PassToken)
    (expected : Except Error (Amount α)) (before after : Parameter α) : Prop where
  id : after.id = before.id
  tracer : after.tracer = some pass
  source : after.activeState.source = before.activeState.source
  holds : ∃ outcome, Alike expected outcome ∧ after.Holds outcome

namespace Parameter.Finished

variable {α : Type} {pass : PassToken} {expected : Except Error (Amount α)}
  {before after : Parameter α}

theorem alike (finished : Finished pass expected before after) :
    Alike expected after.outcome := by
  obtain ⟨outcome, alike, holds⟩ := finished.holds
  rwa [holds.outcome_eq]

/-- Taking up an outcome like the expected one finishes a parameter. -/
theorem of_takeUp [Scalar α] {recomputed : Except Error (Option (Amount α))}
    (alike : Alike expected (before.result recomputed))
    (buffered : recomputed = .ok none → before.activeState.cached.isSome = true) :
    Finished pass expected before (before.counted.takeUp pass recomputed).parameter := by
  obtain ⟨sameId, sameState, sameResult⟩ := counted_eq before
  rw [← sameState] at buffered
  rw [← sameResult] at alike
  obtain ⟨id, tracer, source⟩ := takeUp_eq before.counted pass recomputed
  refine ⟨id.trans sameId, tracer, ?_, _, alike, takeUp_holds before.counted pass buffered⟩
  rw [source, sameState]

end Parameter.Finished

/-- Between two pools of one pass, a parameter is unchanged or finished.  Those
that are done are finished. -/
structure Partway {α : Type} (pass : PassToken)
    (expected : String → Except Error (Amount α)) (before : Pool α)
    (done : String → Prop) (after : Pool α) : Prop where
  ids : after.ids = before.ids
  parameter : ∀ {id old new}, before.find? id = some old → after.find? id = some new →
    new = old ∨ Parameter.Finished pass (expected id) old new
  done : ∀ {id new}, done id → after.find? id = some new → new.tracer = some pass

namespace Partway

variable {α : Type} {pass : PassToken} {expected : String → Except Error (Amount α)}
  {before after : Pool α} {done : String → Prop}

theorem start : Partway pass expected before (fun _ => False) before where
  ids := rfl
  parameter found again := by
    rw [found] at again
    exact .inl (Option.some.inj again).symm
  done impossible := impossible.elim

theorem find?_eq_none_iff (partway : Partway pass expected before done after)
    {id : String} : after.find? id = none ↔ before.find? id = none := by
  rw [← Option.not_isSome_iff_eq_none, ← Option.not_isSome_iff_eq_none,
    Pool.find?_isSome_iff, Pool.find?_isSome_iff, partway.ids]

/-- Putting a finished parameter back makes it done. -/
theorem put (partway : Partway pass expected before done after)
    {old current new : Parameter α} {told : List (Notification α)}
    (registered : before.find? new.id = some old)
    (present : after.find? new.id = some current)
    (finished : Parameter.Finished pass (expected new.id) old new) :
    Partway pass expected before (fun id => done id ∨ id = new.id)
      (after.put new told) where
  ids := by
    rw [Pool.ids_put, partway.ids]
  parameter {id older newer} found again := by
    by_cases same : id = new.id
    · subst same
      rw [registered] at found
      rw [Pool.find?_put_self present] at again
      cases found
      cases again
      exact .inr finished
    · rw [Pool.find?_put_of_ne same] at again
      exact partway.parameter found again
  done {id newer} finishedId again := by
    by_cases same : id = new.id
    · subst same
      rw [Pool.find?_put_self present] at again
      cases again
      exact finished.tracer
    · rw [Pool.find?_put_of_ne same] at again
      exact partway.done (finishedId.resolve_right same) again

theorem mono {fewer : String → Prop} (partway : Partway pass expected before done after)
    (fewerDone : ∀ id, fewer id → done id) :
    Partway pass expected before fewer after :=
  { partway with done := fun doneId => partway.done (fewerDone _ doneId) }

/-- An id that is not registered counts as done. -/
theorem missing (partway : Partway pass expected before done after) {missing : String}
    (unregistered : after.find? missing = none) :
    Partway pass expected before (fun id => done id ∨ id = missing) after where
  ids := partway.ids
  parameter := partway.parameter
  done {id new} doneId found := by
    rcases doneId with earlier | rfl
    · exact partway.done earlier found
    · rw [unregistered] at found
      cases found

end Partway

/-! ## What formulas read -/

/-- What a formula got for a name. -/
structure Reading (α : Type) where
  name : String
  outcome : Except Error (Amount α)

/-- The attempt to read a name, written down with what came of it. -/
def noted {α σ : Type} (name : String)
    (attempt : Calculation α (σ × List (Reading α)) (Amount α)) :
    Calculation α (σ × List (Reading α)) (Amount α) := fun state =>
  let (outcome, registry, inner, readings) := attempt state
  (outcome, registry, inner, readings ++ [⟨name, outcome⟩])

namespace Store

variable {α : Type} [Scalar α]

/-- `resolve` with what all formulas read on the way. -/
def resolveNoting (table : FunctionTable α) (pass : PassToken)
    (idle running : List String) (id : String) :
    Calculation α (Pool α × List (Reading α)) (Amount α) := fun state =>
  if running.contains id then
    (.error (.circular (running.dropWhile (· ≠ id) ++ [id])), state)
  else if _ : id ∈ idle then
    match state.2.1.find? id with
    | none => (.error (.unknownParameter id), state)
    | some parameter =>
        let (refreshed, registry, pool, readings) :=
          parameter.refresh table pass
            (fun name => noted name
              (resolveNoting table pass (idle.erase id) (running ++ [id]) name))
            state
        (refreshed.outcome.bind fun _ => refreshed.parameter.amount, registry,
          pool.put refreshed.parameter refreshed.notifications, readings)
  else (.error (.unknownParameter id), state)
  termination_by idle.length
  decreasing_by
    have positive := List.length_pos_of_mem ‹id ∈ idle›
    rw [List.length_erase_of_mem ‹id ∈ idle›]
    omega

omit [Scalar α] in
/-- An induction over nested requests.  A request is for a parameter that runs, or it starts one
that waits, or it finds none, and what it starts is nested with one parameter less waiting. -/
@[elab_as_elim]
theorem request_induction {motive : List String → List String → String → Pool α → Prop}
    (circular : ∀ {idle running id pool}, id ∈ running → motive idle running id pool)
    (start : ∀ {idle running id pool parameter}, id ∉ running → id ∈ idle →
      pool.find? id = some parameter →
      (∀ name pool, motive (idle.erase id) (running ++ [id]) name pool) →
      motive idle running id pool)
    (unknown : ∀ {idle running id pool}, id ∉ running → (id ∈ idle → pool.find? id = none) →
      motive idle running id pool)
    (idle running : List String) (id : String) (pool : Pool α) : motive idle running id pool := by
  induction size : idle.length using Nat.strong_induction_on
    generalizing idle running id pool with
  | _ length ih =>
      by_cases started : id ∈ running
      · exact circular started
      by_cases startable : id ∈ idle
      · cases found : pool.find? id with
        | none => exact unknown started fun _ => found
        | some parameter =>
            refine start started startable found fun name pool => ?_
            refine ih _ ?_ _ _ name pool rfl
            have one := List.length_erase_add_one startable
            omega
      · exact unknown started fun waiting => absurd waiting startable

/-- Who starts waits no longer, and runs. -/
theorem known_of_start {ids idle running : List String}
    (known : ∀ name ∈ ids, name ∈ idle ∨ name ∈ running) (id : String) :
    ∀ name ∈ ids, name ∈ idle.erase id ∨ name ∈ running ++ [id] := by
  intro name member
  by_cases same : name = id
  · exact .inr (List.mem_append_right _ (List.mem_singleton.2 same))
  · exact (known name member).imp (List.mem_erase_of_ne same).2 (List.mem_append_left _)

section Cases

variable {table : FunctionTable α} {pass : PassToken} {idle running : List String}
  {id : String}

theorem resolve_of_running {state : Registry α × Pool α} (started : id ∈ running) :
    (resolve table pass idle running id).start state =
      (.error (.circular (running.dropWhile (· ≠ id) ++ [id])), state) := by
  rw [Attempt.start, resolve, if_pos (List.contains_iff_mem.2 started)]

theorem resolve_of_unknown {state : Registry α × Pool α} (waiting : id ∉ running)
    (unknown : id ∈ idle → state.2.find? id = none) :
    (resolve table pass idle running id).start state =
      (.error (.unknownParameter id), state) := by
  rw [Attempt.start, resolve, if_neg (by simpa using waiting)]
  split
  · next startable =>
      rw [unknown startable]
  · rfl

theorem resolve_of_found {state : Registry α × Pool α} {parameter : Parameter α}
    (waiting : id ∉ running) (startable : id ∈ idle)
    (found : state.2.find? id = some parameter) :
    (resolve table pass idle running id).start state =
      let run := parameter.refresh table pass
        (resolve table pass (idle.erase id) (running ++ [id])) state
      (run.1.outcome.bind fun _ => run.1.parameter.amount, run.2.1,
        run.2.2.put run.1.parameter run.1.notifications) := by
  rw [Attempt.start, resolve, if_neg (by simpa using waiting), dif_pos startable, found]
  rfl

variable {state : Registry α × Pool α × List (Reading α)}

theorem resolveNoting_of_running (started : id ∈ running) :
    (resolveNoting table pass idle running id).start state =
      (.error (.circular (running.dropWhile (· ≠ id) ++ [id])), state) := by
  rw [Attempt.start, resolveNoting, if_pos (List.contains_iff_mem.2 started)]

theorem resolveNoting_of_unknown (waiting : id ∉ running)
    (unknown : id ∈ idle → state.2.1.find? id = none) :
    (resolveNoting table pass idle running id).start state =
      (.error (.unknownParameter id), state) := by
  rw [Attempt.start, resolveNoting, if_neg (by simpa using waiting)]
  split
  · next startable =>
      rw [unknown startable]
  · rfl

theorem resolveNoting_of_found {parameter : Parameter α} (waiting : id ∉ running)
    (startable : id ∈ idle) (found : state.2.1.find? id = some parameter) :
    (resolveNoting table pass idle running id).start state =
      let run := parameter.refresh table pass
        (fun name => noted name
          (resolveNoting table pass (idle.erase id) (running ++ [id]) name)) state
      (run.1.outcome.bind fun _ => run.1.parameter.amount, run.2.1,
        run.2.2.1.put run.1.parameter run.1.notifications, run.2.2.2) := by
  rw [Attempt.start, resolveNoting, if_neg (by simpa using waiting), dif_pos startable,
    found]
  rfl

end Cases

/-- The runs that differ only in that the first one writes down readings. -/
def forgetting (α : Type) :
    Coupling (Registry α × Pool α × List (Reading α)) (Registry α × Pool α) where
  states first second := second = (first.1, first.2.1)
  failures := Eq
  failures_refl _ := rfl
  excused _ := False

theorem normalizing_forgetting (expression : String) :
    (forgetting α).InStep Eq (Attempt.onFirst (Registry.normalizing expression))
      (Attempt.onFirst (Registry.normalizing expression)) := by
  refine Coupling.inStep_onFirst _ ?_
  rintro ⟨registry, pool, readings⟩ _ rfl
  exact ⟨rfl, rfl⟩

omit [Scalar α] in
theorem noted_forgetting {name : String}
    {left : Calculation α (Pool α × List (Reading α)) (Amount α)}
    {right : Calculation α (Pool α) (Amount α)}
    (inStep : (forgetting α).InStep Eq left right) :
    (forgetting α).InStep Eq (noted name left) right := by
  intro first second states
  exact inStep first second states

theorem recompute_forgetting (table : FunctionTable α) (track : TrackState α)
    {left : Resolver α (Pool α × List (Reading α))} {right : Resolver α (Pool α)}
    (inStep : ∀ name, (forgetting α).InStep Eq (left name) (right name)) :
    (forgetting α).InStep Eq (Parameter.recompute table left track)
      (Parameter.recompute table right track) := by
  refine Parameter.recompute_inStep table track ?_ ?_
  · intro expression _
    exact normalizing_forgetting expression
  · intro name
    exact Coupling.inStep_bind_eq
      (Coupling.inStep_mapFailure (inStep name) (congrArg _) False.elim)
      fun amount => Coupling.inStep_pure rfl

theorem refresh_forgetting (table : FunctionTable α) (pass : PassToken)
    (parameter : Parameter α) (left : Resolver α (Pool α × List (Reading α)))
    (right : Resolver α (Pool α))
    (inStep : ∀ name, (forgetting α).InStep Eq (left name) (right name))
    (state : Registry α × Pool α × List (Reading α)) :
    parameter.refresh table pass right (state.1, state.2.1) =
      ((parameter.refresh table pass left state).1,
        (parameter.refresh table pass left state).2.1,
        (parameter.refresh table pass left state).2.2.1) := by
  rcases recompute_forgetting table parameter.activeState inStep state _ rfl with
    ⟨_, _, excuse⟩ | ⟨outcomes, states⟩
  · exact excuse.elim
  · have recomputed := Coupling.eq_of_outcomes (forgetting α) id outcomes
    unfold Parameter.refresh
    split
    · rfl
    · refine Prod.ext ?_ states
      exact congrArg (parameter.counted.takeUp pass) recomputed.symm

/-- Writing down readings changes nothing else. -/
theorem resolveNoting_forgetting (table : FunctionTable α) (pass : PassToken)
    (idle running : List String) (id : String) :
    (forgetting α).InStep Eq (resolveNoting table pass idle running id)
      (resolve table pass idle running id) := by
  rintro ⟨registry, pool, readings⟩ _ rfl
  right
  induction idle, running, id, pool using request_induction generalizing registry readings with
  | circular started =>
      rw [resolveNoting_of_running started, resolve_of_running started]
      exact ⟨Coupling.outcomes_refl _, rfl⟩
  | unknown started unknown =>
      rw [resolveNoting_of_unknown started unknown, resolve_of_unknown started unknown]
      exact ⟨Coupling.outcomes_refl _, rfl⟩
  | @start idle running id pool parameter started startable found ih =>
      rw [resolveNoting_of_found started startable found,
        resolve_of_found started startable found]
      rw [refresh_forgetting table pass parameter
        (fun name => noted name
          (resolveNoting table pass (idle.erase id) (running ++ [id]) name))]
      · exact ⟨Coupling.outcomes_refl _, rfl⟩
      · intro name
        refine noted_forgetting ?_
        rintro ⟨registry, pool, readings⟩ _ rfl
        exact .inr (ih name pool registry readings)

/-! ## Soundness of resolving -/

/-- A pass is under way: its pool is partway, and what formulas have read is what
was expected. -/
structure Underway (pass : PassToken) (expected : String → Except Error (Amount α))
    (before : Pool α) (done : String → Prop) (inner : Pool α × List (Reading α)) :
    Prop where
  pool : Partway pass expected before done inner.1
  readings : ∀ reading ∈ inner.2, Alike (expected reading.name) reading.outcome

variable {table : FunctionTable α} {registry : Registry α} {before : Pool α}
  {depth : Nat} {pass : PassToken} {expected : String → Except Error (Amount α)}
  {done : String → Prop}

omit [Scalar α] in
theorem Underway.mono {fewer : String → Prop} {inner : Pool α × List (Reading α)}
    (underway : Underway pass expected before done inner)
    (fewerDone : ∀ id, fewer id → done id) : Underway pass expected before fewer inner :=
  ⟨underway.pool.mono fewerDone, underway.readings⟩

omit [Scalar α] in
/-- A finished parameter is put back. -/
theorem Underway.put {inner : Pool α × List (Reading α)}
    (underway : Underway pass expected before done inner) {id : String}
    {old new : Parameter α} (registered : before.find? id = some old)
    (finished : Parameter.Finished pass (expected id) old new)
    (told : List (Notification α)) :
    Underway pass expected before (fun other => done other ∨ other = id)
      (inner.1.put new told, inner.2) := by
  have same : new.id = id := finished.id.trans (Pool.id_of_find? registered)
  subst same
  cases present : inner.1.find? new.id with
  | none =>
      rw [underway.pool.find?_eq_none_iff, registered] at present
      cases present
  | some current => exact ⟨underway.pool.put registered present finished, underway.readings⟩

omit [Scalar α] in
/-- What a formula reads is written down. -/
theorem noted_endsAs {name : String}
    {attempt : Calculation α (Pool α × List (Reading α)) (Amount α)}
    {state : Registry α × Pool α × List (Reading α)}
    (ends : EndsAs registry (Underway pass expected before done) False (expected name)
      (attempt.start state)) :
    EndsAs registry (Underway pass expected before done) False (expected name)
      ((noted name attempt).start state) := by
  rcases ends with ⟨impossible, _⟩ | ⟨alike, rest, underway⟩
  · exact impossible.elim
  · refine .inr ⟨alike, rest, underway.pool, ?_⟩
    intro reading member
    rcases List.mem_append.1 member with earlier | last
    · exact underway.readings reading earlier
    · rw [List.mem_singleton.1 last]
      exact alike

/-- A pass that no parameter has seen, over a pool that a registry covers, with a
depth at which all is settled. -/
structure Prepared (table : FunctionTable α) (registry : Registry α) (before : Pool α)
    (depth : Nat) (pass : PassToken) : Prop where
  covered : before.Covered registry
  complete : Pool.Complete table registry before depth
  real : pass.isEmpty = false
  untraced : ∀ parameter ∈ before.parameters, parameter.tracer ≠ some pass

namespace Prepared

/-- Refreshing a parameter finishes it, if references end as expected. -/
theorem refresh_finished (prepared : Prepared table registry before depth pass)
    {running : List String} {id : String}
    (descends : Pool.Descends table registry before running id)
    (resolve : Resolver α (Pool α × List (Reading α)))
    (references : ∀ name, Pool.Descends table registry before (running ++ [id]) name →
      ∀ inner, Underway pass (Pool.outcomeAt table registry before depth) before done inner →
        EndsAs registry
          (Underway pass (Pool.outcomeAt table registry before depth) before done) False
          (Pool.outcomeAt table registry before depth name)
          ((resolve name).start (registry, inner)))
    {inner : Pool α × List (Reading α)}
    (underway : Underway pass (Pool.outcomeAt table registry before depth) before done inner)
    {old parameter : Parameter α} (registered : before.find? id = some old)
    (present : inner.1.find? id = some parameter) :
    let run := parameter.refresh table pass resolve (registry, inner)
    Parameter.Finished pass (Pool.outcomeAt table registry before depth id) old
        run.1.parameter ∧
      run.1.outcome = run.1.parameter.recorded ∧ run.2.1 = registry ∧
      Underway pass (Pool.outcomeAt table registry before depth) before done run.2.2 := by
  rcases underway.pool.parameter registered present with rfl | finished
  · have fresh := prepared.untraced parameter (Pool.mem_of_find? registered)
    have ends := Pool.recompute_endsAs prepared.covered prepared.complete descends registered
      references underway
    rcases ends with ⟨impossible, _⟩ | ⟨alike, rest, kept⟩
    · exact impossible.elim
    · rw [Parameter.refresh_of_untraced fresh]
      exact ⟨.of_takeUp alike Parameter.recompute_eq_none, Parameter.outcome_takeUp _ _ _,
        rest, kept⟩
  · rw [Parameter.refresh_of_traced prepared.real finished.tracer]
    exact ⟨finished, rfl, rfl, underway⟩

/-- Resolving an id ends with what it means, wherever it is asked for. -/
theorem resolveNoting_endsAs (prepared : Prepared table registry before depth pass)
    {idle running : List String} {id : String}
    (known : ∀ name ∈ before.ids, name ∈ idle ∨ name ∈ running)
    (descends : Pool.Descends table registry before running id)
    {inner : Pool α × List (Reading α)}
    (underway : Underway pass (Pool.outcomeAt table registry before depth) before done inner) :
    EndsAs registry
      (Underway pass (Pool.outcomeAt table registry before depth) before
        fun other => done other ∨ (other = id ∧ id ∉ running)) False
      (Pool.outcomeAt table registry before depth id)
      ((resolveNoting table pass idle running id).start (registry, inner)) := by
  obtain ⟨pool, readings⟩ := inner
  right
  induction idle, running, id, pool using request_induction generalizing done readings with
  | circular started =>
      rw [resolveNoting_of_running started]
      refine ⟨alike_of_not_settled (descends.not_settled started depth) nofun, rfl,
        underway.mono ?_⟩
      exact fun _ doneId => doneId.resolve_right fun last => last.2 started
  | @unknown idle running id pool started unknown =>
      -- All registered parameters wait or run, so this one is not registered.
      have missing : pool.find? id = none := by
        by_cases registered : id ∈ before.ids
        · exact unknown ((known id registered).resolve_right started)
        · rw [← underway.pool.ids] at registered
          exact Option.not_isSome_iff_eq_none.1 fun present =>
            registered (Pool.find?_isSome_iff.1 present)
      have unregistered := underway.pool.find?_eq_none_iff.1 missing
      rw [resolveNoting_of_unknown started unknown,
        prepared.complete.of_none prepared.covered unregistered]
      refine ⟨.refl _, rfl, ?_⟩
      exact Underway.mono ⟨underway.pool.missing missing, underway.readings⟩
        fun _ => Or.imp_right And.left
  | @start idle running id pool parameter started startable present ih =>
      cases registered : before.find? id with
      | none =>
          rw [underway.pool.find?_eq_none_iff.2 registered] at present
          cases present
      | some old =>
          have references : ∀ name,
              Pool.Descends table registry before (running ++ [id]) name →
              ∀ inner, Underway pass (Pool.outcomeAt table registry before depth) before done
                inner → EndsAs registry
                  (Underway pass (Pool.outcomeAt table registry before depth) before done) False
                  (Pool.outcomeAt table registry before depth name)
                  ((noted name (resolveNoting table pass (idle.erase id) (running ++ [id])
                    name)).start (registry, inner)) := by
            intro name descends inner underway
            refine noted_endsAs (.inr ?_)
            obtain ⟨alike, rest, kept⟩ :=
              ih name inner.1 (known_of_start known id) descends inner.2 underway
            exact ⟨alike, rest, kept.mono fun _ => Or.inl⟩
          obtain ⟨finished, recorded, rest, kept⟩ := prepared.refresh_finished descends _
            references underway registered present
          rw [resolveNoting_of_found started startable present]
          refine ⟨?_, rest, (kept.put registered finished _).mono fun _ => Or.imp_right And.left⟩
          simp only
          rw [recorded]
          exact finished.alike

end Prepared

end Store

end Metrology
