import Std.Data.TreeMap
import Metrology.Proofs.Consistency

/-!
# The store as a workshop

A workshop keeps its parameters on a shelf.  Whoever runs is taken off the shelf and
put on a stack, and back on the shelf when it is done; the list of registered ids is
kept apart.  It answers requests as the store does, which leaves its parameters where
they are.
-/

namespace Metrology

open Formula

/-! ## Moments -/

/-- What happens to an id while it is resolved. -/
inductive Act (α : Type) where
  | asked
  | started
  | answered (outcome : Except Error (Amount α))

/-- A moment of resolving: what happens to which id, and where the parameters are. -/
structure Moment (α : Type) where
  act : Act α
  id : String
  /-- The registered ids. -/
  order : List String
  /-- The ids on the shelf. -/
  shelved : List String
  /-- The ids that run, the outermost first. -/
  running : List String

/-- Every registered id is on the shelf or runs, no id is on both sides or runs twice,
and no other id is there. -/
structure Moment.Balanced {α : Type} (moment : Moment α) : Prop where
  disjoint : moment.shelved.Disjoint moment.running
  nodup : moment.running.Nodup
  mem_order : ∀ id, id ∈ moment.order ↔ id ∈ moment.shelved ∨ id ∈ moment.running

/-! ## The workshop -/

structure Workshop (α : Type) where
  /-- The parameters that do not run, by id. -/
  shelf : Std.TreeMap String (Parameter α)
  /-- The registered ids in the order of registration. -/
  order : List String
  /-- The ids that run, the outermost first. -/
  evaluating : List String
  notifications : List (Notification α)
  /-- What has been seen of resolving, the latest last. -/
  moments : List (Moment α)

namespace Workshop

variable {α : Type}

def empty : Workshop α :=
  ⟨∅, [], [], [], []⟩

/-- The workshop with the parameters of a pool. -/
def ofPool (pool : Pool α) : Workshop α :=
  { shelf := .ofList (pool.parameters.map fun parameter => (parameter.id, parameter))
    order := pool.ids
    evaluating := []
    notifications := pool.notifications
    moments := [] }

/-- The registered parameters on the shelf in the order of registration. -/
def parameters (shop : Workshop α) : List (Parameter α) :=
  shop.order.filterMap (shop.shelf[·]?)

/-- Write down the present moment. -/
def note (shop : Workshop α) (act : Act α) (id : String) : Workshop α :=
  { shop with moments := shop.moments ++
      [⟨act, id, shop.order, shop.shelf.keys, shop.evaluating⟩] }

/-- Take a parameter off the shelf to run it. -/
def start (shop : Workshop α) (id : String) : Workshop α :=
  { shop with
    shelf := shop.shelf.erase id
    evaluating := shop.evaluating ++ [id] }

/-- Put the parameter that ran last back on the shelf. -/
def finish (shop : Workshop α) (id : String) (parameter : Parameter α)
    (told : List (Notification α)) : Workshop α :=
  { shop with
    shelf := shop.shelf.insert id parameter
    evaluating := shop.evaluating.dropLast
    notifications := shop.notifications ++ told }

def register (shop : Workshop α) (parameter : Parameter α) :
    Except Error (Workshop α) :=
  if shop.shelf.contains parameter.id || shop.evaluating.contains parameter.id then
    .error (.duplicateParameter parameter.id)
  else
    .ok { shop with
      shelf := shop.shelf.insert parameter.id parameter
      order := shop.order ++ [parameter.id] }

def remove (shop : Workshop α) (id : String) : Workshop α :=
  if shop.shelf.contains id then
    { shop with
      shelf := shop.shelf.erase id
      order := shop.order.filter (· ≠ id) }
  else shop

variable [Scalar α]

/-- Answer a request, where the requests of the formula that it runs are answered by
`nested`. -/
def attend (table : FunctionTable α) (pass : PassToken) (nested : Resolver α (Workshop α)) :
    Resolver α (Workshop α) := fun id (registry, shop) =>
  if shop.evaluating.contains id then
    (.error (.circular (shop.evaluating.dropWhile (· ≠ id) ++ [id])), registry, shop)
  else
    match shop.shelf[id]? with
    | none => (.error (.unknownParameter id), registry, shop)
    | some parameter =>
        let (refreshed, registry, later) :=
          parameter.refresh table pass nested (registry, (shop.start id).note .started id)
        (refreshed.outcome.bind fun _ => refreshed.parameter.amount, registry,
          later.finish id refreshed.parameter refreshed.notifications)

/-- The resolver with every request and every answer written down. -/
def witnessed (resolve : Resolver α (Workshop α)) : Resolver α (Workshop α) :=
  fun id (registry, shop) =>
    let (outcome, registry, later) := resolve id (registry, shop.note .asked id)
    (outcome, registry, later.note (.answered outcome) id)

/-- Answer requests that are nested less than `depth` deep. -/
def resolve (table : FunctionTable α) (pass : PassToken) : Nat → Resolver α (Workshop α)
  | 0 => fun id => throw (.unknownParameter id)
  | depth + 1 => witnessed (attend table pass (resolve table pass depth))

/-- Bring one parameter up to date.  All parameters may run inside one another, and the
innermost one may ask once more. -/
def evaluate (table : FunctionTable α) (pass : PassToken) : Resolver α (Workshop α) :=
  fun id state => resolve table pass (state.2.order.length + 1) id state

/-- Bring parameters up to date one after another. -/
def evaluateEach (table : FunctionTable α) (pass : PassToken) (requests : List String)
    (state : Registry α × Workshop α) : Registry α × Workshop α :=
  requests.foldl (fun state id => ((evaluate table pass id).start state).2) state

end Workshop

/-! ## Looking on the shelf -/

section Shelves

variable {β : Type} (shelf : Std.TreeMap String β) (id other : String)

theorem lookup_insert (value : β) :
    (shelf.insert id value)[other]? = if id = other then some value else shelf[other]? := by
  simp only [Std.TreeMap.getElem?_insert, Std.LawfulEqCmp.compare_eq_iff_eq]

theorem lookup_erase :
    (shelf.erase id)[other]? = if id = other then none else shelf[other]? := by
  simp only [Std.TreeMap.getElem?_erase, Std.LawfulEqCmp.compare_eq_iff_eq]

end Shelves

theorem lookup_start {α : Type} (shop : Workshop α) (id other : String) :
    (shop.start id).shelf[other]? = if id = other then none else shop.shelf[other]? :=
  lookup_erase _ _ _

theorem lookup_finish {α : Type} (shop : Workshop α) (id other : String)
    (parameter : Parameter α) (told : List (Notification α)) :
    (shop.finish id parameter told).shelf[other]? =
      if id = other then some parameter else shop.shelf[other]? :=
  lookup_insert _ _ _ _

/-! ## Mirroring -/

/-- A workshop in which some ids run, and the pool of the same parameters. -/
structure Mirrors {α : Type} (running : List String) (shop : Workshop α) (pool : Pool α) :
    Prop where
  order : shop.order = pool.ids
  evaluating : shop.evaluating = running
  distinct : pool.ids.Nodup
  nodup : running.Nodup
  registered : ∀ id ∈ running, id ∈ pool.ids
  off : ∀ id ∈ running, shop.shelf[id]? = none
  on : ∀ id, id ∉ running → shop.shelf[id]? = pool.find? id
  notifications : shop.notifications = pool.notifications
  moments : ∀ moment ∈ shop.moments, moment.Balanced

namespace Mirrors

variable {α : Type} {running : List String} {shop : Workshop α} {pool : Pool α}

theorem empty : Mirrors [] (.empty : Workshop α) ⟨[], []⟩ where
  order := rfl
  evaluating := rfl
  distinct := .nil
  nodup := .nil
  registered := nofun
  off := nofun
  on _ _ := rfl
  notifications := rfl
  moments := nofun

theorem ofPool (distinct : pool.ids.Nodup) : Mirrors [] (.ofPool pool) pool where
  order := rfl
  evaluating := rfl
  distinct := distinct
  nodup := .nil
  registered := nofun
  off := nofun
  on id _ := by
    unfold Workshop.ofPool
    cases found : pool.find? id with
    | none =>
        have absent := Pool.find?_eq_none_iff.1 found
        refine Std.TreeMap.getElem?_ofList_of_contains_eq_false ?_
        simpa [Pool.ids] using absent
    | some parameter =>
        refine Std.TreeMap.getElem?_ofList_of_mem
          (Std.LawfulEqCmp.compare_eq_iff_eq.2 (Pool.id_of_find? found)) ?_
          (List.mem_map_of_mem (Pool.mem_of_find? found))
        rw [List.pairwise_map]
        refine (List.pairwise_map.1 distinct).imp fun different equal => ?_
        exact different (Std.LawfulEqCmp.compare_eq_iff_eq.1 equal)
  notifications := rfl
  moments := nofun

theorem mem_shelf (mirrors : Mirrors running shop pool) (id : String) :
    id ∈ shop.shelf ↔ id ∈ pool.ids ∧ id ∉ running := by
  rw [← Std.TreeMap.isSome_getElem?_iff_mem]
  by_cases runs : id ∈ running
  · simp [mirrors.off id runs, runs]
  · rw [mirrors.on id runs, Pool.find?_isSome_iff]
    simp [runs]

theorem parameters_eq (mirrors : Mirrors [] shop pool) : shop.parameters = pool.parameters := by
  unfold Workshop.parameters
  rw [mirrors.order, Pool.ids, List.filterMap_map]
  refine (List.filterMap_congr fun parameter member => ?_).trans List.filterMap_some
  simp only [Function.comp, mirrors.on _ List.not_mem_nil]
  exact Pool.find?_of_mem mirrors.distinct member

/-- The present moment is balanced. -/
theorem note (mirrors : Mirrors running shop pool) (act : Act α) (id : String) :
    Mirrors running (shop.note act id) pool where
  order := mirrors.order
  evaluating := mirrors.evaluating
  distinct := mirrors.distinct
  nodup := mirrors.nodup
  registered := mirrors.registered
  off := mirrors.off
  on := mirrors.on
  notifications := mirrors.notifications
  moments := by
    intro moment member
    rcases List.mem_append.1 member with earlier | present
    · exact mirrors.moments moment earlier
    · rw [List.mem_singleton.1 present, mirrors.order, mirrors.evaluating]
      refine ⟨?_, mirrors.nodup, fun other => ?_⟩
      · intro other shelved runs
        exact ((mirrors.mem_shelf other).1 (Std.TreeMap.mem_keys.1 shelved)).2 runs
      · simp only [Std.TreeMap.mem_keys, mirrors.mem_shelf]
        by_cases runs : other ∈ running
        · simp [runs, mirrors.registered other runs]
        · simp [runs]

/-- Taking a parameter off the shelf. -/
theorem start (mirrors : Mirrors running shop pool) {id : String} (waiting : id ∉ running)
    (known : id ∈ pool.ids) : Mirrors (running ++ [id]) (shop.start id) pool where
  order := mirrors.order
  evaluating := congrArg (· ++ [id]) mirrors.evaluating
  distinct := mirrors.distinct
  nodup := by
    rw [← List.concat_eq_append]
    exact mirrors.nodup.concat waiting
  registered other member := by
    rcases List.mem_append.1 member with earlier | last
    · exact mirrors.registered other earlier
    · rwa [List.mem_singleton.1 last]
  off other member := by
    rw [lookup_start]
    split
    · rfl
    · next different =>
        rcases List.mem_append.1 member with earlier | last
        · exact mirrors.off other earlier
        · exact absurd (List.mem_singleton.1 last).symm different
  on other absent := by
    rw [List.mem_append, List.mem_singleton, not_or] at absent
    rw [lookup_start, if_neg (Ne.symm absent.2)]
    exact mirrors.on other absent.1
  notifications := mirrors.notifications
  moments := mirrors.moments

/-- Putting a parameter on the shelf and into the pool. -/
theorem insert_eq_put {id other : String} {parameter : Parameter α}
    (known : id ∈ pool.ids) (same : parameter.id = id) (told : List (Notification α))
    (elsewhere : other ≠ id → shop.shelf[other]? = pool.find? other) :
    (shop.shelf.insert id parameter)[other]? = (pool.put parameter told).find? other := by
  rw [lookup_insert]
  split
  · next equal =>
      rw [← equal, ← same]
      obtain ⟨old, found⟩ := Option.isSome_iff_exists.1 (Pool.find?_isSome_iff.2 known)
      rw [← same] at found
      exact (Pool.find?_put_self found).symm
  · next different =>
      rw [Pool.find?_put_of_ne (by rw [same]; exact Ne.symm different)]
      exact elsewhere (Ne.symm different)

/-- Putting the parameter that ran last back on the shelf. -/
theorem finish {id : String} (mirrors : Mirrors (running ++ [id]) shop pool)
    {parameter : Parameter α} (same : parameter.id = id) (told : List (Notification α)) :
    Mirrors running (shop.finish id parameter told) (pool.put parameter told) := by
  have nodup := mirrors.nodup
  rw [← List.concat_eq_append, List.nodup_concat] at nodup
  have known : id ∈ pool.ids := mirrors.registered id (by simp)
  refine
    { order := mirrors.order.trans (Pool.ids_put _ _ _).symm
      evaluating := by rw [Workshop.finish, mirrors.evaluating, List.dropLast_concat]
      distinct := by rw [Pool.ids_put]; exact mirrors.distinct
      nodup := nodup.2
      registered := fun other member => ?_
      off := fun other member => ?_
      on := fun other absent => ?_
      notifications := congrArg (· ++ told) mirrors.notifications
      moments := mirrors.moments }
  · rw [Pool.ids_put]
    exact mirrors.registered other (List.mem_append_left _ member)
  · have different : id ≠ other := by
      rintro rfl
      exact nodup.1 member
    rw [lookup_finish, if_neg different]
    exact mirrors.off other (List.mem_append_left _ member)
  · refine insert_eq_put known same told fun distinct => mirrors.on other ?_
    simp [absent, distinct]

end Mirrors

/-! ## Answering alike -/

section Alike

variable {α : Type}

/-- The runs of a workshop and of a pool with the same registered ids throughout. -/
def mirroring (ids running : List String) :
    Coupling (Registry α × Workshop α) (Registry α × Pool α) where
  states first second :=
    first.1 = second.1 ∧ Mirrors running first.2 second.2 ∧ second.2.ids = ids
  failures := Eq
  failures_refl _ := rfl
  excused _ := False

variable [Scalar α] {table : FunctionTable α} {pass : PassToken}
  {ids idle running : List String}

theorem normalizing_mirroring (expression : String) :
    (mirroring (α := α) ids running).InStep Eq
      (Attempt.onFirst (Registry.normalizing expression))
      (Attempt.onFirst (Registry.normalizing expression)) := by
  refine Coupling.inStep_onFirst _ ?_
  rintro ⟨registry, shop⟩ ⟨_, pool⟩ ⟨rfl, states⟩
  exact ⟨rfl, rfl, states⟩

omit [Scalar α] in
/-- Noting requests and answers does not disturb. -/
theorem witnessed_mirroring {left : Resolver α (Workshop α)} {right : Resolver α (Pool α)}
    {id : String} (inStep : (mirroring ids running).InStep Eq (left id) (right id)) :
    (mirroring ids running).InStep Eq (Workshop.witnessed left id) (right id) := by
  rintro ⟨registry, shop⟩ ⟨_, pool⟩ ⟨rfl, mirrors, same⟩
  rcases inStep (registry, shop.note .asked id) (registry, pool)
    ⟨rfl, mirrors.note .asked id, same⟩ with ⟨_, _, excuse⟩ | ⟨outcomes, rest, after, still⟩
  · exact excuse.elim
  · exact .inr ⟨outcomes, rest, after.note _ id, still⟩

theorem attend_of_running {nested : Resolver α (Workshop α)} {id : String}
    {state : Registry α × Workshop α} (started : id ∈ state.2.evaluating) :
    (Workshop.attend table pass nested id).start state =
      (.error (.circular (state.2.evaluating.dropWhile (· ≠ id) ++ [id])), state) := by
  rw [Attempt.start, Workshop.attend]
  simp only [List.contains_iff_mem.2 started, if_true]

theorem attend_of_unknown {nested : Resolver α (Workshop α)} {id : String}
    {state : Registry α × Workshop α} (waiting : id ∉ state.2.evaluating)
    (unknown : state.2.shelf[id]? = none) :
    (Workshop.attend table pass nested id).start state =
      (.error (.unknownParameter id), state) := by
  rw [Attempt.start, Workshop.attend]
  simp only [List.contains_iff_mem, waiting, if_false, unknown]

theorem attend_of_found {nested : Resolver α (Workshop α)} {id : String}
    {state : Registry α × Workshop α} {parameter : Parameter α}
    (waiting : id ∉ state.2.evaluating) (found : state.2.shelf[id]? = some parameter) :
    (Workshop.attend table pass nested id).start state =
      let run := parameter.refresh table pass nested
        (state.1, (state.2.start id).note .started id)
      (run.1.outcome.bind fun _ => run.1.parameter.amount, run.2.1,
        run.2.2.finish id run.1.parameter run.1.notifications) := by
  rw [Attempt.start, Workshop.attend]
  simp only [List.contains_iff_mem, waiting, if_false, found]
  rfl

theorem id_refresh {σ : Type} (parameter : Parameter α) (resolve : Resolver α σ)
    (state : Registry α × σ) :
    (parameter.refresh table pass resolve state).1.parameter.id = parameter.id := by
  unfold Parameter.refresh
  split
  · rfl
  · exact (Parameter.takeUp_eq _ _ _).1.trans (Parameter.counted_eq parameter).1

/-- The workshop answers requests as the store does, however deep they are nested. -/
theorem resolve_mirroring {depth : Nat} (enough : idle.length < depth)
    (known : ∀ name ∈ ids, name ∈ idle ∨ name ∈ running) (id : String) :
    (mirroring ids running).InStep Eq (Workshop.resolve table pass depth id)
      (Store.resolve table pass idle running id) := by
  induction depth generalizing idle running id with
  | zero => exact absurd enough (Nat.not_lt_zero _)
  | succ depth ih =>
      refine witnessed_mirroring ?_
      rintro ⟨registry, shop⟩ ⟨_, pool⟩ ⟨rfl, mirrors, same⟩
      right
      have stack : shop.evaluating = running := mirrors.evaluating
      by_cases started : id ∈ running
      · rw [attend_of_running (by rwa [stack]), Store.resolve_of_running started, stack]
        exact ⟨Coupling.outcomes_refl _, rfl, mirrors, same⟩
      have shelved := mirrors.on id started
      cases found : pool.find? id with
      | none =>
          rw [attend_of_unknown (by rwa [stack]) (shelved.trans found),
            Store.resolve_of_unknown started fun _ => found]
          exact ⟨Coupling.outcomes_refl _, rfl, mirrors, same⟩
      | some parameter =>
          have registered : id ∈ pool.ids := Pool.mem_ids_of_find? found
          have startable : id ∈ idle := (known id (same ▸ registered)).resolve_right started
          have shorter : (idle.erase id).length < depth := by
            have one := List.length_erase_add_one startable
            omega
          have begun : (mirroring ids (running ++ [id])).states
              (registry, (shop.start id).note .started id) (registry, pool) :=
            ⟨rfl, (mirrors.start started registered).note .started id, same⟩
          obtain ⟨refreshed, rest, after, still⟩ := parameter.refresh_inStep table pass
            (fun equal => equal) (fun _ excuse => excuse) normalizing_mirroring
            (ih shorter (Store.known_of_start known id)) begun
          rw [attend_of_found (by rwa [stack]) (shelved.trans found),
            Store.resolve_of_found started startable found]
          simp only [refreshed]
          refine ⟨Coupling.outcomes_refl _, rest, after.finish ?_ _, ?_⟩
          · rw [id_refresh, Pool.id_of_find? found]
          · rwa [Pool.ids_put]

end Alike

/-! ## Requests between calls -/

theorem Workshop.start_evaluate {α : Type} [Scalar α] (table : FunctionTable α)
    (pass : PassToken) (id : String) (state : Registry α × Workshop α) :
    (Workshop.evaluate table pass id).start state =
      (Workshop.resolve table pass (state.2.order.length + 1) id).start state := by
  unfold Attempt.start Workshop.evaluate
  rfl

/-- A registry and a workshop between calls, and the store of the same parameters. -/
structure Stands {α : Type} (table : FunctionTable α) (state : Registry α × Workshop α)
    (store : Store α) : Prop where
  table : store.table = table
  registry : state.1 = store.registry
  mirrors : Mirrors [] state.2 store.pool

namespace Stands

variable {α : Type} [Scalar α] {table : FunctionTable α} {state : Registry α × Workshop α}
  {store : Store α}

/-- Bringing one parameter up to date. -/
theorem evaluate (stands : Stands table state store) (id : String) (pass : PassToken) :
    ((Workshop.evaluate table pass id).start state).1 = (Store.evaluate id pass store).1 ∧
      Stands table ((Workshop.evaluate table pass id).start state).2
        (Store.evaluate id pass store).2 ∧
      (Store.evaluate id pass store).2.ids = store.ids := by
  obtain ⟨rfl, registry, mirrors⟩ := stands
  have enough : store.ids.length < state.2.order.length + 1 := by
    rw [mirrors.order]
    exact Nat.lt_succ_self _
  rw [Workshop.start_evaluate, Store.evaluate_eq]
  rcases @resolve_mirroring α _ store.table pass store.ids store.ids [] _ enough
    (fun _ => Or.inl) id state (store.registry, store.pool) ⟨registry, mirrors, rfl⟩ with
    ⟨_, _, excuse⟩ | ⟨outcomes, rest, after, same⟩
  · exact excuse.elim
  · exact ⟨Coupling.eq_of_outcomes (mirroring _ _) (fun equal => equal) outcomes,
      ⟨rfl, rest, after⟩, same⟩

theorem evaluateEach (stands : Stands table state store) (pass : PassToken)
    (requests : List String) :
    Stands table (Workshop.evaluateEach table pass requests state)
        (Store.evaluateEach pass requests store) ∧
      (Store.evaluateEach pass requests store).ids = store.ids := by
  induction requests generalizing state store with
  | nil => exact ⟨stands, rfl⟩
  | cons id rest ih =>
      obtain ⟨_, after, same⟩ := stands.evaluate id pass
      exact (ih after).imp_right (·.trans same)

end Stands

end Metrology
