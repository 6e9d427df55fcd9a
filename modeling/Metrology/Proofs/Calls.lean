import Metrology.Proofs.Editing
import Metrology.Proofs.Workshop

/-!
# The structure of a store

Whatever is asked of a store, every parameter stays where it belongs: between two calls
nothing runs, and the registered ids are those of the parameters, each once.
-/

namespace Metrology

open Formula

/-! ## Calls -/

namespace Parameter

variable {α : Type}

/-- A change in place that keeps the id. -/
structure Change (α : Type) where
  apply : Parameter α → Attempt (Registry α) (Parameter α × List (Notification α))
  keeps : ∀ {parameter : Parameter α} {registry : Registry α} {changed : Parameter α}
    {told : List (Notification α)},
    ((apply parameter).start registry).1 = .ok (changed, told) → changed.id = parameter.id

theorem id_markStale (parameter : Parameter α) : parameter.markStale.id = parameter.id :=
  (setActiveState_eq _ _).1

theorem id_setState (parameter : Parameter α) (state : TrackState α) (track : Track) :
    (parameter.setState state track).id = parameter.id := by
  cases track <;> rfl

theorem id_setActive {parameter changed : Parameter α} {track : Track}
    (changes : parameter.setActive track = .ok changed) : changed.id = parameter.id := by
  rcases setActive_cases changes with rfl | ⟨_, _, rfl⟩
  · rfl
  · exact id_markStale _

variable [Scalar α]

theorem id_of_edit {parameter changed : Parameter α} {change : Edit α}
    {registry : Registry α} {told : List (Notification α)}
    (changes : ((parameter.edit change).start registry).1 = .ok (changed, told)) :
    changed.id = parameter.id := by
  cases change with
  | literal track value unit =>
      obtain ⟨amount, rfl, _⟩ := setLiteral_eq_ok changes
      exact id_setState _ _ _
  | formula track text unit =>
      cases changes
      exact id_setState _ _ _
  | active track => exact id_setActive (edit_active_eq_ok changes).1
  | clearOverride | markStale =>
      cases changes
      exact id_markStale _
  | notes text | modified author date | listen listener | look =>
      cases changes
      rfl

/-- The changes that the engine itself offers. -/
def Change.ofEdit (change : Edit α) : Change α :=
  ⟨fun parameter => parameter.edit change, id_of_edit⟩

end Parameter

namespace Store

variable {α : Type} [Scalar α]

/-- Change the parameter with an id in any way that keeps the id. -/
def changeAt (id : String) (change : Parameter.Change α) : Attempt (Store α) (Option Unit) := do
  match (← get).find? id with
  | none => return none
  | some parameter => do
      let (changed, told) ← onRegistry (change.apply parameter)
      modify fun store => { store with pool := store.pool.put changed told }
      return some ()

theorem edit_eq_changeAt (id : String) (change : Parameter.Edit α) :
    edit id change = changeAt id (.ofEdit change) := rfl

omit [Scalar α] in
theorem start_changeAt_of_none {store : Store α} {id : String} (change : Parameter.Change α)
    (missing : store.find? id = none) :
    (changeAt id change).start store = (.ok none, store) := by
  have asked : ((get : Attempt (Store α) (Store α)).start store).1 = .ok store := rfl
  rw [changeAt, Attempt.start_bind_of_ok asked, missing]
  rfl

omit [Scalar α] in
theorem start_changeAt_of_some {store : Store α} {id : String} (change : Parameter.Change α)
    {parameter : Parameter α} (found : store.find? id = some parameter) :
    (changeAt id change).start store =
      match (change.apply parameter).start store.registry with
      | (.error failure, registry) => (.error failure, { store with registry })
      | (.ok (changed, told), registry) =>
          (.ok (some ()), { store with registry, pool := store.pool.put changed told }) := by
  have asked : ((get : Attempt (Store α) (Store α)).start store).1 = .ok store := rfl
  rw [changeAt, Attempt.start_bind_of_ok asked, found]
  have applied : (onRegistry (change.apply parameter)).start store =
      (((change.apply parameter).start store.registry).1,
        { store with registry := ((change.apply parameter).start store.registry).2 }) := rfl
  rcases outcome : (change.apply parameter).start store.registry with
    ⟨failure | ⟨changed, told⟩, registry⟩
  · rw [outcome] at applied
    refine (Attempt.start_bind_of_error (congrArg Prod.fst applied)).trans ?_
    exact congrArg (fun run : _ × Store α => (Except.error failure, run.2)) applied
  · rw [outcome] at applied
    refine (Attempt.start_bind_of_ok (congrArg Prod.fst applied)).trans ?_
    rw [applied]
    rfl

/-- What may be asked of a store. -/
inductive Call (α : Type) where
  | register (parameter : Parameter α)
  | remove (id : String)
  | evaluate (id : String) (pass : PassToken)
  | updateAll (pass : PassToken)
  | change (id : String) (change : Parameter.Change α)

/-- The store after a call, whether the call succeeds or not. -/
def answering (store : Store α) : Call α → Store α
  | .register parameter => ((store.register parameter).toOption).getD store
  | .remove id => store.remove id
  | .evaluate id pass => (evaluate id pass store).2
  | .updateAll pass => (updateAll pass store).2
  | .change id change => ((changeAt id change).start store).2

/-- The store after calls. -/
def run (store : Store α) (calls : List (Call α)) : Store α :=
  calls.foldl answering store

end Store

namespace Workshop

variable {α : Type}

/-- Change a parameter where it is on the shelf. -/
def changeAt (id : String) (change : Parameter.Change α) (state : Registry α × Workshop α) :
    Registry α × Workshop α :=
  match state.2.shelf[id]? with
  | none => state
  | some parameter =>
      match (change.apply parameter).start state.1 with
      | (.error _, registry) => (registry, state.2)
      | (.ok (changed, told), registry) =>
          (registry, { state.2 with
            shelf := state.2.shelf.insert id changed
            notifications := state.2.notifications ++ told })

variable [Scalar α]

/-- A registry and a workshop after a call, whether the call succeeds or not. -/
def answering (table : FunctionTable α) (state : Registry α × Workshop α) :
    Store.Call α → Registry α × Workshop α
  | .register parameter => (state.1, ((state.2.register parameter).toOption).getD state.2)
  | .remove id => (state.1, state.2.remove id)
  | .evaluate id pass => ((evaluate table pass id).start state).2
  | .updateAll pass => evaluateEach table pass state.2.order state
  | .change id change => changeAt id change state

/-- A registry and a workshop after calls. -/
def run (table : FunctionTable α) (state : Registry α × Workshop α)
    (calls : List (Store.Call α)) : Registry α × Workshop α :=
  calls.foldl (answering table) state

end Workshop

/-! ## Mirrored calls -/

namespace Mirrors

variable {α : Type} {shop : Workshop α} {pool : Pool α}

theorem register (mirrors : Mirrors [] shop pool) {parameter : Parameter α}
    (free : parameter.id ∉ pool.ids) :
    Mirrors []
      { shop with
        shelf := shop.shelf.insert parameter.id parameter
        order := shop.order ++ [parameter.id] }
      { pool with parameters := pool.parameters ++ [parameter] } where
  order := by
    rw [mirrors.order]
    simp [Pool.ids]
  evaluating := mirrors.evaluating
  distinct := by
    have appended := mirrors.distinct.concat free
    rw [List.concat_eq_append] at appended
    simpa only [Pool.ids, List.map_append, List.map_cons, List.map_nil] using appended
  nodup := .nil
  registered := nofun
  off := nofun
  on id _ := by
    rw [lookup_insert, mirrors.on id List.not_mem_nil]
    unfold Pool.find?
    rw [List.find?_append]
    split
    · next equal =>
        subst equal
        have absent : pool.parameters.find? (·.id == parameter.id) = none :=
          Pool.find?_eq_none_iff.2 free
        simp [absent]
    · next different => simp [different]
  notifications := mirrors.notifications
  moments := mirrors.moments

theorem remove (mirrors : Mirrors [] shop pool) (id : String) :
    Mirrors []
      { shop with
        shelf := shop.shelf.erase id
        order := shop.order.filter (· ≠ id) }
      { pool with parameters := pool.parameters.filter (·.id != id) } where
  order := by
    have same : (fun parameter : Parameter α => parameter.id != id) =
        (fun name => decide (name ≠ id)) ∘ (·.id) := by
      funext parameter
      by_cases same : parameter.id = id <;> simp [same]
    simp only [mirrors.order, Pool.ids, List.filter_map, same]
  evaluating := mirrors.evaluating
  distinct := mirrors.distinct.sublist (List.filter_sublist.map _)
  nodup := .nil
  registered := nofun
  off := nofun
  on other _ := by
    rw [lookup_erase, mirrors.on other List.not_mem_nil]
    unfold Pool.find?
    rw [List.find?_filter]
    split
    · next equal =>
        subst equal
        symm
        rw [List.find?_eq_none]
        simp
    · next different =>
        congr 1
        funext parameter
        by_cases same : parameter.id = other
        · simp [same, Ne.symm different]
        · simp [same]
  notifications := mirrors.notifications
  moments := mirrors.moments

/-- Putting a changed parameter where it was. -/
theorem change (mirrors : Mirrors [] shop pool) {id : String} {new : Parameter α}
    (known : id ∈ pool.ids) (same : new.id = id) (told : List (Notification α)) :
    Mirrors []
      { shop with
        shelf := shop.shelf.insert id new
        notifications := shop.notifications ++ told }
      (pool.put new told) where
  order := mirrors.order.trans (Pool.ids_put _ _ _).symm
  evaluating := mirrors.evaluating
  distinct := by
    rw [Pool.ids_put]
    exact mirrors.distinct
  nodup := .nil
  registered := nofun
  off := nofun
  on other _ := insert_eq_put known same told fun _ => mirrors.on other List.not_mem_nil
  notifications := congrArg (· ++ told) mirrors.notifications
  moments := mirrors.moments

end Mirrors

namespace Stands

variable {α : Type} [Scalar α] {table : FunctionTable α} {state : Registry α × Workshop α}
  {store : Store α}

omit [Scalar α] in
theorem mem_shelf (stands : Stands table state store) (id : String) :
    id ∈ state.2.shelf ↔ id ∈ store.ids := by
  rw [stands.mirrors.mem_shelf]
  simp only [List.not_mem_nil, not_false_eq_true, and_true]
  rfl

omit [Scalar α] in
theorem register (stands : Stands table state store) (parameter : Parameter α) :
    Stands table (state.1, ((state.2.register parameter).toOption).getD state.2)
      (((store.register parameter).toOption).getD store) := by
  unfold Workshop.register Store.register
  have taken : (state.2.shelf.contains parameter.id ||
      state.2.evaluating.contains parameter.id) = store.ids.contains parameter.id := by
    rw [stands.mirrors.evaluating, Bool.eq_iff_iff]
    simp [stands.mem_shelf]
  rw [taken]
  split
  · exact stands
  · next free =>
      have absent : parameter.id ∉ store.ids := by simpa using free
      exact ⟨stands.table, stands.registry, stands.mirrors.register absent⟩

omit [Scalar α] in
theorem remove (stands : Stands table state store) (id : String) :
    Stands table (state.1, state.2.remove id) (store.remove id) := by
  refine ⟨stands.table, stands.registry, ?_⟩
  unfold Workshop.remove
  split
  · exact stands.mirrors.remove id
  · next absent =>
      have kept : store.pool.parameters.filter (·.id != id) = store.pool.parameters := by
        rw [List.filter_eq_self]
        intro parameter member
        have other : parameter.id ≠ id := by
          rintro rfl
          exact absent ((stands.mem_shelf _).2 (List.mem_map_of_mem member))
        simpa using other
      rw [Store.remove, kept]
      exact stands.mirrors

omit [Scalar α] in
theorem changeAt (stands : Stands table state store) (id : String)
    (change : Parameter.Change α) :
    Stands table (Workshop.changeAt id change state)
      ((Store.changeAt id change).start store).2 := by
  obtain ⟨tables, registry, mirrors⟩ := stands
  have shelved := mirrors.on id List.not_mem_nil
  unfold Workshop.changeAt
  rw [shelved, registry]
  cases found : store.pool.find? id with
  | none =>
      rw [Store.start_changeAt_of_none change found]
      exact ⟨tables, registry, mirrors⟩
  | some parameter =>
      have known : id ∈ store.pool.ids := Pool.mem_ids_of_find? found
      rw [Store.start_changeAt_of_some change found]
      simp only
      rcases outcome : (change.apply parameter).start store.registry with
        ⟨failure | ⟨changed, told⟩, grown⟩
      · exact ⟨tables, rfl, mirrors⟩
      · have same : changed.id = id :=
          (change.keeps (congrArg Prod.fst outcome)).trans (Pool.id_of_find? found)
        exact ⟨tables, rfl, mirrors.change known same told⟩

/-- Every call leaves the workshop with the parameters of the store. -/
theorem answering (stands : Stands table state store) (call : Store.Call α) :
    Stands table (Workshop.answering table state call) (store.answering call) := by
  cases call with
  | register parameter => exact stands.register parameter
  | remove id => exact stands.remove id
  | evaluate id pass => exact (stands.evaluate id pass).2.1
  | updateAll pass =>
      have ended := (stands.evaluateEach pass store.ids).1
      rw [Workshop.answering, stands.mirrors.order, Store.answering, Store.updateAll,
        Store.updateEach_snd]
      exact ended
  | change id change => exact stands.changeAt id change

theorem run (stands : Stands table state store) (calls : List (Store.Call α)) :
    Stands table (Workshop.run table state calls) (store.run calls) := by
  induction calls generalizing state store with
  | nil => exact stands
  | cons call later ih => exact ih (stands.answering call)

end Stands

/-! ## Order between calls -/

namespace Workshop

variable {α : Type}

/-- Nothing runs, no id is registered twice, the registered ids are those on the shelf,
and each of them is the id of the parameter that it finds. -/
structure Tidy (shop : Workshop α) : Prop where
  evaluating : shop.evaluating = []
  nodup : shop.order.Nodup
  mem_order : ∀ id, id ∈ shop.order ↔ id ∈ shop.shelf
  id_eq : ∀ (id : String) (parameter : Parameter α),
    shop.shelf[id]? = some parameter → parameter.id = id

end Workshop

namespace Mirrors

variable {α : Type} {shop : Workshop α} {pool : Pool α}

theorem tidy (mirrors : Mirrors [] shop pool) : shop.Tidy where
  evaluating := mirrors.evaluating
  nodup := by
    rw [mirrors.order]
    exact mirrors.distinct
  mem_order id := by
    rw [mirrors.order, mirrors.mem_shelf]
    simp
  id_eq id parameter found := by
    rw [mirrors.on id List.not_mem_nil] at found
    exact Pool.id_of_find? found

end Mirrors

namespace Workshop

variable {α : Type} [Scalar α]

/-- Whatever has been asked of a store, it is tidy between calls, and while it resolves
each registered parameter is on the shelf or runs.  Refreshing keeps all parameters in
their order.  The store of the engine has the same parameters, and answers the same. -/
theorem run_tidy (registry : Registry α) (table : FunctionTable α)
    (calls : List (Store.Call α)) :
    let after := run table (registry, .empty) calls
    let store := (Store.empty registry table).run calls
    after.2.Tidy ∧ (∀ moment ∈ after.2.moments, moment.Balanced) ∧
      (∀ id pass, (answering table after (.evaluate id pass)).2.order = after.2.order) ∧
      (∀ pass, (answering table after (.updateAll pass)).2.order = after.2.order) ∧
      after.1 = store.registry ∧ after.2.parameters = store.pool.parameters ∧
      after.2.notifications = store.pool.notifications ∧
      ∀ id pass, ((evaluate table pass id).start after).1 = (store.evaluate id pass).1 := by
  have start : Stands table ((registry, .empty) : Registry α × Workshop α)
      (Store.empty registry table) := ⟨rfl, rfl, .empty⟩
  intro after store
  have stands : Stands table after store := start.run calls
  refine ⟨stands.mirrors.tidy, stands.mirrors.moments, fun id pass => ?_, fun pass => ?_,
    stands.registry, stands.mirrors.parameters_eq, stands.mirrors.notifications,
    fun id pass => (stands.evaluate id pass).1⟩
  · obtain ⟨_, later, same⟩ := stands.evaluate id pass
    exact later.mirrors.order.trans (same.trans stands.mirrors.order.symm)
  · obtain ⟨later, same⟩ := stands.evaluateEach pass after.2.order
    exact later.mirrors.order.trans (same.trans stands.mirrors.order.symm)

/-- The circle is met when nothing is left on the shelf, and in the end all is back. -/
example :
    ((run .standard ((Store.unitless []).registry, (.empty : Workshop ℚ))
      [.register (.formula "chicken" "[egg]" ""), .register (.formula "egg" "[chicken]" ""),
        .evaluate "chicken" ⟨1⟩]).2.moments.map fun moment =>
          (moment.id, moment.shelved, moment.running)) =
      [("chicken", ["chicken", "egg"], []), ("chicken", ["egg"], ["chicken"]),
        ("egg", ["egg"], ["chicken"]), ("egg", [], ["chicken", "egg"]),
        ("chicken", [], ["chicken", "egg"]), ("chicken", [], ["chicken", "egg"]),
        ("egg", ["egg"], ["chicken"]), ("chicken", ["chicken", "egg"], [])] := by
  decide +kernel

end Workshop

end Metrology
