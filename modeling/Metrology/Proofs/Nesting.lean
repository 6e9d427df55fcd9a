import Metrology.Proofs.Calls
import Metrology.Proofs.OncePerPass

/-!
# Nested requests

The formula of a parameter asks for others, whose formulas may ask again.  Whoever runs
is off the shelf, so each nested request finds one parameter less there.  However the
formulas refer to one another, requests are nested no deeper than the number of
registered parameters and one more.
-/

namespace Metrology

open Formula

/-! ## Unrolling -/

namespace Workshop

variable {α : Type} [Scalar α]

/-- Resolving with its recursion unrolled: requests that are nested `depth` deep are
handed to whatever is below. -/
def unrolled (table : FunctionTable α) (pass : PassToken) (below : Resolver α (Workshop α)) :
    Nat → Resolver α (Workshop α)
  | 0 => below
  | depth + 1 => witnessed (attend table pass (unrolled table pass below depth))

theorem resolve_eq_unrolled (table : FunctionTable α) (pass : PassToken) (depth : Nat) :
    resolve table pass depth =
      unrolled table pass (fun id => throw (.unknownParameter id)) depth := by
  induction depth with
  | zero => rfl
  | succ depth ih => rw [resolve, unrolled, ih]

/-- Bring parameters up to date one after another and collect the failures. -/
def updateEach (resolve : Resolver α (Workshop α)) :
    List String → StateM (Registry α × Workshop α) (List (String × Error))
  | [] => return []
  | id :: rest => fun state =>
      let (outcome, next) := (resolve id).start state
      let (failures, last) := updateEach resolve rest next
      match outcome with
      | .ok _ => (failures, last)
      | .error failure => ((id, failure) :: failures, last)

end Workshop

/-! ## Where the parameters are -/

section Places

variable {α : Type}

/-- A workshop with some ids on the shelf while others run, and what has been seen since
`seen`: every registered parameter was on the shelf or ran, and was in one place. -/
structure Placed (ids idle running : List String) (seen : List (Moment α))
    (shop : Workshop α) : Prop where
  order : shop.order = ids
  evaluating : shop.evaluating = running
  mem_shelf : ∀ id, id ∈ shop.shelf ↔ id ∈ idle
  nodup : idle.Nodup
  length : idle.length + running.length = ids.length
  moments : ∃ later, shop.moments = seen ++ later ∧ ∀ moment ∈ later,
    moment.order = ids ∧ moment.shelved.length + moment.running.length = ids.length

namespace Placed

variable {ids idle running : List String} {seen : List (Moment α)} {shop : Workshop α}

theorem length_keys (placed : Placed ids idle running seen shop) :
    shop.shelf.keys.length = idle.length := by
  refine (List.Perm.length_eq ((List.perm_ext_iff_of_nodup ?_ placed.nodup).2 fun id => ?_))
  · refine Std.TreeMap.distinct_keys.imp fun different equal => ?_
    exact different (Std.LawfulEqCmp.compare_eq_iff_eq.2 equal)
  · rw [Std.TreeMap.mem_keys, placed.mem_shelf]

theorem note (placed : Placed ids idle running seen shop) (act : Act α) (id : String) :
    Placed ids idle running seen (shop.note act id) where
  order := placed.order
  evaluating := placed.evaluating
  mem_shelf := placed.mem_shelf
  nodup := placed.nodup
  length := placed.length
  moments := by
    obtain ⟨later, moments, measured⟩ := placed.moments
    refine ⟨later ++ [⟨act, id, shop.order, shop.shelf.keys, shop.evaluating⟩], ?_, ?_⟩
    · rw [Workshop.note, moments, List.append_assoc]
    · intro moment member
      rcases List.mem_append.1 member with earlier | present
      · exact measured moment earlier
      · rw [List.mem_singleton.1 present]
        refine ⟨placed.order, ?_⟩
        rw [placed.length_keys, placed.evaluating, placed.length]

/-- Whoever starts leaves one parameter less on the shelf. -/
theorem start (placed : Placed ids idle running seen shop) {id : String}
    (waiting : id ∈ idle) :
    Placed ids (idle.erase id) (running ++ [id]) seen (shop.start id) where
  order := placed.order
  evaluating := congrArg (· ++ [id]) placed.evaluating
  mem_shelf other := by
    rw [placed.nodup.mem_erase_iff, ← placed.mem_shelf, Workshop.start, Std.TreeMap.mem_erase,
      Ne, Std.LawfulEqCmp.compare_eq_iff_eq, eq_comm]
  nodup := placed.nodup.erase id
  length := by
    have one := List.length_erase_add_one waiting
    have whole := placed.length
    rw [List.length_append, List.length_singleton]
    omega
  moments := placed.moments

/-- Whoever ran is put back. -/
theorem finish {id : String} (waiting : id ∈ idle) (nodup : idle.Nodup)
    (placed : Placed ids (idle.erase id) (running ++ [id]) seen shop)
    (parameter : Parameter α) (told : List (Notification α)) :
    Placed ids idle running seen (shop.finish id parameter told) where
  order := placed.order
  evaluating := by rw [Workshop.finish, placed.evaluating, List.dropLast_concat]
  mem_shelf other := by
    rw [Workshop.finish, Std.TreeMap.mem_insert, placed.mem_shelf, nodup.mem_erase_iff,
      Std.LawfulEqCmp.compare_eq_iff_eq]
    by_cases same : id = other
    · simp [same ▸ waiting, same]
    · simp [same, Ne.symm same]
  nodup := nodup
  length := by
    have one := List.length_erase_add_one waiting
    have whole := placed.length
    rw [List.length_append, List.length_singleton] at whole
    omega
  moments := placed.moments

end Placed

end Places

/-! ## Nested requests -/

section Nesting

variable {α : Type}

/-- Two runs of a workshop that are the same, with the places of all parameters. -/
def nesting (ids idle running : List String) (seen : List (Moment α)) :
    Coupling (Registry α × Workshop α) (Registry α × Workshop α) where
  states first second := first = second ∧ Placed ids idle running seen first.2
  failures := Eq
  failures_refl _ := rfl
  excused _ := False

variable [Scalar α] {table : FunctionTable α} {pass : PassToken} {ids idle running : List String}
  {seen : List (Moment α)}

theorem normalizing_nesting (expression : String) :
    (nesting (α := α) ids idle running seen).InStep Eq
      (Attempt.onFirst (Registry.normalizing expression))
      (Attempt.onFirst (Registry.normalizing expression)) := by
  refine Coupling.inStep_onFirst _ ?_
  rintro ⟨registry, shop⟩ _ ⟨rfl, placed⟩
  exact ⟨rfl, rfl, placed⟩

omit [Scalar α] in
/-- Two runs that are the same are equal. -/
theorem nesting_eq {left right : Resolver α (Workshop α)} {id : String}
    (inStep : (nesting ids idle running seen).InStep Eq (left id) (right id))
    {state : Registry α × Workshop α} (placed : Placed ids idle running seen state.2) :
    (left id).start state = (right id).start state ∧
      Placed ids idle running seen ((left id).start state).2.2 := by
  rcases inStep state state ⟨rfl, placed⟩ with ⟨_, _, excuse⟩ | ⟨outcomes, states, after⟩
  · exact excuse.elim
  · exact ⟨Prod.ext (Coupling.eq_of_outcomes _ (fun equal => equal) outcomes) states, after⟩

omit [Scalar α] in
theorem witnessed_nesting {left right : Resolver α (Workshop α)} {id : String}
    (inStep : (nesting ids idle running seen).InStep Eq (left id) (right id)) :
    (nesting ids idle running seen).InStep Eq (Workshop.witnessed left id)
      (Workshop.witnessed right id) := by
  rintro ⟨registry, shop⟩ _ ⟨rfl, placed⟩
  obtain ⟨equal, after⟩ := nesting_eq inStep
    (show Placed ids idle running seen (registry, shop.note .asked id).2 from
      placed.note .asked id)
  right
  have same : (Workshop.witnessed left id).start (registry, shop) =
      (Workshop.witnessed right id).start (registry, shop) :=
    congrArg (fun run : Except Error (Amount α) × Registry α × Workshop α =>
      (run.1, run.2.1, run.2.2.note (.answered run.1) id)) equal
  rw [same]
  refine ⟨Coupling.outcomes_refl _, rfl, ?_⟩
  rw [← same]
  exact after.note _ id

/-- Requests are answered alike if those that are nested in them are, with whoever runs
off the shelf. -/
theorem attend_nesting {left right : Resolver α (Workshop α)} {id : String}
    (inStep : id ∈ idle → ∀ name,
      (nesting ids (idle.erase id) (running ++ [id]) seen).InStep Eq (left name) (right name)) :
    (nesting ids idle running seen).InStep Eq (Workshop.attend table pass left id)
      (Workshop.attend table pass right id) := by
  rintro ⟨registry, shop⟩ _ ⟨rfl, placed⟩
  right
  by_cases started : id ∈ shop.evaluating
  · rw [attend_of_running started, attend_of_running started]
    exact ⟨Coupling.outcomes_refl _, rfl, placed⟩
  cases found : shop.shelf[id]? with
  | none =>
      rw [attend_of_unknown started found, attend_of_unknown started found]
      exact ⟨Coupling.outcomes_refl _, rfl, placed⟩
  | some parameter =>
      have waiting : id ∈ idle := by
        rw [← placed.mem_shelf, ← Std.TreeMap.isSome_getElem?_iff_mem, found]
        rfl
      have begun : (nesting ids (idle.erase id) (running ++ [id]) seen).states
          (registry, (shop.start id).note .started id)
          (registry, (shop.start id).note .started id) :=
        ⟨rfl, (placed.start waiting).note .started id⟩
      obtain ⟨refreshed, states, after⟩ := parameter.refresh_inStep table pass
        (fun equal => equal) (fun _ excuse => excuse) normalizing_nesting (inStep waiting) begun
      rw [attend_of_found started found, attend_of_found started found]
      simp only [refreshed, states] at after ⊢
      exact ⟨Coupling.outcomes_refl _, rfl, after.finish waiting placed.nodup _ _⟩

/-- Unrolled deeper than there are parameters on the shelf, resolving does not reach what
is below: each request is nested in one that took a parameter off the shelf. -/
theorem unrolled_nesting {below other : Resolver α (Workshop α)} {depth : Nat}
    (enough : idle.length < depth) (id : String) :
    (nesting ids idle running seen).InStep Eq (Workshop.unrolled table pass below depth id)
      (Workshop.unrolled table pass other depth id) := by
  induction depth generalizing idle running id with
  | zero => exact absurd enough (Nat.not_lt_zero _)
  | succ depth ih =>
      refine witnessed_nesting (attend_nesting fun waiting name => ih ?_ name)
      have one := List.length_erase_add_one waiting
      omega

end Nesting

/-! ## Calls -/

namespace Workshop

variable {α : Type}

/-- From one workshop to a later one, each of `size` parameters was on the shelf or ran
at each moment.  So what was asked then was nested in at most `size` requests. -/
def Nests (size : Nat) (before after : Workshop α) : Prop :=
  ∃ later, after.moments = before.moments ++ later ∧
    ∀ moment ∈ later, moment.shelved.length + moment.running.length = size

theorem Nests.refl (size : Nat) (shop : Workshop α) : Nests size shop shop :=
  ⟨[], (List.append_nil _).symm, nofun⟩

theorem Nests.trans {size : Nat} {before between after : Workshop α}
    (first : Nests size before between) (second : Nests size between after) :
    Nests size before after := by
  obtain ⟨early, earlySeen, earlySize⟩ := first
  obtain ⟨late, lateSeen, lateSize⟩ := second
  refine ⟨early ++ late, by rw [lateSeen, earlySeen, List.append_assoc], ?_⟩
  intro moment member
  exact (List.mem_append.1 member).elim (earlySize moment) (lateSize moment)

end Workshop

namespace Stands

variable {α : Type} [Scalar α] {table : FunctionTable α} {state : Registry α × Workshop α}
  {store : Store α}

omit [Scalar α] in
/-- Between calls all parameters are on the shelf. -/
theorem placed (stands : Stands table state store) :
    Placed store.ids store.ids [] state.2.moments state.2 where
  order := stands.mirrors.order
  evaluating := stands.mirrors.evaluating
  mem_shelf := stands.mem_shelf
  nodup := stands.mirrors.distinct
  length := rfl
  moments := ⟨[], (List.append_nil _).symm, nofun⟩

omit [Scalar α] in
theorem length_ids (store : Store α) : store.ids.length = store.size :=
  List.length_map _

/-- One request, with its recursion unrolled. -/
theorem evaluate_unrolled (stands : Stands table state store) (pass : PassToken)
    (below : Resolver α (Workshop α)) (id : String) :
    (Workshop.unrolled table pass below (store.size + 1) id).start state =
        ((Store.evaluate id pass store).1,
          ((Workshop.evaluate table pass id).start state).2) ∧
      Workshop.Nests store.size state.2
        ((Workshop.evaluate table pass id).start state).2.2 := by
  have enough : store.ids.length < store.size + 1 := by
    rw [length_ids]
    exact Nat.lt_succ_self _
  have inStep := @unrolled_nesting α _ table pass store.ids store.ids [] state.2.moments below
    (fun id => throw (.unknownParameter id)) _ enough id
  obtain ⟨same, after⟩ := nesting_eq inStep stands.placed
  have requested : (Workshop.unrolled table pass below (store.size + 1) id).start state =
      (Workshop.evaluate table pass id).start state := by
    rw [same, Workshop.start_evaluate, Workshop.resolve_eq_unrolled, stands.mirrors.order]
    exact congrArg (fun size => (Workshop.unrolled table pass _ (size + 1) id).start state)
      (length_ids store).symm
  rw [requested] at after ⊢
  refine ⟨Prod.ext (stands.evaluate id pass).1 rfl, ?_⟩
  obtain ⟨later, moments, measured⟩ := after.moments
  refine ⟨later, moments, fun moment member => ?_⟩
  rw [(measured moment member).2, length_ids]

/-- A row of requests, with their recursion unrolled. -/
theorem updateEach_unrolled (stands : Stands table state store) (pass : PassToken)
    (below : Resolver α (Workshop α)) (requests : List String) :
    Workshop.updateEach (Workshop.unrolled table pass below (store.size + 1)) requests state =
        ((Store.updateEach pass requests store).1,
          Workshop.evaluateEach table pass requests state) ∧
      Workshop.Nests store.size state.2
        (Workshop.evaluateEach table pass requests state).2 := by
  induction requests generalizing state store with
  | nil => exact ⟨rfl, .refl _ _⟩
  | cons id rest ih =>
      obtain ⟨one, nests⟩ := stands.evaluate_unrolled pass below id
      obtain ⟨_, after, same⟩ := stands.evaluate id pass
      have size : (Store.evaluate id pass store).2.size = store.size := by
        rw [← length_ids, same, length_ids]
      obtain ⟨others, nestsLater⟩ := ih after
      rw [size] at others nestsLater
      refine ⟨?_, nests.trans nestsLater⟩
      rw [Workshop.updateEach]
      simp only [one, others]
      rw [Store.updateEach_cons]
      cases (Store.evaluate id pass store).1 <;> rfl

/-- The recursion has one solution: whatever answers its own nested requests gives these
answers. -/
theorem evaluate_of_recursive (stands : Stands table state store) {pass : PassToken}
    {resolve : Resolver α (Workshop α)}
    (recursive : resolve = Workshop.witnessed (Workshop.attend table pass resolve))
    (id : String) :
    (resolve id).start state = ((Store.evaluate id pass store).1,
      ((Workshop.evaluate table pass id).start state).2) := by
  have unrolled (depth : Nat) : Workshop.unrolled table pass resolve depth = resolve := by
    induction depth with
    | zero => rfl
    | succ depth ih => rw [Workshop.unrolled, ih, ← recursive]
  rw [← (stands.evaluate_unrolled pass resolve id).1, unrolled]

end Stands

namespace Workshop

variable {α : Type} [Scalar α]

/-- Whatever has been asked of a store, and whatever its formulas are, every later request
and every pass returns what the store returns, with the recursion unrolled just once more
than there are parameters.  What would answer nested requests below, be it something that
leaves its mark, is never asked, since every request that runs holds a parameter. -/
theorem run_nests (registry : Registry α) (table : FunctionTable α)
    (calls : List (Store.Call α)) (pass : PassToken) (below : Resolver α (Workshop α)) :
    let after := run table (registry, .empty) calls
    let store := (Store.empty registry table).run calls
    let resolve := unrolled table pass below (store.size + 1)
    (∀ id, (resolve id).start after =
          ((store.evaluate id pass).1, answering table after (.evaluate id pass)) ∧
        Nests store.size after.2 (answering table after (.evaluate id pass)).2) ∧
      updateEach resolve after.2.order after =
        ((store.updateAll pass).1, answering table after (.updateAll pass)) ∧
      Nests store.size after.2 (answering table after (.updateAll pass)).2 := by
  have start : Stands table ((registry, .empty) : Registry α × Workshop α)
      (Store.empty registry table) := ⟨rfl, rfl, .empty⟩
  intro after store resolve
  have stands : Stands table after store := start.run calls
  refine ⟨fun id => stands.evaluate_unrolled pass below id, ?_⟩
  have each := stands.updateEach_unrolled pass below after.2.order
  rw [Store.updateAll, answering]
  rwa [stands.mirrors.order] at each ⊢

end Workshop

end Metrology
