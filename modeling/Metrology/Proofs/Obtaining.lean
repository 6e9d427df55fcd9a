import Metrology.Parameter.Record
import Metrology.Proofs.Calls
import Metrology.Proofs.Growth
import Metrology.Proofs.OncePerPass

/-!
# Parameters that can be obtained

However a parameter came about, what it remembers of its last pass agrees with what
it holds.  A pass refreshes parameters and does nothing else to them, so a store whose
parameters could be obtained stays such a store.
-/

namespace Metrology

open Formula

variable {α : Type}

/-! ## One parameter -/

namespace Parameter

/-- What a parameter remembers of its last pass is true: it failed exactly when
nothing is buffered. -/
def Faithful (parameter : Parameter α) : Prop :=
  parameter.tracer.isSome = true →
    parameter.lastError.isNone = parameter.activeState.cached.isSome

theorem faithful_of_untraced {parameter : Parameter α} (untraced : parameter.tracer = none) :
    parameter.Faithful := by
  intro traced
  rw [untraced] at traced
  cases traced

theorem faithful_forget (parameter : Parameter α) : parameter.forget.Faithful :=
  faithful_of_untraced rfl

theorem faithful_markStale (parameter : Parameter α) : parameter.markStale.Faithful :=
  faithful_of_untraced (setActiveState_eq _ _).2.1

theorem Faithful.setActive {parameter changed : Parameter α} (faithful : parameter.Faithful)
    {track : Track} (changes : parameter.setActive track = .ok changed) :
    changed.Faithful := by
  rcases setActive_cases changes with rfl | ⟨_, _, rfl⟩
  · exact faithful
  · exact faithful_markStale _

theorem Holds.faithful {parameter : Parameter α} {outcome : Except Error (Amount α)}
    (holds : parameter.Holds outcome) : parameter.Faithful := by
  intro _
  rw [holds.lastError, holds.cached]
  cases outcome <;> rfl

variable [Scalar α]

theorem Faithful.edit {parameter changed : Parameter α} (faithful : parameter.Faithful)
    {change : Edit α} {told : List (Notification α)} {registry : Registry α}
    (changes : ((parameter.edit change).start registry).1 = .ok (changed, told)) :
    changed.Faithful := by
  cases change with
  | literal track value unit =>
      obtain ⟨amount, rfl, _⟩ := setLiteral_eq_ok changes
      exact faithful_forget _
  | formula track text unit =>
      cases changes
      exact faithful_forget _
  | active track => exact faithful.setActive (edit_active_eq_ok changes).1
  | clearOverride | markStale =>
      cases changes
      exact faithful_markStale _
  | notes text | modified author date | listen listener | look =>
      cases changes
      exact faithful

/-- A refresh leaves its own outcome, or the one that it finds. -/
theorem Faithful.refresh {parameter : Parameter α} (faithful : parameter.Faithful) {σ : Type}
    (table : FunctionTable α) (pass : PassToken) (resolve : Resolver α σ)
    (state : Registry α × σ) :
    (parameter.refresh table pass resolve state).1.parameter.Faithful := by
  unfold Parameter.refresh
  split
  · exact faithful
  · refine (takeUp_holds parameter.counted pass fun nothing => ?_).faithful
    rw [(counted_eq parameter).2.1]
    exact recompute_eq_none nothing

/-- The parameters that can be obtained: made with a literal or a formula, or read
from a line, and then named, changed and refreshed. -/
inductive Obtained : Parameter α → Prop where
  | literal {id : String} {value : α} {unit : String} {registry : Registry α}
      {parameter : Parameter α}
      (buffers : ((Parameter.literal id value unit).start registry).1 = .ok parameter) :
      Obtained parameter
  | formula (id text unit : String) : Obtained (.formula id text unit)
  | loaded {line : String} {parameter : Parameter α}
      (reads : Parameter.ofLine line = .ok parameter) : Obtained parameter
  | named {parameter : Parameter α} (obtained : Obtained parameter) (name : String) :
      Obtained { parameter with name := some name }
  | edited {parameter : Parameter α} (obtained : Obtained parameter) {change : Edit α}
      {registry : Registry α} {changed : Parameter α} {told : List (Notification α)}
      (changes : ((parameter.edit change).start registry).1 = .ok (changed, told)) :
      Obtained changed
  | refreshed {parameter : Parameter α} (obtained : Obtained parameter) {σ : Type}
      (table : FunctionTable α) (pass : PassToken) (resolve : Resolver α σ)
      (state : Registry α × σ) :
      Obtained (parameter.refresh table pass resolve state).1.parameter

theorem tracer_of_ofFields {fields : List String} {parameter : Parameter α}
    (reads : Parameter.ofFields fields = .ok parameter) : parameter.tracer = none := by
  unfold Parameter.ofFields at reads
  obtain ⟨overridden, _, made⟩ := exists_of_bind_eq_ok reads
  split at made
  · cases made
  · cases made
    rfl

theorem Obtained.faithful {parameter : Parameter α} (obtained : Obtained parameter) :
    parameter.Faithful := by
  induction obtained with
  | literal buffers =>
      obtain ⟨amount, _, rfl⟩ := literal_eq_ok buffers
      exact faithful_of_untraced rfl
  | formula id text unit => exact faithful_of_untraced rfl
  | loaded reads => exact faithful_of_untraced (tracer_of_ofFields reads)
  | named _ _ faithful => exact faithful
  | edited _ changes faithful => exact faithful.edit changes
  | refreshed _ table pass resolve state faithful =>
      exact faithful.refresh table pass resolve state

end Parameter

/-! ## All parameters of a store -/

namespace Pool

/-- All parameters of a pool have a property. -/
def Every (holds : Parameter α → Prop) (pool : Pool α) : Prop :=
  ∀ parameter ∈ pool.parameters, holds parameter

namespace Every

variable {holds : Parameter α → Prop} {pool : Pool α}

theorem of_find? (every : pool.Every holds) {id : String} {parameter : Parameter α}
    (found : pool.find? id = some parameter) : holds parameter :=
  every parameter (mem_of_find? found)

theorem put (every : pool.Every holds) {parameter : Parameter α} (held : holds parameter)
    (told : List (Notification α)) : (pool.put parameter told).Every holds := by
  intro other member
  obtain ⟨old, present, rfl⟩ := List.mem_map.1 member
  split
  · exact held
  · exact every old present

end Every

end Pool

namespace Store

variable [Scalar α] {holds : Parameter α → Prop}

section Resolving

variable {table : FunctionTable α} {pass : PassToken}
  (closed : ∀ parameter (resolve : Resolver α (Pool α)) state, holds parameter →
    holds (parameter.refresh table pass resolve state).1.parameter)
include closed

/-- What refreshing keeps of each parameter, resolving keeps of all. -/
theorem resolve_keeps_every (idle running : List String) (id : String)
    (registry : Registry α) {pool : Pool α} (every : pool.Every holds) :
    ((resolve table pass idle running id).start (registry, pool)).2.2.Every holds := by
  induction idle, running, id, pool using request_induction generalizing registry with
  | circular started =>
      rw [resolve_of_running started]
      exact every
  | unknown started unknown =>
      rw [resolve_of_unknown started unknown]
      exact every
  | @start idle running id pool parameter started startable found ih =>
      have nested : ∀ name, (Discipline.always (Pool.Every holds)).Keeps
          (resolve table pass (idle.erase id) (running ++ [id]) name) :=
        fun name registry pool every => Discipline.after_always.2 (ih name pool registry every)
      rw [resolve_of_found started startable found]
      refine Pool.Every.put ?_ (closed parameter _ _ (every.of_find? found)) _
      unfold Parameter.refresh
      split
      · exact every
      · exact Discipline.after_always.1
          (Parameter.recompute_keeps (fun _ _ => Discipline.keeps_always_ofExcept _) _
            (fun name _ => nested name) registry pool every)

end Resolving

/-- What refreshing keeps of each parameter, a pass keeps of all. -/
theorem updateEach_keeps_every {pass : PassToken}
    (closed : ∀ parameter table (resolve : Resolver α (Pool α)) state, holds parameter →
      holds (parameter.refresh table pass resolve state).1.parameter)
    (ids : List String) {store : Store α} (every : store.pool.Every holds) :
    (updateEach pass ids store).2.pool.Every holds := by
  induction ids generalizing store with
  | nil => exact every
  | cons id rest ih =>
      rw [updateEach_cons]
      refine ih ?_
      rw [evaluate_eq]
      exact resolve_keeps_every (fun parameter => closed parameter store.table) store.ids []
        id store.registry every

/-- Parameters that are handed over and changed come from where parameters can
come from. -/
def Call.Genuine : Call α → Prop
  | .register parameter => Parameter.Obtained parameter
  | .change _ work => ∀ parameter registry changed told, Parameter.Obtained parameter →
      ((work.apply parameter).start registry).1 = .ok (changed, told) →
      Parameter.Obtained changed
  | _ => True

theorem genuine_ofEdit (id : String) (change : Parameter.Edit α) :
    (Call.change id (.ofEdit change)).Genuine :=
  fun _ _ _ _ obtained changes => obtained.edited changes

theorem answering_obtained {store : Store α} (every : store.pool.Every Parameter.Obtained)
    {call : Call α} (genuine : call.Genuine) :
    (store.answering call).pool.Every Parameter.Obtained := by
  cases call with
  | register parameter =>
      rw [answering, register]
      split
      · exact every
      · intro other member
        rcases List.mem_append.1 member with old | new
        · exact every other old
        · rw [List.mem_singleton.1 new]
          exact genuine
  | remove id => exact fun parameter member => every parameter (List.mem_filter.1 member).1
  | evaluate id pass =>
      rw [answering, evaluate_eq]
      exact resolve_keeps_every
        (fun _ resolve state obtained => obtained.refreshed store.table pass resolve state)
        store.ids [] id store.registry every
  | updateAll pass =>
      exact updateEach_keeps_every
        (fun _ table resolve state obtained => obtained.refreshed table pass resolve state)
        store.ids every
  | change id change =>
      rw [answering]
      cases found : store.find? id with
      | none =>
          rw [start_changeAt_of_none change found]
          exact every
      | some parameter =>
          rw [start_changeAt_of_some change found]
          rcases outcome : (change.apply parameter).start store.registry with
            ⟨failure | ⟨changed, told⟩, registry⟩
          · exact every
          · exact every.put (genuine parameter _ changed told (every.of_find? found)
              (congrArg Prod.fst outcome)) told

/-- The stores that calls lead to from the empty one. -/
theorem run_obtained (registry : Registry α) (table : FunctionTable α) {calls : List (Call α)}
    (genuine : ∀ call ∈ calls, call.Genuine) :
    ((empty registry table).run calls).pool.Every Parameter.Obtained := by
  suffices reached : ∀ store : Store α, store.pool.Every Parameter.Obtained →
      (store.run calls).pool.Every Parameter.Obtained from
    reached _ fun _ member => absurd member List.not_mem_nil
  induction calls with
  | nil => exact fun _ every => every
  | cons call later ih =>
      intro store every
      exact ih (fun other member => genuine other (List.mem_cons_of_mem _ member)) _
        (answering_obtained every (genuine call List.mem_cons_self))

theorem nodup_ids_run (registry : Registry α) (table : FunctionTable α)
    (calls : List (Call α)) : ((empty registry table).run calls).ids.Nodup := by
  have start : Stands table ((registry, .empty) : Registry α × Workshop α)
      (empty registry table) := ⟨rfl, rfl, .empty⟩
  exact (start.run calls).mirrors.distinct

end Store

end Metrology
