import Metrology.Proofs.Functions
import Metrology.Proofs.OncePerPass
import Metrology.Proofs.References
import Metrology.Proofs.Workshop

/-!
# Circular references

A circular reference that a pass reports is a circle of references, and everyone who
takes part in one that is met, or demands someone who did, ends without an amount.  While
such a failure is on its way out, those who still run have yet to fail; everybody else
has failed already.
-/

namespace Metrology

open Formula Relation

variable {α : Type}

/-! ## Caught parameters -/

theorem Error.code_eq_circular_iff (failure : Error) :
    failure.code = "CIRCULAR_REF" ↔ failure.isCircular = true := by
  cases failure <;> simp [code, isCircular]

namespace Parameter

/-- Nothing is buffered, and the last failure is a circular reference. -/
def Caught (parameter : Parameter α) : Prop :=
  parameter.activeState.cached = none ∧
    parameter.lastError.map Error.code = some "CIRCULAR_REF"

theorem Holds.caught_iff {parameter : Parameter α} {outcome : Except Error (Amount α)}
    (holds : parameter.Holds outcome) : parameter.Caught ↔ ¬Settled outcome := by
  unfold Caught
  rw [holds.cached, holds.lastError]
  cases outcome with
  | ok amount => simp [Except.toOption]
  | error failure =>
      simp [Except.toOption, failure?, Settled, Error.code_eq_circular_iff]

theorem settled_result_iff (parameter : Parameter α)
    (recomputed : Except Error (Option (Amount α))) :
    Settled (parameter.result recomputed) ↔ Settled recomputed := by
  match recomputed with
  | .error failure => exact Iff.rfl
  | .ok (some fresh) => exact Iff.rfl
  | .ok none =>
      refine iff_of_true ?_ trivial
      change Settled parameter.amount
      unfold amount
      split
      · trivial
      · rfl

variable [Scalar α]

/-- A parameter that has been refreshed under a pass.  If it met a circular reference, it
was a circle of the pool that the pass began with. -/
structure Served (start : Pool α) (pass : PassToken) (parameter : Parameter α) : Prop where
  tracer : parameter.tracer = some pass
  holds : parameter.Holds parameter.outcome
  circle : ∀ listed, parameter.outcome = .error (.circular listed) → start.Circle listed

/-- A parameter that takes up an outcome is served. -/
theorem takeUp_served {start : Pool α} (pass : PassToken) (parameter : Parameter α)
    {recomputed : Except Error (Option (Amount α))}
    (buffered : recomputed = .ok none → parameter.activeState.cached.isSome = true)
    (circle : ∀ listed, recomputed = .error (.circular listed) → start.Circle listed) :
    let taken := (parameter.counted.takeUp pass recomputed).parameter
    Served start pass taken ∧ (Settled taken.outcome ↔ Settled recomputed) := by
  obtain ⟨_, sameState, sameResult⟩ := counted_eq parameter
  have holds := takeUp_holds parameter.counted pass (by rwa [sameState])
  rw [sameResult] at holds
  intro taken
  have outcome : taken.outcome = parameter.result recomputed := holds.outcome_eq
  refine ⟨⟨(takeUp_eq _ _ _).2.1, by rwa [outcome], ?_⟩, ?_⟩
  · intro listed circular
    rw [outcome] at circular
    cases recomputed with
    | error failure => exact circle listed (congrArg Except.error (Except.error.inj circular))
    | ok value =>
        have settled := (settled_result_iff parameter (.ok value)).2 trivial
        rw [circular] at settled
        cases settled
  · rw [outcome, settled_result_iff]

end Parameter

/-! ## Demands of a workshop -/

/-- The answer that a moment tells of. -/
def Moment.demand? (moment : Moment α) : Option (Demand α) :=
  match moment.act with
  | .answered outcome => some ⟨moment.running, moment.id, outcome⟩
  | _ => none

/-- What has been asked for, in the order of the answers. -/
def Workshop.demands (shop : Workshop α) : List (Demand α) :=
  shop.moments.filterMap Moment.demand?

namespace Workshop

@[simp]
theorem demands_note_asked (shop : Workshop α) (id : String) :
    (shop.note .asked id).demands = shop.demands := by
  simp [demands, note, Moment.demand?]

@[simp]
theorem demands_note_started (shop : Workshop α) (id : String) :
    (shop.note .started id).demands = shop.demands := by
  simp [demands, note, Moment.demand?]

@[simp]
theorem demands_note_answered (shop : Workshop α) (outcome : Except Error (Amount α))
    (id : String) :
    (shop.note (.answered outcome) id).demands =
      shop.demands ++ [⟨shop.evaluating, id, outcome⟩] := by
  simp [demands, note, Moment.demand?]

end Workshop

/-! ## The invariant of a pass -/

variable [Scalar α]

/-- What is known of a demand later in the pass.  Those in `pending` have yet to fail. -/
structure Demand.Accounted (start : Pool α) (pass : PassToken) (pending : String → Prop)
    (shop : Workshop α) (demand : Demand α) : Prop where
  /-- Who runs already is not granted. -/
  hit : demand.asked ∈ demand.running → ¬Settled demand.outcome
  /-- Who did not run is on the shelf now, with the same answer. -/
  served : demand.asked ∉ demand.running → demand.asked ∈ start.ids →
    ∃ parameter, shop.shelf[demand.asked]? = some parameter ∧
      parameter.Served start pass ∧ parameter.outcome = demand.outcome
  /-- Who ran while a circular reference was answered is caught. -/
  caught : ¬Settled demand.outcome → ∀ id ∈ demand.running, pending id ∨
    ∃ parameter, shop.shelf[id]? = some parameter ∧ parameter.Served start pass ∧
      parameter.Caught

/-- A pass over a pool is under way. -/
structure Proceeding (start : Pool α) (pass : PassToken) (running : List String)
    (pending : String → Prop) (shop : Workshop α) : Prop where
  evaluating : shop.evaluating = running
  off : ∀ id ∈ running, shop.shelf[id]? = none
  on : ∀ id old, start.find? id = some old → id ∉ running →
    ∃ parameter, shop.shelf[id]? = some parameter ∧
      (parameter = old ∨ parameter.Served start pass)
  missing : ∀ id, id ∉ start.ids → shop.shelf[id]? = none
  accounted : ∀ demand ∈ shop.demands, demand.Accounted start pass pending shop
  orderly : Orderly shop.demands

namespace Proceeding

variable {start : Pool α} {pass : PassToken} {running : List String}
  {pending : String → Prop} {shop : Workshop α}

theorem mono (proceeding : Proceeding start pass running pending shop)
    {more : String → Prop} (weaker : ∀ id, pending id → more id) :
    Proceeding start pass running more shop :=
  { proceeding with
    accounted := fun demand member =>
      { proceeding.accounted demand member with
        caught := fun circular id runs =>
          ((proceeding.accounted demand member).caught circular id runs).imp_left (weaker id) } }

/-- Only what is found on the shelf counts. -/
theorem congr (proceeding : Proceeding start pass running pending shop)
    {other : Workshop α} (evaluating : other.evaluating = shop.evaluating)
    (shelf : ∀ id : String, other.shelf[id]? = shop.shelf[id]?)
    (demands : other.demands = shop.demands) :
    Proceeding start pass running pending other where
  evaluating := evaluating.trans proceeding.evaluating
  off id runs := (shelf id).trans (proceeding.off id runs)
  on id old found waiting := by
    rw [shelf]
    exact proceeding.on id old found waiting
  missing id unknown := (shelf id).trans (proceeding.missing id unknown)
  accounted demand member := by
    rw [demands] at member
    obtain ⟨hit, served, caught⟩ := proceeding.accounted demand member
    exact ⟨hit, by rwa [shelf], fun circular id runs => by
      rw [shelf]
      exact caught circular id runs⟩
  orderly := by
    rw [demands]
    exact proceeding.orderly

/-- Taking a parameter off the shelf that has not been refreshed yet. -/
theorem started (proceeding : Proceeding start pass running pending shop) {id : String}
    {old : Parameter α} (found : shop.shelf[id]? = some old)
    (untraced : old.tracer ≠ some pass) :
    Proceeding start pass (running ++ [id]) pending (shop.start id) where
  evaluating := congrArg (· ++ [id]) proceeding.evaluating
  off other runs := by
    rw [lookup_start]
    split
    · rfl
    · next different =>
        refine proceeding.off other ?_
        simpa [Ne.symm different] using runs
  on other older known idle := by
    simp only [List.mem_append, List.mem_singleton, not_or] at idle
    rw [lookup_start, if_neg (Ne.symm idle.2)]
    exact proceeding.on other older known idle.1
  missing other unknown := by
    rw [lookup_start, proceeding.missing other unknown, ite_self]
  accounted demand member := by
    obtain ⟨hit, served, caught⟩ := proceeding.accounted demand member
    -- Whoever has been served is somebody else.
    have elsewhere {other : String} {parameter : Parameter α}
        (present : shop.shelf[other]? = some parameter) (done : parameter.Served start pass) :
        (shop.start id).shelf[other]? = some parameter := by
      rw [lookup_start, if_neg, present]
      rintro rfl
      rw [found] at present
      cases present
      exact untraced done.tracer
    refine ⟨hit, fun idle known => ?_, fun circular other runs => ?_⟩
    · obtain ⟨parameter, present, done, answer⟩ := served idle known
      exact ⟨parameter, elsewhere present done, done, answer⟩
    · refine (caught circular other runs).imp_right ?_
      rintro ⟨parameter, present, done, isCaught⟩
      exact ⟨parameter, elsewhere present done, done, isCaught⟩
  orderly := proceeding.orderly

/-- Putting the parameter that ran last back on the shelf. -/
theorem finished {id : String} {later : String → Prop}
    (proceeding : Proceeding start pass (running ++ [id]) pending shop)
    (waiting : id ∉ running) (known : id ∈ start.ids) {new : Parameter α}
    (served : new.Served start pass) (told : List (Notification α))
    (fails : ∀ other, pending other → later other ∨ (other = id ∧ new.Caught)) :
    Proceeding start pass running later (shop.finish id new told) where
  evaluating := by rw [Workshop.finish, proceeding.evaluating, List.dropLast_concat]
  off other runs := by
    rw [lookup_finish, if_neg]
    · exact proceeding.off other (List.mem_append_left _ runs)
    · rintro rfl
      exact waiting runs
  on other old found idle := by
    rw [lookup_finish]
    split
    · exact ⟨new, rfl, .inr served⟩
    · next different =>
        refine proceeding.on other old found ?_
        simp [idle, Ne.symm different]
  missing other unknown := by
    rw [lookup_finish, if_neg]
    · exact proceeding.missing other unknown
    · rintro rfl
      exact unknown known
  accounted demand member := by
    obtain ⟨hit, granted, caught⟩ := proceeding.accounted demand member
    have elsewhere {other : String} {parameter : Parameter α}
        (present : shop.shelf[other]? = some parameter) :
        (shop.finish id new told).shelf[other]? = some parameter := by
      rw [lookup_finish, if_neg, present]
      rintro rfl
      rw [proceeding.off id (by simp)] at present
      cases present
    refine ⟨hit, fun idle registered => ?_, fun circular other runs => ?_⟩
    · obtain ⟨parameter, present, rest⟩ := granted idle registered
      exact ⟨parameter, elsewhere present, rest⟩
    · rcases caught circular other runs with pends | ⟨parameter, present, rest⟩
      · refine (fails other pends).imp_right ?_
        rintro ⟨rfl, isCaught⟩
        exact ⟨new, by rw [lookup_finish, if_pos rfl], served, isCaught⟩
      · exact .inr ⟨parameter, elsewhere present, rest⟩
  orderly := proceeding.orderly

/-- Answering a request, after which those who run have to fail if the answer is a
circular reference. -/
theorem answered {outcome : Except Error (Amount α)} {id : String}
    (proceeding : Proceeding start pass running
      (fun other => ¬Settled outcome ∧ other ∈ running) shop)
    (registered : ∀ other ∈ running, other ∈ start.ids)
    (hit : id ∈ running → ¬Settled outcome)
    (served : id ∉ running → id ∈ start.ids → ∃ parameter,
      shop.shelf[id]? = some parameter ∧ parameter.Served start pass ∧
        parameter.outcome = outcome) :
    Proceeding start pass running (fun other => ¬Settled outcome ∧ other ∈ running)
      (shop.note (.answered outcome) id) where
  evaluating := proceeding.evaluating
  off := proceeding.off
  on := proceeding.on
  missing := proceeding.missing
  accounted demand member := by
    rw [Workshop.demands_note_answered, proceeding.evaluating] at member
    rcases List.mem_append.1 member with earlier | last
    · obtain ⟨hit, served, caught⟩ := proceeding.accounted demand earlier
      exact ⟨hit, served, caught⟩
    · rw [List.mem_singleton.1 last]
      exact ⟨hit, served, fun circular other runs => .inl ⟨circular, runs⟩⟩
  orderly := by
    rw [Workshop.demands_note_answered, proceeding.evaluating]
    constructor
    · intro demand member settled asks
      rcases List.mem_append.1 member with earlier | last
      · exact proceeding.orderly.self demand earlier settled asks
      · rw [List.mem_singleton.1 last] at settled asks
        exact hit (List.mem_of_getLast? asks) settled
    · refine List.pairwise_append.2 ⟨proceeding.orderly.later, List.pairwise_singleton _ _, ?_⟩
      intro demand member last isLast settled asks
      rw [List.mem_singleton.1 isLast] at asks
      -- Who has granted a demand is on the shelf, and does not run.
      have runs : demand.asked ∈ running := List.mem_of_getLast? asks
      have accounted := proceeding.accounted demand member
      obtain ⟨parameter, present, _⟩ := accounted.served
        (fun inside => accounted.hit inside settled) (registered _ runs)
      rw [proceeding.off _ runs] at present
      cases present

end Proceeding

/-! ## Resolving -/

section Resolving

variable {start : Pool α} {pass : PassToken} {running : List String} {table : FunctionTable α}

/-- What a pass keeps to while some ids run.  After a circular reference all of them have
yet to fail. -/
def tracking (start : Pool α) (pass : PassToken) (running : List String) :
    Discipline (Workshop α) where
  holds := Proceeding start pass running fun _ => False
  fails failure shop :=
    Proceeding start pass running (fun id => failure.isCircular = true ∧ id ∈ running) shop ∧
      ∀ listed, failure = .circular listed → start.Circle listed
  settled {failure shop} settled proceeding := by
    refine ⟨proceeding.mono fun _ => False.elim, ?_⟩
    rintro listed rfl
    cases settled
  reported {name failure shop} := by
    rintro ⟨proceeding, circle⟩
    refine ⟨by simpa only [isCircular_referenceFailure] using proceeding, ?_⟩
    intro listed same
    cases failure <;> simp [referenceFailure, Error.asEvaluation] at same
    exact circle listed (by rw [same])

theorem after_tracking_iff {β : Type} {outcome : Except Error β} {shop : Workshop α} :
    (tracking start pass running).After outcome shop ↔
      Proceeding start pass running (fun id => ¬Settled outcome ∧ id ∈ running) shop ∧
        ∀ listed, outcome = .error (.circular listed) → start.Circle listed := by
  cases outcome with
  | ok value =>
      refine ⟨fun proceeding => ⟨proceeding.mono fun _ => False.elim, nofun⟩, ?_⟩
      rintro ⟨proceeding, _⟩
      exact proceeding.mono fun _ pending => pending.1 trivial
  | error failure =>
      simp [Discipline.After, tracking, Settled]

/-- What an answer to a request leaves. -/
structure Answers (start : Pool α) (pass : PassToken) (running : List String) (id : String)
    (outcome : Except Error (Amount α)) (shop : Workshop α) : Prop where
  proceeding :
    Proceeding start pass running (fun other => ¬Settled outcome ∧ other ∈ running) shop
  circle : ∀ listed, outcome = .error (.circular listed) → start.Circle listed
  hit : id ∈ running → ¬Settled outcome
  served : id ∉ running → id ∈ start.ids → ∃ parameter,
    shop.shelf[id]? = some parameter ∧ parameter.Served start pass ∧
      parameter.outcome = outcome

theorem Answers.after {id : String} {outcome : Except Error (Amount α)} {shop : Workshop α}
    (answers : Answers start pass running id outcome shop) (trail : start.Trail running) :
    (tracking start pass running).After outcome (shop.note (.answered outcome) id) :=
  after_tracking_iff.2
    ⟨answers.proceeding.answered trail.registered answers.hit answers.served, answers.circle⟩

/-- A parameter that was refreshed before is put back as it is. -/
theorem Proceeding.put_back {shop : Workshop α} {id : String} {parameter : Parameter α}
    {pending : String → Prop} (proceeding : Proceeding start pass running pending shop)
    (found : shop.shelf[id]? = some parameter) :
    Proceeding start pass running pending
      (((shop.start id).note .started id).finish id parameter []) := by
  refine proceeding.congr List.dropLast_concat (fun other => ?_) ?_
  · rw [lookup_finish]
    split
    · next same => rw [← same, found]
    · next different =>
        exact (lookup_start shop id other).trans (if_neg different)
  · exact Workshop.demands_note_started _ _

/-- A parameter that runs its formula and is put back. -/
theorem Proceeding.refreshed (settles : table.Settles) {shop : Workshop α}
    {registry : Registry α} {id : String}
    {old : Parameter α} {nested : Resolver α (Workshop α)}
    (proceeding : Proceeding start pass running (fun _ => False) shop)
    (waiting : id ∉ running) (registered : start.find? id = some old)
    (found : shop.shelf[id]? = some old) (untraced : old.tracer ≠ some pass)
    (references : ∀ name, old.activeState.source.Refers name →
      (tracking start pass (running ++ [id])).Keeps (nested name)) :
    let run := old.refresh table pass nested
      (registry, (shop.start id).note .started id)
    Answers start pass running id (run.1.outcome.bind fun _ => run.1.parameter.amount)
      (run.2.2.finish id run.1.parameter run.1.notifications) := by
  have begun : Proceeding start pass (running ++ [id]) (fun _ => False)
      ((shop.start id).note .started id) :=
    (proceeding.started found untraced).congr rfl (fun _ => rfl)
      (Workshop.demands_note_started _ _)
  obtain ⟨after, circle⟩ := after_tracking_iff.1
    (Parameter.recompute_keeps
      (fun name arguments => Discipline.keeps_ofExcept (settles.call name arguments)) old.activeState
      references registry _ begun)
  obtain ⟨served, settled⟩ := Parameter.takeUp_served pass old
    Parameter.recompute_eq_none circle
  have known : id ∈ start.ids := Pool.mem_ids_of_find? registered
  rw [Parameter.refresh_of_untraced untraced]
  have outcome := Parameter.outcome_takeUp old.counted pass
    ((Parameter.recompute table nested old.activeState).start
      (registry, (shop.start id).note .started id)).1
  simp only [outcome]
  refine ⟨?_, served.circle, fun runs => absurd runs waiting, fun _ _ => ?_⟩
  · refine after.finished waiting known served _ ?_
    rintro other ⟨circular, runs⟩
    have caught := circular ∘ settled.1
    rcases List.mem_append.1 runs with earlier | last
    · exact .inl ⟨caught, earlier⟩
    · exact .inr ⟨List.mem_singleton.1 last, served.holds.caught_iff.2 caught⟩
  · exact ⟨_, (lookup_finish _ _ _ _ _).trans (if_pos rfl), served, rfl⟩

/-- A request is answered as the pass keeps to, if nested requests are. -/
theorem attend_answers {table : FunctionTable α} (settles : table.Settles) (real : pass.isEmpty = false)
    (untraced : ∀ parameter ∈ start.parameters, parameter.tracer ≠ some pass)
    (trail : start.Trail running) {id : String} (asks : start.Asks running id)
    {nested : Resolver α (Workshop α)}
    (keeps : start.Trail (running ++ [id]) → ∀ name, start.Asks (running ++ [id]) name →
      (tracking start pass (running ++ [id])).Keeps (nested name))
    (registry : Registry α) {shop : Workshop α}
    (proceeding : Proceeding start pass running (fun _ => False) shop) :
    let run := (Workshop.attend table pass nested id).start (registry, shop)
    Answers start pass running id run.1 run.2.2 := by
  have stack : shop.evaluating = running := proceeding.evaluating
  have strict {outcome : Except Error (Amount α)} : Proceeding start pass running
      (fun other => ¬Settled outcome ∧ other ∈ running) shop :=
    proceeding.mono fun _ => False.elim
  by_cases runs : id ∈ running
  · rw [attend_of_running (by rwa [stack]), stack]
    refine ⟨strict, ?_, fun _ => Bool.noConfusion, fun waiting => absurd runs waiting⟩
    intro listed same
    cases same
    exact trail.circle runs asks
  cases registered : start.find? id with
  | none =>
      have unknown : id ∉ start.ids := Pool.find?_eq_none_iff.1 registered
      rw [attend_of_unknown (by rwa [stack]) (proceeding.missing id unknown)]
      exact ⟨strict, nofun, fun inside => absurd inside runs,
        fun _ known => absurd known unknown⟩
  | some old =>
      obtain ⟨parameter, found, state⟩ := proceeding.on id old registered runs
      rw [attend_of_found (by rwa [stack]) found]
      have fresh := untraced old (Pool.mem_of_find? registered)
      rcases state with rfl | served
      · refine proceeding.refreshed settles runs registered found fresh fun name refers => ?_
        have known : id ∈ start.ids := Pool.mem_ids_of_find? registered
        refine keeps (trail.concat runs known asks) name ?_
        intro last isLast
        rw [List.getLast?_concat] at isLast
        cases isLast
        exact ⟨parameter, registered, refers⟩
      · rw [Parameter.refresh_of_traced real served.tracer]
        refine ⟨strict.put_back found, served.circle, fun inside => absurd inside runs, ?_⟩
        intro _ _
        exact ⟨parameter, (lookup_finish _ _ _ _ _).trans (if_pos rfl), served, rfl⟩

/-- Requests that a running formula may make are answered as the pass keeps to. -/
theorem resolve_tracking (settles : table.Settles) (real : pass.isEmpty = false)
    (untraced : ∀ parameter ∈ start.parameters, parameter.tracer ≠ some pass)
    (depth : Nat) (trail : start.Trail running) {id : String}
    (asks : start.Asks running id) :
    (tracking start pass running).Keeps (Workshop.resolve table pass depth id) := by
  induction depth generalizing running id with
  | zero => exact Discipline.keeps_throw rfl
  | succ depth ih =>
      intro registry shop proceeding
      have asked : Proceeding start pass running (fun _ => False) (shop.note .asked id) :=
        Proceeding.congr proceeding rfl (fun _ => rfl) (Workshop.demands_note_asked _ _)
      have answers := attend_answers settles real untraced trail asks
        (fun longer name asks => ih longer asks) registry asked
      exact answers.after trail

end Resolving

/-! ## Requests of one pass -/

section Requests

variable {start : Pool α} {pass : PassToken} {table : FunctionTable α}

theorem Proceeding.initial (distinct : start.ids.Nodup) :
    Proceeding start pass [] (fun _ => False) (.ofPool start) where
  evaluating := rfl
  off := nofun
  on id old found _ := ⟨old, by rwa [(Mirrors.ofPool distinct).on id List.not_mem_nil], .inl rfl⟩
  missing id unknown := by
    rw [(Mirrors.ofPool distinct).on id List.not_mem_nil]
    exact Pool.find?_eq_none_iff.2 unknown
  accounted := nofun
  orderly := ⟨nofun, .nil⟩

theorem evaluate_proceeding (settles : table.Settles) (real : pass.isEmpty = false)
    (untraced : ∀ parameter ∈ start.parameters, parameter.tracer ≠ some pass)
    {state : Registry α × Workshop α}
    (proceeding : Proceeding start pass [] (fun _ => False) state.2) (id : String) :
    let run := (Workshop.evaluate table pass id).start state
    Proceeding start pass [] (fun _ => False) run.2.2 ∧
      ∀ listed, run.1 = .error (.circular listed) → start.Circle listed := by
  rw [Workshop.start_evaluate]
  obtain ⟨after, circle⟩ := after_tracking_iff.1
    (resolve_tracking settles real untraced (state.2.order.length + 1) (.nil start) nofun
      state.1 state.2 proceeding)
  exact ⟨after.mono fun _ pending => List.not_mem_nil pending.2, circle⟩

theorem evaluateEach_proceeding (settles : table.Settles) (real : pass.isEmpty = false)
    (untraced : ∀ parameter ∈ start.parameters, parameter.tracer ≠ some pass)
    {state : Registry α × Workshop α}
    (proceeding : Proceeding start pass [] (fun _ => False) state.2) (requests : List String) :
    Proceeding start pass [] (fun _ => False)
      (Workshop.evaluateEach table pass requests state).2 := by
  induction requests generalizing state with
  | nil => exact proceeding
  | cons id rest ih => exact ih (evaluate_proceeding settles real untraced proceeding id).1

end Requests

/-! ## When nothing runs any more -/

namespace Proceeding

variable {start : Pool α} {pass : PassToken} {shop : Workshop α}

/-- Everyone who ran while a circular reference was answered is caught. -/
theorem caught_of_not_settled
    (proceeding : Proceeding start pass [] (fun _ => False) shop) {demand : Demand α}
    (member : demand ∈ shop.demands) (circular : ¬Settled demand.outcome) :
    ∀ id ∈ demand.running,
      ∃ parameter, shop.shelf[id]? = some parameter ∧ parameter.Caught := by
  intro id runs
  rcases (proceeding.accounted demand member).caught circular id runs with
    impossible | ⟨parameter, found, _, caught⟩
  · exact impossible.elim
  · exact ⟨parameter, found, caught⟩

/-- To ask for someone who runs or is caught leads to a circular reference. -/
theorem not_settled (proceeding : Proceeding start pass [] (fun _ => False) shop)
    {demand : Demand α} (member : demand ∈ shop.demands)
    (asks : demand.asked ∈ demand.running ∨
      ∃ parameter, shop.shelf[demand.asked]? = some parameter ∧ parameter.Caught) :
    ¬Settled demand.outcome := by
  have accounted := proceeding.accounted demand member
  by_cases runs : demand.asked ∈ demand.running
  · exact accounted.hit runs
  · obtain ⟨parameter, found, caught⟩ := asks.resolve_left runs
    have known : demand.asked ∈ start.ids := by
      by_contra unknown
      rw [proceeding.missing _ unknown] at found
      cases found
    obtain ⟨same, again, served, answer⟩ := accounted.served runs known
    rw [found] at again
    cases again
    rw [← answer]
    exact served.holds.caught_iff.1 caught

/-- Along demands either all are granted, or the first who asked is caught. -/
theorem granted_or_caught (proceeding : Proceeding start pass [] (fun _ => False) shop)
    {id name : String} (walk : TransGen (Demanded shop.demands) id name) :
    TransGen (Granted shop.demands) id name ∨
      ∃ parameter, shop.shelf[id]? = some parameter ∧ parameter.Caught := by
  induction walk using TransGen.head_induction_on with
  | @single id step =>
      obtain ⟨demand, member, asks, rfl⟩ := step
      by_cases settled : Settled demand.outcome
      · exact .inl (.single ⟨demand, member, settled, asks, rfl⟩)
      · exact .inr (proceeding.caught_of_not_settled member settled id
          (List.mem_of_getLast? asks))
  | @head id next step _ ih =>
      obtain ⟨demand, member, asks, rfl⟩ := step
      by_cases settled : Settled demand.outcome
      · rcases ih with walk | caught
        · exact .inl (.head ⟨demand, member, settled, asks, rfl⟩ walk)
        · exact absurd settled (proceeding.not_settled member (.inr caught))
      · exact .inr (proceeding.caught_of_not_settled member settled id
          (List.mem_of_getLast? asks))

/-- Who demands itself through others is caught. -/
theorem caught_of_walk (proceeding : Proceeding start pass [] (fun _ => False) shop)
    {id : String} (walk : TransGen (Demanded shop.demands) id id) :
    ∃ parameter, shop.shelf[id]? = some parameter ∧ parameter.Caught :=
  (proceeding.granted_or_caught walk).resolve_left (proceeding.orderly.acyclic id)

end Proceeding

namespace Store

omit [Scalar α] in
/-- The parameter with an id is registered and caught. -/
def Caught (store : Store α) (id : String) : Prop :=
  ∃ parameter, store.find? id = some parameter ∧ parameter.Caught

/-- A failure of a pass is that of one of its requests. -/
theorem exists_of_mem_updateEach {pass : PassToken} {ids : List String} {store : Store α}
    {id : String} {failure : Error} (member : (id, failure) ∈ (updateEach pass ids store).1) :
    ∃ earlier, (evaluate id pass (evaluateEach pass earlier store)).1 = .error failure := by
  induction ids generalizing store with
  | nil => cases member
  | cons first rest ih =>
      rw [updateEach_cons] at member
      rcases List.mem_append.1 member with here | later
      · refine ⟨[], ?_⟩
        change (evaluate id pass store).1 = _
        cases outcome : (evaluate first pass store).1 with
        | ok amount =>
            rw [outcome] at here
            cases here
        | error failed =>
            rw [outcome] at here
            cases List.mem_singleton.1 here
            exact outcome
      · obtain ⟨earlier, fails⟩ := ih later
        exact ⟨first :: earlier, fails⟩

omit [Scalar α] in
/-- Who is caught in a store is caught on the shelf. -/
theorem caught_iff {table : FunctionTable α} {state : Registry α × Workshop α}
    {store : Store α} (stands : Stands table state store) (id : String) :
    store.Caught id ↔
      ∃ parameter, state.2.shelf[id]? = some parameter ∧ parameter.Caught := by
  rw [stands.mirrors.on id List.not_mem_nil]
  rfl

section Pass

variable {store : Store α} (distinct : store.ids.Nodup) (pass : PassToken)

include distinct

/-- The workshop and the store of a pass, whatever has been requested. -/
theorem stands_evaluateEach (requests : List String) :
    Stands store.table
      (Workshop.evaluateEach store.table pass requests (store.registry, .ofPool store.pool))
      (evaluateEach pass requests store) ∧
        (evaluateEach pass requests store).ids = store.ids :=
  Stands.evaluateEach ⟨rfl, rfl, .ofPool distinct⟩ pass requests

variable {pass} (settles : store.table.Settles) (real : pass.isEmpty = false)
  (untraced : ∀ parameter ∈ store.pool.parameters, parameter.tracer ≠ some pass)

include settles real untraced

theorem proceeding_evaluateEach (requests : List String) :
    Proceeding store.pool pass [] (fun _ => False)
      (Workshop.evaluateEach store.table pass requests (store.registry, .ofPool store.pool)).2 :=
  evaluateEach_proceeding settles real untraced (.initial distinct) requests

/-- A circular reference that a request reports is a circle. -/
theorem circle_of_evaluate {requests : List String} {id : String} {listed : List String}
    (fails : (evaluate id pass (evaluateEach pass requests store)).1 =
      .error (.circular listed)) : store.pool.Circle listed := by
  have stands := (stands_evaluateEach distinct pass requests).1
  rw [← (stands.evaluate id pass).1] at fails
  exact (evaluate_proceeding settles real untraced
    (proceeding_evaluateEach distinct settles real untraced requests) id).2 listed fails

/-- A circular reference among the failures of a pass is a circle. -/
theorem circle_of_updateAll {requests : List String} {id : String} {listed : List String}
    (member : (id, .circular listed) ∈
      (updateAll pass (evaluateEach pass requests store)).1) : store.pool.Circle listed := by
  obtain ⟨earlier, fails⟩ := exists_of_mem_updateEach member
  rw [evaluateEach, evaluateEach, ← List.foldl_append] at fails
  exact circle_of_evaluate distinct settles real untraced fails

end Pass

/-- In a pass, whatever has been requested, and as long as no function makes circular references
up: a circular reference lists a circle of the references between the parameters, so that there
is none without a circle.  If an id is asked for that runs or has been caught, everyone who runs
then is caught in the end, and so is everyone who demands itself through others. -/
theorem circular_references (store : Store α) (settles : store.table.Settles) (pass : PassToken)
    (real : pass.isEmpty = false)
    (untraced : ∀ parameter ∈ store.pool.parameters, parameter.tracer ≠ some pass)
    (distinct : store.ids.Nodup) (requests : List String) :
    let after := evaluateEach pass requests store
    let shop := (Workshop.evaluateEach store.table pass requests
      (store.registry, .ofPool store.pool)).2
    after.pool.parameters = shop.parameters ∧
      (∀ id listed, (evaluate id pass after).1 = .error (.circular listed) →
        store.pool.Circle listed) ∧
      (∀ id listed, (id, .circular listed) ∈ (updateAll pass after).1 →
        store.pool.Circle listed) ∧
      ((∀ id, ¬TransGen store.pool.Refers id id) →
        (∀ id listed, (evaluate id pass after).1 ≠ .error (.circular listed)) ∧
          ∀ id listed, (id, .circular listed) ∉ (updateAll pass after).1) ∧
      (updateAll pass after).2 = evaluateEach pass (requests ++ store.ids) store ∧
      (∀ demand ∈ shop.demands,
        demand.asked ∈ demand.running ∨ after.Caught demand.asked →
          ∀ id ∈ demand.running, after.Caught id) ∧
      ∀ id, TransGen (Demanded shop.demands) id id → after.Caught id := by
  intro after shop
  obtain ⟨stands, ids⟩ := stands_evaluateEach distinct pass requests
  have proceeding := proceeding_evaluateEach distinct settles real untraced requests
  have circle : ∀ id listed, (evaluate id pass after).1 = .error (.circular listed) →
      store.pool.Circle listed :=
    fun _ _ => circle_of_evaluate distinct settles real untraced
  have circleAll : ∀ id listed, (id, .circular listed) ∈ (updateAll pass after).1 →
      store.pool.Circle listed :=
    fun _ _ => circle_of_updateAll distinct settles real untraced
  refine ⟨stands.mirrors.parameters_eq.symm, circle, circleAll, ?_, ?_, ?_, ?_⟩
  · intro acyclic
    refine ⟨fun id listed fails => ?_, fun id listed member => ?_⟩
    · obtain ⟨other, walk⟩ := (circle id listed fails).exists_transGen
      exact acyclic other walk
    · obtain ⟨other, walk⟩ := (circleAll id listed member).exists_transGen
      exact acyclic other walk
  · rw [updateAll, updateEach_snd, ids, evaluateEach, evaluateEach, List.foldl_append]
    rfl
  · intro demand member asks id runs
    rw [caught_iff stands] at asks ⊢
    exact proceeding.caught_of_not_settled member (proceeding.not_settled member asks) id runs
  · intro id walk
    rw [caught_iff stands]
    exact proceeding.caught_of_walk walk

/-- The two formulas of the circle demand each other, and the circle is reported. -/
theorem circular_references_knot :
    (unitless knot).pool.Circle ["chicken", "egg", "chicken"] ∧
      (evaluateEach ⟨1⟩ ["chicken"] (unitless knot)).Caught "egg" := by
  obtain ⟨_, sound, _, _, _, _, complete⟩ := circular_references (unitless knot)
    FunctionTable.plain_standard.settles ⟨1⟩ (by decide) (by decide) (by decide) ["chicken"]
  constructor
  · have reported : failure? (evaluate "chicken" ⟨1⟩
        (evaluateEach ⟨1⟩ ["chicken"] (unitless knot))).1 =
          some (.circular ["chicken", "egg", "chicken"]) := by decide +kernel
    refine sound "chicken" _ ?_
    cases outcome : (evaluate "chicken" ⟨1⟩
        (evaluateEach ⟨1⟩ ["chicken"] (unitless knot))).1 with
    | ok amount =>
        rw [outcome] at reported
        cases reported
    | error failure =>
        rw [outcome] at reported
        rw [Option.some.inj reported]
  · have asked : ((Workshop.evaluateEach (unitless knot).table ⟨1⟩ ["chicken"]
        ((unitless knot).registry, .ofPool (unitless knot).pool)).2.demands.map
          fun demand => (demand.running.getLast?, demand.asked)) =
        [(some "egg", "chicken"), (some "chicken", "egg"), (none, "chicken")] := by
      decide +kernel
    have demanded {id name : String} (listed : (some id, name) ∈
        [(some "egg", "chicken"), (some "chicken", "egg"), (none, "chicken")]) :
        Demanded (Workshop.evaluateEach (unitless knot).table ⟨1⟩ ["chicken"]
          ((unitless knot).registry, .ofPool (unitless knot).pool)).2.demands id name := by
      rw [← asked] at listed
      obtain ⟨demand, member, same⟩ := List.mem_map.1 listed
      exact ⟨demand, member, congrArg Prod.fst same, congrArg Prod.snd same⟩
    exact complete "egg" (.tail (.single (@demanded "egg" "chicken" (by decide)))
      (demanded (by decide)))

end Store

end Metrology
