import Metrology.Parameter.Refresh
import Metrology.Proofs.Alike

/-!
# Outcomes of refreshing

A refresh leaves a parameter with the outcome of its active source.  The outcome
depends on the amounts behind references alone, as long as the registry does not
grow.
-/

namespace Metrology

open Formula

/-! ## Mentioned unit expressions -/

section Mentions

variable {α : Type} [Scalar α]

/-- Normalizing the expression registers nothing. -/
def Registry.Covers (registry : Registry α) (expression : String) : Prop :=
  ∀ normalized grown,
    registry.normalize expression = .ok (normalized, grown) → grown = registry

theorem Registry.Covers.start_normalizing {registry : Registry α} {expression : String}
    (covers : registry.Covers expression) :
    ((Registry.normalizing expression).start registry).2 = registry := by
  unfold Registry.normalizing
  cases outcome : registry.normalize expression with
  | error failure =>
      rw [Attempt.start_ofStep_of_error (fun start : Registry α => start.normalize expression)
        outcome]
  | ok found =>
      rw [Attempt.start_ofStep_of_ok (fun start : Registry α => start.normalize expression)
        outcome]
      exact covers found.1 found.2 outcome

theorem Registry.Covers.normalizing_inStep {σ : Type} {registry : Registry α}
    {expression : String} (covers : registry.Covers expression)
    {invariant : σ → Prop} {lenient : Prop} :
    (Coupling.atRest registry invariant lenient).InStep Eq
      (Attempt.onFirst (Registry.normalizing expression))
      (Attempt.onFirst (Registry.normalizing expression)) := by
  refine Coupling.inStep_onFirst _ ?_
  rintro ⟨_, _⟩ ⟨_, inner⟩ ⟨rfl, rfl, holds⟩
  rw [covers.start_normalizing]
  exact ⟨rfl, rfl, rfl, holds⟩

/-- The unit expressions that recomputing a source may normalize. -/
def Source.Mentions (source : Source α) (expression : String) : Prop :=
  match source with
  | .literal _ unit => expression = unit
  | .formula text unit =>
      (∃ parsed : Expression α, parse text = .ok parsed ∧ expression ∈ parsed.tags) ∨
        (unit.isEmpty = false ∧ expression = unit)

end Mentions

/-! ## Runs of one source -/

namespace Parameter

variable {α σ τ : Type} [Scalar α]
  {coupling : Coupling (Registry α × σ) (Registry α × τ)}
  {left : Resolver α σ} {right : Resolver α τ}

/-- The amount of a formula that is shown in a unit, if there is one. -/
def evaluateShown (table : FunctionTable α) (resolve : Resolver α σ)
    (text unit : String) : Calculation α σ (Amount α) := do
  let value ← evaluate table resolve text
  checkUnit unit value.amount
  return value.amount

theorem checkUnit_inStep {unit : String} (amount : Amount α)
    (normalizing : unit.isEmpty = false →
      coupling.InStep Eq (Attempt.onFirst (Registry.normalizing unit))
        (Attempt.onFirst (Registry.normalizing unit))) :
    coupling.InStep Eq (checkUnit unit amount) (checkUnit unit amount) := by
  unfold checkUnit
  cases empty : unit.isEmpty with
  | true =>
      simp only [if_true]
      exact Coupling.inStep_pure rfl
  | false =>
      simp only [Bool.false_eq_true, if_false]
      refine Coupling.inStep_bind_eq (normalizing empty) fun normalized => ?_
      split
      · exact Coupling.inStep_pure rfl
      · exact Coupling.inStep_throw _

theorem evaluateShown_inStep (table : FunctionTable α) {text unit : String}
    (normalizing : ∀ expression, (Source.formula text unit : Source α).Mentions expression →
      coupling.InStep Eq (Attempt.onFirst (Registry.normalizing expression))
        (Attempt.onFirst (Registry.normalizing expression)))
    (reference : ∀ name, coupling.InStep Eq (evaluateReference left name)
      (evaluateReference right name)) :
    coupling.InStep Eq (evaluateShown table left text unit)
      (evaluateShown table right text unit) := by
  unfold evaluateShown
  refine Coupling.inStep_bind_eq ?_ ?_
  · have read : coupling.InStep
        (fun first second : Expression α => first = second ∧ parse text = .ok first)
        (Attempt.ofExcept (parse text)) (Attempt.ofExcept (parse text)) := by
      refine Coupling.inStep_ofExcept ?_
      cases (parse text : Except Error (Expression α)) with
      | error failure => exact coupling.failures_refl failure
      | ok expression => exact ⟨rfl, rfl⟩
    unfold evaluate
    refine Coupling.inStep_bind read ?_
    rintro expression _ ⟨rfl, parsed⟩
    refine Expression.evaluate_inStep (respected_eq coupling table) expression ⟨?_, ?_⟩
    · intro tag member value
      exact Coupling.inStep_bind_eq (normalizing tag (.inl ⟨expression, parsed, member⟩))
        fun normalized => Coupling.inStep_pure rfl
    · intro name _
      exact reference name
  · intro value
    exact Coupling.inStep_bind_eq (checkUnit_inStep value.amount fun given =>
      normalizing unit (.inr ⟨given, rfl⟩)) fun _ => Coupling.inStep_pure rfl

omit [Scalar α] in
theorem onFirst_ofUnit [Scalar α] (value : α) (unit : String) :
    (Attempt.onFirst (Amount.ofUnit value unit) : Calculation α σ (Amount α)) = (do
      let normalized ← Attempt.onFirst (Registry.normalizing unit)
      return ⟨normalized.toSI value, normalized.dimension⟩) := by
  rw [Amount.ofUnit, Attempt.onFirst_bind]
  rfl

theorem recompute_formula (table : FunctionTable α) (resolve : Resolver α σ)
    {state : TrackState α} {text unit : String} (source : state.source = .formula text unit) :
    recompute table resolve state = some <$> evaluateShown table resolve text unit := by
  unfold recompute evaluateShown
  simp only [source]
  rw [map_bind]
  congr 1
  funext value
  rw [map_bind]
  rfl

/-- Recomputing runs in step as soon as references and the mentioned unit
expressions do. -/
theorem recompute_inStep (table : FunctionTable α) (state : TrackState α)
    (normalizing : ∀ expression, state.source.Mentions expression →
      coupling.InStep Eq (Attempt.onFirst (Registry.normalizing expression))
        (Attempt.onFirst (Registry.normalizing expression)))
    (reference : ∀ name, coupling.InStep Eq (evaluateReference left name)
      (evaluateReference right name)) :
    coupling.InStep Eq (recompute table left state) (recompute table right state) := by
  cases source : state.source with
  | literal value unit =>
      rw [source] at normalizing
      unfold recompute
      rw [source]
      simp only
      split
      · exact Coupling.inStep_pure rfl
      · rw [onFirst_ofUnit, onFirst_ofUnit, bind_assoc, bind_assoc]
        exact Coupling.inStep_bind_eq (normalizing unit rfl) fun normalized =>
          Coupling.inStep_pure rfl
  | formula text unit =>
      rw [source] at normalizing
      rw [recompute_formula table left source, recompute_formula table right source,
        map_eq_pure_bind, map_eq_pure_bind]
      exact Coupling.inStep_bind_eq (evaluateShown_inStep table normalizing reference)
        fun amount => Coupling.inStep_pure rfl

end Parameter

/-! ## What a refresh leaves -/

namespace Parameter

variable {α : Type}

/-- The outcome that a parameter shows: its last failure or its buffered
amount. -/
def outcome (parameter : Parameter α) : Except Error (Amount α) :=
  parameter.recorded.bind fun _ => parameter.amount

/-- Whether a parameter holds exactly what an outcome leaves. -/
structure Holds (parameter : Parameter α) (outcome : Except Error (Amount α)) :
    Prop where
  cached : parameter.activeState.cached = outcome.toOption
  lastError : parameter.lastError = failure? outcome

theorem Holds.outcome_eq {parameter : Parameter α} {outcome : Except Error (Amount α)}
    (holds : parameter.Holds outcome) : parameter.outcome = outcome := by
  unfold Parameter.outcome recorded amount
  rw [holds.lastError, holds.cached]
  cases outcome <;> rfl

@[simp]
theorem activeState_setActiveState (parameter : Parameter α) (state : TrackState α) :
    (parameter.setActiveState state).activeState = state := by
  cases active : parameter.active <;> cases overridden : parameter.overrideTrack <;>
    simp [setActiveState, setState, activeState, track?, active, overridden]

/-- The amount that a recomputation comes to.  A literal that is buffered keeps
its amount. -/
def result (parameter : Parameter α) (recomputed : Except Error (Option (Amount α))) :
    Except Error (Amount α) :=
  recomputed.bind fun
    | some fresh => .ok fresh
    | none => parameter.amount

theorem setActiveState_eq (parameter : Parameter α) (state : TrackState α) :
    (parameter.setActiveState state).id = parameter.id ∧
      (parameter.setActiveState state).tracer = parameter.tracer ∧
      (parameter.setActiveState state).lastError = parameter.lastError := by
  unfold setActiveState
  split <;> exact ⟨rfl, rfl, rfl⟩

variable [Scalar α]

/-- Nothing is recomputed only where an amount is buffered. -/
theorem recompute_eq_none {σ : Type} {table : FunctionTable α} {resolve : Resolver α σ}
    {track : TrackState α} {state : Registry α × σ}
    (nothing : ((recompute table resolve track).start state).1 = .ok none) :
    track.cached.isSome = true := by
  cases source : track.source with
  | literal value unit =>
      unfold recompute at nothing
      simp only [source] at nothing
      split at nothing
      · next buffered => exact (Bool.and_eq_true_iff.1 buffered).2
      · rw [← map_eq_pure_bind, Attempt.start_map] at nothing
        cases outcome : ((Attempt.onFirst (Amount.ofUnit value unit) :
            Calculation α σ (Amount α)).start state).1 <;>
          rw [outcome] at nothing <;> cases nothing
  | formula text unit =>
      rw [recompute_formula table resolve source, Attempt.start_map] at nothing
      cases outcome : ((evaluateShown table resolve text unit).start state).1 <;>
        rw [outcome] at nothing <;> cases nothing

/-- A parameter that takes up an outcome holds exactly that outcome. -/
theorem takeUp_holds (parameter : Parameter α) (pass : PassToken)
    {recomputed : Except Error (Option (Amount α))}
    (buffered : recomputed = .ok none → parameter.activeState.cached.isSome = true) :
    (parameter.takeUp pass recomputed).parameter.Holds (parameter.result recomputed) := by
  match recomputed with
  | .error failure =>
      constructor
      · rw [takeUp, activeState_setActiveState]
        rfl
      · exact (setActiveState_eq _ _).2.2
  | .ok (some fresh) =>
      constructor
      · rw [takeUp, activeState_setActiveState]
        rfl
      · exact (setActiveState_eq _ _).2.2
  | .ok none =>
      obtain ⟨amount, cached⟩ := Option.isSome_iff_exists.1 (buffered rfl)
      have kept : parameter.result (.ok none) = .ok amount := by
        change parameter.amount = _
        rw [Parameter.amount, cached]
      rw [kept]
      exact ⟨cached, rfl⟩

theorem takeUp_eq (parameter : Parameter α) (pass : PassToken)
    (recomputed : Except Error (Option (Amount α))) :
    (parameter.takeUp pass recomputed).parameter.id = parameter.id ∧
      (parameter.takeUp pass recomputed).parameter.tracer = some pass ∧
      (parameter.takeUp pass recomputed).parameter.activeState.source =
        parameter.activeState.source := by
  match recomputed with
  | .error failure =>
      simp [takeUp, setActiveState_eq]
  | .ok (some fresh) =>
      simp [takeUp, setActiveState_eq]
  | .ok none => exact ⟨rfl, rfl, rfl⟩

theorem outcome_takeUp (parameter : Parameter α) (pass : PassToken)
    (recomputed : Except Error (Option (Amount α))) :
    (parameter.takeUp pass recomputed).outcome =
      (parameter.takeUp pass recomputed).parameter.recorded := by
  unfold recorded
  match recomputed with
  | .error failure =>
      simp [takeUp, setActiveState_eq]
  | .ok (some fresh) =>
      simp [takeUp, setActiveState_eq]
  | .ok none => rfl

section Refresh

variable {σ : Type} {table : FunctionTable α} {pass : PassToken} {parameter : Parameter α}
  {resolve : Resolver α σ} {state : Registry α × σ}

/-- What was refreshed under a pass stands. -/
theorem refresh_of_traced (real : pass.isEmpty = false)
    (traced : parameter.tracer = some pass) :
    parameter.refresh table pass resolve state =
      (⟨parameter.recorded, parameter, []⟩, state) := by
  unfold refresh
  rw [real, traced]
  simp only [Bool.not_false, beq_self_eq_true, Bool.and_self, if_true]

theorem refresh_of_untraced (untraced : parameter.tracer ≠ some pass) :
    parameter.refresh table pass resolve state =
      (parameter.counted.takeUp pass
          ((recompute table resolve parameter.activeState).start state).1,
        ((recompute table resolve parameter.activeState).start state).2) := by
  unfold refresh
  rw [beq_eq_false_iff_ne.2 untraced]
  simp only [Bool.and_false, Bool.false_eq_true, if_false]
  rfl

variable (table pass resolve state) in
/-- What counting, remembering a pass and writing to the active track keep, a refresh keeps. -/
theorem refresh_induction {motive : Parameter α → Prop} (start : motive parameter)
    (counted : ∀ parameter runs, motive parameter →
      motive { parameter with evaluations := runs })
    (passed : ∀ parameter failure, motive parameter →
      motive { parameter with tracer := some pass, lastError := failure })
    (written : ∀ parameter track, motive parameter → motive (parameter.setActiveState track)) :
    motive (parameter.refresh table pass resolve state).1.parameter := by
  have begins : motive parameter.counted := by
    unfold Parameter.counted
    split
    · exact counted _ _ start
    · exact start
  unfold Parameter.refresh
  split
  · exact start
  · change motive (parameter.counted.takeUp pass
      ((recompute table resolve parameter.activeState).start state).1).parameter
    match ((recompute table resolve parameter.activeState).start state).1 with
    | .ok none => exact passed parameter.counted none begins
    | .ok (some _) => exact written _ _ (passed parameter.counted none begins)
    | .error failure => exact written _ _ (passed parameter.counted (some failure) begins)

omit [Scalar α] in
theorem counted_eq (parameter : Parameter α) :
    parameter.counted.id = parameter.id ∧
      parameter.counted.activeState = parameter.activeState ∧
      parameter.counted.result = parameter.result := by
  unfold counted
  split <;> exact ⟨rfl, rfl, rfl⟩

variable (table pass parameter) in
/-- Refreshing with resolvers that answer alike, where nothing is excused. -/
theorem refresh_inStep {τ : Type} {coupling : Coupling (Registry α × σ) (Registry α × τ)}
    (equal : ∀ {left right}, coupling.failures left right → left = right)
    (unexcused : ∀ failure, ¬coupling.excused failure)
    (normalizing : ∀ expression, coupling.InStep Eq
      (Attempt.onFirst (Registry.normalizing expression))
      (Attempt.onFirst (Registry.normalizing expression)))
    {left : Resolver α σ} {right : Resolver α τ}
    (inStep : ∀ name, coupling.InStep Eq (left name) (right name))
    {first : Registry α × σ} {second : Registry α × τ} (states : coupling.states first second) :
    (parameter.refresh table pass left first).1 =
        (parameter.refresh table pass right second).1 ∧
      coupling.states (parameter.refresh table pass left first).2
        (parameter.refresh table pass right second).2 := by
  have recomputed : coupling.InStep Eq (recompute table left parameter.activeState)
      (recompute table right parameter.activeState) := by
    refine recompute_inStep table _ (fun expression _ => normalizing expression) fun name => ?_
    refine Coupling.inStep_bind_eq (Coupling.inStep_mapFailure (inStep name) ?_ ?_)
      fun amount => Coupling.inStep_pure rfl
    · intro failure other failures
      rw [equal failures]
      exact coupling.failures_refl _
    · exact fun excuse => (unexcused _ excuse).elim
  rcases recomputed first second states with ⟨_, _, excuse⟩ | ⟨outcomes, after⟩
  · exact (unexcused _ excuse).elim
  · have same := Coupling.eq_of_outcomes coupling equal outcomes
    unfold refresh
    split
    · exact ⟨rfl, states⟩
    · exact ⟨congrArg (parameter.counted.takeUp pass) same, after⟩

end Refresh

/-! ## Refreshing at rest -/

/-- The outcome of a parameter when the references of its formula have given
answers. -/
def worth (table : FunctionTable α) (registry : Registry α)
    (answers : String → Except Error (Amount α)) (parameter : Parameter α) :
    Except Error (Amount α) :=
  parameter.result
    ((recompute table (.answering answers) parameter.activeState).start (registry, ())).1

omit [Scalar α] in
theorem result_alike (parameter : Parameter α)
    {left right : Except Error (Option (Amount α))} (alike : Alike left right) :
    Alike (parameter.result left) (parameter.result right) := by
  cases left with
  | ok value =>
      cases right with
      | ok other =>
          cases alike
          exact .refl _
      | error failure => exact alike.elim
  | error failure =>
      cases right with
      | ok value => exact alike.elim
      | error other => exact alike

omit [Scalar α] in
theorem settled_of_settled_result {parameter : Parameter α}
    {recomputed : Except Error (Option (Amount α))}
    (settled : Settled (parameter.result recomputed)) : Settled recomputed := by
  cases recomputed with
  | ok value => trivial
  | error failure => exact settled

variable {σ : Type} {registry : Registry α} {invariant : σ → Prop} {lenient : Prop}

/-- The outcome of a formula is that of evaluating it and checking its unit. -/
theorem result_formula {table : FunctionTable α} {resolve : Resolver α σ}
    {parameter : Parameter α} {text unit : String}
    (source : parameter.activeState.source = .formula text unit)
    (state : Registry α × σ) :
    parameter.result ((recompute table resolve parameter.activeState).start state).1 =
      ((evaluateShown table resolve text unit).start state).1 := by
  rw [recompute_formula table resolve source, Attempt.start_map]
  cases ((evaluateShown table resolve text unit).start state).1 <;> rfl

/-- Recomputing with a resolver ends as it does with the answers that the
resolver ends with. -/
theorem recompute_endsAs (table : FunctionTable α) {parameter : Parameter α}
    (covered : ∀ expression, parameter.activeState.source.Mentions expression →
      registry.Covers expression)
    {answers : String → Except Error (Amount α)} {resolve : Resolver α σ}
    (references : ∀ name inner, invariant inner →
      EndsAs registry invariant lenient (answers name)
        ((resolve name).start (registry, inner)))
    {inner : σ} (holds : invariant inner) :
    EndsAs registry invariant lenient (parameter.worth table registry answers)
      (parameter.result
          ((recompute table resolve parameter.activeState).start (registry, inner)).1,
        ((recompute table resolve parameter.activeState).start (registry, inner)).2) := by
  have inStep : (Coupling.atRest registry invariant lenient).InStep Eq
      (recompute table (.answering answers) parameter.activeState)
      (recompute table resolve parameter.activeState) := by
    refine recompute_inStep table parameter.activeState ?_ ?_
    · intro expression mentions
      exact (covered expression mentions).normalizing_inStep
    · intro name
      exact evaluateReference_inStep (inStep_of_endsAs (references name))
  rcases EndsAs.of_inStep inStep holds with ⟨permitted, unsettled⟩ | ⟨alike, kept⟩
  · exact .inl ⟨permitted, fun settled => unsettled (settled_of_settled_result settled)⟩
  · exact .inr ⟨parameter.result_alike alike, kept⟩

/-- Answers that are alike have outcomes that are alike, and unsettled answers may
be anything for who does not rely on them. -/
theorem worth_alike (table : FunctionTable α) {parameter : Parameter α}
    (covered : ∀ expression, parameter.activeState.source.Mentions expression →
      registry.Covers expression)
    {answers others : String → Except Error (Amount α)}
    (references : ∀ name,
      (lenient ∧ ¬ Settled (answers name)) ∨ Alike (answers name) (others name)) :
    (lenient ∧ ¬ Settled (parameter.worth table registry answers)) ∨
      Alike (parameter.worth table registry answers)
        (parameter.worth table registry others) := by
  have resolvers (name : String) (inner : Unit) (_ : True) :
      EndsAs registry (fun _ => True) lenient (answers name)
        ((Resolver.answering others name).start (registry, inner)) :=
    (references name).imp_right fun alike => ⟨alike, rfl, trivial⟩
  exact (recompute_endsAs table covered resolvers trivial).imp_right And.left

end Parameter

end Metrology
