import Mathlib.Tactic
import Metrology.Attempt

/-!
# Attempts in step

Two attempts run in step when corresponding states lead to corresponding
outcomes and states.  A coupling says what corresponds, and which failures of
the left attempt excuse the right one from following it.
-/

namespace Metrology

namespace Attempt

variable {σ τ β γ : Type}

@[simp]
theorem start_pure (value : β) (state : σ) :
    (pure value : Attempt σ β).start state = (.ok value, state) := rfl

@[simp]
theorem start_throw (failure : Error) (state : σ) :
    (throw failure : Attempt σ β).start state = (.error failure, state) := rfl

@[simp]
theorem start_ofExcept (outcome : Except Error β) (state : σ) :
    (ofExcept outcome).start state = (outcome, state) := rfl

@[simp]
theorem start_mapFailure (change : Error → Error) (attempt : Attempt σ β)
    (state : σ) :
    (mapFailure change attempt).start state =
      ((attempt.start state).1.mapError change, (attempt.start state).2) := rfl

theorem start_bind_of_ok {attempt : Attempt σ β} {next : β → Attempt σ γ}
    {state : σ} {value : β} (succeeds : (attempt.start state).1 = .ok value) :
    (attempt >>= next).start state = (next value).start (attempt.start state).2 := by
  change (match attempt.start state with
    | (outcome, after) => ExceptT.bindCont next outcome after) = _
  rw [show attempt.start state = (.ok value, (attempt.start state).2) from
    Prod.ext succeeds rfl]
  rfl

theorem start_bind_of_error {attempt : Attempt σ β} {next : β → Attempt σ γ}
    {state : σ} {failure : Error} (fails : (attempt.start state).1 = .error failure) :
    (attempt >>= next).start state = (.error failure, (attempt.start state).2) := by
  change (match attempt.start state with
    | (outcome, after) => ExceptT.bindCont next outcome after) = _
  rw [show attempt.start state = (.error failure, (attempt.start state).2) from
    Prod.ext fails rfl]
  rfl

theorem start_bind_of_start {attempt : Attempt σ β} {next : β → Attempt σ γ} {state after : σ}
    {value : β} (runs : attempt.start state = (.ok value, after)) :
    (attempt >>= next).start state = (next value).start after := by
  rw [start_bind_of_ok (congrArg Prod.fst runs), runs]

/-- A run that goes through has gone through its first part. -/
theorem exists_of_start_bind {attempt : Attempt σ β} {next : β → Attempt σ γ} {state after : σ}
    {result : γ}
    (runs : (attempt >>= next).start state = (.ok result, after)) :
    ∃ value middle, attempt.start state = (.ok value, middle) ∧
      (next value).start middle = (.ok result, after) := by
  cases outcome : (attempt.start state).1 with
  | error failure =>
      rw [start_bind_of_error outcome] at runs
      cases runs
  | ok value =>
      rw [start_bind_of_ok outcome] at runs
      exact ⟨value, _, Prod.ext outcome rfl, runs⟩

@[simp]
theorem start_map (change : β → γ) (attempt : Attempt σ β) (state : σ) :
    (change <$> attempt).start state =
      ((attempt.start state).1.map change, (attempt.start state).2) := by
  rw [map_eq_pure_bind]
  cases outcome : (attempt.start state).1 with
  | error failure =>
      rw [start_bind_of_error outcome]
      rfl
  | ok value =>
      rw [start_bind_of_ok outcome]
      rfl

theorem start_ofStep_of_ok (step : σ → Except Error (β × σ)) {state next : σ} {value : β}
    (steps : step state = .ok (value, next)) :
    (ofStep step).start state = (.ok value, next) := by
  simp only [ofStep, start, steps]

theorem start_ofStep_of_error (step : σ → Except Error (β × σ)) {state : σ}
    {failure : Error} (fails : step state = .error failure) :
    (ofStep step).start state = (.error failure, state) := by
  simp only [ofStep, start, fails]

@[simp]
theorem start_onFirst (attempt : Attempt σ β) (state : σ × τ) :
    (onFirst attempt).start state =
      ((attempt.start state.1).1, ((attempt.start state.1).2, state.2)) := rfl

theorem onFirst_bind (attempt : Attempt σ β) (next : β → Attempt σ γ) :
    (onFirst (attempt >>= next) : Attempt (σ × τ) γ) =
      onFirst attempt >>= fun value => onFirst (next value) := by
  funext state
  change (onFirst (attempt >>= next)).start state =
    (onFirst attempt >>= fun value => onFirst (next value)).start state
  rw [start_onFirst]
  cases outcome : (attempt.start state.1).1 with
  | error failure =>
      rw [start_bind_of_error outcome, start_bind_of_error]
      · rfl
      · exact outcome
  | ok value =>
      rw [start_bind_of_ok outcome, start_bind_of_ok]
      · rfl
      · exact outcome

theorem mapFailure_map (change : Error → Error) (convert : β → γ)
    (attempt : Attempt σ β) :
    mapFailure change (convert <$> attempt) = convert <$> mapFailure change attempt := by
  funext state
  change (mapFailure change (convert <$> attempt)).start state =
    (convert <$> mapFailure change attempt).start state
  rw [start_mapFailure, start_map, start_map, start_mapFailure]
  cases (attempt.start state).1 <;> rfl

end Attempt

/-- What corresponds in two runs. -/
structure Coupling (σ τ : Type) where
  states : σ → τ → Prop
  failures : Error → Error → Prop
  failures_refl : ∀ failure, failures failure failure
  /-- The failures of the left run after which the right one is free. -/
  excused : Error → Prop

namespace Coupling

variable {σ τ β γ δ ε : Type}

/-- Outcomes that correspond: two values or two failures that do. -/
def Outcomes (coupling : Coupling σ τ) (values : β → γ → Prop) :
    Except Error β → Except Error γ → Prop
  | .ok left, .ok right => values left right
  | .error left, .error right => coupling.failures left right
  | _, _ => False

theorem outcomes_refl {coupling : Coupling σ τ} (outcome : Except Error β) :
    coupling.Outcomes Eq outcome outcome := by
  cases outcome with
  | ok value => exact rfl
  | error failure => exact coupling.failures_refl failure

/-- Outcomes correspond as equal if failures do. -/
theorem eq_of_outcomes (coupling : Coupling σ τ)
    (equal : ∀ {left right}, coupling.failures left right → left = right)
    {left right : Except Error β} (outcomes : coupling.Outcomes Eq left right) :
    left = right := by
  cases left with
  | ok value =>
      cases right with
      | ok other => exact congrArg Except.ok outcomes
      | error failure => exact outcomes.elim
  | error failure =>
      cases right with
      | ok value => exact outcomes.elim
      | error other => exact congrArg Except.error (equal outcomes)

/-- The right attempt follows the left one, unless the left one fails with an
excuse. -/
def InStep (coupling : Coupling σ τ) (values : β → γ → Prop)
    (left : Attempt σ β) (right : Attempt τ γ) : Prop :=
  ∀ first second, coupling.states first second →
    (∃ failure, (left.start first).1 = .error failure ∧ coupling.excused failure) ∨
      (coupling.Outcomes values (left.start first).1 (right.start second).1 ∧
        coupling.states (left.start first).2 (right.start second).2)

variable {coupling : Coupling σ τ} {values : β → γ → Prop}

theorem inStep_ofExcept {left : Except Error β} {right : Except Error γ}
    (outcomes : coupling.Outcomes values left right) :
    coupling.InStep values (Attempt.ofExcept left) (Attempt.ofExcept right) :=
  fun _ _ states => .inr ⟨outcomes, states⟩

theorem inStep_pure {left : β} {right : γ} (related : values left right) :
    coupling.InStep values (pure left) (pure right) :=
  inStep_ofExcept related

theorem inStep_throw (failure : Error) :
    coupling.InStep values (throw failure) (throw failure) :=
  inStep_ofExcept (coupling.failures_refl failure)

/-- An attempt on the first state is in step with itself if both sides have the same
first state and stay related. -/
theorem inStep_onFirst {ρ : Type} {coupling : Coupling (ρ × σ) (ρ × τ)} (attempt : Attempt ρ β)
    (stays : ∀ first second, coupling.states first second → second.1 = first.1 ∧
      coupling.states ((attempt.start first.1).2, first.2)
        ((attempt.start first.1).2, second.2)) :
    coupling.InStep Eq (Attempt.onFirst attempt) (Attempt.onFirst attempt) := by
  intro first second states
  obtain ⟨same, after⟩ := stays first second states
  rw [Attempt.start_onFirst, Attempt.start_onFirst, same]
  exact .inr ⟨outcomes_refl _, after⟩

theorem inStep_bind {results : δ → ε → Prop} {left : Attempt σ β}
    {right : Attempt τ γ} {leftNext : β → Attempt σ δ} {rightNext : γ → Attempt τ ε}
    (first : coupling.InStep values left right)
    (next : ∀ leftValue rightValue, values leftValue rightValue →
      coupling.InStep results (leftNext leftValue) (rightNext rightValue)) :
    coupling.InStep results (left >>= leftNext) (right >>= rightNext) := by
  intro leftState rightState states
  rcases first leftState rightState states with
    ⟨failure, failed, excuse⟩ | ⟨outcomes, after⟩
  · exact .inl ⟨failure, by rw [Attempt.start_bind_of_error failed], excuse⟩
  · cases leftOutcome : (left.start leftState).1 with
    | error leftFailure =>
        cases rightOutcome : (right.start rightState).1 with
        | ok value =>
            rw [leftOutcome, rightOutcome] at outcomes
            exact outcomes.elim
        | error rightFailure =>
            rw [leftOutcome, rightOutcome] at outcomes
            rw [Attempt.start_bind_of_error leftOutcome,
              Attempt.start_bind_of_error rightOutcome]
            exact .inr ⟨outcomes, after⟩
    | ok leftValue =>
        cases rightOutcome : (right.start rightState).1 with
        | error failure =>
            rw [leftOutcome, rightOutcome] at outcomes
            exact outcomes.elim
        | ok rightValue =>
            rw [leftOutcome, rightOutcome] at outcomes
            rw [Attempt.start_bind_of_ok leftOutcome,
              Attempt.start_bind_of_ok rightOutcome]
            exact next leftValue rightValue outcomes _ _ after

/-- Steps with equal values go on with the same value. -/
theorem inStep_bind_eq {results : δ → ε → Prop} {left : Attempt σ β}
    {right : Attempt τ β} {leftNext : β → Attempt σ δ} {rightNext : β → Attempt τ ε}
    (first : coupling.InStep Eq left right)
    (next : ∀ value, coupling.InStep results (leftNext value) (rightNext value)) :
    coupling.InStep results (left >>= leftNext) (right >>= rightNext) := by
  refine inStep_bind first ?_
  rintro value _ rfl
  exact next value

theorem inStep_mapFailure {left : Attempt σ β} {right : Attempt τ γ}
    (inStep : coupling.InStep values left right) {change : Error → Error}
    (failures : ∀ {first second}, coupling.failures first second →
      coupling.failures (change first) (change second))
    (excused : ∀ {failure}, coupling.excused failure →
      coupling.excused (change failure)) :
    coupling.InStep values (Attempt.mapFailure change left)
      (Attempt.mapFailure change right) := by
  intro first second states
  rw [Attempt.start_mapFailure, Attempt.start_mapFailure]
  rcases inStep first second states with ⟨failure, failed, excuse⟩ | ⟨outcomes, after⟩
  · refine .inl ⟨change failure, ?_, excused excuse⟩
    rw [failed]
    rfl
  · refine .inr ⟨?_, after⟩
    cases leftOutcome : (left.start first).1 with
    | error failure =>
        rw [leftOutcome] at outcomes
        cases rightOutcome : (right.start second).1 with
        | error other =>
            rw [rightOutcome] at outcomes
            exact failures outcomes
        | ok value =>
            rw [rightOutcome] at outcomes
            exact outcomes.elim
    | ok value =>
        rw [leftOutcome] at outcomes
        cases rightOutcome : (right.start second).1 with
        | error other =>
            rw [rightOutcome] at outcomes
            exact outcomes.elim
        | ok other =>
            rw [rightOutcome] at outcomes
            exact outcomes

/-! ## The same run up to a change of the value -/

/-- Equal states, and equal failures. -/
def same (σ : Type) : Coupling σ σ where
  states := Eq
  failures := Eq
  failures_refl _ := rfl
  excused _ := False

theorem outcomes_same {change : β → γ} {left : Except Error β}
    {right : Except Error γ} :
    (same σ).Outcomes (fun value changed => changed = change value) left right ↔
      right = left.map change := by
  cases left with
  | error failure =>
      cases right with
      | error other => exact ⟨congrArg _ ∘ Eq.symm, fun equal => by cases equal; rfl⟩
      | ok value => exact ⟨False.elim, nofun⟩
  | ok value =>
      cases right with
      | error failure => exact ⟨False.elim, nofun⟩
      | ok other => exact ⟨congrArg _, fun equal => by cases equal; rfl⟩

theorem inStep_same {change : β → γ} {left : Attempt σ β} {right : Attempt σ γ} :
    (same σ).InStep (fun value changed => changed = change value) left right ↔
      right = change <$> left := by
  constructor
  · intro inStep
    funext state
    rcases inStep state state rfl with ⟨_, _, excuse⟩ | ⟨outcomes, states⟩
    · exact excuse.elim
    · refine Eq.trans (Prod.ext ?_ ?_) (Attempt.start_map change left state).symm
      · exact outcomes_same.1 outcomes
      · exact Eq.symm states
  · rintro rfl first _ rfl
    right
    rw [Attempt.start_map]
    exact ⟨outcomes_same.2 rfl, rfl⟩

/-- Values that agree in a view, and equal failures, are equal outcomes as far as the view goes. -/
theorem outcomes_same_view {view : β → δ} {other : γ → δ} {left : Except Error β}
    {right : Except Error γ} :
    (same σ).Outcomes (fun value value' => view value = other value') left right ↔
      left.map view = right.map other := by
  cases left with
  | error failure =>
      cases right with
      | error failure' => exact ⟨congrArg _, Except.error.inj⟩
      | ok value => exact ⟨False.elim, nofun⟩
  | ok value =>
      cases right with
      | error failure => exact ⟨False.elim, nofun⟩
      | ok value' => exact ⟨congrArg _, Except.ok.inj⟩

/-- Only an attempt itself is in step with it in all respects. -/
theorem inStep_same_eq {left right : Attempt σ β} :
    (same σ).InStep Eq left right ↔ left = right := by
  constructor
  · intro inStep
    funext state
    rcases inStep state state rfl with ⟨_, _, excuse⟩ | ⟨outcomes, states⟩
    · exact excuse.elim
    · exact Prod.ext (eq_of_outcomes (same σ) id outcomes) states
  · rintro rfl state _ rfl
    exact .inr ⟨outcomes_refl _, rfl⟩

end Coupling

end Metrology
