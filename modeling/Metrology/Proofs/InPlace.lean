import Metrology.Proofs.Turns

/-!
# Changes in place

A change to a parameter writes one field after another, and a change that fails leaves what it
has written so far.  Step by step, every check comes before the first field, so a failed change
leaves the parameter as it was; and a change that succeeds has written what `edit` returns.
-/

namespace Metrology

namespace Attempt

variable {σ τ β : Type}

/-- A change to the second of two states. -/
def changing (change : τ → τ) : Attempt (σ × τ) Unit :=
  fun state => (.ok (), (state.1, change state.2))

/-- The second of two states. -/
def reading : Attempt (σ × τ) τ :=
  fun state => (.ok state.2, state)

theorem start_changing_bind {change : τ → τ} {next : Unit → Attempt (σ × τ) β} {state : σ × τ} :
    (changing change >>= next).start state = (next ()).start (state.1, change state.2) :=
  start_bind_of_start rfl

theorem start_reading_bind {next : τ → Attempt (σ × τ) β} {state : σ × τ} :
    (reading >>= next).start state = (next state.2).start state :=
  start_bind_of_start rfl

end Attempt

namespace Parameter

open Attempt (changing reading)

variable {α σ : Type}

/-! ## Steps -/

/-- Forget the last pass. -/
def forgetting : Attempt (σ × Parameter α) Unit := do
  changing fun parameter => { parameter with tracer := none }
  changing fun parameter => { parameter with lastError := none }

/-- Make the next pass refresh the active track. -/
def markingStale : Attempt (σ × Parameter α) Unit := do
  forgetting
  changing fun parameter =>
    parameter.setActiveState { parameter.activeState with stale := true }

/-- Write a source to a track. -/
def writing (source : Source α) (track : Track) : Attempt (σ × Parameter α) Unit :=
  changing fun parameter => parameter.setState (parameter.written source track) track

/-- Change the state of a track, if there is one. -/
def changingState (track : Track) (change : TrackState α → TrackState α) :
    Attempt (σ × Parameter α) Unit :=
  changing fun parameter =>
    match parameter.track? track with
    | some state => parameter.setState (change state) track
    | none => parameter

section Edits

variable [Scalar α]

/-- `setLiteral` field by field. -/
def setLiteralInPlace (track : Track) (value : α) (unit : String) :
    Attempt (Registry α × Parameter α) (List (Notification α)) := do
  let amount ← Attempt.onFirst (Amount.ofUnit value unit)
  writing (.literal value unit) track
  let before := ((← reading).track? track).bind (·.cached)
  changingState track fun state => { state with cached := some amount }
  changingState track fun state => { state with stale := false }
  forgetting
  let parameter ← reading
  if track = parameter.active ∧ differs before amount then
    return parameter.notices before amount
  else return []

omit [Scalar α] in
/-- `setActive` field by field. -/
def setActiveInPlace (track : Track) :
    Attempt (σ × Parameter α) (List (Notification α)) := do
  let parameter ← reading
  if track = .override ∧ parameter.overrideTrack.isNone then
    throw (.evaluation s!"parameter '{parameter.id}' has no override track")
  else if parameter.active = track then return []
  else do
    changing fun parameter => { parameter with active := track }
    markingStale
    return []

/-- Make a change field by field.  What is told is returned. -/
def editInPlace : Edit α → Attempt (Registry α × Parameter α) (List (Notification α))
  | .literal track value unit => setLiteralInPlace track value unit
  | .formula track text unit => do
      writing (.formula text unit) track
      changingState track fun state => { state with stale := true }
      forgetting
      return []
  | .active track => setActiveInPlace track
  | .clearOverride => do
      changing fun parameter => { parameter with overrideTrack := none }
      changing fun parameter => { parameter with active := .default }
      markingStale
      return []
  | .markStale => do
      markingStale
      return []
  | .notes text => do
      changing fun parameter => { parameter with notes := text }
      return []
  | .modified author date => do
      changing fun parameter => { parameter with modifiedBy := author }
      changing fun parameter => { parameter with modifiedOn := date }
      return []
  | .listen listener => do
      changing fun parameter => { parameter with listeners := parameter.listeners ++ [listener] }
      return []
  | .look => return []

end Edits

/-! ## What the steps come to -/

theorem start_forgetting_bind {β : Type} {next : Unit → Attempt (σ × Parameter α) β}
    {state : σ × Parameter α} :
    (forgetting >>= next).start state = (next ()).start (state.1, state.2.forget) :=
  Attempt.start_bind_of_start rfl

@[simp]
theorem track?_setState (parameter : Parameter α) (state : TrackState α) (track other : Track) :
    (parameter.setState state track).track? other =
      if track = other then some state else parameter.track? other := by
  cases track <;> cases other <;> rfl

@[simp]
theorem setState_setState (parameter : Parameter α) (first second : TrackState α)
    (track : Track) :
    (parameter.setState first track).setState second track = parameter.setState second track := by
  cases track <;> rfl

/-- A track that has been written to is changed there. -/
theorem start_changingState_bind {β : Type} {next : Unit → Attempt (σ × Parameter α) β}
    {registry : σ} {parameter : Parameter α} {held : TrackState α} {track : Track}
    {change : TrackState α → TrackState α} :
    (changingState track change >>= next).start (registry, parameter.setState held track) =
      (next ()).start (registry, parameter.setState (change held) track) := by
  refine Attempt.start_changing_bind.trans ?_
  simp only [track?_setState, if_true, setState_setState]

variable [Scalar α]

/-- The registry and the parameter after a change, and what the change tells.  A change that
fails leaves the parameter. -/
def settling (parameter : Parameter α) :
    Except Error (Parameter α × List (Notification α)) × Registry α →
      Except Error (List (Notification α)) × Registry α × Parameter α
  | (.ok (changed, told), registry) => (.ok told, registry, changed)
  | (.error failure, registry) => (.error failure, registry, parameter)

theorem start_setLiteralInPlace (parameter : Parameter α) (track : Track) (value : α)
    (unit : String) (registry : Registry α) :
    (setLiteralInPlace track value unit).start (registry, parameter) =
      parameter.settling ((parameter.setLiteral track value unit).start registry) := by
  unfold setLiteralInPlace setLiteral
  cases buffered : ((Amount.ofUnit value unit).start registry).1 with
  | error failure =>
      have buffers : ((Attempt.onFirst (Amount.ofUnit value unit)).start
          (registry, parameter)).1 = .error failure := by
        rw [Attempt.start_onFirst]
        exact buffered
      rw [Attempt.start_bind_of_error buffered, Attempt.start_bind_of_error buffers,
        Attempt.start_onFirst]
      rfl
  | ok amount =>
      have buffers : ((Attempt.onFirst (Amount.ofUnit value unit)).start
          (registry, parameter)).1 = .ok amount := by
        rw [Attempt.start_onFirst]
        exact buffered
      rw [Attempt.start_bind_of_ok buffered, Attempt.start_bind_of_ok buffers,
        Attempt.start_onFirst]
      refine Attempt.start_changing_bind.trans (Attempt.start_reading_bind.trans ?_)
      refine start_changingState_bind.trans (start_changingState_bind.trans ?_)
      refine start_forgetting_bind.trans (Attempt.start_reading_bind.trans ?_)
      have active : ((parameter.setState { parameter.written (.literal value unit) track with
          cached := some amount, stale := false } track).forget).active = parameter.active := by
        cases track <;> rfl
      simp only [track?_setState, if_true, Option.bind_some, active]
      split
      · rfl
      · rfl

theorem start_setActiveInPlace (parameter : Parameter α) (track : Track)
    (registry : Registry α) :
    (setActiveInPlace track).start (registry, parameter) =
      parameter.settling ((parameter.edit (.active track)).start registry) := by
  refine Attempt.start_reading_bind.trans ?_
  rw [start_edit_active, setActive]
  split
  · rfl
  · split
    · rfl
    · rfl

/-- Field by field, a change comes to what it comes to as a whole. -/
theorem start_editInPlace (parameter : Parameter α) (change : Edit α) (registry : Registry α) :
    (editInPlace change).start (registry, parameter) =
      parameter.settling ((parameter.edit change).start registry) := by
  cases change with
  | literal track value unit => exact start_setLiteralInPlace parameter track value unit registry
  | formula track text unit =>
      refine Attempt.start_changing_bind.trans (start_changingState_bind.trans ?_)
      exact start_forgetting_bind
  | active track => exact start_setActiveInPlace parameter track registry
  | clearOverride => rfl
  | markStale => rfl
  | notes text => rfl
  | modified author date => rfl
  | listen listener => rfl
  | look => rfl

/-- A change that fails leaves the parameter. -/
theorem editInPlace_of_error {parameter : Parameter α} {change : Edit α} {registry : Registry α}
    {failure : Error}
    (failed : ((editInPlace change).start (registry, parameter)).1 = .error failure) :
    ((editInPlace change).start (registry, parameter)).2.2 = parameter := by
  rw [start_editInPlace] at failed ⊢
  rcases outcome : (parameter.edit change).start registry with ⟨_ | _, grown⟩
  · rfl
  · rw [outcome] at failed
    cases failed

/-- The parameter after a turn that writes in place. -/
def undergo (parameter : Parameter α) : Turn α → Parameter α
  | .change change registry => ((editInPlace change).start (registry, parameter)).2.2
  | .refresh table pass resolve state => (parameter.refresh table pass resolve state).1.parameter

theorem undergo_eq (parameter : Parameter α) (turn : Turn α) :
    parameter.undergo turn = (parameter.take turn).1 := by
  cases turn with
  | change change registry =>
      rw [undergo, start_editInPlace, take]
      rcases (parameter.edit change).start registry with ⟨_ | _, grown⟩ <;> rfl
  | refresh table pass resolve state => rfl

end Parameter

end Metrology
