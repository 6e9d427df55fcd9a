import Metrology.Proofs.Obtaining

/-!
# Turns of a parameter

What happens to a parameter is a run of turns, each a change on some registry or a
refresh with some resolver.  No turn leaves a parameter that reads from an override
track it does not have, and who listens goes on listening.
-/

namespace Metrology

open Formula

namespace Parameter

variable {α : Type}

/-! ## Turns -/

/-- What may happen to a parameter: a change on some registry, or a refresh with some
resolver. -/
inductive Turn (α : Type) : Type 1 where
  | change (change : Edit α) (registry : Registry α)
  | refresh {σ : Type} (table : FunctionTable α) (pass : PassToken) (resolve : Resolver α σ)
      (state : Registry α × σ)

section Turns

variable [Scalar α]

/-- The parameter after a turn and what the turn tells.  A change that fails is as if
it had not been tried. -/
def take (parameter : Parameter α) : Turn α → Parameter α × List (Notification α)
  | .change change registry =>
      match ((parameter.edit change).start registry).1 with
      | .ok result => result
      | .error _ => (parameter, [])
  | .refresh table pass resolve state =>
      let refreshed := (parameter.refresh table pass resolve state).1
      (refreshed.parameter, refreshed.notifications)

/-- The parameter after turns. -/
def after (parameter : Parameter α) : List (Turn α) → Parameter α
  | [] => parameter
  | turn :: later => (parameter.take turn).1.after later

/-- All that turns tell. -/
def told (parameter : Parameter α) : List (Turn α) → List (Notification α)
  | [] => []
  | turn :: later => (parameter.take turn).2 ++ (parameter.take turn).1.told later

theorem after_append (parameter : Parameter α) (early late : List (Turn α)) :
    parameter.after (early ++ late) = (parameter.after early).after late := by
  induction early generalizing parameter with
  | nil => rfl
  | cons turn rest ih => exact ih _

theorem told_append (parameter : Parameter α) (early late : List (Turn α)) :
    parameter.told (early ++ late) =
      parameter.told early ++ (parameter.after early).told late := by
  induction early generalizing parameter with
  | nil => rfl
  | cons turn rest ih =>
      rw [List.cons_append, told, told, after, ih, List.append_assoc]

theorem after_snoc (parameter : Parameter α) (turns : List (Turn α)) (turn : Turn α) :
    parameter.after (turns ++ [turn]) = ((parameter.after turns).take turn).1 := by
  rw [after_append]
  rfl

theorem told_snoc (parameter : Parameter α) (turns : List (Turn α)) (turn : Turn α) :
    parameter.told (turns ++ [turn]) =
      parameter.told turns ++ ((parameter.after turns).take turn).2 := by
  rw [told_append]
  simp only [told, List.append_nil]

/-- A property that edits and refreshes keep is kept by a turn. -/
theorem take_induction {parameter : Parameter α}
    (holds : Parameter α → List (Notification α) → Prop) (stays : holds parameter [])
    (edited : ∀ change registry changed told,
      ((parameter.edit change).start registry).1 = .ok (changed, told) → holds changed told)
    (refreshed : ∀ {σ : Type} table pass (resolve : Resolver α σ) state,
      holds (parameter.refresh table pass resolve state).1.parameter
        (parameter.refresh table pass resolve state).1.notifications)
    (turn : Turn α) : holds (parameter.take turn).1 (parameter.take turn).2 := by
  cases turn with
  | change change registry =>
      cases outcome : ((parameter.edit change).start registry).1 with
      | error failure =>
          simp only [take, outcome]
          exact stays
      | ok result =>
          simp only [take, outcome]
          exact edited change registry result.1 result.2 outcome
  | refresh table pass resolve state => exact refreshed table pass resolve state

theorem Obtained.after {parameter : Parameter α} (obtained : parameter.Obtained)
    (turns : List (Turn α)) : (parameter.after turns).Obtained := by
  induction turns generalizing parameter with
  | nil => exact obtained
  | cons turn later ih =>
      refine ih (take_induction (fun other _ => other.Obtained) obtained ?_ ?_ turn)
      · intro change registry changed told changes
        exact obtained.edited changes
      · intro σ table pass resolve state
        exact obtained.refreshed table pass resolve state

end Turns

/-! ## Reading from a track that exists -/

/-- A parameter reads from its override track only if it has one. -/
def Overridden (parameter : Parameter α) : Prop :=
  parameter.active = .override → parameter.overrideTrack.isSome = true

theorem Overridden.setState {parameter : Parameter α} (overridden : parameter.Overridden)
    (state : TrackState α) (track : Track) : (parameter.setState state track).Overridden := by
  cases track with
  | default => exact overridden
  | override => exact fun _ => rfl

theorem Overridden.setActiveState {parameter : Parameter α}
    (overridden : parameter.Overridden) (state : TrackState α) :
    (parameter.setActiveState state).Overridden := by
  unfold Parameter.setActiveState
  split <;> exact overridden.setState state _

theorem Overridden.markStale {parameter : Parameter α} (overridden : parameter.Overridden) :
    parameter.markStale.Overridden := by
  have forgotten : parameter.forget.Overridden := overridden
  exact forgotten.setActiveState _

theorem overridden_of_setActive {parameter changed : Parameter α} {track : Track}
    (overridden : parameter.Overridden) (changes : parameter.setActive track = .ok changed) :
    changed.Overridden := by
  rcases setActive_cases changes with rfl | ⟨_, present, rfl⟩
  · exact overridden
  · exact Overridden.markStale present

variable [Scalar α]

theorem Overridden.edit {parameter changed : Parameter α} (overridden : parameter.Overridden)
    {change : Edit α} {told : List (Notification α)} {registry : Registry α}
    (changes : ((parameter.edit change).start registry).1 = .ok (changed, told)) :
    changed.Overridden := by
  cases change with
  | literal track value unit =>
      obtain ⟨amount, rfl, _⟩ := setLiteral_eq_ok changes
      exact overridden.setState _ _
  | formula track text unit =>
      cases changes
      exact overridden.setState _ _
  | active track =>
      exact overridden_of_setActive overridden (edit_active_eq_ok changes).1
  | clearOverride =>
      cases changes
      refine Overridden.markStale fun reads => ?_
      cases reads
  | markStale =>
      cases changes
      exact overridden.markStale
  | notes text | modified author date | listen listener | look =>
      cases changes
      exact overridden

/-- A refresh changes nothing, or takes up some outcome. -/
theorem refresh_cases (parameter : Parameter α) {σ : Type} (table : FunctionTable α)
    (pass : PassToken) (resolve : Resolver α σ) (state : Registry α × σ) :
    (parameter.refresh table pass resolve state).1 = ⟨parameter.recorded, parameter, []⟩ ∨
      ∃ recomputed, (parameter.refresh table pass resolve state).1 =
        parameter.counted.takeUp pass recomputed := by
  unfold Parameter.refresh
  split
  · exact .inl rfl
  · exact .inr ⟨_, rfl⟩

theorem Overridden.refresh {parameter : Parameter α} (overridden : parameter.Overridden)
    {σ : Type} (table : FunctionTable α) (pass : PassToken) (resolve : Resolver α σ)
    (state : Registry α × σ) :
    (parameter.refresh table pass resolve state).1.parameter.Overridden :=
  refresh_induction table pass resolve state overridden (fun _ _ kept => kept)
    (fun _ _ kept => kept) fun _ track kept => kept.setActiveState track

theorem Obtained.overridden {parameter : Parameter α} (obtained : parameter.Obtained) :
    parameter.Overridden := by
  induction obtained with
  | literal buffers =>
      obtain ⟨amount, _, rfl⟩ := literal_eq_ok buffers
      exact nofun
  | formula id text unit => exact nofun
  | loaded reads =>
      unfold Parameter.ofLine Parameter.ofFields at reads
      obtain ⟨chosen, _, made⟩ := exists_of_bind_eq_ok reads
      split at made
      · cases made
      · next kept =>
          cases made
          intro active
          cases chosen with
          | false => cases active
          | true =>
              dsimp only
              rw [Bool.true_and, ← Option.not_isSome, Bool.not_eq_true', Bool.not_eq_false]
                at kept
              exact kept
  | named _ _ overridden => exact overridden
  | edited _ changes overridden => exact overridden.edit changes
  | refreshed _ table pass resolve state overridden =>
      exact overridden.refresh table pass resolve state

/-! ## Who listens -/

section Listening

variable {parameter : Parameter α} {listener : String}

omit [Scalar α] in
theorem listeners_setState (parameter : Parameter α) (state : TrackState α) (track : Track) :
    (parameter.setState state track).listeners = parameter.listeners := by
  cases track <;> rfl

omit [Scalar α] in
theorem listeners_setActiveState (parameter : Parameter α) (state : TrackState α) :
    (parameter.setActiveState state).listeners = parameter.listeners := by
  unfold setActiveState
  split <;> rfl

theorem listening_edit (listening : listener ∈ parameter.listeners) {changed : Parameter α}
    {change : Edit α} {told : List (Notification α)} {registry : Registry α}
    (changes : ((parameter.edit change).start registry).1 = .ok (changed, told)) :
    listener ∈ changed.listeners := by
  cases change with
  | literal track value unit =>
      obtain ⟨amount, rfl, _⟩ := setLiteral_eq_ok changes
      rw [forget, listeners_setState]
      exact listening
  | formula track text unit =>
      cases changes
      rw [setFormula, forget, listeners_setState]
      exact listening
  | active track =>
      rcases setActive_cases (edit_active_eq_ok changes).1 with rfl | ⟨_, _, rfl⟩
      · exact listening
      · rw [markStale, listeners_setActiveState]
        exact listening
  | clearOverride | markStale =>
      cases changes
      exact (listeners_setActiveState _ _).symm ▸ listening
  | listen other =>
      cases changes
      exact List.mem_append_left _ listening
  | notes text | modified author date | look =>
      cases changes
      exact listening

theorem listening_refresh (listening : listener ∈ parameter.listeners) {σ : Type}
    (table : FunctionTable α) (pass : PassToken) (resolve : Resolver α σ)
    (state : Registry α × σ) :
    listener ∈ (parameter.refresh table pass resolve state).1.parameter.listeners := by
  refine refresh_induction (motive := fun other => listener ∈ other.listeners) table pass resolve
    state listening (fun _ _ kept => kept) (fun _ _ kept => kept) fun other track kept => ?_
  rw [listeners_setActiveState]
  exact kept

/-- Who listens goes on listening. -/
theorem listening_after (listening : listener ∈ parameter.listeners) (turns : List (Turn α)) :
    listener ∈ (parameter.after turns).listeners := by
  induction turns generalizing parameter with
  | nil => exact listening
  | cons turn later ih =>
      refine ih (take_induction (fun other _ => listener ∈ other.listeners) listening
        ?_ ?_ turn)
      · intro change registry changed told changes
        exact listening_edit listening changes
      · intro σ table pass resolve state
        exact listening_refresh listening table pass resolve state

end Listening

end Parameter

end Metrology
