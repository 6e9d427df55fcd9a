import Metrology.Proofs.InPlace

/-!
# What has been worked out for the tracks

Beside a parameter runs a ledger of what was last worked out for each of its tracks: the amount
of a literal when it was written, or the outcome of a formula when it was run.  A track that is
not stale holds what the ledger says of the source that is written on it, and every edit and
every refresh keeps it so.
-/

namespace Metrology

open Formula

variable {α : Type}

/-! ## The ledger -/

/-- A source with what it came to. -/
structure Valuation (α : Type) where
  source : Source α
  outcome : Except Error (Amount α)

/-- What was last worked out for each track. -/
def Ledger (α : Type) : Type :=
  Track → Option (Valuation α)

namespace Ledger

def empty : Ledger α :=
  fun _ => none

/-- Enter what has been worked out for a track, if anything has. -/
def enter (ledger : Ledger α) : Option (Track × Valuation α) → Ledger α
  | none => ledger
  | some (track, valuation) => Function.update ledger track (some valuation)

theorem enter_same (ledger : Ledger α) (track : Track) (valuation : Valuation α) :
    ledger.enter (some (track, valuation)) track = some valuation :=
  Function.update_self ..

theorem enter_of_ne (ledger : Ledger α) {track other : Track} (valuation : Valuation α)
    (apart : other ≠ track) : ledger.enter (some (track, valuation)) other = ledger other :=
  Function.update_of_ne apart ..

end Ledger

/-- A literal whose amount stands. -/
def TrackState.isSettled (state : TrackState α) : Bool :=
  !state.source.isFormula && !state.stale && state.cached.isSome

theorem TrackState.isSettled_iff {state : TrackState α} :
    state.isSettled = true ↔ state.source.isFormula = false ∧ state.stale = false ∧
      state.cached.isSome = true := by
  rw [isSettled, Bool.and_eq_true, Bool.and_eq_true, Bool.not_eq_true', Bool.not_eq_true',
    and_assoc]

/-- What a source comes to: a literal is converted and a formula evaluated. -/
def Source.worth [Scalar α] {σ : Type} (table : FunctionTable α) (resolve : Resolver α σ)
    (state : Registry α × σ) : Source α → Except Error (Amount α)
  | .literal value unit => ((Amount.ofUnit value unit).start state.1).1
  | .formula text _ => ((evaluate table resolve text).start state).1.map (·.amount)

namespace Parameter

/-- Whether the last refresh was under a pass. -/
def remembers (parameter : Parameter α) (pass : PassToken) : Bool :=
  !pass.isEmpty && parameter.tracer == some pass

section Turns

variable [Scalar α]

/-- What a turn works out, and for which track: the literal that is written, or the source of
the active track when it is refreshed. -/
def valuation? (parameter : Parameter α) : Turn α → Option (Track × Valuation α)
  | .change (.literal track value unit) registry =>
      match ((Amount.ofUnit value unit).start registry).1 with
      | .ok amount => some (track, ⟨.literal value unit, .ok amount⟩)
      | .error _ => none
  | .change _ _ => none
  | .refresh table pass resolve state =>
      if parameter.remembers pass || parameter.activeState.isSettled then none
      else
        some (parameter.active, ⟨parameter.activeState.source,
          parameter.activeState.source.worth table resolve state⟩)

end Turns

/-! ## Tracks that are not stale -/

/-- A track that is not stale holds the amount that its source came to when something was last
worked out for it. -/
def Fresh (parameter : Parameter α) (ledger : Ledger α) : Prop :=
  ∀ track state, parameter.track? track = some state → state.stale = false →
    ∃ amount, state.cached = some amount ∧ ledger track = some ⟨state.source, .ok amount⟩

section Fresh

variable {parameter other : Parameter α} {ledger later : Ledger α}

theorem Fresh.of_track? (fresh : parameter.Fresh ledger)
    (same : ∀ track, other.track? track = parameter.track? track) : other.Fresh ledger :=
  fun track state held => fresh track state ((same track).symm.trans held)

/-- A track that is replaced is stale from then on, or it is the track that something was worked
out for. -/
theorem Fresh.setState (fresh : parameter.Fresh ledger) {state : TrackState α} {track : Track}
    (others : ∀ other, other ≠ track → later other = ledger other)
    (held : state.stale = false →
      ∃ amount, state.cached = some amount ∧ later track = some ⟨state.source, .ok amount⟩) :
    (parameter.setState state track).Fresh later := by
  intro seen found present notStale
  rw [track?_setState] at present
  split at present
  · next same =>
      cases present
      rw [← same]
      exact held notStale
  · next apart =>
      rw [others seen (Ne.symm apart)]
      exact fresh seen found present notStale

theorem Fresh.setState_stale (fresh : parameter.Fresh ledger) {state : TrackState α}
    (stale : state.stale = true) (track : Track) : (parameter.setState state track).Fresh ledger :=
  fresh.setState (fun _ _ => rfl) fun notStale => absurd (stale.symm.trans notStale) (by decide)

/-- A track that is replaced when something has been worked out for it. -/
theorem Fresh.setState_entered (fresh : parameter.Fresh ledger) {state : TrackState α}
    {track : Track} {valuation : Valuation α}
    (held : state.stale = false →
      ∃ amount, state.cached = some amount ∧ valuation = ⟨state.source, .ok amount⟩) :
    (parameter.setState state track).Fresh (ledger.enter (some (track, valuation))) := by
  refine fresh.setState (fun _ apart => ledger.enter_of_ne valuation apart) fun notStale => ?_
  obtain ⟨amount, cached, rfl⟩ := held notStale
  exact ⟨amount, cached, ledger.enter_same track _⟩

/-- The state that is read from is that of the active track. -/
theorem setActiveState_of_overridden (overridden : parameter.Overridden)
    (state : TrackState α) :
    parameter.setActiveState state = parameter.setState state parameter.active := by
  unfold setActiveState
  cases active : parameter.active with
  | default => rfl
  | override =>
      obtain ⟨held, present⟩ := Option.isSome_iff_exists.1 (overridden active)
      rw [present]

theorem Fresh.setActiveState_stale (fresh : parameter.Fresh ledger)
    (overridden : parameter.Overridden) {state : TrackState α} (stale : state.stale = true) :
    (parameter.setActiveState state).Fresh ledger := by
  rw [setActiveState_of_overridden overridden]
  exact fresh.setState_stale stale _

theorem Fresh.setActiveState_entered (fresh : parameter.Fresh ledger)
    (overridden : parameter.Overridden) {state : TrackState α} {valuation : Valuation α}
    (held : state.stale = false →
      ∃ amount, state.cached = some amount ∧ valuation = ⟨state.source, .ok amount⟩) :
    (parameter.setActiveState state).Fresh (ledger.enter (some (parameter.active, valuation))) := by
  rw [setActiveState_of_overridden overridden]
  exact fresh.setState_entered held

theorem Fresh.markStale (fresh : parameter.Fresh ledger) (overridden : parameter.Overridden) :
    parameter.markStale.Fresh ledger := by
  have forgotten : parameter.forget.Fresh ledger := fresh.of_track? fun _ => rfl
  exact forgotten.setActiveState_stale overridden rfl

theorem source_written (parameter : Parameter α) (source : Source α) (track : Track) :
    (parameter.written source track).source = source := by
  unfold written
  split <;> rfl

variable [Scalar α]

theorem take_change_of_ok {change : Edit α} {registry : Registry α}
    {result : Parameter α × List (Notification α)}
    (changes : ((parameter.edit change).start registry).1 = .ok result) :
    parameter.take (.change change registry) = result := by
  simp only [take, changes]

theorem take_change_of_error {change : Edit α} {registry : Registry α} {failure : Error}
    (failed : ((parameter.edit change).start registry).1 = .error failure) :
    parameter.take (.change change registry) = (parameter, []) := by
  simp only [take, failed]

section Literal

variable {track : Track} {value : α} {unit : String} {registry : Registry α}

theorem valuation?_literal_of_ok {amount : Amount α}
    (buffered : ((Amount.ofUnit value unit).start registry).1 = .ok amount) :
    parameter.valuation? (.change (.literal track value unit) registry) =
      some (track, ⟨.literal value unit, .ok amount⟩) := by
  simp only [valuation?, buffered]

theorem valuation?_literal_of_error {failure : Error}
    (failed : ((Amount.ofUnit value unit).start registry).1 = .error failure) :
    parameter.valuation? (.change (.literal track value unit) registry) = none := by
  simp only [valuation?, failed]

theorem Fresh.take_literal (fresh : parameter.Fresh ledger) :
    (parameter.take (.change (.literal track value unit) registry)).1.Fresh
      (ledger.enter (parameter.valuation? (.change (.literal track value unit) registry))) := by
  cases buffered : ((Amount.ofUnit value unit).start registry).1 with
  | error failure =>
      have failed : ((parameter.edit (.literal track value unit)).start registry).1 =
          .error failure := start_setLiteral_of_error buffered
      rw [take_change_of_error failed, valuation?_literal_of_error buffered]
      exact fresh
  | ok amount =>
      have changes : ((parameter.edit (.literal track value unit)).start registry).1 = .ok _ :=
        start_setLiteral_of_ok buffered
      rw [take_change_of_ok changes, valuation?_literal_of_ok buffered]
      refine (fresh.setState_entered fun _ => ⟨amount, rfl, ?_⟩).of_track? fun _ => rfl
      rw [source_written]

end Literal

omit [Scalar α] in
theorem Fresh.setActive (fresh : parameter.Fresh ledger)
    {track : Track} {changed : Parameter α} (chosen : parameter.setActive track = .ok changed) :
    changed.Fresh ledger := by
  rcases setActive_cases chosen with rfl | ⟨_, present, rfl⟩
  · exact fresh
  · have switched : ({ parameter with active := track } : Parameter α).Fresh ledger :=
      fresh.of_track? fun _ => rfl
    exact switched.markStale present

omit [Scalar α] in
theorem Fresh.clearOverride (fresh : parameter.Fresh ledger) :
    parameter.clearOverride.Fresh ledger := by
  have cleared : ({ parameter with overrideTrack := none, active := .default } :
      Parameter α).Fresh ledger := by
    intro track state held
    cases track with
    | default => exact fresh .default state held
    | override => cases held
  exact cleared.markStale nofun

theorem Fresh.take_change (fresh : parameter.Fresh ledger) (overridden : parameter.Overridden)
    (change : Edit α) (registry : Registry α) :
    (parameter.take (.change change registry)).1.Fresh
      (ledger.enter (parameter.valuation? (.change change registry))) := by
  cases change with
  | literal track value unit => exact fresh.take_literal
  | formula track text unit => exact (fresh.setState_stale rfl track).of_track? fun _ => rfl
  | active track =>
      cases outcome : ((parameter.edit (.active track)).start registry).1 with
      | error failure =>
          rw [take_change_of_error outcome]
          exact fresh
      | ok result =>
          rw [take_change_of_ok outcome]
          exact fresh.setActive (edit_active_eq_ok outcome).1
  | clearOverride => exact fresh.clearOverride
  | markStale => exact fresh.markStale overridden
  | notes text | modified author date | listen listener | look =>
      exact fresh.of_track? fun _ => rfl

/-! ## What a refresh works out -/

section Refresh

variable {σ : Type} {table : FunctionTable α} {resolve : Resolver α σ} {state : Registry α × σ}
  {pass : PassToken}

theorem recompute_of_settled {track : TrackState α} (settled : track.isSettled = true) :
    ((recompute table resolve track).start state).1 = .ok none := by
  unfold TrackState.isSettled at settled
  unfold recompute
  cases source : track.source with
  | literal value unit =>
      rw [source, Source.isFormula, Bool.not_false, Bool.true_and] at settled
      simp only [settled, if_true]
      rfl
  | formula text unit =>
      rw [source] at settled
      cases settled

/-- An amount that can be shown is what its formula has come to, checked in the state that the
formula leaves. -/
theorem exists_of_evaluateShown {text unit : String} {amount : Amount α}
    (made : ((evaluateShown table resolve text unit).start state).1 = .ok amount) :
    ∃ value after, (evaluate table resolve text).start state = (.ok value, after) ∧
      ((checkUnit unit value.amount : Calculation α σ Unit).start after).1 = .ok () ∧
      value.amount = amount := by
  obtain ⟨value, after, evaluated, runs⟩ := Attempt.exists_of_start_bind (Prod.ext made rfl)
  obtain ⟨_, _, checked, returned⟩ := Attempt.exists_of_start_bind runs
  exact ⟨value, after, evaluated, congrArg Prod.fst checked,
    Except.ok.inj (congrArg Prod.fst returned)⟩

/-- What is recomputed is what the source comes to. -/
theorem worth_of_recompute {track : TrackState α} (unsettled : track.isSettled = false)
    {recomputed : Option (Amount α)}
    (made : ((recompute table resolve track).start state).1 = .ok recomputed) :
    ∃ fresh, recomputed = some fresh ∧ track.source.worth table resolve state = .ok fresh := by
  unfold TrackState.isSettled at unsettled
  cases source : track.source with
  | literal value unit =>
      rw [source, Source.isFormula, Bool.not_false, Bool.true_and] at unsettled
      unfold recompute at made
      simp only [source, unsettled, Bool.false_eq_true, if_false] at made
      rw [← map_eq_pure_bind, Attempt.start_map, Attempt.start_onFirst] at made
      cases buffered : ((Amount.ofUnit value unit).start state.1).1 with
      | error failure =>
          rw [buffered] at made
          cases made
      | ok amount =>
          rw [buffered] at made
          cases made
          exact ⟨amount, rfl, buffered⟩
  | formula text unit =>
      rw [recompute_formula table resolve source, Attempt.start_map] at made
      obtain ⟨amount, shown, rfl⟩ := exists_of_map_eq_ok made
      obtain ⟨value, after, evaluated, _, rfl⟩ := exists_of_evaluateShown shown
      refine ⟨value.amount, rfl, ?_⟩
      rw [Source.worth, evaluated]
      rfl

theorem refresh_of_remembered (remembered : parameter.remembers pass = true) :
    parameter.refresh table pass resolve state =
      (⟨parameter.recorded, parameter, []⟩, state) :=
  if_pos remembered

theorem refresh_of_forgotten (forgotten : parameter.remembers pass = false) :
    (parameter.refresh table pass resolve state).1 =
      parameter.counted.takeUp pass
        ((recompute table resolve parameter.activeState).start state).1 := by
  unfold refresh
  rw [show (!pass.isEmpty && parameter.tracer == some pass) = false from forgotten]
  rfl

/-- What a refresh for a pass may come to, with what it works out for the active track. -/
inductive Comes (parameter : Parameter α) (pass : PassToken) :
    Refreshed α → Option (Track × Valuation α) → Prop where
  | remembered : parameter.remembers pass = true →
      Comes parameter pass ⟨parameter.recorded, parameter, []⟩ none
  | settled : parameter.activeState.isSettled = true →
      Comes parameter pass (parameter.counted.takeUp pass (.ok none)) none
  | worked (amount : Amount α) :
      Comes parameter pass (parameter.counted.takeUp pass (.ok (some amount)))
        (some (parameter.active, ⟨parameter.activeState.source, .ok amount⟩))
  | failed (outcome : Except Error (Amount α)) (failure : Error) :
      Comes parameter pass (parameter.counted.takeUp pass (.error failure))
        (some (parameter.active, ⟨parameter.activeState.source, outcome⟩))

theorem refresh_comes (parameter : Parameter α) (table : FunctionTable α) (pass : PassToken)
    (resolve : Resolver α σ) (state : Registry α × σ) :
    parameter.Comes pass (parameter.refresh table pass resolve state).1
      (parameter.valuation? (.refresh table pass resolve state)) := by
  rw [valuation?]
  cases remembered : parameter.remembers pass with
  | true =>
      rw [refresh_of_remembered remembered]
      exact .remembered remembered
  | false =>
      rw [refresh_of_forgotten remembered]
      cases settled : parameter.activeState.isSettled with
      | true =>
          rw [recompute_of_settled settled]
          exact .settled settled
      | false =>
          cases made : ((recompute table resolve parameter.activeState).start state).1 with
          | error failure => exact .failed _ failure
          | ok recomputed =>
              obtain ⟨amount, rfl, worth⟩ := worth_of_recompute settled made
              rw [worth]
              exact .worked amount

omit [Scalar α] in
theorem track?_counted (parameter : Parameter α) (track : Track) :
    parameter.counted.track? track = parameter.track? track := by
  unfold counted
  split <;> rfl

omit [Scalar α] in
theorem active_counted (parameter : Parameter α) : parameter.counted.active = parameter.active := by
  unfold counted
  split <;> rfl

/-- What has been worked out anew for the active track is entered with the present source. -/
theorem Fresh.takeUp_ok (fresh : parameter.Fresh ledger) (overridden : parameter.Overridden)
    (amount : Amount α) :
    (parameter.takeUp pass (.ok (some amount))).parameter.Fresh
      (ledger.enter (some (parameter.active, ⟨parameter.activeState.source, .ok amount⟩))) := by
  have passed : ({ parameter with tracer := some pass, lastError := none } :
      Parameter α).Fresh ledger := fresh.of_track? fun _ => rfl
  exact passed.setActiveState_entered overridden fun _ => ⟨amount, rfl, rfl⟩

/-- Whatever has been worked out for an active track that fails, the track is stale. -/
theorem Fresh.takeUp_error (fresh : parameter.Fresh ledger) (overridden : parameter.Overridden)
    (valuation : Valuation α) (failure : Error) :
    (parameter.takeUp pass (.error failure)).parameter.Fresh
      (ledger.enter (some (parameter.active, valuation))) := by
  have passed : ({ parameter with tracer := some pass, lastError := some failure } :
      Parameter α).Fresh ledger := fresh.of_track? fun _ => rfl
  exact passed.setActiveState_entered overridden nofun

theorem Fresh.comes (fresh : parameter.Fresh ledger) (overridden : parameter.Overridden)
    {refreshed : Refreshed α} {entered : Option (Track × Valuation α)}
    (comes : parameter.Comes pass refreshed entered) :
    refreshed.parameter.Fresh (ledger.enter entered) := by
  have counted : parameter.counted.Fresh ledger := fresh.of_track? (track?_counted parameter)
  have reads : parameter.counted.Overridden := by
    unfold Parameter.counted
    split <;> exact overridden
  cases comes with
  | remembered _ => exact fresh
  | settled _ => exact counted.of_track? fun _ => rfl
  | worked amount =>
      rw [← active_counted, ← (counted_eq parameter).2.1]
      exact counted.takeUp_ok reads amount
  | failed outcome failure =>
      rw [← active_counted]
      exact counted.takeUp_error reads _ failure

end Refresh

end Fresh

end Parameter

end Metrology
