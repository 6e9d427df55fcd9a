import Metrology.Proofs.Announcing
import Metrology.Proofs.Ledger

/-!
# What the tracks of a parameter hold

A parameter keeps what is buffered on a track, whether it is stale, under which pass the active
track was refreshed and how that ended, each in a field of its own.  Whatever happens to it,
what is remembered of a pass is what the active track shows, and the tracks hold what the ledger
says of them.
-/

namespace Metrology

open Formula

variable {α : Type}

namespace Parameter

/-! ## What is remembered of a pass -/

/-- What is remembered of a pass is what the active track shows: a failure that nothing is
buffered and the track is stale, and no failure that something is and the track is not. -/
structure Conclusive (parameter : Parameter α) : Prop where
  failed : ∀ failure, parameter.lastError = some failure → parameter.tracer.isSome = true ∧
    parameter.activeState.cached = none ∧ parameter.activeState.stale = true
  succeeded : parameter.tracer.isSome = true → parameter.lastError = none →
    parameter.activeState.cached.isSome = true ∧ parameter.activeState.stale = false

section Conclusive

variable {parameter other : Parameter α}

/-- Without a pass there is nothing to remember. -/
theorem conclusive_of_forgotten (untraced : parameter.tracer = none)
    (blameless : parameter.lastError = none) : parameter.Conclusive where
  failed failure blamed := by
    rw [blameless] at blamed
    cases blamed
  succeeded traced := by
    rw [untraced] at traced
    cases traced

theorem conclusive_forget (parameter : Parameter α) : parameter.forget.Conclusive :=
  conclusive_of_forgotten rfl rfl

theorem conclusive_markStale (parameter : Parameter α) : parameter.markStale.Conclusive :=
  conclusive_of_forgotten (setActiveState_eq _ _).2.1 (setActiveState_eq _ _).2.2

theorem Conclusive.setActive (conclusive : parameter.Conclusive) {track : Track}
    {changed : Parameter α} (chosen : parameter.setActive track = .ok changed) :
    changed.Conclusive := by
  rcases setActive_cases chosen with rfl | ⟨_, _, rfl⟩
  · exact conclusive
  · exact conclusive_markStale _

variable [Scalar α]

theorem Conclusive.edit {changed : Parameter α} (conclusive : parameter.Conclusive)
    {change : Edit α} {told : List (Notification α)} {registry : Registry α}
    (changes : ((parameter.edit change).start registry).1 = .ok (changed, told)) :
    changed.Conclusive := by
  cases change with
  | literal track value unit =>
      obtain ⟨amount, rfl, _⟩ := setLiteral_eq_ok changes
      exact conclusive_forget _
  | formula track text unit =>
      cases changes
      exact conclusive_forget _
  | active track => exact conclusive.setActive (edit_active_eq_ok changes).1
  | clearOverride | markStale =>
      cases changes
      exact conclusive_markStale _
  | notes text | modified author date | listen listener | look =>
      cases changes
      exact ⟨conclusive.failed, conclusive.succeeded⟩

theorem conclusive_takeUp_ok (parameter : Parameter α) (pass : PassToken) (amount : Amount α) :
    (parameter.takeUp pass (.ok (some amount))).parameter.Conclusive where
  failed failure blamed := by
    rw [takeUp, (setActiveState_eq _ _).2.2] at blamed
    cases blamed
  succeeded _ _ := by
    rw [takeUp, activeState_setActiveState]
    exact ⟨rfl, rfl⟩

theorem conclusive_takeUp_error (parameter : Parameter α) (pass : PassToken) (failure : Error) :
    (parameter.takeUp pass (.error failure)).parameter.Conclusive where
  failed reason _ := by
    rw [takeUp, activeState_setActiveState, (setActiveState_eq _ _).2.1]
    exact ⟨rfl, rfl, rfl⟩
  succeeded _ blameless := by
    rw [takeUp, (setActiveState_eq _ _).2.2] at blameless
    cases blameless

theorem conclusive_takeUp_none {pass : PassToken}
    (settled : parameter.activeState.isSettled = true) :
    (parameter.takeUp pass (.ok none)).parameter.Conclusive where
  failed _ blamed := by cases blamed
  succeeded _ _ := by
    obtain ⟨_, notStale, buffered⟩ := TrackState.isSettled_iff.1 settled
    exact ⟨buffered, notStale⟩

theorem Conclusive.comes (conclusive : parameter.Conclusive) {pass : PassToken}
    {refreshed : Refreshed α} {entered : Option (Track × Valuation α)}
    (comes : parameter.Comes pass refreshed entered) : refreshed.parameter.Conclusive := by
  cases comes with
  | remembered _ => exact conclusive
  | settled settled =>
      rw [← (counted_eq parameter).2.1] at settled
      exact conclusive_takeUp_none settled
  | worked amount => exact conclusive_takeUp_ok _ _ amount
  | failed _ failure => exact conclusive_takeUp_error _ _ failure

omit [Scalar α] in
theorem tracer_of_remembers {pass : PassToken} (remembered : parameter.remembers pass = true) :
    parameter.tracer = some pass := by
  rw [remembers, Bool.and_eq_true, beq_iff_eq] at remembered
  exact remembered.2

omit [Scalar α] in
theorem recorded_eq_ok_iff : parameter.recorded = .ok () ↔ parameter.lastError = none := by
  unfold recorded
  cases parameter.lastError with
  | none => exact iff_of_true rfl rfl
  | some failure => exact iff_of_false nofun nofun

/-- What succeeds under a pass remembers it, and no failure. -/
theorem remembers_of_comes {pass : PassToken} {refreshed : Refreshed α}
    {entered : Option (Track × Valuation α)} (comes : parameter.Comes pass refreshed entered)
    (succeeds : refreshed.outcome = .ok ()) :
    refreshed.parameter.tracer = some pass ∧ refreshed.parameter.lastError = none := by
  cases comes with
  | remembered remembered => exact ⟨tracer_of_remembers remembered, recorded_eq_ok_iff.1 succeeds⟩
  | settled _ => exact ⟨rfl, rfl⟩
  | worked amount =>
      rw [takeUp, (setActiveState_eq _ _).2.1, (setActiveState_eq _ _).2.2]
      exact ⟨rfl, rfl⟩
  | failed _ failure => cases succeeds

/-- A refresh that succeeds leaves an amount to read. -/
theorem Conclusive.amount_of_comes (conclusive : parameter.Conclusive) {pass : PassToken}
    {refreshed : Refreshed α} {entered : Option (Track × Valuation α)}
    (comes : parameter.Comes pass refreshed entered) (succeeds : refreshed.outcome = .ok ()) :
    ∃ amount, refreshed.parameter.amount = .ok amount := by
  obtain ⟨traced, blameless⟩ := remembers_of_comes comes succeeds
  obtain ⟨amount, cached⟩ := Option.isSome_iff_exists.1
    ((conclusive.comes comes).succeeded (traced ▸ rfl) blameless).1
  exact ⟨amount, amount_eq_ok.2 cached⟩

end Conclusive

/-! ## Runs of formulas -/

section Counting

variable [Scalar α] {parameter : Parameter α}

omit [Scalar α] in
theorem evaluations_setState (parameter : Parameter α) (state : TrackState α) (track : Track) :
    (parameter.setState state track).evaluations = parameter.evaluations := by
  cases track <;> rfl

theorem evaluations_edit {changed : Parameter α} {change : Edit α}
    {told : List (Notification α)} {registry : Registry α}
    (changes : ((parameter.edit change).start registry).1 = .ok (changed, told)) :
    changed.evaluations = parameter.evaluations := by
  cases change with
  | literal track value unit =>
      obtain ⟨amount, rfl, _⟩ := setLiteral_eq_ok changes
      exact evaluations_setState ..
  | formula track text unit =>
      cases changes
      exact evaluations_setState ..
  | active track =>
      rcases setActive_cases (edit_active_eq_ok changes).1 with rfl | ⟨_, _, rfl⟩
      · rfl
      · exact evaluations_setActiveState ..
  | clearOverride | markStale =>
      cases changes
      exact evaluations_setActiveState ..
  | notes text | modified author date | listen listener | look =>
      cases changes
      rfl

/-- How many formulas are run for what is entered. -/
def runsOf : Option (Track × Valuation α) → Nat
  | some (_, valuation) => if valuation.source.isFormula then 1 else 0
  | none => 0

theorem evaluations_of_comes {pass : PassToken} {refreshed : Refreshed α}
    {entered : Option (Track × Valuation α)} (comes : parameter.Comes pass refreshed entered) :
    refreshed.parameter.evaluations = parameter.evaluations + runsOf entered := by
  cases comes with
  | remembered _ => rfl
  | settled settled =>
      rw [evaluations_takeUp, evaluations_counted, (TrackState.isSettled_iff.1 settled).1]
      rfl
  | worked amount => rw [evaluations_takeUp, evaluations_counted, runsOf]
  | failed outcome failure => rw [evaluations_takeUp, evaluations_counted, runsOf]

/-- The ledger misses no run of a formula. -/
theorem evaluations_undergo (parameter : Parameter α) (turn : Turn α) :
    (parameter.undergo turn).evaluations =
      parameter.evaluations + runsOf (parameter.valuation? turn) := by
  rw [undergo_eq]
  cases turn with
  | refresh table pass resolve state =>
      exact evaluations_of_comes (parameter.refresh_comes table pass resolve state)
  | change change registry =>
      have silent : runsOf (parameter.valuation? (.change change registry)) = 0 := by
        cases change with
        | literal track value unit =>
            cases converted : ((Amount.ofUnit value unit).start registry).1 with
            | error failure =>
                rw [valuation?_literal_of_error converted]
                rfl
            | ok amount =>
                rw [valuation?_literal_of_ok converted]
                rfl
        | _ => rfl
      rw [silent, add_zero]
      cases outcome : ((parameter.edit change).start registry).1 with
      | error failure => rw [take_change_of_error outcome]
      | ok result =>
          rw [take_change_of_ok outcome]
          exact evaluations_edit outcome

end Counting

/-! ## Main results -/

/-- Parameters as they are made, with what has been worked out for them: the literal of one made
with a literal, and nothing of one made with a formula or read from a line. -/
inductive Begun [Scalar α] : Parameter α → Ledger α → Prop where
  | literal {id : String} {value : α} {unit : String} {registry : Registry α}
      {parameter : Parameter α}
      (buffers : ((Parameter.literal id value unit).start registry).1 = .ok parameter) :
      Begun parameter (Ledger.empty.enter
        (some (.default, ⟨.literal value unit, ((Amount.ofUnit value unit).start registry).1⟩)))
  | formula (id text unit : String) : Begun (.formula id text unit) .empty
  | loaded {line : String} {parameter : Parameter α}
      (reads : Parameter.ofLine line = .ok parameter) : Begun parameter .empty
  | named {parameter : Parameter α} {ledger : Ledger α} (begun : Begun parameter ledger)
      (name : String) : Begun { parameter with name := some name } ledger

/-- What holds of a parameter whatever has happened to it, given what was last worked out for
its tracks. -/
structure Consistent (parameter : Parameter α) (ledger : Ledger α) : Prop where
  fresh : parameter.Fresh ledger
  overridden : parameter.Overridden
  conclusive : parameter.Conclusive

section Starting

variable [Scalar α] {parameter : Parameter α} {ledger : Ledger α}

theorem stale_of_overrideState? {field unit : String} {state : TrackState α}
    (held : overrideState? field unit = some state) : state.stale = true := by
  unfold overrideState? at held
  split at held
  · cases held
  · cases held
    rfl

/-- Nothing is buffered in a parameter that is read from a line. -/
theorem stale_of_ofLine {line : String} (reads : Parameter.ofLine line = .ok parameter) :
    parameter.tracer = none ∧ parameter.lastError = none ∧
      ∀ track state, parameter.track? track = some state → state.stale = true := by
  unfold Parameter.ofLine Parameter.ofFields at reads
  obtain ⟨chosen, _, made⟩ := exists_of_bind_eq_ok reads
  split at made
  · cases made
  · cases made
    refine ⟨rfl, rfl, fun track state held => ?_⟩
    cases track with
    | default =>
        cases held
        rfl
    | override =>
        dsimp only [track?] at held
        exact stale_of_overrideState? held

omit [Scalar α] in
theorem fresh_of_stale
    (stale : ∀ track state, parameter.track? track = some state → state.stale = true) :
    parameter.Fresh ledger :=
  fun track state held notStale =>
    absurd ((stale track state held).symm.trans notStale) (by decide)

theorem Begun.obtained (begun : Begun parameter ledger) : parameter.Obtained := by
  induction begun with
  | literal buffers => exact .literal buffers
  | formula id text unit => exact .formula id text unit
  | loaded reads => exact .loaded reads
  | named _ name obtained => exact obtained.named name

theorem Begun.consistent (begun : Begun parameter ledger) : parameter.Consistent ledger := by
  refine ⟨?fresh, begun.obtained.overridden, ?conclusive⟩
  case fresh =>
    induction begun with
    | literal buffers =>
        obtain ⟨amount, converted, rfl⟩ := literal_eq_ok buffers
        rintro (_ | _) state held _
        · cases held
          exact ⟨amount, rfl, (Ledger.enter_same ..).trans (by rw [converted])⟩
        · cases held
    | formula id text unit =>
        refine fresh_of_stale ?_
        rintro (_ | _) state held
        · cases held
          rfl
        · cases held
    | loaded reads => exact fresh_of_stale (stale_of_ofLine reads).2.2
    | named _ name fresh => exact fresh.of_track? fun _ => rfl
  case conclusive =>
    induction begun with
    | literal buffers =>
        obtain ⟨amount, _, rfl⟩ := literal_eq_ok buffers
        exact conclusive_of_forgotten rfl rfl
    | formula id text unit => exact conclusive_of_forgotten rfl rfl
    | loaded reads =>
        obtain ⟨untraced, blameless, _⟩ := stale_of_ofLine reads
        exact conclusive_of_forgotten untraced blameless
    | named _ name conclusive => exact ⟨conclusive.failed, conclusive.succeeded⟩

end Starting

section Runs

variable [Scalar α] {parameter : Parameter α} {ledger : Ledger α}

/-- The parameter after turns that write in place. -/
def undergoAll (parameter : Parameter α) (turns : List (Turn α)) : Parameter α :=
  turns.foldl undergo parameter

/-- The ledger after turns. -/
def ledgerAfter (parameter : Parameter α) (ledger : Ledger α) : List (Turn α) → Ledger α
  | [] => ledger
  | turn :: later =>
      (parameter.undergo turn).ledgerAfter (ledger.enter (parameter.valuation? turn)) later

theorem Consistent.undergo (consistent : parameter.Consistent ledger) (turn : Turn α) :
    (parameter.undergo turn).Consistent (ledger.enter (parameter.valuation? turn)) := by
  obtain ⟨fresh, overridden, conclusive⟩ := consistent
  rw [undergo_eq]
  have kept : (parameter.take turn).1.Overridden ∧ (parameter.take turn).1.Conclusive :=
    take_induction (fun other _ => other.Overridden ∧ other.Conclusive) ⟨overridden, conclusive⟩
      (fun _ _ _ _ changes => ⟨overridden.edit changes, conclusive.edit changes⟩)
      (fun table pass resolve state => ⟨overridden.refresh table pass resolve state,
        conclusive.comes (parameter.refresh_comes table pass resolve state)⟩) turn
  refine ⟨?_, kept.1, kept.2⟩
  cases turn with
  | change change registry => exact fresh.take_change overridden change registry
  | refresh table pass resolve state =>
      exact fresh.comes overridden (parameter.refresh_comes table pass resolve state)

theorem Consistent.undergoAll (consistent : parameter.Consistent ledger)
    (turns : List (Turn α)) :
    (parameter.undergoAll turns).Consistent (parameter.ledgerAfter ledger turns) := by
  induction turns generalizing parameter ledger with
  | nil => exact consistent
  | cons turn later ih => exact ih (consistent.undergo turn)

/-- Whatever happens to a parameter from when it is made: its tracks hold what was last worked
out for their sources, what it remembers of a pass is what it shows, a refresh that succeeds
leaves an amount to read, and a change that fails leaves everything as it was. -/
theorem undergoAll_consistent (begun : Begun parameter ledger) (turns : List (Turn α)) :
    (parameter.undergoAll turns).Consistent (parameter.ledgerAfter ledger turns) ∧
      (∀ (σ : Type) (table : FunctionTable α) (pass : PassToken) (resolve : Resolver α σ)
        (state : Registry α × σ),
        ((parameter.undergoAll turns).refresh table pass resolve state).1.outcome = .ok () →
          ∃ amount, ((parameter.undergoAll turns).refresh table pass resolve
            state).1.parameter.amount = .ok amount) ∧
      ∀ (change : Edit α) (registry : Registry α) (failure : Error),
        ((editInPlace change).start (registry, parameter.undergoAll turns)).1 = .error failure →
          ((editInPlace change).start (registry, parameter.undergoAll turns)).2.2 =
            parameter.undergoAll turns := by
  have consistent := begun.consistent.undergoAll turns
  refine ⟨consistent, fun σ table pass resolve state succeeds => ?_,
    fun change registry failure failed => editInPlace_of_error failed⟩
  exact consistent.conclusive.amount_of_comes
    ((parameter.undergoAll turns).refresh_comes table pass resolve state) succeeds

end Runs

/-- A product of pure numbers, overridden by a reference to nothing. -/
def lostProduct : Parameter ℚ :=
  (Parameter.formula "area" "2*3" "").undergoAll
    [refreshing 1, .change (.formula .override "[side]" "") pureNumbers,
      .change (.active .override) pureNumbers, refreshing 2]

/-- The default track still holds what its formula came to, and nothing is read from the
override. -/
theorem undergoAll_consistent_lostProduct :
    ∃ ledger, lostProduct.Consistent ledger ∧
      ledger .default = some ⟨.formula "2*3" "", .ok (.ratio 6)⟩ ∧
      lostProduct.lastError.isSome = true ∧ lostProduct.activeState.cached = none := by
  obtain ⟨consistent, _, _⟩ := undergoAll_consistent (.formula "area" "2*3" "" : Begun _ _)
    [refreshing 1, .change (.formula .override "[side]" "") pureNumbers,
      .change (.active .override) pureNumbers, refreshing 2]
  have held : lostProduct.defaultTrack = ⟨.formula "2*3" "", some (.ratio 6), false⟩ := by
    decide +kernel
  obtain ⟨amount, cached, entered⟩ := consistent.fresh .default lostProduct.defaultTrack rfl
    (by rw [held])
  rw [held] at cached entered
  cases cached
  have blamed : lostProduct.lastError.isSome = true := by decide +kernel
  obtain ⟨failure, lastError⟩ := Option.isSome_iff_exists.1 blamed
  exact ⟨_, consistent, entered, blamed, (consistent.conclusive.failed failure lastError).2.1⟩

end Parameter

end Metrology
