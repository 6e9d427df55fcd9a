import Metrology.Proofs.Evaluation

/-!
# Outcomes that are alike

Two runs may meet a circular reference from different sides, and then list
different ids.  Outcomes are alike if they are equal up to those lists.
-/

namespace Metrology

namespace Error

def isCircular : Error → Bool
  | .circular _ => true
  | _ => false

/-- Equal failures, or circular references whatever ids they list. -/
def Alike (left right : Error) : Prop :=
  left = right ∨ (left.isCircular = true ∧ right.isCircular = true)

theorem Alike.code {left right : Error} (alike : left.Alike right) :
    left.code = right.code := by
  rcases alike with rfl | ⟨leftCircular, rightCircular⟩
  · rfl
  · cases left <;> cases leftCircular
    cases right <;> cases rightCircular
    rfl

end Error

/-- The same value, or failures that are alike. -/
def Alike {β : Type} : Except Error β → Except Error β → Prop
  | .ok left, .ok right => left = right
  | .error left, .error right => left.Alike right
  | _, _ => False

/-- Whether an outcome is anything but a circular reference. -/
def Settled {β : Type} : Except Error β → Prop
  | .ok _ => True
  | .error failure => failure.isCircular = false

/-- The failure of an outcome, if it failed. -/
def failure? {β : Type} : Except Error β → Option Error
  | .ok _ => none
  | .error failure => some failure

section Outcomes

variable {β : Type} {left middle right : Except Error β}

theorem Alike.refl (outcome : Except Error β) : Alike outcome outcome := by
  cases outcome with
  | ok value => rfl
  | error failure => exact .inl rfl

theorem Alike.symm (alike : Alike left right) : Alike right left := by
  cases left with
  | ok value =>
      cases right with
      | ok other => exact Eq.symm alike
      | error failure => exact alike
  | error failure =>
      cases right with
      | ok value => exact alike
      | error other =>
          rcases alike with rfl | ⟨leftCircular, rightCircular⟩
          · exact .inl rfl
          · exact .inr ⟨rightCircular, leftCircular⟩

/-- A settled outcome is like no other one. -/
theorem Alike.eq_of_settled (alike : Alike left right) (settled : Settled left) :
    left = right := by
  cases left with
  | ok value =>
      cases right with
      | ok other => exact congrArg _ alike
      | error failure => exact alike.elim
  | error failure =>
      cases right with
      | ok value => exact alike.elim
      | error other =>
          rcases alike with rfl | ⟨circular, _⟩
          · rfl
          · exact absurd circular (by rw [settled]; decide)

theorem alike_of_not_settled (unsettled : ¬ Settled left) (other : ¬ Settled right) :
    Alike left right := by
  cases left with
  | ok value => exact absurd trivial unsettled
  | error failure =>
      cases right with
      | ok value => exact absurd trivial other
      | error failure' =>
          exact .inr ⟨eq_true_of_ne_false unsettled, eq_true_of_ne_false other⟩

theorem Alike.settled_iff (alike : Alike left right) : Settled left ↔ Settled right := by
  constructor
  · intro settled
    rwa [← alike.eq_of_settled settled]
  · intro settled
    rwa [← alike.symm.eq_of_settled settled]

theorem Alike.trans (first : Alike left middle) (second : Alike middle right) :
    Alike left right := by
  by_cases settled : Settled left
  · rwa [first.eq_of_settled settled]
  · refine alike_of_not_settled settled ?_
    rwa [← second.settled_iff, ← first.settled_iff]

/-- Outcomes that are alike leave the same value, or failures of the same code. -/
theorem Alike.toOption_eq (alike : Alike left right) :
    left.toOption = right.toOption ∧
      (failure? left).map Error.code = (failure? right).map Error.code := by
  cases left with
  | ok value =>
      cases right with
      | ok other => exact ⟨congrArg some alike, rfl⟩
      | error failure => exact alike.elim
  | error failure =>
      cases right with
      | ok value => exact alike.elim
      | error other => exact ⟨rfl, congrArg some alike.code⟩

end Outcomes

/-! ## Runs without growth -/

section AtRest

variable {α σ β : Type} (registry : Registry α) (invariant : σ → Prop) (lenient : Prop)

/-- Two runs that leave the registry as it is, of which the second one keeps an
invariant of its own state.  A lenient coupling lets go of runs that end with a
circular reference. -/
def Coupling.atRest : Coupling (Registry α × Unit) (Registry α × σ) where
  states first second := first.1 = registry ∧ second.1 = registry ∧ invariant second.2
  failures := Error.Alike
  failures_refl _ := .inl rfl
  excused failure := lenient ∧ failure.isCircular = true

/-- A run ends as expected, with the registry as it was. -/
def EndsAs (expected : Except Error β) (run : Except Error β × Registry α × σ) : Prop :=
  (lenient ∧ ¬ Settled expected) ∨
    (Alike expected run.1 ∧ run.2.1 = registry ∧ invariant run.2.2)

variable {registry invariant lenient}

theorem outcomes_atRest {left right : Except Error β} :
    (Coupling.atRest registry invariant lenient).Outcomes Eq left right ↔
      Alike left right := by
  cases left <;> cases right <;> exact Iff.rfl

theorem EndsAs.of_inStep {left : Attempt (Registry α × Unit) β}
    {right : Attempt (Registry α × σ) β}
    (inStep : (Coupling.atRest registry invariant lenient).InStep Eq left right)
    {inner : σ} (holds : invariant inner) :
    EndsAs registry invariant lenient (left.start (registry, ())).1
      (right.start (registry, inner)) := by
  rcases inStep (registry, ()) (registry, inner) ⟨rfl, rfl, holds⟩ with
    ⟨failure, failed, permitted, circular⟩ | ⟨outcomes, states⟩
  · refine .inl ⟨permitted, ?_⟩
    rw [failed]
    exact ne_false_of_eq_true circular
  · exact .inr ⟨outcomes_atRest.1 outcomes, states.2⟩

theorem inStep_of_endsAs {expected : Except Error β} {attempt : Attempt (Registry α × σ) β}
    (ends : ∀ inner, invariant inner →
      EndsAs registry invariant lenient expected (attempt.start (registry, inner))) :
    (Coupling.atRest registry invariant lenient).InStep Eq (Attempt.ofExcept expected)
      attempt := by
  rintro ⟨_, _⟩ ⟨_, inner⟩ ⟨rfl, rfl, holds⟩
  rcases ends inner holds with ⟨permitted, unsettled⟩ | ⟨alike, rest, kept⟩
  · cases expected with
    | ok value => exact absurd trivial unsettled
    | error failure =>
        exact .inl ⟨failure, rfl, permitted, eq_true_of_ne_false unsettled⟩
  · exact .inr ⟨outcomes_atRest.2 alike, rfl, rest, kept⟩

end AtRest

namespace Formula

variable {α σ : Type}

/-- The resolver that gives fixed answers. -/
def Resolver.answering (answers : String → Except Error (Amount α)) : Resolver α σ :=
  fun name => Attempt.ofExcept (answers name)

@[simp]
theorem isCircular_referenceFailure (name : String) (failure : Error) :
    (referenceFailure name failure).isCircular = failure.isCircular := by
  cases failure <;> rfl

theorem referenceFailure_alike (name : String) {left right : Error}
    (alike : left.Alike right) :
    (referenceFailure name left).Alike (referenceFailure name right) := by
  rcases alike with rfl | circular
  · exact .inl rfl
  · right
    simpa only [isCircular_referenceFailure] using circular

/-- References run in step as soon as the resolvers behind them do. -/
theorem evaluateReference_inStep {registry : Registry α} {invariant : σ → Prop}
    {lenient : Prop} {left : Resolver α Unit} {right : Resolver α σ} {name : String}
    (inStep : (Coupling.atRest registry invariant lenient).InStep Eq (left name)
      (right name)) :
    (Coupling.atRest registry invariant lenient).InStep Eq (evaluateReference left name)
      (evaluateReference right name) := by
  refine Coupling.inStep_bind_eq (Coupling.inStep_mapFailure inStep ?_ ?_) fun amount =>
    Coupling.inStep_pure rfl
  · exact referenceFailure_alike name
  · rintro failure ⟨permitted, circular⟩
    exact ⟨permitted, by rwa [isCircular_referenceFailure]⟩

end Formula

end Metrology
