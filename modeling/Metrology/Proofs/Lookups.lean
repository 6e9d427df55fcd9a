import Metrology.Proofs.Agreement
import Metrology.Proofs.Composing

/-!
# Looking units up

A formula touches the registry through the tags of its numbers and through its resolver.  If the
resolver only looks units up, the formula leaves a registry that calls reach.
-/

namespace Metrology

namespace Attempt

variable {σ β : Type}

/-- An attempt that is made in some states and refused in all others. -/
def guarded (allowed : σ → Bool) (attempt : Attempt σ β) : Attempt σ β := fun state =>
  if allowed state then attempt state else (.error (.internal "refused"), state)

theorem start_guarded (allowed : σ → Bool) (attempt : Attempt σ β) (state : σ) :
    (guarded allowed attempt).start state =
      if allowed state then attempt.start state else (.error (.internal "refused"), state) := rfl

/-- Both runs are in the same state, until the left one is refused. -/
def untilRefused (σ : Type) : Coupling σ σ where
  states := Eq
  failures := Eq
  failures_refl _ := rfl
  excused _ := True

theorem guarded_inStep (allowed : σ → Bool) (attempt : Attempt σ β) :
    (untilRefused σ).InStep Eq (guarded allowed attempt) attempt := by
  rintro state _ rfl
  rw [start_guarded]
  split
  · exact .inr ⟨Coupling.outcomes_refl _, rfl⟩
  · exact .inl ⟨_, rfl, trivial⟩

end Attempt

namespace Registry

variable {α : Type} [Scalar α]

theorem reached_cons (registry : Registry α) (expression : String) (rest : List String) :
    registry.reached (expression :: rest) =
      if registry.callFits expression then
        (registry.answering (.normalize expression)).reached rest
      else registry.reached rest := by
  rw [reached, returning]
  split
  · rw [normalizeAll, run, List.map_cons, List.foldl_cons]
    rfl
  · rfl

/-- Calls may be made in two goes. -/
theorem reached_append (registry : Registry α) (earlier later : List String) :
    (registry.reached earlier).reached later = registry.reached (earlier ++ later) := by
  induction earlier generalizing registry with
  | nil => rfl
  | cons expression rest ih =>
      rw [List.cons_append, reached_cons, reached_cons]
      split
      · rw [ih]
      · rw [ih]

/-- One call that returns. -/
theorem reached_singleton {registry : Registry α} {expression : String}
    (fits : registry.callFits expression = true) :
    registry.reached [expression] = ((normalizing expression).start registry).2 := by
  rw [reached_cons, if_pos fits]
  rfl

end Registry

namespace Formula

variable {α σ β γ : Type} [Scalar α]

/-! ## Calculations that only look up -/

/-- Whatever a calculation comes to, it leaves a registry that calls reach. -/
def LooksUp (calculation : Calculation α σ β) : Prop :=
  ∀ state, ∃ expressions,
    (calculation.start state).2.1 = state.1.reached expressions

theorem looksUp_ofExcept (outcome : Except Error β) :
    LooksUp (Attempt.ofExcept outcome : Calculation α σ β) :=
  fun _ => ⟨[], rfl⟩

theorem looksUp_bind {calculation : Calculation α σ β} {next : β → Calculation α σ γ}
    (first : LooksUp calculation) (later : ∀ value, LooksUp (next value)) :
    LooksUp (calculation >>= next) := by
  intro state
  obtain ⟨expressions, reaches⟩ := first state
  cases outcome : (calculation.start state).1 with
  | error failure =>
      rw [Attempt.start_bind_of_error outcome]
      exact ⟨expressions, reaches⟩
  | ok value =>
      rw [Attempt.start_bind_of_ok outcome]
      obtain ⟨others, goesOn⟩ := later value (calculation.start state).2
      exact ⟨expressions ++ others, by rw [goesOn, reaches, Registry.reached_append]⟩

theorem LooksUp.extends {calculation : Calculation α σ β} (looksUp : LooksUp calculation)
    (state : Registry α × σ) : state.1.Extends (calculation.start state).2.1 := by
  obtain ⟨expressions, reaches⟩ := looksUp state
  rw [reaches]
  exact Registry.Extends.run _ _

theorem looksUp_reference {resolve : Resolver α σ} {name : String}
    (looksUp : LooksUp (resolve name)) : LooksUp (evaluateReference resolve name) :=
  looksUp_bind looksUp fun _ => looksUp_ofExcept (.ok _)

/-! ## Formulas that return -/

/-- The value of a number with a unit tag, refused where reading the tag does not return. -/
def evaluateTaggedReturning (value : α) (tag : String) : Calculation α σ (Tagged α) :=
  Attempt.guarded (·.1.callFits tag) (evaluateTagged value tag)

/-- The leaves of a resolver, but for tags whose reading does not return. -/
def Leaves.returning (resolve : Resolver α σ) : Leaves α σ :=
  ⟨evaluateTaggedReturning, evaluateReference resolve⟩

/-- Read and evaluate a formula up to a tag whose reading does not return. -/
def evaluateReturning (table : FunctionTable α) (resolve : Resolver α σ) (formula : String) :
    Calculation α σ (Tagged α) := do
  let expression ← Attempt.ofExcept (parse formula)
  expression.evaluate table (.returning resolve)

/-- All tags that a formula reads are read by calls that return. -/
def Returns (table : FunctionTable α) (resolve : Resolver α σ) (formula : String)
    (state : Registry α × σ) : Prop :=
  (evaluateReturning table resolve formula).start state =
    (evaluate table resolve formula).start state

theorem registry_evaluateTagged (value : α) (tag : String) (state : Registry α × σ) :
    ((evaluateTagged value tag).start state).2.1 =
      ((Registry.normalizing tag).start state.1).2 := by
  rw [evaluateTagged, bind_pure_comp, Attempt.start_map, Attempt.start_onFirst]

theorem looksUp_evaluateTaggedReturning (value : α) (tag : String) :
    LooksUp (evaluateTaggedReturning value tag : Calculation α σ (Tagged α)) := by
  intro state
  rw [evaluateTaggedReturning, Attempt.start_guarded]
  split
  · next fits =>
      exact ⟨[tag], by rw [registry_evaluateTagged, Registry.reached_singleton fits]⟩
  · exact ⟨[], rfl⟩

variable {table : FunctionTable α} {resolve : Resolver α σ}

theorem composes_looksUp (looksUp : ∀ name, LooksUp (resolve name)) :
    Composes (fun _ _ _ _ calculation => LooksUp calculation) table (.returning resolve)
      (fun _ => True) where
  untagged _ := trivial
  negate _ := trivial
  tagged value tag := by
    dsimp only [Leaves.returning]
    exact looksUp_evaluateTaggedReturning value tag
  reference name := looksUp_reference (looksUp name)
  operator _ _ _ := looksUp_ofExcept _
  call _ _ := looksUp_ofExcept _
  refuse _ := looksUp_ofExcept _
  done _ := looksUp_ofExcept (.ok _)
  bind := looksUp_bind
  weaken looksUp _ _ := looksUp
  among looksUp _ := looksUp

theorem looksUp_evaluateReturning (looksUp : ∀ name, LooksUp (resolve name)) (formula : String) :
    LooksUp (evaluateReturning table resolve formula) :=
  looksUp_bind (looksUp_ofExcept _) fun expression =>
    (composes_looksUp looksUp).evaluate expression

/-- A formula that returns leaves a registry that calls reach, if its resolver only looks up. -/
theorem Returns.exists_reached {formula : String} {state : Registry α × σ}
    (returns : Returns table resolve formula state) (looksUp : ∀ name, LooksUp (resolve name)) :
    ∃ expressions,
      ((evaluate table resolve formula).start state).2.1 = state.1.reached expressions := by
  unfold Returns at returns
  rw [← returns]
  exact looksUp_evaluateReturning looksUp formula state

/-- A formula that comes to a value has not been stopped. -/
theorem returns_of_ok {formula : String} {state after : Registry α × σ} {value : Tagged α}
    (comes : (evaluateReturning table resolve formula).start state = (.ok value, after)) :
    Returns table resolve formula state := by
  have inStep : (Attempt.untilRefused (Registry α × σ)).InStep Eq
      (evaluateReturning table resolve formula) (evaluate table resolve formula) := by
    refine Coupling.inStep_bind_eq (Coupling.inStep_ofExcept (Coupling.outcomes_refl _))
      fun expression => ?_
    refine Expression.evaluate_inStep (respected_eq _ table) expression ⟨?_, ?_⟩
    · intro tag _ value
      dsimp only [Leaves.returning, Leaves.ofResolver]
      exact Attempt.guarded_inStep _ (evaluateTagged value tag)
    · rintro name _ state _ rfl
      exact .inr ⟨Coupling.outcomes_refl _, rfl⟩
  rcases inStep state state rfl with ⟨failure, fails, _⟩ | ⟨outcomes, states⟩
  · rw [comes] at fails
    cases fails
  · exact Prod.ext (Coupling.eq_of_outcomes _ id outcomes) states

end Formula

end Metrology
