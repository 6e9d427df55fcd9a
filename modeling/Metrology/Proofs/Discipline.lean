import Metrology.Proofs.Composing
import Metrology.Proofs.Failures
import Metrology.Proofs.Refresh

/-!
# What references keep

A formula touches the state of its resolver through its references alone.  So what
every reference keeps, the whole formula keeps, and a circular reference that it
ends with is one that a reference ended with.
-/

namespace Metrology

open Formula

/-! ## Names that sources refer to -/

/-- The names that a formula refers to. -/
def Source.Refers {α : Type} [Scalar α] (source : Source α) (name : String) : Prop :=
  match source with
  | .literal _ _ => False
  | .formula text _ => ∃ names, references α text = .ok names ∧ name ∈ names

/-! ## Disciplines -/

/-- What an attempt keeps to: what holds of the state before it and after it
succeeded, and what holds after a failure. -/
structure Discipline (σ : Type) where
  holds : σ → Prop
  fails : Error → σ → Prop
  /-- A failure that is no circular reference disturbs nothing. -/
  settled : ∀ {failure inner}, failure.isCircular = false → holds inner → fails failure inner
  /-- It does not matter how a failure of a reference is reported. -/
  reported : ∀ {name failure inner}, fails failure inner →
    fails (referenceFailure name failure) inner

namespace Discipline

variable {α σ β γ : Type}

/-- What holds after an outcome. -/
def After (discipline : Discipline σ) (outcome : Except Error β) (inner : σ) : Prop :=
  match outcome with
  | .ok _ => discipline.holds inner
  | .error failure => discipline.fails failure inner

/-- The discipline of what holds after failures, too. -/
def always (holds : σ → Prop) : Discipline σ where
  holds := holds
  fails _ := holds
  settled _ held := held
  reported held := held

theorem after_always {holds : σ → Prop} {outcome : Except Error β} {inner : σ} :
    (always holds).After outcome inner ↔ holds inner := by
  cases outcome <;> exact Iff.rfl

/-- Whatever the registry is, the attempt keeps to the discipline. -/
def Keeps (discipline : Discipline σ) (attempt : Calculation α σ β) : Prop :=
  ∀ registry inner, discipline.holds inner →
    discipline.After (attempt.start (registry, inner)).1 (attempt.start (registry, inner)).2.2

variable {discipline : Discipline σ}

theorem After.of_settled {outcome : Except Error β} {inner : σ} (settled : Settled outcome)
    (held : discipline.holds inner) : discipline.After outcome inner := by
  cases outcome with
  | ok value => exact held
  | error failure => exact discipline.settled settled held

theorem keeps_ofExcept {outcome : Except Error β} (settled : Settled outcome) :
    discipline.Keeps (Attempt.ofExcept outcome : Calculation α σ β) :=
  fun _ _ held => .of_settled settled held

/-- What holds after failures, too, is kept by all that leaves the state alone. -/
theorem keeps_always_ofExcept {holds : σ → Prop} (outcome : Except Error β) :
    (always holds).Keeps (Attempt.ofExcept outcome : Calculation α σ β) :=
  fun _ _ held => after_always.2 held

theorem keeps_pure (value : β) : discipline.Keeps (pure value : Calculation α σ β) :=
  keeps_ofExcept (settled_ok value)

theorem keeps_throw {failure : Error} (notCircular : failure.isCircular = false) :
    discipline.Keeps (throw failure : Calculation α σ β) :=
  fun _ _ held => discipline.settled notCircular held

theorem keeps_onFirst {attempt : Attempt (Registry α) β}
    (settled : ∀ registry, Settled (attempt.start registry).1) :
    discipline.Keeps (Attempt.onFirst attempt : Calculation α σ β) :=
  fun registry _ held => .of_settled (settled registry) held

theorem keeps_bind {attempt : Calculation α σ β} {next : β → Calculation α σ γ}
    (first : discipline.Keeps attempt) (later : ∀ value, discipline.Keeps (next value)) :
    discipline.Keeps (attempt >>= next) := by
  intro registry inner held
  have after := first registry inner held
  cases outcome : (attempt.start (registry, inner)).1 with
  | error failure =>
      rw [outcome] at after
      rw [Attempt.start_bind_of_error outcome]
      exact after
  | ok value =>
      rw [outcome] at after
      rw [Attempt.start_bind_of_ok outcome]
      exact later value _ _ after

/-- What comes after an outcome may rely on its value. -/
theorem keeps_bind_ofExcept {outcome : Except Error β} {next : β → Calculation α σ γ}
    (settled : Settled outcome)
    (later : ∀ value, outcome = .ok value → discipline.Keeps (next value)) :
    discipline.Keeps (Attempt.ofExcept outcome >>= next) := by
  cases outcome with
  | ok value => exact later value rfl
  | error failure => exact fun _ _ held => discipline.settled settled held

theorem keeps_map {attempt : Calculation α σ β} (change : β → γ)
    (keeps : discipline.Keeps attempt) : discipline.Keeps (change <$> attempt) := by
  rw [map_eq_pure_bind]
  exact keeps_bind keeps fun value => keeps_pure (change value)

theorem keeps_reference {resolve : Resolver α σ} {name : String}
    (keeps : discipline.Keeps (resolve name)) :
    discipline.Keeps (evaluateReference resolve name) := by
  refine keeps_bind ?_ fun amount => keeps_pure _
  intro registry inner held
  have after := keeps registry inner held
  rw [Attempt.start_mapFailure]
  cases outcome : ((resolve name).start (registry, inner)).1 with
  | ok amount =>
      rw [outcome] at after
      exact after
  | error failure =>
      rw [outcome] at after
      exact discipline.reported after

variable [Scalar α]

theorem keeps_normalizing (expression : String) :
    discipline.Keeps (Attempt.onFirst (Registry.normalizing expression) :
      Calculation α σ (Normalized α)) :=
  keeps_onFirst (Registry.settled_normalizing expression)

end Discipline

/-! ## Formulas -/

namespace Formula.Expression

open Discipline

variable {α σ : Type} [Scalar α] {discipline : Discipline σ} {table : FunctionTable α}
  {resolve : Resolver α σ}

/-- What all references keep and no function breaks, evaluation keeps. -/
theorem composes_keeps (functions : ∀ name arguments, discipline.Keeps
      (Attempt.ofExcept (table.call name arguments) : Calculation α σ (Tagged α))) :
    Composes (fun _ _ names _ calculation =>
        (∀ name ∈ names, discipline.Keeps (resolve name)) → discipline.Keeps calculation)
      table (.ofResolver resolve) (fun _ => True) where
  untagged _ := trivial
  negate _ := trivial
  tagged _ tag _ := keeps_bind (keeps_normalizing tag) fun _ => keeps_pure _
  reference name references := keeps_reference (references name List.mem_cons_self)
  operator operator left right _ := keeps_ofExcept (settled_applyOperator operator left right)
  call name arguments _ := functions name arguments
  refuse _ _ := keeps_throw rfl
  done _ _ := keeps_pure _
  bind first later references :=
    keeps_bind (first fun name member => references name (List.mem_append_left _ member))
      fun value => later value fun name member => references name (List.mem_append_right _ member)
  weaken keeps _ _ := keeps
  among keeps fewer references := keeps fun name member => references name (fewer.subset member)

theorem evaluate_keeps (functions : ∀ name arguments, discipline.Keeps
      (Attempt.ofExcept (table.call name arguments) : Calculation α σ (Tagged α)))
    (expression : Expression α)
    (references : ∀ name ∈ expression.occurrences, discipline.Keeps (resolve name)) :
    discipline.Keeps (expression.evaluate table (.ofResolver resolve)) :=
  (composes_keeps functions).evaluate expression references

end Formula.Expression

/-! ## Refreshing -/

namespace Parameter

open Discipline

variable {α σ : Type} [Scalar α] {discipline : Discipline σ} {resolve : Resolver α σ}

theorem checkUnit_keeps (unit : String) (amount : Amount α) :
    discipline.Keeps (checkUnit unit amount : Calculation α σ Unit) := by
  unfold checkUnit
  split
  · exact keeps_pure _
  · refine keeps_bind (keeps_normalizing unit) fun normalized => ?_
    split
    · exact keeps_pure _
    · exact keeps_throw rfl

/-- Recomputing keeps what the references of its source keep. -/
theorem recompute_keeps {table : FunctionTable α} (functions : ∀ name arguments, discipline.Keeps
      (Attempt.ofExcept (table.call name arguments) : Calculation α σ (Tagged α)))
    (track : TrackState α)
    (references : ∀ name, track.source.Refers name → discipline.Keeps (resolve name)) :
    discipline.Keeps (recompute table resolve track) := by
  cases source : track.source with
  | literal value unit =>
      unfold recompute
      rw [source]
      simp only
      split
      · exact keeps_pure _
      · rw [onFirst_ofUnit]
        exact keeps_bind (keeps_bind (keeps_normalizing unit) fun normalized => keeps_pure _)
          fun amount => keeps_pure _
  | formula text unit =>
      rw [recompute_formula table resolve source]
      refine keeps_map _ (keeps_bind ?_ fun value => ?_)
      · refine keeps_bind_ofExcept (settled_parse text) fun expression parsed => ?_
        refine Expression.evaluate_keeps functions expression fun name member => references name ?_
        rw [source]
        exact ⟨expression.references, by rw [Formula.references, parsed],
          List.mem_eraseDups.2 member⟩
      · exact keeps_bind (checkUnit_keeps unit value.amount) fun _ => keeps_pure _

end Parameter

end Metrology
