import Metrology.Error

/-!
# Attempts

An attempt works on a state and may fail.  Whatever it did to the state before
it failed stays done.
-/

namespace Metrology

/-- A computation with a state that outlives failure. -/
abbrev Attempt (σ β : Type) := ExceptT Error (StateM σ) β

namespace Attempt

variable {σ τ β : Type}

/-- The outcome and the state afterwards. -/
def start (attempt : Attempt σ β) (state : σ) : Except Error β × σ :=
  attempt state

/-- An outcome that does not depend on the state. -/
def ofExcept (outcome : Except Error β) : Attempt σ β :=
  fun state => (outcome, state)

/-- A step that replaces the state when it succeeds. -/
def ofStep (step : σ → Except Error (β × σ)) : Attempt σ β := fun state =>
  match step state with
  | .ok (value, next) => (.ok value, next)
  | .error failure => (.error failure, state)

/-- An attempt on the first of two states. -/
def onFirst (attempt : Attempt σ β) : Attempt (σ × τ) β := fun state =>
  let (outcome, first) := attempt state.1
  (outcome, (first, state.2))

/-- The attempt with its failure replaced. -/
def mapFailure (change : Error → Error) (attempt : Attempt σ β) : Attempt σ β :=
  fun state =>
    let (outcome, next) := attempt state
    (outcome.mapError change, next)

end Attempt

end Metrology
