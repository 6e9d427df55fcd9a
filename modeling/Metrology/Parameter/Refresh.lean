import Metrology.Formula.Evaluator
import Metrology.Parameter

/-!
# Refreshing parameters

A refresh brings the buffered amount of the active track up to date.  A formula
runs at most once in a pass, and listeners are notified when the amount
changes.
-/

namespace Metrology.Parameter

open Formula

variable {α σ : Type}

/-- What a refresh leaves. -/
structure Refreshed (α : Type) where
  outcome : Except Error Unit
  parameter : Parameter α
  notifications : List (Notification α)

/-- The outcome that was recorded under the last pass. -/
def recorded (parameter : Parameter α) : Except Error Unit :=
  match parameter.lastError with
  | some failure => .error failure
  | none => .ok ()

/-- The parameter with one more run of its formula counted, if it has one. -/
def counted (parameter : Parameter α) : Parameter α :=
  if parameter.activeState.source.isFormula then
    { parameter with evaluations := parameter.evaluations + 1 }
  else parameter

variable [Scalar α]

/-- Check that an amount can be shown in a unit expression, if there is one. -/
def checkUnit (unit : String) (amount : Amount α) : Calculation α σ Unit :=
  if unit.isEmpty then return ()
  else do
    let normalized ← Attempt.onFirst (Registry.normalizing unit)
    if normalized.dimension = amount.dimension then return ()
    else
      throw (.incompatible amount.dimension.text
        (unit ++ " [" ++ normalized.dimension.text ++ "]"))

/-- The new amount of a track, or nothing when a literal is buffered already. -/
def recompute (table : FunctionTable α) (resolve : Resolver α σ)
    (state : TrackState α) : Calculation α σ (Option (Amount α)) :=
  match state.source with
  | .literal value unit =>
      if !state.stale && state.cached.isSome then return none
      else do
        let amount ← Attempt.onFirst (Amount.ofUnit value unit)
        return some amount
  | .formula text unit => do
      let result ← evaluate table resolve text
      checkUnit unit result.amount
      return some result.amount

/-- Take up the outcome of recomputing the active track.  A failure drops what
was buffered, so that no value of an earlier pass is taken for a new one. -/
def takeUp (parameter : Parameter α) (pass : PassToken)
    (outcome : Except Error (Option (Amount α))) : Refreshed α :=
  let state := parameter.activeState
  let passed := { parameter with tracer := some pass, lastError := none }
  match outcome with
  | .ok none => ⟨.ok (), passed, []⟩
  | .ok (some fresh) =>
      let buffered := { state with cached := some fresh, stale := false }
      ⟨.ok (), passed.setActiveState buffered,
        if differs state.cached fresh then parameter.notices state.cached fresh
        else []⟩
  | .error failure =>
      let dropped := { state with cached := none, stale := true }
      let failed := { passed with lastError := some failure }
      ⟨.error failure, failed.setActiveState dropped, []⟩

/-- Refresh the active track for a pass.  Under the pass of the last refresh its
outcome stands; the empty pass always refreshes. -/
def refresh (parameter : Parameter α) (table : FunctionTable α) (pass : PassToken)
    (resolve : Resolver α σ) : StateM (Registry α × σ) (Refreshed α) := fun state =>
  if !pass.isEmpty && parameter.tracer == some pass then
    (⟨parameter.recorded, parameter, []⟩, state)
  else
    let (outcome, next) := recompute table resolve parameter.activeState state
    (parameter.counted.takeUp pass outcome, next)

end Metrology.Parameter
