import Metrology.Amount
import Metrology.Pass

/-!
# Parameters

A parameter is a named value with a default track and perhaps an override
track, each a literal or a formula, and the amount that was buffered from it.
Values are read from the active track.
-/

namespace Metrology

inductive Track where
  | default
  | override
  deriving DecidableEq, Repr

def Track.name : Track → String
  | .default => "default"
  | .override => "override"

/-- Where the value of a track comes from.  The unit of a formula is the one its
value is shown in; without one it is shown on the SI scale. -/
inductive Source (α : Type) where
  | literal (value : α) (unit : String)
  | formula (text unit : String)
  deriving DecidableEq, Repr

namespace Source

variable {α : Type}

def unit : Source α → String
  | .literal _ unit => unit
  | .formula _ unit => unit

def isFormula : Source α → Bool
  | .literal _ _ => false
  | .formula _ _ => true

end Source

/-- A source and the amount buffered from it. -/
structure TrackState (α : Type) where
  source : Source α
  cached : Option (Amount α)
  stale : Bool
  deriving DecidableEq, Repr

/-- A source from which nothing has been buffered. -/
def TrackState.unbuffered {α : Type} (source : Source α) : TrackState α :=
  ⟨source, none, true⟩

/-- What a listener is told. -/
structure Notification (α : Type) where
  listener : String
  id : String
  old : Option (Amount α)
  new : Amount α
  deriving DecidableEq, Repr

structure Parameter (α : Type) where
  id : String
  name : Option String := none
  notes : String := ""
  modifiedBy : String := ""
  modifiedOn : String := ""
  defaultTrack : TrackState α
  overrideTrack : Option (TrackState α) := none
  active : Track := .default
  /-- The last pass under which the parameter was refreshed. -/
  tracer : Option PassToken := none
  /-- The failure under that pass, if it failed. -/
  lastError : Option Error := none
  /-- How often a formula has been run. -/
  evaluations : Nat := 0
  listeners : List String := []
  deriving DecidableEq, Repr

namespace Parameter

variable {α : Type}

/-! ## Tracks -/

def track? (parameter : Parameter α) : Track → Option (TrackState α)
  | .default => some parameter.defaultTrack
  | .override => parameter.overrideTrack

/-- The state that values are read from. -/
def activeState (parameter : Parameter α) : TrackState α :=
  (parameter.track? parameter.active).getD parameter.defaultTrack

/-- Replace the state of a track. -/
def setState (parameter : Parameter α) (state : TrackState α) : Track → Parameter α
  | .default => { parameter with defaultTrack := state }
  | .override => { parameter with overrideTrack := some state }

/-- Replace the state that values are read from. -/
def setActiveState (parameter : Parameter α) (state : TrackState α) : Parameter α :=
  match parameter.active, parameter.overrideTrack with
  | .override, some _ => parameter.setState state .override
  | _, _ => parameter.setState state .default

/-- The state of a track once a source has been written to it.  What is
buffered stays. -/
def written (parameter : Parameter α) (source : Source α) (track : Track) :
    TrackState α :=
  match parameter.track? track with
  | some state => { state with source }
  | none => .unbuffered source

/-- The parameter without memory of its last pass. -/
def forget (parameter : Parameter α) : Parameter α :=
  { parameter with tracer := none, lastError := none }

def isStale (parameter : Parameter α) : Bool :=
  parameter.activeState.stale

/-- The unit expression of the active track. -/
def unit (parameter : Parameter α) : String :=
  parameter.activeState.source.unit

/-! ## Changes -/

/-- Make the next pass refresh the active track. -/
def markStale (parameter : Parameter α) : Parameter α :=
  let forgotten := parameter.forget
  forgotten.setActiveState { forgotten.activeState with stale := true }

/-- Choose the track that values are read from. -/
def setActive (parameter : Parameter α) (track : Track) :
    Except Error (Parameter α) :=
  if track = .override ∧ parameter.overrideTrack.isNone then
    .error (.evaluation s!"parameter '{parameter.id}' has no override track")
  else if parameter.active = track then .ok parameter
  else .ok { parameter with active := track }.markStale

/-- Drop the override track and read from the default one. -/
def clearOverride (parameter : Parameter α) : Parameter α :=
  { parameter with overrideTrack := none, active := .default }.markStale

/-- Write a formula to a track.  It runs in the next refresh. -/
def setFormula (parameter : Parameter α) (track : Track) (text unit : String) :
    Parameter α :=
  let state := { parameter.written (.formula text unit) track with stale := true }
  (parameter.setState state track).forget

/-- Tell every listener of a change. -/
def notices (parameter : Parameter α) (old : Option (Amount α)) (new : Amount α) :
    List (Notification α) :=
  parameter.listeners.map fun listener =>
    { listener, id := parameter.id, old, new }

variable [Scalar α]

/-- Whether an amount is not the one that was buffered. -/
def differs (old : Option (Amount α)) (new : Amount α) : Bool :=
  match old with
  | none => true
  | some old => !old.same new

/-- Write a literal to a track.  Listeners are told if the track is active and
its amount changed. -/
def setLiteral (parameter : Parameter α) (track : Track) (value : α)
    (unit : String) : Attempt (Registry α) (Parameter α × List (Notification α)) := do
  let amount ← Amount.ofUnit value unit
  let before := parameter.written (.literal value unit) track
  let state := { before with cached := some amount, stale := false }
  let changed := (parameter.setState state track).forget
  if track = parameter.active ∧ differs before.cached amount then
    return (changed, changed.notices before.cached amount)
  else return (changed, [])

/-! ## Making parameters -/

/-- A parameter with a literal, buffered at once. -/
def literal (id : String) (value : α) (unit : String) :
    Attempt (Registry α) (Parameter α) := do
  let amount ← Amount.ofUnit value unit
  return { id, defaultTrack := ⟨.literal value unit, some amount, false⟩ }

omit [Scalar α] in
/-- A parameter with a formula that has not run. -/
def formula (id text unit : String) : Parameter α :=
  { id, defaultTrack := .unbuffered (.formula text unit) }

/-! ## Reading values -/

omit [Scalar α] in
/-- The amount buffered on the active track. -/
def amount (parameter : Parameter α) : Except Error (Amount α) :=
  match parameter.activeState.cached with
  | some amount => .ok amount
  | none => .error (.evaluation s!"parameter '{parameter.id}' has not been evaluated")

/-- The buffered amount as a value of a unit expression; on the SI scale when
that is empty. -/
def cachedIn (parameter : Parameter α) (unit : String) :
    Attempt (Registry α) α := do
  let amount ← Attempt.ofExcept parameter.amount
  if unit.isEmpty then return amount.magnitude else amount.inUnit unit

/-- The value of the active track in its own unit. -/
def value (parameter : Parameter α) : Attempt (Registry α) α :=
  match parameter.activeState.source with
  | .literal value unit =>
      if parameter.activeState.stale then parameter.cachedIn unit else return value
  | .formula _ unit => parameter.cachedIn unit

end Parameter

end Metrology
