import Metrology.Parameter.Edit
import Metrology.Parameter.Refresh

/-!
# Parameter stores

A store owns parameters by id and resolves the references between their
formulas.  While the formula of a parameter runs, the parameter is no longer
idle; to ask for it again is a circular reference.  Each nested call has one
idle parameter fewer, so that every evaluation ends.
-/

namespace Metrology

/-- The parameters of a store, and what listeners have been told. -/
structure Pool (α : Type) where
  /-- The parameters in the order of registration. -/
  parameters : List (Parameter α)
  notifications : List (Notification α)

namespace Pool

variable {α : Type}

def ids (pool : Pool α) : List String :=
  pool.parameters.map (·.id)

def find? (pool : Pool α) (id : String) : Option (Parameter α) :=
  pool.parameters.find? (·.id == id)

/-- Put a changed parameter in its place and keep what was told of it. -/
def put (pool : Pool α) (parameter : Parameter α)
    (told : List (Notification α)) : Pool α :=
  { parameters := pool.parameters.map fun other =>
      if other.id = parameter.id then parameter else other
    notifications := pool.notifications ++ told }

end Pool

structure Store (α : Type) where
  registry : Registry α
  table : Formula.FunctionTable α
  pool : Pool α
  tokens : TokenSource

namespace Store

open Formula

variable {α : Type}

/-- The store without parameters. -/
def empty (registry : Registry α) (table : FunctionTable α) : Store α :=
  { registry
    table
    pool := ⟨[], []⟩
    tokens := .initial }

def ids (store : Store α) : List String :=
  store.pool.ids

def find? (store : Store α) (id : String) : Option (Parameter α) :=
  store.pool.find? id

def size (store : Store α) : Nat :=
  store.pool.parameters.length

/-- Add a parameter whose id is free. -/
def register (store : Store α) (parameter : Parameter α) : Except Error (Store α) :=
  if store.ids.contains parameter.id then
    .error (.duplicateParameter parameter.id)
  else
    .ok { store with
      pool := { store.pool with parameters := store.pool.parameters ++ [parameter] } }

/-- Take a parameter out. -/
def remove (store : Store α) (id : String) : Store α :=
  { store with
    pool := { store.pool with
      parameters := store.pool.parameters.filter (·.id != id) } }

variable [Scalar α]

/-! ## Resolving -/

/-- Refresh a parameter for a pass and return its amount.  The ids in `idle` may
be started; those in `running` have been started and are not finished, the
outermost first. -/
def resolve (table : FunctionTable α) (pass : PassToken)
    (idle running : List String) (id : String) : Calculation α (Pool α) (Amount α) :=
  fun state =>
    if running.contains id then
      (.error (.circular (running.dropWhile (· ≠ id) ++ [id])), state)
    else if _ : id ∈ idle then
      match state.2.find? id with
      | none => (.error (.unknownParameter id), state)
      | some parameter =>
          let (refreshed, registry, pool) :=
            parameter.refresh table pass
              (fun name => resolve table pass (idle.erase id) (running ++ [id]) name)
              state
          (refreshed.outcome.bind fun _ => refreshed.parameter.amount, registry,
            pool.put refreshed.parameter refreshed.notifications)
    else (.error (.unknownParameter id), state)
  termination_by idle.length
  decreasing_by
    have positive := List.length_pos_of_mem ‹id ∈ idle›
    rw [List.length_erase_of_mem ‹id ∈ idle›]
    omega

/-- Run a calculation on the registry and the parameters of a store. -/
def calculate {β : Type} (calculation : Calculation α (Pool α) β) :
    Attempt (Store α) β := fun store =>
  let (outcome, registry, pool) := calculation (store.registry, store.pool)
  (outcome, { store with registry, pool })

/-- Bring one parameter up to date for a pass and return its amount. -/
def evaluate (id : String) (pass : PassToken) : Attempt (Store α) (Amount α) :=
  fun store => calculate (resolve store.table pass store.ids [] id) store

/-- Bring parameters up to date one after another and collect the failures. -/
def updateEach (pass : PassToken) :
    List String → StateM (Store α) (List (String × Error))
  | [] => return []
  | id :: rest => fun store =>
      let (outcome, next) := evaluate id pass store
      let (failures, last) := updateEach pass rest next
      match outcome with
      | .ok _ => (failures, last)
      | .error failure => ((id, failure) :: failures, last)

/-- Bring every parameter up to date.  The failures are returned in the order of
registration. -/
def updateAll (pass : PassToken) : StateM (Store α) (List (String × Error)) :=
  fun store => updateEach pass store.ids store

/-- Update every parameter under a new token. -/
def runPass : StateM (Store α) (PassToken × List (String × Error)) := fun store =>
  let (pass, tokens) := store.tokens.mint
  let (failures, next) := updateAll pass { store with tokens }
  ((pass, failures), next)

/-! ## Changes in place -/

/-- Work on the registry of a store. -/
def onRegistry {β : Type} (attempt : Attempt (Registry α) β) : Attempt (Store α) β :=
  fun store =>
    let (outcome, registry) := attempt store.registry
    (outcome, { store with registry })

/-- Change the parameter with an id, if there is one. -/
def edit (id : String) (change : Parameter.Edit α) :
    Attempt (Store α) (Option Unit) := do
  match (← get).find? id with
  | none => return none
  | some parameter => do
      let (changed, told) ← onRegistry (parameter.edit change)
      modify fun store => { store with pool := store.pool.put changed told }
      return some ()

end Store

end Metrology
