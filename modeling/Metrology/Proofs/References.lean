import Mathlib.Data.List.TakeWhile
import Metrology.Proofs.Discipline
import Metrology.Proofs.Meaning

/-!
# References between parameters

The references between registered parameters are a graph.  A circular reference lists
a circle of it, and what formulas demand of each other in a pass walks along it.
-/

namespace Metrology

open Relation

theorem transGen_of_isChain {β : Type} {relation : β → β → Prop} {first last : β}
    {between : List β} (chain : (first :: between ++ [last]).IsChain relation) :
    TransGen relation first last := by
  induction between generalizing first with
  | nil => exact .single (by simpa using chain)
  | cons next rest ih =>
      obtain ⟨step, later⟩ := List.isChain_cons_cons.1 chain
      exact .head step (ih later)

/-! ## Circles -/

namespace Pool

variable {α : Type} [Scalar α] {pool : Pool α}

/-- The active formula of a registered parameter refers to a name. -/
def Refers (pool : Pool α) (id name : String) : Prop :=
  ∃ parameter, pool.find? id = some parameter ∧ parameter.activeState.source.Refers name

/-- Distinct registered ids of which each one refers to the next, and the last one to
the first, which is listed again at the end. -/
def Circle (pool : Pool α) (listed : List String) : Prop :=
  ∃ first rest, listed = first :: rest ++ [first] ∧ (first :: rest).Nodup ∧
    (∀ id ∈ first :: rest, id ∈ pool.ids) ∧ listed.IsChain pool.Refers

/-- Who is listed in a circle refers to itself through others. -/
theorem Circle.exists_transGen {listed : List String} (circle : pool.Circle listed) :
    ∃ id, TransGen pool.Refers id id := by
  obtain ⟨first, rest, rfl, _, _, chain⟩ := circle
  exact ⟨first, transGen_of_isChain chain⟩

/-- Distinct registered ids that run inside one another: each one refers to the next. -/
structure Trail (pool : Pool α) (running : List String) : Prop where
  nodup : running.Nodup
  registered : ∀ id ∈ running, id ∈ pool.ids
  chain : running.IsChain pool.Refers

/-- The innermost running formula, if there is one, refers to a name. -/
def Asks (pool : Pool α) (running : List String) (name : String) : Prop :=
  ∀ last ∈ running.getLast?, pool.Refers last name

namespace Trail

theorem nil (pool : Pool α) : pool.Trail [] :=
  ⟨.nil, nofun, .nil⟩

theorem isChain_asked {running : List String} (trail : pool.Trail running) {name : String}
    (asks : pool.Asks running name) : (running ++ [name]).IsChain pool.Refers := by
  refine List.isChain_append.2 ⟨trail.chain, .singleton name, ?_⟩
  intro last isLast next isNext
  cases isNext
  exact asks last isLast

/-- A registered id that is asked for and does not run yet may start. -/
theorem concat {running : List String} (trail : pool.Trail running) {id : String}
    (waiting : id ∉ running) (known : id ∈ pool.ids) (asks : pool.Asks running id) :
    pool.Trail (running ++ [id]) where
  nodup := by
    rw [← List.concat_eq_append]
    exact trail.nodup.concat waiting
  registered other member := by
    rcases List.mem_append.1 member with earlier | last
    · exact trail.registered other earlier
    · rwa [List.mem_singleton.1 last]
  chain := trail.isChain_asked asks

/-- An id that runs and is asked for again closes a circle. -/
theorem circle {running : List String} (trail : pool.Trail running) {id : String}
    (runs : id ∈ running) (asks : pool.Asks running id) :
    pool.Circle (running.dropWhile (· ≠ id) ++ [id]) := by
  have suffixed : running.dropWhile (· ≠ id) <:+ running := List.dropWhile_suffix _
  have nonempty : running.dropWhile (· ≠ id) ≠ [] := by
    intro empty
    have passed := List.dropWhile_eq_nil_iff.1 empty id runs
    simp at passed
  obtain ⟨first, rest, split⟩ := List.exists_cons_of_ne_nil nonempty
  have same : first = id := by
    have stopped := List.head_dropWhile_not (· ≠ id) nonempty
    simp only [split, List.head_cons] at stopped
    simpa using stopped
  subst same
  rw [split] at suffixed ⊢
  refine ⟨first, rest, rfl, trail.nodup.sublist suffixed.sublist,
    fun other member => trail.registered other (suffixed.subset member), ?_⟩
  obtain ⟨front, joined⟩ := suffixed
  exact (trail.isChain_asked asks).suffix ⟨front, by rw [← List.append_assoc, joined]⟩

end Trail

end Pool

/-! ## Demands -/

/-- What a running formula asked for, and the answer. -/
structure Demand (α : Type) where
  /-- The ids that ran, the outermost first. -/
  running : List String
  asked : String
  outcome : Except Error (Amount α)

variable {α : Type}

/-- The innermost running formula of a demand is that of `id`, and it asked for
`name`. -/
def Demand.Of (demand : Demand α) (id name : String) : Prop :=
  demand.running.getLast? = some id ∧ demand.asked = name

/-- The formula of `id` asked for `name` in one of the demands. -/
def Demanded (demands : List (Demand α)) (id name : String) : Prop :=
  ∃ demand ∈ demands, demand.Of id name

/-- The formula of `id` asked for `name` and got anything but a circular reference. -/
def Granted (demands : List (Demand α)) (id name : String) : Prop :=
  ∃ demand ∈ demands, Settled demand.outcome ∧ demand.Of id name

/-- Whoever granted a demand has finished, and neither asked then nor asks later. -/
structure Orderly (demands : List (Demand α)) : Prop where
  self : ∀ demand ∈ demands, Settled demand.outcome →
    demand.running.getLast? ≠ some demand.asked
  later : demands.Pairwise fun earlier later =>
    Settled earlier.outcome → later.running.getLast? ≠ some earlier.asked

namespace Orderly

variable {demand : Demand α} {demands : List (Demand α)}

theorem tail (orderly : Orderly (demand :: demands)) : Orderly demands :=
  ⟨fun other member => orderly.self other (List.mem_cons_of_mem _ member),
    (List.pairwise_cons.1 orderly.later).2⟩

/-- Nobody who granted the first demand asks for anything. -/
theorem not_granted (orderly : Orderly (demand :: demands)) (settled : Settled demand.outcome)
    (name : String) : ¬Granted (demand :: demands) demand.asked name := by
  rintro ⟨other, member, _, asks, _⟩
  rcases List.mem_cons.1 member with rfl | member
  · exact orderly.self _ List.mem_cons_self settled asks
  · exact (List.pairwise_cons.1 orderly.later).1 other member settled asks

/-- A walk along granted demands uses the first one for its last step at most. -/
theorem transGen_tail (orderly : Orderly (demand :: demands)) {id name : String}
    (walk : TransGen (Granted (demand :: demands)) id name) :
    TransGen (Granted demands) id name ∨ (Settled demand.outcome ∧ name = demand.asked) := by
  induction walk with
  | single step =>
      obtain ⟨other, member, settled, asks, rfl⟩ := step
      rcases List.mem_cons.1 member with rfl | member
      · exact .inr ⟨settled, rfl⟩
      · exact .inl (.single ⟨other, member, settled, asks, rfl⟩)
  | tail _ step ih =>
      obtain ⟨other, member, settled, asks, rfl⟩ := step
      rcases List.mem_cons.1 member with rfl | member
      · exact .inr ⟨settled, rfl⟩
      · rcases ih with walk | ⟨granted, rfl⟩
        · exact .inl (walk.tail ⟨other, member, settled, asks, rfl⟩)
        · exact absurd ⟨other, List.mem_cons_of_mem _ member, settled, asks, rfl⟩
            (orderly.not_granted granted other.asked)

/-- Granted demands lead nobody back to itself. -/
theorem acyclic (orderly : Orderly demands) (id : String) :
    ¬TransGen (Granted demands) id id := by
  induction demands with
  | nil =>
      intro walk
      obtain ⟨_, ⟨_, member, _⟩, _⟩ := TransGen.head'_iff.1 walk
      cases member
  | cons demand rest ih =>
      intro walk
      rcases orderly.transGen_tail walk with shorter | ⟨settled, rfl⟩
      · exact ih orderly.tail shorter
      · obtain ⟨name, step, _⟩ := TransGen.head'_iff.1 walk
        exact orderly.not_granted settled name step

end Orderly

end Metrology
