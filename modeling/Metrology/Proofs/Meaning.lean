import Metrology.Proofs.Refresh
import Metrology.Store

/-!
# What parameters mean

Following references to a growing depth gives every parameter an outcome that
does not change once it is settled.  A parameter that is never settled depends
on itself.
-/

namespace Metrology.Pool

open Formula

variable {α : Type} [Scalar α] (table : FunctionTable α) (registry : Registry α)
  (pool : Pool α)

/-- The registry grows at none of the unit expressions of the active sources. -/
def Covered : Prop :=
  ∀ parameter ∈ pool.parameters, ∀ expression,
    parameter.activeState.source.Mentions expression → registry.Covers expression

/-- The outcome of a parameter whose references are followed to a depth.  What
lies deeper counts as circular. -/
def outcomeAt : Nat → String → Except Error (Amount α)
  | 0, id => .error (.circular [id])
  | depth + 1, id =>
      match pool.find? id with
      | none => .error (.unknownParameter id)
      | some parameter => parameter.worth table registry (outcomeAt depth)

variable {table registry pool}

omit [Scalar α] in
theorem mem_of_find? {id : String} {parameter : Parameter α}
    (found : pool.find? id = some parameter) : parameter ∈ pool.parameters :=
  List.mem_of_find?_eq_some found

omit [Scalar α] in
theorem id_of_find? {id : String} {parameter : Parameter α}
    (found : pool.find? id = some parameter) : parameter.id = id := by
  simpa using List.find?_some found

omit [Scalar α] in
theorem find?_isSome_iff {id : String} : (pool.find? id).isSome = true ↔ id ∈ pool.ids := by
  simp [find?, ids]

theorem outcomeAt_succ_of_none {id : String} (missing : pool.find? id = none)
    (depth : Nat) :
    outcomeAt table registry pool (depth + 1) id = .error (.unknownParameter id) := by
  rw [outcomeAt, missing]

theorem outcomeAt_succ_of_some {id : String} {parameter : Parameter α}
    (found : pool.find? id = some parameter) (depth : Nat) :
    outcomeAt table registry pool (depth + 1) id =
      parameter.worth table registry (outcomeAt table registry pool depth) := by
  rw [outcomeAt, found]

/-- A settled outcome is the same one step deeper. -/
theorem outcomeAt_succ_of_settled (covered : pool.Covered registry) {depth : Nat}
    {id : String} (settled : Settled (outcomeAt table registry pool depth id)) :
    outcomeAt table registry pool (depth + 1) id =
      outcomeAt table registry pool depth id := by
  induction depth generalizing id with
  | zero => cases settled
  | succ depth ih =>
      cases found : pool.find? id with
      | none => rw [outcomeAt_succ_of_none found, outcomeAt_succ_of_none found]
      | some parameter =>
          rw [outcomeAt_succ_of_some found] at settled
          rw [outcomeAt_succ_of_some found, outcomeAt_succ_of_some found]
          have references (name : String) :
              (True ∧ ¬ Settled (outcomeAt table registry pool depth name)) ∨
                Alike (outcomeAt table registry pool depth name)
                  (outcomeAt table registry pool (depth + 1) name) := by
            by_cases reached : Settled (outcomeAt table registry pool depth name)
            · rw [ih reached]
              exact .inr (.refl _)
            · exact .inl ⟨trivial, reached⟩
          rcases Parameter.worth_alike table (covered parameter (mem_of_find? found))
            references with ⟨_, unsettled⟩ | alike
          · exact absurd settled unsettled
          · exact (alike.eq_of_settled settled).symm

theorem outcomeAt_of_le (covered : pool.Covered registry) {depth deeper : Nat}
    {id : String} (settled : Settled (outcomeAt table registry pool depth id))
    (le : depth ≤ deeper) :
    outcomeAt table registry pool deeper id = outcomeAt table registry pool depth id := by
  induction le with
  | refl => rfl
  | step _ ih => rw [outcomeAt_succ_of_settled covered (by rwa [ih]), ih]

/-! ## Depths at which everything is settled -/

variable (table registry pool) in
/-- Whatever is settled at any depth is settled at this one. -/
def Complete (depth : Nat) : Prop :=
  ∀ other id, Settled (outcomeAt table registry pool other id) →
    Settled (outcomeAt table registry pool depth id)

variable (table) in
/-- There are finitely many parameters to settle. -/
theorem exists_settling (covered : pool.Covered registry) (names : List String) :
    ∃ depth, ∀ id ∈ names, ∀ other,
      Settled (outcomeAt table registry pool other id) →
        Settled (outcomeAt table registry pool depth id) := by
  induction names with
  | nil => exact ⟨0, fun _ absent => absurd absent List.not_mem_nil⟩
  | cons name rest ih =>
      obtain ⟨depth, settles⟩ := ih
      by_cases reached : ∃ other, Settled (outcomeAt table registry pool other name)
      · obtain ⟨other, settled⟩ := reached
        refine ⟨max depth other, ?_⟩
        intro id member some_depth some_settled
        rcases List.mem_cons.1 member with rfl | later
        · rwa [outcomeAt_of_le covered settled (le_max_right depth other)]
        · have at_depth := settles id later some_depth some_settled
          rwa [outcomeAt_of_le covered at_depth (le_max_left depth other)]
      · refine ⟨depth, ?_⟩
        intro id member some_depth some_settled
        rcases List.mem_cons.1 member with rfl | later
        · exact absurd ⟨some_depth, some_settled⟩ reached
        · exact settles id later some_depth some_settled

variable (table) in
theorem exists_complete (covered : pool.Covered registry) :
    ∃ depth, Complete table registry pool depth := by
  obtain ⟨depth, settles⟩ := exists_settling table covered pool.ids
  refine ⟨depth + 1, ?_⟩
  intro other id settled
  cases found : pool.find? id with
  | none =>
      rw [outcomeAt_succ_of_none found]
      rfl
  | some parameter =>
      have registered : id ∈ pool.ids := find?_isSome_iff.1 (by rw [found]; rfl)
      have reached := settles id registered other settled
      rwa [outcomeAt_succ_of_settled covered reached]

/-- At a complete depth, one step more changes nothing. -/
theorem Complete.alike_succ (covered : pool.Covered registry) {depth : Nat}
    (complete : Complete table registry pool depth) (id : String) :
    Alike (outcomeAt table registry pool depth id)
      (outcomeAt table registry pool (depth + 1) id) := by
  by_cases settled : Settled (outcomeAt table registry pool depth id)
  · rw [outcomeAt_succ_of_settled covered settled]
    exact .refl _
  · exact alike_of_not_settled settled fun later => settled (complete (depth + 1) id later)

/-- Outcomes that are settled at two depths are equal. -/
theorem outcomeAt_eq (covered : pool.Covered registry) {depth other : Nat} {id : String}
    (settled : Settled (outcomeAt table registry pool depth id))
    (alsoSettled : Settled (outcomeAt table registry pool other id)) :
    outcomeAt table registry pool depth id = outcomeAt table registry pool other id := by
  rw [← outcomeAt_of_le covered settled (le_max_left depth other),
    outcomeAt_of_le covered alsoSettled (le_max_right depth other)]

theorem Complete.of_none (covered : pool.Covered registry) {depth : Nat}
    (complete : Complete table registry pool depth) {id : String}
    (missing : pool.find? id = none) :
    outcomeAt table registry pool depth id = .error (.unknownParameter id) := by
  have settled : Settled (outcomeAt table registry pool 1 id) := by
    rw [outcomeAt_succ_of_none missing]
    rfl
  rw [outcomeAt_eq covered (complete 1 id settled) settled,
    outcomeAt_succ_of_none missing]

/-! ## Chains of references -/

variable (table registry pool) in
/-- An id is settled at a lesser depth than each of the running ones that is
settled at all. -/
def Descends (running : List String) (id : String) : Prop :=
  ∀ outer ∈ running, ∀ depth, Settled (outcomeAt table registry pool depth outer) →
    ∃ lesser < depth, Settled (outcomeAt table registry pool lesser id)

/-- An id that is running already cannot be settled. -/
theorem Descends.not_settled {running : List String} {id : String}
    (descends : Descends table registry pool running id) (cyclic : id ∈ running)
    (depth : Nat) : ¬ Settled (outcomeAt table registry pool depth id) := by
  induction depth using Nat.strong_induction_on with
  | _ depth ih =>
      intro settled
      obtain ⟨lesser, less, earlier⟩ := descends id cyclic depth settled
      exact ih lesser less earlier

/-- References of a parameter that is settled one step deeper keep the order. -/
theorem Descends.of_settled {running : List String} {id name : String} {depth : Nat}
    (descends : Descends table registry pool running id)
    (least : ∀ other, Settled (outcomeAt table registry pool other id) → depth < other)
    (settled : Settled (outcomeAt table registry pool depth name)) :
    Descends table registry pool (running ++ [id]) name := by
  intro outer member some_depth some_settled
  refine ⟨depth, ?_, settled⟩
  rcases List.mem_append.1 member with earlier | last
  · obtain ⟨lesser, less, reached⟩ := descends outer earlier some_depth some_settled
    exact lt_trans (least lesser reached) less
  · rw [List.mem_singleton.1 last] at some_settled
    exact least some_depth some_settled

/-- Below a parameter that is never settled the order asks for nothing. -/
theorem Descends.of_not_settled {running : List String} {id name : String}
    (descends : Descends table registry pool running id)
    (never : ∀ depth, ¬ Settled (outcomeAt table registry pool depth id)) :
    Descends table registry pool (running ++ [id]) name := by
  intro outer member some_depth some_settled
  rcases List.mem_append.1 member with earlier | last
  · obtain ⟨lesser, _, reached⟩ := descends outer earlier some_depth some_settled
    exact absurd reached (never lesser)
  · rw [List.mem_singleton.1 last] at some_settled
    exact absurd some_settled (never some_depth)

/-- A parameter that is settled at some depth is settled first below a depth. -/
theorem exists_least {id : String}
    (reached : ∃ depth, Settled (outcomeAt table registry pool depth id)) :
    ∃ depth, Settled (outcomeAt table registry pool (depth + 1) id) ∧
      ∀ other, Settled (outcomeAt table registry pool other id) → depth < other := by
  classical
  have settled := Nat.find_spec reached
  have least {other : Nat} (early : Settled (outcomeAt table registry pool other id)) :=
    Nat.find_min' reached early
  cases first : Nat.find reached with
  | zero =>
      rw [first] at settled
      cases settled
  | succ depth =>
      rw [first] at settled least
      exact ⟨depth, settled, fun other early => least early⟩

/-- A formula ends with what its parameter means as soon as references do that
keep the order. -/
theorem recompute_endsAs (covered : pool.Covered registry) {depth : Nat}
    (complete : Complete table registry pool depth) {running : List String} {id : String}
    (descends : Descends table registry pool running id) {parameter : Parameter α}
    (found : pool.find? id = some parameter) {σ : Type} {invariant : σ → Prop}
    {resolve : Resolver α σ}
    (references : ∀ name, Descends table registry pool (running ++ [id]) name →
      ∀ inner, invariant inner →
        EndsAs registry invariant False (outcomeAt table registry pool depth name)
          ((resolve name).start (registry, inner)))
    {inner : σ} (holds : invariant inner) :
    EndsAs registry invariant False (outcomeAt table registry pool depth id)
      (parameter.result ((Parameter.recompute table resolve parameter.activeState).start
          (registry, inner)).1,
        ((Parameter.recompute table resolve parameter.activeState).start
          (registry, inner)).2) := by
  have mentioned := covered parameter (mem_of_find? found)
  by_cases reached : ∃ other, Settled (outcomeAt table registry pool other id)
  · obtain ⟨depth', settled, least⟩ := exists_least reached
    have earlier (name : String) (inner : σ) (holds : invariant inner) :
        EndsAs registry invariant True (outcomeAt table registry pool depth' name)
          ((resolve name).start (registry, inner)) := by
      by_cases early : Settled (outcomeAt table registry pool depth' name)
      · rw [outcomeAt_eq covered early (complete depth' name early)]
        rcases references name (descends.of_settled least early) inner holds with
          ⟨impossible, _⟩ | ends
        · exact impossible.elim
        · exact .inr ends
      · -- The formula cannot have asked for this name, or it would not be settled.
        exact .inl ⟨trivial, early⟩
    have ends := Parameter.recompute_endsAs table mentioned earlier holds
    rw [← outcomeAt_succ_of_some found] at ends
    rcases ends with ⟨_, unsettled⟩ | ⟨alike, kept⟩
    · exact absurd settled unsettled
    · rw [outcomeAt_eq covered settled (complete _ id settled)] at alike
      exact .inr ⟨alike, kept⟩
  · have never : ∀ other, ¬ Settled (outcomeAt table registry pool other id) :=
      fun other settled => reached ⟨other, settled⟩
    have ends := Parameter.recompute_endsAs table mentioned
      (fun name => references name (descends.of_not_settled never)) holds
    rw [← outcomeAt_succ_of_some found] at ends
    rcases ends with ⟨impossible, _⟩ | ⟨alike, kept⟩
    · exact impossible.elim
    · exact .inr ⟨(complete.alike_succ covered id).trans alike, kept⟩

end Metrology.Pool
