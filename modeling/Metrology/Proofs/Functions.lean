import Metrology.Formula.Function
import Metrology.Proofs.Alike

/-!
# Functions in formulas

Any rule may stand behind the name of a function.  The functions of the standard table are plain:
they map pure numbers, or return their argument.  What is said here holds of every table of plain
functions, whatever maps of numbers they are.
-/

namespace Metrology.Formula

variable {α : Type}

/-! ## Plain functions -/

/-- A function of one pure number, or the placeholder. -/
inductive FormulaFunction.Plain : FormulaFunction α → Prop where
  | math (name description usage : String) (apply : α → α) :
      Plain (.math name description usage apply)
  | noop : Plain .noop

namespace FunctionTable

/-- All functions of the table are plain. -/
def Plain (table : FunctionTable α) : Prop :=
  ∀ entry ∈ table.functions, entry.2.Plain

/-- No function of the table reports a circular reference. -/
structure Settles (table : FunctionTable α) : Prop where
  call : ∀ name arguments, Settled (table.call name arguments)

theorem plain_empty : (empty : FunctionTable α).Plain :=
  fun _ impossible => absurd impossible List.not_mem_nil

theorem Plain.insert {table : FunctionTable α} (plain : table.Plain)
    {function : FormulaFunction α} (fits : function.Plain) : (table.insert function).Plain := by
  intro entry member
  rcases List.mem_append.1 member with kept | added
  · exact plain entry (List.mem_of_mem_filter kept)
  · rwa [List.mem_singleton.1 added]

theorem Plain.foldl_insert {functions : List (FormulaFunction α)}
    (fit : ∀ function ∈ functions, function.Plain) {table : FunctionTable α}
    (plain : table.Plain) : (functions.foldl FunctionTable.insert table).Plain := by
  induction functions generalizing table with
  | nil => exact plain
  | cons function rest ih =>
      obtain ⟨here, later⟩ := List.forall_mem_cons.1 fit
      exact ih later (plain.insert here)

theorem plain_standard [Scalar α] : (standard : FunctionTable α).Plain := by
  refine Plain.foldl_insert ?_ plain_empty
  intro function member
  simp only [List.mem_cons, List.not_mem_nil, or_false] at member
  rcases member with rfl | rfl | rfl | rfl | rfl | rfl | rfl | rfl | rfl | rfl
  all_goals constructor

theorem Plain.of_find? {table : FunctionTable α} (plain : table.Plain) {name : String}
    {function : FormulaFunction α} (found : table.find? name = some function) :
    function.Plain := by
  obtain ⟨_, _, listed, _⟩ := List.lookup_eq_some_iff.1 found
  exact plain _ (listed ▸ List.mem_append_right _ List.mem_cons_self)

end FunctionTable

/-! ## What plain functions come to -/

/-- Related arguments are as many, and the rule sees the first of them. -/
theorem FormulaFunction.outcomes_ofOne {σ τ : Type} {coupling : Coupling σ τ}
    {values : Tagged α → Tagged α → Prop} {info : FunctionInfo}
    {apply : Tagged α → Except Error (Tagged α)}
    (respects : ∀ {argument other}, values argument other →
      coupling.Outcomes values (apply argument) (apply other))
    {left right : List (Tagged α)} (related : List.Forall₂ values left right) :
    coupling.Outcomes values ((ofOne info apply).call left) ((ofOne info apply).call right) := by
  simp only [ofOne, related.length_eq]
  cases info.checkArity right.length with
  | error failure => exact coupling.failures_refl failure
  | ok checked =>
      cases related with
      | nil => exact coupling.failures_refl _
      | cons first _ => exact respects first

/-- The outcome of a rule of one argument is a failure of the count, or that of the rule. -/
theorem FormulaFunction.call_ofOne_cases (info : FunctionInfo)
    (apply : Tagged α → Except Error (Tagged α)) (arguments : List (Tagged α)) :
    (∃ failure, failure.isCircular = false ∧
        (ofOne info apply).call arguments = .error failure) ∨
      ∃ argument ∈ arguments, (ofOne info apply).call arguments = apply argument := by
  by_cases counted : arguments.length = info.arity
  · have checked : info.checkArity arguments.length = .ok () := if_pos counted
    simp only [ofOne, checked]
    cases arguments with
    | nil => exact .inl ⟨_, rfl, rfl⟩
    | cons argument rest => exact .inr ⟨argument, List.mem_cons_self, rfl⟩
  · have refused : info.checkArity arguments.length = .error (.evaluation (info.usage ++
        " expects " ++ info.arity.repr ++ " argument(s), got " ++ arguments.length.repr)) :=
      if_neg counted
    simp only [ofOne, refused]
    exact .inl ⟨_, rfl, rfl⟩

namespace FunctionTable.Plain

variable {table : FunctionTable α} (plain : table.Plain)
include plain

/-- Plain functions respect what the maps of pure numbers respect. -/
theorem outcomes {σ τ : Type} {coupling : Coupling σ τ} {values : Tagged α → Tagged α → Prop}
    (respects : ∀ (name : String) (apply : α → α) {argument other : Tagged α},
      values argument other →
        coupling.Outcomes values (FormulaFunction.onPure name apply argument)
          (FormulaFunction.onPure name apply other))
    (name : String) {left right : List (Tagged α)} (related : List.Forall₂ values left right) :
    coupling.Outcomes values (table.call name left) (table.call name right) := by
  unfold FunctionTable.call
  cases found : table.find? name with
  | none => exact coupling.failures_refl _
  | some function =>
      cases plain.of_find? found with
      | math name description usage apply =>
          exact FormulaFunction.outcomes_ofOne (respects name apply) related
      | noop => exact FormulaFunction.outcomes_ofOne id related

/-- A call of a plain function fails, but with no circular reference, comes to a pure number, or
returns an argument. -/
theorem call_cases (name : String) (arguments : List (Tagged α)) :
    (∃ failure, failure.isCircular = false ∧ table.call name arguments = .error failure) ∨
      (∃ amount, table.call name arguments = .ok (.untagged amount)) ∨
      ∃ argument ∈ arguments, table.call name arguments = .ok argument := by
  unfold FunctionTable.call
  cases found : table.find? name with
  | none => exact .inl ⟨_, rfl, rfl⟩
  | some function =>
      cases plain.of_find? found with
      | math name description usage apply =>
          rcases FormulaFunction.call_ofOne_cases ⟨name, description, usage, 1, "math"⟩
            (FormulaFunction.onPure name apply) arguments with fails | ⟨argument, _, same⟩
          · exact .inl fails
          · dsimp only [FormulaFunction.math]
            rw [same, FormulaFunction.onPure]
            split
            · exact .inr (.inl ⟨_, rfl⟩)
            · exact .inl ⟨_, rfl, rfl⟩
      | noop => exact (FormulaFunction.call_ofOne_cases _ _ arguments).imp_right .inr

theorem settles : table.Settles where
  call name arguments := by
    rcases plain.call_cases name arguments with
      ⟨failure, settled, fails⟩ | ⟨_, comes⟩ | ⟨_, _, comes⟩
    · rw [fails]
      exact settled
    · rw [comes]
      trivial
    · rw [comes]
      trivial

end FunctionTable.Plain

end Metrology.Formula
