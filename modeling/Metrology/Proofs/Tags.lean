import Metrology.Proofs.Composing
import Metrology.Proofs.Functions
import Metrology.Proofs.Wording

/-!
# The tags of results

Whatever a formula does, the tag of its result is written from expressions of units of the
document: a unit is respelled from them, and the tags of products are joined term by term.  The
registry that a tag was read in has grown since, so the words of a tag are those of the registry
at the end.
-/

namespace Metrology

open Formula UnitExpression

/-! ## Calculations that end in a registry -/

namespace Formula

variable {α σ β γ : Type}

/-- The registry only grows, and when it ends within a last registry, the value has a
property. -/
structure Yields (last : Registry α) (holds : β → Prop) (calculation : Calculation α σ β) :
    Prop where
  grows : ∀ state : Registry α × σ, state.1.Extends (calculation.start state).2.1
  value : ∀ state value, (calculation.start state).1 = .ok value →
    (calculation.start state).2.1.Extends last → holds value

variable {last : Registry α}

theorem yields_ofExcept {holds : β → Prop} {outcome : Except Error β}
    (held : ∀ value, outcome = .ok value → holds value) :
    Yields last holds (Attempt.ofExcept outcome : Calculation α σ β) where
  grows state := Registry.Extends.refl state.1
  value _ value succeeds _ := held value succeeds

theorem yields_pure {holds : β → Prop} {value : β} (held : holds value) :
    Yields last holds (pure value : Calculation α σ β) :=
  yields_ofExcept fun _ same => Except.ok.inj same ▸ held

theorem yields_throw {holds : β → Prop} (failure : Error) :
    Yields last holds (throw failure : Calculation α σ β) :=
  yields_ofExcept fun _ impossible => by cases impossible

theorem yields_bind {first : β → Prop} {holds : γ → Prop} {calculation : Calculation α σ β}
    {next : β → Calculation α σ γ} (yields : Yields last first calculation)
    (later : ∀ value, Yields last (fun result => first value → holds result) (next value)) :
    Yields last holds (calculation >>= next) := by
  constructor
  · intro state
    cases outcome : (calculation.start state).1 with
    | error failure =>
        rw [Attempt.start_bind_of_error outcome]
        exact yields.grows state
    | ok value =>
        rw [Attempt.start_bind_of_ok outcome]
        exact (yields.grows state).trans ((later value).grows _)
  · intro state result succeeds within
    cases outcome : (calculation.start state).1 with
    | error failure =>
        rw [Attempt.start_bind_of_error outcome] at succeeds
        cases succeeds
    | ok value =>
        rw [Attempt.start_bind_of_ok outcome] at succeeds within
        -- What the first part ended in is within what the second part ended in.
        have earlier := ((later value).grows (calculation.start state).2).trans within
        exact (later value).value _ result succeeds within
          (yields.value state value outcome earlier)

theorem Yields.mono {holds weaker : β → Prop} {calculation : Calculation α σ β}
    (yields : Yields last holds calculation) (weakens : ∀ value, holds value → weaker value) :
    Yields last weaker calculation where
  grows := yields.grows
  value state value succeeds within := weakens value (yields.value state value succeeds within)

end Formula

/-! ## Reading tags -/

namespace Registry

variable {α : Type} [Scalar α] {basis earlier : Registry α}

theorem userExpression_of_outlineOf {limit : Nat} {factors : List (Factor α)}
    {outline : Outline α} (outlined : outlineOf limit factors = .ok outline) :
    outline.userExpression = UnitExpression.product
      (factors.map fun factor => (factor.entry.expression, factor.exponent)) := by
  obtain ⟨_, _, outlined⟩ := exists_of_bind_eq_ok outlined
  obtain ⟨_, _, outlined⟩ := exists_of_bind_eq_ok outlined
  cases outlined
  rfl

/-- An answer is spelled in the words of the units that are registered. -/
theorem wording_of_normalize (worded : ∀ quantity ∈ earlier.quantities, quantity.Worded basis)
    {expression : String} {normalized : Normalized α} {grown : Registry α}
    (answered : earlier.normalize expression = .ok (normalized, grown)) :
    ∃ terms, basis.Wording terms normalized.userExpression := by
  obtain ⟨factors, _, _, resolved, outlined, _⟩ := normalize_eq_ok_iff.1 answered
  have spelling : normalized.userExpression = _ := userExpression_of_outlineOf outlined
  rw [spelling]
  refine ⟨_, wording_product fun part member => ?_⟩
  obtain ⟨factor, inside, rfl⟩ := List.mem_map.1 member
  obtain ⟨place, within⟩ := mem_entries_iff.1 (mem_of_factors resolved factor inside)
  exact worded _ (List.mem_of_getElem? place) _ (List.mem_of_getElem? within)

theorem Extends.normalizing (registry : Registry α) (expression : String) :
    registry.Extends ((normalizing expression).start registry).2 :=
  Extends.run registry [.normalize expression]

theorem yields_normalizing {σ : Type} {last : Registry α}
    (worded : ∀ quantity ∈ last.quantities, quantity.Worded basis) (expression : String) :
    Yields last (fun normalized => ∃ terms, basis.Wording terms normalized.userExpression)
      (Attempt.onFirst (normalizing expression) : Calculation α σ (Normalized α)) := by
  constructor
  · intro state
    rw [Attempt.start_onFirst]
    exact Extends.normalizing state.1 expression
  · intro state normalized succeeds within
    rw [Attempt.start_onFirst] at succeeds within
    have grew := Extends.normalizing state.1 expression
    cases answered : state.1.normalize expression with
    | error failure =>
        rw [start_normalizing_of_error answered] at succeeds
        cases succeeds
    | ok answer =>
        obtain ⟨found, grown⟩ := answer
        rw [start_normalizing_of_ok answered] at succeeds within grew
        cases succeeds
        have registered : ∀ quantity ∈ state.1.quantities, quantity.Worded basis :=
          fun quantity member => worded quantity ((grew.trans within).mem member)
        exact wording_of_normalize registered answered

end Registry

/-! ## Joining tags -/

namespace Formula

variable {α σ : Type} {basis : Registry α}

namespace Tagged

/-- The tag of a value is written from words of a basis. -/
def Worded (basis : Registry α) (value : Tagged α) : Prop :=
  ∃ terms, basis.Wording terms value.tag

theorem wording_empty : basis.Wording [] "" :=
  ⟨rfl, fun _ impossible => absurd impossible List.not_mem_nil⟩

theorem wording_additiveTag {left right : String} (leftWorded : ∃ terms, basis.Wording terms left)
    (rightWorded : ∃ terms, basis.Wording terms right) :
    ∃ terms, basis.Wording terms (additiveTag left right) := by
  unfold additiveTag
  split
  · exact rightWorded
  · exact leftWorded

/-- The tag of a product has the words of both tags, or none. -/
theorem wording_multiplicativeTag {left right : String}
    (leftWorded : ∃ terms, basis.Wording terms left)
    (rightWorded : ∃ terms, basis.Wording terms right) (sign : Int) :
    ∃ terms, basis.Wording terms (multiplicativeTag left right sign) := by
  obtain ⟨leftTerms, leftWording⟩ := leftWorded
  obtain ⟨rightTerms, rightWording⟩ := rightWorded
  unfold multiplicativeTag
  split
  · next leftRead rightRead leftSplit rightSplit =>
      obtain ⟨_, rfl⟩ := leftWording.of_split leftSplit
      obtain ⟨_, rfl⟩ := rightWording.of_split rightSplit
      refine ⟨_, rfl, fun term member => ?_⟩
      rcases List.mem_append.1 member with inLeft | inRight
      · exact leftWording.named_canonical term inLeft
      · obtain ⟨original, inside, rfl⟩ := List.mem_map.1 inRight
        exact rightWording.named_canonical original inside
  · exact ⟨[], wording_empty⟩

theorem worded_untagged (amount : Amount α) : (untagged amount).Worded basis :=
  ⟨[], wording_empty⟩

/-- A plain function makes up no tags. -/
theorem worded_call {table : FunctionTable α} (plain : table.Plain) {name : String}
    {arguments : List (Tagged α)} {value : Tagged α}
    (worded : ∀ argument ∈ arguments, argument.Worded basis)
    (called : table.call name arguments = .ok value) : value.Worded basis := by
  rcases plain.call_cases name arguments with
    ⟨_, _, fails⟩ | ⟨amount, comes⟩ | ⟨argument, member, comes⟩
  · cases called.symm.trans fails
  · cases called.symm.trans comes
    exact worded_untagged amount
  · cases called.symm.trans comes
    exact worded value member

variable [Scalar α]

theorem worded_applyOperator {operator : Operator} {left right value : Tagged α}
    (leftWorded : left.Worded basis) (rightWorded : right.Worded basis)
    (applied : applyOperator operator left right = .ok value) : value.Worded basis := by
  unfold applyOperator at applied
  split at applied
  all_goals
    obtain ⟨result, _, applied⟩ := exists_of_bind_eq_ok applied
    cases applied
  · exact wording_additiveTag leftWorded rightWorded
  · exact wording_additiveTag leftWorded rightWorded
  · exact wording_multiplicativeTag leftWorded rightWorded 1
  · exact wording_multiplicativeTag leftWorded rightWorded (-1)
  · exact worded_untagged result
  · exact worded_untagged _

end Tagged

end Formula

/-! ## Evaluating -/

namespace Formula.Expression

open Tagged

variable {α σ : Type} [Scalar α] {basis last : Registry α} {table : FunctionTable α}
  {resolve : Resolver α σ}

omit [Scalar α] in
/-- The value of a reference has no tag. -/
theorem yields_reference {name : String}
    (grows : ∀ state : Registry α × σ, state.1.Extends ((resolve name).start state).2.1) :
    Yields last (Tagged.Worded basis) (evaluateReference resolve name) := by
  have resolving : Yields last (fun _ => True)
      (Attempt.mapFailure (referenceFailure name) (resolve name)) :=
    ⟨grows, fun _ _ _ _ => trivial⟩
  exact yields_bind resolving fun amount => yields_pure fun _ => worded_untagged amount

/-- Tags are words of the basis as long as numbers, references and functions bring no others. -/
theorem composes_yields (plain : table.Plain)
    (worded : ∀ quantity ∈ last.quantities, quantity.Worded basis)
    (grows : ∀ name, ∀ state : Registry α × σ,
      state.1.Extends ((resolve name).start state).2.1) :
    Composes (fun _ _ _ holds calculation => Yields last holds calculation) table
      (.ofResolver resolve) (Tagged.Worded basis) where
  untagged := worded_untagged
  negate worded := worded
  tagged _ tag := yields_bind (Registry.yields_normalizing worded tag) fun _ =>
    yields_pure fun spelled => spelled
  reference name := yields_reference (grows name)
  operator _ _ _ := yields_ofExcept fun _ applied leftWorded rightWorded =>
    worded_applyOperator leftWorded rightWorded applied
  call _ _ := yields_ofExcept fun _ called held => worded_call plain held called
  refuse _ := yields_throw _
  done := yields_pure
  bind := yields_bind
  weaken yields _ weakens := yields.mono weakens
  among yields _ := yields

end Formula.Expression

end Metrology
