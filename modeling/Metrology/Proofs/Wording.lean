import Metrology.Proofs.Agreement
import Metrology.Proofs.Soundness

/-!
# The words that units are written in

The expression of every unit is written from tokens that are expressions of units of the
document.  So is every unit that is derived, whatever numbers magnitudes are: a token that was
once written into a text never stops being found.
-/

namespace Metrology

open UnitExpression

namespace UnitExpression

/-- A power of a text has the tokens of the text. -/
theorem exists_of_mem_poweredTerms {terms : List UnitTerm} (legible : Legible (combine terms))
    {power : Int} {term : UnitTerm} (member : term ∈ poweredTerms (format terms) power) :
    ∃ original ∈ terms, original.token = term.token := by
  rw [poweredTerms_format legible] at member
  obtain ⟨read, inside, rfl⟩ := List.mem_map.1 member
  have token : read.token ∈ (combine terms).map (·.token) :=
    List.mem_map_of_mem (mem_canonical.1 inside).1
  exact List.mem_map.1 (mem_tokens_combine.1 token)

end UnitExpression

/-! ## Texts -/

namespace Registry

variable {α : Type}

/-- A token that is the expression of a unit. -/
structure Names (basis : Registry α) (token : String) : Prop where
  isToken : IsToken token
  found : (basis.findExpression? token).isSome = true

/-- A text that is written from terms whose tokens are expressions of units. -/
structure Wording (basis : Registry α) (terms : List UnitTerm) (text : String) : Prop where
  written : text = format terms
  named : ∀ term ∈ terms, basis.Names term.token

/-- A text that is written from expressions of units, and can be read back. -/
def Worded (basis : Registry α) (text : String) : Prop :=
  ∃ terms, basis.Wording terms text ∧ Legible (combine terms)

variable {basis : Registry α} {terms : List UnitTerm} {text : String}

namespace Wording

theorem tokens (wording : basis.Wording terms text) : ∀ term ∈ combine terms, IsToken term.token :=
  fun _ member => isToken_of_mem_combine (fun term inside => (wording.named term inside).isToken)
    member

theorem trimmed (wording : basis.Wording terms text) : Text.trimmed text = text := by
  rw [wording.written, trimmed_format wording.tokens]

/-- A text that can be taken apart is taken apart into the terms that it was written from. -/
theorem of_split (wording : basis.Wording terms text) {read : List UnitTerm}
    (reads : split text = .ok read) : Legible (combine terms) ∧ read = canonical terms := by
  rw [wording.written] at reads
  have legible := legible_of_split wording.tokens reads
  exact ⟨legible, Except.ok.inj (reads.symm.trans (split_format legible))⟩

theorem named_canonical (wording : basis.Wording terms text) :
    ∀ term ∈ canonical terms, basis.Names term.token := by
  intro term member
  obtain ⟨original, inside, same⟩ := List.mem_map.1
    (mem_tokens_combine.1 (List.mem_map_of_mem (mem_canonical.1 member).1))
  exact same ▸ wording.named original inside

end Wording

theorem exists_resolveTerms
    (found : ∀ term ∈ terms, (basis.findExpression? (Text.trimmed term.token)).isSome = true)
    (sofar : List (Factor α)) : ∃ factors, basis.resolveTerms sofar terms = .ok factors := by
  induction terms generalizing sofar with
  | nil => exact ⟨sofar, rfl⟩
  | cons term rest ih =>
      obtain ⟨entry, here⟩ := Option.isSome_iff_exists.1 (found term List.mem_cons_self)
      rw [resolveTerms, findUnit_of_findExpression? here]
      exact ih (fun other member => found other (List.mem_cons_of_mem _ member)) _

/-- A text that is written from words and can be read has factors. -/
theorem Wording.exists_factors {registry : Registry α} (kept : basis.Extends registry)
    (wording : basis.Wording terms text) (legible : Legible (combine terms)) :
    ∃ factors, registry.factors text = .ok factors := by
  cases whole : registry.findExpression? (Text.trimmed text) with
  | some entry =>
      unfold factors
      dsimp only
      split
      · exact ⟨[], rfl⟩
      · rw [whole]
        exact ⟨_, rfl⟩
  | none =>
      have found : ∀ term ∈ canonical terms,
          (registry.findExpression? (Text.trimmed term.token)).isSome = true := by
        intro term member
        obtain ⟨isToken, named⟩ := wording.named_canonical term member
        obtain ⟨entry, known⟩ := Option.isSome_iff_exists.1 named
        rw [Text.trimmed, isToken.bare.trim, String.ofList_toList, kept.findExpression? known]
        rfl
      obtain ⟨factors, resolved⟩ := exists_resolveTerms found []
      rw [factors_of_none whole, tokenFactors, wording.trimmed, wording.written,
        split_format legible]
      exact ⟨factors.filter (·.exponent ≠ 0), by simp only [resolved, bind, Except.bind]⟩

/-- Products of powers are written from the same words. -/
theorem wording_product {parts : List (String × Int)}
    (worded : ∀ part ∈ parts, basis.Worded part.1) :
    basis.Wording (parts.flatMap fun part => poweredTerms part.1 part.2)
      (UnitExpression.product parts) := by
  refine ⟨rfl, fun term member => ?_⟩
  obtain ⟨part, inside, powered⟩ := List.mem_flatMap.1 member
  obtain ⟨terms, wording, legible⟩ := worded part inside
  rw [wording.written] at powered
  obtain ⟨original, among, same⟩ := exists_of_mem_poweredTerms legible powered
  exact same ▸ wording.named original among

theorem worded_product {parts : List (String × Int)}
    (worded : ∀ part ∈ parts, basis.Worded part.1) (fits : writesFit parts = true) :
    basis.Worded (UnitExpression.product parts) := by
  have wording := wording_product worded
  refine ⟨_, wording, fun term member => ⟨wording.tokens term member, ?_⟩⟩
  rw [writesFit, List.all_eq_true] at fits
  exact of_decide_eq_true (fits term member)

end Registry

/-! ## Quantities -/

namespace Quantity

variable {α : Type}

/-- All units of a quantity are written from the words of a basis. -/
def Worded (basis : Registry α) (quantity : Quantity α) : Prop :=
  ∀ unit ∈ quantity.units, basis.Worded unit.expression

theorem passed_worded [Scalar α] {basis : Registry α} : Quantity.Passed (Worded basis) where
  power worded fits made := by
    unfold Quantity.power at made
    split at made
    · cases made
      exact worded
    · next several =>
        obtain ⟨dimension, _, made⟩ := exists_of_bind_eq_ok made
        cases made
        intro unit member
        obtain ⟨original, inside, rfl⟩ := List.mem_map.1 member
        rw [original.expression_power several]
        refine Registry.worded_product ?_ (List.all_eq_true.1 fits original inside)
        rintro part (_ | ⟨_, impossible⟩)
        · exact worded original inside
        · cases impossible
  product left right fits made := by
    intro unit member
    obtain ⟨first, inLeft, second, inRight, rfl⟩ := exists_of_mem_product made member
    rw [MeasureUnit.expression_multiply]
    refine Registry.worded_product ?_ (writesFit_of_crossFits fits inLeft inRight)
    rintro part (_ | ⟨_, _ | ⟨_, impossible⟩⟩)
    · exact left first inLeft
    · exact right second inRight
    · cases impossible
  quotient left right fits made := by
    intro unit member
    obtain ⟨first, inLeft, second, inRight, rfl⟩ := exists_of_mem_quotient made member
    rw [MeasureUnit.expression_divide]
    refine Registry.worded_product ?_ (writesFit_of_crossFits fits inLeft inRight)
    rintro part (_ | ⟨_, _ | ⟨_, impossible⟩⟩)
    · exact left first inLeft
    · exact right second inRight
    · cases impossible
  origin _ worded := worded

end Quantity

/-! ## The built-in document -/

namespace Definitions

/-- The expressions of all units of a document. -/
def expressions {α : Type} (definitions : Definitions α) : List String :=
  definitions.quantities.flatMap fun definition => definition.units.map (·.expression)

/-- Whether a text is written from words, with exponents that can be read back. -/
def isWorded (words : List String) (text : String) : Bool :=
  (split text).toOption.any fun terms =>
    text == format terms &&
      terms.all (fun term => isTokenText term.token && words.contains term.token) &&
      (combine terms).all fun term => term.exponent.natAbs ≤ greatestExponent

/-- The expressions do not depend on the numbers that slopes are. -/
theorem expressions_builtin {α : Type} [Scalar α] :
    (builtin : Definitions α).expressions = (builtin : Definitions ℚ).expressions := rfl

theorem isWorded_builtin :
    (builtin : Definitions ℚ).expressions.all
      (isWorded (builtin : Definitions ℚ).expressions) = true := by
  decide +kernel

end Definitions

namespace Registry

variable {α : Type} [Scalar α]

/-- What is found in the registry of a document is an expression of the document. -/
theorem findExpression?_isSome_loaded_iff {definitions : Definitions α} {settings : Settings}
    {start : Registry α} (loaded : ofDefinitions definitions settings = .ok start)
    {text : String} :
    (start.findExpression? text).isSome = true ↔ text ∈ definitions.expressions := by
  have makes := makes_of_loaded loaded
  rw [findExpression?_isSome_iff]
  constructor
  · rintro ⟨quantity, registered, unit, among, rfl⟩
    obtain ⟨definition, member, made⟩ := exists_of_forall₂ makes registered
    rw [made.units] at among
    exact List.mem_flatMap.2 ⟨definition, member, List.mem_map_of_mem among⟩
  · intro listed
    obtain ⟨definition, member, inside⟩ := List.mem_flatMap.1 listed
    obtain ⟨unit, among, named⟩ := List.mem_map.1 inside
    obtain ⟨quantity, registered, made⟩ := exists_of_forall₂ makes.flip member
    rw [← made.units] at among
    exact ⟨quantity, registered, unit, among, named⟩

/-- The units of the built-in document are written from its expressions. -/
theorem worded_builtin {settings : Settings} {start : Registry α}
    (loaded : ofDefinitions Definitions.builtin settings = .ok start) :
    ∀ quantity ∈ start.quantities, quantity.Worded start := by
  intro quantity member unit inside
  obtain ⟨definition, listed, makes⟩ := exists_of_forall₂ (makes_of_loaded loaded) member
  rw [makes.units] at inside
  have same : (Definitions.builtin : Definitions α).expressions = _ :=
    Definitions.expressions_builtin
  have checked := Definitions.isWorded_builtin
  rw [← same, List.all_eq_true] at checked
  have worded := checked unit.expression
    (List.mem_flatMap.2 ⟨definition, listed, List.mem_map_of_mem inside⟩)
  rw [Definitions.isWorded, Option.any_eq_true] at worded
  obtain ⟨terms, _, worded⟩ := worded
  simp only [Bool.and_eq_true, beq_iff_eq, List.all_eq_true, decide_eq_true_eq, isTokenText_iff,
    List.contains_iff_mem] at worded
  obtain ⟨⟨written, named⟩, fits⟩ := worded
  have wording : start.Wording terms unit.expression := by
    refine ⟨written, fun term among => ⟨(named term among).1, ?_⟩⟩
    exact (findExpression?_isSome_loaded_iff loaded).2 (named term among).2
  exact ⟨terms, wording, fun term among => ⟨wording.tokens term among, fits term among⟩⟩

end Registry

end Metrology
