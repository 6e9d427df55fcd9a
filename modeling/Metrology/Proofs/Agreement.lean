import Metrology.Proofs.Scales

/-!
# Compound units and their texts

The units of a document agree with the tokens of their texts, and what is derived from
units that agree agrees too.  So a compound unit means the same as a whole and token by
token, after any history of calls.
-/

namespace Metrology

open UnitExpression

/-! ## Derived quantities -/

namespace Quantity

section Fits

variable {α : Type}

/-- Whether the texts of a power of a quantity can be read back. -/
def powerFits (quantity : Quantity α) (power : Int) : Bool :=
  quantity.units.all fun unit => writesFit [(unit.expression, power)]

/-- Whether the texts of a product with a power of another quantity can be read back. -/
def crossFits (left right : Quantity α) (power : Int) : Bool :=
  left.units.all fun unit => right.units.all fun other =>
    writesFit [(unit.expression, 1), (other.expression, power)]

theorem writesFit_of_crossFits {left right : Quantity α} {power : Int}
    (fits : left.crossFits right power = true) {unit other : MeasureUnit α}
    (member : unit ∈ left.units) (otherMember : other ∈ right.units) :
    writesFit [(unit.expression, 1), (other.expression, power)] = true :=
  List.all_eq_true.1 (List.all_eq_true.1 fits unit member) other otherMember

/-- A property that is passed on to powers, products and quotients whose texts can be read
back. -/
structure Passed [Scalar α] (holds : Quantity α → Prop) : Prop where
  power : ∀ {quantity result : Quantity α} {power : Int}, holds quantity →
    quantity.powerFits power = true → quantity.power power = .ok result → holds result
  product : ∀ {left right result : Quantity α}, holds left → holds right →
    left.crossFits right 1 = true → left.product right = .ok result → holds result
  quotient : ∀ {left right result : Quantity α}, holds left → holds right →
    left.crossFits right (-1) = true → left.quotient right = .ok result → holds result
  origin : ∀ {quantity : Quantity α} (origin : Origin), holds quantity →
    holds { quantity with origin }

end Fits

/-- All units of a quantity agree with their texts. -/
def Spelled (basis : Registry ℚ) (quantity : Quantity ℚ) : Prop :=
  ∀ unit ∈ quantity.units, basis.Spelled quantity.dimension unit

variable {basis : Registry ℚ}

theorem passed_spelled : Quantity.Passed (Spelled basis) where
  power spelled fits made := by
    unfold Quantity.power at made
    split at made
    · cases made
      exact spelled
    · obtain ⟨dimension, raised, made⟩ := exists_of_bind_eq_ok made
      cases made
      intro unit member
      obtain ⟨original, inside, rfl⟩ := List.mem_map.1 member
      exact (spelled original inside).power raised (List.all_eq_true.1 fits original inside)
  product left right fits made := by
    intro unit member
    obtain ⟨first, inLeft, second, inRight, rfl⟩ := exists_of_mem_product made member
    obtain ⟨dimension, sum, made⟩ := exists_of_bind_eq_ok made
    cases made
    exact (left first inLeft).multiply (right second inRight) sum
      (writesFit_of_crossFits fits inLeft inRight)
  quotient left right fits made := by
    intro unit member
    obtain ⟨first, inLeft, second, inRight, rfl⟩ := exists_of_mem_quotient made member
    obtain ⟨dimension, difference, made⟩ := exists_of_bind_eq_ok made
    cases made
    exact (left first inLeft).divide (right second inRight) difference
      (writesFit_of_crossFits fits inLeft inRight)
  origin _ spelled := spelled

end Quantity

/-! ## Calls -/

namespace Registry

section Fits

variable {α : Type} [Scalar α]

/-- Whether all texts on the way to a product of quantities can be read back. -/
def productFits : Option (Quantity α) → List (Factor α) → Bool
  | _, [] => true
  | sofar, factor :: rest =>
      factor.entry.quantity.powerFits factor.exponent.natAbs &&
      (sofar.all fun left =>
        (factor.entry.quantity.power factor.exponent.natAbs).toOption.all fun powered =>
          left.crossFits powered 1) &&
      (multiplyOnto sofar factor).toOption.all fun next => productFits next rest

/-- Whether all texts on the way to the quantity of factors can be read back. -/
def synthesisFits (registry : Registry α) (factors : List (Factor α)) : Bool :=
  productFits none (Factor.above factors) && productFits none (Factor.below factors) &&
    (productOf (Factor.above factors)).toOption.all fun above =>
      (above.orElse fun _ => registry.neutralQuantity.toOption).all fun numerator =>
        (productOf (Factor.below factors)).toOption.all fun below =>
          below.all fun denominator => numerator.crossFits denominator (-1)

/-- Whether all texts that a call derives have exponents that can be read back.  A call that
leaves the registry as it is derives none. -/
def callFits (registry : Registry α) (expression : String) : Bool :=
  (registry.factors expression).toOption.all fun factors =>
    (registry.normalize expression).toOption.all fun answer =>
      answer.2.size == registry.size || registry.synthesisFits factors

/-- The calls that return.  Exponents are words of 32 bits: a call that leaves them while it
derives texts stops there, before it registers anything. -/
def returning : Registry α → List String → List String
  | _, [] => []
  | registry, expression :: rest =>
      if registry.callFits expression then
        expression :: returning (registry.answering (.normalize expression)) rest
      else returning registry rest

/-- The registry that calls reach. -/
def reached (registry : Registry α) (expressions : List String) : Registry α :=
  registry.normalizeAll (registry.returning expressions)

end Fits

/-- A conversion of one step is allowed in every registry that is reached from a loaded one. -/
theorem one_le_stepLimit_reached {α : Type} [Scalar α] {definitions : Definitions α}
    {settings : Settings} {start : Registry α}
    (loaded : ofDefinitions definitions settings = .ok start) (expressions : List String) :
    1 ≤ (start.reached expressions).stepLimit := by
  have kept : start.Extends (start.reached expressions) := Extends.run start _
  rw [kept.stepLimit, (extends_of_loaded loaded).stepLimit]
  exact Nat.le_max_left 1 _

/-! ## What derived quantities are passed on -/

section Passing

variable {α : Type} [Scalar α] {registry grown : Registry α} {holds : Quantity α → Prop}
  (passed : Quantity.Passed holds)
include passed

theorem passed_foldlM {factors : List (Factor α)} {sofar last : Option (Quantity α)}
    (known : ∀ factor ∈ factors, holds factor.entry.quantity)
    (start : ∀ quantity, sofar = some quantity → holds quantity)
    (fits : productFits sofar factors = true)
    (made : factors.foldlM multiplyOnto sofar = .ok last) :
    ∀ quantity, last = some quantity → holds quantity := by
  induction factors generalizing sofar with
  | nil =>
      cases made
      exact start
  | cons factor rest ih =>
      rw [List.foldlM_cons] at made
      obtain ⟨next, stepped, made⟩ := exists_of_bind_eq_ok made
      rw [productFits, stepped, Bool.and_eq_true, Bool.and_eq_true] at fits
      obtain ⟨⟨powerFits, crossFits⟩, restFits⟩ := fits
      refine ih (fun other member => known other (List.mem_cons_of_mem _ member)) ?_ restFits made
      obtain ⟨powered, raised, stepped⟩ := exists_of_bind_eq_ok stepped
      have held := passed.power (known factor List.mem_cons_self) powerFits raised
      rintro quantity rfl
      cases sofar with
      | none =>
          cases stepped
          exact held
      | some left =>
          obtain ⟨product, multiplied, stepped⟩ := exists_of_bind_eq_ok stepped
          cases stepped
          rw [raised] at crossFits
          exact passed.product (start left rfl) held crossFits multiplied

theorem passed_productOf {factors : List (Factor α)} {quantity : Quantity α}
    (known : ∀ factor ∈ factors, holds factor.entry.quantity)
    (fits : productFits none factors = true) (made : productOf factors = .ok (some quantity)) :
    holds quantity :=
  passed_foldlM passed known (by rintro _ ⟨⟩) fits made quantity rfl

/-- What is derived from factors has what their quantities have. -/
theorem passed_synthesize {factors : List (Factor α)} {dimension : Dimension}
    {expression : String} {owner : Quantity α}
    (known : ∀ factor ∈ factors, holds factor.entry.quantity)
    (registered : ∀ quantity ∈ registry.quantities, holds quantity)
    (fits : registry.synthesisFits factors = true)
    (unowned : registry.ownerOf? dimension = none)
    (made : registry.synthesize factors dimension expression = .ok (owner, grown)) :
    holds owner := by
  have aboveKnown : ∀ factor ∈ Factor.above factors, holds factor.entry.quantity :=
    fun factor member => known factor (List.mem_of_mem_filter member)
  have belowKnown : ∀ factor ∈ Factor.below factors, holds factor.entry.quantity :=
    fun factor member => known factor (List.mem_of_mem_filter member)
  obtain ⟨above, below, numerator, aboveMade, belowMade, stands, derives, _⟩ :=
    exists_of_synthesize unowned made
  rw [synthesisFits, aboveMade, belowMade, Bool.and_eq_true, Bool.and_eq_true] at fits
  obtain ⟨⟨aboveFits, belowFits⟩, crossFits⟩ := fits
  have held : holds numerator := by
    rcases stands with rfl | ⟨_, owns⟩
    · exact passed_productOf passed aboveKnown aboveFits aboveMade
    · exact registered numerator (List.mem_of_find?_eq_some owns)
  cases below with
  | none =>
      cases derives
      exact passed.origin _ held
  | some denominator =>
      have crossed : numerator.crossFits denominator (-1) = true := by
        rcases stands with rfl | ⟨rfl, owns⟩
        · exact crossFits
        · rw [neutralQuantity_eq_ok_iff.2 owns] at crossFits
          exact crossFits
      exact passed.quotient held (passed_productOf passed belowKnown belowFits belowMade)
        crossed derives

/-- A call that fits registers only what has it. -/
theorem passed_normalize (registered : ∀ quantity ∈ registry.quantities, holds quantity)
    {expression : String} {normalized : Normalized α}
    (fits : registry.callFits expression = true)
    (made : registry.normalize expression = .ok (normalized, grown)) :
    ∀ quantity ∈ grown.quantities, holds quantity := by
  obtain ⟨factors, owner, unit, resolved, _, owned, _⟩ := normalize_eq_ok_iff.1 made
  rcases ownerOrDerived_eq_ok owned with ⟨_, rfl⟩ | ⟨unowned, derived⟩
  · exact registered
  · have members := mem_of_factors resolved
    obtain ⟨rfl, _⟩ := synthesize_eq_ok members unowned derived
    have synthesisFits : registry.synthesisFits factors = true := by
      rw [callFits, resolved, made] at fits
      simpa [Except.toOption, size, append] using fits
    have held := passed_synthesize passed
      (fun factor member => registered _ (quantity_mem_of_entry (members factor member)))
      registered synthesisFits unowned derived
    exact List.forall_mem_append.2 ⟨registered, List.forall_mem_singleton.2 held⟩

theorem passed_answering (registered : ∀ quantity ∈ registry.quantities, holds quantity)
    {expression : String} (fits : registry.callFits expression = true) :
    ∀ quantity ∈ (registry.answering (.normalize expression)).quantities, holds quantity := by
  rw [answering, normalizing]
  rcases snd_start_ofStep (fun registry => registry.normalize expression) registry with
    same | ⟨normalized, made⟩
  · rwa [same]
  · exact passed_normalize passed registered fits made

/-- What the first quantities have, all quantities of a reached registry have. -/
theorem passed_reached (registered : ∀ quantity ∈ registry.quantities, holds quantity)
    (expressions : List String) :
    ∀ quantity ∈ (registry.reached expressions).quantities, holds quantity := by
  unfold Registry.reached
  induction expressions generalizing registry with
  | nil => exact registered
  | cons expression rest ih =>
      unfold returning
      split
      · next fits => exact ih (passed_answering passed registered fits)
      · exact ih registered

end Passing

/-! ## Registries that have grown from a basis -/

variable {basis registry grown : Registry ℚ}

/-- A registry that has grown from a basis, in which all units agree with their texts. -/
structure Coherent (basis registry : Registry ℚ) : Prop where
  kept : basis.Extends registry
  formed : registry.WellFormed
  spelled : ∀ quantity ∈ registry.quantities, quantity.Spelled basis

theorem Coherent.spelled_entry (coherent : basis.Coherent registry) {entry : UnitEntry ℚ}
    (member : entry ∈ registry.entries) : basis.Spelled entry.dimension entry.unit :=
  coherent.spelled _ (quantity_mem_of_entry member) _ (unit_mem_of_entry member)

/-- A quantity that is derived agrees with its texts. -/
theorem Coherent.of_normalize (coherent : basis.Coherent registry) {expression : String}
    {normalized : Normalized ℚ} (fits : registry.callFits expression = true)
    (made : registry.normalize expression = .ok (normalized, grown)) : basis.Coherent grown := by
  have spelled := passed_normalize Quantity.passed_spelled coherent.spelled fits made
  rcases normalize_cases made with rfl | ⟨quantity, admitted, rfl⟩
  · exact coherent
  · exact ⟨coherent.kept.trans (Extends.append _ _),
      coherent.formed.append admitted.unowned admitted.withSI, spelled⟩

theorem Coherent.reached (coherent : basis.Coherent registry) (expressions : List String) :
    basis.Coherent (registry.reached expressions) :=
  ⟨coherent.kept.trans (Extends.run _ _), coherent.formed.run _,
    passed_reached Quantity.passed_spelled coherent.spelled expressions⟩

end Registry

end Metrology
