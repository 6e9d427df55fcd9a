import Metrology.Proofs.Ranges
import Metrology.Proofs.Wording

/-!
# When a quantity can be derived

The quantity of factors is built from the powers above the slash and those below it, each
product by itself.  So it needs the absolute exponents of both products in range, which says
more than that the dimension of the quotient is in range.  Nothing else can stop it: the
first unit of every quantity is an SI unit, and powers, products and quotients keep it first.
-/

namespace Metrology

/-- Numbers in which products and quotients of what equals one equal one. -/
class Scalar.Unital (α : Type) [Scalar α] : Prop where
  zero : Scalar.same (0 : α) 0 = true
  one : Scalar.same (1 : α) 1 = true
  numeral : Scalar.same (Scalar.decimal 1 0 : α) 1 = true
  mul : ∀ {left right : α}, Scalar.same left 1 = true → Scalar.same right 1 = true →
    Scalar.same (left * right) 1 = true
  div : ∀ {left right : α}, Scalar.same left 1 = true → Scalar.same right 1 = true →
    Scalar.same (left / right) 1 = true

instance : Scalar.Unital ℚ where
  zero := by decide
  one := by decide
  numeral := by decide +kernel
  mul left right := decide_eq_true (by
    rw [of_decide_eq_true left, of_decide_eq_true right, mul_one])
  div left right := decide_eq_true (by
    rw [of_decide_eq_true left, of_decide_eq_true right, div_one])

/-! ## Units that lead -/

section Leading

variable {α : Type} [Scalar α] [Scalar.Unital α]

namespace Scalar

theorem same_powerOnto {result base : α} (resultOne : same result 1 = true)
    (baseOne : same base 1 = true) (count : Nat) : same (powerOnto result base count) 1 = true := by
  induction count using Nat.strong_induction_on generalizing result base with
  | _ count ih =>
      have next : same (if count % 2 = 1 then result * base else result) 1 = true := by
        split
        · exact Unital.mul resultOne baseOne
        · exact resultOne
      rw [powerOnto]
      split
      · exact next
      · exact ih _ (by omega) next (Unital.mul baseOne baseOne)

theorem same_powerInt {base : α} (baseOne : same base 1 = true) (exponent : Int) :
    same (powerInt base exponent) 1 = true := by
  have positive := same_powerOnto Unital.one baseOne exponent.natAbs
  unfold powerInt
  dsimp only
  split
  · exact Unital.div Unital.one positive
  · exact positive

end Scalar

namespace MeasureUnit

variable {unit left right : MeasureUnit α}

theorem isSI_of_slope {expression name : String} {slope : α} {larger smaller : Option String}
    {visible : Bool} (one : Scalar.same slope 1 = true) :
    (⟨expression, name, slope, 0, larger, smaller, visible⟩ : MeasureUnit α).isSI = true := by
  rw [isSI, Bool.and_eq_true]
  exact ⟨one, Scalar.Unital.zero⟩

omit [Scalar.Unital α] in
theorem slope_of_isSI (si : unit.isSI = true) : Scalar.same unit.slope 1 = true := by
  rw [isSI, Bool.and_eq_true] at si
  exact si.1

theorem isSI_power (si : unit.isSI = true) (exponent : Int) :
    (unit.power exponent).isSI = true := by
  unfold power
  split
  · exact si
  · exact isSI_of_slope (Scalar.same_powerInt (slope_of_isSI si) exponent)

theorem isSI_multiply (leftSI : left.isSI = true) (rightSI : right.isSI = true) :
    (left.multiply right).isSI = true :=
  isSI_of_slope (Scalar.Unital.mul (slope_of_isSI leftSI) (slope_of_isSI rightSI))

theorem isSI_divide (leftSI : left.isSI = true) (rightSI : right.isSI = true) :
    (left.divide right).isSI = true :=
  isSI_of_slope (Scalar.Unital.div (slope_of_isSI leftSI) (slope_of_isSI rightSI))

end MeasureUnit

namespace Quantity

/-- The first unit of a quantity is an SI unit. -/
def Leads (quantity : Quantity α) : Prop :=
  ∃ unit rest, quantity.units = unit :: rest ∧ unit.isSI = true

omit [Scalar.Unital α] in
theorem Leads.withSI {quantity : Quantity α} (leads : quantity.Leads) :
    quantity.siUnit?.isSome = true := by
  obtain ⟨unit, rest, same, si⟩ := leads
  rw [siUnit?, List.find?_isSome]
  exact ⟨unit, same ▸ List.mem_cons_self, si⟩

omit [Scalar.Unital α] in
/-- The first pair comes first among the distinct ones. -/
theorem leads_of_crossed {name symbol : String} {dimension : Dimension} {origin : Origin}
    {combine : MeasureUnit α → MeasureUnit α → MeasureUnit α} {left right : Quantity α}
    (leftLeads : left.Leads) (rightLeads : right.Leads)
    (combined : ∀ {first second : MeasureUnit α}, first.isSI = true → second.isSI = true →
      (combine first second).isSI = true) :
    (ofCrossed name symbol dimension origin _ _
      (crossed_preferred_lt combine left right)).Leads := by
  obtain ⟨first, firstRest, leftSame, firstSI⟩ := leftLeads
  obtain ⟨second, secondRest, rightSame, secondSI⟩ := rightLeads
  refine ⟨combine first second, distinctUnits [(combine first second).expression]
    (secondRest.map (combine first) ++ crossUnits combine firstRest right.units), ?_,
    combined firstSI secondSI⟩
  change distinctUnits [] (crossUnits combine left.units right.units) = _
  rw [crossUnits, leftSame, List.flatMap_cons, rightSame, List.map_cons, List.cons_append,
    distinctUnits]
  rfl

theorem inherited_leads : Quantity.Inherited (Leads : Quantity α → Prop) where
  power {_ _ exponent} leads made := by
    unfold Quantity.power at made
    split at made
    · cases made
      exact leads
    · obtain ⟨dimension, _, made⟩ := exists_of_bind_eq_ok made
      cases made
      obtain ⟨unit, rest, same, si⟩ := leads
      refine ⟨unit.power exponent, rest.map (·.power exponent), ?_,
        MeasureUnit.isSI_power si exponent⟩
      exact (congrArg (List.map _) same).trans List.map_cons
  product left right made := by
    obtain ⟨dimension, _, made⟩ := exists_of_bind_eq_ok made
    cases made
    exact leads_of_crossed left right MeasureUnit.isSI_multiply
  quotient left right made := by
    obtain ⟨dimension, _, made⟩ := exists_of_bind_eq_ok made
    cases made
    exact leads_of_crossed left right MeasureUnit.isSI_divide
  origin _ leads := leads

end Quantity

namespace Definitions

omit [Scalar.Unital α] in
/-- The first unit of each built-in quantity has the slope one and no intercept. -/
theorem first_builtin : ∀ definition ∈ (builtin : Definitions α).quantities,
    ∃ unit rest, definition.units = unit :: rest ∧ unit.slope = Scalar.decimal 1 0 ∧
      unit.intercept = 0 := by
  simp only [builtin, builtinQuantities, List.forall_mem_cons]
  exact ⟨⟨_, _, rfl, rfl, rfl⟩, ⟨_, _, rfl, rfl, rfl⟩, ⟨_, _, rfl, rfl, rfl⟩,
    ⟨_, _, rfl, rfl, rfl⟩, ⟨_, _, rfl, rfl, rfl⟩, ⟨_, _, rfl, rfl, rfl⟩, ⟨_, _, rfl, rfl, rfl⟩,
    ⟨_, _, rfl, rfl, rfl⟩, ⟨_, _, rfl, rfl, rfl⟩, ⟨_, _, rfl, rfl, rfl⟩, ⟨_, _, rfl, rfl, rfl⟩,
    fun _ impossible => absurd impossible List.not_mem_nil⟩

end Definitions

namespace Registry

/-- All quantities of a registry that grows from the built-in document lead with an SI unit. -/
theorem leads_reached {settings : Settings} {start : Registry α}
    (loaded : ofDefinitions Definitions.builtin settings = .ok start)
    (expressions : List String) :
    ∀ quantity ∈ (start.reached expressions).quantities, quantity.Leads := by
  refine inherited_run Quantity.inherited_leads (fun quantity member => ?_) ?_
  · obtain ⟨definition, listed, makes⟩ := exists_of_forall₂ (makes_of_loaded loaded) member
    obtain ⟨unit, rest, same, slope, intercept⟩ := Definitions.first_builtin definition listed
    refine ⟨unit, rest, makes.units.trans same, ?_⟩
    rw [MeasureUnit.isSI, slope, intercept, Bool.and_eq_true]
    exact ⟨Scalar.Unital.numeral, Scalar.Unital.zero⟩
  · intro quantity registered
    obtain ⟨expression, _, impossible⟩ := List.mem_map.1 registered
    cases impossible

end Registry

end Leading

/-- The pure numbers have a quantity in every registry that grows from the built-in document. -/
theorem Registry.ratio_owned_reached {α : Type} [Scalar α] {settings : Settings}
    {start : Registry α} (loaded : ofDefinitions Definitions.builtin settings = .ok start)
    (expressions : List String) :
    ((start.reached expressions).ownerOf? .ratio).isSome = true := by
  have listed : (⟨"ratio", "r", .ratio, 0, Definitions.ratioUnits⟩ : QuantityDefinition α) ∈
      Definitions.builtin.quantities := List.mem_cons_self
  obtain ⟨quantity, registered, makes⟩ := exists_of_forall₂ (makes_of_loaded loaded).flip listed
  have kept : start.Extends (start.reached expressions) := Extends.run start _
  have owned := ownerOf?_isSome_of_mem (kept.mem registered)
  rwa [makes.dimension] at owned

/-! ## Dimensions of products -/

section Dimensions

variable {α : Type} [Scalar α]

namespace Quantity

theorem dimension_power (quantity : Quantity α) (exponent : Int) :
    (quantity.power exponent).map (·.dimension) = quantity.dimension.times exponent := by
  unfold power
  split
  · next single =>
      rw [single, Dimension.times_one]
      rfl
  · cases quantity.dimension.times exponent <;> rfl

theorem dimension_product (left right : Quantity α) :
    (left.product right).map (·.dimension) = left.dimension.plus right.dimension := by
  unfold product
  cases left.dimension.plus right.dimension <;> rfl

theorem dimension_quotient (left right : Quantity α) :
    (left.quotient right).map (·.dimension) = left.dimension.minus right.dimension := by
  unfold quotient
  cases left.dimension.minus right.dimension <;> rfl

end Quantity

namespace Factor

/-- A factor with its exponent made positive. -/
def upright {α : Type} (factor : Factor α) : Factor α :=
  ⟨factor.entry, factor.exponent.natAbs⟩

omit [Scalar α] in
/-- What stands above the slash is upright. -/
theorem upright_above (factors : List (Factor α)) :
    (above factors).map upright = above factors := by
  refine (List.map_congr_left fun factor member => ?_).trans (List.map_id _)
  have positive : 0 < factor.exponent := by simpa using (List.mem_filter.1 member).2
  rw [upright, Int.natAbs_of_nonneg positive.le]
  rfl

end Factor

namespace Registry

/-- The dimension of a product of quantities, if there are any. -/
def dimensionOf (product : Option (Quantity α)) : Dimension :=
  (product.map (·.dimension)).getD .ratio

/-- A quantity is multiplied as its dimension is. -/
theorem dimension_multiplyOnto (product : Option (Quantity α)) (factor : Factor α) :
    (multiplyOnto product factor).map dimensionOf =
      Factor.multiplied (dimensionOf product) factor.upright := by
  have powers := factor.entry.quantity.dimension_power factor.exponent.natAbs
  unfold multiplyOnto Factor.multiplied
  rw [Factor.upright, UnitEntry.dimension, ← powers]
  cases factor.entry.quantity.power factor.exponent.natAbs with
  | error failure => rfl
  | ok powered =>
      cases product with
      | none => exact (Dimension.ratio_plus powered.dimension).symm
      | some left =>
          have products := left.dimension_product powered
          change _ = left.dimension.plus powered.dimension
          rw [← products]
          simp only [bind, Except.bind]
          cases left.product powered <;> rfl

/-- Quantities of factors are multiplied as upright factors are. -/
theorem dimension_productOf (factors : List (Factor α)) :
    (productOf factors).map dimensionOf = Factor.dimension (factors.map Factor.upright) := by
  change (factors.foldlM multiplyOnto none).map dimensionOf =
    (factors.map Factor.upright).foldlM Factor.multiplied (dimensionOf (none : Option (Quantity α)))
  generalize (none : Option (Quantity α)) = product
  induction factors generalizing product with
  | nil => rfl
  | cons factor rest ih =>
      have step := dimension_multiplyOnto product factor
      rw [List.foldlM_cons, List.map_cons, List.foldlM_cons, ← step]
      cases multiplyOnto product factor with
      | error failure => rfl
      | ok next => exact ih next

/-- There is a product of quantities just when the upright factors stay in range. -/
theorem exists_productOf_iff {factors : List (Factor α)} :
    (∃ product, productOf factors = .ok product) ↔
      Factor.StaysInRange (factors.map Factor.upright) := by
  rw [← Factor.exists_dimension_iff, ← dimension_productOf]
  cases productOf factors with
  | error failure => simp [Except.map]
  | ok product => simp [Except.map]

theorem overflow_of_productOf {factors : List (Factor α)} {failure : Error}
    (failed : productOf factors = .error failure) : Dimension.Overflow failure := by
  have dimensions := dimension_productOf factors
  rw [failed] at dimensions
  exact Factor.overflow_of_foldlM dimensions.symm

theorem exponent_of_productOf {factors : List (Factor α)} {product : Option (Quantity α)}
    (made : productOf factors = .ok product) (axis : Axis) :
    (dimensionOf product).exponent axis =
      Factor.exponentOf (factors.map Factor.upright) axis := by
  have dimensions := dimension_productOf factors
  rw [made] at dimensions
  have sum := Factor.exponent_foldlM dimensions.symm axis
  rwa [Dimension.exponent_ratio, zero_add] at sum

omit [Scalar α] in
/-- The quotient of the two products has the exponents of the factors. -/
theorem exponentOf_upright (factors : List (Factor α)) (axis : Axis) :
    Factor.exponentOf ((Factor.above factors).map Factor.upright) axis -
      Factor.exponentOf ((Factor.below factors).map Factor.upright) axis =
        Factor.exponentOf factors axis := by
  induction factors with
  | nil => rfl
  | cons factor rest ih =>
      rw [Factor.exponentOf_cons, ← ih]
      unfold Factor.above Factor.below
      rw [List.filter_cons, List.filter_cons]
      rcases lt_trichotomy factor.exponent 0 with negative | vanishing | positive
      · have turned : factor.upright.exponentAt axis = -factor.exponentAt axis := by
          rw [Factor.exponentAt, Factor.exponentAt, Factor.upright,
            Int.ofNat_natAbs_of_nonpos negative.le, neg_mul]
        simp only [negative, negative.not_gt, decide_true, decide_false, Bool.false_eq_true,
          if_true, if_false, List.map_cons, Factor.exponentOf_cons, turned]
        ring
      · have nothing : factor.exponentAt axis = 0 := by
          rw [Factor.exponentAt, vanishing, zero_mul]
        simp only [vanishing, lt_irrefl, decide_false, Bool.false_eq_true, if_false, nothing,
          zero_add]
      · have kept : factor.upright.exponentAt axis = factor.exponentAt axis := by
          rw [Factor.exponentAt, Factor.exponentAt, Factor.upright,
            Int.natAbs_of_nonneg positive.le]
        simp only [positive, positive.not_gt, decide_true, decide_false, Bool.false_eq_true,
          if_true, if_false, List.map_cons, Factor.exponentOf_cons, kept]
        ring

/-! ## What factors need -/

/-- The growth and the ranges that the quantity of factors takes: above the slash and below it,
every power and every product of the first powers. -/
structure Derives (registry : Registry α) (factors : List (Factor α)) : Prop where
  growth : registry.growth = true
  above : Factor.StaysInRange (Factor.above factors)
  below : Factor.StaysInRange ((Factor.below factors).map Factor.upright)

/-- What it takes to normalize a text with given factors: read from the left to the right they
stay in range, their powers fit the step limit, and their dimension has a quantity or gets one. -/
structure Takes (registry : Registry α) (factors : List (Factor α)) : Prop where
  range : Factor.StaysInRange factors
  steps : powers factors ≤ registry.stepLimit
  owned : ∀ dimension, Factor.dimension factors = .ok dimension →
    (registry.ownerOf? dimension).isSome = true ∨ registry.Derives factors

/-- How a text with given factors is refused. -/
inductive Refuses (registry : Registry α) (factors : List (Factor α)) : Error → Prop where
  | range {failure : Error} : Dimension.Overflow failure → Refuses registry factors failure
  | steps : registry.stepLimit < powers factors → Refuses registry factors
      (.internal ("conversion needs more than " ++ registry.stepLimit.repr ++ " steps"))
  | closed (token : String) : registry.growth = false →
      Refuses registry factors (.unknownUnit token)

variable {registry : Registry α} {factors : List (Factor α)} {dimension : Dimension}
  {expression : String}

/-! ## Synthesis -/

/-- What is derived for a dimension without an owner is registered. -/
theorem registers_of_derive {numerator owner : Quantity α} {below : Option (Quantity α)}
    {failure : Quantity α → Error} (growth : registry.growth = true)
    (unowned : registry.ownerOf? dimension = none) (derives : numerator.derive below = .ok owner)
    (same : owner.dimension = dimension) (withSI : owner.siUnit?.isSome = true) :
    (do
      let derived ← numerator.derive below
      if derived.dimension ≠ dimension then .error (failure derived)
      else registry.registerDerived derived) = .ok (owner, registry.append owner) := by
  obtain ⟨unit, found⟩ := Option.isSome_iff_exists.1 withSI
  rw [derives]
  change (if owner.dimension ≠ dimension then .error (failure owner)
    else registry.registerDerived owner) = _
  rw [if_neg (not_not.2 same), registerDerived, same, unowned]
  simp [growth, found]

/-- A numerator is divided when the difference of the dimensions is one. -/
theorem exists_derive [Scalar.Unital α] {numerator : Quantity α} {below : Option (Quantity α)}
    (numeratorLeads : numerator.Leads) (belowLeads : ∀ denominator ∈ below, denominator.Leads)
    (exponents : ∀ axis, numerator.dimension.exponent axis - (dimensionOf below).exponent axis =
      dimension.exponent axis) :
    ∃ owner, numerator.derive below = .ok owner ∧ owner.Leads ∧ owner.dimension = dimension := by
  cases below with
  | none =>
      refine ⟨_, rfl, numeratorLeads, Dimension.eq_of_exponent fun axis => ?_⟩
      simpa [dimensionOf, Dimension.exponent_ratio] using exponents axis
  | some denominator =>
      have inRange (axis : Axis) : Dimension.InRange
          (numerator.dimension.exponent axis - denominator.dimension.exponent axis) :=
        (exponents axis).symm ▸ Dimension.inRange_exponent dimension axis
      obtain ⟨difference, subtracted⟩ := Dimension.exists_minus_iff.2 inRange
      have dimensions := numerator.dimension_quotient denominator
      rw [subtracted] at dimensions
      cases derived : numerator.quotient denominator with
      | error failure =>
          rw [derived] at dimensions
          cases dimensions
      | ok owner =>
          rw [derived] at dimensions
          have isDifference : owner.dimension = difference := Except.ok.inj dimensions
          refine ⟨owner, derived, Quantity.inherited_leads.quotient numeratorLeads
            (belowLeads denominator rfl) derived, Dimension.eq_of_exponent fun axis => ?_⟩
          rw [isDifference, Dimension.exponent_minus subtracted]
          exact exponents axis

/-- The dimensions of the two products differ by that of the factors. -/
theorem exponent_of_products (combined : Factor.dimension factors = .ok dimension)
    {above below : Option (Quantity α)} (aboveMade : productOf (Factor.above factors) = .ok above)
    (belowMade : productOf (Factor.below factors) = .ok below) (axis : Axis) :
    (dimensionOf above).exponent axis - (dimensionOf below).exponent axis =
      dimension.exponent axis := by
  have sum := Factor.exponent_foldlM combined axis
  rw [exponent_of_productOf aboveMade, exponent_of_productOf belowMade, exponentOf_upright, sum,
    Dimension.exponent_ratio, zero_add]

section Synthesis

variable [Scalar.Unital α] (leads : ∀ quantity ∈ registry.quantities, quantity.Leads)
  (neutral : (registry.ownerOf? .ratio).isSome = true)
  (known : ∀ factor ∈ factors, factor.entry ∈ registry.entries)
include leads neutral known

/-- When there are both products, nothing stops the synthesis. -/
theorem synthesize_of_products (combined : Factor.dimension factors = .ok dimension)
    (unowned : registry.ownerOf? dimension = none) (growth : registry.growth = true)
    {above below : Option (Quantity α)}
    (aboveMade : productOf (Factor.above factors) = .ok above)
    (belowMade : productOf (Factor.below factors) = .ok below) :
    ∃ owner, registry.synthesize factors dimension expression =
      .ok (owner, registry.append owner) := by
  have known (factor : Factor α) (member : factor ∈ factors) : factor.entry.quantity.Leads :=
    leads _ (quantity_mem_of_entry (known factor member))
  have aboveLeads := inherited_foldlM Quantity.inherited_leads
    (fun factor member => known factor (List.mem_of_mem_filter member)) (by rintro _ ⟨⟩) aboveMade
  have belowLeads := inherited_foldlM Quantity.inherited_leads
    (fun factor member => known factor (List.mem_of_mem_filter member)) (by rintro _ ⟨⟩) belowMade
  have exponents := exponent_of_products combined aboveMade belowMade
  unfold synthesize
  rw [growth, aboveMade, belowMade]
  cases above with
  | some numerator =>
      obtain ⟨owner, derives, ownerLeads, same⟩ :=
        exists_derive (aboveLeads numerator rfl) belowLeads exponents
      exact ⟨owner, registers_of_derive growth unowned derives same ownerLeads.withSI⟩
  | none =>
      -- Nothing stands above the slash, so the quantity without a dimension is divided.
      obtain ⟨ratio, owns⟩ := Option.isSome_iff_exists.1 neutral
      have named := List.find?_some owns
      have isRatio : ratio.dimension = .ratio := beq_iff_eq.1 named
      have ratioLeads := leads ratio (List.mem_of_find?_eq_some owns)
      rw [show dimensionOf none = ratio.dimension from isRatio.symm] at exponents
      obtain ⟨owner, derives, ownerLeads, same⟩ := exists_derive ratioLeads belowLeads exponents
      rw [neutralQuantity_eq_ok_iff.2 owns]
      exact ⟨owner, registers_of_derive growth unowned derives same ownerLeads.withSI⟩

/-- A quantity is derived just when the registry may grow and both products stay in range. -/
theorem exists_synthesize_iff (combined : Factor.dimension factors = .ok dimension)
    (unowned : registry.ownerOf? dimension = none) :
    (∃ answer, registry.synthesize factors dimension expression = .ok answer) ↔
      registry.Derives factors := by
  constructor
  · rintro ⟨answer, made⟩
    obtain ⟨above, below, _, aboveMade, belowMade, _⟩ := exists_of_synthesize unowned made
    constructor
    · exact growth_of_synthesize made
    · rw [← Factor.upright_above]
      exact exists_productOf_iff.1 ⟨above, aboveMade⟩
    · exact exists_productOf_iff.1 ⟨below, belowMade⟩
  · rintro ⟨growth, aboveRange, belowRange⟩
    rw [← Factor.upright_above] at aboveRange
    obtain ⟨above, aboveMade⟩ := exists_productOf_iff.2 aboveRange
    obtain ⟨below, belowMade⟩ := exists_productOf_iff.2 belowRange
    obtain ⟨owner, made⟩ :=
      synthesize_of_products leads neutral known combined unowned growth aboveMade belowMade
    exact ⟨_, made⟩

/-- A synthesis fails by a range, or because the registry may not grow. -/
theorem refuses_of_synthesize (combined : Factor.dimension factors = .ok dimension)
    (unowned : registry.ownerOf? dimension = none) {failure : Error}
    (failed : registry.synthesize factors dimension expression = .error failure) :
    registry.Refuses factors failure := by
  cases growth : registry.growth with
  | false =>
      rw [synthesize, growth] at failed
      cases failed
      exact .closed _ growth
  | true =>
      cases aboveMade : productOf (Factor.above factors) with
      | error reason =>
          rw [synthesize, growth, aboveMade] at failed
          cases failed
          exact .range (overflow_of_productOf aboveMade)
      | ok above =>
          cases belowMade : productOf (Factor.below factors) with
          | error reason =>
              rw [synthesize, growth, aboveMade, belowMade] at failed
              cases failed
              exact .range (overflow_of_productOf belowMade)
          | ok below =>
              obtain ⟨owner, made⟩ := synthesize_of_products leads neutral known combined unowned
                growth aboveMade belowMade
              cases failed.symm.trans made

end Synthesis

/-! ## Normalizing -/

/-- Factors of quantities with SI units come to nothing by a range or by their steps. -/
theorem refuses_of_outlineOf
    (withSI : ∀ factor ∈ factors, factor.entry.quantity.siUnit?.isSome = true) {failure : Error}
    (failed : outlineOf registry.stepLimit factors = .error failure) :
    registry.Refuses factors failure := by
  by_cases steps : powers factors ≤ registry.stepLimit
  · exact .range (overflow_of_outlineOf withSI steps failed)
  · cases combined : Factor.dimension factors with
    | error reason =>
        rw [outlineOf, combined] at failed
        cases failed
        exact .range (Factor.overflow_of_foldlM combined)
    | ok dimension =>
        cases planned : ConversionPlan.ofFactors factors registry.stepLimit with
        | error reason =>
            rw [outlineOf, combined, planned] at failed
            cases failed
            rw [ConversionPlan.failure_of_ofFactors withSI planned]
            exact .steps (not_le.1 steps)
        | ok plan =>
            rw [outlineOf, combined, planned] at failed
            cases failed

/-- What has been outlined fails only for want of an owner. -/
theorem normalize_of_ownerOrDerived_error {outline : Outline α} {failure : Error}
    (resolved : registry.factors expression = .ok factors)
    (outlined : outlineOf registry.stepLimit factors = .ok outline)
    (failed : registry.ownerOrDerived factors outline.dimension expression = .error failure) :
    registry.normalize expression = .error failure := by
  obtain ⟨dimension, combined, outlined⟩ := exists_of_bind_eq_ok outlined
  obtain ⟨plan, planned, outlined⟩ := exists_of_bind_eq_ok outlined
  cases outlined
  simp only [normalize, resolved, combined, planned, bind, Except.bind]
  rw [failed]

section Normalizing

variable [Scalar.Unital α] (leads : ∀ quantity ∈ registry.quantities, quantity.Leads)
  (neutral : (registry.ownerOf? .ratio).isSome = true)
  (resolved : registry.factors expression = .ok factors)
include leads neutral resolved

/-- What has been outlined without an owner is normalized just when an owner can be derived. -/
theorem derives_or_refuses {outline : Outline α}
    (outlined : outlineOf registry.stepLimit factors = .ok outline)
    (unowned : registry.ownerOf? outline.dimension = none) :
    registry.Derives factors ∧ (∃ answer, registry.normalize expression = .ok answer) ∨
      ¬registry.Derives factors ∧ ∃ failure, registry.normalize expression = .error failure ∧
        registry.Refuses factors failure := by
  have known := mem_of_factors resolved
  have combined := dimension_of_outlineOf outlined
  have derives : (∃ answer, registry.synthesize factors outline.dimension expression =
      .ok answer) ↔ registry.Derives factors :=
    exists_synthesize_iff leads neutral known combined unowned
  have derived : registry.ownerOrDerived factors outline.dimension expression =
      registry.synthesize factors outline.dimension expression := by
    rw [ownerOrDerived, unowned]
  cases made : registry.synthesize factors outline.dimension expression with
  | ok answer =>
      obtain ⟨owner, grown⟩ := answer
      obtain ⟨_, _, withSI, _⟩ := synthesize_eq_ok known unowned made
      obtain ⟨unit, siUnit⟩ := Option.isSome_iff_exists.1 withSI
      exact .inl ⟨derives.1 ⟨_, made⟩, (⟨unit.expression, outline.userExpression,
        outline.dimension, owner.name, outline.slope, outline.intercept⟩, grown),
        normalize_eq_ok_iff.2
          ⟨factors, owner, unit, resolved, outlined, derived.trans made, siUnit, rfl, rfl⟩⟩
  | error failure =>
      refine .inr ⟨fun needs => ?_, failure, normalize_of_ownerOrDerived_error resolved outlined
        (derived.trans made), refuses_of_synthesize leads neutral known combined unowned made⟩
      obtain ⟨answer, succeeds⟩ := derives.2 needs
      cases made.symm.trans succeeds

/-- A text whose factors take what they need is normalized, and any other is refused. -/
theorem takes_or_refuses :
    registry.Takes factors ∧ (∃ answer, registry.normalize expression = .ok answer) ∨
      ¬registry.Takes factors ∧ ∃ failure, registry.normalize expression = .error failure ∧
        registry.Refuses factors failure := by
  have known := mem_of_factors resolved
  have withSI (factor : Factor α) (member : factor ∈ factors) :
      factor.entry.quantity.siUnit?.isSome = true :=
    (leads _ (quantity_mem_of_entry (known factor member))).withSI
  cases outlined : outlineOf registry.stepLimit factors with
  | error failure =>
      refine .inr ⟨?_, failure, normalize_of_outlineOf_error resolved outlined,
        refuses_of_outlineOf withSI outlined⟩
      rintro ⟨range, steps, _⟩
      obtain ⟨outline, made⟩ := (exists_outlineOf_iff withSI).2 ⟨range, steps⟩
      cases outlined.symm.trans made
  | ok outline =>
      obtain ⟨range, steps⟩ := (exists_outlineOf_iff withSI).1 ⟨outline, outlined⟩
      have combined := dimension_of_outlineOf outlined
      cases owned : registry.ownerOf? outline.dimension with
      | some owner =>
          obtain ⟨unit, siUnit⟩ := Option.isSome_iff_exists.1
            (leads owner (List.mem_of_find?_eq_some owned)).withSI
          refine .inl ⟨⟨range, steps, fun dimension same => .inl ?_⟩, _,
            normalize_of_owned resolved outlined owned siUnit⟩
          cases combined.symm.trans same
          exact Option.isSome_iff_exists.2 ⟨owner, owned⟩
      | none =>
          rcases derives_or_refuses leads neutral resolved outlined owned with
            ⟨derives, made⟩ | ⟨refused, fails⟩
          · exact .inl ⟨⟨range, steps, fun _ _ => .inr derives⟩, made⟩
          · refine .inr ⟨fun takes => ?_, fails⟩
            rcases takes.owned outline.dimension combined with found | derives
            · rw [owned] at found
              cases found
            · exact refused derives

end Normalizing

end Registry

end Dimensions

end Metrology
