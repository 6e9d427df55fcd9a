import Metrology.Proofs.Agreement
import Metrology.Proofs.Ranges

/-!
# Compound units read in two ways

A registered unit is read as a whole by its expression, or token by token.  When units
agree with their texts, both readings come to the same dimension, slope and intercept, and
the text of an SI unit is normalized to itself.
-/

namespace Metrology

open UnitExpression

/-! ## Products of factors -/

namespace Factor

/-- The product of the scales of factors. -/
def scale (factors : List (Factor ℚ)) : Scale :=
  (factors.map fun factor => factor.entry.scale ^ factor.exponent).prod

/-- The exponents of a product of factors are sums. -/
theorem exponent_dimension {factors : List (Factor ℚ)} {dimension : Dimension}
    (made : Factor.dimension factors = .ok dimension) (axis : Axis) :
    dimension.exponent axis = (factors.map fun factor =>
      factor.exponent * factor.entry.dimension.exponent axis).sum := by
  have sum := exponent_foldlM made axis
  rwa [Dimension.exponent_ratio, zero_add] at sum

theorem exponent_scale (factors : List (Factor ℚ)) (axis : Axis) :
    ((scale factors).1 axis).toAdd = (factors.map fun factor =>
      factor.exponent * factor.entry.dimension.exponent axis).sum := by
  induction factors with
  | nil => rfl
  | cons factor rest ih =>
      rw [scale, List.map_cons, List.prod_cons, ← scale, Prod.fst_mul, Pi.mul_apply, toAdd_mul,
        ih, Prod.pow_fst, Pi.pow_apply, toAdd_zpow, smul_eq_mul, List.map_cons, List.sum_cons]
      rfl

theorem slope_scale {factors : List (Factor ℚ)}
    (proportional : ∀ factor ∈ factors, factor.entry.Proportional) :
    ((scale factors).2 : ℚ) = (factors.map fun factor =>
      factor.entry.unit.slope ^ factor.exponent).prod := by
  induction factors with
  | nil => rfl
  | cons factor rest ih =>
      have here := (proportional factor List.mem_cons_self).measures.slope
      have later := ih fun other member => proportional other (List.mem_cons_of_mem _ member)
      rw [scale, List.map_cons, List.prod_cons, ← scale, Prod.snd_mul, Units.val_mul, later,
        Prod.pow_snd, Units.val_zpow_eq_zpow_val, here, List.map_cons, List.prod_cons]

end Factor

namespace ConversionPlan

/-- Steps without intercepts leave the intercept of a plan at zero. -/
theorem intercept_foldl {steps : List (ConversionStep ℚ)}
    (proportional : ∀ step ∈ steps, step.intercept = 0) {map : ℚ × ℚ} (start : map.2 = 0) :
    (steps.foldl (fun sofar step => step.after sofar) map).2 = 0 := by
  induction steps generalizing map with
  | nil => exact start
  | cons step rest ih =>
      refine ih (fun other member => proportional other (List.mem_cons_of_mem _ member)) ?_
      change (step.after map).2 = 0
      unfold ConversionStep.after
      split <;> simp [start, proportional step List.mem_cons_self]

theorem intercept_ofFactors {factors : List (Factor ℚ)} {limit : Nat} {plan : ConversionPlan ℚ}
    (proportional : ∀ factor ∈ factors, factor.entry.Proportional)
    (planned : ofFactors factors limit = .ok plan) : plan.affine.2 = 0 := by
  rw [affine, (ofFactors_eq_ok planned).1]
  refine intercept_foldl (fun step member => ?_) rfl
  obtain ⟨factor, inside, steps⟩ := List.mem_flatMap.1 member
  have among : factor ∈ factors := by
    rcases List.mem_append.1 inside with above | below
    · exact List.mem_of_mem_filter above
    · exact List.mem_of_mem_filter below
  rw [List.eq_of_mem_replicate steps]
  exact (proportional factor among).intercept

end ConversionPlan

namespace Registry

/-- What factors come to has the product of their scales. -/
theorem measures_of_outlineOf {factors : List (Factor ℚ)} {limit : Nat} {outline : Outline ℚ}
    (proportional : ∀ factor ∈ factors, factor.entry.Proportional)
    (outlined : outlineOf limit factors = .ok outline) :
    (Factor.scale factors).Measures outline.dimension outline.slope ∧ outline.intercept = 0 := by
  obtain ⟨dimension, combined, outlined⟩ := exists_of_bind_eq_ok outlined
  obtain ⟨plan, planned, outlined⟩ := exists_of_bind_eq_ok outlined
  cases outlined
  refine ⟨⟨fun axis => ?_, ?_⟩, ConversionPlan.intercept_ofFactors proportional planned⟩
  · rw [Factor.exponent_scale, Factor.exponent_dimension combined]
  · rw [Factor.slope_scale proportional, ConversionPlan.slope_ofFactors planned, Choice.slope,
      chosen, List.map_map, List.map_append, List.prod_append]
    refine (prod_signs Factor.exponent ?_ factors).symm
    intro factor vanishing
    rw [vanishing, zpow_zero]

/-! ## Tokens -/

/-- A factor is the unit that the token of a term is the expression of. -/
structure Stands (registry : Registry ℚ) (term : UnitTerm) (factor : Factor ℚ) : Prop where
  resolved : registry.findUnit term.token = .ok factor.entry
  carries : factor.entry.expression = term.token
  exponent : factor.exponent = term.exponent

variable {basis registry : Registry ℚ}

theorem findExpression?_of_knows (kept : basis.Extends registry) {token : String}
    (knows : basis.Knows token) :
    ∃ entry, basis.findExpression? token = some entry ∧ entry.Proportional ∧
      registry.findExpression? (Text.trimmed token) = some entry := by
  obtain ⟨entry, found, proportional⟩ := knows.found
  refine ⟨entry, found, proportional, ?_⟩
  rw [Text.trimmed, knows.isToken.bare.trim, String.ofList_toList]
  exact kept.findExpression? found

/-- Known tokens stand for factors that have the scale of the terms. -/
theorem exists_factors (kept : basis.Extends registry) {terms : List UnitTerm}
    (known : ∀ term ∈ terms, basis.Knows term.token) :
    ∃ factors, List.Forall₂ registry.Stands terms factors ∧
      (∀ factor ∈ factors, factor.entry.Proportional) ∧
      Factor.scale factors = valued basis.scaleOf terms := by
  induction terms with
  | nil => exact ⟨[], .nil, fun _ impossible => absurd impossible List.not_mem_nil, rfl⟩
  | cons term rest ih =>
      obtain ⟨entry, found, proportional, stands⟩ :=
        findExpression?_of_knows kept (known term List.mem_cons_self)
      obtain ⟨factors, allStand, others, same⟩ :=
        ih fun other member => known other (List.mem_cons_of_mem _ member)
      have carries := expression_of_findExpression? found
      refine ⟨⟨entry, term.exponent⟩ :: factors,
        .cons ⟨findUnit_of_findExpression? stands, carries, rfl⟩ allStand, ?_, ?_⟩
      · intro factor member
        rcases List.mem_cons.1 member with rfl | later
        · exact proportional
        · exact others factor later
      · rw [Factor.scale, List.map_cons, List.prod_cons, ← Factor.scale, same, valued_cons,
          scaleOf, found]
        rfl

/-- Distinct tokens resolve one after another. -/
theorem resolveTerms_of_stands {terms : List UnitTerm} {sofar factors : List (Factor ℚ)}
    (stands : List.Forall₂ registry.Stands terms factors)
    (known : ∀ before ∈ sofar, before.entry ∈ registry.entries)
    (apart : ∀ before ∈ sofar, ∀ term ∈ terms, before.entry.expression ≠ term.token)
    (distinct : (terms.map (·.token)).Nodup) :
    registry.resolveTerms sofar terms = .ok (sofar ++ factors) := by
  induction stands generalizing sofar with
  | nil => rw [List.append_nil, resolveTerms]
  | @cons term factor rest others stands _ ih =>
      obtain ⟨fresh, restDistinct⟩ := List.nodup_cons.1 distinct
      have member := mem_of_findUnit stands.resolved
      have appended : Factor.addPower factor.entry term.exponent sofar = sofar ++ [factor] := by
        rw [← stands.exponent]
        refine addPower_eq_append fun before inside => eq_false_of_ne_true fun same => ?_
        refine apart before inside term List.mem_cons_self ?_
        rw [expression_eq_of_samePlace (known before inside) member same, stands.carries]
      rw [resolveTerms, stands.resolved]
      change registry.resolveTerms (Factor.addPower factor.entry term.exponent sofar) rest = _
      rw [appended, ih ?_ ?_ restDistinct, List.append_assoc, List.singleton_append]
      · intro before inside
        rcases List.mem_append.1 inside with earlier | last
        · exact known before earlier
        · rwa [List.mem_singleton.1 last]
      · intro before inside other later same
        rcases List.mem_append.1 inside with earlier | last
        · exact apart before earlier other (List.mem_cons_of_mem _ later) same
        · rw [List.mem_singleton.1 last, stands.carries] at same
          exact fresh (List.mem_map.2 ⟨other, later, same.symm⟩)

/-- The factors of a text are those of its terms. -/
theorem tokenFactors_of_reads (kept : basis.Extends registry) {terms : List UnitTerm}
    {text : String} {scale : Scale} (reads : basis.Reads terms text scale) :
    ∃ factors, List.Forall₂ registry.Stands (canonical terms) factors ∧
      (∀ factor ∈ factors, factor.entry.Proportional) ∧ Factor.scale factors = scale ∧
      registry.tokenFactors text = .ok factors := by
  obtain ⟨factors, stands, proportional, same⟩ := exists_factors kept reads.known_canonical
  refine ⟨factors, stands, proportional, ?_, ?_⟩
  · rw [same, valued_canonical, reads.valued]
  · have resolved : registry.resolveTerms [] (canonical terms) = .ok ([] ++ factors) :=
      resolveTerms_of_stands stands (fun _ impossible => absurd impossible List.not_mem_nil)
        (fun _ impossible => absurd impossible List.not_mem_nil) (nodup_tokens_canonical terms)
    have exponents := exponents_of_matches
      (stands.imp fun _ _ stands =>
        ⟨mem_of_findUnit stands.resolved, stands.carries, stands.exponent⟩)
    have remaining : factors.filter (fun factor => decide (factor.exponent ≠ 0)) = factors := by
      refine List.filter_eq_self.2 fun factor member => decide_eq_true fun vanishing => ?_
      refine (inOrder_canonical terms).1 ?_
      rw [← exponents, ← vanishing]
      exact List.mem_map_of_mem member
    rw [tokenFactors, reads.split]
    change (do
      let resolved ← registry.resolveTerms [] (canonical terms)
      Except.ok (resolved.filter fun factor : Factor ℚ => decide (factor.exponent ≠ 0))) = _
    rw [resolved, List.nil_append]
    exact congrArg Except.ok remaining

/-! ## Units as a whole -/

/-- A unit has the dimension and the slope that the tokens of its text multiply up to, and
none of them has an intercept. -/
structure Agrees (registry : Registry ℚ) (dimension : Dimension) (unit : MeasureUnit ℚ)
    (terms : List UnitTerm) (factors : List (Factor ℚ)) : Prop where
  split : UnitExpression.split unit.expression = .ok terms
  stands : List.Forall₂ registry.Stands terms factors
  tokens : ∀ factor ∈ factors, factor.entry.unit.intercept = 0
  exponent : ∀ axis, (factors.map fun factor =>
    factor.exponent * factor.entry.dimension.exponent axis).sum = dimension.exponent axis
  slope : (factors.map fun factor =>
    factor.entry.unit.slope ^ factor.exponent).prod = unit.slope
  intercept : unit.intercept = 0

/-- What factors come to is what a unit is. -/
structure Outline.IsOf (outline : Outline ℚ) (dimension : Dimension) (unit : MeasureUnit ℚ) :
    Prop where
  dimension : outline.dimension = dimension
  slope : outline.slope = unit.slope
  intercept : outline.intercept = 0

/-- The expression of a unit comes to the unit, as a whole and token by token.  As a whole
it is outlined within any limit; its tokens may exceed a range. -/
structure ReadsBothWays (registry : Registry ℚ) (dimension : Dimension) (unit : MeasureUnit ℚ) :
    Prop where
  whole : ∃ factors outline, registry.factors unit.expression = .ok factors ∧
    outlineOf registry.stepLimit factors = .ok outline ∧ Outline.IsOf outline dimension unit
  tokens : ∃ factors, registry.tokenFactors unit.expression = .ok factors ∧
    ∀ outline, outlineOf registry.stepLimit factors = .ok outline →
      Outline.IsOf outline dimension unit

theorem agrees_of_spelled (kept : basis.Extends registry) {dimension : Dimension}
    {unit : MeasureUnit ℚ} (spelled : basis.Spelled dimension unit) :
    ∃ terms factors, registry.Agrees dimension unit terms factors := by
  obtain ⟨terms, scale, reads, measures, intercept⟩ := spelled
  obtain ⟨factors, stands, proportional, same, _⟩ := tokenFactors_of_reads kept reads
  refine ⟨canonical terms, factors, reads.split, stands,
    fun factor member => (proportional factor member).intercept, fun axis => ?_, ?_, intercept⟩
  · rw [← Factor.exponent_scale, same, measures.exponent]
  · rw [← Factor.slope_scale proportional, same, measures.slope]

/-- Factors with the scale of a unit come to what the unit is. -/
theorem isOf_of_outlineOf {factors : List (Factor ℚ)} {limit : Nat} {outline : Outline ℚ}
    {dimension : Dimension} {unit : MeasureUnit ℚ}
    (proportional : ∀ factor ∈ factors, factor.entry.Proportional)
    (measures : (Factor.scale factors).Measures dimension unit.slope)
    (outlined : outlineOf limit factors = .ok outline) : Outline.IsOf outline dimension unit := by
  obtain ⟨whole, intercept⟩ := measures_of_outlineOf proportional outlined
  obtain ⟨sameDimension, sameSlope⟩ := whole.unique measures
  exact ⟨sameDimension, sameSlope, intercept⟩

section Whole

variable {quantity : Quantity ℚ} {unit : MeasureUnit ℚ}

/-- Units with one text are one unit as far as dimension and slope go. -/
theorem same_of_text {dimension second : Dimension} {other : MeasureUnit ℚ}
    (spelled : basis.Spelled dimension unit) (otherSpelled : basis.Spelled second other)
    (text : unit.expression = other.expression) :
    dimension = second ∧ unit.slope = other.slope := by
  obtain ⟨terms, scale, reads, measures, _⟩ := spelled
  obtain ⟨others, otherScale, otherReads, otherMeasures, _⟩ := otherSpelled
  rw [text] at reads
  rw [reads.unique otherReads] at measures
  exact measures.unique otherMeasures

theorem readsBothWays (coherent : basis.Coherent registry) (positive : 1 ≤ registry.stepLimit)
    (member : quantity ∈ registry.quantities) (inside : unit ∈ quantity.units) :
    registry.ReadsBothWays quantity.dimension unit := by
  have spelled := coherent.spelled quantity member unit inside
  obtain ⟨terms, scale, reads, measures, intercept⟩ := id spelled
  obtain ⟨tokens, stands, proportional, same, resolved⟩ :=
    tokenFactors_of_reads coherent.kept reads
  have trimmed : Text.trimmed unit.expression = unit.expression := by
    rw [reads.written, trimmed_format reads.legible.isToken]
  have tokensMeasure := same ▸ measures
  refine ⟨?_, tokens, resolved, fun outline => isOf_of_outlineOf proportional tokensMeasure⟩
  by_cases empty : unit.expression = ""
  · rw [empty] at resolved
    cases resolved
    have outlined : outlineOf registry.stepLimit ([] : List (Factor ℚ)) =
        .ok ⟨"", .ratio, 1, 0⟩ := rfl
    refine ⟨[], _, ?_, outlined, isOf_of_outlineOf proportional tokensMeasure outlined⟩
    rw [empty]
    rfl
  · have filled : (Text.trimmed unit.expression).isEmpty = false := by
      rw [trimmed]
      exact Bool.eq_false_iff.2 fun none_left => empty (String.isEmpty_iff.1 none_left)
    have isSome : (registry.findExpression? (Text.trimmed unit.expression)).isSome = true :=
      findExpression?_isSome_iff.2 ⟨quantity, member, unit, inside, trimmed.symm⟩
    obtain ⟨entry, found⟩ := Option.isSome_iff_exists.1 isSome
    have known := mem_of_findExpression? found
    have registered := quantity_mem_of_entry known
    have entrySpelled := coherent.spelled_entry known
    have carries : entry.unit.expression = unit.expression :=
      (expression_of_findExpression? found).trans trimmed
    obtain ⟨sameDimension, sameSlope⟩ := same_of_text entrySpelled spelled carries
    obtain ⟨_, _, _, _, entryIntercept⟩ := entrySpelled
    exact ⟨_, _, factors_of_findExpression? found filled,
      outlineOf_single positive (coherent.formed.withSI _ registered),
      ⟨sameDimension, sameSlope, entryIntercept⟩⟩

/-- The text of an SI unit is normalized to the SI unit. -/
theorem normalize_siUnit (coherent : basis.Coherent registry)
    (positive : 1 ≤ registry.stepLimit) (member : quantity ∈ registry.quantities)
    (si : quantity.siUnit? = some unit) :
    ∃ again, registry.normalize unit.expression = .ok (again, registry) ∧
      again.dimension = quantity.dimension ∧ again.slope = 1 ∧ again.intercept = 0 := by
  have inside := List.mem_of_find?_eq_some si
  have isSI := List.find?_some si
  have slope : unit.slope = 1 := by
    rw [MeasureUnit.isSI, Bool.and_eq_true] at isSI
    exact of_decide_eq_true isSI.1
  obtain ⟨factors, outline, resolved, outlined, isOf⟩ :=
    (readsBothWays coherent positive member inside).whole
  obtain ⟨owner, owned⟩ := Option.isSome_iff_exists.1 (ownerOf?_isSome_of_mem member)
  obtain ⟨ownerUnit, ownerSI⟩ := Option.isSome_iff_exists.1
    (coherent.formed.withSI owner (List.mem_of_find?_eq_some owned))
  rw [← isOf.dimension] at owned
  exact ⟨_, normalize_of_owned resolved outlined owned ownerSI, isOf.dimension,
    isOf.slope.trans slope, isOf.intercept⟩

end Whole

end Registry

end Metrology
