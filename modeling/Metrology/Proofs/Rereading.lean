import Metrology.Proofs.Choices

/-!
# Texts that have become units

When a text that was read token by token has become a unit, this unit is spelled
from the very units that the tokens stand for.  So it has the slope that the text
had before.
-/

namespace Metrology

open UnitExpression

/-! ## Order of exponents -/

/-- No exponent vanishes, and no negative one comes before a positive one. -/
def InOrder (exponents : List Int) : Prop :=
  0 ∉ exponents ∧ exponents.Pairwise fun earlier later => 0 < later → 0 < earlier

/-- What is in order is not changed by bringing the positive ones to the front. -/
theorem filter_append_filter {β : Type} (exponent : β → Int) {values : List β}
    (inOrder : InOrder (values.map exponent)) :
    values.filter (0 < exponent ·) ++ values.filter (exponent · < 0) = values := by
  induction values with
  | nil => rfl
  | cons value rest ih =>
      obtain ⟨nonzero, ordered⟩ := inOrder
      rw [List.map_cons, List.mem_cons, not_or] at nonzero
      rw [List.map_cons, List.pairwise_cons] at ordered
      rcases lt_or_gt_of_ne nonzero.1 with positive | negative
      · have below : ¬ exponent value < 0 := by omega
        rw [List.filter_cons_of_pos (by simpa using positive),
          List.filter_cons_of_neg (by simpa using below), List.cons_append,
          ih ⟨nonzero.2, ordered.2⟩]
      · have restNegative : ∀ other ∈ rest, exponent other < 0 := by
          intro other member
          have image : exponent other ∈ rest.map exponent := List.mem_map_of_mem member
          have notPositive := mt (ordered.1 _ image) (by omega)
          have notZero : exponent other ≠ 0 := fun zero => nonzero.2 (zero ▸ image)
          omega
        have noneAbove : (value :: rest).filter (0 < exponent ·) = [] := by
          refine List.filter_eq_nil_iff.2 fun other member => ?_
          rcases List.mem_cons.1 member with rfl | later
          · simpa using negative.le
          · simpa using (restNegative other later).le
        have allBelow : (value :: rest).filter (exponent · < 0) = value :: rest := by
          refine List.filter_eq_self.2 fun other member => ?_
          rcases List.mem_cons.1 member with rfl | later
          · simpa using negative
          · simpa using restNegative other later
        rw [noneAbove, allBelow, List.nil_append]

theorem inOrder_canonical (terms : List UnitTerm) :
    InOrder ((canonical terms).map (·.exponent)) := by
  constructor
  · intro member
    obtain ⟨term, inside, zero⟩ := List.mem_map.1 member
    exact (mem_canonical.1 inside).2 zero
  · have above : ∀ term ∈ aboveTerms (combine terms), 0 < term.exponent :=
      fun _ member => of_decide_eq_true (List.mem_filter.1 member).2
    have below : ∀ term ∈ belowTerms (combine terms), term.exponent < 0 :=
      fun _ member => of_decide_eq_true (List.mem_filter.1 member).2
    rw [List.pairwise_map, canonical, List.pairwise_append]
    refine ⟨?_, ?_, ?_⟩
    · exact List.pairwise_of_forall_mem_list fun earlier member _ _ _ => above earlier member
    · refine List.pairwise_of_forall_mem_list fun _ _ later member positive => ?_
      exact absurd (below later member) (by omega)
    · exact fun earlier member _ _ _ => above earlier member

/-! ## Reading expressions of units -/

namespace Registry

variable {α : Type} {registry : Registry α}

/-- A factor is the unit of a term with its exponent. -/
def Matches (registry : Registry α) (term : UnitTerm) (factor : Factor α) : Prop :=
  factor.entry ∈ registry.entries ∧ factor.entry.expression = term.token ∧
    factor.exponent = term.exponent

theorem expression_of_findExpression? {expression : String} {entry : UnitEntry α}
    (found : registry.findExpression? expression = some entry) :
    entry.expression = expression := by
  have named := List.find?_some found
  exact beq_iff_eq.1 named

theorem expression_eq_of_samePlace {left right : UnitEntry α}
    (leftMember : left ∈ registry.entries) (rightMember : right ∈ registry.entries)
    (same : left.samePlace right = true) : left.expression = right.expression := by
  obtain ⟨leftQuantity, leftUnit⟩ := mem_entries_iff.1 leftMember
  obtain ⟨rightQuantity, rightUnit⟩ := mem_entries_iff.1 rightMember
  rw [UnitEntry.samePlace, Bool.and_eq_true, beq_iff_eq, beq_iff_eq] at same
  rw [same.1, rightQuantity] at leftQuantity
  rw [same.2, ← Option.some.inj leftQuantity, rightUnit] at leftUnit
  rw [UnitEntry.expression, UnitEntry.expression, Option.some.inj leftUnit]

theorem addPower_eq_append {entry : UnitEntry α} {exponent : Int} {factors : List (Factor α)}
    (apart : ∀ factor ∈ factors, factor.entry.samePlace entry = false) :
    Factor.addPower entry exponent factors = factors ++ [⟨entry, exponent⟩] := by
  induction factors with
  | nil => rfl
  | cons first rest ih =>
      have firstApart := apart first List.mem_cons_self
      rw [Factor.addPower, firstApart, ih fun factor member =>
        apart factor (List.mem_cons_of_mem _ member)]
      rfl

/-- Distinct tokens that are expressions of units stand for these units. -/
theorem resolveTerms_exact {terms : List UnitTerm} {factors resolved : List (Factor α)}
    (known : ∀ factor ∈ factors, factor.entry ∈ registry.entries)
    (apart : ∀ factor ∈ factors, ∀ term ∈ terms, factor.entry.expression ≠ term.token)
    (distinct : (terms.map (·.token)).Nodup)
    (tokens : ∀ term ∈ terms, IsToken term.token)
    (exact : ∀ term ∈ terms,
      (registry.findExpression? (Text.trimmed term.token)).isSome = true)
    (resolves : registry.resolveTerms factors terms = .ok resolved) :
    ∃ added, resolved = factors ++ added ∧ List.Forall₂ registry.Matches terms added := by
  induction terms generalizing factors with
  | nil =>
      cases resolves
      exact ⟨[], (List.append_nil _).symm, .nil⟩
  | cons term rest ih =>
      obtain ⟨entry, found⟩ := Option.isSome_iff_exists.1 (exact term List.mem_cons_self)
      rw [resolveTerms, findUnit_of_findExpression? found] at resolves
      have member := mem_of_findExpression? found
      have named : entry.expression = term.token := by
        have trimmed := expression_of_findExpression? found
        rwa [Text.trimmed, (tokens term List.mem_cons_self).bare.trim, String.ofList_toList]
          at trimmed
      have appended : Factor.addPower entry term.exponent factors =
          factors ++ [⟨entry, term.exponent⟩] := by
        refine addPower_eq_append fun factor inside => eq_false_of_ne_true fun same => ?_
        refine apart factor inside term List.mem_cons_self ?_
        rw [expression_eq_of_samePlace (known factor inside) member same, named]
      change registry.resolveTerms (Factor.addPower entry term.exponent factors) rest = _
        at resolves
      rw [appended] at resolves
      obtain ⟨fresh, restDistinct⟩ := List.nodup_cons.1 distinct
      have stillKnown : ∀ factor ∈ factors ++ [⟨entry, term.exponent⟩],
          factor.entry ∈ registry.entries := by
        intro factor inside
        rcases List.mem_append.1 inside with earlier | last
        · exact known factor earlier
        · rw [List.mem_singleton.1 last]
          exact member
      have stillApart : ∀ factor ∈ factors ++ [⟨entry, term.exponent⟩], ∀ other ∈ rest,
          factor.entry.expression ≠ other.token := by
        intro factor inside other later same
        rcases List.mem_append.1 inside with earlier | last
        · exact apart factor earlier other (List.mem_cons_of_mem _ later) same
        · rw [List.mem_singleton.1 last] at same
          refine fresh (List.mem_map.2 ⟨other, later, ?_⟩)
          exact same.symm.trans named
      obtain ⟨added, rfl, matching⟩ := ih stillKnown stillApart restDistinct
        (fun other inside => tokens other (List.mem_cons_of_mem _ inside))
        (fun other inside => exact other (List.mem_cons_of_mem _ inside)) resolves
      exact ⟨⟨entry, term.exponent⟩ :: added, by simp, .cons ⟨member, named, rfl⟩ matching⟩

end Registry

/-! ## The units that tokens stand for -/

/-- The units that factors stand for. -/
def chosen {α : Type} (factors : List (Factor α)) : Choice α :=
  factors.map fun factor => (factor.entry.unit, factor.exponent)

namespace Choice

variable {α : Type} {choice : Choice α}

theorem Plain.length_terms_le (plain : choice.Plain) : choice.terms.length ≤ choice.length := by
  induction choice with
  | nil => exact Nat.le_refl _
  | cons part rest ih =>
      have restBound := ih plain.tail
      rw [terms_cons, List.length_append, List.length_cons]
      rcases poweredTerms_plain plain.head part.2 with
        ⟨_, none_left⟩ | ⟨_, single⟩
      · rw [none_left, List.length_nil]
        omega
      · rw [single, List.length_singleton]
        omega

/-- If each unit gives a term, the terms are the expressions with the exponents. -/
theorem Plain.terms_eq_map (plain : choice.Plain)
    (remaining : choice.length ≤ choice.terms.length) :
    choice.terms = choice.map fun part => ⟨part.1.expression, part.2⟩ := by
  induction choice with
  | nil => rfl
  | cons part rest ih =>
      have restBound := plain.tail.length_terms_le
      rw [terms_cons, List.length_append, List.length_cons] at remaining
      rw [terms_cons, List.map_cons]
      rcases poweredTerms_plain plain.head part.2 with
        ⟨_, none_left⟩ | ⟨_, single⟩
      · rw [none_left, List.length_nil] at remaining
        omega
      · rw [single] at remaining ⊢
        rw [List.length_singleton] at remaining
        rw [ih plain.tail (by omega)]
        rfl

/-- Units without an expression hide negative exponents only. -/
theorem Plain.sum_le_total (plain : choice.Plain) (negative : ∀ part ∈ choice, part.2 < 0) :
    (choice.map (·.2)).sum ≤ total choice.terms := by
  induction choice with
  | nil => exact le_refl _
  | cons part rest ih =>
      have restBound := ih plain.tail
        fun other member => negative other (List.mem_cons_of_mem _ member)
      have sign := negative part List.mem_cons_self
      rw [terms_cons]
      rcases poweredTerms_plain plain.head part.2 with
        ⟨_, none_left⟩ | ⟨_, single⟩
      · rw [none_left, List.map_cons, List.sum_cons]
        simp only [total, List.nil_append] at restBound ⊢
        omega
      · rw [single, List.map_cons, List.sum_cons]
        simp only [total, List.singleton_append, List.map_cons, List.sum_cons] at restBound ⊢
        omega

end Choice

namespace Registry

variable {α : Type} {registry : Registry α} {factors : List (Factor α)}
  {leading choice : Choice α}

theorem exponents_of_matches {terms : List UnitTerm}
    (matching : List.Forall₂ registry.Matches terms factors) :
    factors.map (·.exponent) = terms.map (·.exponent) := by
  induction matching with
  | nil => rfl
  | cons matched _ ih => rw [List.map_cons, List.map_cons, ih, matched.2.2]

/-- Only a unit without an expression leads factors that all stand below the
slash. -/
theorem terms_leading (matching : List.Forall₂ registry.Matches
      (canonical (Choice.terms (leading ++ choice))) factors)
    (assigned : Assigned (·.exponent) factors choice) (plain : choice.Plain)
    (leadingPlain : leading.Plain) (leads : registry.Leading factors leading) :
    leading.terms = [] := by
  rcases leads with rfl | ⟨noneAbove, _, unit, _, _, rfl⟩
  · rfl
  · have exponents := exponents_of_matches matching
    have ordered := inOrder_canonical (Choice.terms ([(unit, 1)] ++ choice))
    rw [← exponents] at ordered
    have negative : ∀ part ∈ choice, part.2 < 0 := by
      intro part member
      have image : part.2 ∈ factors.map (·.exponent) := by
        rw [← assigned.exponents]
        exact List.mem_map_of_mem member
      have nonzero : part.2 ≠ 0 := fun zero => ordered.1 (zero ▸ image)
      obtain ⟨factor, inside, same⟩ := List.mem_map.1 image
      have notPositive : ¬ 0 < factor.exponent := fun positive => by
        have above : factor ∈ Factor.above factors :=
          List.mem_filter.2 ⟨inside, decide_eq_true positive⟩
        rw [noneAbove] at above
        cases above
      omega
    -- A token in front would add one to the sum of the exponents, and nothing that
    -- stands below the slash makes up for it.
    have sum := plain.sum_le_total negative
    have sums := congrArg List.sum exponents
    rw [← assigned.exponents] at sums
    change (choice.map (·.2)).sum = total (canonical _) at sums
    rw [total_canonical, Choice.terms_append] at sums
    rcases Choice.poweredTerms_plain (leadingPlain _ (List.mem_singleton_self _)) 1 with
      ⟨_, none_left⟩ | ⟨_, single⟩
    · rw [Choice.terms_cons, none_left]
      rfl
    · rw [Choice.terms_cons, single] at sums
      simp only [total, Choice.terms, List.flatMap_nil, List.append_nil, List.singleton_append,
        List.map_cons, List.sum_cons] at sums sum
      omega

/-- When the terms that are spelled from a choice stand for the factors again, the
choice was that of their units. -/
theorem choice_eq_chosen (matching : List.Forall₂ registry.Matches
      (canonical choice.terms) factors)
    (assigned : Assigned (·.exponent) factors choice)
    (plain : ∀ factor ∈ factors, factor.entry.quantity.Plain) :
    choice = chosen factors ∧ canonical choice.terms = choice.terms := by
  have choicePlain := assigned.plain plain
  have exponents := exponents_of_matches matching
  -- There are as many terms as units, so none is hidden and no two are merged.
  have lengths : (canonical choice.terms).length = choice.length :=
    matching.length_eq.trans assigned.length_eq
  have shorter : (canonical choice.terms).length ≤ choice.terms.length :=
    (length_above_below_le _).trans (length_combine_le _)
  have spelled := choicePlain.terms_eq_map (by omega)
  have ordered := inOrder_canonical choice.terms
  have sameExponents : choice.terms.map (·.exponent) =
      (canonical choice.terms).map (·.exponent) := by
    rw [← exponents, ← assigned.exponents, spelled, List.map_map]
    rfl
  rw [← sameExponents] at ordered
  have longer := choicePlain.length_terms_le
  have same : canonical choice.terms = choice.terms :=
    canonical_eq_self (filter_append_filter _ ordered) (by omega)
  refine ⟨?_, same⟩
  rw [same, spelled, List.forall₂_map_left_iff] at matching
  clear * - matching assigned plain
  induction assigned with
  | nil => rfl
  | cons chosenHere _ ih =>
      obtain ⟨matched, rest⟩ := List.forall₂_cons.1 matching
      rw [chosen, List.map_cons, ← chosen,
        ← ih rest fun other member => plain other (List.mem_cons_of_mem _ member)]
      have factorPlain := plain _ List.mem_cons_self
      have unitMember := unit_mem_of_entry matched.1
      have sameUnit := List.inj_on_of_nodup_map factorPlain.distinct chosenHere.1 unitMember
        matched.2.1.symm
      exact congrArg (· :: _) (Prod.ext sameUnit chosenHere.2)

end Registry

/-! ## Slopes of plans -/

namespace ConversionPlan

section Steps

variable {α : Type} [Scalar α] {factors : List (Factor α)} {limit : Nat}
  {plan next : ConversionPlan α}

/-- The steps of factors, one for each single power. -/
def stepsOf (factors : List (Factor α)) : List (ConversionStep α) :=
  factors.flatMap fun factor => List.replicate factor.exponent.natAbs (stepOf factor)

theorem addFactor_eq_ok {factor : Factor α} (added : addFactor limit plan factor = .ok next) :
    next = ⟨plan.steps ++ List.replicate factor.exponent.natAbs (stepOf factor)⟩ ∧
      plan.steps.length + factor.exponent.natAbs ≤ limit := by
  obtain ⟨unit, _, added⟩ := exists_of_bind_eq_ok added
  split at added
  · next fits =>
      cases added
      exact ⟨rfl, fits⟩
  · cases added

theorem foldlM_addFactor (added : factors.foldlM (addFactor limit) plan = .ok next)
    (fits : plan.steps.length ≤ limit) :
    next.steps = plan.steps ++ stepsOf factors ∧
      plan.steps.length + Registry.powers factors ≤ limit := by
  induction factors generalizing plan with
  | nil =>
      cases added
      exact ⟨(List.append_nil _).symm, fits⟩
  | cons factor rest ih =>
      obtain ⟨middle, stepped, added⟩ := exists_of_bind_eq_ok added
      obtain ⟨rfl, bounded⟩ := addFactor_eq_ok stepped
      obtain ⟨steps, fitsRest⟩ := ih added (by simpa using bounded)
      constructor
      · rw [steps, stepsOf, stepsOf, List.flatMap_cons, List.append_assoc]
      · simp only [Registry.powers, List.map_cons, List.sum_cons, List.length_append,
          List.length_replicate] at fitsRest ⊢
        omega

/-- A plan consists of the steps of its factors and stays within its limit. -/
theorem ofFactors_eq_ok (planned : ofFactors factors limit = .ok plan) :
    plan.steps = stepsOf (Factor.above factors ++ Factor.below factors) ∧
      Registry.powers (Factor.above factors ++ Factor.below factors) ≤ limit := by
  obtain ⟨steps, fits⟩ := foldlM_addFactor planned (Nat.zero_le _)
  exact ⟨steps, (Nat.zero_add _).symm.trans_le fits⟩

end Steps

section Slope

variable {α : Type} [Field α] [LinearOrder α] [Elementary α]

theorem slope_replicate (step : ConversionStep α) (count : Nat) (map : α × α) :
    ((List.replicate count step).foldl (fun sofar step => step.after sofar) map).1 =
      map.1 * (if step.inverse then step.slope⁻¹ else step.slope) ^ count := by
  induction count generalizing map with
  | zero => simp
  | succ count ih =>
      rw [List.replicate_succ, List.foldl_cons, ih, pow_succ', ← mul_assoc]
      congr 1
      rw [ConversionStep.after]
      split
      · rw [div_eq_mul_inv]
      · rfl

omit [LinearOrder α] [Elementary α] in
/-- The steps of a factor multiply the slope by the power of its unit's slope. -/
theorem slope_stepOf (factor : Factor α) :
    (if (stepOf factor).inverse then (stepOf factor).slope⁻¹ else (stepOf factor).slope) ^
      factor.exponent.natAbs = factor.entry.unit.slope ^ factor.exponent := by
  by_cases negative : factor.exponent < 0
  · have size : (factor.exponent.natAbs : Int) = -factor.exponent := by omega
    simp only [stepOf, negative, decide_true, if_true]
    rw [inv_pow, ← zpow_natCast, size, zpow_neg, inv_inv]
  · have size : (factor.exponent.natAbs : Int) = factor.exponent := by omega
    simp only [stepOf, negative, decide_false, Bool.false_eq_true, if_false]
    rw [← zpow_natCast, size]

theorem slope_stepsOf (factors : List (Factor α)) (map : α × α) :
    ((stepsOf factors).foldl (fun sofar step => step.after sofar) map).1 =
      map.1 * (chosen factors).slope := by
  induction factors generalizing map with
  | nil => simp [stepsOf, chosen, Choice.slope]
  | cons factor rest ih =>
      rw [stepsOf, List.flatMap_cons, List.foldl_append, ← stepsOf, ih, slope_replicate,
        slope_stepOf, mul_assoc]
      simp [chosen, Choice.slope]

/-- The slope of a plan is that of its units. -/
theorem slope_ofFactors {factors : List (Factor α)} {limit : Nat} {plan : ConversionPlan α}
    (planned : ofFactors factors limit = .ok plan) :
    plan.affine.1 = (chosen (Factor.above factors ++ Factor.below factors)).slope := by
  rw [affine, (ofFactors_eq_ok planned).1, slope_stepsOf, one_mul]

end Slope

end ConversionPlan

end Metrology
