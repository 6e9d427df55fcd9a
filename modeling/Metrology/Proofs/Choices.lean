import Metrology.Proofs.Exact
import Metrology.Proofs.Growth
import Metrology.Proofs.UnitText

/-!
# Units of derived quantities

A unit of a derived quantity comes from a choice of one unit for each factor.  It
is spelled from the chosen units, and its slope is the product of their slopes.
-/

namespace Metrology

open UnitExpression

/-- Units with the exponents that they are raised to. -/
abbrev Choice (α : Type) := List (MeasureUnit α × Int)

/-- A unit without an expression, or with one that is a token. -/
def MeasureUnit.Plain {α : Type} (unit : MeasureUnit α) : Prop :=
  unit.expression = "" ∨ IsToken unit.expression

theorem MeasureUnit.slope_power {α : Type} [Field α] [LinearOrder α] [Elementary α]
    (unit : MeasureUnit α) (exponent : Int) :
    (unit.power exponent).slope = unit.slope ^ exponent := by
  by_cases single : exponent = 1
  · rw [single, MeasureUnit.power_one, zpow_one]
  · rw [MeasureUnit.power, if_neg single, Scalar.powerInt_eq_zpow]

instance {α : Type} (unit : MeasureUnit α) : Decidable unit.Plain :=
  inferInstanceAs (Decidable (_ ∨ _))

namespace Choice

variable {α : Type}

/-- The terms of the expressions of all units. -/
def terms (choice : Choice α) : List UnitTerm :=
  choice.flatMap fun part => poweredTerms part.1.expression part.2

/-- How many single powers a choice has. -/
def size (choice : Choice α) : Nat :=
  (choice.map (·.2.natAbs)).sum

/-- All exponents multiplied by a power. -/
def raised (power : Int) (choice : Choice α) : Choice α :=
  choice.map fun part => (part.1, part.2 * power)

/-- The product of the powers of all slopes. -/
def slope [Field α] (choice : Choice α) : α :=
  (choice.map fun part => part.1.slope ^ part.2).prod

theorem slope_append [Field α] (left right : Choice α) :
    slope (left ++ right) = slope left * slope right := by
  simp [slope]

theorem slope_raised_neg [Field α] (choice : Choice α) :
    slope (choice.raised (-1)) = (slope choice)⁻¹ := by
  rw [slope, slope, raised, List.prod_inv, List.map_map, List.map_map]
  simp [Function.comp_def]

theorem product_eq_format (choice : Choice α) :
    UnitExpression.product (choice.map fun part => (part.1.expression, part.2)) =
      format choice.terms := by
  rw [UnitExpression.product, List.flatMap_map, terms]

/-- All units are plain. -/
def Plain (choice : Choice α) : Prop :=
  ∀ part ∈ choice, part.1.Plain

/-- All exponents are positive. -/
def Positive (choice : Choice α) : Prop :=
  ∀ part ∈ choice, 0 < part.2

theorem terms_cons (part : MeasureUnit α × Int) (rest : Choice α) :
    terms (part :: rest) = poweredTerms part.1.expression part.2 ++ terms rest := rfl

theorem terms_append (left right : Choice α) :
    terms (left ++ right) = terms left ++ terms right := List.flatMap_append

theorem Plain.head {part : MeasureUnit α × Int} {rest : Choice α} (plain : Plain (part :: rest)) :
    part.1.Plain := plain part List.mem_cons_self

theorem Plain.tail {part : MeasureUnit α × Int} {rest : Choice α} (plain : Plain (part :: rest)) :
    Plain rest := fun other member => plain other (List.mem_cons_of_mem _ member)

theorem plain_append {left right : Choice α} :
    Plain (left ++ right) ↔ Plain left ∧ Plain right := List.forall_mem_append

theorem positive_append {left right : Choice α} :
    Positive (left ++ right) ↔ Positive left ∧ Positive right := List.forall_mem_append

theorem size_append (left right : Choice α) : size (left ++ right) = size left + size right := by
  simp [size]

/-- The terms of a plain unit: none, or its token. -/
theorem poweredTerms_plain {unit : MeasureUnit α} (plain : unit.Plain) (power : Int) :
    (unit.expression = "" ∧ poweredTerms unit.expression power = []) ∨
      (IsToken unit.expression ∧
        poweredTerms unit.expression power = [⟨unit.expression, power⟩]) := by
  rcases plain with empty | isToken
  · exact .inl ⟨empty, by rw [empty, poweredTerms_empty]⟩
  · exact .inr ⟨isToken, poweredTerms_token isToken power⟩

/-- Every term is the token of a chosen unit with its exponent. -/
theorem Plain.of_mem_terms {choice : Choice α} (plain : choice.Plain) {term : UnitTerm}
    (member : term ∈ choice.terms) :
    IsToken term.token ∧ ∃ part ∈ choice, part.1.expression = term.token ∧
      part.2 = term.exponent := by
  obtain ⟨part, inside, powered⟩ := List.mem_flatMap.1 member
  rcases poweredTerms_plain (plain part inside) part.2 with ⟨_, none_left⟩ | ⟨isToken, single⟩
  · rw [none_left] at powered
    cases powered
  · rw [single] at powered
    cases List.mem_singleton.1 powered
    exact ⟨isToken, part, inside, rfl, rfl⟩

theorem Plain.weight_le {choice : Choice α} (plain : choice.Plain) :
    weight choice.terms ≤ choice.size := by
  induction choice with
  | nil => exact Nat.le_refl _
  | cons part rest ih =>
      have bound := ih plain.tail
      rw [terms_cons, weight_append]
      simp only [size, List.map_cons, List.sum_cons] at bound ⊢
      rcases poweredTerms_plain plain.head part.2 with
        ⟨_, none_left⟩ | ⟨_, single⟩
      · rw [none_left]
        simp only [weight, List.map_nil, List.sum_nil] at bound ⊢
        omega
      · rw [single]
        simp only [weight, List.map_cons, List.map_nil, List.sum_cons, List.sum_nil] at bound ⊢
        omega

theorem Plain.legible {choice : Choice α} (plain : choice.Plain)
    (bounded : choice.size ≤ greatestExponent) : Legible (combine choice.terms) :=
  legible_combine (fun _ member => (plain.of_mem_terms member).1)
    (plain.weight_le.trans bounded)

theorem Plain.positive_terms {choice : Choice α} (plain : choice.Plain)
    (positive : choice.Positive) : ∀ term ∈ choice.terms, 0 < term.exponent := by
  intro term member
  obtain ⟨_, part, inside, _, same⟩ := plain.of_mem_terms member
  rw [← same]
  exact positive part inside

theorem Plain.terms_raised {choice : Choice α} (plain : choice.Plain) (power : Int) :
    terms (choice.raised power) = scaled power choice.terms := by
  induction choice with
  | nil => rfl
  | cons part rest ih =>
      have unfolded : raised power (part :: rest) =
          (part.1, part.2 * power) :: raised power rest := rfl
      rw [unfolded, terms_cons, terms_cons, ih plain.tail]
      rcases plain.head with empty | isToken
      · simp only [empty, poweredTerms_empty, List.nil_append]
      · simp only [poweredTerms_token isToken]
        rfl

end Choice

/-! ## Spelling -/

/-- A unit is spelled from a choice and has its slope. -/
structure MeasureUnit.Spells {α : Type} [Field α] (unit : MeasureUnit α)
    (choice : Choice α) : Prop where
  expression : unit.expression = format choice.terms
  slope : unit.slope = choice.slope

section Spelling

variable {α : Type} [Field α] [LinearOrder α] [Elementary α]

omit [LinearOrder α] [Elementary α] in
theorem spells_self {unit : MeasureUnit α} (plain : unit.Plain) : unit.Spells [(unit, 1)] := by
  refine ⟨?_, by simp [Choice.slope]⟩
  rw [Choice.terms_cons]
  rcases plain with empty | isToken
  · rw [empty, poweredTerms_empty]
    rfl
  · rw [poweredTerms_token isToken]
    exact (format_token _).symm

theorem spells_power {unit : MeasureUnit α} (plain : unit.Plain) (count : Nat) :
    (unit.power count).Spells [(unit, (count : Int))] := by
  by_cases single : (count : Int) = 1
  · rw [single, MeasureUnit.power_one]
    exact spells_self plain
  · constructor
    · rw [unit.expression_power single, ← Choice.product_eq_format, List.map_cons, List.map_nil]
    · rw [unit.slope_power]
      simp [Choice.slope]

omit [LinearOrder α] [Elementary α] in
/-- The product of spelled expressions, the second one raised to a power. -/
theorem product_of_spells {left right : MeasureUnit α} {first second : Choice α}
    (leftSpells : left.Spells first) (rightSpells : right.Spells second)
    (plain : Choice.Plain (first ++ second)) (positive : Choice.Positive (first ++ second))
    (bounded : Choice.size (first ++ second) ≤ greatestExponent) (power : Int) :
    UnitExpression.product [(left.expression, 1), (right.expression, power)] =
      format (Choice.terms (first ++ second.raised power)) := by
  obtain ⟨firstPlain, secondPlain⟩ := Choice.plain_append.1 plain
  obtain ⟨firstPositive, secondPositive⟩ := Choice.positive_append.1 positive
  rw [Choice.size_append] at bounded
  rw [leftSpells.expression, rightSpells.expression, Choice.terms_append,
    secondPlain.terms_raised]
  exact product_format (firstPlain.legible (by omega)) (secondPlain.legible (by omega))
    (firstPlain.positive_terms firstPositive) (secondPlain.positive_terms secondPositive) power

theorem spells_multiply {left right : MeasureUnit α} {first second : Choice α}
    (leftSpells : left.Spells first) (rightSpells : right.Spells second)
    (plain : Choice.Plain (first ++ second)) (positive : Choice.Positive (first ++ second))
    (bounded : Choice.size (first ++ second) ≤ greatestExponent) :
    (left.multiply right).Spells (first ++ second) := by
  constructor
  · have spelled := product_of_spells leftSpells rightSpells plain positive bounded 1
    have same : second.raised 1 = second := by simp [Choice.raised]
    rwa [same, ← MeasureUnit.expression_multiply] at spelled
  · change left.slope * right.slope = _
    rw [leftSpells.slope, rightSpells.slope, Choice.slope_append]

theorem spells_divide {left right : MeasureUnit α} {first second : Choice α}
    (leftSpells : left.Spells first) (rightSpells : right.Spells second)
    (plain : Choice.Plain (first ++ second)) (positive : Choice.Positive (first ++ second))
    (bounded : Choice.size (first ++ second) ≤ greatestExponent) :
    (left.divide right).Spells (first ++ second.raised (-1)) := by
  constructor
  · have spelled := product_of_spells leftSpells rightSpells plain positive bounded (-1)
    rwa [← MeasureUnit.expression_divide] at spelled
  · change left.slope / right.slope = _
    rw [leftSpells.slope, rightSpells.slope, Choice.slope_append, Choice.slope_raised_neg,
      div_eq_mul_inv]

end Spelling

/-! ## Choices for factors -/

/-- A quantity whose units are plain and have expressions of their own. -/
structure Quantity.Plain {α : Type} (quantity : Quantity α) : Prop where
  units : ∀ unit ∈ quantity.units, unit.Plain
  distinct : (quantity.units.map (·.expression)).Nodup

instance {α : Type} (quantity : Quantity α) : Decidable quantity.Plain :=
  decidable_of_iff
    ((∀ unit ∈ quantity.units, unit.Plain) ∧ (quantity.units.map (·.expression)).Nodup)
    ⟨fun ⟨units, distinct⟩ => ⟨units, distinct⟩, fun ⟨units, distinct⟩ => ⟨units, distinct⟩⟩

/-- A choice that takes a unit of the quantity of each factor, with a given
exponent. -/
def Assigned {α : Type} (exponent : Factor α → Int) (factors : List (Factor α))
    (choice : Choice α) : Prop :=
  List.Forall₂ (fun factor part =>
    part.1 ∈ factor.entry.quantity.units ∧ part.2 = exponent factor) factors choice

section Assigned

variable {α : Type} {exponent : Factor α → Int} {factors : List (Factor α)}
  {choice : Choice α}

theorem Assigned.plain (assigned : Assigned exponent factors choice)
    (plain : ∀ factor ∈ factors, factor.entry.quantity.Plain) : choice.Plain := by
  induction assigned with
  | nil => exact fun _ impossible => absurd impossible List.not_mem_nil
  | cons chosen _ ih =>
      intro part member
      rcases List.mem_cons.1 member with rfl | later
      · exact (plain _ List.mem_cons_self).units _ chosen.1
      · exact ih (fun factor inside => plain factor (List.mem_cons_of_mem _ inside)) part later

theorem Assigned.exponents (assigned : Assigned exponent factors choice) :
    choice.map (·.2) = factors.map exponent := by
  induction assigned with
  | nil => rfl
  | cons chosen _ ih => rw [List.map_cons, List.map_cons, ih, chosen.2]

theorem Assigned.size (assigned : Assigned exponent factors choice) :
    choice.size = (factors.map fun factor => (exponent factor).natAbs).sum := by
  have sizes := congrArg (fun exponents => (exponents.map Int.natAbs).sum) assigned.exponents
  simpa [Choice.size, Function.comp_def] using sizes

theorem Assigned.append {others : List (Factor α)} {otherChoice : Choice α}
    (assigned : Assigned exponent factors choice)
    (otherAssigned : Assigned exponent others otherChoice) :
    Assigned exponent (factors ++ others) (choice ++ otherChoice) :=
  List.rel_append assigned otherAssigned

end Assigned

namespace Registry

variable {α : Type} [Field α] [LinearOrder α] [Elementary α]

/-- How many single powers factors have. -/
def powers (factors : List (Factor α)) : Nat :=
  (factors.map (·.exponent.natAbs)).sum

/-- The size of the exponent of a factor. -/
def absolute (factor : Factor α) : Int :=
  factor.exponent.natAbs

theorem exists_of_mem_power {quantity powered : Quantity α} {count : Nat}
    (made : quantity.power count = .ok powered) {unit : MeasureUnit α}
    (member : unit ∈ powered.units) : ∃ original ∈ quantity.units, original.power count = unit := by
  rw [Quantity.power] at made
  split at made
  · next single =>
      cases made
      exact ⟨unit, member, by rw [single, MeasureUnit.power_one]⟩
  · obtain ⟨dimension, _, made⟩ := exists_of_bind_eq_ok made
    cases made
    exact List.mem_map.1 member

omit [Field α] [LinearOrder α] [Elementary α] in
/-- What is chosen for factors of a product can be multiplied. -/
theorem assigned_absolute {factors : List (Factor α)} {choice : Choice α}
    (assigned : Assigned absolute factors choice)
    (plain : ∀ factor ∈ factors, factor.entry.quantity.Plain)
    (powered : ∀ factor ∈ factors, factor.exponent ≠ 0) :
    choice.Plain ∧ choice.Positive ∧ choice.size = powers factors := by
  refine ⟨assigned.plain plain, ?_, assigned.size⟩
  intro part member
  have inside : part.2 ∈ factors.map absolute := by
    rw [← assigned.exponents]
    exact List.mem_map_of_mem member
  obtain ⟨factor, factorMember, same⟩ := List.mem_map.1 inside
  rw [← same]
  exact Int.natCast_pos.2 (Int.natAbs_pos.2 (powered factor factorMember))

/-- Every unit of the power of a factor's quantity is spelled from a choice. -/
theorem power_spells {factor : Factor α} {raised : Quantity α}
    (made : factor.entry.quantity.power factor.exponent.natAbs = .ok raised)
    (plain : factor.entry.quantity.Plain) {unit : MeasureUnit α}
    (member : unit ∈ raised.units) :
    ∃ choice, Assigned absolute [factor] choice ∧ unit.Spells choice := by
  obtain ⟨original, inside, rfl⟩ := exists_of_mem_power made member
  exact ⟨[(original, factor.exponent.natAbs)], .cons ⟨inside, rfl⟩ .nil,
    spells_power (plain.units original inside) _⟩

/-- Every unit of a product of quantities is spelled from a choice. -/
theorem productOf_spells {factors : List (Factor α)} {last : Option (Quantity α)}
    (made : productOf factors = .ok last)
    (plain : ∀ factor ∈ factors, factor.entry.quantity.Plain)
    (powered : ∀ factor ∈ factors, factor.exponent ≠ 0)
    (bounded : powers factors ≤ greatestExponent) :
    (factors = [] ∧ last = none) ∨ ∃ product, last = some product ∧
      ∀ unit ∈ product.units, ∃ choice, Assigned absolute factors choice ∧
        unit.Spells choice := by
  induction factors using List.reverseRecOn generalizing last with
  | nil =>
      cases made
      exact .inl ⟨rfl, rfl⟩
  | append_singleton factors factor ih =>
      right
      rw [productOf, List.foldlM_append, ← productOf] at made
      obtain ⟨before, beforeMade, made⟩ := exists_of_bind_eq_ok made
      rw [List.foldlM_cons] at made
      obtain ⟨after, multiplied, made⟩ := exists_of_bind_eq_ok made
      cases made
      obtain ⟨raised, raises, multiplied⟩ := exists_of_bind_eq_ok multiplied
      have factorPlain := plain factor (List.mem_append_right _ (List.mem_singleton_self _))
      have split : powers (factors ++ [factor]) = powers factors + factor.exponent.natAbs := by
        simp [powers]
      rcases ih beforeMade (fun other member => plain other (List.mem_append_left _ member))
        (fun other member => powered other (List.mem_append_left _ member))
        (by omega) with ⟨rfl, rfl⟩ | ⟨product, rfl, spelled⟩
      · cases multiplied
        exact ⟨raised, rfl, fun unit member => power_spells raises factorPlain member⟩
      · obtain ⟨next, crossed, multiplied⟩ := exists_of_bind_eq_ok multiplied
        cases multiplied
        refine ⟨next, rfl, fun unit member => ?_⟩
        obtain ⟨left, inLeft, right, inRight, rfl⟩ := Quantity.exists_of_mem_product crossed member
        obtain ⟨first, firstAssigned, leftSpells⟩ := spelled left inLeft
        obtain ⟨second, secondAssigned, rightSpells⟩ := power_spells raises factorPlain inRight
        have assigned := firstAssigned.append secondAssigned
        obtain ⟨allPlain, positive, size⟩ := assigned_absolute assigned plain powered
        exact ⟨first ++ second, assigned,
          spells_multiply leftSpells rightSpells allPlain positive (by omega)⟩

omit [Field α] [LinearOrder α] [Elementary α] in
theorem assigned_above {factors : List (Factor α)} {choice : Choice α}
    (assigned : Assigned absolute factors choice)
    (positive : ∀ factor ∈ factors, 0 < factor.exponent) :
    Assigned (·.exponent) factors choice := by
  induction assigned with
  | nil => exact .nil
  | cons chosen _ ih =>
      have sign := positive _ List.mem_cons_self
      refine .cons ⟨chosen.1, ?_⟩ (ih fun other member =>
        positive other (List.mem_cons_of_mem _ member))
      rw [chosen.2, absolute]
      dsimp only
      omega

omit [Field α] [LinearOrder α] [Elementary α] in
theorem assigned_below {factors : List (Factor α)} {choice : Choice α}
    (assigned : Assigned absolute factors choice)
    (negative : ∀ factor ∈ factors, factor.exponent < 0) :
    Assigned (·.exponent) factors (choice.raised (-1)) := by
  induction assigned with
  | nil => exact .nil
  | cons chosen _ ih =>
      have sign := negative _ List.mem_cons_self
      refine .cons ⟨chosen.1, ?_⟩ (ih fun other member =>
        negative other (List.mem_cons_of_mem _ member))
      dsimp only
      rw [chosen.2, absolute]
      omega

omit [Field α] [LinearOrder α] [Elementary α] in
theorem positive_of_mem_above {factors : List (Factor α)} :
    ∀ factor ∈ Factor.above factors, 0 < factor.exponent :=
  fun _ member => of_decide_eq_true (List.mem_filter.1 member).2

omit [Field α] [LinearOrder α] [Elementary α] in
theorem negative_of_mem_below {factors : List (Factor α)} :
    ∀ factor ∈ Factor.below factors, factor.exponent < 0 :=
  fun _ member => of_decide_eq_true (List.mem_filter.1 member).2

/-- What comes before the chosen units: nothing, or a neutral unit if no factor
stands above the slash. -/
def Leading (registry : Registry α) (factors : List (Factor α)) (leading : Choice α) : Prop :=
  leading = [] ∨ (Factor.above factors = [] ∧
    ∃ ratio unit, registry.ownerOf? Dimension.ratio = some ratio ∧ unit ∈ ratio.units ∧
      leading = [(unit, 1)])

/-- A unit of a quantity over a denominator is spelled from a unit of the numerator
and a choice for the factors below. -/
theorem derive_spells {numerator owner : Quantity α} {below : Option (Quantity α)}
    {factors : List (Factor α)} (derives : numerator.derive below = .ok owner)
    (belowMade : productOf factors = .ok below)
    (plain : ∀ factor ∈ factors, factor.entry.quantity.Plain)
    (negative : ∀ factor ∈ factors, factor.exponent < 0)
    {unit : MeasureUnit α} (member : unit ∈ owner.units) :
    ∃ upper ∈ numerator.units, ∀ first : Choice α, upper.Spells first → first.Plain →
      first.Positive → first.size + powers factors ≤ greatestExponent →
        ∃ second, Assigned (·.exponent) factors second ∧ unit.Spells (first ++ second) := by
  have powered : ∀ factor ∈ factors, factor.exponent ≠ 0 :=
    fun factor inside => (negative factor inside).ne
  cases below with
  | none =>
      cases derives
      refine ⟨unit, member, fun first spells _ _ bounded => ?_⟩
      rcases productOf_spells belowMade plain powered (by omega) with ⟨rfl, _⟩ | ⟨_, impossible, _⟩
      · exact ⟨[], .nil, by rwa [List.append_nil]⟩
      · cases impossible
  | some denominator =>
      obtain ⟨upper, inside, lower, lowerInside, rfl⟩ :=
        Quantity.exists_of_mem_quotient derives member
      refine ⟨upper, inside, fun first spells firstPlain firstPositive bounded => ?_⟩
      rcases productOf_spells belowMade plain powered (by omega) with
        ⟨_, impossible⟩ | ⟨product, same, spelled⟩
      · cases impossible
      · cases same
        obtain ⟨second, assigned, lowerSpells⟩ := spelled lower lowerInside
        obtain ⟨secondPlain, secondPositive, size⟩ := assigned_absolute assigned plain powered
        refine ⟨second.raised (-1), assigned_below assigned negative, ?_⟩
        refine spells_divide spells lowerSpells (Choice.plain_append.2 ⟨firstPlain, secondPlain⟩)
          (Choice.positive_append.2 ⟨firstPositive, secondPositive⟩) ?_
        rw [Choice.size_append, size]
        exact bounded

/-- Every unit of a derived quantity is spelled from a choice for its factors, and
perhaps a neutral unit. -/
theorem synthesize_spells {registry grown : Registry α} {factors : List (Factor α)}
    {dimension : Dimension} {expression : String} {owner : Quantity α}
    (unowned : registry.ownerOf? dimension = none)
    (made : registry.synthesize factors dimension expression = .ok (owner, grown))
    (plain : ∀ factor ∈ factors, factor.entry.quantity.Plain)
    (neutral : ∀ ratio, registry.ownerOf? Dimension.ratio = some ratio → ratio.Plain)
    (bounded : powers (Factor.above factors ++ Factor.below factors) < greatestExponent)
    {unit : MeasureUnit α} (member : unit ∈ owner.units) :
    ∃ leading choice, Leading registry factors leading ∧
      Assigned (·.exponent) (Factor.above factors ++ Factor.below factors) choice ∧
      unit.Spells (leading ++ choice) := by
  have size : powers (Factor.above factors ++ Factor.below factors) =
      powers (Factor.above factors) + powers (Factor.below factors) := by
    simp [powers]
  have abovePlain : ∀ factor ∈ Factor.above factors, factor.entry.quantity.Plain :=
    fun factor inside => plain factor (List.mem_of_mem_filter inside)
  have belowPlain : ∀ factor ∈ Factor.below factors, factor.entry.quantity.Plain :=
    fun factor inside => plain factor (List.mem_of_mem_filter inside)
  have abovePowered : ∀ factor ∈ Factor.above factors, factor.exponent ≠ 0 :=
    fun factor inside => (positive_of_mem_above factor inside).ne'
  obtain ⟨above, below, numerator, aboveMade, belowMade, stands, derives, _⟩ :=
    exists_of_synthesize unowned made
  have upper := productOf_spells aboveMade abovePlain abovePowered (by omega)
  obtain ⟨first, inside, spells⟩ :=
    derive_spells derives belowMade belowPlain negative_of_mem_below member
  rcases stands with rfl | ⟨rfl, owns⟩
  · rcases upper with ⟨_, impossible⟩ | ⟨product, same, spelled⟩
    · cases impossible
    · cases same
      obtain ⟨upperChoice, assigned, firstSpells⟩ := spelled first inside
      obtain ⟨upperPlain, upperPositive, upperSize⟩ :=
        assigned_absolute assigned abovePlain abovePowered
      obtain ⟨lowerChoice, lowerAssigned, unitSpells⟩ :=
        spells upperChoice firstSpells upperPlain upperPositive (by omega)
      exact ⟨[], upperChoice ++ lowerChoice, .inl rfl,
        (assigned_above assigned positive_of_mem_above).append lowerAssigned, unitSpells⟩
  · have noneAbove : Factor.above factors = [] := by
      rcases upper with ⟨empty, _⟩ | ⟨_, impossible, _⟩
      · exact empty
      · cases impossible
    have firstPlain := (neutral numerator owns).units first inside
    obtain ⟨choice, assigned, spelled⟩ := spells [(first, 1)] (spells_self firstPlain)
      (by simpa [Choice.Plain] using firstPlain) (by simp [Choice.Positive])
      (by simp only [Choice.size, List.map_cons, List.map_nil, List.sum_cons, List.sum_nil]
          omega)
    refine ⟨[(first, 1)], choice, .inr ⟨noneAbove, numerator, first, owns, inside, rfl⟩, ?_,
      spelled⟩
    rwa [noneAbove, List.nil_append]

end Registry

end Metrology
