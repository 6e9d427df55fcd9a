import Metrology.Proofs.Canonical
import Metrology.Proofs.Deriving
import Metrology.Proofs.DimensionText

/-!
# Printed dimensions read as units

A dimension without a quantity is printed, and the text is no unit expression.  Its letters are
looked up as units all the same: the mass is read as metres, the length as litres, the time as
nothing.  Only the letter of the currency is the expression of the unit of its axis, so a power
of the currency is read as itself when it can be derived, and nothing else ever is.
-/

namespace Metrology

open UnitExpression

namespace Registry

variable {basis registry grown : Registry ℚ} {text : String} {normalized : Normalized ℚ}

/-! ## Texts of one term -/

/-- A unit is taken apart as its text, and one token has the dimension up to its power. -/
theorem exists_terms_of_findExpression? (coherent : basis.Coherent registry)
    {entry : UnitEntry ℚ} (found : registry.findExpression? text = some entry) :
    ∃ terms, split text = .ok terms ∧ ∀ term, terms = [term] →
      ∃ unit, registry.findUnit term.token = .ok unit ∧ ∀ axis,
        entry.dimension.exponent axis = term.exponent * unit.dimension.exponent axis := by
  have member := mem_of_findExpression? found
  have spelled := coherent.spelled_entry member
  obtain ⟨terms, factors, agrees⟩ := agrees_of_spelled coherent.kept spelled
  have carries : entry.unit.expression = text := expression_of_findExpression? found
  refine ⟨terms, carries ▸ agrees.split, ?_⟩
  rintro term rfl
  obtain ⟨factor, rest, stands, others, rfl⟩ := List.forall₂_cons_left_iff.1 agrees.stands
  cases others
  refine ⟨factor.entry, stands.resolved, fun axis => ?_⟩
  have sum := agrees.exponent axis
  rw [List.map_singleton, List.sum_singleton, stands.exponent] at sum
  exact sum.symm

/-- What is normalized can be taken apart, and one token has the dimension up to its power. -/
theorem exists_terms_of_normalize (coherent : basis.Coherent registry)
    (trimmed : Text.trimmed text = text) (filled : text.isEmpty = false)
    (answered : registry.normalize text = .ok (normalized, grown)) :
    ∃ terms, split text = .ok terms ∧ ∀ term, terms = [term] →
      ∃ unit, registry.findUnit term.token = .ok unit ∧ ∀ axis,
        normalized.dimension.exponent axis = term.exponent * unit.dimension.exponent axis := by
  obtain ⟨factors, _, _, resolved, outlined, _⟩ := normalize_eq_ok_iff.1 answered
  have combined : Factor.dimension factors = .ok normalized.dimension :=
    dimension_of_outlineOf outlined
  cases found : registry.findExpression? text with
  | some entry =>
      have whole := factors_of_findExpression? (by rwa [trimmed]) (by rwa [trimmed])
      cases resolved.symm.trans whole
      have same : normalized.dimension = entry.dimension :=
        Except.ok.inj (combined.symm.trans (dimension_single entry))
      rw [same]
      exact exists_terms_of_findExpression? coherent found
  | none =>
      rw [factors_of_none (by rwa [trimmed]), trimmed] at resolved
      obtain ⟨terms, reads, resolved⟩ := exists_of_bind_eq_ok resolved
      refine ⟨terms, reads, ?_⟩
      rintro term rfl
      obtain ⟨units, steps, kept⟩ := exists_of_bind_eq_ok resolved
      obtain ⟨unit, located, steps⟩ := exists_of_bind_eq_ok steps
      cases steps
      refine ⟨unit, located, fun axis => ?_⟩
      rw [Factor.exponent_dimension combined]
      -- A factor that was cancelled is left out, and its exponent is zero.
      rw [← Except.ok.inj kept, Factor.addPower, List.filter_singleton]
      by_cases cancelled : term.exponent = 0
      · simp [cancelled]
      · simp [cancelled]

/-! ## Units of the document -/

section Loaded

variable {settings : Settings} {start : Registry ℚ}
  (loaded : ofDefinitions Definitions.builtin settings = .ok start)
include loaded

/-- A unit that is spelled as one of the document is of its dimension and slope. -/
theorem same_of_listed {expressions : List String} {entry : UnitEntry ℚ}
    (member : entry ∈ (start.reached expressions).entries) {definition : QuantityDefinition ℚ}
    (listed : definition ∈ Definitions.builtin.quantities) {unit : MeasureUnit ℚ}
    (inside : unit ∈ definition.units) (text : entry.expression = unit.expression) :
    entry.dimension = definition.dimension ∧ entry.unit.slope = unit.slope := by
  obtain ⟨quantity, registered, makes⟩ := exists_of_forall₂ (makes_of_loaded loaded).flip listed
  have coherent := coherent_builtin loaded
  rw [← makes.units] at inside
  have grown := coherent.reached expressions
  have spelled := grown.spelled_entry member
  rw [← makes.dimension]
  exact same_of_text spelled (coherent.spelled quantity registered unit inside) text

end Loaded

end Registry

/-! ## The letters of the axes -/

/-- The dimension of the unit that the letter of an axis is read as: metres, litres, nothing and
dollars. -/
def Axis.readAs? : Axis → Option Dimension
  | .mass => some .length
  | .length => some .volume
  | .time => none
  | .currency => some .currency

theorem Axis.eq_currency_or_earlier (axis : Axis) :
    axis = .currency ∨ axis ∈ Axis.currency.earlier := by
  cases axis <;> decide

/-- Only a power of the currency is this power of what the letter of its axis is read as. -/
theorem Axis.eq_currency_of_readAs {axis : Axis} {dimension other : Dimension} {exponent : Int}
    (leading : dimension.Leading axis) (readAs : axis.readAs? = some other)
    (exponents : ∀ axis, dimension.exponent axis = exponent * other.exponent axis)
    (power : (∀ later ∈ axis.later, dimension.exponent later = 0) →
      exponent = dimension.exponent axis) : axis = .currency := by
  cases axis with
  | mass =>
      obtain rfl := Option.some.inj readAs
      have nothing : Dimension.length.exponent .mass = 0 := by decide
      have mass := exponents .mass
      rw [nothing, mul_zero] at mass
      exact absurd mass leading.nonzero
  | length =>
      obtain rfl := Option.some.inj readAs
      have cube : Dimension.volume.exponent .length = 3 := by decide
      have onlyLength : ∀ later ∈ Axis.length.later, Dimension.volume.exponent later = 0 := by
        decide
      have length := exponents .length
      have nonzero := leading.nonzero
      have same := power fun later member => by
        rw [exponents later, onlyLength later member, mul_zero]
      rw [cube] at length
      omega
  | time => cases readAs
  | currency => rfl

/-- Every unit of the document whose expression is the letter of an axis, in either case. -/
theorem Definitions.readAs_builtin :
    (builtin : Definitions ℚ).quantities.all (fun definition => definition.units.all fun unit =>
      Axis.all.all fun axis =>
        Text.lower unit.expression.toList != [axis.letter.toLower] ||
          axis.readAs? == some definition.dimension) = true := by
  decide +kernel

namespace Registry

section Letters

variable {settings : Settings} {start : Registry ℚ}
  (loaded : ofDefinitions Definitions.builtin settings = .ok start) {expressions : List String}
include loaded

theorem readAs_of_findUnit {axis : Axis} {unit : UnitEntry ℚ}
    (found : (start.reached expressions).findUnit (String.ofList [axis.letter]) = .ok unit) :
    axis.readAs? = some unit.dimension := by
  obtain ⟨listed, small⟩ := listed_of_findUnit loaded axis.isSolid_letter found
  obtain ⟨definition, member, inside⟩ := List.mem_flatMap.1 listed
  obtain ⟨original, among, named⟩ := List.mem_map.1 inside
  have checked := List.all_eq_true.1 (List.all_eq_true.1 (List.all_eq_true.1
    Definitions.readAs_builtin definition member) original among) axis (Axis.mem_all axis)
  rw [named, small, bne_self_eq_false, Bool.false_or, beq_iff_eq] at checked
  rw [checked, (same_of_listed loaded (mem_of_findUnit found) member among named.symm).1]

/-- A dimension that is read back from its text is a power of the currency. -/
theorem money_of_normalize {dimension : Dimension} {grown : Registry ℚ} {normalized : Normalized ℚ}
    (dimensioned : dimension ≠ .ratio)
    (answered : (start.reached expressions).normalize dimension.text = .ok (normalized, grown))
    (same : normalized.dimension = dimension) : dimension.Leading .currency := by
  obtain ⟨axis, leading⟩ := Dimension.exists_leading dimensioned
  obtain ⟨terms, reads, single⟩ := exists_terms_of_normalize
    ((coherent_builtin loaded).reached expressions) (Dimension.trimmed_text dimensioned)
    (Dimension.isEmpty_text dimensioned) answered
  rw [same] at single
  rcases Dimension.terms_of_split_text leading reads with
    ⟨exponent, rfl, isExponent⟩ | ⟨token, exponent, rfl, gapped⟩
  · obtain ⟨unit, found, exponents⟩ := single _ rfl
    have money := Axis.eq_currency_of_readAs leading (readAs_of_findUnit loaded found) exponents
      isExponent
    rwa [money] at leading
  · obtain ⟨unit, found, _⟩ := single _ rfl
    have trimmedGap : Text.Gapped (Text.trimmed (String.ofList token)).toList := by
      rw [Text.trimmed, String.toList_ofList, String.toList_ofList]
      exact gapped.trim
    exact absurd found (findUnit_ne_of_gapped (labelled_reached loaded expressions) trimmedGap)

end Letters

/-! ## Powers of the currency -/

/-- A power of the currency that can be derived from the text it is printed as. -/
structure Coins (registry : Registry ℚ) (dimension : Dimension) : Prop where
  money : dimension.Leading .currency
  growth : registry.growth = true
  range : -15 ≤ dimension.exponent .currency
  steps : (dimension.exponent .currency).natAbs ≤ registry.stepLimit

theorem exponent_of_money {dimension : Dimension} (money : dimension.Leading .currency)
    (axis : Axis) : dimension.exponent axis =
      dimension.exponent .currency * Dimension.currency.exponent axis := by
  have single : Dimension.currency.exponent .currency = 1 := by decide
  have others : ∀ other ∈ Axis.currency.earlier, Dimension.currency.exponent other = 0 := by decide
  rcases Axis.eq_currency_or_earlier axis with rfl | before
  · rw [single, mul_one]
  · rw [money.first axis before, others axis before, mul_zero]

theorem split_text_of_money {dimension : Dimension} (money : dimension.Leading .currency) :
    split dimension.text = .ok [⟨"$", dimension.exponent .currency⟩] := by
  have nothingLater : ∀ other ∈ Axis.currency.later, dimension.exponent other = 0 :=
    fun _ impossible => absurd impossible List.not_mem_nil
  exact Dimension.split_text_of_single money (Dimension.tail_of_vanishing nothingLater)

section Coins

variable {settings : Settings} {start : Registry ℚ}
  (loaded : ofDefinitions Definitions.builtin settings = .ok start) {expressions : List String}
include loaded

/-- The dollar of the document is found. -/
theorem exists_dollar : ∃ dollar : UnitEntry ℚ, dollar.Proportional ∧
    dollar.dimension = .currency ∧ dollar.unit.slope = 1 ∧
    (start.reached expressions).findUnit "$" = .ok dollar := by
  have coherent := (coherent_builtin loaded).reached expressions
  have known : (start.findExpression? "$").isSome := by
    rw [findExpression?_isSome_loaded_iff loaded]
    decide
  obtain ⟨dollar, found⟩ := Option.isSome_iff_exists.1 known
  have located : (start.reached expressions).findUnit "$" = .ok dollar :=
    findUnit_of_findExpression? (coherent.kept.findExpression? found)
  have member := mem_of_findUnit located
  have listed : (⟨"currency", "$", .currency, 0, Definitions.currencyUnits⟩ :
      QuantityDefinition ℚ) ∈ Definitions.builtin.quantities := by
    simp [Definitions.builtin, Definitions.builtinQuantities]
  obtain ⟨dimension, slope⟩ := same_of_listed loaded member listed List.mem_cons_self
    (expression_of_findExpression? found)
  exact ⟨dollar, (Spelled.reads (coherent.spelled_entry member)).1, dimension,
    slope.trans (by decide +kernel), located⟩

variable {dimension : Dimension} (money : dimension.Leading .currency)
  (unowned : (start.reached expressions).ownerOf? dimension = none)
include money unowned

/-- A unit with the text of a power of the currency would be of this power. -/
theorem findExpression?_text_of_money :
    (start.reached expressions).findExpression? dimension.text = none := by
  refine Option.eq_none_iff_forall_ne_some.2 fun entry found => ?_
  obtain ⟨terms, reads, single⟩ :=
    exists_terms_of_findExpression? ((coherent_builtin loaded).reached expressions) found
  obtain ⟨unit, located, exponents⟩ :=
    single _ (Except.ok.inj (reads.symm.trans (split_text_of_money money)))
  have readAs : Axis.currency.readAs? = some unit.dimension := readAs_of_findUnit loaded located
  have isCurrency : unit.dimension = .currency := (Option.some.inj readAs).symm
  have same : entry.dimension = dimension := Dimension.eq_of_exponent fun axis => by
    rw [exponents axis, isCurrency, exponent_of_money money axis]
  have owned := ownerOf?_isSome_of_mem (quantity_mem_of_entry (mem_of_findExpression? found))
  rw [← UnitEntry.dimension, same, unowned] at owned
  cases owned

/-- The text of a power of the currency is this power of the dollar. -/
theorem factors_of_money : ∃ dollar : UnitEntry ℚ, dollar.Proportional ∧
    dollar.dimension = .currency ∧ dollar.unit.slope = 1 ∧
    (start.reached expressions).factors dimension.text =
      .ok [⟨dollar, dimension.exponent .currency⟩] := by
  obtain ⟨dollar, proportional, isCurrency, slope, located⟩ := exists_dollar loaded
  refine ⟨dollar, proportional, isCurrency, slope, ?_⟩
  have trimmed := Dimension.trimmed_text (Dimension.ne_ratio_of_leading money)
  have missing := findExpression?_text_of_money loaded money unowned
  have resolved : (start.reached expressions).resolveTerms []
      [⟨"$", dimension.exponent .currency⟩] = .ok [⟨dollar, dimension.exponent .currency⟩] := by
    rw [resolveTerms, located]
    rfl
  rw [factors_of_none (by rwa [trimmed]), trimmed, tokenFactors, split_text_of_money money]
  simp only [resolved, bind, Except.bind]
  exact congrArg Except.ok (List.filter_cons_of_pos (decide_eq_true money.nonzero))

end Coins

section Coins

variable {registry : Registry ℚ} {dimension : Dimension} {dollar : UnitEntry ℚ}
  (money : dimension.Leading .currency)
  (isCurrency : dollar.dimension = .currency)
include money isCurrency

theorem exponentAt_of_money (axis : Axis) :
    Factor.exponentAt ⟨dollar, dimension.exponent .currency⟩ axis = dimension.exponent axis := by
  rw [Factor.exponentAt, isCurrency, ← exponent_of_money money]

theorem staysInRange_money :
    Factor.StaysInRange [⟨dollar, dimension.exponent .currency⟩] := by
  refine Factor.staysInRange_singleton.2 fun axis => ?_
  rw [exponentAt_of_money money isCurrency]
  exact dimension.inRange_exponent axis

theorem dimension_of_money :
    Factor.dimension [⟨dollar, dimension.exponent .currency⟩] = .ok dimension := by
  obtain ⟨result, combined⟩ :=
    Factor.exists_dimension_iff.2 (staysInRange_money money isCurrency)
  have same : result = dimension := Dimension.eq_of_exponent fun axis => by
    have sum := Factor.exponent_foldlM combined axis
    rwa [Dimension.exponent_ratio, zero_add, Factor.exponentOf_cons, Factor.exponentOf_nil,
      add_zero, exponentAt_of_money money isCurrency] at sum
  rw [combined, same]

omit money in
/-- The power stays in range below the slash unless it is the least one. -/
theorem staysInRange_upright_iff :
    Factor.StaysInRange [Factor.upright ⟨dollar, dimension.exponent .currency⟩] ↔
      -15 ≤ dimension.exponent .currency := by
  have ⟨lower, upper⟩ := dimension.inRange_exponent .currency
  have exponentAt (axis : Axis) :
      Factor.exponentAt (Factor.upright ⟨dollar, dimension.exponent .currency⟩) axis =
        (dimension.exponent .currency).natAbs * Dimension.currency.exponent axis := by
    rw [Factor.exponentAt, Factor.upright, isCurrency]
  have single : Dimension.currency.exponent .currency = 1 := by decide
  have others : ∀ other ∈ Axis.currency.earlier, Dimension.currency.exponent other = 0 := by decide
  rw [Factor.staysInRange_singleton]
  constructor
  · intro within
    have atCurrency := (within .currency).2
    rw [exponentAt, single] at atCurrency
    omega
  · intro bounded axis
    rw [exponentAt]
    rcases Axis.eq_currency_or_earlier axis with rfl | before
    · rw [single]
      exact ⟨by omega, by omega⟩
    · rw [others axis before, mul_zero]
      decide

/-- A power of the dollar is derived as the product above the slash or the one below it. -/
theorem derives_money_iff :
    registry.Derives [⟨dollar, dimension.exponent .currency⟩] ↔
      registry.growth = true ∧ -15 ≤ dimension.exponent .currency := by
  have power := staysInRange_money money isCurrency
  have upright := @staysInRange_upright_iff dimension _ isCurrency
  rcases lt_or_gt_of_ne money.nonzero with negative | positive
  · have above : Factor.above [(⟨dollar, dimension.exponent .currency⟩ : Factor ℚ)] = [] :=
      List.filter_cons_of_neg (by simpa using negative.le)
    have below : Factor.below [(⟨dollar, dimension.exponent .currency⟩ : Factor ℚ)] =
        [⟨dollar, dimension.exponent .currency⟩] :=
      List.filter_cons_of_pos (decide_eq_true negative)
    constructor
    · rintro ⟨growth, _, within⟩
      rw [below] at within
      exact ⟨growth, upright.1 within⟩
    · rintro ⟨growth, bounded⟩
      refine ⟨growth, ?_, ?_⟩
      · rw [above]
        exact Factor.staysInRange_nil
      · rw [below]
        exact upright.2 bounded
  · have above : Factor.above [(⟨dollar, dimension.exponent .currency⟩ : Factor ℚ)] =
        [⟨dollar, dimension.exponent .currency⟩] :=
      List.filter_cons_of_pos (decide_eq_true positive)
    have below : Factor.below [(⟨dollar, dimension.exponent .currency⟩ : Factor ℚ)] = [] :=
      List.filter_cons_of_neg (by simpa using positive.le)
    constructor
    · rintro ⟨growth, _, _⟩
      exact ⟨growth, by omega⟩
    · rintro ⟨growth, _⟩
      refine ⟨growth, ?_, ?_⟩
      · rw [above]
        exact power
      · rw [below]
        exact Factor.staysInRange_nil

/-- What it takes to read a power of the dollar. -/
theorem takes_money_iff (unowned : registry.ownerOf? dimension = none) :
    registry.Takes [⟨dollar, dimension.exponent .currency⟩] ↔ registry.Coins dimension := by
  have combined := dimension_of_money money isCurrency
  have derives := @derives_money_iff registry _ _ money isCurrency
  constructor
  · rintro ⟨_, steps, owned⟩
    rcases owned dimension combined with found | needs
    · rw [unowned] at found
      cases found
    · obtain ⟨growth, range⟩ := derives.1 needs
      exact ⟨money, growth, range, steps⟩
  · rintro ⟨_, growth, range, steps⟩
    exact ⟨staysInRange_money money isCurrency, steps, fun _ _ => .inr (derives.2 ⟨growth, range⟩)⟩

end Coins

section Printed

variable {settings : Settings} {start : Registry ℚ}
  (loaded : ofDefinitions Definitions.builtin settings = .ok start) {expressions : List String}
  {dimension : Dimension}
  (unowned : (start.reached expressions).ownerOf? dimension = none)
include loaded unowned

theorem ne_ratio_of_unowned : dimension ≠ .ratio := by
  rintro rfl
  have neutral := ratio_owned_reached loaded expressions
  rw [unowned] at neutral
  cases neutral

/-- An answer to the text of a power of the currency is this power on the SI scale. -/
theorem answer_of_money (money : dimension.Leading .currency)
    (answered : (start.reached expressions).normalize dimension.text = .ok (normalized, grown)) :
    (start.reached expressions).Coins dimension ∧ normalized.dimension = dimension ∧
      normalized.slope = 1 ∧ normalized.intercept = 0 := by
  obtain ⟨dollar, proportional, isCurrency, slope, resolved⟩ :=
    factors_of_money loaded money unowned
  have takes := takes_money_iff money isCurrency unowned
  obtain ⟨factors, _, _, again, outlined, _⟩ := normalize_eq_ok_iff.1 answered
  cases resolved.symm.trans again
  have all_proportional : ∀ factor ∈
      [(⟨dollar, dimension.exponent .currency⟩ : Factor ℚ)], factor.entry.Proportional := by
    intro factor member
    rwa [List.mem_singleton.1 member]
  obtain ⟨measures, intercept⟩ := measures_of_outlineOf all_proportional outlined
  refine ⟨takes.1 ?_, ?_, ?_, intercept⟩
  · rcases takes_or_refuses (leads_reached loaded expressions)
      (ratio_owned_reached loaded expressions) resolved with ⟨accepted, _⟩ | ⟨_, _, refused, _⟩
    · exact accepted
    · cases answered.symm.trans refused
  · have combined := dimension_of_outlineOf outlined
    exact Except.ok.inj (combined.symm.trans (dimension_of_money money isCurrency))
  · have product := Factor.slope_scale all_proportional
    rw [measures.slope, List.map_singleton, List.prod_singleton, slope, one_zpow] at product
    exact product

/-- The text of a dimension without a quantity is read as this dimension just when it is a power
of the currency that can be derived. -/
theorem normalize_text_iff :
    (∃ normalized grown, (start.reached expressions).normalize dimension.text =
        .ok (normalized, grown) ∧ normalized.dimension = dimension) ↔
      (start.reached expressions).Coins dimension := by
  have dimensioned := ne_ratio_of_unowned loaded unowned
  constructor
  · rintro ⟨normalized, grown, answered, same⟩
    have money := money_of_normalize loaded dimensioned answered same
    exact (answer_of_money loaded unowned money answered).1
  · intro coins
    obtain ⟨dollar, _, isCurrency, _, resolved⟩ := factors_of_money loaded coins.money unowned
    have takes := (takes_money_iff coins.money isCurrency unowned).2 coins
    rcases takes_or_refuses (leads_reached loaded expressions)
      (ratio_owned_reached loaded expressions) resolved with ⟨_, answer, answered⟩ | ⟨refused, _⟩
    · exact ⟨answer.1, answer.2, answered,
        (answer_of_money loaded unowned coins.money answered).2.1⟩
    · exact absurd takes refused

end Printed

end Registry

end Metrology
