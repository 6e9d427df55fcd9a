import Metrology.Proofs.Rereading

/-!
# Normalizing twice

The first time an expression may be read token by token and register a quantity
that has a unit of just this text; the second time it is then read as that unit.
Offsets and slopes of the two readings come from different computations, and
this module says exactly when they agree.
-/

namespace Metrology

/-- What an expression comes to apart from the quantity that owns it. -/
structure Outline (α : Type) where
  userExpression : String
  dimension : Dimension
  slope : α
  intercept : α

def Normalized.outline {α : Type} (normalized : Normalized α) : Outline α :=
  ⟨normalized.userExpression, normalized.dimension, normalized.slope,
    normalized.intercept⟩

namespace Registry

variable {α : Type}

/-- The factors of a text that is read token by token. -/
def tokenFactors (registry : Registry α) (text : String) :
    Except Error (List (Factor α)) := do
  let terms ← UnitExpression.split text
  let resolved ← registry.resolveTerms [] terms
  .ok (resolved.filter (·.exponent ≠ 0))

variable [Scalar α]

/-- What factors come to within a step limit. -/
def outlineOf (limit : Nat) (factors : List (Factor α)) : Except Error (Outline α) := do
  let dimension ← Factor.dimension factors
  let plan ← ConversionPlan.ofFactors factors limit
  .ok ⟨UnitExpression.product
    (factors.map fun factor => (factor.entry.expression, factor.exponent)),
    dimension, plan.affine.1, plan.affine.2⟩

/-- What a text comes to token by token. -/
def tokenOutline (registry : Registry α) (text : String) : Except Error (Outline α) := do
  outlineOf registry.stepLimit (← registry.tokenFactors text)

variable {registry grown : Registry α} {expression : String} {normalized : Normalized α}

/-- Normalizing outlines the factors and names the owner of their dimension. -/
theorem normalize_eq_ok_iff :
    registry.normalize expression = .ok (normalized, grown) ↔
      ∃ factors owner unit, registry.factors expression = .ok factors ∧
        outlineOf registry.stepLimit factors = .ok normalized.outline ∧
        registry.ownerOrDerived factors normalized.dimension expression =
          .ok (owner, grown) ∧
        owner.siUnit? = some unit ∧ normalized.siExpression = unit.expression ∧
        normalized.quantity = owner.name := by
  constructor
  · intro succeeds
    obtain ⟨factors, resolved, succeeds⟩ := exists_of_bind_eq_ok succeeds
    obtain ⟨dimension, combined, succeeds⟩ := exists_of_bind_eq_ok succeeds
    obtain ⟨plan, planned, succeeds⟩ := exists_of_bind_eq_ok succeeds
    obtain ⟨⟨owner, after⟩, owned, succeeds⟩ := exists_of_bind_eq_ok succeeds
    dsimp only at succeeds
    split at succeeds
    · cases succeeds
    · next unit siUnit =>
        cases succeeds
        refine ⟨factors, owner, unit, resolved, ?_, owned, siUnit, rfl, rfl⟩
        rw [outlineOf, combined, planned]
        rfl
  · rintro ⟨factors, owner, unit, resolved, outlined, owned, siUnit, si, named⟩
    obtain ⟨dimension, combined, outlined⟩ := exists_of_bind_eq_ok outlined
    obtain ⟨plan, planned, outlined⟩ := exists_of_bind_eq_ok outlined
    rcases normalized with ⟨_, _, _, _, _, _⟩
    obtain ⟨rfl, rfl, rfl, rfl⟩ := Outline.mk.inj (Except.ok.inj outlined)
    subst si named
    simp only [normalize, resolved, combined, planned, owned, siUnit, bind, Except.bind]

/-- An expression whose dimension has an owner leaves the registry as it is. -/
theorem normalize_of_owned {factors : List (Factor α)} {outline : Outline α}
    {owner : Quantity α} {unit : MeasureUnit α}
    (resolved : registry.factors expression = .ok factors)
    (outlined : outlineOf registry.stepLimit factors = .ok outline)
    (owned : registry.ownerOf? outline.dimension = some owner)
    (siUnit : owner.siUnit? = some unit) :
    registry.normalize expression =
      .ok (⟨unit.expression, outline.userExpression, outline.dimension, owner.name,
        outline.slope, outline.intercept⟩, registry) := by
  refine normalize_eq_ok_iff.2 ⟨factors, owner, unit, resolved, outlined, ?_, siUnit, rfl, rfl⟩
  simp only [ownerOrDerived, owned]

omit [Scalar α] in
theorem factors_of_findExpression? {entry : UnitEntry α}
    (found : registry.findExpression? (Text.trimmed expression) = some entry)
    (filled : (Text.trimmed expression).isEmpty = false) :
    registry.factors expression = .ok [⟨entry, 1⟩] := by
  simp only [factors, filled, found, Bool.false_eq_true, if_false]

omit [Scalar α] in
/-- The factors of a text that is no unit are those of its tokens. -/
theorem factors_of_none
    (missing : registry.findExpression? (Text.trimmed expression) = none) :
    registry.factors expression = registry.tokenFactors (Text.trimmed expression) := by
  unfold factors
  dsimp only
  split
  · next empty =>
      rw [String.isEmpty_iff.1 empty]
      rfl
  · rw [missing]
    rfl

omit [Scalar α] in
/-- All factors are entries of the registry. -/
theorem mem_of_factors {factors : List (Factor α)}
    (resolved : registry.factors expression = .ok factors) :
    ∀ factor ∈ factors, factor.entry ∈ registry.entries := by
  unfold Registry.factors at resolved
  dsimp only at resolved
  split at resolved
  · cases resolved
    exact fun _ impossible => absurd impossible List.not_mem_nil
  · split at resolved
    · next entry found =>
        cases resolved
        intro factor member
        rw [List.mem_singleton.1 member]
        exact mem_of_findExpression? found
    · obtain ⟨terms, _, resolved⟩ := exists_of_bind_eq_ok resolved
      obtain ⟨all, resolves, kept⟩ := exists_of_bind_eq_ok resolved
      cases kept
      intro factor member
      exact mem_of_resolveTerms (fun _ impossible => absurd impossible List.not_mem_nil)
        resolves factor (List.mem_of_mem_filter member)

/-- Registries that find the same units for the tokens of a text outline it
alike. -/
theorem tokenOutline_congr {other : Registry α} {text : String}
    (limit : other.stepLimit = registry.stepLimit)
    (same : ∀ terms, UnitExpression.split text = .ok terms → ∀ term ∈ terms,
      other.findUnit term.token = registry.findUnit term.token) :
    other.tokenOutline text = registry.tokenOutline text := by
  have factors : other.tokenFactors text = registry.tokenFactors text := by
    unfold tokenFactors
    cases taken : UnitExpression.split text with
    | error failure => rfl
    | ok terms =>
        simp only [bind, Except.bind, resolveTerms_congr (same terms taken)]
  rw [tokenOutline, tokenOutline, limit, factors]

/-! ## The growth of one normalization -/

/-- Normalizing leaves the registry as it is, or appends a proportional quantity
of a dimension that had no owner. -/
theorem grown_of_normalize
    (succeeds : registry.normalize expression = .ok (normalized, grown)) :
    grown = registry ∨ ∃ derived, grown = registry.append derived ∧
      registry.ownerOf? normalized.dimension = none ∧
      derived.dimension = normalized.dimension ∧ derived.siUnit?.isSome = true ∧
      derived.Proportional := by
  obtain ⟨factors, owner, unit, resolved, outlined, owned, siUnit, si, named⟩ :=
    normalize_eq_ok_iff.1 succeeds
  rcases ownerOrDerived_eq_ok owned with ⟨_, rfl⟩ | ⟨unowned, made⟩
  · exact .inl rfl
  · obtain ⟨appended, dimension, withSI, proportional⟩ :=
      synthesize_eq_ok (mem_of_factors resolved) unowned made
    exact .inr ⟨owner, appended, unowned, dimension, withSI, proportional⟩

omit [Scalar α] in
theorem dimension_single (entry : UnitEntry α) :
    Factor.dimension [⟨entry, 1⟩] = .ok entry.dimension := by
  have powered : entry.dimension.times 1 = .ok entry.dimension :=
    Dimension.times_one entry.dimension
  simp only [Factor.dimension, List.foldlM_cons, List.foldlM_nil, powered, bind,
    Except.bind, Dimension.ratio_plus, pure, Except.pure]

/-- The plan of a single unit has one step. -/
theorem ofFactors_single {limit : Nat} {entry : UnitEntry α} (positive : 1 ≤ limit)
    (withSI : entry.quantity.siUnit?.isSome = true) :
    ConversionPlan.ofFactors [⟨entry, 1⟩] limit =
      .ok ⟨[⟨entry.unit.slope, entry.unit.intercept, false⟩]⟩ := by
  obtain ⟨unit, siUnit⟩ := Option.isSome_iff_exists.1 withSI
  have added : ConversionPlan.addFactor limit ⟨[]⟩ ⟨entry, 1⟩ =
      .ok ⟨[⟨entry.unit.slope, entry.unit.intercept, false⟩]⟩ := by
    simp only [ConversionPlan.addFactor, UnitEntry.siUnit, siUnit, bind, Except.bind]
    exact if_pos positive
  change (do
    let plan ← ConversionPlan.addFactor limit ⟨[]⟩ ⟨entry, 1⟩
    Except.ok plan) = _
  rw [added]
  rfl

/-- Some factor with an exponent takes at least one step. -/
theorem one_le_of_ofFactors {factors : List (Factor α)} {limit : Nat}
    {plan : ConversionPlan α} (filled : factors ≠ [])
    (powered : ∀ factor ∈ factors, factor.exponent ≠ 0)
    (planned : ConversionPlan.ofFactors factors limit = .ok plan) : 1 ≤ limit := by
  obtain ⟨factor, member⟩ := List.exists_mem_of_ne_nil factors filled
  have nonzero := powered factor member
  have inOrder : factor ∈ Factor.above factors ++ Factor.below factors := by
    rcases lt_or_gt_of_ne nonzero with negative | positive
    · exact List.mem_append_right _ (List.mem_filter.2 ⟨member, by simpa using negative⟩)
    · exact List.mem_append_left _ (List.mem_filter.2 ⟨member, by simpa using positive⟩)
  have counted : factor.exponent.natAbs ≤
      powers (Factor.above factors ++ Factor.below factors) :=
    List.single_le_sum (fun _ _ => Nat.zero_le _) _ (List.mem_map_of_mem inOrder)
  have fits := (ConversionPlan.ofFactors_eq_ok planned).2
  omega

/-- Without a quantity that has no dimension there is nothing to divide. -/
theorem synthesize_nil_ne_ok {owner : Quantity α}
    (unowned : registry.ownerOf? Dimension.ratio = none) :
    registry.synthesize [] Dimension.ratio expression ≠ .ok (owner, grown) := by
  intro made
  obtain ⟨above, _, numerator, aboveMade, _, stands, _⟩ := exists_of_synthesize unowned made
  cases aboveMade
  rcases stands with impossible | ⟨_, owns⟩
  · cases impossible
  · rw [unowned] at owns
    cases owns

/-- Only a text that is no unit yet lets the registry grow, and it takes at least
one step. -/
theorem missing_of_grown
    (succeeds : registry.normalize expression = .ok (normalized, grown))
    (unowned : registry.ownerOf? normalized.dimension = none) :
    registry.findExpression? (Text.trimmed expression) = none ∧
      (Text.trimmed expression).isEmpty = false ∧ 1 ≤ registry.stepLimit := by
  obtain ⟨factors, owner, unit, resolved, outlined, owned, siUnit, si, named⟩ :=
    normalize_eq_ok_iff.1 succeeds
  obtain ⟨dimension, combined, outlined⟩ := exists_of_bind_eq_ok outlined
  obtain ⟨plan, planned, outlined⟩ := exists_of_bind_eq_ok outlined
  have dimensionSame : dimension = normalized.dimension :=
    (Outline.mk.inj (Except.ok.inj outlined)).2.1
  rw [ownerOrDerived, unowned] at owned
  have filled : factors ≠ [] := by
    rintro rfl
    cases combined
    rw [← dimensionSame] at unowned owned
    exact synthesize_nil_ne_ok unowned owned
  have someText : (Text.trimmed expression).isEmpty = false := by
    refine eq_false_of_ne_true fun empty => filled ?_
    simp only [Registry.factors, empty, if_true] at resolved
    exact (Except.ok.inj resolved).symm
  have missing : registry.findExpression? (Text.trimmed expression) = none := by
    cases found : registry.findExpression? (Text.trimmed expression) with
    | none => rfl
    | some entry =>
        rw [factors_of_findExpression? found someText] at resolved
        cases resolved
        rw [dimension_single] at combined
        cases combined
        exact (dimension_ne_of_unowned unowned
          (quantity_mem_of_entry (mem_of_findExpression? found)) dimensionSame).elim
  refine ⟨missing, someText, one_le_of_ofFactors filled ?_ planned⟩
  rw [factors_of_none missing] at resolved
  obtain ⟨terms, _, resolved⟩ := exists_of_bind_eq_ok resolved
  obtain ⟨all, _, kept⟩ := exists_of_bind_eq_ok resolved
  cases kept
  intro factor member
  simpa using (List.mem_filter.1 member).2

/-- After normalizing, the dimension has the owner that the answer names. -/
theorem owner_of_normalize
    (succeeds : registry.normalize expression = .ok (normalized, grown)) :
    ∃ owner unit, grown.ownerOf? normalized.dimension = some owner ∧
      owner.siUnit? = some unit ∧ normalized.siExpression = unit.expression ∧
      normalized.quantity = owner.name := by
  obtain ⟨factors, owner, unit, resolved, _, owned, siUnit, si, named⟩ :=
    normalize_eq_ok_iff.1 succeeds
  refine ⟨owner, unit, ?_, siUnit, si, named⟩
  rcases ownerOrDerived_eq_ok owned with ⟨found, rfl⟩ | ⟨unowned, made⟩
  · exact found
  · obtain ⟨rfl, dimension, _⟩ := synthesize_eq_ok (mem_of_factors resolved) unowned made
    rw [← dimension] at unowned ⊢
    exact ownerOf?_append_of_none unowned

/-- The second answer is the second outline under the same quantity. -/
theorem normalize_grown_iff
    (succeeds : registry.normalize expression = .ok (normalized, grown))
    (outline : Outline α) (dimension : outline.dimension = normalized.dimension) :
    grown.normalize expression =
        .ok ({ normalized with
          userExpression := outline.userExpression
          slope := outline.slope
          intercept := outline.intercept }, grown) ↔
      (do outlineOf grown.stepLimit (← grown.factors expression)) = .ok outline := by
  obtain ⟨owner, unit, found, siUnit, si, named⟩ := owner_of_normalize succeeds
  rw [normalize_eq_ok_iff]
  constructor
  · rintro ⟨factors, _, _, resolved, outlined, _⟩
    rw [resolved]
    refine Eq.trans outlined (congrArg Except.ok ?_)
    rw [Normalized.outline, ← dimension]
  · intro outlined
    obtain ⟨factors, resolved, outlined⟩ := exists_of_bind_eq_ok outlined
    refine ⟨factors, owner, unit, resolved, ?_, ?_, siUnit, si, named⟩
    · rw [outlined, Normalized.outline, ← dimension]
    · simp only [ownerOrDerived, found]

/-- What is missing after growth was missing before. -/
theorem missing_of_missing
    (succeeds : registry.normalize expression = .ok (normalized, grown)) {text : String}
    (missing : grown.findExpression? text = none) :
    registry.findExpression? text = none := by
  rcases grown_of_normalize succeeds with rfl | ⟨derived, rfl, _⟩
  · exact missing
  · cases found : registry.findExpression? text with
    | none => rfl
    | some entry =>
        rw [findExpression?_append_of_some derived found] at missing
        cases missing

/-- Growth changes nothing for a text whose tokens are expressions of units. -/
theorem tokenOutline_grown
    (succeeds : registry.normalize expression = .ok (normalized, grown)) {text : String}
    (exact : ∀ terms, UnitExpression.split text = .ok terms → ∀ term ∈ terms,
      (registry.findExpression? (Text.trimmed term.token)).isSome = true) :
    grown.tokenOutline text = registry.tokenOutline text := by
  rcases grown_of_normalize succeeds with rfl | ⟨derived, rfl, _⟩
  · rfl
  · exact tokenOutline_congr rfl fun terms taken term member =>
      findUnit_append_of_isSome derived (exact terms taken term member)

end Registry

/-! ## Exact conditions -/

namespace Registry

variable {α : Type} [Field α] [LinearOrder α] [Elementary α]
  {registry grown : Registry α} {expression : String} {normalized : Normalized α}

/-- A single unit is outlined by its own slope and intercept. -/
theorem outlineOf_single {limit : Nat} {entry : UnitEntry α} (positive : 1 ≤ limit)
    (withSI : entry.quantity.siUnit?.isSome = true) :
    outlineOf limit [⟨entry, 1⟩] =
      .ok ⟨UnitExpression.product [(entry.expression, 1)], entry.dimension,
        entry.unit.slope, entry.unit.intercept⟩ := by
  rw [outlineOf, dimension_single, ofFactors_single positive withSI]
  simp only [bind, Except.bind, ConversionPlan.affine, List.foldl_cons, List.foldl_nil,
    ConversionStep.after, Bool.false_eq_true, if_false, List.map_cons, List.map_nil,
    one_mul, zero_mul, zero_add]

/-- An expression that has become a unit is answered with that unit, without the
offset. -/
theorem normalize_again_of_unit
    (succeeds : registry.normalize expression = .ok (normalized, grown))
    (missing : registry.findExpression? (Text.trimmed expression) = none)
    {entry : UnitEntry α}
    (found : grown.findExpression? (Text.trimmed expression) = some entry) :
    grown.normalize expression =
      .ok ({ normalized with
        userExpression := UnitExpression.product [(Text.trimmed expression, 1)]
        slope := entry.unit.slope
        intercept := 0 }, grown) := by
  rcases grown_of_normalize succeeds with
    rfl | ⟨derived, rfl, unowned, dimension, withSI, proportional⟩
  · rw [missing] at found
    cases found
  · obtain ⟨_, filled, positive⟩ := missing_of_grown succeeds unowned
    obtain ⟨owner, inside, named⟩ := findExpression?_append_of_none missing found
    have dimensionSame : entry.dimension = normalized.dimension := by
      rw [UnitEntry.dimension, owner, dimension]
    have offset : entry.unit.intercept = 0 := proportional entry.unit inside
    have outlined : outlineOf (registry.append derived).stepLimit [⟨entry, 1⟩] =
        .ok ⟨UnitExpression.product [(Text.trimmed expression, 1)], entry.dimension,
          entry.unit.slope, 0⟩ := by
      rw [← owner] at withSI
      have single := outlineOf_single positive withSI
      rw [named, offset] at single
      exact single
    have second := normalize_grown_iff succeeds
      ⟨UnitExpression.product [(Text.trimmed expression, 1)], entry.dimension,
        entry.unit.slope, 0⟩ dimensionSame
    rw [factors_of_findExpression? found filled] at second
    dsimp only at second
    exact second.2 outlined

/-- A text of tokens that are the expressions of units, in quantities with plain units
only, whose exponents stay far from the bounds.  The neutral unit is one. -/
structure Ordinary (registry : Registry α) (text : String) : Prop where
  limit : registry.stepLimit < UnitExpression.greatestExponent
  exact : ∀ terms, UnitExpression.split text = .ok terms → ∀ term ∈ terms,
    (registry.findExpression? (Text.trimmed term.token)).isSome = true
  plain : ∀ factors, registry.tokenFactors text = .ok factors →
    ∀ factor ∈ factors, factor.entry.quantity.Plain
  neutral : ∀ ratio, registry.ownerOf? Dimension.ratio = some ratio →
    ratio.Plain ∧ ∀ unit ∈ ratio.units, unit.expression = "" → unit.slope = 1

/-- Whether all that an attempt comes to is as it should be. -/
instance {β : Type} (outcome : Except Error β) (property : β → Prop) [DecidablePred property] :
    Decidable (∀ value, outcome = .ok value → property value) :=
  match outcome with
  | .error _ => isTrue fun _ impossible => nomatch impossible
  | .ok value => decidable_of_iff (property value)
      ⟨fun holds _ same => Except.ok.inj same ▸ holds, fun all => all value rfl⟩

instance (registry : Registry α) (text : String) : Decidable (registry.Ordinary text) :=
  decidable_of_iff
    (registry.stepLimit < UnitExpression.greatestExponent ∧
      (∀ terms, UnitExpression.split text = .ok terms → ∀ term ∈ terms,
        (registry.findExpression? (Text.trimmed term.token)).isSome = true) ∧
      (∀ factors, registry.tokenFactors text = .ok factors →
        ∀ factor ∈ factors, factor.entry.quantity.Plain) ∧
      ∀ ratio ∈ registry.ownerOf? Dimension.ratio,
        ratio.Plain ∧ ∀ unit ∈ ratio.units, unit.expression = "" → unit.slope = 1)
    ⟨fun ⟨limit, exact, plain, neutral⟩ => ⟨limit, exact, plain, neutral⟩,
      fun ⟨limit, exact, plain, neutral⟩ => ⟨limit, exact, plain, neutral⟩⟩

/-- Terms that are read back stand for factors in their order. -/
theorem factors_of_canonical {text : String} {factors : List (Factor α)}
    (ordinary : registry.Ordinary text) (resolved : registry.tokenFactors text = .ok factors)
    {terms : List UnitTerm} (legible : UnitExpression.Legible (UnitExpression.combine terms))
    (written : text = UnitExpression.format terms) :
    List.Forall₂ registry.Matches (UnitExpression.canonical terms) factors ∧
      Factor.above factors ++ Factor.below factors = factors := by
  have read := UnitExpression.split_format legible
  rw [← written] at read
  obtain ⟨taken, takes, resolved⟩ := exists_of_bind_eq_ok resolved
  obtain ⟨all, resolves, kept⟩ := exists_of_bind_eq_ok resolved
  rw [read] at takes
  cases takes
  obtain ⟨added, same, matching⟩ := resolveTerms_exact
    (fun _ impossible => absurd impossible List.not_mem_nil)
    (fun _ impossible => absurd impossible List.not_mem_nil)
    (UnitExpression.nodup_tokens_canonical terms)
    (fun term member => (legible term (UnitExpression.mem_canonical.1 member).1).1)
    (ordinary.exact _ read) resolves
  rw [List.nil_append] at same
  subst same
  have exponents := exponents_of_matches matching
  have ordered := inOrder_canonical terms
  rw [← exponents] at ordered
  have nonzero : ∀ factor ∈ all, decide (factor.exponent ≠ 0) = true := fun factor member =>
    decide_eq_true fun zero => ordered.1 (zero ▸ List.mem_map_of_mem member)
  rw [List.filter_eq_self.2 nonzero] at kept
  cases kept
  exact ⟨matching, filter_append_filter _ ordered⟩

/-- What leads is plain and adds at most one power. -/
theorem plain_leading {text : String} {factors : List (Factor α)} {leading : Choice α}
    (ordinary : registry.Ordinary text) (leads : registry.Leading factors leading) :
    leading.Plain ∧ leading.size ≤ 1 := by
  rcases leads with rfl | ⟨_, ratio, unit, owned, member, rfl⟩
  · exact ⟨fun _ impossible => absurd impossible List.not_mem_nil, Nat.zero_le _⟩
  · have plain := (ordinary.neutral ratio owned).1.units unit member
    refine ⟨fun part inside => ?_, by simp [Choice.size]⟩
    rw [List.mem_singleton.1 inside]
    exact plain

/-- A unit that leads without adding a term is one. -/
theorem slope_leading {text : String} {factors : List (Factor α)} {leading : Choice α}
    (ordinary : registry.Ordinary text) (leads : registry.Leading factors leading)
    (silent : leading.terms = []) : leading.slope = 1 := by
  rcases leads with rfl | ⟨_, ratio, unit, owned, member, rfl⟩
  · rfl
  · obtain ⟨plain, one⟩ := ordinary.neutral ratio owned
    rw [Choice.terms_cons] at silent
    rcases Choice.poweredTerms_plain (plain.units unit member) 1 with ⟨empty, _⟩ | ⟨_, single⟩
    · simp [Choice.slope, one unit member empty]
    · rw [single] at silent
      cases silent

/-- A unit with an ordinary text that is spelled from the factors of this text is what they
come to. -/
theorem slope_of_spells {text : String} {factors : List (Factor α)} {unit : MeasureUnit α}
    {leading choice : Choice α} (ordinary : registry.Ordinary text)
    (resolved : registry.tokenFactors text = .ok factors)
    (bounded : powers (Factor.above factors ++ Factor.below factors) ≤ registry.stepLimit)
    (leads : registry.Leading factors leading)
    (assigned : Assigned (·.exponent) (Factor.above factors ++ Factor.below factors) choice)
    (spells : unit.Spells (leading ++ choice)) (named : unit.expression = text) :
    Factor.above factors ++ Factor.below factors = factors ∧
      unit.slope = (chosen factors).slope ∧
      UnitExpression.product [(text, 1)] = UnitExpression.format (chosen factors).terms := by
  have plain := ordinary.plain factors resolved
  obtain ⟨leadingPlain, short⟩ := plain_leading ordinary leads
  have choicePlain := assigned.plain fun factor member => plain factor (by
    rcases List.mem_append.1 member with above | below
    · exact List.mem_of_mem_filter above
    · exact List.mem_of_mem_filter below)
  have size : choice.size = powers (Factor.above factors ++ Factor.below factors) :=
    assigned.size
  have limit := ordinary.limit
  have legible : UnitExpression.Legible
      (UnitExpression.combine (Choice.terms (leading ++ choice))) :=
    Choice.Plain.legible (Choice.plain_append.2 ⟨leadingPlain, choicePlain⟩)
      (by rw [Choice.size_append]; omega)
  have written : text = UnitExpression.format (Choice.terms (leading ++ choice)) := by
    rw [← named]
    exact spells.expression
  obtain ⟨matching, ordered⟩ := factors_of_canonical ordinary resolved legible written
  rw [ordered] at assigned
  have silent := terms_leading matching assigned choicePlain leadingPlain leads
  rw [Choice.terms_append, silent, List.nil_append] at matching legible written
  obtain ⟨rfl, same⟩ := choice_eq_chosen matching assigned plain
  refine ⟨ordered, ?_, ?_⟩
  · rw [spells.slope, Choice.slope_append, slope_leading ordinary leads silent, one_mul]
  · rw [written, UnitExpression.product, List.flatMap_singleton,
      UnitExpression.poweredTerms_format legible, same, UnitExpression.scaled_one]

/-- An ordinary text that has become a unit has the slope and the spelling of this
unit. -/
theorem slope_of_found
    (succeeds : registry.normalize expression = .ok (normalized, grown))
    (ordinary : registry.Ordinary (Text.trimmed expression))
    (missing : registry.findExpression? (Text.trimmed expression) = none)
    {entry : UnitEntry α}
    (found : grown.findExpression? (Text.trimmed expression) = some entry) :
    normalized.slope = entry.unit.slope ∧ normalized.userExpression =
      UnitExpression.product [(Text.trimmed expression, 1)] := by
  obtain ⟨factors, owner, unit, resolved, outlined, owned, _⟩ := normalize_eq_ok_iff.1 succeeds
  obtain ⟨dimension, combined, outlined⟩ := exists_of_bind_eq_ok outlined
  obtain ⟨plan, planned, outlined⟩ := exists_of_bind_eq_ok outlined
  obtain ⟨user, _, slope, _⟩ := Outline.mk.inj (Except.ok.inj outlined)
  rcases ownerOrDerived_eq_ok owned with ⟨_, rfl⟩ | ⟨unowned, made⟩
  · rw [missing] at found
    cases found
  · obtain ⟨rfl, _⟩ := synthesize_eq_ok (mem_of_factors resolved) unowned made
    rw [factors_of_none missing] at resolved
    obtain ⟨ofOwner, inside, named⟩ := findExpression?_append_of_none missing found
    have fits := (ConversionPlan.ofFactors_eq_ok planned).2
    obtain ⟨leading, choice, leads, assigned, spells⟩ := synthesize_spells unowned made
      (ordinary.plain factors resolved) (fun ratio owns => (ordinary.neutral ratio owns).1)
      (lt_of_le_of_lt fits ordinary.limit) inside
    obtain ⟨ordered, unitSlope, again⟩ :=
      slope_of_spells ordinary resolved fits leads assigned spells named
    constructor
    · rw [← slope, ConversionPlan.slope_ofFactors planned, ordered, unitSlope]
    · have chosenUnits := Choice.product_eq_format (chosen factors)
      rw [chosen, List.map_map] at chosenUnits
      rw [← user, again]
      exact chosenUnits

/-- A text is read alike before and after growth: one that has become a unit has no
offset, and the slope and the spelling of that unit, and any other one comes to the
same token by token. -/
structure ReadAlike (registry grown : Registry α) (text : String)
    (normalized : Normalized α) : Prop where
  asUnit : ∀ entry, registry.findExpression? text = none →
    grown.findExpression? text = some entry →
      normalized.intercept = 0 ∧ normalized.slope = entry.unit.slope ∧
        normalized.userExpression = UnitExpression.product [(text, 1)]
  byTokens : grown.findExpression? text = none →
    grown.tokenOutline text = registry.tokenOutline text

/-- Asking twice gives the same answer exactly if the text is read alike. -/
theorem normalize_again_iff_readAlike
    (succeeds : registry.normalize expression = .ok (normalized, grown)) :
    grown.normalize expression = .ok (normalized, grown) ↔
      registry.ReadAlike grown (Text.trimmed expression) normalized := by
  obtain ⟨factors, owner, unit, resolved, outlined, _⟩ := normalize_eq_ok_iff.1 succeeds
  have firstOutline (missing : registry.findExpression? (Text.trimmed expression) = none) :
      registry.tokenOutline (Text.trimmed expression) = .ok normalized.outline := by
    rw [factors_of_none missing] at resolved
    rw [tokenOutline, resolved]
    exact outlined
  constructor
  · intro again
    refine ⟨fun entry missing found => ?_, fun missing => ?_⟩
    · have second := normalize_again_of_unit succeeds missing found
      rw [again] at second
      have same := congrArg Prod.fst (Except.ok.inj second)
      have intercept := congrArg Normalized.intercept same
      have slope := congrArg Normalized.slope same
      have spelled := congrArg Normalized.userExpression same
      dsimp only at intercept slope spelled
      exact ⟨intercept, slope, spelled⟩
    · obtain ⟨factors, owner, unit, resolved, outlined, _⟩ := normalize_eq_ok_iff.1 again
      rw [firstOutline (missing_of_missing succeeds missing)]
      rw [factors_of_none missing] at resolved
      rw [tokenOutline, resolved]
      exact outlined
  · rintro ⟨asUnit, byTokens⟩
    cases missing : registry.findExpression? (Text.trimmed expression) with
    | some entry =>
        -- A text that is a unit already lets nothing grow.
        rcases grown_of_normalize succeeds with rfl | ⟨derived, rfl, unowned, _⟩
        · exact succeeds
        · rw [(missing_of_grown succeeds unowned).1] at missing
          cases missing
    | none =>
        cases found : grown.findExpression? (Text.trimmed expression) with
        | some entry =>
            obtain ⟨intercept, slope, spelled⟩ := asUnit entry missing found
            rw [normalize_again_of_unit succeeds missing found, ← slope, ← spelled,
              ← intercept]
        | none =>
            refine (normalize_grown_iff succeeds normalized.outline rfl).2 ?_
            rw [factors_of_none found]
            exact (byTokens found).trans (firstOutline missing)

/-- An ordinary text is read as before unless it has become a unit. -/
theorem readAlike_iff_of_ordinary
    (succeeds : registry.normalize expression = .ok (normalized, grown))
    (ordinary : registry.Ordinary (Text.trimmed expression)) :
    registry.ReadAlike grown (Text.trimmed expression) normalized ↔
      normalized.intercept = 0 ∨ grown.findExpression? (Text.trimmed expression) =
        registry.findExpression? (Text.trimmed expression) := by
  constructor
  · rintro ⟨asUnit, _⟩
    cases before : registry.findExpression? (Text.trimmed expression) with
    | some entry =>
        right
        rcases grown_of_normalize succeeds with rfl | ⟨derived, rfl, _⟩
        · exact before
        · exact findExpression?_append_of_some derived before
    | none =>
        cases after : grown.findExpression? (Text.trimmed expression) with
        | none => exact .inr rfl
        | some entry => exact .inl (asUnit entry before after).1
  · intro condition
    refine ⟨fun entry missing found => ?_, fun _ => tokenOutline_grown succeeds ordinary.exact⟩
    refine ⟨?_, slope_of_found succeeds ordinary missing found⟩
    rcases condition with none_left | same
    · exact none_left
    · rw [missing, found] at same
      cases same

/-- Asking twice gives the same answer exactly if the text is read alike.  For an
ordinary text this means that it has no offset or has not become a unit. -/
theorem normalize_again_iff
    (succeeds : registry.normalize expression = .ok (normalized, grown)) :
    (grown.normalize expression = .ok (normalized, grown) ↔
      registry.ReadAlike grown (Text.trimmed expression) normalized) ∧
    (registry.Ordinary (Text.trimmed expression) →
      (grown.normalize expression = .ok (normalized, grown) ↔
        normalized.intercept = 0 ∨ grown.findExpression? (Text.trimmed expression) =
          registry.findExpression? (Text.trimmed expression))) := by
  have outlines := normalize_again_iff_readAlike succeeds
  exact ⟨outlines, fun ordinary => outlines.trans (readAlike_iff_of_ordinary succeeds ordinary)⟩

/-- A document in which one unit has an offset. -/
def offsetDocument : Definitions ℚ where
  quantities :=
    [⟨"ratio", "r", .ratio, 0, [.proportional "" "ratio" 1]⟩,
      ⟨"length", "l", .length, 0, [.proportional "m" "meter" 1]⟩,
      ⟨"heat", "h", .currency, 0, [.proportional "K" "kelvin" 1,
        { MeasureUnit.proportional "degC" "celsius" 1 with intercept := 273 }]⟩]
  legacy := []

/-- A product with an offset loses the offset when it is asked for again. -/
theorem normalize_again_iff_offset :
    ∃ (registry grown : Registry ℚ) (normalized : Normalized ℚ),
      ofDefinitions offsetDocument {} = .ok registry ∧
      registry.normalize "degC*m" = .ok (normalized, grown) ∧
      normalized.intercept = 273 ∧ registry.Ordinary (Text.trimmed "degC*m") ∧
      grown.normalize "degC*m" ≠ .ok (normalized, grown) := by
  have evaluated : (do
      let registry ← ofDefinitions offsetDocument {}
      let (normalized, grown) ← registry.normalize "degC*m"
      Except.ok (normalized.intercept,
        (registry.findExpression? (Text.trimmed "degC*m")).isSome,
        (grown.findExpression? (Text.trimmed "degC*m")).isSome,
        decide (registry.Ordinary (Text.trimmed "degC*m")))).toOption =
      some (273, false, true, true) := by
    decide +kernel
  cases loaded : ofDefinitions offsetDocument {} with
  | error failure =>
      rw [loaded] at evaluated
      cases evaluated
  | ok registry =>
      cases answered : registry.normalize "degC*m" with
      | error failure =>
          simp only [loaded, answered, bind, Except.bind] at evaluated
          cases evaluated
      | ok answer =>
          obtain ⟨normalized, grown⟩ := answer
          simp only [loaded, answered, bind, Except.bind, Except.toOption,
            Option.some.injEq, Prod.mk.injEq, decide_eq_true_eq] at evaluated
          obtain ⟨offset, before, after, ordinary⟩ := evaluated
          refine ⟨registry, grown, normalized, rfl, answered, offset, ordinary, fun again => ?_⟩
          rcases ((normalize_again_iff answered).2 ordinary).1 again with none_left | same
          · rw [offset] at none_left
            exact absurd none_left (by norm_num)
          · rw [← same, after] at before
            cases before

end Registry

end Metrology
