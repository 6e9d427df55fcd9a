import Mathlib.Tactic
import Metrology.Normalization
import Metrology.Proofs.Dimension

/-!
# Growth of a registry

A registry grows by one quantity at its end, whose dimension had no owner.  What
was found before is found again, and all units of the new quantity are
proportional.
-/

namespace Metrology

theorem exists_of_bind_eq_ok {ε β γ : Type} {attempt : Except ε β} {next : β → Except ε γ}
    {result : γ} (made : attempt >>= next = .ok result) :
    ∃ value, attempt = .ok value ∧ next value = .ok result := by
  cases attempt with
  | error failure => cases made
  | ok value => exact ⟨value, rfl, made⟩

theorem exists_of_map_eq_ok {ε β γ : Type} {change : β → γ} {outcome : Except ε β} {result : γ}
    (made : outcome.map change = .ok result) :
    ∃ value, outcome = .ok value ∧ change value = result := by
  cases outcome with
  | error failure => cases made
  | ok value => exact ⟨value, rfl, Except.ok.inj made⟩

theorem eq_ok_of_toOption {ε β : Type} {outcome : Except ε β} {value : β}
    (kept : outcome.toOption = some value) : outcome = .ok value := by
  cases outcome with
  | error failure => cases kept
  | ok result => exact congrArg Except.ok (Option.some.inj kept)

/-! ## Derived units -/

namespace Quantity

variable {α : Type} [Scalar α]

/-- No unit has an offset. -/
def Proportional (quantity : Quantity α) : Prop :=
  ∀ unit ∈ quantity.units, unit.intercept = 0

omit [Scalar α] in
theorem mem_of_mem_distinctUnits {seen : List String} {units : List (MeasureUnit α)}
    {unit : MeasureUnit α} (member : unit ∈ distinctUnits seen units) : unit ∈ units := by
  induction units generalizing seen with
  | nil => cases member
  | cons first rest ih =>
      rw [distinctUnits] at member
      split at member
      · exact List.mem_cons_of_mem _ (ih member)
      · rcases List.mem_cons.1 member with rfl | later
        · exact List.mem_cons_self
        · exact List.mem_cons_of_mem _ (ih later)

omit [Scalar α] in
/-- Every derived unit combines one unit of each side. -/
theorem exists_of_mem_crossUnits
    {combine : MeasureUnit α → MeasureUnit α → MeasureUnit α}
    {left right : List (MeasureUnit α)} {unit : MeasureUnit α}
    (member : unit ∈ distinctUnits [] (crossUnits combine left right)) :
    ∃ first ∈ left, ∃ second ∈ right, combine first second = unit := by
  obtain ⟨first, inLeft, row⟩ := List.mem_flatMap.1 (mem_of_mem_distinctUnits member)
  obtain ⟨second, inRight, made⟩ := List.mem_map.1 row
  exact ⟨first, inLeft, second, inRight, made⟩

theorem exists_of_mem_product {left right result : Quantity α}
    (made : left.product right = .ok result) {unit : MeasureUnit α}
    (member : unit ∈ result.units) :
    ∃ first ∈ left.units, ∃ second ∈ right.units, first.multiply second = unit := by
  obtain ⟨sum, _, made⟩ := exists_of_bind_eq_ok made
  cases made
  exact exists_of_mem_crossUnits member

theorem exists_of_mem_quotient {left right result : Quantity α}
    (made : left.quotient right = .ok result) {unit : MeasureUnit α}
    (member : unit ∈ result.units) :
    ∃ first ∈ left.units, ∃ second ∈ right.units, first.divide second = unit := by
  obtain ⟨difference, _, made⟩ := exists_of_bind_eq_ok made
  cases made
  exact exists_of_mem_crossUnits member

theorem proportional_of_product {left right result : Quantity α}
    (made : left.product right = .ok result) : result.Proportional := by
  intro unit member
  obtain ⟨first, _, second, _, rfl⟩ := exists_of_mem_product made member
  rfl

theorem proportional_of_quotient {left right result : Quantity α}
    (made : left.quotient right = .ok result) : result.Proportional := by
  intro unit member
  obtain ⟨first, _, second, _, rfl⟩ := exists_of_mem_quotient made member
  rfl

theorem proportional_of_power {quantity result : Quantity α} {exponent : Int}
    (several : exponent ≠ 1) (made : quantity.power exponent = .ok result) :
    result.Proportional := by
  rw [power, if_neg several] at made
  obtain ⟨dimension, _, made⟩ := exists_of_bind_eq_ok made
  cases made
  intro unit member
  obtain ⟨original, _, rfl⟩ := List.mem_map.1 member
  exact original.intercept_power several

end Quantity

namespace Registry

variable {α : Type} {registry : Registry α}

/-! ## Entries -/

theorem mem_entries_iff {entry : UnitEntry α} :
    entry ∈ registry.entries ↔
      registry.quantities[entry.quantityIndex]? = some entry.quantity ∧
        entry.quantity.units[entry.unitIndex]? = some entry.unit := by
  simp only [entries, List.mem_flatMap, List.mem_map, Prod.exists,
    List.mk_mem_zipIdx_iff_getElem?]
  constructor
  · rintro ⟨quantity, quantityIndex, place, unit, unitIndex, inside, rfl⟩
    exact ⟨place, inside⟩
  · rintro ⟨place, inside⟩
    exact ⟨entry.quantity, entry.quantityIndex, place, entry.unit, entry.unitIndex, inside,
      rfl⟩

theorem quantity_mem_of_entry {entry : UnitEntry α} (member : entry ∈ registry.entries) :
    entry.quantity ∈ registry.quantities :=
  List.mem_of_getElem? (mem_entries_iff.1 member).1

theorem unit_mem_of_entry {entry : UnitEntry α} (member : entry ∈ registry.entries) :
    entry.unit ∈ entry.quantity.units :=
  List.mem_of_getElem? (mem_entries_iff.1 member).2

/-- The entries of the new quantity follow those that were there. -/
theorem entries_append (quantity : Quantity α) :
    (registry.append quantity).entries =
      registry.entries ++ quantity.units.zipIdx.map fun (unit, unitIndex) =>
        { quantityIndex := registry.size, unitIndex, quantity, unit } := by
  simp only [entries, append, List.zipIdx_append, List.flatMap_append, size]
  simp

/-! ## Look-ups -/

theorem findExpression?_append_of_some {expression : String} {entry : UnitEntry α}
    (quantity : Quantity α) (found : registry.findExpression? expression = some entry) :
    (registry.append quantity).findExpression? expression = some entry := by
  unfold findExpression? at found ⊢
  rw [entries_append, List.find?_append, found, Option.some_or]

/-- What is found only after growth is a unit of the new quantity. -/
theorem findExpression?_append_of_none {expression : String} {entry : UnitEntry α}
    {quantity : Quantity α} (missing : registry.findExpression? expression = none)
    (found : (registry.append quantity).findExpression? expression = some entry) :
    entry.quantity = quantity ∧ entry.unit ∈ quantity.units ∧
      entry.expression = expression := by
  unfold findExpression? at missing found
  rw [entries_append, List.find?_append, missing, Option.none_or] at found
  have named := List.find?_some found
  obtain ⟨⟨unit, unitIndex⟩, member, rfl⟩ :=
    List.mem_map.1 (List.mem_of_find?_eq_some found)
  exact ⟨rfl, List.fst_mem_of_mem_zipIdx member, beq_iff_eq.1 named⟩

theorem mem_of_findExpression? {expression : String} {entry : UnitEntry α}
    (found : registry.findExpression? expression = some entry) :
    entry ∈ registry.entries :=
  List.mem_of_find?_eq_some found

/-- What is found by an expression is what some unit has as its expression. -/
theorem findExpression?_isSome_iff {expression : String} :
    (registry.findExpression? expression).isSome = true ↔
      ∃ quantity ∈ registry.quantities, ∃ unit ∈ quantity.units,
        unit.expression = expression := by
  rw [findExpression?, List.find?_isSome]
  constructor
  · rintro ⟨entry, member, carries⟩
    obtain ⟨place, inside⟩ := mem_entries_iff.1 member
    exact ⟨entry.quantity, List.mem_of_getElem? place, entry.unit,
      List.mem_of_getElem? inside, beq_iff_eq.1 carries⟩
  · rintro ⟨quantity, member, unit, inside, carries⟩
    obtain ⟨quantityIndex, place⟩ := List.mem_iff_getElem?.1 member
    obtain ⟨unitIndex, within⟩ := List.mem_iff_getElem?.1 inside
    exact ⟨⟨quantityIndex, unitIndex, quantity, unit⟩, mem_entries_iff.2 ⟨place, within⟩,
      beq_iff_eq.2 carries⟩

theorem mem_of_findUnit {token : String} {entry : UnitEntry α}
    (found : registry.findUnit token = .ok entry) : entry ∈ registry.entries := by
  unfold findUnit at found
  dsimp only at found
  split at found
  · next exact_match =>
      cases found
      exact mem_of_findExpression? exact_match
  · split at found
    · next displayed =>
        cases found
        exact List.mem_of_find?_eq_some displayed
    · split at found
      · next former =>
          cases found
          obtain ⟨present, _, present_found⟩ := Option.bind_eq_some_iff.1 former
          exact mem_of_findExpression? present_found
      · split at found
        · cases found
        · next only =>
            cases found
            have member : entry ∈ registry.looseMatches (Text.trimmed token) := by
              rw [only]
              exact List.mem_singleton_self entry
            exact List.mem_of_mem_filter member
        · cases found

theorem findUnit_of_findExpression? {token : String} {entry : UnitEntry α}
    (found : registry.findExpression? (Text.trimmed token) = some entry) :
    registry.findUnit token = .ok entry := by
  simp only [findUnit, found]

/-- Tokens that are expressions of units keep their units. -/
theorem findUnit_append_of_isSome {token : String} (quantity : Quantity α)
    (exact : (registry.findExpression? (Text.trimmed token)).isSome = true) :
    (registry.append quantity).findUnit token = registry.findUnit token := by
  obtain ⟨entry, found⟩ := Option.isSome_iff_exists.1 exact
  rw [findUnit_of_findExpression? found,
    findUnit_of_findExpression? (findExpression?_append_of_some quantity found)]

theorem ownerOf?_isSome_of_mem {quantity : Quantity α}
    (member : quantity ∈ registry.quantities) :
    (registry.ownerOf? quantity.dimension).isSome = true := by
  rw [ownerOf?, List.find?_isSome]
  exact ⟨quantity, member, beq_self_eq_true _⟩

theorem dimension_ne_of_unowned {dimension : Dimension} {quantity : Quantity α}
    (unowned : registry.ownerOf? dimension = none)
    (member : quantity ∈ registry.quantities) : quantity.dimension ≠ dimension := by
  rintro rfl
  have isSome := ownerOf?_isSome_of_mem member
  rw [unowned] at isSome
  cases isSome

theorem ownerOf?_append_of_none {quantity : Quantity α}
    (missing : registry.ownerOf? quantity.dimension = none) :
    (registry.append quantity).ownerOf? quantity.dimension = some quantity := by
  unfold ownerOf? at missing ⊢
  rw [append, List.find?_append, missing]
  simp

/-! ## Factors -/

theorem mem_addPower {entry : UnitEntry α} {exponent : Int} {factors : List (Factor α)}
    {factor : Factor α} (member : factor ∈ Factor.addPower entry exponent factors) :
    factor.entry = entry ∨ ∃ earlier ∈ factors, factor.entry = earlier.entry := by
  induction factors with
  | nil =>
      left
      rw [List.mem_singleton.1 member]
  | cons first rest ih =>
      rw [Factor.addPower] at member
      split at member
      · rcases List.mem_cons.1 member with rfl | later
        · exact .inr ⟨first, List.mem_cons_self, rfl⟩
        · exact .inr ⟨factor, List.mem_cons_of_mem _ later, rfl⟩
      · rcases List.mem_cons.1 member with rfl | later
        · exact .inr ⟨factor, List.mem_cons_self, rfl⟩
        · rcases ih later with same | ⟨earlier, inside, same⟩
          · exact .inl same
          · exact .inr ⟨earlier, List.mem_cons_of_mem _ inside, same⟩

theorem mem_of_resolveTerms {terms : List UnitTerm} {factors resolved : List (Factor α)}
    (known : ∀ factor ∈ factors, factor.entry ∈ registry.entries)
    (resolves : registry.resolveTerms factors terms = .ok resolved) :
    ∀ factor ∈ resolved, factor.entry ∈ registry.entries := by
  induction terms generalizing factors with
  | nil =>
      cases resolves
      exact known
  | cons term rest ih =>
      rw [resolveTerms] at resolves
      obtain ⟨entry, found, resolves⟩ := exists_of_bind_eq_ok resolves
      refine ih ?_ resolves
      intro factor member
      rcases mem_addPower member with same | ⟨earlier, inside, same⟩
      · rw [same]
        exact mem_of_findUnit found
      · rw [same]
        exact known earlier inside

theorem resolveTerms_congr {other : Registry α} {terms : List UnitTerm}
    (same : ∀ term ∈ terms, other.findUnit term.token = registry.findUnit term.token)
    (factors : List (Factor α)) :
    other.resolveTerms factors terms = registry.resolveTerms factors terms := by
  induction terms generalizing factors with
  | nil => rfl
  | cons term rest ih =>
      have later := ih fun term member => same term (List.mem_cons_of_mem _ member)
      rw [resolveTerms, resolveTerms, same term List.mem_cons_self]
      exact congrArg _ (funext fun entry => later _)

/-! ## Synthesis -/

variable [Scalar α]

theorem multiplyOnto_some {quantity : Quantity α} {factor : Factor α}
    {next : Option (Quantity α)} (made : multiplyOnto (some quantity) factor = .ok next) :
    ∃ product, next = some product ∧ product.Proportional := by
  obtain ⟨powered, _, made⟩ := exists_of_bind_eq_ok made
  obtain ⟨product, multiplied, made⟩ := exists_of_bind_eq_ok made
  cases made
  exact ⟨product, rfl, Quantity.proportional_of_product multiplied⟩

theorem multiplyOnto_none {factor : Factor α} {next : Option (Quantity α)}
    (made : multiplyOnto none factor = .ok next) :
    ∃ powered, next = some powered ∧
      (powered.Proportional ∨ powered = factor.entry.quantity) := by
  obtain ⟨powered, raised, made⟩ := exists_of_bind_eq_ok made
  cases made
  refine ⟨powered, rfl, ?_⟩
  by_cases single : (factor.exponent.natAbs : Int) = 1
  · right
    rw [Quantity.power, if_pos single] at raised
    cases raised
    rfl
  · exact .inl (Quantity.proportional_of_power single raised)

theorem foldlM_multiplyOnto {quantity : Quantity α} {factors : List (Factor α)}
    {last : Option (Quantity α)}
    (made : factors.foldlM multiplyOnto (some quantity) = .ok last) :
    ∃ product, last = some product ∧ (product.Proportional ∨ product = quantity) := by
  induction factors generalizing quantity with
  | nil =>
      cases made
      exact ⟨quantity, rfl, .inr rfl⟩
  | cons factor rest ih =>
      obtain ⟨next, stepped, made⟩ := exists_of_bind_eq_ok made
      obtain ⟨product, rfl, proportional⟩ := multiplyOnto_some stepped
      obtain ⟨final, rfl, either⟩ := ih made
      rcases either with finalProportional | rfl
      · exact ⟨final, rfl, .inl finalProportional⟩
      · exact ⟨final, rfl, .inl proportional⟩

/-- A product of quantities is proportional unless it is one of them. -/
theorem productOf_eq_ok {factors : List (Factor α)} {last : Option (Quantity α)}
    (made : productOf factors = .ok last) :
    last = none ∨ ∃ product, last = some product ∧
      (product.Proportional ∨ ∃ factor ∈ factors, product = factor.entry.quantity) := by
  cases factors with
  | nil =>
      cases made
      exact .inl rfl
  | cons factor rest =>
      right
      obtain ⟨next, stepped, made⟩ := exists_of_bind_eq_ok made
      obtain ⟨powered, rfl, either⟩ := multiplyOnto_none stepped
      obtain ⟨product, rfl, kept⟩ := foldlM_multiplyOnto made
      refine ⟨product, rfl, ?_⟩
      rcases kept with proportional | rfl
      · exact .inl proportional
      · exact either.imp_right fun same => ⟨factor, List.mem_cons_self, same⟩

theorem registerDerived_eq_ok {quantity owner : Quantity α} {grown : Registry α}
    (unowned : registry.ownerOf? quantity.dimension = none)
    (made : registry.registerDerived quantity = .ok (owner, grown)) :
    owner = quantity ∧ grown = registry.append quantity ∧
      quantity.siUnit?.isSome = true := by
  rw [registerDerived, unowned] at made
  dsimp only at made
  split at made
  · cases made
  · split at made
    · cases made
    · next withSI =>
        cases made
        exact ⟨rfl, rfl, by simpa [Option.isSome_iff_ne_none] using withSI⟩

/-- What is derived from a numerator is appended if its dimension has no owner. -/
theorem derive_eq_ok {numerator owner : Quantity α} {below : Option (Quantity α)}
    {dimension : Dimension} {failure : Quantity α → Error} {grown : Registry α}
    (unowned : registry.ownerOf? dimension = none)
    (made : (do
      let derived ← numerator.derive below
      if derived.dimension ≠ dimension then .error (failure derived)
      else registry.registerDerived derived) = .ok (owner, grown)) :
    numerator.derive below = .ok owner ∧ grown = registry.append owner ∧
      owner.dimension = dimension ∧ owner.siUnit?.isSome = true := by
  obtain ⟨derived, derives, made⟩ := exists_of_bind_eq_ok made
  split at made
  · cases made
  · next same =>
      have same := not_ne_iff.1 same
      obtain ⟨rfl, rfl, withSI⟩ := registerDerived_eq_ok (by rwa [same]) made
      exact ⟨derives, rfl, same, withSI⟩

omit [Scalar α] in
theorem neutralQuantity_eq_ok_iff {ratio : Quantity α} :
    registry.neutralQuantity = .ok ratio ↔ registry.ownerOf? Dimension.ratio = some ratio := by
  unfold neutralQuantity
  split
  · next found => rw [found, Except.ok.injEq, Option.some.injEq]
  · next missing =>
      rw [missing]
      constructor
      · intro impossible
        cases impossible
      · intro impossible
        cases impossible

/-- What is derived for a dimension without an owner is appended.  It is the product above the
slash, or without one the quantity that has no dimension, divided by the product below it. -/
theorem exists_of_synthesize {factors : List (Factor α)} {dimension : Dimension}
    {expression : String} {owner : Quantity α} {grown : Registry α}
    (unowned : registry.ownerOf? dimension = none)
    (made : registry.synthesize factors dimension expression = .ok (owner, grown)) :
    ∃ above below numerator, productOf (Factor.above factors) = .ok above ∧
      productOf (Factor.below factors) = .ok below ∧
      (above = some numerator ∨
        above = none ∧ registry.ownerOf? Dimension.ratio = some numerator) ∧
      numerator.derive below = .ok owner ∧ grown = registry.append owner ∧
      owner.dimension = dimension ∧ owner.siUnit?.isSome = true := by
  unfold synthesize at made
  split at made
  · cases made
  · obtain ⟨above, aboveMade, made⟩ := exists_of_bind_eq_ok made
    obtain ⟨below, belowMade, made⟩ := exists_of_bind_eq_ok made
    cases above with
    | none =>
        obtain ⟨neutral, isNeutral, made⟩ := exists_of_bind_eq_ok made
        exact ⟨none, below, neutral, aboveMade, belowMade,
          .inr ⟨rfl, neutralQuantity_eq_ok_iff.1 isNeutral⟩, derive_eq_ok unowned made⟩
    | some numerator =>
        exact ⟨some numerator, below, numerator, aboveMade, belowMade, .inl rfl,
          derive_eq_ok unowned made⟩

/-- What is derived for a dimension without an owner is appended, has the
dimension and an SI unit, and is proportional. -/
theorem synthesize_eq_ok {factors : List (Factor α)} {dimension : Dimension}
    {expression : String} {owner : Quantity α} {grown : Registry α}
    (known : ∀ factor ∈ factors, factor.entry ∈ registry.entries)
    (unowned : registry.ownerOf? dimension = none)
    (made : registry.synthesize factors dimension expression = .ok (owner, grown)) :
    grown = registry.append owner ∧ owner.dimension = dimension ∧
      owner.siUnit?.isSome = true ∧ owner.Proportional := by
  obtain ⟨above, below, numerator, aboveMade, _, stands, derives, appended, same, withSI⟩ :=
    exists_of_synthesize unowned made
  refine ⟨appended, same, withSI, ?_⟩
  have either : numerator.Proportional ∨ numerator ∈ registry.quantities := by
    rcases stands with rfl | ⟨_, owns⟩
    · rcases productOf_eq_ok aboveMade with impossible | ⟨product, isProduct, either⟩
      · cases impossible
      · cases isProduct
        refine either.imp_right ?_
        rintro ⟨factor, member, rfl⟩
        exact quantity_mem_of_entry (known factor (List.mem_of_mem_filter member))
    · exact .inr (List.mem_of_find?_eq_some owns)
  cases below with
  | some denominator => exact Quantity.proportional_of_quotient derives
  | none =>
      cases derives
      rcases either with proportional | member
      · exact proportional
      · exact (dimension_ne_of_unowned unowned member same).elim

/-- The owner of a dimension was there, or there was none and it is derived. -/
theorem ownerOrDerived_eq_ok {factors : List (Factor α)} {dimension : Dimension}
    {expression : String} {owner : Quantity α} {grown : Registry α}
    (owned : registry.ownerOrDerived factors dimension expression = .ok (owner, grown)) :
    registry.ownerOf? dimension = some owner ∧ grown = registry ∨
      registry.ownerOf? dimension = none ∧
        registry.synthesize factors dimension expression = .ok (owner, grown) := by
  unfold ownerOrDerived at owned
  split at owned
  · next found =>
      cases owned
      exact .inl ⟨found, rfl⟩
  · next unowned => exact .inr ⟨unowned, owned⟩

end Registry

end Metrology
