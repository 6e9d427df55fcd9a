import Metrology.Proofs.Converting

/-!
# Shadowed units

Within one quantity of a document no expression is repeated, but two quantities may have
units with one expression.  Look-ups then find the unit of the earlier quantity, and a
value that is written in the other unit is taken for one of the earlier quantity.
-/

namespace Metrology.Registry

variable {α : Type}

/-! ## Finding units by their own expressions -/

/-- An earlier quantity has a unit with the same expression. -/
def Shadowed (registry : Registry α) (entry : UnitEntry α) : Prop :=
  ∃ earlier ∈ registry.entries,
    earlier.expression = entry.expression ∧ earlier.quantityIndex < entry.quantityIndex

section Finding

variable {registry : Registry α} {entry other : UnitEntry α}

/-- Two units of one quantity with one expression are the same, if the quantity has
distinct expressions. -/
theorem eq_of_sameQuantity
    (distinct : ∀ quantity ∈ registry.quantities, (quantity.units.map (·.expression)).Nodup)
    (member : entry ∈ registry.entries) (otherMember : other ∈ registry.entries)
    (sameIndex : other.quantityIndex = entry.quantityIndex)
    (sameExpression : other.expression = entry.expression) : other = entry := by
  obtain ⟨place, inside⟩ := mem_entries_iff.1 member
  obtain ⟨otherPlace, otherInside⟩ := mem_entries_iff.1 otherMember
  rw [sameIndex, place] at otherPlace
  have sameQuantity : entry.quantity = other.quantity := Option.some.inj otherPlace
  rw [← sameQuantity] at otherInside
  have named := distinct _ (List.mem_of_getElem? place)
  have unitIndex : other.unitIndex = entry.unitIndex := by
    refine (List.getElem?_inj (l := entry.quantity.units.map (·.expression)) ?_ named).1 ?_
    · rw [List.length_map]
      exact (List.getElem?_eq_some_iff.1 otherInside).1
    · rw [List.getElem?_map, List.getElem?_map, otherInside, inside]
      exact congrArg some sameExpression
  rw [unitIndex, inside] at otherInside
  have sameUnit : entry.unit = other.unit := Option.some.inj otherInside
  cases entry
  cases other
  dsimp only at sameIndex sameQuantity unitIndex sameUnit
  rw [sameIndex, sameQuantity, unitIndex, sameUnit]

/-- A unit is found by its own expression exactly when it is not shadowed. -/
theorem findExpression?_self_iff
    (distinct : ∀ quantity ∈ registry.quantities, (quantity.units.map (·.expression)).Nodup)
    (member : entry ∈ registry.entries) :
    registry.findExpression? entry.expression = some entry ↔ ¬registry.Shadowed entry := by
  rw [findExpression?_eq_some_iff]
  constructor
  · rintro first ⟨earlier, registered, same, before⟩
    rcases first.first earlier registered same with rfl | later
    · exact lt_irrefl _ before
    · unfold UnitEntry.Precedes at later
      omega
  · intro unshadowed
    refine ⟨member, rfl, fun other registered same => ?_⟩
    rcases lt_trichotomy other.quantityIndex entry.quantityIndex with before | here | after
    · exact absurd ⟨other, registered, same, before⟩ unshadowed
    · exact .inl (eq_of_sameQuantity distinct member registered here same)
    · exact .inr (.inl after)

/-- Whatever is found by the expression of a unit, is the unit or shadows it. -/
theorem exists_findExpression?_self
    (distinct : ∀ quantity ∈ registry.quantities, (quantity.units.map (·.expression)).Nodup)
    (member : entry ∈ registry.entries) :
    ∃ found, registry.findExpression? entry.expression = some found ∧
      (found = entry ∨ found.expression = entry.expression ∧
        found.quantityIndex < entry.quantityIndex) := by
  have isSome : (registry.findExpression? entry.expression).isSome = true :=
    List.find?_isSome.2 ⟨entry, member, beq_self_eq_true _⟩
  obtain ⟨found, search⟩ := Option.isSome_iff_exists.1 isSome
  have first := isFirst_of_findExpression? search
  refine ⟨found, search, ?_⟩
  rcases first.first entry member rfl with same | before | ⟨sameIndex, _⟩
  · exact .inl same.symm
  · exact .inr ⟨first.carries, before⟩
  · exact .inl (eq_of_sameQuantity distinct member first.registered sameIndex first.carries)

end Finding

/-! ## Values written in units -/

section Values

variable [Scalar α] {registry : Registry α}

/-- Of two units with one dimension neither belongs to an earlier quantity. -/
theorem quantityIndex_eq_of_dimension (formed : registry.WellFormed) {entry other : UnitEntry α}
    (member : entry ∈ registry.entries) (otherMember : other ∈ registry.entries)
    (same : other.dimension = entry.dimension) : other.quantityIndex = entry.quantityIndex := by
  have place := (mem_entries_iff.1 member).1
  have otherPlace := (mem_entries_iff.1 otherMember).1
  refine (List.getElem?_inj (l := registry.quantities.map (·.dimension)) ?_ formed.distinct).1 ?_
  · rw [List.length_map]
    exact (List.getElem?_eq_some_iff.1 otherPlace).1
  · rw [List.getElem?_map, List.getElem?_map, place, otherPlace]
    exact congrArg some same

/-- A value of an expression that is a unit gets the dimension of that unit. -/
theorem start_ofUnit_of_findExpression? (formed : registry.WellFormed)
    (positive : 1 ≤ registry.stepLimit) {expression : String} {entry : UnitEntry α}
    (found : registry.findExpression? (Text.trimmed expression) = some entry)
    (filled : (Text.trimmed expression).isEmpty = false) (value : α) :
    ∃ amount, (Amount.ofUnit value expression).start registry = (.ok amount, registry) ∧
      amount.dimension = entry.dimension := by
  have registered := quantity_mem_of_entry (mem_of_findExpression? found)
  obtain ⟨owner, owned⟩ := Option.isSome_iff_exists.1 (ownerOf?_isSome_of_mem registered)
  obtain ⟨unit, siUnit⟩ := Option.isSome_iff_exists.1
    (formed.withSI owner (List.mem_of_find?_eq_some owned))
  have outlined : outlineOf registry.stepLimit [⟨entry, 1⟩] =
      .ok ⟨UnitExpression.product [(entry.expression, 1)], entry.dimension,
        (ConversionPlan.affine ⟨[⟨entry.unit.slope, entry.unit.intercept, false⟩]⟩).1,
        (ConversionPlan.affine ⟨[⟨entry.unit.slope, entry.unit.intercept, false⟩]⟩).2⟩ := by
    rw [outlineOf, dimension_single, ofFactors_single positive (formed.withSI _ registered)]
    rfl
  have made := normalize_of_owned (factors_of_findExpression? found filled) outlined owned siUnit
  exact ⟨_, start_ofUnit_of_ok made value, rfl⟩

end Values

/-- Whether an expression is read as it stands: it is not blank and has no blanks
around it. -/
def Verbatim (expression : String) : Prop :=
  Text.trimmed expression = expression ∧ expression ≠ ""

/-- A unit of a document is found by its expression exactly when no earlier quantity has a unit
with the same expression.  Under the same condition values that are written in it get the
dimension of its quantity, as long as the expression is read as it stands.  Otherwise a unit of
such a quantity stands for it in both. -/
theorem findExpression?_loaded [Scalar α] {definitions : Definitions α} {settings : Settings}
    {start : Registry α} (loaded : ofDefinitions definitions settings = .ok start)
    {entry : UnitEntry α} (member : entry ∈ start.entries) :
    (start.findExpression? entry.expression = some entry ↔ ¬start.Shadowed entry) ∧
      ∃ found, start.findExpression? entry.expression = some found ∧
        (found = entry ∨ found.expression = entry.expression ∧
          found.quantityIndex < entry.quantityIndex) ∧
        (Verbatim entry.expression → ∀ value, ∃ amount,
          (Amount.ofUnit value entry.expression).start start = (.ok amount, start) ∧
            amount.dimension = found.dimension ∧
            (amount.dimension = entry.dimension ↔ ¬start.Shadowed entry)) := by
  have formed := wellFormed_of_loaded loaded
  have distinct : ∀ quantity ∈ start.quantities,
      (quantity.units.map (·.expression)).Nodup :=
    fun quantity present => (soundUnits_of_loaded loaded quantity present).distinct
  have self := findExpression?_self_iff distinct member
  obtain ⟨found, search, which⟩ := exists_findExpression?_self distinct member
  refine ⟨self, found, search, which, ?_⟩
  rintro ⟨trimmed, filled⟩ value
  have positive : 1 ≤ start.stepLimit := by
    rw [(extends_of_loaded loaded).stepLimit]
    exact le_max_left 1 settings.stepLimit
  rw [← trimmed] at search
  obtain ⟨amount, runs, dimension⟩ := start_ofUnit_of_findExpression? formed positive search
    (by rwa [trimmed, ← Bool.not_eq_true, String.isEmpty_iff]) value
  rw [trimmed] at search
  refine ⟨amount, runs, dimension, ?_⟩
  rw [dimension]
  constructor
  · intro same
    rcases which with rfl | ⟨_, before⟩
    · exact self.1 search
    · exact absurd (quantityIndex_eq_of_dimension formed member (mem_of_findExpression? search)
        same) before.ne
  · intro unshadowed
    rw [self.2 unshadowed] at search
    cases search
    rfl

/-- Two quantities with a unit of the same expression. -/
def sharedDocument : Definitions ℚ where
  quantities :=
    [⟨"mass", "m", .mass, 0, [.proportional "x" "first" 1]⟩,
      ⟨"length", "l", .length, 0, [.proportional "x" "second" 1]⟩]
  legacy := []

/-- The second unit is not found, and a value that is written in it is no length. -/
theorem findExpression?_loaded_shared :
    ∃ start : Registry ℚ, ofDefinitions sharedDocument {} = .ok start ∧
      ∃ entry ∈ start.entries, entry.unit.name = "second" ∧ entry.dimension = .length ∧
        start.findExpression? entry.expression ≠ some entry ∧
        ∃ amount, (Amount.ofUnit 3 entry.expression).start start = (.ok amount, start) ∧
          amount.dimension ≠ .length := by
  have evaluated : (ofDefinitions sharedDocument {}).toOption.map (fun start =>
      (start.entries[0]?.map fun entry : UnitEntry ℚ => (entry.quantityIndex, entry.expression),
        start.entries[1]?.map fun entry : UnitEntry ℚ =>
          (entry.quantityIndex, entry.expression, entry.unit.name, entry.dimension))) =
      some (some (0, "x"), some (1, "x", "second", Dimension.length)) := by
    decide +kernel
  cases loaded : ofDefinitions sharedDocument {} with
  | error failure =>
      rw [loaded] at evaluated
      cases evaluated
  | ok start =>
      rw [loaded] at evaluated
      simp only [Except.toOption, Option.map_some, Option.some.injEq, Prod.mk.injEq,
        Option.map_eq_some_iff] at evaluated
      obtain ⟨⟨first, here, firstIndex, firstText⟩, second, there, index, text, named,
        dimension⟩ := evaluated
      have member := List.mem_of_getElem? there
      have shadowed : start.Shadowed second :=
        ⟨first, List.mem_of_getElem? here, firstText.trans text.symm, by omega⟩
      obtain ⟨self, found, _, _, values⟩ := findExpression?_loaded loaded member
      have verbatim : Verbatim second.expression := by
        rw [text]
        exact ⟨by decide +kernel, by decide⟩
      obtain ⟨amount, runs, _, measured⟩ := values verbatim 3
      refine ⟨start, rfl, second, member, named, dimension, fun same => self.1 same shadowed,
        amount, runs, fun length => measured.1 (length.trans dimension.symm) shadowed⟩

end Metrology.Registry
