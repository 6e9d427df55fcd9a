import Metrology.Proofs.Dimension
import Metrology.Proofs.Exact
import Metrology.Proofs.Growth

/-!
# Crossed quantities

A product or a quotient of two quantities lists the combinations of all their units, row by row and
each expression once.  The preferred units combine to the preferred one, and the neighbours that a
unit has on the left lead to units of the result.
-/

namespace Metrology

namespace Quantity

open Dimension (InRange)

variable {α : Type}

/-! ## Combinations row by row -/

/-- A list with a row for each unit on the left and in it a column for each unit on the right. -/
structure RowMajor (combine : MeasureUnit α → MeasureUnit α → MeasureUnit α)
    (left right crossed : List (MeasureUnit α)) : Prop where
  length : crossed.length = left.length * right.length
  place : ∀ {row column : Nat} {first second : MeasureUnit α}, left[row]? = some first →
    right[column]? = some second →
    crossed[row * right.length + column]? = some (combine first second)

theorem RowMajor.mem {combine : MeasureUnit α → MeasureUnit α → MeasureUnit α}
    {left right crossed : List (MeasureUnit α)} (rows : RowMajor combine left right crossed)
    {first second : MeasureUnit α} (inLeft : first ∈ left) (inRight : second ∈ right) :
    combine first second ∈ crossed := by
  obtain ⟨row, here⟩ := List.mem_iff_getElem?.1 inLeft
  obtain ⟨column, there⟩ := List.mem_iff_getElem?.1 inRight
  exact List.mem_of_getElem? (rows.place here there)

theorem rowMajor_crossUnits (combine : MeasureUnit α → MeasureUnit α → MeasureUnit α)
    (left right : List (MeasureUnit α)) :
    RowMajor combine left right (crossUnits combine left right) := by
  refine ⟨length_crossUnits combine left right, ?_⟩
  intro row column first second inLeft inRight
  obtain ⟨columnBound, _⟩ := List.getElem?_eq_some_iff.1 inRight
  induction left generalizing row with
  | nil => cases inLeft
  | cons unit rest ih =>
      rw [crossUnits, List.flatMap_cons]
      cases row with
      | zero =>
          cases inLeft
          rw [Nat.zero_mul, Nat.zero_add, List.getElem?_append_left (by rwa [List.length_map]),
            List.getElem?_map, inRight, Option.map_some]
      | succ row =>
          have below : (row + 1) * right.length + column - right.length =
              row * right.length + column := by
            rw [Nat.succ_mul]
            omega
          rw [List.getElem?_append_right (by rw [List.length_map, Nat.succ_mul]; omega),
            List.length_map, below]
          exact ih inLeft

/-! ## Each expression once -/

/-- The units at the places before which nothing has their expression. -/
def firstUnits (units : List (MeasureUnit α)) : List (MeasureUnit α) :=
  (units.zipIdx.filter fun placed =>
    placed.1.expression ∉ (units.take placed.2).map (·.expression)).map (·.1)

/-- What has been seen counts as standing before all places. -/
theorem distinctUnits_eq (seen : List String) (units : List (MeasureUnit α)) :
    distinctUnits seen units = (units.zipIdx.filter fun placed =>
      placed.1.expression ∉ seen ∧
        placed.1.expression ∉ (units.take placed.2).map (·.expression)).map (·.1) := by
  induction units generalizing seen with
  | nil => rfl
  | cons first rest ih =>
      have shifted : rest.zipIdx 1 = rest.zipIdx.map fun placed => (placed.1, placed.2 + 1) :=
        List.zipIdx_succ ..
      rw [distinctUnits, List.zipIdx_cons, List.filter_cons]
      simp only [List.contains_iff_mem, List.take_zero, List.map_nil, List.not_mem_nil,
        not_false_eq_true, and_true, decide_not, Bool.not_eq_true', decide_eq_false_iff_not,
        shifted, List.filter_map, zero_add]
      by_cases repeated : first.expression ∈ seen
      · rw [if_pos repeated, if_neg (not_not.2 repeated), ih, List.map_map]
        congr 1
        refine List.filter_congr fun placed _ => ?_
        simp only [Function.comp_apply, List.take_succ_cons, List.map_cons, List.mem_cons]
        grind
      · rw [if_neg repeated, if_pos repeated, ih, List.map_cons, List.map_map]
        congr 2
        refine List.filter_congr fun placed _ => ?_
        simp only [Function.comp_apply, List.take_succ_cons, List.map_cons, List.mem_cons]
        grind

theorem distinctUnits_eq_firstUnits (units : List (MeasureUnit α)) :
    distinctUnits [] units = firstUnits units := by
  simp [distinctUnits_eq, firstUnits]

/-- No expression is kept twice, and none that has been seen. -/
theorem nodup_distinctUnits (seen : List String) (units : List (MeasureUnit α)) :
    ((distinctUnits seen units).map (·.expression)).Nodup ∧
      ∀ unit ∈ distinctUnits seen units, unit.expression ∉ seen := by
  induction units generalizing seen with
  | nil => exact ⟨List.nodup_nil, nofun⟩
  | cons first rest ih =>
      rw [distinctUnits]
      split
      · exact ih seen
      · next fresh =>
          obtain ⟨nodup, unseen⟩ := ih (first.expression :: seen)
          rw [List.contains_iff_mem] at fresh
          refine ⟨List.nodup_cons.2 ⟨fun repeated => ?_, nodup⟩, fun unit member => ?_⟩
          · obtain ⟨unit, member, same⟩ := List.mem_map.1 repeated
            exact unseen unit member (same ▸ List.mem_cons_self)
          · rcases List.mem_cons.1 member with rfl | later
            · exact fresh
            · exact fun known => unseen unit later (List.mem_cons_of_mem _ known)

/-! ## Crossed quantities -/

section Crossed

variable [Scalar α]

/-- A quantity over the combinations of the units of two quantities. -/
structure Crosses (combine : MeasureUnit α → MeasureUnit α → MeasureUnit α)
    (left right result : Quantity α) : Prop where
  units : ∃ crossed, RowMajor combine left.units right.units crossed ∧
    result.units = firstUnits crossed
  nodup : (result.units.map (·.expression)).Nodup
  complete : ∀ first ∈ left.units, ∀ second ∈ right.units,
    ∃ kept ∈ result.units, kept.expression = (combine first second).expression
  preferred : ∃ kept, result.units[result.preferred]? = some kept ∧
    kept.expression = (combine left.preferredUnit right.preferredUnit).expression
  larger : ∀ first ∈ left.units, ∀ second ∈ right.units, ∀ neighbour ∈ left.units,
    first.larger = some neighbour.expression →
    ∃ kept ∈ result.units, (combine first second).larger = some kept.expression
  smaller : ∀ first ∈ left.units, ∀ second ∈ right.units, ∀ neighbour ∈ left.units,
    first.smaller = some neighbour.expression →
    ∃ kept ∈ result.units, (combine first second).smaller = some kept.expression

/-- The neighbours of a combination are those of its left unit, combined. -/
structure CarriesNeighbours (combine : MeasureUnit α → MeasureUnit α → MeasureUnit α) : Prop where
  larger : ∀ {first neighbour : MeasureUnit α} (second : MeasureUnit α),
    first.larger = some neighbour.expression →
    (combine first second).larger = some (combine neighbour second).expression
  smaller : ∀ {first neighbour : MeasureUnit α} (second : MeasureUnit α),
    first.smaller = some neighbour.expression →
    (combine first second).smaller = some (combine neighbour second).expression

theorem carriesNeighbours_multiply : CarriesNeighbours (α := α) MeasureUnit.multiply where
  larger second links := by rw [MeasureUnit.multiply, links, Option.map_some]; rfl
  smaller second links := by rw [MeasureUnit.multiply, links, Option.map_some]; rfl

theorem carriesNeighbours_divide : CarriesNeighbours (α := α) MeasureUnit.divide where
  larger second links := by rw [MeasureUnit.divide, links, Option.map_some]; rfl
  smaller second links := by rw [MeasureUnit.divide, links, Option.map_some]; rfl

omit [Scalar α] in
theorem getElem?_preferred (quantity : Quantity α) :
    quantity.units[quantity.preferred]? = some quantity.preferredUnit :=
  List.getElem?_eq_getElem quantity.preferred_lt

omit [Scalar α] in
theorem crosses_ofCrossed {combine : MeasureUnit α → MeasureUnit α → MeasureUnit α}
    (carries : CarriesNeighbours combine) (left right : Quantity α) (name symbol : String)
    (dimension : Dimension) (origin : Origin) :
    Crosses combine left right (ofCrossed name symbol dimension origin _ _
      (crossed_preferred_lt combine left right)) := by
  have rows := rowMajor_crossUnits combine left.units right.units
  have complete (first : MeasureUnit α) (inLeft : first ∈ left.units) (second : MeasureUnit α)
      (inRight : second ∈ right.units) :
      ∃ kept ∈ distinctUnits [] (crossUnits combine left.units right.units),
        kept.expression = (combine first second).expression :=
    exists_distinctUnits [] _ (rows.mem inLeft inRight) List.not_mem_nil
  refine ⟨⟨_, rows, distinctUnits_eq_firstUnits _⟩, (nodup_distinctUnits [] _).1, complete, ?_,
    ?_, ?_⟩
  · have place := rows.place left.getElem?_preferred right.getElem?_preferred
    rw [List.getElem?_eq_getElem (crossed_preferred_lt combine left right)] at place
    refine ⟨_, getElem?_preferred _, ?_⟩
    rw [← Option.some.inj place]
    exact beq_iff_eq.1 (List.findIdx_getElem (w := (ofCrossed name symbol dimension origin _ _
      (crossed_preferred_lt combine left right)).preferred_lt))
  · intro first _ second inRight neighbour inLeft links
    obtain ⟨kept, member, same⟩ := complete neighbour inLeft second inRight
    exact ⟨kept, member, same ▸ carries.larger second links⟩
  · intro first _ second inRight neighbour inLeft links
    obtain ⟨kept, member, same⟩ := complete neighbour inLeft second inRight
    exact ⟨kept, member, same ▸ carries.smaller second links⟩

theorem product_of_plus {left right : Quantity α} {sum : Dimension}
    (made : left.dimension.plus right.dimension = .ok sum) :
    left.product right = .ok (ofCrossed (left.name ++ "-" ++ right.name)
      (left.symbol ++ "*" ++ right.symbol) sum (.derived left.name none) _ _
      (crossed_preferred_lt MeasureUnit.multiply left right)) := by
  rw [product, made]
  rfl

theorem derive_of_minus {left right : Quantity α} {difference : Dimension}
    (made : left.dimension.minus right.dimension = .ok difference) :
    left.derive (some right) = .ok (ofCrossed (left.name ++ " per " ++ right.name)
      (left.symbol ++ "/" ++ right.symbol) difference (.derived left.name (some right.name)) _ _
      (crossed_preferred_lt MeasureUnit.divide left right)) := by
  rw [derive, quotient, made]
  rfl

/-- Whenever the sum of their dimensions is in range two quantities have a product, and whenever the
difference is in range a quotient.  It has that dimension, and its units are the combinations of
theirs. -/
theorem derived_crosses (left right : Quantity α) :
    ((∀ axis, InRange (left.dimension.exponent axis + right.dimension.exponent axis)) →
      ∃ result, left.product right = .ok result ∧
        (∀ axis, result.dimension.exponent axis =
          left.dimension.exponent axis + right.dimension.exponent axis) ∧
        Crosses MeasureUnit.multiply left right result) ∧
    ((∀ axis, InRange (left.dimension.exponent axis - right.dimension.exponent axis)) →
      ∃ result, left.derive (some right) = .ok result ∧
        (∀ axis, result.dimension.exponent axis =
          left.dimension.exponent axis - right.dimension.exponent axis) ∧
        Crosses MeasureUnit.divide left right result) := by
  constructor
  · intro inRange
    obtain ⟨sum, made⟩ := Dimension.exists_plus_iff.2 inRange
    exact ⟨_, product_of_plus made, Dimension.exponent_plus made,
      crosses_ofCrossed carriesNeighbours_multiply left right _ _ sum _⟩
  · intro inRange
    obtain ⟨difference, made⟩ := Dimension.exists_minus_iff.2 inRange
    exact ⟨_, derive_of_minus made, Dimension.exponent_minus made,
      crosses_ofCrossed carriesNeighbours_divide left right _ _ difference _⟩

end Crossed

/-- Lengths, of which the greater one is preferred. -/
def wavelength : Quantity ℚ where
  name := "length"
  symbol := "l"
  dimension := .length
  units := [⟨"m", "meter", 1, 0, some "km", none, true⟩,
    ⟨"km", "kilometer", 1000, 0, none, some "m", true⟩]
  preferred := 1
  preferred_lt := by decide
  origin := .base

/-- Their reciprocals, of which the smaller one is preferred. -/
def wavenumber : Quantity ℚ where
  name := "wavenumber"
  symbol := "k"
  dimension := ⟨Dimension.pack ⟨0, -1, 0, 0⟩⟩
  units := [.proportional "1/m" "per meter" 1, .proportional "1/km" "per kilometer" (1 / 1000)]
  preferred := 1
  preferred_lt := by decide
  origin := .base

/-- Of the two products that are pure numbers the first one is kept, and preferred in place of the
second. -/
theorem derived_crosses_waves :
    (∀ axis, InRange (wavelength.dimension.exponent axis + wavenumber.dimension.exponent axis)) ∧
      (∀ axis, InRange (wavelength.dimension.exponent axis - wavenumber.dimension.exponent axis)) ∧
      ((wavelength.product wavenumber).toOption.map fun result =>
        (result.units.map (·.expression), result.preferred)) =
          some (["", "m/km", "km/m"], 0) ∧
      ((wavelength.derive (some wavenumber)).toOption.map fun result =>
        (result.units.map (·.expression), result.preferred)) =
          some (["m^2", "m*km", "km*m", "km^2"], 3) ∧
      (∃ result, wavelength.product wavenumber = .ok result ∧
        (∀ axis, result.dimension.exponent axis =
          wavelength.dimension.exponent axis + wavenumber.dimension.exponent axis) ∧
        Crosses MeasureUnit.multiply wavelength wavenumber result) ∧
      ∃ result, wavelength.derive (some wavenumber) = .ok result ∧
        (∀ axis, result.dimension.exponent axis =
          wavelength.dimension.exponent axis - wavenumber.dimension.exponent axis) ∧
        Crosses MeasureUnit.divide wavelength wavenumber result := by
  have sums : ∀ axis, InRange
      (wavelength.dimension.exponent axis + wavenumber.dimension.exponent axis) := by
    rintro ⟨⟩ <;> decide
  have differences : ∀ axis, InRange
      (wavelength.dimension.exponent axis - wavenumber.dimension.exponent axis) := by
    rintro ⟨⟩ <;> decide
  have crossed := derived_crosses wavelength wavenumber
  exact ⟨sums, differences, by decide +kernel, by decide +kernel, crossed.1 sums,
    crossed.2 differences⟩

end Quantity

end Metrology
