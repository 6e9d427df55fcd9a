import Metrology.Proofs.Soundness
import Metrology.Scaling

/-!
# Scaling that settles

A value is moved along the neighbours of its unit, upwards or downwards.  Every move goes to a unit
of the same quantity and keeps the value on the SI scale, and the run ends where neither move is
left.
-/

namespace Metrology

/-! ## Moves -/

namespace Quantity

section Moves

variable {α : Type} [Scalar α] {quantity : Quantity α} {value settled next : α}
  {unit final other : MeasureUnit α}

theorem enlarge?_eq_some (enlarged : quantity.enlarge? value unit = some (next, other)) :
    unit.larger.bind quantity.findUnit? = some other ∧ next = unit.rescale other value ∧
      atLeastOne next = true := by
  unfold enlarge? at enlarged
  obtain ⟨larger, found, enlarged⟩ := Option.bind_eq_some_iff.1 enlarged
  dsimp only at enlarged
  split at enlarged
  · next counts =>
      cases enlarged
      exact ⟨found, rfl, counts⟩
  · cases enlarged

theorem reduce?_eq_some (reduced : quantity.reduce? value unit = some (next, other)) :
    unit.smaller.bind quantity.findUnit? = some other ∧ next = unit.rescale other value ∧
      Scalar.less (Scalar.absolute value) 1 = true := by
  unfold reduce? at reduced
  split at reduced
  · next small =>
      obtain ⟨smaller, found, reduced⟩ := Option.bind_eq_some_iff.1 reduced
      cases reduced
      exact ⟨found, rfl, small⟩
  · cases reduced

omit [Scalar α] in
theorem mem_of_neighbour {neighbour : Option String}
    (found : neighbour.bind quantity.findUnit? = some other) : other ∈ quantity.units := by
  obtain ⟨expression, _, listed⟩ := Option.bind_eq_some_iff.1 found
  exact List.mem_of_find?_eq_some listed

/-- Neither move is left. -/
structure Settled (quantity : Quantity α) (value : α) (unit : MeasureUnit α) : Prop where
  notEnlarged : quantity.enlarge? value unit = none
  notReduced : quantity.reduce? value unit = none

theorem settle?_succ_of_settled (settled : quantity.Settled value unit) (count : Nat) :
    quantity.settle? (count + 1) value unit = some (value, unit) := by
  rw [settle?, settled.notEnlarged, settled.notReduced]

/-- A run ends where neither move is left. -/
theorem settled_of_settle? {count : Nat}
    (settles : quantity.settle? count value unit = some (settled, final)) :
    quantity.Settled settled final := by
  induction count generalizing value unit with
  | zero => cases settles
  | succ count ih =>
      rw [settle?] at settles
      split at settles
      · exact ih settles
      · next notEnlarged =>
          split at settles
          · exact ih settles
          · next notReduced =>
              cases settles
              exact ⟨notEnlarged, notReduced⟩

/-- What every change of the unit keeps, a run keeps. -/
theorem settle?_keeps (holds : α → MeasureUnit α → Prop)
    (rescales : ∀ {value unit other}, other ∈ quantity.units → holds value unit →
      holds (unit.rescale other value) other)
    {count : Nat} (settles : quantity.settle? count value unit = some (settled, final))
    (start : holds value unit) : holds settled final := by
  induction count generalizing value unit with
  | zero => cases settles
  | succ count ih =>
      rw [settle?] at settles
      split at settles
      · next enlarged =>
          obtain ⟨found, rfl, _⟩ := enlarge?_eq_some enlarged
          exact ih settles (rescales (mem_of_neighbour found) start)
      · split at settles
        · next reduced =>
            obtain ⟨found, rfl, _⟩ := reduce?_eq_some reduced
            exact ih settles (rescales (mem_of_neighbour found) start)
        · cases settles
          exact start

end Moves

end Quantity

/-! ## Scaling in a registry -/

namespace Registry

section Scaling

variable {α : Type} [Scalar α] {registry : Registry α} {expression name : String}
  {entry : UnitEntry α} {value settled : α}

/-- A finite value that does not vanish is moved until it settles. -/
theorem autoScale_eq_ok (found : registry.findUnit expression = .ok entry)
    (moves : (Scalar.isZero value || !Scalar.isFinite value) = false)
    (scaled : registry.autoScale value expression = .ok (settled, name)) :
    ∃ final, entry.quantity.settle? registry.stepLimit value entry.unit = some (settled, final) ∧
      final.expression = name := by
  rw [autoScale, found] at scaled
  dsimp only [bind, Except.bind] at scaled
  rw [moves, if_neg Bool.false_ne_true] at scaled
  split at scaled
  · next settles =>
      cases scaled
      exact ⟨_, settles, rfl⟩
  · cases scaled

/-- A settled value stays as it is. -/
theorem autoScale_of_settled (found : registry.findUnit expression = .ok entry)
    (ends : entry.quantity.Settled value entry.unit) {count : Nat}
    (rounds : registry.stepLimit = count + 1) :
    registry.autoScale value expression = .ok (value, entry.expression) := by
  rw [autoScale, found]
  dsimp only [bind, Except.bind]
  split
  · rfl
  · rw [rounds, Quantity.settle?_succ_of_settled ends]
    rfl

/-- Scaling what has been scaled changes nothing, if its unit is found again. -/
theorem autoScale_again {final : MeasureUnit α}
    (settles : entry.quantity.settle? registry.stepLimit value entry.unit = some (settled, final))
    {again : UnitEntry α} (foundAgain : registry.findUnit final.expression = .ok again)
    (sameQuantity : again.quantity = entry.quantity) (sameUnit : again.unit = final) :
    registry.autoScale settled final.expression = .ok (settled, final.expression) := by
  have ends := Quantity.settled_of_settle? settles
  rw [← sameQuantity, ← sameUnit] at ends
  obtain ⟨count, rounds⟩ : ∃ count, registry.stepLimit = count + 1 := by
    cases rounds : registry.stepLimit with
    | zero =>
        rw [rounds] at settles
        cases settles
    | succ count => exact ⟨count, rfl⟩
  rw [autoScale_of_settled foundAgain ends rounds, UnitEntry.expression, sameUnit]

end Scaling

end Registry

/-! ## Exact arithmetic -/

section Exact

variable {α : Type} [Field α] [LinearOrder α] [Elementary α]

theorem MeasureUnit.toSI_rescale (source : MeasureUnit α) {target : MeasureUnit α}
    (slope : target.slope ≠ 0) (value : α) :
    target.toSI (source.rescale target value) = source.toSI value := by
  rw [rescale, toSI, ofSI, div_mul_cancel₀ _ slope, sub_add_cancel]

namespace Quantity

variable {quantity : Quantity α} {value settled : α} {unit final other : MeasureUnit α}

theorem atLeastOne_iff : atLeastOne value = true ↔ 1 ≤ |value| := by
  rw [atLeastOne, Bool.or_eq_true, le_iff_lt_or_eq]
  exact or_congr decide_eq_true_iff (decide_eq_true_iff.trans eq_comm)

/-- A settled value counts less than one in the next larger unit. -/
theorem Settled.belowLarger (ends : quantity.Settled value unit)
    (found : unit.larger.bind quantity.findUnit? = some other) :
    |unit.rescale other value| < 1 := by
  have notEnlarged := ends.notEnlarged
  rw [enlarge?, found] at notEnlarged
  by_contra reached
  have counts := atLeastOne_iff.2 (not_lt.1 reached)
  simp [counts] at notEnlarged

/-- A settled value counts at least one if there is a next smaller unit. -/
theorem Settled.aboveSmaller (ends : quantity.Settled value unit)
    (found : unit.smaller.bind quantity.findUnit? = some other) : 1 ≤ |value| := by
  have notReduced := ends.notReduced
  rw [reduce?, found] at notReduced
  by_contra small
  have less : Scalar.less (Scalar.absolute value) 1 = true := decide_eq_true (not_le.1 small)
  simp [less] at notReduced

/-- A value in a unit of a quantity is scaled to a value in another unit of this quantity.  It
stays the same on the SI scale, counts less than one in the next larger unit, if there is one, and
at least one if there is a next smaller unit. -/
structure ScalesTo (quantity : Quantity α) (value : α) (unit : MeasureUnit α) (settled : α)
    (final : MeasureUnit α) : Prop where
  member : final ∈ quantity.units
  kept : final.toSI settled = unit.toSI value
  belowLarger : ∀ larger, final.larger.bind quantity.findUnit? = some larger →
    |final.rescale larger settled| < 1
  aboveSmaller : ∀ smaller, final.smaller.bind quantity.findUnit? = some smaller → 1 ≤ |settled|

theorem scalesTo_of_settle? (convertible : quantity.Convertible) (inside : unit ∈ quantity.units)
    {count : Nat} (settles : quantity.settle? count value unit = some (settled, final)) :
    quantity.ScalesTo value unit settled final := by
  have ends := settled_of_settle? settles
  have keeps : final ∈ quantity.units ∧ final.toSI settled = unit.toSI value := by
    refine settle?_keeps (fun next other =>
      other ∈ quantity.units ∧ other.toSI next = unit.toSI value) ?_ settles ⟨inside, rfl⟩
    intro next other neighbour member kept
    exact ⟨member, (other.toSI_rescale (convertible neighbour member) next).trans kept.2⟩
  exact ⟨keeps.1, keeps.2, fun _ => ends.belowLarger, fun _ => ends.aboveSmaller⟩

end Quantity

/-! ## Registries -/

/-- In every registry that a document and calls lead to, a value that does not vanish is scaled
within its quantity, to a value that is the same on the SI scale and settles there.  Scaling it
again from the unit where it has settled leaves it alone. -/
theorem Registry.autoScale_scalesTo {definitions : Definitions α} {settings : Settings}
    {start : Registry α} (loaded : ofDefinitions definitions settings = .ok start)
    {calls : List (Call α)}
    (given : ∀ quantity, .register quantity ∈ calls → quantity.Convertible)
    {expression name : String} {entry : UnitEntry α}
    (found : (start.run calls).findUnit expression = .ok entry) {value settled : α}
    (nonzero : value ≠ 0)
    (scaled : (start.run calls).autoScale value expression = .ok (settled, name)) :
    ∃ final, final.expression = name ∧
      entry.quantity.ScalesTo value entry.unit settled final ∧
      ∀ again, (start.run calls).findUnit name = .ok again → again.quantity = entry.quantity →
        again.unit = final → (start.run calls).autoScale settled name = .ok (settled, name) := by
  have moves : (Scalar.isZero value || !Scalar.isFinite value) = false := by
    simp [Scalar.isZero, Scalar.same, Scalar.isFinite, nonzero]
  obtain ⟨final, settles, rfl⟩ := autoScale_eq_ok found moves scaled
  have known := mem_of_findUnit found
  have convertible := convertible_run loaded given entry.quantity (quantity_mem_of_entry known)
  refine ⟨final, rfl, ?_, fun again foundAgain sameQuantity sameUnit => ?_⟩
  · exact Quantity.scalesTo_of_settle? convertible (unit_mem_of_entry known) settles
  · exact autoScale_again settles foundAgain sameQuantity sameUnit

end Exact

/-- Two and a half thousand grams are two and a half kilograms. -/
theorem Registry.autoScale_scalesTo_grams :
    ∃ (start : Registry ℚ) (entry : UnitEntry ℚ) (final : MeasureUnit ℚ),
      ofDefinitions Definitions.builtin {} = .ok start ∧ start.findUnit "g" = .ok entry ∧
      start.autoScale 2500 "g" = .ok (5 / 2, "kg") ∧ final.expression = "kg" ∧
      entry.quantity.ScalesTo 2500 entry.unit (5 / 2) final := by
  have computed : (do
      let start ← ofDefinitions (Definitions.builtin : Definitions ℚ) {}
      let _ ← start.findUnit "g"
      start.autoScale 2500 "g").toOption = some (5 / 2, "kg") := by decide +kernel
  obtain ⟨start, loaded, computed⟩ := exists_of_bind_eq_ok (eq_ok_of_toOption computed)
  obtain ⟨entry, found, scaled⟩ := exists_of_bind_eq_ok computed
  have nothing : ∀ quantity, .register quantity ∈ ([] : List (Call ℚ)) → quantity.Convertible :=
    fun _ impossible => absurd impossible List.not_mem_nil
  have nonzero : (2500 : ℚ) ≠ 0 := by decide +kernel
  obtain ⟨final, named, scales, _⟩ := autoScale_scalesTo loaded nothing found nonzero scaled
  exact ⟨start, entry, final, loaded, found, scaled, named, scales⟩

end Metrology
