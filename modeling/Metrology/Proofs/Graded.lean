import Metrology.Proofs.Settling

/-!
# Scaling that ends

Where larger units are larger and smaller units smaller, a value passes through each unit at most
once: it moves to smaller units as long as its unit is too large for it, and from then on only to
larger units that are not.  So the units of a quantity bound the rounds of scaling.
-/

namespace Metrology

namespace Quantity

/-! ## Units ahead -/

section Ahead

variable {α : Type} [LinearOrder α]

/-- Where a size on the SI scale may be taken from a unit, in however many moves: to smaller units
if the unit is too large for it, and otherwise to larger ones that are not too large. -/
def Ahead (size : α) (unit other : MeasureUnit α) : Prop :=
  if size < unit.slope then other.slope < unit.slope
  else unit.slope < other.slope ∧ other.slope ≤ size

instance (size : α) (unit other : MeasureUnit α) : Decidable (Ahead size unit other) :=
  inferInstanceAs (Decidable (ite _ _ _))

variable {size : α} {unit other last : MeasureUnit α}

theorem not_ahead_self : ¬Ahead size unit unit := by
  unfold Ahead
  split
  · exact lt_irrefl _
  · exact fun ahead => lt_irrefl _ ahead.1

/-- A move downwards may end below the size, but what lies ahead from there is no larger than the
size, and so smaller than the unit that was left. -/
theorem Ahead.trans (first : Ahead size unit other) (second : Ahead size other last) :
    Ahead size unit last := by
  unfold Ahead at *
  by_cases large : size < unit.slope
  · rw [if_pos large] at first ⊢
    split at second
    · exact lt_trans second first
    · exact lt_of_le_of_lt second.2 large
  · rw [if_neg large] at first ⊢
    rw [if_neg (not_lt.2 first.2)] at second
    exact ⟨lt_trans first.1 second.1, second.2⟩

/-- The units of a quantity that are ahead of a unit. -/
def ahead (quantity : Quantity α) (size : α) (unit : MeasureUnit α) : List (MeasureUnit α) :=
  quantity.units.filter fun other => Ahead size unit other

variable {quantity : Quantity α}

theorem length_ahead_lt_length (inside : unit ∈ quantity.units) :
    (quantity.ahead size unit).length < quantity.units.length :=
  List.length_filter_lt_length_iff_exists.2 ⟨unit, inside, by simp [not_ahead_self]⟩

/-- Fewer units are ahead of a unit that is ahead itself. -/
theorem length_ahead_lt (member : other ∈ quantity.units) (isAhead : Ahead size unit other) :
    (quantity.ahead size other).length < (quantity.ahead size unit).length := by
  have within : quantity.ahead size other =
      (quantity.ahead size unit).filter fun last => Ahead size other last := by
    rw [ahead, ahead, List.filter_filter]
    refine List.filter_congr fun last _ => ?_
    rw [← Bool.decide_and, decide_eq_decide]
    exact ⟨fun later => ⟨later, isAhead.trans later⟩, And.left⟩
  have counted : other ∈ quantity.ahead size unit :=
    List.mem_filter.2 ⟨member, decide_eq_true isAhead⟩
  rw [within]
  exact List.length_filter_lt_length_iff_exists.2 ⟨other, counted, by simp [not_ahead_self]⟩

end Ahead

/-! ## Moves ahead -/

section Exact

variable {α : Type} [Field α] [LinearOrder α] [Elementary α]

/-- Units are proportional, and the neighbours that a quantity has are on the right side.  That a
unit is the larger neighbour of another does not make the other its smaller one. -/
structure Graded (quantity : Quantity α) : Prop where
  positive : ∀ unit ∈ quantity.units, 0 < unit.slope
  proportional : ∀ unit ∈ quantity.units, unit.intercept = 0
  larger : ∀ unit ∈ quantity.units, ∀ other ∈ unit.larger.bind quantity.findUnit?,
    unit.slope < other.slope
  smaller : ∀ unit ∈ quantity.units, ∀ other ∈ unit.smaller.bind quantity.findUnit?,
    other.slope < unit.slope

variable {quantity : Quantity α} {value next : α} {unit other : MeasureUnit α}

theorem Graded.convertible (graded : quantity.Graded) : quantity.Convertible :=
  fun unit member => (graded.positive unit member).ne'

variable [IsStrictOrderedRing α]

/-- A value counts at least one just when its unit is not too large for its size. -/
theorem Graded.slope_le_iff (graded : quantity.Graded) (inside : unit ∈ quantity.units)
    (value : α) : unit.slope ≤ |unit.toSI value| ↔ 1 ≤ |value| := by
  have positive := graded.positive unit inside
  rw [MeasureUnit.toSI, graded.proportional unit inside, add_zero, abs_mul, abs_of_pos positive]
  exact le_mul_iff_one_le_left positive

theorem Graded.ahead_of_enlarge? (graded : quantity.Graded) (inside : unit ∈ quantity.units)
    (enlarged : quantity.enlarge? value unit = some (next, other)) :
    Ahead |unit.toSI value| unit other := by
  obtain ⟨found, rfl, counts⟩ := enlarge?_eq_some enlarged
  have member := mem_of_neighbour found
  have fits := (graded.slope_le_iff member _).2 (atLeastOne_iff.1 counts)
  rw [unit.toSI_rescale (graded.convertible _ member)] at fits
  have grows := graded.larger unit inside other found
  rw [Ahead, if_neg (not_lt.2 (grows.le.trans fits))]
  exact ⟨grows, fits⟩

theorem Graded.ahead_of_reduce? (graded : quantity.Graded) (inside : unit ∈ quantity.units)
    (reduced : quantity.reduce? value unit = some (next, other)) :
    Ahead |unit.toSI value| unit other := by
  obtain ⟨found, rfl, small⟩ := reduce?_eq_some reduced
  have less : |value| < 1 := of_decide_eq_true small
  have large : |unit.toSI value| < unit.slope :=
    not_le.1 fun fits => not_le.2 less ((graded.slope_le_iff inside value).1 fits)
  rw [Ahead, if_pos large]
  exact graded.smaller unit inside other found

/-- As long as more rounds are left than units are ahead, a value settles. -/
theorem Graded.exists_settle? (graded : quantity.Graded) {count : Nat}
    (inside : unit ∈ quantity.units)
    (enough : (quantity.ahead |unit.toSI value| unit).length < count) :
    ∃ settled final, quantity.settle? count value unit = some (settled, final) := by
  induction count generalizing value unit with
  | zero => exact absurd enough (Nat.not_lt_zero _)
  | succ count ih =>
      -- A move keeps the size, so what is ahead is counted with the same size before and after it.
      have moved {other : MeasureUnit α} (member : other ∈ quantity.units)
          (isAhead : Ahead |unit.toSI value| unit other) :
          ∃ settled final, quantity.settle? count (unit.rescale other value) other =
            some (settled, final) := by
        refine ih member ?_
        rw [unit.toSI_rescale (graded.convertible _ member)]
        exact lt_of_lt_of_le (length_ahead_lt member isAhead) (Nat.le_of_lt_succ enough)
      rw [settle?]
      split
      · next enlarged =>
          obtain ⟨found, rfl, _⟩ := enlarge?_eq_some enlarged
          exact moved (mem_of_neighbour found) (graded.ahead_of_enlarge? inside enlarged)
      · split
        · next reduced =>
            obtain ⟨found, rfl, _⟩ := reduce?_eq_some reduced
            exact moved (mem_of_neighbour found) (graded.ahead_of_reduce? inside reduced)
        · exact ⟨value, unit, rfl⟩

end Exact

end Quantity

/-! ## Scaling in a registry -/

section Scaling

variable {α : Type} [Field α] [LinearOrder α] [IsStrictOrderedRing α] [Elementary α]

/-- In a graded quantity every value settles, from whatever unit it starts, if as many rounds are
allowed as the quantity has units.  It ends in a unit of the quantity, the same on the SI scale. -/
theorem Registry.autoScale_settles {registry : Registry α} {expression : String}
    {entry : UnitEntry α} (found : registry.findUnit expression = .ok entry)
    (graded : entry.quantity.Graded)
    (ample : entry.quantity.units.length ≤ registry.stepLimit) (value : α) :
    ∃ settled final, registry.autoScale value expression = .ok (settled, final.expression) ∧
      final ∈ entry.quantity.units ∧ final.toSI settled = entry.unit.toSI value := by
  have inside := unit_mem_of_entry (mem_of_findUnit found)
  rw [autoScale, found]
  dsimp only [bind, Except.bind]
  split
  · exact ⟨value, entry.unit, rfl, inside, rfl⟩
  · obtain ⟨settled, final, settles⟩ : ∃ settled final,
        entry.quantity.settle? registry.stepLimit value entry.unit = some (settled, final) :=
      graded.exists_settle? inside
        (lt_of_lt_of_le (Quantity.length_ahead_lt_length inside) ample)
    have scales := Quantity.scalesTo_of_settle? graded.convertible inside settles
    rw [settles]
    exact ⟨settled, final, rfl, scales.member, scales.kept⟩

end Scaling

/-- The hour, below which seconds are next. -/
def MeasureUnit.hour : MeasureUnit ℚ :=
  ⟨"hr", "hour", 3600, 0, none, some "s", true⟩

/-- A quantity in which seconds lead up to minutes and these to hours, but hours straight down to
seconds. -/
def Quantity.clock : Quantity ℚ where
  name := "time"
  symbol := "t"
  dimension := .time
  units := [⟨"s", "second", 1, 0, some "min", none, true⟩,
    ⟨"min", "minute", 60, 0, some "hr", none, true⟩, .hour]
  preferred := 0
  preferred_lt := by decide
  origin := .base

/-- The registry of the clock, with three rounds for its three units. -/
def Registry.clock : Registry ℚ :=
  ⟨[.clock], [], true, 3⟩

/-- Half an hour goes down to seconds and up to thirty minutes. -/
theorem Registry.autoScale_settles_clock :
    clock.findUnit "hr" = .ok ⟨0, 2, .clock, .hour⟩ ∧ Quantity.clock.Graded ∧
      Quantity.clock.units.length ≤ clock.stepLimit ∧
      clock.autoScale (1 / 2) "hr" = .ok (30, "min") ∧
      ∃ settled final, clock.autoScale (1 / 2) "hr" = .ok (settled, final.expression) ∧
        final ∈ Quantity.clock.units ∧ final.toSI settled = MeasureUnit.hour.toSI (1 / 2) := by
  have found : clock.findUnit "hr" = .ok ⟨0, 2, .clock, .hour⟩ := by rfl
  have graded : Quantity.clock.Graded :=
    ⟨by decide +kernel, by decide +kernel, by decide +kernel, by decide +kernel⟩
  have ample : Quantity.clock.units.length ≤ clock.stepLimit := by decide
  have scaled : clock.autoScale (1 / 2) "hr" = .ok (30, "min") := by decide +kernel
  exact ⟨found, graded, ample, scaled, autoScale_settles found graded ample (1 / 2)⟩

end Metrology
