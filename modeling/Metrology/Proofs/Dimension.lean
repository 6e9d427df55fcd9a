import Mathlib.Tactic
import Metrology.Dimension

/-!
# Dimensions as integer vectors

A packed dimension is known by its exponents, and every arithmetic operation is
the one on integer vectors whenever its result is in range.
-/

namespace Metrology.Dimension

/-! ## Packing -/

/-- Each bit of a packed word belongs to the field of one axis. -/
theorem getLsbD_pack (exponents : Exponents) (place : Nat) :
    (pack exponents).getLsbD place =
      if place < 5 then (BitVec.ofInt 5 exponents.mass).getLsbD place
      else if place < 10 then (BitVec.ofInt 5 exponents.length).getLsbD (place - 5)
      else if place < 15 then (BitVec.ofInt 5 exponents.time).getLsbD (place - 10)
      else (BitVec.ofInt 5 exponents.currency).getLsbD (place - 15) := by
  have appended :
      (pack exponents).getLsbD place =
        BitVec.getLsbD (w := 5 + 5 + 5 + 5)
          (BitVec.ofInt 5 exponents.currency ++ BitVec.ofInt 5 exponents.time ++
            BitVec.ofInt 5 exponents.length ++ BitVec.ofInt 5 exponents.mass)
          place := rfl
  rw [appended]
  simp only [BitVec.getLsbD_append]
  grind

theorem extractLsb'_pack (exponents : Exponents) (axis : Axis) :
    (pack exponents).extractLsb' (5 * axis.index) 5 =
      BitVec.ofInt 5 (exponents.get axis) := by
  apply BitVec.eq_of_getLsbD_eq
  intro place inside
  rw [BitVec.getLsbD_extractLsb', getLsbD_pack]
  cases axis <;> simp [Axis.index, Exponents.get, inside] <;> grind

theorem exponent_pack {exponents : Exponents} {axis : Axis}
    (range : InRange (exponents.get axis)) :
    (Dimension.mk (pack exponents)).exponent axis = exponents.get axis := by
  rw [exponent, extractLsb'_pack]
  exact BitVec.toInt_ofInt_eq_self (by decide) range.1
    (by have := range.2; norm_num; omega)

/-- A field cannot leave its range. -/
theorem inRange_exponent (dimension : Dimension) (axis : Axis) :
    InRange (dimension.exponent axis) := by
  have least := BitVec.le_toInt (dimension.packed.extractLsb' (5 * axis.index) 5)
  have greatest := BitVec.toInt_lt
    (x := dimension.packed.extractLsb' (5 * axis.index) 5)
  exact ⟨le_trans (by decide) least,
    Int.lt_add_one_iff.1 (lt_of_lt_of_le greatest (by decide))⟩

@[simp]
theorem get_exponents (dimension : Dimension) (axis : Axis) :
    dimension.exponents.get axis = dimension.exponent axis :=
  Exponents.get_ofFunction _ axis

/-- Packing the exponents of a dimension gives its word back. -/
theorem pack_exponents (dimension : Dimension) :
    pack dimension.exponents = dimension.packed := by
  have field (axis : Axis) :
      BitVec.ofInt 5 (dimension.exponents.get axis) =
        dimension.packed.extractLsb' (5 * axis.index) 5 := by
    rw [get_exponents, exponent, BitVec.ofInt_toInt]
  have mass := field .mass
  have length := field .length
  have time := field .time
  have currency := field .currency
  simp only [Exponents.get, Axis.index] at mass length time currency
  apply BitVec.eq_of_getLsbD_eq
  intro place inside
  rw [getLsbD_pack, mass, length, time, currency]
  simp only [BitVec.getLsbD_extractLsb']
  grind

/-- The dimension of given exponents is the one that has them. -/
theorem ofExponents_eq_ok_iff {exponents : Exponents} {dimension : Dimension} :
    ofExponents exponents = .ok dimension ↔ dimension.exponents = exponents := by
  constructor
  · intro made
    unfold ofExponents at made
    split at made
    · cases made
    · next found =>
        cases made
        refine Exponents.ext_get fun axis => ?_
        have range := List.find?_eq_none.1 found axis (Axis.mem_all axis)
        rw [get_exponents, exponent_pack (by simpa using range)]
  · rintro rfl
    have found :
        (Axis.all.find? fun axis => ¬ InRange (dimension.exponents.get axis)) =
          none := by
      simp [inRange_exponent]
    rw [ofExponents, found, pack_exponents]

/-! ## Arithmetic -/

theorem plus_eq_ok_iff {left right sum : Dimension} :
    left.plus right = .ok sum ↔ sum.exponents = left.exponents.add right.exponents :=
  ofExponents_eq_ok_iff

theorem minus_eq_ok_iff {left right difference : Dimension} :
    left.minus right = .ok difference ↔
      difference.exponents = left.exponents.sub right.exponents :=
  ofExponents_eq_ok_iff

/-- A difference is what has to be added to reach the minuend. -/
theorem minus_plus {left right difference : Dimension}
    (quotient : left.minus right = .ok difference) :
    difference.plus right = .ok left := by
  rw [plus_eq_ok_iff, minus_eq_ok_iff.1 quotient]
  refine Exponents.ext_get fun axis => ?_
  simp [Exponents.add, Exponents.sub]

@[simp]
theorem exponent_ratio (axis : Axis) : ratio.exponent axis = 0 := by
  cases axis <;> decide

theorem ratio_plus (dimension : Dimension) : ratio.plus dimension = .ok dimension := by
  rw [plus_eq_ok_iff]
  refine Exponents.ext_get fun axis => ?_
  simp [Exponents.add]

@[simp]
theorem isRatio_iff {dimension : Dimension} :
    dimension.isRatio = true ↔ dimension = ratio := by
  simp [isRatio]

theorem times_one (dimension : Dimension) : dimension.times 1 = .ok dimension := by
  rw [times]
  split
  · next isRatio => rw [isRatio_iff.1 isRatio]
  · rw [if_pos Int.one_pos]
    change (ratio.plus dimension).bind (repeated _ 0) = _
    rw [ratio_plus]
    rfl

/-- Dimensions with equal exponents are equal. -/
theorem eq_of_exponent {left right : Dimension}
    (same : ∀ axis, left.exponent axis = right.exponent axis) : left = right := by
  have exponents : left.exponents = right.exponents :=
    Exponents.ext_get fun axis => by rw [get_exponents, get_exponents, same axis]
  have words : left.packed = right.packed := by
    rw [← pack_exponents, ← pack_exponents, exponents]
  cases left
  cases right
  exact congrArg Dimension.mk words

theorem exponent_plus {left right sum : Dimension} (made : left.plus right = .ok sum)
    (axis : Axis) : sum.exponent axis = left.exponent axis + right.exponent axis := by
  rw [← get_exponents, plus_eq_ok_iff.1 made]
  simp [Exponents.add]

theorem exponent_minus {left right difference : Dimension}
    (made : left.minus right = .ok difference) (axis : Axis) :
    difference.exponent axis = left.exponent axis - right.exponent axis := by
  rw [← get_exponents, minus_eq_ok_iff.1 made]
  simp [Exponents.sub]

/-- Every step of a repetition adds the same amount to an exponent. -/
theorem exponent_repeated {step : Dimension → Except Error Dimension} {axis : Axis}
    {amount : Int}
    (steps : ∀ before after, step before = .ok after →
      after.exponent axis = before.exponent axis + amount)
    {count : Nat} {start result : Dimension} (made : repeated step count start = .ok result) :
    result.exponent axis = start.exponent axis + count * amount := by
  induction count generalizing start with
  | zero =>
      cases made
      simp
  | succ count ih =>
      rw [repeated] at made
      cases stepped : step start with
      | error failure =>
          rw [stepped] at made
          cases made
      | ok next =>
          rw [stepped] at made
          rw [ih made, steps start next stepped]
          push_cast
          ring

/-- A power multiplies all exponents. -/
theorem exponent_times {dimension result : Dimension} {power : Int}
    (made : dimension.times power = .ok result) (axis : Axis) :
    result.exponent axis = power * dimension.exponent axis := by
  unfold times at made
  split at made
  · next isRatio =>
      cases made
      rw [isRatio_iff.1 isRatio, exponent_ratio, mul_zero]
  · split at made
    · next positive =>
        have steps (before after : Dimension) (added : before.plus dimension = .ok after) :=
          exponent_plus added axis
        have sum := exponent_repeated steps made
        rw [sum, exponent_ratio, Int.natAbs_of_nonneg positive.le, zero_add]
    · next notPositive =>
        have steps (before after : Dimension) (taken : before.minus dimension = .ok after) :
            after.exponent axis = before.exponent axis + -dimension.exponent axis := by
          rw [exponent_minus taken axis, sub_eq_add_neg]
        have sum := exponent_repeated steps made
        rw [sum, exponent_ratio, Int.ofNat_natAbs_of_nonpos (not_lt.1 notPositive)]
        ring

/-! ## When arithmetic succeeds -/

/-- An error that reports an exponent out of range. -/
def Overflow (failure : Error) : Prop :=
  ∃ axis exponent, failure = .rangeOverflow axis exponent

theorem exists_ofExponents_iff {exponents : Exponents} :
    (∃ dimension, ofExponents exponents = .ok dimension) ↔
      ∀ axis, InRange (exponents.get axis) := by
  constructor
  · rintro ⟨dimension, made⟩ axis
    rw [← ofExponents_eq_ok_iff.1 made, get_exponents]
    exact inRange_exponent dimension axis
  · intro inRange
    have found : (Axis.all.find? fun axis => ¬ InRange (exponents.get axis)) = none := by
      simp [inRange]
    exact ⟨_, by rw [ofExponents, found]⟩

theorem overflow_of_ofExponents {exponents : Exponents} {failure : Error}
    (failed : ofExponents exponents = .error failure) : Overflow failure := by
  unfold ofExponents at failed
  split at failed
  · cases failed
    exact ⟨_, _, rfl⟩
  · cases failed

theorem exists_plus_iff {left right : Dimension} :
    (∃ sum, left.plus right = .ok sum) ↔
      ∀ axis, InRange (left.exponent axis + right.exponent axis) := by
  simp only [plus, exists_ofExponents_iff, Exponents.add, Exponents.get_ofFunction, get_exponents]

theorem exists_minus_iff {left right : Dimension} :
    (∃ difference, left.minus right = .ok difference) ↔
      ∀ axis, InRange (left.exponent axis - right.exponent axis) := by
  simp only [minus, exists_ofExponents_iff, Exponents.sub, Exponents.get_ofFunction,
    get_exponents]

/-- What lies between two exponents in range is in range. -/
theorem inRange_of_multiple {start amount : Int} {count : Nat} (first : InRange start)
    (last : InRange (start + (count + 1 : Nat) * amount)) : InRange (start + amount) := by
  obtain ⟨firstLeast, firstGreatest⟩ := first
  obtain ⟨lastLeast, lastGreatest⟩ := last
  rw [Nat.cast_succ, add_mul, one_mul] at lastLeast lastGreatest
  rcases le_total 0 amount with up | down
  · have further := mul_nonneg (Int.natCast_nonneg count) up
    exact ⟨by omega, by omega⟩
  · have further := mul_nonpos_of_nonneg_of_nonpos (Int.natCast_nonneg count) down
    exact ⟨by omega, by omega⟩

section Steps

variable {step : Dimension → Except Error Dimension} {amount : Axis → Int}

/-- Steps by the same amount succeed just when the last exponents are in range. -/
theorem exists_repeated_iff
    (succeeds : ∀ before, (∃ after, step before = .ok after) ↔
      ∀ axis, InRange (before.exponent axis + amount axis))
    (steps : ∀ before after, step before = .ok after →
      ∀ axis, after.exponent axis = before.exponent axis + amount axis)
    (count : Nat) (start : Dimension) :
    (∃ result, repeated step count start = .ok result) ↔
      ∀ axis, InRange (start.exponent axis + count * amount axis) := by
  constructor
  · rintro ⟨result, made⟩ axis
    rw [← exponent_repeated (fun before after taken => steps before after taken axis) made]
    exact inRange_exponent result axis
  · intro last
    induction count generalizing start with
    | zero => exact ⟨start, rfl⟩
    | succ count ih =>
        obtain ⟨next, taken⟩ := (succeeds start).2 fun axis =>
          inRange_of_multiple (inRange_exponent start axis) (last axis)
        obtain ⟨result, made⟩ := ih next fun axis => by
          have whole := last axis
          rw [Nat.cast_succ, add_mul, one_mul, add_comm (_ * _), ← add_assoc] at whole
          rwa [steps start next taken axis]
        refine ⟨result, ?_⟩
        rw [repeated, taken]
        exact made

theorem overflow_of_repeated
    (fails : ∀ before failure, step before = .error failure → Overflow failure)
    {count : Nat} {start : Dimension} {failure : Error}
    (failed : repeated step count start = .error failure) : Overflow failure := by
  induction count generalizing start with
  | zero => cases failed
  | succ count ih =>
      rw [repeated] at failed
      cases taken : step start with
      | error first =>
          rw [taken] at failed
          cases failed
          exact fails start failure taken
      | ok next =>
          rw [taken] at failed
          exact ih failed

end Steps

/-- A power exists just when its exponents are in range; no exponent on the way to it is
farther out. -/
theorem exists_times_iff {dimension : Dimension} {power : Int} :
    (∃ result, dimension.times power = .ok result) ↔
      ∀ axis, InRange (power * dimension.exponent axis) := by
  unfold times
  split
  · next isRatio =>
      rw [isRatio_iff.1 isRatio]
      simp only [exponent_ratio, mul_zero]
      exact iff_of_true ⟨ratio, rfl⟩ fun _ => by decide
  · split
    · next positive =>
        rw [exists_repeated_iff (fun _ => exists_plus_iff) (fun _ _ => exponent_plus)]
        simp only [exponent_ratio, zero_add, Int.natAbs_of_nonneg positive.le]
    · next notPositive =>
        have succeeds (before : Dimension) :
            (∃ after, before.minus dimension = .ok after) ↔
              ∀ axis, InRange (before.exponent axis + -dimension.exponent axis) := by
          simp only [exists_minus_iff, sub_eq_add_neg]
        have steps (before after : Dimension) (taken : before.minus dimension = .ok after)
            (axis : Axis) :
            after.exponent axis = before.exponent axis + -dimension.exponent axis := by
          rw [exponent_minus taken axis, sub_eq_add_neg]
        rw [exists_repeated_iff succeeds steps]
        simp only [exponent_ratio, zero_add,
          Int.ofNat_natAbs_of_nonpos (not_lt.1 notPositive), neg_mul_neg]

theorem overflow_of_times {dimension : Dimension} {power : Int} {failure : Error}
    (failed : dimension.times power = .error failure) : Overflow failure := by
  unfold times at failed
  split at failed
  · cases failed
  · split at failed
    · exact overflow_of_repeated (fun _ _ => overflow_of_ofExponents) failed
    · exact overflow_of_repeated (fun _ _ => overflow_of_ofExponents) failed

end Metrology.Dimension
