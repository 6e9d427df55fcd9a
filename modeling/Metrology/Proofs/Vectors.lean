import Metrology.Proofs.Dimension

/-!
# Dimensions simulate integer vectors

The word of a dimension is lossless, and arithmetic on dimensions is that of unbounded integer
vectors as long as the result is in range.  A power is reached factor by factor; the first product
on the way that leaves the range is the one reported.
-/

namespace Metrology

/-! ## Multiples of a vector -/

namespace Exponents

theorem scale_one (amount : Exponents) : amount.scale 1 = amount :=
  ext_get fun axis => by simp [scale]

theorem add_scale_succ (start amount : Exponents) (count : Nat) :
    (start.add amount).add (amount.scale count) = start.add (amount.scale (count + 1 : Nat)) := by
  refine ext_get fun axis => ?_
  simp only [add, scale, get_ofFunction]
  push_cast
  ring

end Exponents

namespace Dimension

/-! ## Masks and shifts -/

/-- Exponents in a word of 32 bits: the low five bits of each, shifted to the place of its axis. -/
def maskedWord (exponents : Exponents) : BitVec 32 :=
  Axis.all.foldl (fun word axis =>
    word ||| ((BitVec.ofInt 32 (exponents.get axis) &&& 31#32) <<< (5 * axis.index))) 0#32

/-- The five bits of an axis shifted down, and their sign extended by shifting up and down again. -/
def signedField (word : BitVec 32) (axis : Axis) : Int :=
  ((((word >>> (5 * axis.index)) &&& 31#32) <<< 27).sshiftRight 27).toInt

theorem setWidth_ofInt (exponent : Int) :
    (BitVec.ofInt 32 exponent).setWidth 5 = BitVec.ofInt 5 exponent := by
  apply BitVec.eq_of_toNat_eq
  rw [BitVec.toNat_setWidth, BitVec.toNat_ofInt, BitVec.toNat_ofInt]
  omega

theorem and_mask (word : BitVec 32) : word &&& 31#32 = (word.setWidth 5).setWidth 32 := by
  apply BitVec.eq_of_toNat_eq
  have low := Nat.and_two_pow_sub_one_eq_mod word.toNat 5
  rw [BitVec.toNat_and, BitVec.toNat_setWidth, BitVec.toNat_setWidth]
  change word.toNat &&& 31 = _
  norm_num at low
  omega

theorem toInt_sshiftRight_field :
    ∀ field : BitVec 5, ((field.setWidth 32 <<< 27).sshiftRight 27).toInt = field.toInt := by
  decide

/-- Masks and shifts put exponents together like the appended fields. -/
theorem setWidth_pack (exponents : Exponents) :
    (pack exponents).setWidth 32 = maskedWord exponents := by
  apply BitVec.eq_of_getLsbD_eq
  intro place inside
  simp only [maskedWord, Axis.all, List.foldl_cons, List.foldl_nil, Axis.index, and_mask,
    setWidth_ofInt, BitVec.getLsbD_or, BitVec.getLsbD_shiftLeft, BitVec.getLsbD_setWidth,
    getLsbD_pack, Exponents.get, BitVec.getLsbD_zero]
  grind

/-- Shifts and a mask read the field of an axis. -/
theorem exponent_eq_signedField (dimension : Dimension) (axis : Axis) :
    dimension.exponent axis = signedField (dimension.packed.setWidth 32) axis := by
  have field : (dimension.packed.setWidth 32 >>> (5 * axis.index)).setWidth 5 =
      dimension.packed.extractLsb' (5 * axis.index) 5 := by
    apply BitVec.eq_of_getLsbD_eq
    intro place inside
    have small : axis.index ≤ 3 := by cases axis <;> decide
    simp only [BitVec.getLsbD_setWidth, BitVec.getLsbD_ushiftRight, BitVec.getLsbD_extractLsb']
    grind
  rw [signedField, and_mask, field, toInt_sshiftRight_field, exponent]

theorem packed_eq_iff {left right : Dimension} :
    left.packed = right.packed ↔ left.exponents = right.exponents := by
  constructor
  · intro same
    cases left
    cases right
    exact congrArg (fun word => (Dimension.mk word).exponents) same
  · intro same
    rw [← pack_exponents, ← pack_exponents, same]

/-! ## Failures -/

theorem getElem?_all (axis : Axis) : Axis.all[axis.index]? = some axis := by
  cases axis <;> rfl

/-- The lowest axis whose exponent is out of range. -/
structure FirstOutside (exponents : Exponents) (axis : Axis) : Prop where
  outside : ¬InRange (exponents.get axis)
  lower : ∀ other, other.index < axis.index → InRange (exponents.get other)

/-- Exponents are refused for the lowest axis that is out of range. -/
theorem firstOutside_of_ofExponents {exponents : Exponents} {failure : Error}
    (failed : ofExponents exponents = .error failure) :
    ∃ axis, FirstOutside exponents axis ∧
      failure = .rangeOverflow axis (exponents.get axis) := by
  unfold ofExponents at failed
  split at failed
  · next axis found =>
      cases failed
      obtain ⟨outside, place, bound, here, before⟩ := List.find?_eq_some_iff_getElem.1 found
      refine ⟨axis, ⟨by simpa using outside, fun other lower => ?_⟩, rfl⟩
      have same : place = axis.index := by
        have place_lt : place < 4 := bound
        subst here
        interval_cases place <;> rfl
      have passed := before other.index (same ▸ lower)
      rw [(List.getElem?_eq_some_iff.1 (getElem?_all other)).2] at passed
      simpa using passed
  · cases failed

section Steps

variable {step : Dimension → Except Error Dimension} {amount : Exponents}

/-- Steps by the same amount that fail have failed at the first sum out of range. -/
theorem exists_of_repeated_error
    (steps : ∀ before, step before = ofExponents (before.exponents.add amount))
    {count : Nat} {start : Dimension} {failure : Error}
    (failed : repeated step count start = .error failure) :
    ∃ reached < count,
      (∀ earlier ≤ reached, ∀ axis, InRange (start.exponent axis + earlier * amount.get axis)) ∧
      ofExponents (start.exponents.add (amount.scale (reached + 1 : Nat))) = .error failure := by
  induction count generalizing start with
  | zero => cases failed
  | succ count ih =>
      rw [repeated] at failed
      cases taken : step start with
      | error first =>
          rw [taken] at failed
          cases failed
          refine ⟨0, Nat.succ_pos _, fun earlier least axis => ?_, ?_⟩
          · rw [Nat.le_zero.1 least, Nat.cast_zero, zero_mul, add_zero]
            exact inRange_exponent start axis
          · rw [Nat.zero_add, Nat.cast_one, Exponents.scale_one, ← steps, taken]
      | ok next =>
          rw [taken] at failed
          obtain ⟨reached, bound, within, stopped⟩ := ih failed
          have after := ofExponents_eq_ok_iff.1 ((steps start).symm.trans taken)
          refine ⟨reached + 1, Nat.succ_lt_succ bound, fun earlier least axis => ?_, ?_⟩
          · cases earlier with
            | zero =>
                rw [Nat.cast_zero, zero_mul, add_zero]
                exact inRange_exponent start axis
            | succ earlier =>
                have inside := within earlier (Nat.le_of_succ_le_succ least) axis
                rw [← get_exponents, after, Exponents.add, Exponents.get_ofFunction,
                  get_exponents] at inside
                rwa [Nat.cast_succ, add_mul, one_mul, add_comm (_ * _), ← add_assoc]
          · rw [← stopped, after, Exponents.add_scale_succ]

end Steps

/-- A failure reports the first multiple of a vector that is out of range, among so many, for the
lowest axis on which it is. -/
def ReportsFirst (amount : Exponents) (count : Nat) (failure : Error) : Prop :=
  ∃ reached ≤ count, ∃ axis,
    (∀ earlier < reached, ∀ other, InRange (earlier * amount.get other)) ∧
    FirstOutside (amount.scale reached) axis ∧
    failure = .rangeOverflow axis (reached * amount.get axis)

theorem reportsFirst_of_repeated {step : Dimension → Except Error Dimension} {amount : Exponents}
    (steps : ∀ before, step before = ofExponents (before.exponents.add amount)) {count : Nat}
    {failure : Error} (failed : repeated step count ratio = .error failure) :
    ReportsFirst amount count failure := by
  obtain ⟨reached, bound, within, stopped⟩ := exists_of_repeated_error steps failed
  have start (multiple : Exponents) : ratio.exponents.add multiple = multiple :=
    Exponents.ext_get fun axis => by simp [Exponents.add]
  rw [start] at stopped
  obtain ⟨axis, first, rfl⟩ := firstOutside_of_ofExponents stopped
  refine ⟨reached + 1, bound, axis, fun earlier less other => ?_, first, ?_⟩
  · simpa using within earlier (Nat.le_of_lt_succ less) other
  · rw [Exponents.scale, Exponents.get_ofFunction]

/-- A power that fails reports the first multiple of its exponents that is out of range, counted
away from zero. -/
theorem reportsFirst_of_times {dimension : Dimension} {power : Int} {failure : Error}
    (failed : dimension.times power = .error failure) :
    ReportsFirst (dimension.exponents.scale power.sign) power.natAbs failure := by
  unfold times at failed
  split at failed
  · cases failed
  · split at failed
    · next positive =>
        refine reportsFirst_of_repeated (fun before => congrArg ofExponents ?_) failed
        refine Exponents.ext_get fun axis => ?_
        simp [Exponents.add, Exponents.scale, Int.sign_eq_one_of_pos positive]
    · next notPositive =>
        -- The power is not zero, since no step at all does not fail.
        have negative : power < 0 := by
          refine lt_of_le_of_ne (not_lt.1 notPositive) ?_
          rintro rfl
          cases failed
        refine reportsFirst_of_repeated (fun before => congrArg ofExponents ?_) failed
        refine Exponents.ext_get fun axis => ?_
        simp [Exponents.add, Exponents.sub, Exponents.scale,
          Int.sign_eq_neg_one_of_neg negative, sub_eq_add_neg]

/-! ## Simulation -/

/-- An outcome simulates a vector: it is a dimension just when all exponents are in range, and then
the one with these exponents. -/
structure Simulates (outcome : Except Error Dimension) (exponents : Exponents) : Prop where
  succeeds : (∃ dimension, outcome = .ok dimension) ↔ ∀ axis, InRange (exponents.get axis)
  exact : ∀ dimension, outcome = .ok dimension → dimension.exponents = exponents

theorem simulates_ofExponents (exponents : Exponents) :
    Simulates (ofExponents exponents) exponents :=
  ⟨exists_ofExponents_iff, fun _ => ofExponents_eq_ok_iff.1⟩

theorem simulates_times (dimension : Dimension) (power : Int) :
    Simulates (dimension.times power) (dimension.exponents.scale power) where
  succeeds := by
    simp only [exists_times_iff, Exponents.scale, Exponents.get_ofFunction, get_exponents]
  exact result made := Exponents.ext_get fun axis => by
    rw [get_exponents, exponent_times made, Exponents.scale, Exponents.get_ofFunction,
      get_exponents]

/-- Dimensions simulate vectors of four integers.  Their words are the exponents masked and shifted
together, and are equal just when the exponents are.  Sums, differences, negations and multiples
succeed just when they are in range.  A multiple that fails reports the lowest axis that is out of
range at the first multiple on the way for which one is. -/
theorem simulates_vectors (exponents : Exponents) (left right : Dimension) (power : Int) :
    Simulates (ofExponents exponents) exponents ∧
      (pack exponents).setWidth 32 = maskedWord exponents ∧
      (∀ axis, left.exponent axis = signedField (left.packed.setWidth 32) axis) ∧
      (left.packed = right.packed ↔ left.exponents = right.exponents) ∧
      Simulates (left.plus right) (left.exponents.add right.exponents) ∧
      Simulates (left.minus right) (left.exponents.sub right.exponents) ∧
      Simulates left.flip left.exponents.neg ∧
      Simulates (left.times power) (left.exponents.scale power) ∧
      ∀ failure, left.times power = .error failure →
        ReportsFirst (left.exponents.scale power.sign) power.natAbs failure :=
  ⟨simulates_ofExponents exponents, setWidth_pack exponents, exponent_eq_signedField left,
    packed_eq_iff, simulates_ofExponents _, simulates_ofExponents _, simulates_ofExponents _,
    simulates_times left power, fun _ => reportsFirst_of_times⟩

/-- Exponents at the lower bound and beside it. -/
def steep : Dimension :=
  ⟨pack ⟨1, 5, -16, 0⟩⟩

/-- The least power of 32 bits fails at once, for the exponent that has no opposite. -/
theorem simulates_vectors_steep :
    steep.times (-2147483648) = .error (.rangeOverflow .time 16) ∧
      ReportsFirst (steep.exponents.scale (-1)) 2147483648 (.rangeOverflow .time 16) := by
  have failed : steep.times (-2147483648) = .error (.rangeOverflow .time 16) := by
    decide +kernel
  obtain ⟨_, _, _, _, _, _, _, _, reports⟩ :=
    simulates_vectors steep.exponents steep steep (-2147483648)
  exact ⟨failed, reports _ failed⟩

end Dimension

end Metrology
