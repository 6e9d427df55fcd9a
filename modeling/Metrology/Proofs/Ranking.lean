import Metrology.Parameter.Ranking
import Metrology.Proofs.MachineOrder

/-!
# Where amounts rank in order

Amounts of one dimension rank by magnitude, and amounts of different dimensions by how they
stand: zeros below all others, and by dimension among their kind.  Either of the two is a total
preorder.  Together they are not one: an amount of another dimension may stand between two
amounts of one dimension in the order opposite to their magnitudes.
-/

namespace Metrology

theorem Dimension.rank_le (dimension : Dimension) : dimension.rank ≤ 3 := by
  unfold rank
  repeat' split
  all_goals omega

/-- Only dimensions without a rank of their own rank equal. -/
theorem Dimension.rank_eq_zero_of_ne {left right : Dimension} (apart : left ≠ right)
    (tied : left.rank = right.rank) : left.rank = 0 := by
  unfold rank at tied ⊢
  grind

namespace Amount

open Scalar.Ordered (place)

variable {α : Type} [Scalar α] {left right lesser greater other first second third : Amount α}

/-- The magnitude is a number that equals itself. -/
def Defined (amount : Amount α) : Prop :=
  Scalar.same amount.magnitude amount.magnitude = true

instance (amount : Amount α) : Decidable amount.Defined :=
  inferInstanceAs (Decidable (_ = true))

/-- How an amount stands among those of other dimensions. -/
def standing (amount : Amount α) : Nat :=
  if amount.isZero then amount.dimension.rank else 4 + amount.dimension.rank

/-- An amount of another dimension stands between two amounts of one dimension, of which the
one with the lesser magnitude stands no lower than the other. -/
structure Wedged (lesser greater other : Amount α) : Prop where
  alike : lesser.dimension = greater.dimension
  apart : other.dimension ≠ lesser.dimension
  less : Scalar.less lesser.magnitude greater.magnitude = true
  above : greater.standing ≤ other.standing
  below : other.standing ≤ lesser.standing

/-! ## The two orders -/

theorem compare_add_left (offset first second : Nat) :
    compare (offset + first) (offset + second) = compare first second := by
  rw [← cmp_eq_compare, ← cmp_eq_compare]
  exact (strictMono_id.const_add offset).cmp_map_eq first second

/-- Across dimensions, amounts rank as they stand. -/
theorem rank_of_ne (apart : left.dimension ≠ right.dimension) :
    left.rank right = compare left.standing right.standing := by
  have leftRank := left.dimension.rank_le
  have rightRank := right.dimension.rank_le
  unfold rank standing
  rw [if_neg apart]
  cases left.isZero <;> cases right.isZero
  case false.false => exact (compare_add_left 4 _ _).symm
  case false.true => exact (compare_gt_iff_gt.2 (by simp; omega)).symm
  case true.false => exact (compare_lt_iff_lt.2 (by simp; omega)).symm
  case true.true => rfl

variable [Scalar.Ordered α]

/-- Within a dimension, amounts rank as their magnitudes lie. -/
theorem rank_of_eq (leftDefined : left.Defined) (rightDefined : right.Defined)
    (alike : left.dimension = right.dimension) :
    left.rank right = compare (place left.magnitude) (place right.magnitude) := by
  rw [rank, if_pos alike, Scalar.compare?_eq leftDefined rightDefined, Option.getD_some]

theorem rank_ne_gt_iff_of_eq (leftDefined : left.Defined) (rightDefined : right.Defined)
    (alike : left.dimension = right.dimension) :
    left.rank right ≠ .gt ↔ place left.magnitude ≤ place right.magnitude := by
  rw [rank_of_eq leftDefined rightDefined alike, compare_le_iff_le]

omit [Scalar.Ordered α] in
theorem rank_ne_gt_iff_of_ne (apart : left.dimension ≠ right.dimension) :
    left.rank right ≠ .gt ↔ left.standing ≤ right.standing := by
  rw [rank_of_ne apart, compare_le_iff_le]

/-- Amounts rank the other way round from the other side. -/
theorem rank_swap (leftDefined : left.Defined) (rightDefined : right.Defined) :
    right.rank left = (left.rank right).swap := by
  by_cases alike : left.dimension = right.dimension
  · rw [rank_of_eq leftDefined rightDefined alike, rank_of_eq rightDefined leftDefined alike.symm]
    exact Std.OrientedOrd.eq_swap
  · rw [rank_of_ne alike, rank_of_ne (Ne.symm alike)]
    exact Std.OrientedOrd.eq_swap

/-- Equal magnitudes of one dimension stand alike. -/
theorem standing_eq (leftDefined : left.Defined) (rightDefined : right.Defined)
    (alike : left.dimension = right.dimension)
    (same : place left.magnitude = place right.magnitude) : left.standing = right.standing := by
  have zeros : left.isZero = right.isZero := by
    rw [Bool.eq_iff_iff, isZero, isZero, Scalar.isZero_iff leftDefined,
      Scalar.isZero_iff rightDefined, same]
  rw [standing, standing, zeros, alike]

/-! ## Wedges -/

/-- A wedge is a circle: the greater amount ranks at most as high as the wedge, this at most as
high as the lesser amount, and yet the greater one ranks above the lesser one. -/
theorem Wedged.not_transitive (wedged : Wedged lesser greater other)
    (lesserDefined : lesser.Defined) (greaterDefined : greater.Defined) :
    greater.rank other ≠ .gt ∧ other.rank lesser ≠ .gt ∧ greater.rank lesser = .gt := by
  have less := (Scalar.Ordered.less_iff lesserDefined greaterDefined).1 wedged.less
  refine ⟨?_, ?_, ?_⟩
  · rw [rank_ne_gt_iff_of_ne (wedged.alike ▸ wedged.apart.symm)]
    exact wedged.above
  · rw [rank_ne_gt_iff_of_ne wedged.apart]
    exact wedged.below
  · rw [rank_of_eq greaterDefined lesserDefined wedged.alike.symm]
    exact compare_gt_iff_gt.2 less

theorem wedged_of_place (lesserDefined : lesser.Defined) (greaterDefined : greater.Defined)
    (alike : lesser.dimension = greater.dimension) (apart : other.dimension ≠ lesser.dimension)
    (less : place lesser.magnitude < place greater.magnitude)
    (above : greater.standing ≤ other.standing) (below : other.standing ≤ lesser.standing) :
    Wedged lesser greater other :=
  ⟨alike, apart, (Scalar.Ordered.less_iff lesserDefined greaterDefined).2 less, above, below⟩

/-- Where transitivity fails, two of the amounts have one dimension, and the third one is wedged
between them. -/
theorem exists_wedged (firstDefined : first.Defined) (secondDefined : second.Defined)
    (thirdDefined : third.Defined) (up : first.rank second ≠ .gt) (upper : second.rank third ≠ .gt)
    (down : first.rank third = .gt) :
    Wedged third first second ∨ Wedged first second third ∨ Wedged second third first := by
  by_cases ends : first.dimension = third.dimension
  · -- The ends are compared by magnitude, so the middle one is of another dimension.
    rw [rank_of_eq firstDefined thirdDefined ends, compare_gt_iff_gt] at down
    by_cases middle : first.dimension = second.dimension
    · rw [rank_ne_gt_iff_of_eq firstDefined secondDefined middle] at up
      rw [rank_ne_gt_iff_of_eq secondDefined thirdDefined (middle.symm.trans ends)] at upper
      exact absurd (up.trans upper) (not_le.2 down)
    · rw [rank_ne_gt_iff_of_ne middle] at up
      rw [rank_ne_gt_iff_of_ne (ends ▸ Ne.symm middle)] at upper
      exact .inl (wedged_of_place thirdDefined firstDefined ends.symm (ends ▸ Ne.symm middle) down
        up upper)
  · -- The ends are compared by standing, so the middle one is of the dimension of an end.
    rw [rank_of_ne ends, compare_gt_iff_gt] at down
    by_cases start : first.dimension = second.dimension
    · rw [rank_ne_gt_iff_of_eq firstDefined secondDefined start] at up
      rw [rank_ne_gt_iff_of_ne (start ▸ ends)] at upper
      have less : place first.magnitude < place second.magnitude :=
        lt_of_le_of_ne up fun same => by
          have standing := standing_eq firstDefined secondDefined start same
          omega
      exact .inr (.inl (wedged_of_place firstDefined secondDefined start (Ne.symm ends) less upper
        down.le))
    · rw [rank_ne_gt_iff_of_ne start] at up
      by_cases finish : second.dimension = third.dimension
      · rw [rank_ne_gt_iff_of_eq secondDefined thirdDefined finish] at upper
        have less : place second.magnitude < place third.magnitude :=
          lt_of_le_of_ne upper fun same => by
            have standing := standing_eq secondDefined thirdDefined finish same
            omega
        exact .inr (.inr (wedged_of_place secondDefined thirdDefined finish start less down.le up))
      · rw [rank_ne_gt_iff_of_ne finish] at upper
        omega

/-- Either nothing of a wedge is zero and its dimensions rank below all named ones, or the
lesser amount is negative and the greater one zero. -/
theorem Wedged.tied_or_negative (wedged : Wedged lesser greater other)
    (lesserDefined : lesser.Defined) (greaterDefined : greater.Defined) :
    (lesser.isZero = false ∧ greater.isZero = false ∧ other.isZero = false ∧
        lesser.dimension.rank = 0 ∧ other.dimension.rank = 0) ∨
      (Scalar.less lesser.magnitude 0 = true ∧ greater.isZero = true) := by
  have less := (Scalar.Ordered.less_iff lesserDefined greaterDefined).1 wedged.less
  have lesserRank := lesser.dimension.rank_le
  have otherRank := other.dimension.rank_le
  have above := wedged.above
  have below := wedged.below
  unfold standing at above below
  rw [← wedged.alike] at above
  cases greaterZero : greater.isZero with
  | true =>
      refine .inr ⟨(Scalar.Ordered.less_iff lesserDefined Scalar.Ordered.zero).2 ?_, rfl⟩
      rwa [← (Scalar.isZero_iff greaterDefined).1 greaterZero]
  | false =>
      cases lesserZero : lesser.isZero <;> cases otherZero : other.isZero <;>
        simp only [greaterZero, lesserZero, otherZero, Bool.false_eq_true, if_true, if_false]
          at above below <;> try omega
      have tied : lesser.dimension.rank = other.dimension.rank := by omega
      have lowest := Dimension.rank_eq_zero_of_ne wedged.apart.symm tied
      exact .inl ⟨rfl, rfl, rfl, lowest, tied ▸ lowest⟩

/-! ## Main results -/

/-- Amounts that are not negative rank in order, as long as no two of their dimensions rank
equal. -/
theorem rank_trans_of_nonnegative (firstDefined : first.Defined) (secondDefined : second.Defined)
    (thirdDefined : third.Defined)
    (nonnegative : ∀ amount ∈ [first, second, third], Scalar.less amount.magnitude 0 = false)
    (apart : ∀ left ∈ [first, second, third], ∀ right ∈ [first, second, third],
      left.dimension.rank = right.dimension.rank → left.dimension = right.dimension)
    (up : first.rank second ≠ .gt) (upper : second.rank third ≠ .gt) :
    first.rank third ≠ .gt := by
  have unwedged {lesser greater other : Amount α} (lesserIn : lesser ∈ [first, second, third])
      (otherIn : other ∈ [first, second, third]) (lesserDefined : lesser.Defined)
      (greaterDefined : greater.Defined) : ¬Wedged lesser greater other := by
    intro wedged
    rcases wedged.tied_or_negative lesserDefined greaterDefined with
      ⟨_, _, _, lesserLow, otherLow⟩ | ⟨negative, _⟩
    · exact wedged.apart (apart other otherIn lesser lesserIn (otherLow.trans lesserLow.symm))
    · rw [nonnegative lesser lesserIn] at negative
      cases negative
  intro down
  rcases exists_wedged firstDefined secondDefined thirdDefined up upper down with
    wedged | wedged | wedged
  · exact unwedged (by simp) (by simp) thirdDefined firstDefined wedged
  · exact unwedged (by simp) (by simp) firstDefined secondDefined wedged
  · exact unwedged (by simp) (by simp) secondDefined thirdDefined wedged

/-- Defined amounts rank the other way round from the other side.  They rank in order just when
no amount among them stands the wrong way between two of another dimension. -/
theorem rank_transitive_iff (amounts : Set (Amount α))
    (defined : ∀ amount ∈ amounts, amount.Defined) :
    (∀ left ∈ amounts, ∀ right ∈ amounts, right.rank left = (left.rank right).swap) ∧
      ((∀ first ∈ amounts, ∀ second ∈ amounts, ∀ third ∈ amounts,
          first.rank second ≠ .gt → second.rank third ≠ .gt → first.rank third ≠ .gt) ↔
        ∀ lesser ∈ amounts, ∀ greater ∈ amounts, ∀ other ∈ amounts,
          ¬Wedged lesser greater other) := by
  refine ⟨fun left leftIn right rightIn => rank_swap (defined left leftIn) (defined right rightIn),
    ?_, ?_⟩
  · intro transitive lesser lesserIn greater greaterIn other otherIn wedged
    obtain ⟨up, upper, down⟩ :=
      wedged.not_transitive (defined lesser lesserIn) (defined greater greaterIn)
    exact transitive greater greaterIn other otherIn lesser lesserIn up upper down
  · intro unwedged first firstIn second secondIn third thirdIn up upper down
    rcases exists_wedged (defined first firstIn) (defined second secondIn) (defined third thirdIn)
      up upper down with wedged | wedged | wedged
    · exact unwedged third thirdIn first firstIn second secondIn wedged
    · exact unwedged first firstIn second secondIn third thirdIn wedged
    · exact unwedged second secondIn third thirdIn first firstIn wedged

/-- One second, two seconds and a meter: the meter ranks equal to both, and the two seconds above
the one. -/
theorem rank_transitive_iff_seconds :
    ∃ amounts : Set (Amount Float), (∀ amount ∈ amounts, amount.Defined) ∧
      ⟨2, .time⟩ ∈ amounts ∧ ⟨1, .length⟩ ∈ amounts ∧ ⟨1, .time⟩ ∈ amounts ∧
      (∀ left ∈ amounts, ∀ right ∈ amounts, right.rank left = (left.rank right).swap) ∧
      ¬∀ first ∈ amounts, ∀ second ∈ amounts, ∀ third ∈ amounts,
        first.rank second ≠ .gt → second.rank third ≠ .gt → first.rank third ≠ .gt := by
  have defined : ∀ amount ∈ ({⟨2, .time⟩, ⟨1, .length⟩, ⟨1, .time⟩} : Set (Amount Float)),
      amount.Defined := by
    rintro amount (rfl | rfl | rfl)
    all_goals decide +kernel
  obtain ⟨swapped, transitive⟩ := rank_transitive_iff _ defined
  refine ⟨_, defined, .inl rfl, .inr (.inl rfl), .inr (.inr rfl), swapped, fun always => ?_⟩
  refine transitive.1 always ⟨1, .time⟩ (.inr (.inr rfl)) ⟨2, .time⟩ (.inl rfl) ⟨1, .length⟩
    (.inr (.inl rfl)) ⟨rfl, ?_, ?_, ?_, ?_⟩
  all_goals decide +kernel

end Amount

end Metrology
