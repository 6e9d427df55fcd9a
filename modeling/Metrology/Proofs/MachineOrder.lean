import Metrology.Number.Binary64
import Metrology.Proofs.Announcing
import Metrology.Proofs.Deriving

/-!
# Numbers in order

The numbers that equal themselves lie in a linear order, and comparing two of them compares
their places.  Exact numbers are their own places.  A machine number has its place by its sign,
its exponent and its significand, in this order; both zeros have the same one.
-/

namespace Metrology

/-- Numbers with places in a linear order. -/
class Scalar.Ordered (α : Type) [Scalar α] where
  Place : Type
  [linearOrder : LinearOrder Place]
  place : α → Place
  less_iff : ∀ {left right : α}, Scalar.same left left = true → Scalar.same right right = true →
    (Scalar.less left right = true ↔ place left < place right)
  same_iff : ∀ {left right : α}, Scalar.same left left = true → Scalar.same right right = true →
    (Scalar.same left right = true ↔ place left = place right)
  zero : Scalar.same (0 : α) 0 = true

attribute [reducible, instance] Scalar.Ordered.linearOrder

instance exactOrdered {α : Type} [Field α] [LinearOrder α] [Elementary α] :
    Scalar.Ordered α where
  Place := α
  place value := value
  less_iff _ _ := decide_eq_true_iff
  same_iff _ _ := decide_eq_true_iff
  zero := decide_eq_true rfl

namespace Scalar

variable {α : Type} [Scalar α] [Ordered α] {left right : α}

open Ordered

/-- Defined numbers compare as their places do. -/
theorem compare?_eq (leftDefined : same left left = true) (rightDefined : same right right = true) :
    compare? left right = some (compare (place left) (place right)) := by
  unfold compare?
  simp only [less_iff leftDefined rightDefined, same_iff leftDefined rightDefined,
    less_iff rightDefined leftDefined]
  rcases lt_trichotomy (place left) (place right) with less | same | greater
  · rw [if_pos less, compare_lt_iff_lt.2 less]
  · rw [if_neg same.not_lt, if_pos same, compare_eq_iff_eq.2 same]
  · rw [if_neg greater.not_gt, if_neg greater.ne', if_pos greater, compare_gt_iff_gt.2 greater]

theorem isZero_iff (defined : same left left = true) :
    isZero left = true ↔ place left = place (0 : α) :=
  same_iff defined zero

end Scalar

/-! ## Machine numbers -/

namespace Binary64

open Float.Model

/-- Where a machine number lies. -/
def placeOf : UnpackedFloat → Int ×ₗ Int ×ₗ Int
  | .infinity .negative => toLex (-2, toLex (0, 0))
  | .finite .negative significand exponent _ => toLex (-1, toLex (-exponent, -significand))
  | .finite .positive significand exponent _ => toLex (1, toLex (exponent, significand))
  | .infinity .positive => toLex (2, toLex (0, 0))
  | .zero _ | .notANumber => toLex (0, toLex (0, 0))

theorem compare_toLex {β γ : Type} [LinearOrder β] [LinearOrder γ] (first second : β)
    (before behind : γ) :
    compare (toLex (first, before)) (toLex (second, behind)) =
      (compare first second).then (compare before behind) := by
  rw [Prod.Lex.compare_def]
  rfl

theorem compare_natCast (first second : Nat) :
    compare (first : Int) second = compare first second := by
  rw [← cmp_eq_compare, ← cmp_eq_compare]
  exact Nat.strictMono_cast.cmp_map_eq first second

theorem compare_neg (first second : Int) :
    compare (-first) (-second) = (compare first second).swap := by
  have reverses : StrictAnti (fun value : Int => -value) := fun _ _ => neg_lt_neg
  rw [← cmp_eq_compare, ← cmp_eq_compare, cmp_swap]
  exact reverses.cmp_map_eq first second

/-- Machine numbers compare as their places do, if both are defined. -/
theorem compare_eq {left right : UnpackedFloat} (leftDefined : left ≠ .notANumber)
    (rightDefined : right ≠ .notANumber) :
    left.compare right = some (compare (placeOf left) (placeOf right)) := by
  rcases left with (_ | _) | _ | (_ | _) | ⟨_ | _, leftSignificand, leftExponent, _⟩ <;>
  rcases right with (_ | _) | _ | (_ | _) | ⟨_ | _, rightSignificand, rightExponent, _⟩
  case finite.negative.finite.negative =>
    refine congrArg some ((compare_toLex _ _ _ _).trans ?_).symm
    rw [compare_toLex, compare_neg leftExponent, compare_neg leftSignificand, compare_natCast,
      ← Ordering.swap_then]
    rfl
  case finite.positive.finite.positive =>
    refine congrArg some ((compare_toLex _ _ _ _).trans ?_).symm
    rw [compare_toLex, compare_natCast]
    rfl
  all_goals
    first
    | rfl
    | exact absurd rfl leftDefined
    | exact absurd rfl rightDefined

theorem compare_notANumber (value : UnpackedFloat) : value.compare .notANumber = none := by
  cases value <;> rfl

theorem ne_notANumber_of_same {left right : Float} (same : Scalar.same left right = true) :
    left.toModel.unpack ≠ .notANumber ∧ right.toModel.unpack ≠ .notANumber := by
  change (left.toModel.unpack.compare right.toModel.unpack == some .eq) = true at same
  constructor
  · intro undefined
    rw [undefined] at same
    cases same
  · intro undefined
    rw [undefined, compare_notANumber] at same
    cases same

/-- The place of a positive number is that of no other number. -/
theorem eq_of_placeOf {value : UnpackedFloat} {significand : Nat} {exponent : Int}
    {positive : 0 < significand}
    (same : placeOf value = placeOf (.finite .positive significand exponent positive)) :
    value = .finite .positive significand exponent positive := by
  have sign : (ofLex (placeOf value)).1 = 1 := congrArg (fun place => (ofLex place).1) same
  rcases value with (_ | _) | _ | (_ | _) | ⟨_ | _, own, power, _⟩
  case finite.positive =>
    have rest := congrArg (fun place => ofLex (ofLex place).2) same
    obtain rfl : power = exponent := congrArg Prod.fst rest
    obtain rfl : own = significand := Int.ofNat.inj (congrArg Prod.snd rest)
    rfl
  case finite.negative => exact absurd sign (show (-1 : Int) ≠ 1 by decide)
  all_goals exact absurd sign (by decide)

theorem same_iff {left right : Float} (leftDefined : left.toModel.unpack ≠ .notANumber)
    (rightDefined : right.toModel.unpack ≠ .notANumber) :
    Scalar.same left right = true ↔
      placeOf left.toModel.unpack = placeOf right.toModel.unpack := by
  change (left.toModel.unpack.compare right.toModel.unpack == some .eq) = true ↔ _
  rw [compare_eq leftDefined rightDefined, beq_iff_eq, Option.some.injEq, compare_eq_iff_eq]

/-- What equals one is one. -/
theorem unpack_of_same_one {value : Float} (one : Scalar.same value 1 = true) :
    value.toModel.unpack = (1 : Float).toModel.unpack := by
  obtain ⟨valueDefined, oneDefined⟩ := ne_notANumber_of_same one
  have unpacked : (1 : Float).toModel.unpack = .finite .positive (2 ^ 52) (-52) (by decide) :=
    eq_of_placeOf (by decide +kernel)
  rw [same_iff valueDefined oneDefined, unpacked] at one
  rw [unpacked]
  exact eq_of_placeOf one

end Binary64

instance : Scalar.Ordered Float where
  Place := Int ×ₗ Int ×ₗ Int
  place value := Binary64.placeOf value.toModel.unpack
  less_iff {left right} leftDefined rightDefined := by
    change decide (left < right) = true ↔ _
    rw [decide_eq_true_iff]
    change decide (left.toModel < right.toModel) = true ↔ _
    rw [decide_eq_true_iff]
    change (left.toModel.unpack.compare right.toModel.unpack == some .lt) = true ↔ _
    rw [Binary64.compare_eq (Binary64.ne_notANumber_of_same leftDefined).1
      (Binary64.ne_notANumber_of_same rightDefined).1, beq_iff_eq, Option.some.injEq,
      compare_lt_iff_lt]
  same_iff leftDefined rightDefined :=
    Binary64.same_iff (Binary64.ne_notANumber_of_same leftDefined).1
      (Binary64.ne_notANumber_of_same rightDefined).1
  zero := by decide +kernel

instance : Scalar.Comparable Float where
  same_symm left right same := by
    obtain ⟨leftDefined, rightDefined⟩ := Binary64.ne_notANumber_of_same same
    rw [Binary64.same_iff leftDefined rightDefined] at same
    exact (Binary64.same_iff rightDefined leftDefined).2 same.symm
  same_trans left middle right first second := by
    obtain ⟨leftDefined, middleDefined⟩ := Binary64.ne_notANumber_of_same first
    obtain ⟨_, rightDefined⟩ := Binary64.ne_notANumber_of_same second
    rw [Binary64.same_iff leftDefined middleDefined] at first
    rw [Binary64.same_iff middleDefined rightDefined] at second
    exact (Binary64.same_iff leftDefined rightDefined).2 (first.trans second)

instance : Scalar.Unital Float where
  zero := by decide +kernel
  one := by decide +kernel
  numeral := by decide +kernel
  mul {left right} leftOne rightOne := by
    have product : left * right = (1 : Float) * 1 :=
      congrArg₂ (fun first second => Float.ofModel (.pack (.mul .binary64 first second)))
        (Binary64.unpack_of_same_one leftOne) (Binary64.unpack_of_same_one rightOne)
    rw [product]
    decide +kernel
  div {left right} leftOne rightOne := by
    have quotient : left / right = (1 : Float) / 1 :=
      congrArg₂ (fun first second => Float.ofModel (.pack (.div .binary64 first second)))
        (Binary64.unpack_of_same_one leftOne) (Binary64.unpack_of_same_one rightOne)
    rw [quotient]
    decide +kernel

end Metrology
