import Mathlib.Tactic
import Metrology.Number.Scalar

/-!
# Exact scalars

In an ordered field the operations of scalars are exact.  What the field does
not fix, numerals and the elementary functions, may be anything at all.
-/

namespace Metrology

/-- What a scalar needs beside its ordered field. -/
class Elementary (α : Type) where
  ofNumeral : Numeral → α
  toNumeral : α → Numeral
  toInt? : α → Option Int
  power : α → α → α
  exponential : α → α
  naturalLogarithm : α → α
  decimalLogarithm : α → α
  sine : α → α
  cosine : α → α
  tangent : α → α
  arcsine : α → α
  arccosine : α → α
  arctangent : α → α

/-- Exact arithmetic and exact comparison. -/
instance exactScalar {α : Type} [Field α] [LinearOrder α] [Elementary α] : Scalar α where
  ofNumeral := Elementary.ofNumeral
  toNumeral := Elementary.toNumeral
  same left right := left = right
  less left right := left < right
  absolute value := |value|
  isFinite _ := true
  toInt? := Elementary.toInt?
  power := Elementary.power
  exponential := Elementary.exponential
  naturalLogarithm := Elementary.naturalLogarithm
  decimalLogarithm := Elementary.decimalLogarithm
  sine := Elementary.sine
  cosine := Elementary.cosine
  tangent := Elementary.tangent
  arcsine := Elementary.arcsine
  arccosine := Elementary.arccosine
  arctangent := Elementary.arctangent

/-- The whole number that a rational number is, if it is one. -/
def Rational.toInt? (value : ℚ) : Option Int :=
  if value.den = 1 then some value.num else none

/-- Rational numbers, of which the whole ones have a numeral.  An elementary
function is given by the value at the point where that value is rational. -/
instance rationalElementary : Elementary ℚ where
  ofNumeral
    | .finite negative digits exponent =>
        (if negative then -1 else 1) * (digits : ℚ) * 10 ^ exponent
    | _ => 0
  toNumeral value :=
    match Rational.toInt? value with
    | some whole => .ofInt whole
    | none => .undefined
  toInt? := Rational.toInt?
  power base exponent :=
    match Rational.toInt? exponent with
    | some whole => base ^ whole
    | none => 0
  exponential _ := 1
  naturalLogarithm _ := 0
  decimalLogarithm _ := 0
  sine _ := 0
  cosine _ := 1
  tangent _ := 0
  arcsine _ := 0
  arccosine _ := 0
  arctangent _ := 0

namespace Scalar

variable {α : Type} [Field α] [LinearOrder α] [Elementary α]

/-- Squaring between binary digits computes the power. -/
theorem powerOnto_eq (result base : α) (count : Nat) :
    powerOnto result base count = result * base ^ count := by
  induction count using Nat.strong_induction_on generalizing result base with
  | _ count ih =>
      have halves := Nat.div_add_mod count 2
      rw [powerOnto]
      by_cases done : count / 2 = 0
      · rw [if_pos done]
        rw [done] at halves
        rcases Nat.mod_two_eq_zero_or_one count with even | odd
        · rw [if_neg (by omega), show count = 0 by omega, pow_zero, mul_one]
        · rw [if_pos odd, show count = 1 by omega, pow_one]
      · rw [if_neg done, ih (count / 2) (by omega), ← sq, ← pow_mul]
        rcases Nat.mod_two_eq_zero_or_one count with even | odd
        · rw [if_neg (by omega), show 2 * (count / 2) = count by omega]
        · rw [if_pos odd, mul_assoc, ← pow_succ', show 2 * (count / 2) + 1 = count by omega]

theorem powerInt_eq_zpow (base : α) (exponent : Int) :
    powerInt base exponent = base ^ exponent := by
  rw [powerInt]
  simp only [powerOnto_eq, one_mul]
  split
  · next negative =>
      rw [one_div, ← zpow_natCast, ← zpow_neg]
      congr 1
      omega
  · next nonnegative =>
      rw [← zpow_natCast]
      congr 1
      omega

end Scalar

end Metrology
