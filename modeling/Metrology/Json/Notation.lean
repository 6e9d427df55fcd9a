import Metrology.Json

/-!
# The notation of numbers in JSON text

A number is an integer without leading zeros, a fraction and an exponent, of
which the last two may be missing.  Each part is taken off the text that the
part before it leaves.
-/

namespace Metrology.Json

/-- An integer part: zero alone, or digits that start with another one. -/
def takeWhole : List Char → Option (List Char × List Char)
  | '0' :: rest => some (['0'], rest)
  | text =>
      let digits := text.takeWhile Char.isDigit
      if digits.isEmpty then none else some (digits, text.dropWhile Char.isDigit)

/-- The digits of a fraction, if a point comes next. -/
def takeFraction : List Char → Option (List Char × List Char)
  | '.' :: rest =>
      let digits := rest.takeWhile Char.isDigit
      if digits.isEmpty then none else some (digits, rest.dropWhile Char.isDigit)
  | text => some ([], text)

/-- The digits of an exponent after its mark and sign. -/
def takeExponentDigits (negative : Bool) (text : List Char) :
    Option (Option Int × List Char) :=
  let digits := text.takeWhile Char.isDigit
  let size : Int := Numeral.digitsValue digits
  if digits.isEmpty then none
  else some (some (if negative then -size else size), text.dropWhile Char.isDigit)

/-- An exponent, if its mark comes next. -/
def takeExponent : List Char → Option (Option Int × List Char)
  | mark :: rest =>
      if mark = 'e' ∨ mark = 'E' then
        match rest with
        | '+' :: digits => takeExponentDigits false digits
        | '-' :: digits => takeExponentDigits true digits
        | digits => takeExponentDigits false digits
      else some (none, mark :: rest)
  | [] => some (none, [])

/-- The value of a number.  A whole number of at most 64 bits stays whole, and
a negative zero does not. -/
def numberValue (negative : Bool) (integer fraction : List Char)
    (exponent : Option Int) : Json :=
  let size : Int := Numeral.digitsValue integer
  let value := if negative then -size else size
  if fraction.isEmpty && exponent.isNone && !(negative && size == 0) &&
      -9223372036854775808 ≤ value && value ≤ 18446744073709551615 then
    .whole value
  else .written (.ofDigits negative integer fraction (exponent.getD 0))

/-- Take an unsigned number off a text; the sign is known already. -/
def takeUnsigned (negative : Bool) (text : List Char) :
    Option (Json × List Char) := do
  let (integer, afterInteger) ← takeWhole text
  let (fraction, afterFraction) ← takeFraction afterInteger
  let (exponent, rest) ← takeExponent afterFraction
  some (numberValue negative integer fraction exponent, rest)

/-- Take a number off a text. -/
def takeNumber : List Char → Option (Json × List Char)
  | '-' :: rest => takeUnsigned true rest
  | text => takeUnsigned false text

/-! ## Progress -/

theorem length_dropWhile_lt {test : Char → Bool} {text : List Char}
    (some_pass : ¬(text.takeWhile test).isEmpty = true) :
    (text.dropWhile test).length < text.length := by
  cases text with
  | nil => exact absurd rfl some_pass
  | cons first rest =>
      by_cases passes : test first = true
      · rw [List.dropWhile_cons_of_pos passes]
        exact Nat.lt_succ_of_le (List.dropWhile_suffix _).length_le
      · rw [List.takeWhile_cons_of_neg passes] at some_pass
        exact absurd rfl some_pass

theorem length_after_takeWhole {text digits after : List Char}
    (taken : takeWhole text = some (digits, after)) : after.length < text.length := by
  unfold takeWhole at taken
  split at taken
  · injection taken with equal
    injection equal with _ equal
    subst equal
    exact Nat.lt_succ_self _
  · simp only at taken
    split at taken
    · injection taken
    · next some_digits =>
        injection taken with equal
        injection equal with _ equal
        subst equal
        exact length_dropWhile_lt some_digits

theorem length_after_takeFraction {text digits after : List Char}
    (taken : takeFraction text = some (digits, after)) : after.length ≤ text.length := by
  unfold takeFraction at taken
  split at taken
  · simp only at taken
    split at taken
    · injection taken
    · injection taken with equal
      injection equal with _ equal
      subst equal
      exact Nat.le_succ_of_le (List.dropWhile_suffix _).length_le
  · injection taken with equal
    injection equal with _ equal
    subst equal
    exact Nat.le_refl _

theorem length_after_takeExponentDigits {negative : Bool} {text after : List Char}
    {exponent : Option Int}
    (taken : takeExponentDigits negative text = some (exponent, after)) :
    after.length ≤ text.length := by
  unfold takeExponentDigits at taken
  simp only at taken
  split at taken
  · injection taken
  · injection taken with equal
    injection equal with _ equal
    subst equal
    exact (List.dropWhile_suffix _).length_le

theorem length_after_takeExponent {text after : List Char} {exponent : Option Int}
    (taken : takeExponent text = some (exponent, after)) :
    after.length ≤ text.length := by
  unfold takeExponent at taken
  split at taken
  · split at taken
    · split at taken
      · have shorter := length_after_takeExponentDigits taken
        simp only [List.length_cons]
        omega
      · have shorter := length_after_takeExponentDigits taken
        simp only [List.length_cons]
        omega
      · exact Nat.le_succ_of_le (length_after_takeExponentDigits taken)
    · injection taken with equal
      injection equal with _ equal
      subst equal
      exact Nat.le_refl _
  · injection taken with equal
    injection equal with _ equal
    subst equal
    exact Nat.le_refl _

theorem length_after_takeUnsigned {negative : Bool} {text after : List Char}
    {value : Json} (taken : takeUnsigned negative text = some (value, after)) :
    after.length < text.length := by
  unfold takeUnsigned at taken
  cases integer : takeWhole text with
  | none => simp [integer] at taken
  | some integer_taken =>
      obtain ⟨digits, afterInteger⟩ := integer_taken
      cases fraction : takeFraction afterInteger with
      | none => simp [integer, fraction] at taken
      | some fraction_taken =>
          obtain ⟨places, afterFraction⟩ := fraction_taken
          cases exponent : takeExponent afterFraction with
          | none => simp [integer, fraction, exponent] at taken
          | some exponent_taken =>
              obtain ⟨power, rest⟩ := exponent_taken
              simp only [integer, fraction, exponent, Option.bind_eq_bind,
                Option.bind_some, Option.some.injEq, Prod.mk.injEq] at taken
              rw [← taken.2]
              exact Nat.lt_of_le_of_lt
                (Nat.le_trans (length_after_takeExponent exponent)
                  (length_after_takeFraction fraction))
                (length_after_takeWhole integer)

theorem length_after_takeNumber {text after : List Char} {value : Json}
    (taken : takeNumber text = some (value, after)) : after.length < text.length := by
  unfold takeNumber at taken
  split at taken
  · exact Nat.lt_succ_of_lt (length_after_takeUnsigned taken)
  · exact length_after_takeUnsigned taken

end Metrology.Json
