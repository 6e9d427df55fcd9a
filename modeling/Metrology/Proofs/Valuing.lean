import Metrology.Proofs.Combining

/-!
# Values of terms

When tokens stand for elements of a commutative group, terms stand for a product of
powers.  Combining terms and putting them in order leave the product as it is.
-/

namespace Metrology.UnitExpression

variable {G : Type} [CommGroup G] (value : String → G)

/-- The product of the values of the tokens, each raised to its exponent. -/
def valued (terms : List UnitTerm) : G :=
  (terms.map fun term => value term.token ^ term.exponent).prod

@[simp]
theorem valued_nil : valued value [] = 1 := rfl

@[simp]
theorem valued_cons (term : UnitTerm) (terms : List UnitTerm) :
    valued value (term :: terms) = value term.token ^ term.exponent * valued value terms :=
  List.prod_cons

@[simp]
theorem valued_append (left right : List UnitTerm) :
    valued value (left ++ right) = valued value left * valued value right := by
  simp [valued]

theorem valued_addTerm (term : UnitTerm) (terms : List UnitTerm) :
    valued value (addTerm term terms) =
      valued value terms * value term.token ^ term.exponent := by
  induction terms with
  | nil => simp [addTerm]
  | cons first rest ih =>
      rw [addTerm]
      split
      · next same =>
          rw [valued_cons, valued_cons, same, zpow_add, mul_right_comm]
      · rw [valued_cons, valued_cons, ih, mul_assoc]

theorem valued_combine (terms : List UnitTerm) :
    valued value (combine terms) = valued value terms := by
  induction terms using List.reverseRecOn with
  | nil => rfl
  | append_singleton terms term ih =>
      rw [combine_append_singleton, valued_addTerm, ih, valued_append, valued_cons, valued_nil,
        mul_one]

/-- A product is that of the values with positive and those with negative exponents, if the
others count nothing. -/
theorem prod_signs {β M : Type} [CommMonoid M] (exponent : β → Int) {value : β → M}
    (neutral : ∀ item, exponent item = 0 → value item = 1) (items : List β) :
    ((items.filter (0 < exponent ·)).map value).prod *
        ((items.filter (exponent · < 0)).map value).prod = (items.map value).prod := by
  induction items with
  | nil => simp
  | cons item rest ih =>
      rw [List.map_cons, List.prod_cons, ← ih, List.filter_cons, List.filter_cons]
      rcases lt_trichotomy (exponent item) 0 with negative | vanishing | positive
      · simp only [negative, not_lt_of_gt negative, decide_true, decide_false, if_true,
          Bool.false_eq_true, if_false, List.map_cons, List.prod_cons]
        exact mul_left_comm _ _ _
      · simp only [vanishing, lt_irrefl, decide_false, Bool.false_eq_true, if_false,
          neutral item vanishing, one_mul]
      · simp only [positive, not_lt_of_gt positive, decide_true, decide_false, if_true,
          Bool.false_eq_true, if_false, List.map_cons, List.prod_cons]
        exact mul_assoc _ _ _

/-- Vanishing terms do not count. -/
theorem valued_above_below (terms : List UnitTerm) :
    valued value (aboveTerms terms) * valued value (belowTerms terms) = valued value terms :=
  prod_signs (·.exponent) (fun term vanishing => by rw [vanishing, zpow_zero]) terms

theorem valued_canonical (terms : List UnitTerm) :
    valued value (canonical terms) = valued value terms := by
  rw [canonical, valued_append, valued_above_below, valued_combine]

theorem valued_scaled (power : Int) (terms : List UnitTerm) :
    valued value (scaled power terms) = valued value terms ^ power := by
  induction terms with
  | nil => simp [scaled]
  | cons first rest ih =>
      rw [scaled, List.map_cons, ← scaled, valued_cons, valued_cons, ih, mul_zpow, zpow_mul]

end Metrology.UnitExpression
