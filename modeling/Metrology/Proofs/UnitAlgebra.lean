import Metrology.Proofs.Choices
import Metrology.Proofs.Splitting
import Metrology.Proofs.Valuing

/-!
# The algebra of units

The net of an expression gives each of its tokens the sum of its exponents.  Products, quotients
and powers of units do with the nets what they do with the slopes, although every operation writes
its result down and the next one has to take it apart again.
-/

namespace Metrology

namespace UnitExpression

/-! ## Sums of exponents -/

/-- The sum of the exponents of a token is what terms come to when this token counts one and
all others nothing. -/
theorem ofAdd_exponentOf (terms : List UnitTerm) (token : String) :
    Multiplicative.ofAdd (exponentOf terms token) =
      valued (fun other => if other = token then Multiplicative.ofAdd 1 else 1) terms := by
  induction terms with
  | nil => rfl
  | cons first rest ih =>
      rw [valued_cons, ← ih]
      by_cases same : first.token = token
      · simp [exponentOf, total, same, ← ofAdd_zsmul, ofAdd_add]
      · simp [exponentOf, total, same]

theorem exponentOf_scaled (power : Int) (terms : List UnitTerm) :
    exponentOf (scaled power terms) = power • exponentOf terms := by
  funext token
  apply Multiplicative.ofAdd.injective
  rw [Pi.smul_apply, ofAdd_zsmul, ofAdd_exponentOf, ofAdd_exponentOf, valued_scaled]

theorem exponentOf_canonical (terms : List UnitTerm) :
    exponentOf (canonical terms) = exponentOf terms := by
  funext token
  apply Multiplicative.ofAdd.injective
  rw [ofAdd_exponentOf, ofAdd_exponentOf, valued_canonical]

/-! ## Nets -/

/-- An expression can be taken apart, and `net` gives each token the sum of its exponents.  A
token that is missing counts like one whose exponents cancel. -/
def HasNet (expression : String) (net : String → Int) : Prop :=
  ∃ terms, split expression = .ok terms ∧ exponentOf terms = net

/-- An expression can be taken apart, has no token twice and none to the power zero. -/
def Reduced (expression : String) : Prop :=
  ∃ terms, split expression = .ok terms ∧ (terms.map (·.token)).Nodup ∧
    ∀ term ∈ terms, term.exponent ≠ 0

/-- Every exponent can be written, without its sign if it goes below the slash. -/
def Fits (net : String → Int) : Prop :=
  ∀ token, (net token).natAbs ≤ greatestExponent

/-- Exponents that are small together fit in every sum. -/
theorem fits_exponentOf {terms : List UnitTerm} (bounded : weight terms ≤ greatestExponent) :
    Fits (exponentOf terms) := by
  intro token
  refine le_trans ?_ bounded
  induction terms with
  | nil => exact Nat.le_refl _
  | cons first rest ih =>
      have later := ih (le_trans (by simp [weight]) bounded)
      simp only [exponentOf, total, weight, List.filter_cons, List.map_cons, List.sum_cons]
        at later ⊢
      split
      · rw [List.map_cons, List.sum_cons]
        omega
      · omega

theorem poweredTerms_of_split {expression : String} {terms : List UnitTerm}
    (taken : split expression = .ok terms) (power : Int) :
    poweredTerms expression power = scaled power terms := by
  rw [poweredTerms, taken]
  rfl

/-- What is written from terms has the sums of their exponents. -/
theorem hasNet_format {terms : List UnitTerm} (tokens : ∀ term ∈ terms, IsToken term.token)
    (fits : Fits (exponentOf terms)) :
    HasNet (format terms) (exponentOf terms) ∧ Reduced (format terms) := by
  have reads := split_format (legible_of_sums tokens fun term _ => fits term.token)
  exact ⟨⟨_, reads, exponentOf_canonical terms⟩,
    ⟨_, reads, nodup_tokens_canonical terms, fun term member => (mem_canonical.1 member).2⟩⟩

/-- The sum of nets, each multiplied by the power that its expression is raised to. -/
def netOf (parts : List (String × Int)) (nets : List (String → Int)) : String → Int :=
  (List.zipWith (fun part net => part.2 • net) parts nets).sum

theorem exponentOf_parts {parts : List (String × Int)} {nets : List (String → Int)}
    (each : List.Forall₂ (fun part net => HasNet part.1 net) parts nets) :
    exponentOf (parts.flatMap fun part => poweredTerms part.1 part.2) = netOf parts nets ∧
      ∀ term ∈ parts.flatMap fun part => poweredTerms part.1 part.2, IsToken term.token := by
  induction each with
  | nil => exact ⟨rfl, fun _ impossible => absurd impossible List.not_mem_nil⟩
  | @cons part net parts nets first _ ih =>
      obtain ⟨terms, taken, rfl⟩ := first
      obtain ⟨sum, tokens⟩ := ih
      rw [List.flatMap_cons, poweredTerms_of_split taken]
      refine ⟨?_, List.forall_mem_append.2 ⟨fun term member => ?_, tokens⟩⟩
      · rw [exponentOf_append, exponentOf_scaled, sum, netOf, netOf, List.zipWith_cons_cons,
          List.sum_cons]
      · obtain ⟨original, inside, rfl⟩ := List.mem_map.1 member
        exact isToken_of_split taken original inside

/-- The net of a product is the sum of the nets of its parts. -/
theorem hasNet_product {parts : List (String × Int)} {nets : List (String → Int)}
    (each : List.Forall₂ (fun part net => HasNet part.1 net) parts nets)
    (fits : Fits (netOf parts nets)) :
    HasNet (product parts) (netOf parts nets) ∧ Reduced (product parts) := by
  obtain ⟨sum, tokens⟩ := exponentOf_parts each
  rw [← sum] at fits ⊢
  exact hasNet_format tokens fits

end UnitExpression

namespace MeasureUnit

open UnitExpression

section Texts

variable {α : Type} [Scalar α] {combine : MeasureUnit α → MeasureUnit α → MeasureUnit α}
  {sign : Int} {left right : MeasureUnit α} {first second : String → Int}

/-! ## Products and quotients -/

/-- An operation on units that writes the texts of the left one beside a power of the right one. -/
structure WritesBeside (combine : MeasureUnit α → MeasureUnit α → MeasureUnit α) (sign : Int) :
    Prop where
  expression : ∀ left right, (combine left right).expression =
    product [(left.expression, 1), (right.expression, sign)]
  larger : ∀ left right, (combine left right).larger =
    left.larger.map fun text => product [(text, 1), (right.expression, sign)]
  smaller : ∀ left right, (combine left right).smaller =
    left.smaller.map fun text => product [(text, 1), (right.expression, sign)]

theorem writesBeside_multiply : WritesBeside (α := α) multiply 1 :=
  ⟨expression_multiply, fun _ _ => rfl, fun _ _ => rfl⟩

theorem writesBeside_divide : WritesBeside (α := α) divide (-1) :=
  ⟨expression_divide, fun _ _ => rfl, fun _ _ => rfl⟩

/-- Two units combine to a net, as long as it can be written.  A neighbour of the combination is
the left unit's neighbour, combined with the right unit. -/
structure Joins (combine : MeasureUnit α → MeasureUnit α → MeasureUnit α)
    (left right : MeasureUnit α) (net : String → Int) : Prop where
  net : Fits net →
    HasNet (combine left right).expression net ∧ Reduced (combine left right).expression
  larger : ∀ neighbour : Option (MeasureUnit α), left.larger = neighbour.map (·.expression) →
    (combine left right).larger = neighbour.map fun unit => (combine unit right).expression
  smaller : ∀ neighbour : Option (MeasureUnit α), left.smaller = neighbour.map (·.expression) →
    (combine left right).smaller = neighbour.map fun unit => (combine unit right).expression

omit [Scalar α] in
theorem WritesBeside.joins (writes : WritesBeside combine sign)
    (leftNet : HasNet left.expression first) (rightNet : HasNet right.expression second) :
    Joins combine left right (first + sign • second) where
  net fits := by
    have sum : netOf [(left.expression, 1), (right.expression, sign)] [first, second] =
        first + sign • second := by simp [netOf]
    rw [writes.expression, ← sum]
    exact hasNet_product (.cons leftNet (.cons rightNet .nil)) (sum ▸ fits)
  larger neighbour next := by
    simp only [writes.larger, writes.expression, next, Option.map_map, Function.comp_def]
  smaller neighbour next := by
    simp only [writes.smaller, writes.expression, next, Option.map_map, Function.comp_def]

/-! ## Powers -/

/-- A unit is raised to a net, as long as it can be written.  The first power is the unit itself,
whose text is not written anew. -/
structure Raises (unit : MeasureUnit α) (power : Int) (raised : String → Int) : Prop where
  net : power = 1 ∨ Fits raised → HasNet (unit.power power).expression raised
  reduced : power ≠ 1 → Fits raised → Reduced (unit.power power).expression

theorem raises_power (leftNet : HasNet left.expression first) (power : Int) :
    Raises left power (power • first) := by
  by_cases single : power = 1
  · subst single
    refine ⟨fun _ => ?_, fun several => absurd rfl several⟩
    rwa [power_one, one_smul]
  · have raised : netOf [(left.expression, power)] [first] = power • first := by simp [netOf]
    have written (fits : Fits (power • first)) :
        HasNet (left.power power).expression (power • first) ∧
          Reduced (left.power power).expression := by
      rw [left.expression_power single, ← raised]
      exact hasNet_product (.cons leftNet .nil) (raised ▸ fits)
    exact ⟨fun fits => (written (fits.resolve_left single)).1, fun _ fits => (written fits).2⟩

end Texts

section Exact

variable {α : Type} [Field α] [LinearOrder α] [Elementary α] {left right : MeasureUnit α}
  {first second : String → Int}

/-- Products, quotients and powers of units whose expressions can be taken apart add, subtract and
multiply the nets, and have the products, quotients and powers of the slopes. -/
theorem units_combine_nets (leftNet : HasNet left.expression first)
    (rightNet : HasNet right.expression second) (power : Int) :
    (Joins multiply left right (first + second) ∧
        (left.multiply right).slope = left.slope * right.slope) ∧
      (Joins divide left right (first - second) ∧
        (left.divide right).slope = left.slope / right.slope) ∧
      Raises left power (power • first) ∧ (left.power power).slope = left.slope ^ power := by
  have product := writesBeside_multiply.joins leftNet rightNet
  have quotient := writesBeside_divide.joins leftNet rightNet
  rw [one_smul] at product
  rw [neg_one_smul, ← sub_eq_add_neg] at quotient
  exact ⟨⟨product, rfl⟩, ⟨quotient, rfl⟩, raises_power leftNet power, slope_power left power⟩

end Exact

/-- A unit that has one of its tokens on both sides of the slash. -/
def pressing : MeasureUnit ℚ :=
  ⟨"kg*m/s^2*m", "pressing", 3, 0, some "t*m/s^2*m", none, true⟩

/-- A unit with the same tokens. -/
def slowing : MeasureUnit ℚ :=
  ⟨"s^2*kg/m", "slowing", 2, 0, none, none, true⟩

def pressingTerms : List UnitTerm := [⟨"kg", 1⟩, ⟨"m", 1⟩, ⟨"s", -2⟩, ⟨"m", -1⟩]

def slowingTerms : List UnitTerm := [⟨"s", 2⟩, ⟨"kg", 1⟩, ⟨"m", -1⟩]

theorem units_combine_nets_slowing :
    HasNet pressing.expression (exponentOf pressingTerms) ∧
      HasNet slowing.expression (exponentOf slowingTerms) ∧
      (pressing.multiply slowing).expression = "kg^2/m" ∧
      HasNet "kg^2/m" (exponentOf pressingTerms + exponentOf slowingTerms) ∧
      (pressing.divide slowing).expression = "m/s^4" ∧
      HasNet "m/s^4" (exponentOf pressingTerms - exponentOf slowingTerms) ∧
      (pressing.power (-2)).expression = "s^4/kg^2" ∧
      HasNet "s^4/kg^2" ((-2 : Int) • exponentOf pressingTerms) ∧
      (pressing.power (-2)).slope = 1 / 9 ∧
      (pressing.multiply slowing).larger = some "t*kg/m" := by
  have left : HasNet pressing.expression (exponentOf pressingTerms) :=
    ⟨pressingTerms, by decide +kernel, rfl⟩
  have right : HasNet slowing.expression (exponentOf slowingTerms) :=
    ⟨slowingTerms, by decide +kernel, rfl⟩
  have sums : Fits (exponentOf pressingTerms + exponentOf slowingTerms) := by
    rw [← exponentOf_append]
    exact fits_exponentOf (by decide)
  have differences : Fits (exponentOf pressingTerms - exponentOf slowingTerms) := by
    rw [sub_eq_add_neg, ← neg_one_smul ℤ, ← exponentOf_scaled, ← exponentOf_append]
    exact fits_exponentOf (by decide)
  have powers : Fits ((-2 : Int) • exponentOf pressingTerms) := by
    rw [← exponentOf_scaled]
    exact fits_exponentOf (by decide)
  obtain ⟨⟨product, _⟩, ⟨quotient, _⟩, power, slope⟩ := units_combine_nets left right (-2)
  have multiplied : (pressing.multiply slowing).expression = "kg^2/m" := by decide +kernel
  have divided : (pressing.divide slowing).expression = "m/s^4" := by decide +kernel
  have raised : (pressing.power (-2)).expression = "s^4/kg^2" := by decide +kernel
  refine ⟨left, right, multiplied, multiplied ▸ (product.net sums).1, divided,
    divided ▸ (quotient.net differences).1, raised, raised ▸ power.net (.inr powers),
    slope.trans (by decide +kernel), ?_⟩
  rw [product.larger (some ⟨"t*m/s^2*m", "", 1, 0, none, none, true⟩) rfl]
  decide +kernel

end MeasureUnit

end Metrology
