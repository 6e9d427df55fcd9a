import Metrology.Proofs.Representation
import Metrology.Proofs.Valuing

/-!
# Scales of texts

A text whose tokens are units of a fixed registry has a scale: the exponents of the axes
and the slope that its tokens multiply up to.  Powers, products and quotients of units act
on scales as they act on texts, as long as no exponent is too great to be read back.
-/

namespace Metrology

open UnitExpression

/-! ## Scales -/

/-- The exponents of the axes and the slope of a unit. -/
abbrev Scale := (Axis → Multiplicative ℤ) × ℚˣ

namespace Scale

variable {scale other : Scale} {dimension second result : Dimension} {slope factor : ℚ}

/-- A scale of a dimension. -/
structure Measures (scale : Scale) (dimension : Dimension) (slope : ℚ) : Prop where
  exponent : ∀ axis, (scale.1 axis).toAdd = dimension.exponent axis
  slope : (scale.2 : ℚ) = slope

theorem Measures.times {power : Int} (measures : scale.Measures dimension slope)
    (made : dimension.times power = .ok result) :
    (scale ^ power).Measures result (slope ^ power) := by
  constructor
  · intro axis
    rw [Dimension.exponent_times made, ← measures.exponent axis, Prod.pow_fst, Pi.pow_apply,
      toAdd_zpow, smul_eq_mul]
  · rw [Prod.pow_snd, Units.val_zpow_eq_zpow_val, measures.slope]

theorem Measures.plus (left : scale.Measures dimension slope)
    (right : other.Measures second factor) (made : dimension.plus second = .ok result) :
    (scale * other).Measures result (slope * factor) := by
  constructor
  · intro axis
    rw [Dimension.exponent_plus made, ← left.exponent axis, ← right.exponent axis,
      Prod.fst_mul, Pi.mul_apply, toAdd_mul]
  · rw [Prod.snd_mul, Units.val_mul, left.slope, right.slope]

theorem Measures.minus (left : scale.Measures dimension slope)
    (right : other.Measures second factor) (made : dimension.minus second = .ok result) :
    (scale * other ^ (-1 : Int)).Measures result (slope / factor) := by
  constructor
  · intro axis
    rw [Dimension.exponent_minus made, ← left.exponent axis, ← right.exponent axis,
      Prod.fst_mul, Pi.mul_apply, toAdd_mul, Prod.pow_fst, Pi.pow_apply, toAdd_zpow,
      smul_eq_mul]
    ring
  · rw [Prod.snd_mul, Units.val_mul, Prod.pow_snd, Units.val_zpow_eq_zpow_val, left.slope,
      right.slope, zpow_neg_one, div_eq_mul_inv]

/-- A scale measures one dimension with one slope. -/
theorem Measures.unique (left : scale.Measures dimension slope)
    (right : scale.Measures second factor) : dimension = second ∧ slope = factor :=
  ⟨Dimension.eq_of_exponent fun axis => (left.exponent axis).symm.trans (right.exponent axis),
    left.slope.symm.trans right.slope⟩

end Scale

/-! ## Texts -/

namespace UnitExpression

/-- Whether every exponent in the product of expressions fits the word that exponents are
read into. -/
def writesFit (parts : List (String × Int)) : Bool :=
  (combine (parts.flatMap fun part => poweredTerms part.1 part.2)).all fun term =>
    term.exponent.natAbs ≤ greatestExponent

end UnitExpression

/-- The scale of a unit whose slope does not vanish. -/
def UnitEntry.scale (entry : UnitEntry ℚ) : Scale :=
  (fun axis => .ofAdd (entry.dimension.exponent axis),
    if vanishing : entry.unit.slope = 0 then 1 else Units.mk0 entry.unit.slope vanishing)

/-- A unit that multiplies values by something. -/
structure UnitEntry.Proportional (entry : UnitEntry ℚ) : Prop where
  slope : entry.unit.slope ≠ 0
  intercept : entry.unit.intercept = 0

theorem UnitEntry.Proportional.measures {entry : UnitEntry ℚ} (proportional : entry.Proportional) :
    entry.scale.Measures entry.dimension entry.unit.slope := by
  refine ⟨fun _ => rfl, ?_⟩
  rw [UnitEntry.scale, dif_neg proportional.slope, Units.val_mk0]

namespace Registry

/-- The scale of the unit that has a token as its expression. -/
def scaleOf (basis : Registry ℚ) (token : String) : Scale :=
  ((basis.findExpression? token).map UnitEntry.scale).getD 1

/-- A token is the expression of a unit that has a scale. -/
structure Knows (basis : Registry ℚ) (token : String) : Prop where
  isToken : IsToken token
  found : ∃ entry, basis.findExpression? token = some entry ∧ entry.Proportional

/-- A text that is written from known tokens and has a scale. -/
structure Reads (basis : Registry ℚ) (terms : List UnitTerm) (text : String) (scale : Scale) :
    Prop where
  written : text = format terms
  known : ∀ term ∈ terms, basis.Knows term.token
  fits : ∀ term ∈ combine terms, term.exponent.natAbs ≤ greatestExponent
  valued : valued basis.scaleOf terms = scale

namespace Reads

variable {basis : Registry ℚ} {terms others : List UnitTerm} {text other : String}
  {scale otherScale : Scale}

theorem legible (reads : basis.Reads terms text scale) : Legible (combine terms) :=
  fun term member =>
    ⟨isToken_of_mem_combine (fun term inside => (reads.known term inside).isToken) member,
      reads.fits term member⟩

theorem split (reads : basis.Reads terms text scale) :
    UnitExpression.split text = .ok (canonical terms) := by
  rw [reads.written, split_format reads.legible]

theorem known_canonical (reads : basis.Reads terms text scale) :
    ∀ term ∈ canonical terms, basis.Knows term.token := by
  intro term member
  obtain ⟨original, inside, same⟩ := List.mem_map.1
    (mem_tokens_combine.1 (List.mem_map_of_mem (mem_canonical.1 member).1))
  exact same ▸ reads.known original inside

/-- A text has one scale. -/
theorem unique (left : basis.Reads terms text scale)
    (right : basis.Reads others text otherScale) : scale = otherScale := by
  have same := Except.ok.inj (left.split.symm.trans right.split)
  rw [← left.valued, ← right.valued, ← valued_canonical, same, valued_canonical]

theorem known_powered (reads : basis.Reads terms text scale) (power : Int) :
    ∀ term ∈ poweredTerms text power, basis.Knows term.token := by
  intro term member
  rw [reads.written, poweredTerms_format reads.legible] at member
  obtain ⟨original, inside, rfl⟩ := List.mem_map.1 member
  exact reads.known_canonical original inside

theorem valued_powered (reads : basis.Reads terms text scale) (power : Int) :
    UnitExpression.valued basis.scaleOf (poweredTerms text power) = scale ^ power := by
  rw [reads.written, poweredTerms_format reads.legible, valued_scaled, valued_canonical,
    reads.valued]

/-- The power of a text has the power of its scale. -/
theorem power (reads : basis.Reads terms text scale) {power : Int}
    (fits : writesFit [(text, power)] = true) :
    basis.Reads (poweredTerms text power) (UnitExpression.product [(text, power)])
      (scale ^ power) := by
  have parts : ([(text, power)].flatMap fun part => poweredTerms part.1 part.2) =
      poweredTerms text power := by simp
  rw [writesFit, parts, List.all_eq_true] at fits
  refine ⟨?_, reads.known_powered power, ?_, reads.valued_powered power⟩
  · rw [UnitExpression.product, parts]
  · exact fun term member => of_decide_eq_true (fits term member)

/-- The product of a text and the power of another has the product of their scales. -/
theorem join (reads : basis.Reads terms text scale) (right : basis.Reads others other otherScale)
    {power : Int} (fits : writesFit [(text, 1), (other, power)] = true) :
    basis.Reads (poweredTerms text 1 ++ poweredTerms other power)
      (UnitExpression.product [(text, 1), (other, power)]) (scale * otherScale ^ power) := by
  have parts : ([(text, 1), (other, power)].flatMap fun part => poweredTerms part.1 part.2) =
      poweredTerms text 1 ++ poweredTerms other power := by simp
  rw [writesFit, parts, List.all_eq_true] at fits
  refine ⟨?_, ?_, ?_, ?_⟩
  · rw [UnitExpression.product, parts]
  · intro term member
    rcases List.mem_append.1 member with first | second
    · exact reads.known_powered 1 term first
    · exact right.known_powered power term second
  · exact fun term member => of_decide_eq_true (fits term member)
  · rw [valued_append, reads.valued_powered, right.valued_powered, zpow_one]

end Reads

/-! ## Units -/

/-- A unit of a dimension that agrees with its text. -/
def Spelled (basis : Registry ℚ) (dimension : Dimension) (unit : MeasureUnit ℚ) : Prop :=
  ∃ terms scale, basis.Reads terms unit.expression scale ∧
    scale.Measures dimension unit.slope ∧ unit.intercept = 0

namespace Spelled

variable {basis : Registry ℚ} {dimension second result : Dimension}
  {unit other : MeasureUnit ℚ}

theorem power (spelled : basis.Spelled dimension unit) {power : Int}
    (made : dimension.times power = .ok result)
    (fits : writesFit [(unit.expression, power)] = true) :
    basis.Spelled result (unit.power power) := by
  obtain ⟨terms, scale, reads, measures, proportional⟩ := spelled
  by_cases single : power = 1
  · subst single
    cases (Dimension.times_one dimension).symm.trans made
    rw [MeasureUnit.power_one]
    exact ⟨terms, scale, reads, measures, proportional⟩
  · have raised := measures.times made
    have written := reads.power fits
    rw [← unit.slope_power] at raised
    rw [← unit.expression_power single] at written
    exact ⟨_, _, written, raised, unit.intercept_power single⟩

theorem multiply (spelled : basis.Spelled dimension unit) (right : basis.Spelled second other)
    (made : dimension.plus second = .ok result)
    (fits : writesFit [(unit.expression, 1), (other.expression, 1)] = true) :
    basis.Spelled result (unit.multiply other) := by
  obtain ⟨terms, scale, reads, measures, _⟩ := spelled
  obtain ⟨others, otherScale, otherReads, otherMeasures, _⟩ := right
  have written := reads.join otherReads fits
  rw [← MeasureUnit.expression_multiply, zpow_one] at written
  exact ⟨_, _, written, measures.plus otherMeasures made, rfl⟩

theorem divide (spelled : basis.Spelled dimension unit) (right : basis.Spelled second other)
    (made : dimension.minus second = .ok result)
    (fits : writesFit [(unit.expression, 1), (other.expression, -1)] = true) :
    basis.Spelled result (unit.divide other) := by
  obtain ⟨terms, scale, reads, measures, _⟩ := spelled
  obtain ⟨others, otherScale, otherReads, otherMeasures, _⟩ := right
  have written := reads.join otherReads fits
  rw [← MeasureUnit.expression_divide] at written
  exact ⟨_, _, written, measures.minus otherMeasures made, rfl⟩

end Spelled

end Registry

end Metrology
