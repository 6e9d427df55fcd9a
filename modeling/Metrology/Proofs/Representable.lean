import Metrology.Proofs.Deriving

/-!
# Representable expressions

The dimension of a text is added up with signed exponents.  The quantity of a text whose
dimension has no owner is the quotient of two products with positive exponents, and each of
them has to be in range.  So a text with a dimension may be refused: when its dimension has no
owner yet, and one product leaves the range although the quotient does not.
-/

namespace Metrology

namespace Factor

variable {α : Type} {factors first : List (Factor α)} {axis : Axis}

/-! ## Weight -/

/-- The absolute exponents of an axis in all factors together. -/
def weight (factors : List (Factor α)) (axis : Axis) : Int :=
  (factors.map fun factor => |factor.exponentAt axis|).sum

@[simp]
theorem weight_nil : weight ([] : List (Factor α)) axis = 0 := rfl

@[simp]
theorem weight_cons (factor : Factor α) (rest : List (Factor α)) :
    weight (factor :: rest) axis = |factor.exponentAt axis| + weight rest axis :=
  List.sum_cons

theorem abs_exponentOf_le (factors : List (Factor α)) (axis : Axis) :
    |exponentOf factors axis| ≤ weight factors axis := by
  induction factors with
  | nil => exact le_of_eq abs_zero
  | cons factor rest ih =>
      rw [exponentOf_cons, weight_cons]
      exact (abs_add_le _ _).trans (Int.add_le_add_left ih _)

theorem weight_le_of_sublist (sublist : first.Sublist factors) :
    weight first axis ≤ weight factors axis := by
  induction sublist with
  | slnil => exact le_rfl
  | cons factor _ ih =>
      rw [weight_cons]
      exact ih.trans (le_add_of_nonneg_left (abs_nonneg _))
  | cons_cons factor _ ih =>
      rw [weight_cons, weight_cons]
      exact Int.add_le_add_left ih _

theorem weight_upright (factors : List (Factor α)) :
    weight (factors.map upright) axis = weight factors axis := by
  rw [weight, List.map_map]
  refine congrArg List.sum (List.map_congr_left fun factor _ => ?_)
  change |(factor.exponent.natAbs : Int) * factor.entry.dimension.exponent axis| =
    |factor.exponent * factor.entry.dimension.exponent axis|
  rw [abs_mul, abs_mul, Int.natCast_natAbs, abs_abs]

/-- Factors are light if no selection of them, in whatever order and on whatever side of the
slash, leaves the range. -/
def Light (factors : List (Factor α)) : Prop :=
  ∀ axis, weight factors axis ≤ 15

theorem Light.sublist (light : Light factors) (sublist : first.Sublist factors) : Light first :=
  fun axis => (weight_le_of_sublist sublist).trans (light axis)

theorem Light.inRange (light : Light factors) (axis : Axis) :
    Dimension.InRange (exponentOf factors axis) := by
  have bound := abs_le.1 ((abs_exponentOf_le factors axis).trans (light axis))
  exact ⟨by omega, bound.2⟩

theorem Light.staysInRange (light : Light factors) : StaysInRange factors where
  each factor member axis := by
    have alone := (light.sublist (List.singleton_sublist.2 member)).inRange axis
    rwa [exponentOf_cons, exponentOf_nil, add_zero] at alone
  products first isFirst := (light.sublist isFirst.sublist).inRange

theorem Light.upright (light : Light factors) : Light (factors.map upright) :=
  fun axis => (weight_upright factors).trans_le (light axis)

end Factor

namespace Registry

section General

variable {α : Type} [Scalar α] {registry : Registry α} {factors : List (Factor α)}
  {dimension : Dimension} {text : String}

omit [Scalar α] in
theorem derives_of_light (growth : registry.growth = true) (light : Factor.Light factors) :
    registry.Derives factors where
  growth := growth
  above := (light.sublist List.filter_sublist).staysInRange
  below := (light.sublist List.filter_sublist).upright.staysInRange

omit [Scalar α] in
/-- An exponent at the lower end of the range is derived only if what stands above the slash
brings some of it along: below the slash alone it would be positive, and out of range. -/
theorem above_neg_of_least {axis : Axis} (combined : Factor.dimension factors = .ok dimension)
    (least : dimension.exponent axis = -16) (derives : registry.Derives factors) :
    Factor.exponentOf (Factor.above factors) axis < 0 := by
  have below := (derives.below.products _ (List.prefix_refl _) axis).2
  have quotient := exponentOf_upright factors axis
  have sum := Factor.exponent_foldlM combined axis
  rw [Factor.upright_above] at quotient
  rw [Dimension.exponent_ratio, zero_add, least] at sum
  omega

/-- A text is answered with a dimension, which has an owner from then on. -/
def Answers (registry : Registry α) (text : String) (dimension : Dimension) : Prop :=
  ∃ normalized grown, registry.normalize text = .ok (normalized, grown) ∧
    normalized.dimension = dimension ∧ (grown.ownerOf? dimension).isSome = true

theorem answers_of_normalize (resolved : registry.factors text = .ok factors)
    (combined : Factor.dimension factors = .ok dimension) {answer : Normalized α × Registry α}
    (made : registry.normalize text = .ok answer) : registry.Answers text dimension := by
  obtain ⟨normalized, grown⟩ := answer
  obtain ⟨others, _, _, again, outlined, _⟩ := normalize_eq_ok_iff.1 made
  cases resolved.symm.trans again
  have same : normalized.dimension = dimension :=
    Except.ok.inj ((dimension_of_outlineOf outlined).symm.trans combined)
  obtain ⟨owner, _, found, _⟩ := owner_of_normalize made
  exact ⟨normalized, grown, made, same, same ▸ Option.isSome_iff_exists.2 ⟨owner, found⟩⟩

end General

section Reached

variable {α : Type} [Scalar α] [Scalar.Unital α] {settings : Settings} {start : Registry α}
  (loaded : ofDefinitions Definitions.builtin settings = .ok start)
  (growth : settings.growth = true) {expressions : List String} {text : String}
  {factors : List (Factor α)} {dimension : Dimension}
  (resolved : (start.reached expressions).factors text = .ok factors)
  (combined : Factor.dimension factors = .ok dimension)
  (fits : powers factors ≤ (start.reached expressions).stepLimit)
include loaded growth resolved combined fits

omit [Scalar.Unital α] resolved combined fits in
theorem growth_reached (expressions : List String) :
    (start.reached expressions).growth = true := by
  have kept : start.Extends (start.reached expressions) := Extends.run start _
  rw [kept.growth, (extends_of_loaded loaded).growth]
  exact growth

/-- A representable text is answered or refused by a range. -/
theorem answers_or_overflows :
    (((start.reached expressions).ownerOf? dimension).isSome = true ∨
        (start.reached expressions).Derives factors) ∧
      (start.reached expressions).Answers text dimension ∨
    ¬(((start.reached expressions).ownerOf? dimension).isSome = true ∨
        (start.reached expressions).Derives factors) ∧
      ∃ failure, (start.reached expressions).normalize text = .error failure ∧
        Dimension.Overflow failure := by
  rcases takes_or_refuses (leads_reached loaded expressions)
    (ratio_owned_reached loaded expressions) resolved with
    ⟨takes, answer, made⟩ | ⟨refused, failure, failed, refuses⟩
  · exact .inl ⟨takes.owned dimension combined, answers_of_normalize resolved combined made⟩
  · refine .inr ⟨fun owned => refused ?_, failure, failed, ?_⟩
    · refine ⟨Factor.exists_dimension_iff.1 ⟨dimension, combined⟩, fits, fun other same => ?_⟩
      cases combined.symm.trans same
      exact owned
    · cases refuses with
      | range overflow => exact overflow
      | steps exceeds => exact absurd fits (not_le.2 exceeds)
      | closed token closed =>
          rw [growth_reached loaded growth expressions] at closed
          cases closed

/-- A text with few powers is always answered. -/
theorem answers_of_light (light : Factor.Light factors) :
    (start.reached expressions).Answers text dimension := by
  rcases answers_or_overflows loaded growth resolved combined fits with
    ⟨_, answers⟩ | ⟨refused, _⟩
  · exact answers
  · exact absurd (.inr (derives_of_light (growth_reached loaded growth expressions) light)) refused

/-- A text that has a dimension and fits the step limit is answered just when its dimension has
an owner or both of its products are in range.  Otherwise it is refused by a range, as it is
when its dimension has an exponent at the lower end and nothing above the slash brings some of
it along. -/
theorem representable_answered_iff :
    ((start.reached expressions).Answers text dimension ↔
      ((start.reached expressions).ownerOf? dimension).isSome = true ∨
        (start.reached expressions).Derives factors) ∧
    (¬(start.reached expressions).Answers text dimension →
      ∃ axis exponent, (start.reached expressions).normalize text =
        .error (.rangeOverflow axis exponent)) ∧
    ∀ axis, dimension.exponent axis = -16 →
      (start.reached expressions).ownerOf? dimension = none →
      0 ≤ Factor.exponentOf (Factor.above factors) axis →
      ¬(start.reached expressions).Answers text dimension := by
  have either := answers_or_overflows loaded growth resolved combined fits
  have answered : (start.reached expressions).Answers text dimension ↔
      ((start.reached expressions).ownerOf? dimension).isSome = true ∨
        (start.reached expressions).Derives factors := by
    rcases either with ⟨owned, answers⟩ | ⟨refused, failure, failed, _⟩
    · exact iff_of_true answers owned
    · refine iff_of_false ?_ refused
      rintro ⟨normalized, grown, made, _⟩
      cases failed.symm.trans made
  refine ⟨answered, fun refused => ?_, fun axis least unowned alone answers => ?_⟩
  · rcases either with ⟨_, answers⟩ | ⟨_, failure, failed, axis, exponent, rfl⟩
    · exact absurd answers refused
    · exact ⟨axis, exponent, failed⟩
  · rcases answered.1 answers with owned | derives
    · rw [unowned] at owned
      cases owned
    · exact absurd (above_neg_of_least combined least derives) (not_lt.2 alone)

end Reached

/-- `1/m^16` has a dimension whose only exponent is at the lower end, and is refused. -/
theorem representable_answered_iff_meters :
    ∃ (start : Registry ℚ) (factors : List (Factor ℚ)) (dimension : Dimension),
      ofDefinitions Definitions.builtin {} = .ok start ∧
      (start.reached []).factors "1/m^16" = .ok factors ∧
      Factor.dimension factors = .ok dimension ∧ dimension.exponents = ⟨0, -16, 0, 0⟩ ∧
      powers factors ≤ (start.reached []).stepLimit ∧
      ¬(start.reached []).Answers "1/m^16" dimension ∧
      ∃ axis exponent, (start.reached []).normalize "1/m^16" =
        .error (.rangeOverflow axis exponent) := by
  have computed : (do
      let start ← ofDefinitions (Definitions.builtin : Definitions ℚ) {}
      let factors ← (start.reached []).factors "1/m^16"
      let dimension ← Factor.dimension factors
      Except.ok (dimension.exponents, decide (powers factors ≤ (start.reached []).stepLimit),
        ((start.reached []).ownerOf? dimension).isNone,
        Factor.exponentOf (Factor.above factors) .length)).toOption =
      some (⟨0, -16, 0, 0⟩, true, true, 0) := by
    decide +kernel
  obtain ⟨start, loaded, computed⟩ := exists_of_bind_eq_ok (eq_ok_of_toOption computed)
  obtain ⟨factors, resolved, computed⟩ := exists_of_bind_eq_ok computed
  obtain ⟨dimension, combined, computed⟩ := exists_of_bind_eq_ok computed
  simp only [Except.ok.injEq, Prod.mk.injEq, decide_eq_true_eq, Option.isNone_iff_eq_none]
    at computed
  obtain ⟨exponents, fits, unowned, alone⟩ := computed
  have least : dimension.exponent .length = -16 := by
    rw [← Dimension.get_exponents, exponents]
    rfl
  obtain ⟨_, refused, lower⟩ := representable_answered_iff loaded rfl resolved combined fits
  have unanswered := lower .length least unowned alone.ge
  exact ⟨start, factors, dimension, loaded, resolved, combined, exponents, fits, unanswered,
    refused unanswered⟩

end Registry

end Metrology
