import Metrology.Proofs.Plans
import Metrology.Proofs.Renormalizing

/-!
# Products within the range

The dimension of a product is built factor by factor, and every power of a factor and every
product of the first factors has to stay in the range of the exponents.  So an order of factors
may have a dimension that another order of them has not.
-/

namespace Metrology

namespace Factor

variable {α : Type}

/-- The exponent of an axis in a factor, without bounds. -/
def exponentAt (factor : Factor α) (axis : Axis) : Int :=
  factor.exponent * factor.entry.dimension.exponent axis

/-- The exponent of an axis in a product of factors, without bounds. -/
def exponentOf (factors : List (Factor α)) (axis : Axis) : Int :=
  (factors.map (·.exponentAt axis)).sum

/-- Every factor and every product of the first factors has exponents in range. -/
structure StaysInRange (factors : List (Factor α)) : Prop where
  each : ∀ factor ∈ factors, ∀ axis, Dimension.InRange (factor.exponentAt axis)
  products : ∀ first, first <+: factors → ∀ axis, Dimension.InRange (exponentOf first axis)

@[simp]
theorem exponentOf_nil (axis : Axis) : exponentOf ([] : List (Factor α)) axis = 0 := rfl

@[simp]
theorem exponentOf_cons (factor : Factor α) (rest : List (Factor α)) (axis : Axis) :
    exponentOf (factor :: rest) axis = factor.exponentAt axis + exponentOf rest axis :=
  List.sum_cons

/-- A dimension multiplied by a factor. -/
def multiplied (sofar : Dimension) (factor : Factor α) : Except Error Dimension := do
  sofar.plus (← factor.entry.dimension.times factor.exponent)

section One

variable {sofar next : Dimension} {factor : Factor α} {failure : Error}

theorem exponent_multiplied (made : multiplied sofar factor = .ok next) (axis : Axis) :
    next.exponent axis = sofar.exponent axis + factor.exponentAt axis := by
  obtain ⟨powered, raised, added⟩ := exists_of_bind_eq_ok made
  rw [Dimension.exponent_plus added, Dimension.exponent_times raised, exponentAt]

/-- One factor is checked twice: by itself, and in the product. -/
theorem exists_multiplied_iff :
    (∃ next, multiplied sofar factor = .ok next) ↔
      (∀ axis, Dimension.InRange (factor.exponentAt axis)) ∧
        ∀ axis, Dimension.InRange (sofar.exponent axis + factor.exponentAt axis) := by
  constructor
  · rintro ⟨next, made⟩
    obtain ⟨powered, raised, added⟩ := exists_of_bind_eq_ok made
    refine ⟨Dimension.exists_times_iff.1 ⟨powered, raised⟩, fun axis => ?_⟩
    rw [← exponent_multiplied made]
    exact Dimension.inRange_exponent next axis
  · rintro ⟨own, product⟩
    obtain ⟨powered, raised⟩ := Dimension.exists_times_iff.2 own
    have sum (axis : Axis) :
        Dimension.InRange (sofar.exponent axis + powered.exponent axis) := by
      rw [Dimension.exponent_times raised]
      exact product axis
    obtain ⟨next, added⟩ := Dimension.exists_plus_iff.2 sum
    refine ⟨next, ?_⟩
    rw [multiplied, raised]
    exact added

theorem overflow_of_multiplied (failed : multiplied sofar factor = .error failure) :
    Dimension.Overflow failure := by
  unfold multiplied at failed
  cases raised : factor.entry.dimension.times factor.exponent with
  | error reason =>
      rw [raised] at failed
      cases failed
      exact Dimension.overflow_of_times raised
  | ok powered =>
      rw [raised] at failed
      exact Dimension.overflow_of_ofExponents failed

end One

/-- Multiplying by factors adds their exponents. -/
theorem exponent_foldlM {factors : List (Factor α)} {start dimension : Dimension}
    (made : factors.foldlM multiplied start = .ok dimension) (axis : Axis) :
    dimension.exponent axis = start.exponent axis + exponentOf factors axis := by
  induction factors generalizing start with
  | nil =>
      cases made
      rw [exponentOf_nil, add_zero]
  | cons factor rest ih =>
      rw [List.foldlM_cons] at made
      obtain ⟨next, stepped, made⟩ := exists_of_bind_eq_ok made
      rw [ih made, exponent_multiplied stepped, exponentOf_cons, add_assoc]

theorem exists_foldlM_iff {factors : List (Factor α)} {start : Dimension} :
    (∃ dimension, factors.foldlM multiplied start = .ok dimension) ↔
      (∀ factor ∈ factors, ∀ axis, Dimension.InRange (factor.exponentAt axis)) ∧
      ∀ first, first <+: factors → ∀ axis,
        Dimension.InRange (start.exponent axis + exponentOf first axis) := by
  induction factors generalizing start with
  | nil =>
      refine iff_of_true ⟨start, rfl⟩
        ⟨fun _ impossible => absurd impossible List.not_mem_nil, fun first isFirst axis => ?_⟩
      rw [List.prefix_nil.1 isFirst, exponentOf_nil, add_zero]
      exact start.inRange_exponent axis
  | cons factor rest ih =>
      constructor
      · rintro ⟨dimension, made⟩
        rw [List.foldlM_cons] at made
        obtain ⟨next, stepped, made⟩ := exists_of_bind_eq_ok made
        obtain ⟨each, products⟩ := ih.1 ⟨dimension, made⟩
        refine ⟨List.forall_mem_cons.2 ⟨(exists_multiplied_iff.1 ⟨next, stepped⟩).1, each⟩, ?_⟩
        intro first isFirst axis
        rcases List.prefix_cons_iff.1 isFirst with rfl | ⟨tail, rfl, isTail⟩
        · rw [exponentOf_nil, add_zero]
          exact start.inRange_exponent axis
        · rw [exponentOf_cons, ← add_assoc, ← exponent_multiplied stepped]
          exact products tail isTail axis
      · rintro ⟨each, products⟩
        have single (axis : Axis) :
            Dimension.InRange (start.exponent axis + factor.exponentAt axis) := by
          have both := products [factor] ⟨rest, rfl⟩ axis
          rwa [exponentOf_cons, exponentOf_nil, add_zero] at both
        obtain ⟨next, stepped⟩ :=
          exists_multiplied_iff.2 ⟨each factor List.mem_cons_self, single⟩
        have later (first : List (Factor α)) (isFirst : first <+: rest) (axis : Axis) :
            Dimension.InRange (next.exponent axis + exponentOf first axis) := by
          rw [exponent_multiplied stepped, add_assoc, ← exponentOf_cons]
          exact products (factor :: first) ((List.prefix_cons_inj factor).2 isFirst) axis
        obtain ⟨dimension, made⟩ :=
          ih.2 ⟨fun other member => each other (List.mem_cons_of_mem _ member), later⟩
        refine ⟨dimension, ?_⟩
        rw [List.foldlM_cons, stepped]
        exact made

/-- Factors have a dimension just when they stay in range. -/
theorem exists_dimension_iff {factors : List (Factor α)} :
    (∃ dimension, Factor.dimension factors = .ok dimension) ↔ StaysInRange factors := by
  change (∃ dimension, factors.foldlM multiplied Dimension.ratio = .ok dimension) ↔ _
  rw [exists_foldlM_iff]
  simp only [Dimension.exponent_ratio, zero_add]
  constructor
  · rintro ⟨each, products⟩
    exact ⟨each, products⟩
  · rintro ⟨each, products⟩
    exact ⟨each, products⟩

theorem staysInRange_nil : StaysInRange ([] : List (Factor α)) :=
  exists_dimension_iff.1 ⟨_, rfl⟩

theorem staysInRange_singleton {factor : Factor α} :
    StaysInRange [factor] ↔ ∀ axis, Dimension.InRange (factor.exponentAt axis) := by
  constructor
  · exact fun stays => stays.each factor List.mem_cons_self
  · intro within
    refine ⟨fun other member => ?_, fun first isFirst axis => ?_⟩
    · rw [List.mem_singleton.1 member]
      exact within
    · rcases List.prefix_cons_iff.1 isFirst with rfl | ⟨tail, rfl, isTail⟩
      · rw [exponentOf_nil]
        decide
      · rw [List.prefix_nil.1 isTail, exponentOf_cons, exponentOf_nil, add_zero]
        exact within axis

theorem overflow_of_foldlM {factors : List (Factor α)} {start : Dimension} {failure : Error}
    (failed : factors.foldlM multiplied start = .error failure) :
    Dimension.Overflow failure := by
  induction factors generalizing start with
  | nil => cases failed
  | cons factor rest ih =>
      rw [List.foldlM_cons] at failed
      cases stepped : multiplied start factor with
      | error reason =>
          rw [stepped] at failed
          cases failed
          exact overflow_of_multiplied stepped
      | ok next =>
          rw [stepped] at failed
          exact ih failed

end Factor

/-! ## When factors come to something -/

namespace Registry

variable {α : Type} [Scalar α] {registry : Registry α} {factors : List (Factor α)} {limit : Nat}
  {failure : Error}

/-- Factors come to something just when they stay in range and fit the limit. -/
theorem exists_outlineOf_iff
    (withSI : ∀ factor ∈ factors, factor.entry.quantity.siUnit?.isSome = true) :
    (∃ outline, outlineOf limit factors = .ok outline) ↔
      Factor.StaysInRange factors ∧ powers factors ≤ limit := by
  rw [← Factor.exists_dimension_iff, ← ConversionPlan.exists_ofFactors_iff withSI]
  constructor
  · rintro ⟨outline, outlined⟩
    obtain ⟨dimension, combined, outlined⟩ := exists_of_bind_eq_ok outlined
    obtain ⟨plan, planned, _⟩ := exists_of_bind_eq_ok outlined
    exact ⟨⟨dimension, combined⟩, plan, planned⟩
  · rintro ⟨⟨dimension, combined⟩, plan, planned⟩
    rw [outlineOf, combined, planned]
    exact ⟨_, rfl⟩

theorem dimension_of_outlineOf {outline : Outline α}
    (outlined : outlineOf limit factors = .ok outline) :
    Factor.dimension factors = .ok outline.dimension := by
  obtain ⟨dimension, combined, outlined⟩ := exists_of_bind_eq_ok outlined
  obtain ⟨plan, _, outlined⟩ := exists_of_bind_eq_ok outlined
  cases outlined
  exact combined

/-- Factors that fit the limit fail by their range only. -/
theorem overflow_of_outlineOf
    (withSI : ∀ factor ∈ factors, factor.entry.quantity.siUnit?.isSome = true)
    (fits : powers factors ≤ limit) (failed : outlineOf limit factors = .error failure) :
    Dimension.Overflow failure := by
  obtain ⟨plan, planned⟩ := (ConversionPlan.exists_ofFactors_iff withSI).2 fits
  cases combined : Factor.dimension factors with
  | error reason =>
      rw [outlineOf, combined] at failed
      cases failed
      exact Factor.overflow_of_foldlM combined
  | ok dimension =>
      rw [outlineOf, combined, planned] at failed
      cases failed

/-- What factors fail with, the text fails with. -/
theorem normalize_of_outlineOf_error {expression : String}
    (resolved : registry.factors expression = .ok factors)
    (failed : outlineOf registry.stepLimit factors = .error failure) :
    registry.normalize expression = .error failure := by
  unfold outlineOf at failed
  unfold normalize
  simp only [bind, Except.bind, resolved] at failed ⊢
  cases combined : Factor.dimension factors with
  | error reason =>
      rw [combined] at failed
      cases failed
      rfl
  | ok dimension =>
      rw [combined] at failed
      cases planned : ConversionPlan.ofFactors factors registry.stepLimit with
      | error reason =>
          simp only [planned] at failed ⊢
          cases failed
          rfl
      | ok plan =>
          simp only [planned] at failed
          cases failed

end Registry

end Metrology
