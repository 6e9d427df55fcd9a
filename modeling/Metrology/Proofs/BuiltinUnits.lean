import Metrology.Proofs.Compounds

/-!
# Units of the built-in document

Every unit of the built-in document agrees with the tokens of its text, so the units of
every registry that grows from it do.
-/

namespace Metrology

open UnitExpression

/-! ## Checking a document -/

theorem Scale.measures_iff {scale : Scale} {dimension : Dimension} {slope : ℚ} :
    scale.Measures dimension slope ↔
      (∀ axis ∈ Axis.all, (scale.1 axis).toAdd = dimension.exponent axis) ∧
        (scale.2 : ℚ) = slope :=
  ⟨fun measures => ⟨fun axis _ => measures.exponent axis, measures.slope⟩,
    fun same => ⟨fun axis => same.1 axis (Axis.mem_all axis), same.2⟩⟩

instance (scale : Scale) (dimension : Dimension) (slope : ℚ) :
    Decidable (scale.Measures dimension slope) :=
  decidable_of_iff _ Scale.measures_iff.symm

namespace Registry

/-- Whether a token is the expression of a unit that has a scale. -/
def isKnown (basis : Registry ℚ) (token : String) : Bool :=
  isTokenText token && (basis.findExpression? token).any fun entry =>
    entry.unit.slope != 0 && entry.unit.intercept == 0

/-- Whether a unit agrees with its text. -/
def isSpelled (basis : Registry ℚ) (dimension : Dimension) (unit : MeasureUnit ℚ) : Bool :=
  (split unit.expression).toOption.any fun terms =>
    unit.expression == format terms && terms.all (fun term => basis.isKnown term.token) &&
      (combine terms).all (fun term => term.exponent.natAbs ≤ greatestExponent) &&
      decide ((valued basis.scaleOf terms).Measures dimension unit.slope) &&
      unit.intercept == 0

/-- Whether all units agree with their texts. -/
def isCoherent (basis : Registry ℚ) : Bool :=
  basis.quantities.all fun quantity =>
    quantity.units.all (basis.isSpelled quantity.dimension)

variable {basis : Registry ℚ}

theorem knows_of_isKnown {token : String} (known : basis.isKnown token = true) :
    basis.Knows token := by
  rw [isKnown, Bool.and_eq_true, isTokenText_iff, Option.any_eq_true] at known
  obtain ⟨isToken, entry, found, proportional⟩ := known
  rw [Bool.and_eq_true, bne_iff_ne, beq_iff_eq] at proportional
  exact ⟨isToken, entry, found, proportional.1, proportional.2⟩

theorem spelled_of_isSpelled {dimension : Dimension} {unit : MeasureUnit ℚ}
    (spelled : basis.isSpelled dimension unit = true) : basis.Spelled dimension unit := by
  rw [isSpelled, Option.any_eq_true] at spelled
  obtain ⟨terms, _, checked⟩ := spelled
  simp only [Bool.and_eq_true, beq_iff_eq, decide_eq_true_eq, List.all_eq_true] at checked
  obtain ⟨⟨⟨⟨written, known⟩, fits⟩, measures⟩, intercept⟩ := checked
  exact ⟨terms, _, ⟨written, fun term member => knows_of_isKnown (known term member), fits, rfl⟩,
    measures, intercept⟩

/-! ## Loading -/

section Settings

variable {α : Type} [Scalar α]

/-- What a definition adds depends on the quantities before it only. -/
theorem define_of_quantities {first second next : Registry α}
    (same : second.quantities = first.quantities) {definition : QuantityDefinition α}
    (defined : first.define definition = .ok next) :
    ∃ other, second.define definition = .ok other ∧ other.quantities = next.quantities := by
  have owners : second.ownerOf? definition.dimension = first.ownerOf? definition.dimension := by
    rw [ownerOf?, ownerOf?, same]
  unfold define at defined ⊢
  rw [owners]
  cases unowned : first.ownerOf? definition.dimension with
  | some owner =>
      rw [unowned] at defined
      cases defined
  | none =>
      rw [unowned] at defined
      obtain ⟨quantity, based, defined⟩ := exists_of_bind_eq_ok defined
      obtain ⟨_, taken, defined⟩ := exists_of_bind_eq_ok defined
      cases defined
      refine ⟨second.append quantity, ?_, by rw [append, append, same]⟩
      simp only [based, taken, bind, Except.bind]

theorem foldlM_define_of_quantities {definitions : List (QuantityDefinition α)}
    {first second last : Registry α} (same : second.quantities = first.quantities)
    (defined : definitions.foldlM define first = .ok last) :
    ∃ other, definitions.foldlM define second = .ok other ∧
      other.quantities = last.quantities := by
  induction definitions generalizing first second with
  | nil =>
      cases defined
      exact ⟨second, rfl, same⟩
  | cons definition rest ih =>
      rw [List.foldlM_cons] at defined
      obtain ⟨next, stepped, defined⟩ := exists_of_bind_eq_ok defined
      obtain ⟨other, otherStepped, otherSame⟩ := define_of_quantities same stepped
      obtain ⟨final, reached, finalSame⟩ := ih otherSame defined
      refine ⟨final, ?_, finalSame⟩
      rw [List.foldlM_cons, otherStepped]
      exact reached

/-- Settings do not matter for the quantities of a document. -/
theorem quantities_of_loaded {definitions : Definitions α} {settings : Settings}
    {start : Registry α} (loaded : ofDefinitions definitions settings = .ok start)
    (other : Settings) :
    ∃ second, ofDefinitions definitions other = .ok second ∧
      second.quantities = start.quantities :=
  have same : (empty other definitions.legacy : Registry α).quantities =
      (empty settings definitions.legacy : Registry α).quantities := rfl
  foldlM_define_of_quantities same loaded

end Settings

theorem isCoherent_of_quantities {first second : Registry ℚ}
    (same : first.quantities = second.quantities) : first.isCoherent = second.isCoherent := by
  obtain ⟨quantities, _, _, _⟩ := first
  obtain ⟨others, _, _, _⟩ := second
  cases same
  rfl

theorem isCoherent_builtin :
    (ofDefinitions (Definitions.builtin : Definitions ℚ) {}).toOption.all isCoherent = true := by
  decide +kernel

/-- The built-in units agree with their texts. -/
theorem coherent_builtin {settings : Settings} {start : Registry ℚ}
    (loaded : ofDefinitions Definitions.builtin settings = .ok start) : start.Coherent start := by
  refine ⟨Extends.refl start, wellFormed_of_loaded loaded, ?_⟩
  obtain ⟨standard, standardLoaded, same⟩ := quantities_of_loaded loaded {}
  have checked := isCoherent_builtin
  rw [standardLoaded] at checked
  change standard.isCoherent = true at checked
  rw [isCoherent_of_quantities same, isCoherent, List.all_eq_true] at checked
  intro quantity member unit inside
  exact spelled_of_isSpelled (List.all_eq_true.1 (checked quantity member) unit inside)

/-! ## Reached registries -/

/-- In every registry that calls reach from the built-in one, every unit agrees with the tokens
of its text and reads alike as a whole and token by token, and the SI expression of every answer
is normalized to the same dimension without slope or intercept. -/
theorem reached_units_agree {settings : Settings} {start : Registry ℚ}
    (loaded : ofDefinitions Definitions.builtin settings = .ok start)
    (expressions : List String) :
    (∀ quantity ∈ (start.reached expressions).quantities, ∀ unit ∈ quantity.units,
      (∃ terms factors,
        (start.reached expressions).Agrees quantity.dimension unit terms factors) ∧
      (start.reached expressions).ReadsBothWays quantity.dimension unit) ∧
    ∀ earlier expression later normalized grown,
      start.returning expressions = earlier ++ expression :: later →
      (start.normalizeAll earlier).normalize expression = .ok (normalized, grown) →
      ∃ again, (start.reached expressions).normalize normalized.siExpression =
          .ok (again, start.reached expressions) ∧
        again.dimension = normalized.dimension ∧ again.slope = 1 ∧ again.intercept = 0 := by
  have coherent := (coherent_builtin loaded).reached expressions
  have positive := one_le_stepLimit_reached loaded expressions
  constructor
  · intro quantity member unit inside
    exact ⟨agrees_of_spelled coherent.kept (coherent.spelled quantity member unit inside),
      readsBothWays coherent positive member inside⟩
  · intro earlier expression later normalized grown divided answered
    obtain ⟨owner, unit, owned, si, expressionSame, _⟩ := owner_of_normalize answered
    -- The owner of the answer's dimension stays, whatever is called afterwards.
    have grew : grown.Extends (start.reached expressions) := by
      have answers : (start.normalizeAll earlier).answering (.normalize expression) = grown := by
        simp only [answering, normalizing, Attempt.start, Attempt.ofStep, answered]
      rw [reached, divided, normalizeAll_append, ← answers]
      exact Extends.run _ _
    have kept := grew.ownerOf? owned
    obtain ⟨again, normalizes, dimension, slope, intercept⟩ :=
      normalize_siUnit coherent positive (List.mem_of_find?_eq_some kept) si
    refine ⟨again, ?_, dimension.trans ?_, slope, intercept⟩
    · rw [expressionSame]
      exact normalizes
    · have named := List.find?_some kept
      exact beq_iff_eq.1 named

/-- An expression that derives a quantity, and one that derives another from it. -/
def wageExpressions : List String :=
  ["$/hr", "cent*dollar per hour"]

theorem reached_units_agree_wages :
    ∃ start : Registry ℚ, ofDefinitions Definitions.builtin {} = .ok start ∧
      start.returning wageExpressions = wageExpressions ∧
      (start.reached wageExpressions).size = start.size + 2 ∧
      ∀ quantity ∈ (start.reached wageExpressions).quantities,
        ∀ unit ∈ quantity.units, ∃ terms factors,
          (start.reached wageExpressions).Agrees quantity.dimension unit terms factors := by
  have evaluated : (ofDefinitions (Definitions.builtin : Definitions ℚ) {}).toOption.map
      (fun start => (start.returning wageExpressions,
        decide ((start.normalizeAll wageExpressions).size = start.size + 2))) =
      some (wageExpressions, true) := by
    decide +kernel
  cases loaded : ofDefinitions (Definitions.builtin : Definitions ℚ) {} with
  | error failure =>
      rw [loaded] at evaluated
      cases evaluated
  | ok start =>
      rw [loaded, Except.toOption, Option.map_some, Option.some.injEq, Prod.mk.injEq,
        decide_eq_true_eq] at evaluated
      obtain ⟨returns, grows⟩ := evaluated
      have agree := (reached_units_agree loaded wageExpressions).1
      refine ⟨start, rfl, returns, ?_, fun quantity member unit inside =>
        (agree quantity member unit inside).1⟩
      rwa [reached, returns]

end Registry

end Metrology
