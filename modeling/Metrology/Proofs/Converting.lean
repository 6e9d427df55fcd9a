import Metrology.Amount
import Metrology.Proofs.Coupling
import Metrology.Proofs.Plans
import Metrology.Proofs.Soundness

/-!
# Laws of conversion

Between expressions of one dimension that has an owner, values are converted by the
affine maps of the expressions: there and back without loss, in one step or in several,
and just as amounts do.
-/

namespace Metrology

namespace Registry

variable {α : Type}

/-! ## Expressions with an owner -/

section Accepting

variable [Scalar α]

/-- An expression can be normalized and has a dimension. -/
def Accepts (registry : Registry α) (expression : String) (dimension : Dimension) : Prop :=
  ∃ normalized grown, registry.normalize expression = .ok (normalized, grown) ∧
    normalized.dimension = dimension

/-- A dimension has an owner. -/
def Owns (registry : Registry α) (dimension : Dimension) : Prop :=
  (registry.ownerOf? dimension).isSome = true

variable {registry grown : Registry α} {expression : String} {normalized : Normalized α}

omit [Scalar α] in
theorem not_owns_iff {dimension : Dimension} :
    ¬registry.Owns dimension ↔ registry.ownerOf? dimension = none :=
  Option.not_isSome_iff_eq_none

theorem start_ofUnit_of_ok (made : registry.normalize expression = .ok (normalized, grown))
    (value : α) :
    (Amount.ofUnit value expression).start registry =
      (.ok ⟨normalized.toSI value, normalized.dimension⟩, grown) := by
  rw [Amount.ofUnit, Attempt.start_bind_of_start (start_normalizing_of_ok made)]
  rfl

end Accepting

variable [Field α] [LinearOrder α] [Elementary α] {registry : Registry α}

/-- An expression that is normalized without growth, with the plan behind it. -/
structure Planned (registry : Registry α) (expression : String) (normalized : Normalized α)
    (plan : ConversionPlan α) : Prop where
  normalizes : registry.normalize expression = .ok (normalized, registry)
  plans : registry.plan expression = .ok plan
  sound : plan.Sound
  slope : normalized.slope = plan.affine.1
  intercept : normalized.intercept = plan.affine.2

/-- Of convertible quantities every accepted expression is planned, if its dimension has
an owner. -/
theorem exists_planned
    (convertible : ∀ quantity ∈ registry.quantities, quantity.Convertible)
    {expression : String} {dimension : Dimension} (owned : registry.Owns dimension)
    (accepts : registry.Accepts expression dimension) :
    ∃ normalized plan, normalized.dimension = dimension ∧
      registry.Planned expression normalized plan := by
  obtain ⟨normalized, grown, made, rfl⟩ := accepts
  have succeeds := made
  obtain ⟨factors, resolved, succeeds⟩ := exists_of_bind_eq_ok succeeds
  obtain ⟨dimension, combined, succeeds⟩ := exists_of_bind_eq_ok succeeds
  obtain ⟨plan, planned, succeeds⟩ := exists_of_bind_eq_ok succeeds
  obtain ⟨⟨owner, after⟩, derived, succeeds⟩ := exists_of_bind_eq_ok succeeds
  dsimp only at succeeds
  split at succeeds
  · cases succeeds
  · next unit siUnit =>
      cases succeeds
      obtain ⟨found, present⟩ := Option.isSome_iff_exists.1 owned
      dsimp only at present
      rw [ownerOrDerived, present] at derived
      cases derived
      refine ⟨_, plan, rfl, made, ?_, ?_, rfl, rfl⟩
      · rw [Registry.plan, resolved]
        exact planned
      · refine ConversionPlan.sound_of_ofFactors (fun factor member => ?_) planned
        have registered := mem_of_factors resolved factor member
        exact convertible _ (quantity_mem_of_entry registered) _
          (unit_mem_of_entry registered)

namespace Planned

variable {source target : String} {first second : Normalized α} {plan other : ConversionPlan α}

theorem start_normalizing (planned : registry.Planned source first plan) :
    (normalizing source).start registry = (.ok first, registry) :=
  start_normalizing_of_ok planned.normalizes

theorem toSI_eq (planned : registry.Planned source first plan) (value : α) :
    first.toSI value = plan.toSI value := by
  rw [Normalized.toSI, planned.slope, planned.intercept, plan.toSI_eq]

theorem ofSI_eq (planned : registry.Planned source first plan) (value : α) :
    first.ofSI value = plan.ofSI value := by
  rw [Normalized.ofSI, planned.slope, planned.intercept, planned.sound.ofSI_eq]

/-- Converting applies one plan and undoes the other. -/
theorem start_convert (left : registry.Planned source first plan)
    (right : registry.Planned target second other)
    (same : first.dimension = second.dimension) (value : α) :
    (convert value source target).start registry =
      (.ok (other.ofSI (plan.toSI value)), registry) := by
  have asked : (get : Attempt (Registry α) (Registry α)).start registry =
      (.ok registry, registry) := rfl
  have outward : registry.toSI value source = .ok (plan.toSI value) := by
    rw [Registry.toSI, left.plans]
    rfl
  have inward : registry.ofSI (plan.toSI value) target =
      .ok (other.ofSI (plan.toSI value)) := by
    rw [Registry.ofSI, right.plans]
    rfl
  rw [convert, Attempt.start_bind_of_start left.start_normalizing,
    Attempt.start_bind_of_start right.start_normalizing, if_neg (not_not.2 same),
    Attempt.start_bind_of_start asked, outward,
    Attempt.start_bind_of_start (Attempt.start_ofExcept _ _), inward, Attempt.start_ofExcept]

theorem start_convert_of_ne (left : registry.Planned source first plan)
    (right : registry.Planned target second other)
    (differ : first.dimension ≠ second.dimension) (value : α) :
    (convert value source target).start registry =
      (.error (.incompatible (source ++ " [" ++ first.dimension.text ++ "]")
        (target ++ " [" ++ second.dimension.text ++ "]")), registry) := by
  rw [convert, Attempt.start_bind_of_start left.start_normalizing,
    Attempt.start_bind_of_start right.start_normalizing, if_pos differ]
  rfl

/-- The amount of a value, shown in another expression. -/
theorem start_inUnit_ofUnit (left : registry.Planned source first plan)
    (right : registry.Planned target second other)
    (same : first.dimension = second.dimension) (value : α) :
    (Amount.ofUnit value source >>= fun amount => amount.inUnit target).start registry =
      (.ok (other.ofSI (plan.toSI value)), registry) := by
  rw [Attempt.start_bind_of_start (start_ofUnit_of_ok left.normalizes value), Amount.inUnit,
    Attempt.start_bind_of_start right.start_normalizing, if_neg (not_not.2 same.symm)]
  rw [← right.ofSI_eq, ← left.toSI_eq]
  rfl

end Planned

/-! ## Laws -/

/-- How a value is converted between three expressions of one dimension. -/
structure ConvertsLawfully (registry : Registry α) (first second third : String) (value : α) :
    Prop where
  identity : (convert value first first).start registry = (.ok value, registry)
  back : ∃ converted, (convert value first second).start registry = (.ok converted, registry) ∧
    (convert converted second first).start registry = (.ok value, registry)
  onward : ∃ converted result,
    (convert value first second).start registry = (.ok converted, registry) ∧
      (convert converted second third).start registry = (.ok result, registry) ∧
      (convert value first third).start registry = (.ok result, registry)
  amount : ∃ converted, (convert value first second).start registry = (.ok converted, registry) ∧
    (Amount.ofUnit value first >>= fun amount => amount.inUnit second).start registry =
      (.ok converted, registry)

theorem Planned.convertsLawfully {first second third : String}
    {one two three : Normalized α} {plan other last : ConversionPlan α}
    (left : registry.Planned first one plan) (middle : registry.Planned second two other)
    (right : registry.Planned third three last) (same : one.dimension = two.dimension)
    (alike : two.dimension = three.dimension) (value : α) :
    registry.ConvertsLawfully first second third value where
  identity := by rw [left.start_convert left rfl, left.sound.ofSI_toSI]
  back := by
    refine ⟨_, left.start_convert middle same value, ?_⟩
    rw [middle.start_convert left same.symm, middle.sound.toSI_ofSI, left.sound.ofSI_toSI]
  onward := by
    refine ⟨_, _, left.start_convert middle same value, ?_,
      left.start_convert right (same.trans alike) value⟩
    rw [middle.start_convert right alike, middle.sound.toSI_ofSI]
  amount :=
    ⟨_, left.start_convert middle same value, left.start_inUnit_ofUnit middle same value⟩

/-- In every registry that is reached from a document, values are converted lawfully
between expressions of one dimension that has an owner, and not at all between
expressions of two such dimensions. -/
theorem converts_lawfully {definitions : Definitions α} {settings : Settings}
    {start : Registry α} (loaded : ofDefinitions definitions settings = .ok start)
    (calls : List (Call α))
    (given : ∀ quantity, .register quantity ∈ calls → quantity.Convertible) :
    let registry := start.run calls
    (∀ dimension, registry.Owns dimension → ∀ first second third,
      registry.Accepts first dimension → registry.Accepts second dimension →
      registry.Accepts third dimension →
        ∀ value, registry.ConvertsLawfully first second third value) ∧
    ∀ dimension other, registry.Owns dimension → registry.Owns other → dimension ≠ other →
      ∀ first second, registry.Accepts first dimension → registry.Accepts second other →
        ∀ value, (convert value first second).start registry =
          (.error (.incompatible (first ++ " [" ++ dimension.text ++ "]")
            (second ++ " [" ++ other.text ++ "]")), registry) := by
  intro registry
  have convertible : ∀ quantity ∈ registry.quantities, quantity.Convertible :=
    convertible_run loaded given
  constructor
  · intro dimension owned first second third acceptsFirst acceptsSecond acceptsThird value
    obtain ⟨one, plan, oneSame, left⟩ := exists_planned convertible owned acceptsFirst
    obtain ⟨two, other, twoSame, middle⟩ := exists_planned convertible owned acceptsSecond
    obtain ⟨three, last, threeSame, right⟩ := exists_planned convertible owned acceptsThird
    exact left.convertsLawfully middle right (oneSame.trans twoSame.symm)
      (twoSame.trans threeSame.symm) value
  · intro dimension other owned otherOwned differ first second acceptsFirst acceptsSecond value
    obtain ⟨one, plan, rfl, left⟩ := exists_planned convertible owned acceptsFirst
    obtain ⟨two, second, rfl, right⟩ := exists_planned convertible otherOwned acceptsSecond
    exact left.start_convert_of_ne right differ value

theorem accepts_of_toOption {expression : String} {dimension : Dimension}
    (answers : (registry.normalize expression).toOption.map (·.1.dimension) = some dimension) :
    registry.Accepts expression dimension := by
  obtain ⟨⟨normalized, grown⟩, made, same⟩ := Option.map_eq_some_iff.1 answers
  refine ⟨normalized, grown, ?_, same⟩
  cases outcome : registry.normalize expression with
  | error failure =>
      rw [outcome] at made
      cases made
  | ok answer =>
      rw [outcome] at made
      cases made
      rfl

/-- Degrees and kelvins among factors that cancel, and a length beside them. -/
theorem converts_lawfully_degrees :
    ∃ start : Registry ℚ, ofDefinitions offsetDocument {} = .ok start ∧
      let registry := start.run [.normalize "m*K"]
      registry.ConvertsLawfully "degC" "m*K/m" "degC^2/degC" 10 ∧
        (convert 10 "m" "degC").start registry =
          (.error (.incompatible ("m" ++ " [" ++ Dimension.length.text ++ "]")
            ("degC" ++ " [" ++ Dimension.currency.text ++ "]")), registry) := by
  have evaluated : (ofDefinitions offsetDocument {}).toOption.map (fun start =>
      let registry := start.run [.normalize "m*K"]
      (["degC", "m*K/m", "degC^2/degC", "m"].map fun expression =>
          (registry.normalize expression).toOption.map (·.1.dimension),
        (registry.ownerOf? .currency).isSome, (registry.ownerOf? .length).isSome)) =
      some ([some .currency, some .currency, some .currency, some .length], true, true) := by
    decide +kernel
  cases loaded : ofDefinitions offsetDocument {} with
  | error failure =>
      rw [loaded] at evaluated
      cases evaluated
  | ok start =>
      rw [loaded] at evaluated
      have computed := Option.some.inj evaluated
      simp only [Prod.mk.injEq, List.map_cons, List.map_nil, List.cons.injEq] at computed
      obtain ⟨⟨celsius, kelvin, power, meter, _⟩, heat, length⟩ := computed
      obtain ⟨lawful, apart⟩ := converts_lawfully loaded [.normalize "m*K"] (by simp)
      exact ⟨start, rfl,
        lawful .currency heat _ _ _ (accepts_of_toOption celsius) (accepts_of_toOption kelvin)
          (accepts_of_toOption power) 10,
        apart .length .currency length heat (by decide) _ _ (accepts_of_toOption meter)
          (accepts_of_toOption celsius) 10⟩

end Registry

end Metrology
