import Metrology.Proofs.Deriving
import Metrology.Proofs.Lookups
import Metrology.Proofs.Tags

/-!
# Showing results

The tag of a result always has factors in the registry that the formula leaves: its words are
units of the document.  Whether the result can be shown depends on these factors alone, read from
the left to the right as any other text.  The magnitude and the dimension of the result had other
ranges to keep on the way, so they say nothing about it.
-/

namespace Metrology

open Formula UnitExpression

namespace Formula.Tagged

variable {α : Type} [Scalar α] {registry grown : Registry α} {value : Tagged α}
  {normalized : Normalized α}

/-! ## The three ways to show a value -/

theorem start_shown_of_empty (registry : Registry α) (untagged : value.tag.isEmpty = true) :
    value.shown.start registry =
      (.ok (value.amount.magnitude, siExpression registry value.amount.dimension), registry) := by
  unfold shown
  rw [if_pos untagged]
  rfl

theorem start_shown_of_ok (filled : value.tag.isEmpty = false)
    (made : registry.normalize value.tag = .ok (normalized, grown)) :
    value.shown.start registry =
      (.ok (if normalized.dimension = value.amount.dimension then
          (normalized.ofSI value.amount.magnitude, normalized.userExpression)
        else (value.amount.magnitude, siExpression grown value.amount.dimension)), grown) := by
  unfold shown
  rw [filled, if_neg Bool.false_ne_true,
    Attempt.start_bind_of_start (Registry.start_normalizing_of_ok made)]
  split <;> rfl

theorem start_shown_of_error (filled : value.tag.isEmpty = false) {failure : Error}
    (failed : registry.normalize value.tag = .error failure) :
    value.shown.start registry = (.error failure, registry) := by
  have runs := Registry.start_normalizing_of_error failed
  unfold shown
  rw [filled, if_neg Bool.false_ne_true, Attempt.start_bind_of_error (congrArg Prod.fst runs), runs]

/-! ## When a value can be shown -/

/-- How a value is shown in a registry.  The factors of its tag are taken or refused as those of
any text are.  When they are taken, the value is shown in SI as soon as there is no tag or the
tag has another dimension. -/
structure Shows (registry : Registry α) (value : Tagged α) (factors : List (Factor α)) :
    Prop where
  resolved : registry.factors value.tag = .ok factors
  accepted : (∃ answer, (value.shown.start registry).1 = .ok answer) ↔ registry.Takes factors
  refused : ∀ failure, (value.shown.start registry).1 = .error failure →
    registry.Refuses factors failure
  inTag : registry.Takes factors → value.tag ≠ "" →
    Factor.dimension factors = .ok value.amount.dimension →
    ∃ normalized grown, registry.normalize value.tag = .ok (normalized, grown) ∧
      value.shown.start registry =
        (.ok (normalized.ofSI value.amount.magnitude, normalized.userExpression), grown)
  inSI : registry.Takes factors →
    value.tag = "" ∨ Factor.dimension factors ≠ .ok value.amount.dimension →
    (value.shown.start registry).1 = .ok (value.amount.magnitude,
      siExpression (value.shown.start registry).2 value.amount.dimension)

/-- A value without a tag is shown in SI. -/
theorem shows_of_untagged (neutral : (registry.ownerOf? .ratio).isSome = true)
    {factors : List (Factor α)} (resolved : registry.factors value.tag = .ok factors)
    (untagged : value.tag = "") : Shows registry value factors := by
  have shown := start_shown_of_empty registry (String.isEmpty_iff.2 untagged)
  have nothing : factors = [] := by
    rw [untagged] at resolved
    cases resolved
    rfl
  have takes : registry.Takes factors := by
    rw [nothing]
    constructor
    · exact Factor.staysInRange_nil
    · exact Nat.zero_le _
    · intro dimension combined
      cases combined
      exact .inl neutral
  constructor
  · exact resolved
  · rw [shown]
    exact ⟨fun _ => takes, fun _ => ⟨_, rfl⟩⟩
  · intro failure failed
    rw [shown] at failed
    cases failed
  · exact fun _ tagged => absurd untagged tagged
  · intro _ _
    rw [shown]

/-- A value with a tag that is normalized is shown in it, or in SI if it has another dimension. -/
theorem shows_of_ok (filled : value.tag.isEmpty = false) {factors : List (Factor α)}
    (takes : registry.Takes factors) (resolved : registry.factors value.tag = .ok factors)
    (made : registry.normalize value.tag = .ok (normalized, grown)) :
    Shows registry value factors := by
  have shown := start_shown_of_ok filled made
  obtain ⟨others, _, _, again, outlined, _⟩ := Registry.normalize_eq_ok_iff.1 made
  cases resolved.symm.trans again
  have combined : Factor.dimension factors = .ok normalized.dimension :=
    Registry.dimension_of_outlineOf outlined
  constructor
  · exact resolved
  · rw [shown]
    exact ⟨fun _ => takes, fun _ => ⟨_, rfl⟩⟩
  · intro failure failed
    rw [shown] at failed
    cases failed
  · intro _ _ same
    refine ⟨normalized, grown, made, ?_⟩
    rw [shown, if_pos (Except.ok.inj (combined.symm.trans same))]
  · rintro _ (impossible | other)
    · rw [impossible] at filled
      cases filled
    · rw [shown, if_neg fun same => other (combined.trans (congrArg Except.ok same))]

/-- A value with a tag that is refused is not shown. -/
theorem shows_of_error (filled : value.tag.isEmpty = false) {factors : List (Factor α)}
    (refused : ¬registry.Takes factors) (resolved : registry.factors value.tag = .ok factors)
    {failure : Error} (failed : registry.normalize value.tag = .error failure)
    (refuses : registry.Refuses factors failure) : Shows registry value factors := by
  have shown := start_shown_of_error filled failed
  constructor
  · exact resolved
  · rw [shown]
    constructor
    · rintro ⟨_, impossible⟩
      cases impossible
    · exact fun takes => absurd takes refused
  · intro other fails
    rw [shown] at fails
    cases fails
    exact refuses
  · exact fun takes => absurd takes refused
  · exact fun takes => absurd takes refused

theorem shows_of_factors [Scalar.Unital α]
    (leads : ∀ quantity ∈ registry.quantities, quantity.Leads)
    (neutral : (registry.ownerOf? .ratio).isSome = true) {factors : List (Factor α)}
    (resolved : registry.factors value.tag = .ok factors) : Shows registry value factors := by
  by_cases untagged : value.tag = ""
  · exact shows_of_untagged neutral resolved untagged
  · have filled : value.tag.isEmpty = false :=
      Bool.eq_false_iff.2 fun nothing => untagged (String.isEmpty_iff.1 nothing)
    rcases Registry.takes_or_refuses leads neutral resolved with
      ⟨takes, ⟨normalized, grown⟩, made⟩ | ⟨refused, failure, failed, refuses⟩
    · exact shows_of_ok filled takes resolved made
    · exact shows_of_error filled refused resolved failed refuses

end Formula.Tagged

/-! ## Results of formulas -/

namespace Formula

section Results

variable {α σ : Type} [Scalar α] {settings : Settings} {start : Registry α}
  {table : FunctionTable α} {resolve : Resolver α σ} {formula : String}

theorem evaluate_yields {basis last : Registry α} (plain : table.Plain)
    (worded : ∀ quantity ∈ last.quantities, quantity.Worded basis)
    (looksUp : ∀ name, LooksUp (resolve name)) :
    Yields last (Tagged.Worded basis) (evaluate table resolve formula) := by
  have parsing : Yields last (fun _ => True) (Attempt.ofExcept (parse formula) :
      Calculation α σ (Expression α)) := yields_ofExcept fun _ _ => trivial
  have composes := Expression.composes_yields plain worded fun name state =>
    (looksUp name).extends state
  exact yields_bind parsing fun expression =>
    (composes.evaluate expression).mono fun _ held _ => held

variable (loaded : Registry.ofDefinitions Definitions.builtin settings = .ok start)
  {earlier : List String} (plain : table.Plain) (looksUp : ∀ name, LooksUp (resolve name))
  {inner final : σ} {grown : Registry α} {value : Tagged α}
  (returns : Returns table resolve formula (start.reached earlier, inner))
  (evaluated : (evaluate table resolve formula).start (start.reached earlier, inner) =
    (.ok value, grown, final))
include loaded plain looksUp returns evaluated

/-- The registry that a formula leaves is reached, and its result is tagged in the words of the
document. -/
theorem evaluate_worded :
    (∃ later, grown = start.reached later) ∧ ∃ terms, start.Wording terms value.tag := by
  obtain ⟨later, reaches⟩ := returns.exists_reached looksUp
  rw [evaluated, Registry.reached_append] at reaches
  have worded := Registry.passed_reached Quantity.passed_worded (Registry.worded_builtin loaded)
    (earlier ++ later)
  rw [← reaches] at worded
  have yields : Yields grown (Tagged.Worded start) (evaluate table resolve formula) :=
    evaluate_yields plain worded looksUp
  exact ⟨⟨_, reaches⟩, yields.value _ value (by rw [evaluated])
    (by rw [evaluated]; exact Registry.Extends.refl _)⟩

/-- A resolver that only looks units up lets a formula leave a registry that calls reach.  The tag
of the result is written from expressions of built-in units.  As long as the exponents of the tag
are words of 32 bits, it has factors in this registry, and the result is shown just when they take
what they need.  Otherwise a range, the step limit or a registry that may not grow refuses it. -/
theorem evaluate_shows [Scalar.Unital α] :
    (∃ later, grown = start.reached later) ∧ ∃ terms, start.Wording terms value.tag ∧
      ((∀ term ∈ combine terms, term.exponent.natAbs ≤ greatestExponent) →
        ∃ factors, value.Shows grown factors) := by
  obtain ⟨⟨later, reaches⟩, terms, wording⟩ :=
    evaluate_worded loaded plain looksUp returns evaluated
  refine ⟨⟨later, reaches⟩, terms, wording, fun fits => ?_⟩
  have legible : Legible (combine terms) :=
    fun term member => ⟨wording.tokens term member, fits term member⟩
  have kept : start.Extends grown := reaches ▸ Registry.Extends.run start _
  obtain ⟨factors, resolved⟩ := wording.exists_factors kept legible
  rw [reaches] at resolved ⊢
  exact ⟨factors, Tagged.shows_of_factors (Registry.leads_reached loaded later)
    (Registry.ratio_owned_reached loaded later) resolved⟩

end Results

/-! ## Two lengths of money -/

theorem looksUp_none {α : Type} [Scalar α] (name : String) :
    LooksUp ((Resolver.none : Resolver α Unit) name) :=
  looksUp_ofExcept _

/-- What has been computed of a result holds of it. -/
theorem exists_of_evaluated {β : Type} (settings : Settings) (formula : String)
    (observe : Registry ℚ → Tagged ℚ → Registry ℚ → β) {observed : β}
    (computed : (do
      let start ← Registry.ofDefinitions Definitions.builtin settings
      let run := (evaluateReturning .standard .none formula).start (start, ())
      Except.ok (observe start (← run.1) run.2.1)).toOption = some observed) :
    ∃ start value registry, Registry.ofDefinitions Definitions.builtin settings = .ok start ∧
      Returns .standard .none formula (start, ()) ∧
      (evaluate .standard .none formula).start (start, ()) = (.ok value, registry, ()) ∧
      start.Extends registry ∧ observe start value registry = observed := by
  cases loaded : Registry.ofDefinitions (Definitions.builtin : Definitions ℚ) settings with
  | error failure =>
      rw [loaded] at computed
      cases computed
  | ok start =>
      have grew := (looksUp_evaluateReturning looksUp_none formula :
        LooksUp (evaluateReturning .standard .none formula)).extends (start, ())
      cases run : (evaluateReturning .standard .none formula).start (start, ()) with
      | mk outcome state =>
          cases outcome with
          | error failure =>
              simp only [loaded, run, bind, Except.bind] at computed
              cases computed
          | ok value =>
              simp only [loaded, run, bind, Except.bind] at computed
              rw [run] at grew
              have returns := returns_of_ok run
              exact ⟨start, value, state.1, rfl, returns, returns.symm.trans run, grew,
                Option.some.inj computed⟩

theorem evaluate_shows_product :
    ∃ (start : Registry ℚ) (value : Tagged ℚ) (factors : List (Factor ℚ)),
      Registry.ofDefinitions Definitions.builtin {} = .ok start ∧
      (evaluate .standard .none "2{m}*3{$}").start (start, ()) = (.ok value, start, ()) ∧
      value.tag = "m*$" ∧ value.Shows start factors ∧ start.Takes factors := by
  obtain ⟨start, value, registry, loaded, returns, run, grew, observed⟩ :=
    exists_of_evaluated {} "2{m}*3{$}"
      (fun start value registry => (decide (registry.size = start.size), value.tag,
        (value.shown.start start).1.toOption.isSome))
      (show _ = some (true, "m*$", true) by decide +kernel)
  simp only [Prod.mk.injEq, decide_eq_true_eq] at observed
  obtain ⟨size, tag, succeeds⟩ := observed
  cases grew.eq_of_size size
  have runs : (evaluate .standard .none "2{m}*3{$}").start (start.reached [], ()) =
    (.ok value, start, ()) := run
  obtain ⟨_, terms, wording, shows⟩ :=
    evaluate_shows loaded FunctionTable.plain_standard looksUp_none returns runs
  have read : split value.tag = .ok [⟨"m", 1⟩, ⟨"$", 1⟩] := by
    rw [tag]
    decide +kernel
  obtain ⟨legible, _⟩ := wording.of_split read
  obtain ⟨factors, shown⟩ := shows fun term member => (legible term member).2
  refine ⟨start, value, factors, loaded, run, tag, shown, shown.accepted.1 ?_⟩
  cases answered : (value.shown.start start).1 with
  | error failure =>
      rw [answered] at succeeds
      cases succeeds
  | ok answer => exact ⟨answer, rfl⟩

/-- Without growth a product of tags may have no quantity, and then its value is not shown, not
even in SI. -/
theorem not_forall_evaluate_shown :
    ¬ ∀ (settings : Settings) (start grown : Registry ℚ) (formula : String) (value : Tagged ℚ),
      Registry.ofDefinitions Definitions.builtin settings = .ok start →
      (evaluate .standard .none formula).start (start, ()) = (.ok value, grown, ()) →
      ∃ answer, (value.shown.start grown).1 = .ok answer := by
  intro always
  obtain ⟨start, value, registry, loaded, returns, run, grew, observed⟩ :=
    exists_of_evaluated { growth := false } "2{m}*3{$}"
      (fun start value registry => (decide (registry.size = start.size),
        (value.shown.start start).1.toOption.isSome))
      (show _ = some (true, false) by decide +kernel)
  simp only [Prod.mk.injEq, decide_eq_true_eq] at observed
  obtain ⟨size, fails⟩ := observed
  cases grew.eq_of_size size
  obtain ⟨answer, shown⟩ := always _ start start _ value loaded run
  rw [shown] at fails
  cases fails

end Formula

end Metrology
