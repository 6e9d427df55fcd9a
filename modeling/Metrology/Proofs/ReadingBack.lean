import Metrology.Proofs.Converting
import Metrology.Proofs.Printing
import Metrology.Proofs.Showing

/-!
# Reading a shown result back

A result is shown in its tag, in the SI unit of its dimension, or else as its dimension is
printed.  A tag is spelled as it was and is normalized again as it was, and the text of an SI
unit is this unit.  So a result is read back as what it is whenever its dimension has a quantity.
-/

namespace Metrology

open Formula UnitExpression

namespace Registry

variable {basis registry grown : Registry ℚ} {text : String} {normalized : Normalized ℚ}

/-! ## Tags -/

/-- A word of a document whose units agree with their texts is a known token. -/
theorem knows_of_names (coherent : basis.Coherent basis) {token : String}
    (names : basis.Names token) : basis.Knows token := by
  obtain ⟨entry, found⟩ := Option.isSome_iff_exists.1 names.found
  have member := mem_of_findExpression? found
  have spelled := coherent.spelled_entry member
  exact ⟨names.isToken, entry, found, (Spelled.reads spelled).1⟩

/-- A tag that can be taken apart reads as the product of its words. -/
theorem reads_of_wording (coherent : basis.Coherent basis) {terms read : List UnitTerm}
    (wording : basis.Wording terms text) (reads : split text = .ok read) :
    basis.Reads terms text (valued basis.scaleOf terms) := by
  obtain ⟨legible, _⟩ := wording.of_split reads
  constructor
  · exact wording.written
  · exact fun term member => knows_of_names coherent (wording.named term member)
  · exact fun term member => (legible term member).2
  · rfl

/-- A text of known tokens is read alike once its outcome has been registered. -/
theorem tokenOutline_of_reads (kept : basis.Extends registry) {terms : List UnitTerm}
    {scale : Scale} (reads : basis.Reads terms text scale)
    (answered : registry.normalize text = .ok (normalized, grown)) :
    grown.tokenOutline text = registry.tokenOutline text := by
  refine tokenOutline_grown answered fun others taken term member => ?_
  cases reads.split.symm.trans taken
  obtain ⟨entry, _, _, found⟩ :=
    findExpression?_of_knows kept (reads.known_canonical term member)
  rw [found]
  rfl

/-- A tag that has been normalized is spelled as it is, and is answered so again. -/
theorem normalize_tag_again (start : basis.Coherent basis) (coherent : basis.Coherent registry)
    (grownCoherent : basis.Coherent grown) (positive : 1 ≤ grown.stepLimit)
    {terms : List UnitTerm} (wording : basis.Wording terms text) (filled : text.isEmpty = false)
    (answered : registry.normalize text = .ok (normalized, grown)) :
    normalized.userExpression = text ∧ normalized.slope ≠ 0 ∧ normalized.intercept = 0 ∧
      grown.normalize text = .ok (normalized, grown) := by
  obtain ⟨read, taken, _⟩ := exists_terms_of_normalize coherent wording.trimmed filled answered
  have reads := reads_of_wording start wording taken
  obtain ⟨factors, respells, _⟩ := exists_respells coherent reads
  obtain ⟨_, _, _, resolved, outlined, _⟩ := normalize_eq_ok_iff.1 answered
  cases respells.resolved.symm.trans resolved
  have spelling : normalized.userExpression = text :=
    (userExpression_of_outlineOf outlined).trans respells.spelling
  obtain ⟨measures, intercept⟩ := measures_of_outlineOf respells.proportional outlined
  rw [respells.scale] at measures
  have slope : ((valued basis.scaleOf terms).2 : ℚ) = normalized.slope := measures.slope
  refine ⟨spelling, slope ▸ (valued basis.scaleOf terms).2.ne_zero, intercept, ?_⟩
  cases found : grown.findExpression? text with
  | some entry =>
      -- The tag has become a unit, which is what the tag was.
      have whole := respells_of_unit grownCoherent reads filled found
      have withSI := whole.withSI grownCoherent.formed ⟨entry, 1⟩ List.mem_cons_self
      have again := outlineOf_single positive withSI
      rw [← spelling] at whole
      rw [whole.outline_eq measures intercept again] at again
      rw [spelling] at whole
      exact normalize_of_outline answered whole.resolved again
  | none =>
      have missing := missing_of_missing answered found
      have tokens : registry.tokenOutline text = .ok normalized.outline := by
        rw [factors_of_none (by rwa [wording.trimmed]), wording.trimmed] at resolved
        rw [tokenOutline, resolved]
        exact outlined
      rw [← tokenOutline_of_reads coherent.kept reads answered] at tokens
      obtain ⟨others, again, outlinedAgain⟩ := exists_of_bind_eq_ok tokens
      refine normalize_of_outline answered ?_ outlinedAgain
      rw [factors_of_none (by rwa [wording.trimmed]), wording.trimmed]
      exact again

end Registry

namespace Formula

namespace Tagged

variable {registry grown : Registry ℚ} {value : Tagged ℚ} {number : ℚ} {unit : String}

/-- A value is shown in its tag, which has its dimension, or on the SI scale. -/
theorem shown_cases (shown : value.shown.start registry = (.ok (number, unit), grown)) :
    (∃ normalized, value.tag.isEmpty = false ∧
      registry.normalize value.tag = .ok (normalized, grown) ∧
      normalized.dimension = value.amount.dimension ∧
      number = normalized.ofSI value.amount.magnitude ∧ unit = normalized.userExpression) ∨
    number = value.amount.magnitude ∧ unit = siExpression grown value.amount.dimension := by
  cases filled : value.tag.isEmpty with
  | true =>
      rw [start_shown_of_empty registry filled] at shown
      cases shown
      exact .inr ⟨rfl, rfl⟩
  | false =>
      cases answered : registry.normalize value.tag with
      | error failure =>
          rw [start_shown_of_error filled answered] at shown
          cases shown
      | ok answer =>
          rw [start_shown_of_ok filled answered] at shown
          split at shown
          · next same =>
              cases shown
              exact .inl ⟨answer.1, rfl, rfl, same, rfl, rfl⟩
          · cases shown
            exact .inr ⟨rfl, rfl⟩

/-- Showing a value calls the registry once at most. -/
theorem exists_reached_shown (fits : registry.callFits value.tag = true) :
    ∃ expressions, (value.shown.start registry).2 = registry.reached expressions := by
  cases filled : value.tag.isEmpty with
  | true =>
      rw [start_shown_of_empty registry filled]
      exact ⟨[], rfl⟩
  | false =>
      refine ⟨[value.tag], ?_⟩
      rw [Registry.reached_singleton fits]
      cases answered : registry.normalize value.tag with
      | error failure =>
          rw [start_shown_of_error filled answered, Registry.start_normalizing_of_error answered]
      | ok answer =>
          rw [start_shown_of_ok filled answered, Registry.start_normalizing_of_ok answered]

/-- How what a value is shown as is read in a registry.  It is read back as the value just when
the dimension has a quantity or is a power of the currency that can be derived, and never as
another amount of this dimension. -/
structure ReadsBack (registry : Registry ℚ) (value : Tagged ℚ) (number : ℚ) (unit : String) :
    Prop where
  accepted : ((Amount.ofUnit number unit).start registry).1 = .ok value.amount ↔
    registry.Owns value.amount.dimension ∨ registry.Coins value.amount.dimension
  faithful : ∀ amount, ((Amount.ofUnit number unit).start registry).1 = .ok amount →
    amount.dimension = value.amount.dimension → amount = value.amount

theorem readsBack_of_owns (owns : registry.Owns value.amount.dimension)
    (reads : (Amount.ofUnit number unit).start registry = (.ok value.amount, registry)) :
    value.ReadsBack registry number unit := by
  constructor
  · rw [reads]
    exact iff_of_true rfl (.inl owns)
  · intro amount again _
    rw [reads] at again
    exact (Except.ok.inj again).symm

/-- The SI unit of a dimension is normalized to itself. -/
theorem normalize_siExpression {basis : Registry ℚ} (coherent : basis.Coherent registry)
    (positive : 1 ≤ registry.stepLimit) {dimension : Dimension}
    (owned : registry.Owns dimension) :
    ∃ again, registry.normalize (siExpression registry dimension) = .ok (again, registry) ∧
      again.dimension = dimension ∧ again.slope = 1 ∧ again.intercept = 0 := by
  obtain ⟨owner, found⟩ := Option.isSome_iff_exists.1 owned
  have registered := List.mem_of_find?_eq_some found
  have isOwner := List.find?_some found
  obtain ⟨unit, si⟩ := Option.isSome_iff_exists.1 (coherent.formed.withSI owner registered)
  have expression : siExpression registry dimension = unit.expression := by
    rw [siExpression, found, Option.bind_some, si]
    rfl
  rw [expression, ← beq_iff_eq.1 isOwner]
  exact Registry.normalize_siUnit coherent positive registered si

section Reached

variable {settings : Settings} {start : Registry ℚ}
  (loaded : Registry.ofDefinitions Definitions.builtin settings = .ok start)
  {earlier later : List String}
include loaded

/-- What is shown in its tag is read back. -/
theorem start_ofUnit_of_tag {terms : List UnitTerm} (wording : start.Wording terms value.tag)
    (filled : value.tag.isEmpty = false) {normalized : Normalized ℚ}
    (answered : (start.reached earlier).normalize value.tag =
      .ok (normalized, start.reached later))
    (same : normalized.dimension = value.amount.dimension) :
    (Amount.ofUnit (normalized.ofSI value.amount.magnitude) normalized.userExpression).start
      (start.reached later) = (.ok value.amount, start.reached later) := by
  have coherent := Registry.coherent_builtin loaded
  obtain ⟨spelling, slope, intercept, again⟩ :=
    Registry.normalize_tag_again coherent (coherent.reached earlier) (coherent.reached later)
      (Registry.one_le_stepLimit_reached loaded later) wording filled answered
  have back :
      normalized.toSI (normalized.ofSI value.amount.magnitude) = value.amount.magnitude := by
    rw [Normalized.toSI, Normalized.ofSI, intercept, sub_zero, add_zero, div_mul_cancel₀ _ slope]
  rw [spelling, Registry.start_ofUnit_of_ok again, back, same]

/-- What is shown in the SI unit of a quantity is read back. -/
theorem start_ofUnit_of_siUnit
    (owned : (start.reached later).Owns value.amount.dimension) :
    (Amount.ofUnit value.amount.magnitude
      (siExpression (start.reached later) value.amount.dimension)).start
      (start.reached later) = (.ok value.amount, start.reached later) := by
  have coherent := (Registry.coherent_builtin loaded).reached later
  obtain ⟨again, normalizes, dimension, slope, intercept⟩ :=
    normalize_siExpression coherent (Registry.one_le_stepLimit_reached loaded later) owned
  have back : again.toSI value.amount.magnitude = value.amount.magnitude := by
    rw [Normalized.toSI, slope, intercept, mul_one, add_zero]
  rw [Registry.start_ofUnit_of_ok normalizes, back, dimension]

section Unowned

variable (unowned : (start.reached later).ownerOf? value.amount.dimension = none)
include unowned

/-- A printed dimension that cannot be normalized is not read. -/
theorem readsBack_of_error {failure : Error}
    (answered : (start.reached later).normalize value.amount.dimension.text = .error failure) :
    value.ReadsBack (start.reached later) value.amount.magnitude value.amount.dimension.text := by
  have fails := Registry.start_normalizing_of_error answered
  have reads : ((Amount.ofUnit value.amount.magnitude value.amount.dimension.text).start
      (start.reached later)).1 = .error failure := by
    rw [Amount.ofUnit, Attempt.start_bind_of_error (congrArg Prod.fst fails)]
  constructor
  · rw [reads, or_iff_right (Registry.not_owns_iff.2 unowned)]
    constructor
    · intro impossible
      cases impossible
    · intro coins
      obtain ⟨_, _, succeeds, _⟩ := (Registry.normalize_text_iff loaded unowned).2 coins
      cases answered.symm.trans succeeds
  · intro amount impossible _
    rw [reads] at impossible
    cases impossible

/-- A printed dimension that is normalized to this dimension is on the SI scale. -/
theorem amount_of_answer {normalized : Normalized ℚ} {grown : Registry ℚ}
    (answered : (start.reached later).normalize value.amount.dimension.text =
      .ok (normalized, grown))
    (same : normalized.dimension = value.amount.dimension) :
    (⟨normalized.toSI value.amount.magnitude, normalized.dimension⟩ : Amount ℚ) =
      value.amount := by
  have dimensioned := Registry.ne_ratio_of_unowned loaded unowned
  have money := Registry.money_of_normalize loaded dimensioned answered same
  obtain ⟨_, _, slope, intercept⟩ := Registry.answer_of_money loaded unowned money answered
  rw [Normalized.toSI, slope, intercept, mul_one, add_zero, same]

/-- A printed dimension is read back only as a power of the currency. -/
theorem readsBack_text :
    value.ReadsBack (start.reached later) value.amount.magnitude value.amount.dimension.text := by
  cases answered : (start.reached later).normalize value.amount.dimension.text with
  | error failure => exact readsBack_of_error loaded unowned answered
  | ok answer =>
      have reads := Registry.start_ofUnit_of_ok answered value.amount.magnitude
      constructor
      · rw [reads, or_iff_right (Registry.not_owns_iff.2 unowned)]
        constructor
        · intro again
          have same := congrArg Amount.dimension (Except.ok.inj again)
          exact (Registry.normalize_text_iff loaded unowned).1 ⟨_, _, answered, same⟩
        · intro coins
          have answers := Registry.answer_of_money loaded unowned coins.money answered
          exact congrArg Except.ok (amount_of_answer loaded unowned answered answers.2.1)
      · intro amount again same
        rw [reads] at again
        cases again
        exact amount_of_answer loaded unowned answered same

end Unowned

end Reached

end Tagged

section Results

variable {σ : Type} {settings : Settings} {start : Registry ℚ} {table : FunctionTable ℚ}
  {resolve : Resolver ℚ σ} {formula : String}

/-- Whatever a formula comes to and however its result is shown, in its tag, in an SI unit or as
a printed dimension, what is shown is read back in the registry that showing it has left.  The
resolver only looks units up, and all calls return, so this registry is reached. -/
theorem evaluate_readsBack
    (loaded : Registry.ofDefinitions Definitions.builtin settings = .ok start)
    {earlier : List String} (plain : table.Plain) (looksUp : ∀ name, LooksUp (resolve name))
    {inner final : σ} {grown last : Registry ℚ} {value : Tagged ℚ}
    (returns : Returns table resolve formula (start.reached earlier, inner))
    (evaluated : (evaluate table resolve formula).start (start.reached earlier, inner) =
      (.ok value, grown, final))
    (fits : grown.callFits value.tag = true) {number : ℚ} {unit : String}
    (shown : value.shown.start grown = (.ok (number, unit), last)) :
    (∃ later, last = start.reached later) ∧ value.ReadsBack last number unit := by
  obtain ⟨⟨before, rfl⟩, terms, wording⟩ :=
    evaluate_worded loaded plain looksUp returns evaluated
  obtain ⟨more, reaches⟩ := Tagged.exists_reached_shown fits
  rw [shown, Registry.reached_append] at reaches
  obtain rfl : last = start.reached (before ++ more) := reaches
  refine ⟨⟨_, rfl⟩, ?_⟩
  rcases Tagged.shown_cases shown with
    ⟨normalized, filled, answered, same, rfl, rfl⟩ | ⟨rfl, rfl⟩
  · obtain ⟨owner, _, found, _⟩ := Registry.owner_of_normalize answered
    rw [same] at found
    exact Tagged.readsBack_of_owns (Option.isSome_iff_exists.2 ⟨owner, found⟩)
      (Tagged.start_ofUnit_of_tag loaded wording filled answered same)
  · cases found : (start.reached (before ++ more)).ownerOf? value.amount.dimension with
    | some owner =>
        have owns : (start.reached (before ++ more)).Owns value.amount.dimension :=
          Option.isSome_iff_exists.2 ⟨owner, found⟩
        exact Tagged.readsBack_of_owns owns (Tagged.start_ofUnit_of_siUnit loaded owns)
    | none =>
        rw [Tagged.siExpression, found]
        exact Tagged.readsBack_text loaded found

end Results

/-! ## Squares and fourth powers -/

/-- A square of the currency. -/
def squaredCurrency : Dimension := ⟨Dimension.pack ⟨0, 0, 0, 2⟩⟩

theorem evaluate_readsBack_square :
    ∃ (start : Registry ℚ) (value : Tagged ℚ),
      Registry.ofDefinitions Definitions.builtin {} = .ok start ∧
      (evaluate .standard .none "2{$}^2").start (start, ()) = (.ok value, start, ()) ∧
      value.shown.start start = (.ok (4, "$^2"), start) ∧
      start.ownerOf? value.amount.dimension = none ∧
      ((Amount.ofUnit 4 "$^2").start start).1 = .ok value.amount := by
  obtain ⟨start, value, registry, loaded, returns, run, grew, observed⟩ :=
    exists_of_evaluated {} "2{$}^2"
      (fun start value registry => (decide (registry.size = start.size), value,
        start.callFits value.tag, Tagged.siExpression start value.amount.dimension,
        (start.ownerOf? value.amount.dimension).isNone))
      (show _ = some (true, ⟨⟨4, squaredCurrency⟩, ""⟩, true, "$^2", true) by decide +kernel)
  simp only [Prod.mk.injEq, decide_eq_true_eq, Option.isNone_iff_eq_none] at observed
  obtain ⟨size, rfl, fits, expression, unowned⟩ := observed
  cases grew.eq_of_size size
  have shown : (⟨⟨4, squaredCurrency⟩, ""⟩ : Tagged ℚ).shown.start start = _ :=
    Tagged.start_shown_of_empty start rfl
  rw [expression] at shown
  have runs : (evaluate .standard .none "2{$}^2").start (start.reached [], ()) = _ := run
  obtain ⟨_, readsBack⟩ := evaluate_readsBack loaded FunctionTable.plain_standard looksUp_none
    returns runs fits shown
  have kept := Registry.extends_of_loaded loaded
  refine ⟨start, _, loaded, run, shown, unowned, readsBack.accepted.2 (.inr ?_)⟩
  constructor
  · constructor
    · decide
    · decide
  · exact kept.growth
  · decide
  · change 2 ≤ start.stepLimit
    rw [kept.stepLimit]
    decide

/-- The fourth power of metres is printed as `L^4`, which is read as the fourth power of litres. -/
theorem not_forall_evaluate_readsBack :
    ¬ ∀ (settings : Settings) (start grown last : Registry ℚ) (formula : String)
      (value : Tagged ℚ) (number : ℚ) (unit : String),
      settings.growth = true →
      Registry.ofDefinitions Definitions.builtin settings = .ok start →
      (evaluate .standard .none formula).start (start, ()) = (.ok value, grown, ()) →
      value.shown.start grown = (.ok (number, unit), last) →
      ((Amount.ofUnit number unit).start last).1 = .ok value.amount := by
  intro always
  obtain ⟨start, value, registry, loaded, returns, run, grew, observed⟩ :=
    exists_of_evaluated {} "2{m}^4"
      (fun start value registry => (decide (registry.size = start.size), value.tag.isEmpty,
        decide (((Amount.ofUnit value.amount.magnitude
          (Tagged.siExpression start value.amount.dimension)).start start).1.toOption =
            some value.amount)))
      (show _ = some (true, true, false) by decide +kernel)
  simp only [Prod.mk.injEq, decide_eq_true_eq, decide_eq_false_iff_not] at observed
  obtain ⟨size, untagged, differs⟩ := observed
  cases grew.eq_of_size size
  have shown := Tagged.start_shown_of_empty start untagged
  have reads := always {} start start start "2{m}^4" value _ _ rfl loaded run shown
  rw [reads] at differs
  exact differs rfl

end Formula

end Metrology
