import Metrology.Proofs.BuiltinUnits
import Metrology.Proofs.Ranges

/-!
# Asking for the spelling of an answer

The spelling that an answer gives has its factors in another order than the text that was
asked for, and some of them merged.  Dimensions are checked factor by factor, so a spelling
can leave their range although the text has not.  Nothing else can come between: where the
factors of the spelling stay in range, it is answered as the text was.
-/

namespace Metrology

open UnitExpression

namespace Registry

/-! ## The spelling of factors -/

variable {basis registry grown : Registry ℚ} {expression : String} {normalized : Normalized ℚ}

/-- A unit that agrees with its text has the scale of this text. -/
theorem Spelled.reads {entry : UnitEntry ℚ}
    (spelled : basis.Spelled entry.dimension entry.unit) :
    entry.Proportional ∧ ∃ terms, basis.Reads terms entry.expression entry.scale := by
  obtain ⟨terms, scale, reads, measures, intercept⟩ := spelled
  have slope : entry.unit.slope ≠ 0 := measures.slope ▸ scale.2.ne_zero
  have own := UnitEntry.Proportional.measures ⟨slope, intercept⟩
  have same : scale = entry.scale := by
    refine Prod.ext (funext fun axis => ?_) (Units.ext ?_)
    · exact Multiplicative.toAdd.injective
        ((measures.exponent axis).trans (own.exponent axis).symm)
    · exact measures.slope.trans own.slope.symm
  exact ⟨⟨slope, intercept⟩, terms, same ▸ reads⟩

/-- The terms of the spelling of factors, before they are combined. -/
def spellingTerms (factors : List (Factor ℚ)) : List UnitTerm :=
  factors.flatMap fun factor => poweredTerms factor.entry.expression factor.exponent

/-- Powers of units that agree with their texts are spelled from known tokens. -/
theorem known_spellingTerms {factors : List (Factor ℚ)}
    (spelled : ∀ factor ∈ factors, basis.Spelled factor.entry.dimension factor.entry.unit) :
    (∀ term ∈ spellingTerms factors, basis.Knows term.token) ∧
      valued basis.scaleOf (spellingTerms factors) = Factor.scale factors := by
  induction factors with
  | nil => exact ⟨fun _ impossible => absurd impossible List.not_mem_nil, rfl⟩
  | cons factor rest ih =>
      obtain ⟨restKnown, restValued⟩ := ih fun other member =>
        spelled other (List.mem_cons_of_mem _ member)
      obtain ⟨_, terms, reads⟩ := (spelled factor List.mem_cons_self).reads
      rw [spellingTerms, List.flatMap_cons, ← spellingTerms]
      constructor
      · intro term member
        rcases List.mem_append.1 member with here | later
        · exact reads.known_powered factor.exponent term here
        · exact restKnown term later
      · rw [valued_append, reads.valued_powered, restValued, Factor.scale, Factor.scale,
          List.map_cons, List.prod_cons]

/-- The spelling of factors has their scale. -/
theorem reads_product {factors : List (Factor ℚ)}
    (spelled : ∀ factor ∈ factors, basis.Spelled factor.entry.dimension factor.entry.unit)
    (fits : writesFit
      (factors.map fun factor => (factor.entry.expression, factor.exponent)) = true) :
    basis.Reads (spellingTerms factors)
      (UnitExpression.product
        (factors.map fun factor => (factor.entry.expression, factor.exponent)))
      (Factor.scale factors) := by
  obtain ⟨known, valued⟩ := known_spellingTerms spelled
  rw [writesFit, List.flatMap_map, List.all_eq_true] at fits
  refine ⟨?_, known, fun term member => of_decide_eq_true (fits term member), valued⟩
  rw [UnitExpression.product, List.flatMap_map, spellingTerms]

/-- Factors that stand for the terms of a spelling are spelled alike. -/
theorem product_of_stands {terms : List UnitTerm} {factors : List (Factor ℚ)}
    (tokens : ∀ term ∈ terms, IsToken term.token)
    (stands : List.Forall₂ registry.Stands terms factors) :
    UnitExpression.product
      (factors.map fun factor => (factor.entry.expression, factor.exponent)) = format terms := by
  rw [UnitExpression.product, List.flatMap_map]
  congr 1
  induction stands with
  | nil => rfl
  | @cons term factor rest others stands _ ih =>
      rw [List.flatMap_cons, stands.carries, stands.exponent,
        poweredTerms_token (tokens term List.mem_cons_self),
        ih fun other member => tokens other (List.mem_cons_of_mem _ member)]
      rfl

/-- Whether every exponent in the spelling of an answer can be read back.  Exponents are words
of 32 bits: a call that leaves them while it spells its answer stops there. -/
def answerFits {α : Type} (registry : Registry α) (expression : String) : Bool :=
  (registry.factors expression).toOption.all fun factors =>
    writesFit (factors.map fun factor => (factor.entry.expression, factor.exponent))

/-- An answer reads as a spelling with the dimension and the slope of the answer. -/
theorem Coherent.reads_answer (coherent : basis.Coherent registry)
    (answered : registry.normalize expression = .ok (normalized, grown))
    (fits : registry.answerFits expression = true) :
    ∃ terms scale, basis.Reads terms normalized.userExpression scale ∧
      scale.Measures normalized.dimension normalized.slope ∧ normalized.intercept = 0 := by
  obtain ⟨factors, _, _, resolved, outlined, _⟩ := normalize_eq_ok_iff.1 answered
  have spelled : ∀ factor ∈ factors,
      basis.Spelled factor.entry.dimension factor.entry.unit := by
    intro factor member
    have known := mem_of_factors resolved factor member
    exact coherent.spelled_entry known
  rw [answerFits, resolved] at fits
  have reads := reads_product spelled fits
  obtain ⟨measures, intercept⟩ :=
    measures_of_outlineOf (fun factor member => (spelled factor member).reads.1) outlined
  obtain ⟨dimension, combined, outlined⟩ := exists_of_bind_eq_ok outlined
  obtain ⟨plan, planned, outlined⟩ := exists_of_bind_eq_ok outlined
  have same := (Outline.mk.inj (Except.ok.inj outlined)).1
  rw [same] at reads
  exact ⟨_, _, reads, measures, intercept⟩

/-! ## Reading a spelling back -/

/-- The factors of a spelling have its scale and are spelled by it. -/
structure Respells (registry : Registry ℚ) (text : String) (scale : Scale)
    (factors : List (Factor ℚ)) : Prop where
  resolved : registry.factors text = .ok factors
  proportional : ∀ factor ∈ factors, factor.entry.Proportional
  scale : Factor.scale factors = scale
  spelling : UnitExpression.product
    (factors.map fun factor => (factor.entry.expression, factor.exponent)) = text

variable {terms : List UnitTerm} {text : String} {scale : Scale}

/-- A spelling that is read token by token. -/
theorem respells_of_tokens (kept : basis.Extends registry) (reads : basis.Reads terms text scale)
    (tokenwise : registry.factors text = registry.tokenFactors text) :
    ∃ factors, registry.Respells text scale factors ∧
      List.Forall₂ registry.Stands (canonical terms) factors := by
  obtain ⟨factors, stands, proportional, same, resolved⟩ := tokenFactors_of_reads kept reads
  refine ⟨factors, ⟨tokenwise.trans resolved, proportional, same, ?_⟩, stands⟩
  rw [product_of_stands (fun term member => (reads.known_canonical term member).isToken) stands,
    format_canonical, ← reads.written]

/-- A spelling that has become a unit. -/
theorem respells_of_unit (coherent : basis.Coherent registry)
    (reads : basis.Reads terms text scale) (filled : text.isEmpty = false) {entry : UnitEntry ℚ}
    (found : registry.findExpression? text = some entry) :
    registry.Respells text scale [⟨entry, 1⟩] := by
  have trimmed : Text.trimmed text = text := by
    rw [reads.written, trimmed_format reads.legible.isToken]
  have known := mem_of_findExpression? found
  obtain ⟨proportional, others, otherReads⟩ :=
    (coherent.spelled_entry known).reads
  have carries := expression_of_findExpression? found
  rw [carries] at otherReads
  constructor
  · exact factors_of_findExpression? (by rwa [trimmed]) (by rwa [trimmed])
  · intro factor member
    rwa [List.mem_singleton.1 member]
  · rw [reads.unique otherReads]
    simp [Factor.scale]
  · rw [List.map_singleton, UnitExpression.product, List.flatMap_singleton, carries,
      reads.written, poweredTerms_format reads.legible, scaled_one, format_canonical]

/-- A spelling is read as a unit, or token by token with the factors above the slash first. -/
theorem exists_respells (coherent : basis.Coherent registry)
    (reads : basis.Reads terms text scale) :
    ∃ factors, registry.Respells text scale factors ∧
      (registry.findExpression? text = none →
        List.Forall₂ registry.Stands (canonical terms) factors) ∧
      ((registry.findExpression? text).isSome = true →
        factors = [] ∨ ∃ entry, factors = [⟨entry, 1⟩]) := by
  by_cases empty : text = ""
  · subst empty
    obtain ⟨factors, respells, stands⟩ := respells_of_tokens coherent.kept reads rfl
    have none_left : factors = [] := (Except.ok.inj respells.resolved).symm
    exact ⟨factors, respells, fun _ => stands, fun _ => .inl none_left⟩
  · cases found : registry.findExpression? text with
    | none =>
        have trimmed : Text.trimmed text = text := by
          rw [reads.written, trimmed_format reads.legible.isToken]
        have tokenwise : registry.factors text = registry.tokenFactors text := by
          have missing : registry.findExpression? (Text.trimmed text) = none := by rwa [trimmed]
          have split := factors_of_none missing
          rwa [trimmed] at split
        obtain ⟨factors, respells, stands⟩ := respells_of_tokens coherent.kept reads tokenwise
        exact ⟨factors, respells, fun _ => stands, nofun⟩
    | some entry =>
        have filled : text.isEmpty = false :=
          Bool.eq_false_iff.2 fun none_left => empty (String.isEmpty_iff.1 none_left)
        exact ⟨_, respells_of_unit coherent reads filled found,
          nofun, fun _ => .inr ⟨entry, rfl⟩⟩

section Respelled

variable {factors : List (Factor ℚ)}

theorem Respells.withSI (respells : registry.Respells text scale factors)
    (formed : registry.WellFormed) :
    ∀ factor ∈ factors, factor.entry.quantity.siUnit?.isSome = true :=
  fun factor member => formed.withSI _
    (quantity_mem_of_entry (mem_of_factors respells.resolved factor member))

/-- Whatever the factors of a spelling come to is what the answer says that is spelled so. -/
theorem Respells.outline_eq
    (respells : registry.Respells normalized.userExpression scale factors)
    (measures : scale.Measures normalized.dimension normalized.slope)
    (intercept : normalized.intercept = 0) {limit : Nat} {outline : Outline ℚ}
    (outlined : outlineOf limit factors = .ok outline) : outline = normalized.outline := by
  obtain ⟨whole, offset⟩ := measures_of_outlineOf respells.proportional outlined
  rw [respells.scale] at whole
  obtain ⟨dimension, slope⟩ := whole.unique measures
  obtain ⟨_, _, outlined⟩ := exists_of_bind_eq_ok outlined
  obtain ⟨_, _, outlined⟩ := exists_of_bind_eq_ok outlined
  cases outlined
  rw [Normalized.outline, ← dimension, ← slope, intercept, ← offset, ← respells.spelling]

/-- A text that comes to what an answer says is answered with this answer. -/
theorem normalize_of_outline (answered : registry.normalize expression = .ok (normalized, grown))
    (resolved : grown.factors text = .ok factors)
    (outlined : outlineOf grown.stepLimit factors = .ok normalized.outline) :
    grown.normalize text = .ok (normalized, grown) := by
  obtain ⟨owner, unit, owned, siUnit, si, named⟩ := owner_of_normalize answered
  rw [normalize_of_owned resolved outlined owned siUnit, ← si, ← named]
  rfl

end Respelled

/-- How a registry takes the spelling of one of its answers: as the factors in it, read from the
left to the right.  It is answered as the answer says, unless a factor or a product of the first
factors leaves the range, or their powers exceed the step limit. -/
structure TakesBack (registry : Registry ℚ) (normalized : Normalized ℚ)
    (factors : List (Factor ℚ)) : Prop where
  resolved : registry.factors normalized.userExpression = .ok factors
  tokens : registry.findExpression? normalized.userExpression = none →
    ∃ terms, UnitExpression.split normalized.userExpression = .ok terms ∧
      InOrder (terms.map (·.exponent)) ∧ List.Forall₂ registry.Stands terms factors
  registered : (registry.findExpression? normalized.userExpression).isSome = true →
    registry.normalize normalized.userExpression = .ok (normalized, registry)
  accepted : (∃ answer, registry.normalize normalized.userExpression = .ok answer) ↔
    Factor.StaysInRange factors ∧ powers factors ≤ registry.stepLimit
  stable : ∀ answer, registry.normalize normalized.userExpression = .ok answer →
    answer = (normalized, registry)
  refused : ∀ failure, registry.normalize normalized.userExpression = .error failure →
    powers factors ≤ registry.stepLimit → Dimension.Overflow failure

theorem Coherent.takesBack (coherent : basis.Coherent registry)
    (answered : registry.normalize expression = .ok (normalized, grown))
    (callFits : registry.callFits expression = true)
    (answerFits : registry.answerFits expression = true) (positive : 1 ≤ grown.stepLimit) :
    ∃ factors, grown.TakesBack normalized factors := by
  obtain ⟨terms, scale, reads, measures, intercept⟩ := coherent.reads_answer answered answerFits
  have grownCoherent := coherent.of_normalize callFits answered
  obtain ⟨factors, respells, stands, single⟩ := exists_respells grownCoherent reads
  have withSI := respells.withSI grownCoherent.formed
  have answers (stays : Factor.StaysInRange factors) (fits : powers factors ≤ grown.stepLimit) :
      grown.normalize normalized.userExpression = .ok (normalized, grown) := by
    obtain ⟨outline, outlined⟩ := (exists_outlineOf_iff withSI).2 ⟨stays, fits⟩
    rw [respells.outline_eq measures intercept outlined] at outlined
    exact normalize_of_outline answered respells.resolved outlined
  have staysIn (answer : Normalized ℚ × Registry ℚ)
      (again : grown.normalize normalized.userExpression = .ok answer) :
      Factor.StaysInRange factors ∧ powers factors ≤ grown.stepLimit := by
    obtain ⟨others, _, _, resolved, outlined, _⟩ := normalize_eq_ok_iff.1 again
    cases respells.resolved.symm.trans resolved
    exact (exists_outlineOf_iff withSI).1 ⟨_, outlined⟩
  refine ⟨factors, respells.resolved, fun missing => ?_, fun found => ?_, ?_, ?_, ?_⟩
  · exact ⟨canonical terms, reads.split, inOrder_canonical terms, stands missing⟩
  · rcases single found with rfl | ⟨entry, rfl⟩
    · exact answers (Factor.exists_dimension_iff.1 ⟨_, rfl⟩) (Nat.zero_le _)
    · exact answers (Factor.exists_dimension_iff.1 ⟨_, dimension_single entry⟩) positive
  · constructor
    · rintro ⟨answer, again⟩
      exact staysIn answer again
    · rintro ⟨stays, fits⟩
      exact ⟨_, answers stays fits⟩
  · intro answer again
    obtain ⟨stays, fits⟩ := staysIn answer again
    exact Except.ok.inj (again.symm.trans (answers stays fits))
  · intro failure failed fits
    cases outlined : outlineOf grown.stepLimit factors with
    | ok outline =>
        obtain ⟨stays, _⟩ := (exists_outlineOf_iff withSI).1 ⟨outline, outlined⟩
        rw [answers stays fits] at failed
        cases failed
    | error reason =>
        rw [normalize_of_outlineOf_error respells.resolved outlined] at failed
        cases failed
        exact overflow_of_outlineOf withSI fits outlined

/-! ## Reached registries -/

/-- In every registry that calls reach from the built-in one, the spelling of an answer is taken
back as the factors in it. -/
theorem reached_takesBack {settings : Settings} {start : Registry ℚ}
    (loaded : ofDefinitions Definitions.builtin settings = .ok start) (expressions : List String)
    (answered : (start.reached expressions).normalize expression = .ok (normalized, grown))
    (callFits : (start.reached expressions).callFits expression = true)
    (answerFits : (start.reached expressions).answerFits expression = true) :
    ∃ factors, grown.TakesBack normalized factors := by
  have coherent := (coherent_builtin loaded).reached expressions
  refine coherent.takesBack answered callFits answerFits ?_
  rw [(coherent.of_normalize callFits answered).kept.stepLimit,
    (extends_of_loaded loaded).stepLimit]
  exact Nat.le_max_left 1 _

/-- What has been computed of an answer holds of it. -/
theorem exists_of_observed {β : Type} (settings : Settings) (expressions : List String)
    (text : String) (observe : Registry ℚ → Normalized ℚ → Registry ℚ → β) {observed : β}
    (computed : (do
      let start ← ofDefinitions Definitions.builtin settings
      let (normalized, grown) ← (start.reached expressions).normalize text
      Except.ok (observe (start.reached expressions) normalized grown)).toOption =
        some observed) :
    ∃ start normalized grown, ofDefinitions Definitions.builtin settings = .ok start ∧
      (start.reached expressions).normalize text = .ok (normalized, grown) ∧
      observe (start.reached expressions) normalized grown = observed := by
  cases loaded : ofDefinitions (Definitions.builtin : Definitions ℚ) settings with
  | error failure =>
      rw [loaded] at computed
      cases computed
  | ok start =>
      cases answered : (start.reached expressions).normalize text with
      | error failure =>
          simp only [loaded, answered, bind, Except.bind] at computed
          cases computed
      | ok answer =>
          simp only [loaded, answered, bind, Except.bind] at computed
          exact ⟨start, answer.1, answer.2, rfl, answered, Option.some.inj computed⟩

/-- Repeated units are merged and one below the slash comes last. -/
theorem reached_takesBack_feet :
    ∃ start normalized grown factors,
      ofDefinitions (Definitions.builtin : Definitions ℚ) {} = .ok start ∧
      (start.reached ["$/hr"]).normalize "min^-2*ft*min" = .ok (normalized, grown) ∧
      normalized.userExpression = "ft/min" ∧ grown.TakesBack normalized factors ∧
      grown.normalize "ft/min" = .ok (normalized, grown) := by
  obtain ⟨start, normalized, grown, loaded, answered, observed⟩ :=
    exists_of_observed {} ["$/hr"] "min^-2*ft*min"
      (fun registry normalized grown =>
        (registry.callFits "min^-2*ft*min", registry.answerFits "min^-2*ft*min",
          normalized.userExpression, (grown.normalize "ft/min").toOption.isSome))
      (show _ = some (true, true, "ft/min", true) by decide +kernel)
  simp only [Prod.mk.injEq] at observed
  obtain ⟨callFits, answerFits, spelling, again⟩ := observed
  obtain ⟨factors, takesBack⟩ :=
    reached_takesBack loaded ["$/hr"] answered callFits answerFits
  refine ⟨start, normalized, grown, factors, loaded, answered, spelling, takesBack, ?_⟩
  cases answers : grown.normalize "ft/min" with
  | error failure =>
      rw [answers] at again
      cases again
  | ok answer =>
      rw [← spelling] at answers
      rw [takesBack.stable answer answers]

/-- Not every spelling is taken back as an answer, even if its powers fit the step limit: in
`m^8*mi^8/km^8*ft^8` the product of the first two factors is out of range. -/
theorem not_forall_userExpression_answered :
    ¬ ∀ (settings : Settings) (start : Registry ℚ) (expressions : List String)
      (expression : String) (normalized : Normalized ℚ) (grown : Registry ℚ),
      ofDefinitions Definitions.builtin settings = .ok start →
      (start.reached expressions).normalize expression = .ok (normalized, grown) →
      (start.reached expressions).callFits expression = true →
      (start.reached expressions).answerFits expression = true →
      (∀ factors, grown.factors normalized.userExpression = .ok factors →
        powers factors ≤ grown.stepLimit) →
      ∃ again later, grown.normalize normalized.userExpression = .ok (again, later) ∧
        again.userExpression = normalized.userExpression ∧
        again.dimension = normalized.dimension ∧ again.slope = normalized.slope ∧
        again.intercept = normalized.intercept := by
  intro always
  obtain ⟨start, normalized, grown, loaded, answered, observed⟩ :=
    exists_of_observed {} [] "m^8*km^-8*mi^8*ft^-8"
      (fun registry normalized grown =>
        (registry.callFits "m^8*km^-8*mi^8*ft^-8", registry.answerFits "m^8*km^-8*mi^8*ft^-8",
          decide (∀ factors, grown.factors normalized.userExpression = .ok factors →
            powers factors ≤ grown.stepLimit),
          (grown.normalize normalized.userExpression).toOption.isSome))
      (show _ = some (true, true, true, false) by decide +kernel)
  simp only [Prod.mk.injEq, decide_eq_true_eq] at observed
  obtain ⟨callFits, answerFits, ample, refused⟩ := observed
  obtain ⟨again, later, answers, _⟩ :=
    always {} start [] _ normalized grown loaded answered callFits answerFits ample
  rw [answers] at refused
  cases refused

end Registry

end Metrology
