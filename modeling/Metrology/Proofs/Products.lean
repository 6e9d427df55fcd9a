import Metrology.Proofs.ReadingBack

/-!
# Products of tagged numbers

The tag of a product is put together from texts, and its magnitude from slopes.  Both come to the
same: a product of numbers with units is shown as the product of the plain numbers, in a unit of
its dimension.
-/

namespace Metrology

open Formula UnitExpression

/-! ## Tags that can be taken apart -/

namespace UnitExpression

/-- A product of tokens that can be taken apart has exponents that fit. -/
theorem writesFit_of_split {parts : List (String × Int)} {read : List UnitTerm}
    (tokens : ∀ part ∈ parts, ∀ term ∈ poweredTerms part.1 part.2, IsToken term.token)
    (taken : split (product parts) = .ok read) : writesFit parts = true := by
  have isToken : ∀ term ∈ combine (parts.flatMap fun part => poweredTerms part.1 part.2),
      IsToken term.token := by
    intro term member
    refine isToken_of_mem_combine (fun term inside => ?_) member
    obtain ⟨part, among, powered⟩ := List.mem_flatMap.1 inside
    exact tokens part among term powered
  rw [product] at taken
  have legible := legible_of_split isToken taken
  rw [writesFit, List.all_eq_true]
  exact fun term member => decide_eq_true (legible term member).2

end UnitExpression

theorem Scale.measures_one : (1 : Scale).Measures .ratio 1 :=
  ⟨fun axis => (Dimension.exponent_ratio axis).symm, rfl⟩

namespace Registry

variable {basis registry grown : Registry ℚ} {terms others : List UnitTerm} {text other : String}
  {scale otherScale : Scale} {normalized : Normalized ℚ}

theorem reads_empty (basis : Registry ℚ) : basis.Reads [] "" 1 :=
  ⟨rfl, fun _ impossible => absurd impossible List.not_mem_nil,
    fun _ impossible => absurd impossible List.not_mem_nil, rfl⟩

/-- Known tokens are words. -/
theorem Reads.wording (reads : basis.Reads terms text scale) : basis.Wording terms text := by
  refine ⟨reads.written, fun term member => ?_⟩
  obtain ⟨isToken, entry, found, _⟩ := reads.known term member
  exact ⟨isToken, Option.isSome_iff_exists.2 ⟨entry, found⟩⟩

/-- Whatever a text with a scale is normalized to has this scale. -/
theorem Reads.measures_of_normalize (coherent : basis.Coherent registry)
    (reads : basis.Reads terms text scale)
    (answered : registry.normalize text = .ok (normalized, grown)) :
    normalized.userExpression = text ∧
      scale.Measures normalized.dimension normalized.slope ∧ normalized.intercept = 0 := by
  obtain ⟨factors, respells, _⟩ := exists_respells coherent reads
  obtain ⟨_, _, _, resolved, outlined, _⟩ := normalize_eq_ok_iff.1 answered
  cases respells.resolved.symm.trans resolved
  have measures := measures_of_outlineOf respells.proportional outlined
  rw [respells.scale] at measures
  exact ⟨(userExpression_of_outlineOf outlined).trans respells.spelling, measures⟩

/-- The tag of a product or a quotient has the product or the quotient of the scales, if it can be
taken apart. -/
theorem Reads.multiplicativeTag (left : basis.Reads terms text scale)
    (right : basis.Reads others other otherScale) {sign : Int} {read : List UnitTerm}
    (taken : UnitExpression.split (Tagged.multiplicativeTag text other sign) = .ok read) :
    ∃ joined, basis.Reads joined (Tagged.multiplicativeTag text other sign)
      (scale * otherScale ^ sign) := by
  have product : Tagged.multiplicativeTag text other sign =
      UnitExpression.product [(text, 1), (other, sign)] := by
    simp [Tagged.multiplicativeTag, UnitExpression.product, poweredTerms, left.split, right.split]
  rw [product] at taken ⊢
  refine ⟨_, left.join right (writesFit_of_split (fun part member term powered => ?_) taken)⟩
  rcases List.mem_cons.1 member with rfl | member
  · exact (left.known_powered 1 term powered).isToken
  · cases List.mem_singleton.1 member
    exact (right.known_powered sign term powered).isToken

end Registry

namespace Formula

/-! ## Measured values -/

namespace Tagged

/-- A plain number in the unit that the tag of a value multiplies up to. -/
def Measured (basis : Registry ℚ) (plain : ℚ) (value : Tagged ℚ) : Prop :=
  ∃ terms scale slope, basis.Reads terms value.tag scale ∧
    scale.Measures value.amount.dimension slope ∧ value.amount.magnitude = plain * slope

variable {basis registry grown : Registry ℚ} {left right value : Tagged ℚ} {plain other : ℚ}
  {read : List UnitTerm}

theorem measured_ratio (basis : Registry ℚ) (plain : ℚ) :
    Measured basis plain (untagged (.ratio plain)) :=
  ⟨[], 1, 1, Registry.reads_empty basis, Scale.measures_one, (mul_one plain).symm⟩

theorem measured_of_normalize (coherent : basis.Coherent registry) {tag : String}
    {normalized : Normalized ℚ} (answered : registry.normalize tag = .ok (normalized, grown))
    (fits : registry.answerFits tag = true) :
    Measured basis plain
      ⟨⟨normalized.toSI plain, normalized.dimension⟩, normalized.userExpression⟩ := by
  obtain ⟨terms, scale, reads, measures, intercept⟩ := coherent.reads_answer answered fits
  refine ⟨terms, scale, normalized.slope, reads, measures, ?_⟩
  change normalized.toSI plain = _
  rw [Normalized.toSI, intercept, add_zero]

theorem Measured.neg (measured : value.Measured basis plain) :
    Measured basis (-plain) ⟨value.amount.neg, value.tag⟩ := by
  obtain ⟨terms, scale, slope, reads, measures, magnitude⟩ := measured
  refine ⟨terms, scale, slope, reads, measures, ?_⟩
  rw [Amount.neg, magnitude, neg_mul]

end Tagged

/-! ## Multiplying and dividing -/

/-- The exponent that an operator gives its right operand. -/
def Operator.sign? : Operator → Option Int
  | .multiply => some 1
  | .divide => some (-1)
  | _ => none

variable {operator : Operator} {sign : Int} {left right value : Tagged ℚ}

/-- What multiplying and dividing do to magnitudes, dimensions and tags. -/
structure Joins (left right value : Tagged ℚ) (sign : Int) : Prop where
  magnitude : value.amount.magnitude = left.amount.magnitude * right.amount.magnitude ^ sign
  measures : ∀ {scale other : Scale} {slope factor : ℚ},
    scale.Measures left.amount.dimension slope → other.Measures right.amount.dimension factor →
    (scale * other ^ sign).Measures value.amount.dimension (slope * factor ^ sign)
  tag : value.tag = Tagged.multiplicativeTag left.tag right.tag sign

theorem joins_of_applyOperator (signed : operator.sign? = some sign)
    (applied : applyOperator operator left right = .ok value) : Joins left right value sign := by
  cases operator with
  | multiply =>
      cases signed
      obtain ⟨product, multiplied, applied⟩ := exists_of_bind_eq_ok applied
      obtain ⟨dimension, sum, rfl⟩ := exists_of_map_eq_ok multiplied
      cases applied
      refine ⟨by rw [zpow_one], fun first second => ?_, rfl⟩
      rw [zpow_one, zpow_one]
      exact first.plus second sum
  | divide =>
      cases signed
      obtain ⟨quotient, divided, applied⟩ := exists_of_bind_eq_ok applied
      obtain ⟨dimension, difference, rfl⟩ := exists_of_map_eq_ok divided
      cases applied
      have reciprocal (slope factor : ℚ) : slope * factor ^ (-1 : Int) = slope / factor := by
        rw [zpow_neg_one, div_eq_mul_inv]
      refine ⟨(reciprocal _ _).symm, fun first second => ?_, rfl⟩
      rw [reciprocal]
      exact first.minus second difference
  | _ => cases signed

/-- Pure numbers are multiplied and divided as numbers. -/
theorem applyOperator_ratio (signed : operator.sign? = some sign) (plain other : ℚ) :
    applyOperator operator (.untagged (.ratio plain)) (.untagged (.ratio other)) =
      .ok (.untagged (.ratio (plain * other ^ sign))) := by
  have neutral : ∀ sign, Tagged.multiplicativeTag "" "" sign = "" := fun _ => by rfl
  cases operator with
  | multiply =>
      cases signed
      have sum : Dimension.ratio.plus .ratio = .ok .ratio := Dimension.ratio_plus .ratio
      simp only [applyOperator, Amount.mul, Tagged.untagged, Amount.ratio, sum, neutral, zpow_one]
      rfl
  | divide =>
      cases signed
      have difference : Dimension.ratio.minus .ratio = .ok .ratio := by decide
      simp only [applyOperator, Amount.div, Tagged.untagged, Amount.ratio, difference, neutral,
        zpow_neg_one, ← div_eq_mul_inv]
      rfl
  | _ => cases signed

/-- The plain number of a product is the product of the plain numbers. -/
theorem Tagged.Measured.join {basis : Registry ℚ} {plain other : ℚ} {read : List UnitTerm}
    (first : left.Measured basis plain) (second : right.Measured basis other)
    (joins : Joins left right value sign) (taken : split value.tag = .ok read) :
    value.Measured basis (plain * other ^ sign) := by
  obtain ⟨_, scale, slope, reads, measures, magnitude⟩ := first
  obtain ⟨_, otherScale, factor, otherReads, otherMeasures, otherMagnitude⟩ := second
  rw [joins.tag] at taken
  obtain ⟨joined, together⟩ := reads.multiplicativeTag otherReads taken
  rw [← joins.tag] at together
  refine ⟨joined, _, _, together, joins.measures measures otherMeasures, ?_⟩
  calc value.amount.magnitude
      = plain * slope * (other * factor) ^ sign := by
        rw [joins.magnitude, magnitude, otherMagnitude]
    _ = plain * other ^ sign * (slope * factor ^ sign) := by
        rw [mul_zpow, mul_mul_mul_comm]

/-! ## Products of numbers -/

/-- A number with a unit tag is read where the tag is normalized. -/
theorem exists_of_start_evaluateTagged {α σ : Type} [Scalar α] {plain : α} {tag : String}
    {state after : Registry α × σ} {value : Tagged α}
    (evaluated : (evaluateTagged plain tag).start state = (.ok value, after)) :
    ∃ normalized, state.1.normalize tag = .ok (normalized, after.1) ∧
      value = ⟨⟨normalized.toSI plain, normalized.dimension⟩, normalized.userExpression⟩ := by
  obtain ⟨normalized, middle, runs, evaluated⟩ := Attempt.exists_of_start_bind evaluated
  cases evaluated
  rw [Attempt.start_onFirst] at runs
  cases answered : state.1.normalize tag with
  | error failure =>
      rw [Registry.start_normalizing_of_error answered] at runs
      cases runs
  | ok answer =>
      rw [Registry.start_normalizing_of_ok answered] at runs
      cases runs
      exact ⟨answer.1, rfl, rfl⟩

namespace Expression

variable {α σ : Type}

/-- Products and quotients of numbers, with signs. -/
inductive Multiplicative : Expression α → Prop where
  | number (value : α) (unit : Option String) : Multiplicative (.number value unit)
  | negate {operand : Expression α} (inner : Multiplicative operand) :
      Multiplicative (.negate operand)
  | product {operator : Operator} {left right : Expression α} {sign : Int}
      (signed : operator.sign? = some sign) (first : Multiplicative left)
      (second : Multiplicative right) : Multiplicative (.binary operator left right)

/-- Whether an expression is a product of numbers. -/
def isMultiplicative : Expression α → Bool
  | .number _ _ => true
  | .negate operand => operand.isMultiplicative
  | .binary operator left right =>
      operator.sign?.isSome && left.isMultiplicative && right.isMultiplicative
  | _ => false

theorem multiplicative_iff {expression : Expression α} :
    expression.Multiplicative ↔ expression.isMultiplicative = true := by
  constructor
  · intro multiplicative
    induction multiplicative with
    | number value unit => rfl
    | negate inner ih => exact ih
    | product signed first second ihFirst ihSecond =>
        rw [isMultiplicative, signed, ihFirst, ihSecond]
        rfl
  · fun_induction isMultiplicative expression with
    | case1 value unit => exact fun _ => .number value unit
    | case2 operand ih => exact fun checked => .negate (ih checked)
    | case3 operator left right ihLeft ihRight =>
        intro checked
        rw [Bool.and_eq_true, Bool.and_eq_true, Option.isSome_iff_exists] at checked
        obtain ⟨⟨⟨sign, signed⟩, leftChecked⟩, rightChecked⟩ := checked
        exact .product signed (ihLeft leftChecked) (ihRight rightChecked)
    | case4 => exact nofun

/-- The expression without its unit tags. -/
def erased : Expression α → Expression α
  | .number value _ => .number value none
  | .reference name => .reference name
  | .negate operand => .negate operand.erased
  | .binary operator left right => .binary operator left.erased right.erased
  | .call name arguments => .call name (erasedArguments arguments)
where
  erasedArguments : List (Expression α) → List (Expression α)
    | [] => []
    | argument :: rest => argument.erased :: erasedArguments rest

theorem strict_of_sign {operator : Operator} {sign : Int}
    (signed : operator.sign? = some sign) : operator ≠ .and ∧ operator ≠ .or := by
  constructor
  · rintro rfl
    cases signed
  · rintro rfl
    cases signed

variable [Scalar α]

/-- Whether all exponents on the way are words of 32 bits, in the texts that are derived for a
tag, in the spelling of the tag and in the tag of a product.  A formula that leaves them stops
there. -/
def staysInWords (table : FunctionTable α) (resolve : Resolver α σ) :
    Expression α → Registry α × σ → Bool
  | .number _ (some tag), state => state.1.callFits tag && state.1.answerFits tag
  | .negate operand, state => staysInWords table resolve operand state
  | .binary operator left right, state =>
      staysInWords table resolve left state &&
        staysInWords table resolve right
          ((left.evaluate table (.ofResolver resolve)).start state).2 &&
        (((binary operator left right).evaluate table (.ofResolver resolve)).start
          state).1.toOption.all fun value => (split value.tag).toOption.isSome
  | _, _ => true

variable {table : FunctionTable α} {resolve : Resolver α σ} {left right : Expression α}
  {operator : Operator} {state : Registry α × σ}

/-- What staying in words asks of both operands and of the result. -/
theorem staysInWords_binary {first value : Tagged α} {middle after : Registry α × σ}
    (fits : (binary operator left right).staysInWords table resolve state = true)
    (leftRuns : (left.evaluate table (.ofResolver resolve)).start state = (.ok first, middle))
    (evaluated : ((binary operator left right).evaluate table (.ofResolver resolve)).start state =
      (.ok value, after)) :
    left.staysInWords table resolve state = true ∧
      right.staysInWords table resolve middle = true ∧ ∃ read, split value.tag = .ok read := by
  rw [staysInWords, leftRuns, evaluated, Bool.and_eq_true, Bool.and_eq_true] at fits
  obtain ⟨⟨leftFits, rightFits⟩, taken⟩ := fits
  refine ⟨leftFits, rightFits, ?_⟩
  cases read : split value.tag with
  | error failure =>
      simp only [Except.toOption, Option.all_some, read] at taken
      cases taken
  | ok terms => exact ⟨terms, rfl⟩

/-- The run of an operator that needs both operands. -/
theorem start_strict {leaves : Leaves α σ} {first second : Tagged α}
    {middle after : Registry α × σ} (notAnd : operator ≠ .and) (notOr : operator ≠ .or)
    (leftRuns : (left.evaluate table leaves).start state = (.ok first, middle))
    (rightRuns : (right.evaluate table leaves).start middle = (.ok second, after)) :
    ((binary operator left right).evaluate table leaves).start state =
      (applyOperator operator first second, after) := by
  rw [evaluate_strict _ notAnd notOr, Attempt.start_bind_of_start leftRuns,
    Attempt.start_bind_of_start rightRuns, Attempt.start_ofExcept]

/-- The values that an operator that needs both operands has been applied to. -/
theorem exists_of_start_strict {leaves : Leaves α σ} {value : Tagged α}
    {after : Registry α × σ} (notAnd : operator ≠ .and) (notOr : operator ≠ .or)
    (evaluated : ((binary operator left right).evaluate table leaves).start state =
      (.ok value, after)) :
    ∃ first middle second, (left.evaluate table leaves).start state = (.ok first, middle) ∧
      (right.evaluate table leaves).start middle = (.ok second, after) ∧
      applyOperator operator first second = .ok value := by
  have runs := evaluated
  rw [evaluate_strict _ notAnd notOr] at runs
  obtain ⟨first, middle, leftRuns, runs⟩ := Attempt.exists_of_start_bind runs
  obtain ⟨second, last, rightRuns, _⟩ := Attempt.exists_of_start_bind runs
  rw [start_strict notAnd notOr leftRuns rightRuns, Prod.mk.injEq] at evaluated
  obtain ⟨applied, rfl⟩ := evaluated
  exact ⟨first, middle, second, leftRuns, rightRuns, applied⟩

/-! ## With and without unit tags -/

section Exact

variable {basis : Registry ℚ} {table : FunctionTable ℚ} {resolve : Resolver ℚ σ}

/-- A product comes to what its numbers come to without their tags, in the unit that its tag
multiplies up to. -/
theorem Multiplicative.measured {expression : Expression ℚ} (product : expression.Multiplicative)
    {state after : Registry ℚ × σ} {value : Tagged ℚ} (coherent : basis.Coherent state.1)
    (fits : expression.staysInWords table resolve state = true)
    (evaluated : (expression.evaluate table (.ofResolver resolve)).start state =
      (.ok value, after)) :
    basis.Coherent after.1 ∧ ∃ plain, value.Measured basis plain ∧ ∀ state : Registry ℚ × σ,
      (expression.erased.evaluate table (.ofResolver resolve)).start state =
        (.ok (.untagged (.ratio plain)), state) := by
  induction product generalizing state after value with
  | number plain unit =>
      cases unit with
      | none =>
          cases evaluated
          exact ⟨coherent, plain, Tagged.measured_ratio basis plain, fun _ => rfl⟩
      | some tag =>
          rw [staysInWords, Bool.and_eq_true] at fits
          obtain ⟨normalized, answered, rfl⟩ := exists_of_start_evaluateTagged evaluated
          refine ⟨coherent.of_normalize fits.1 answered, plain, ?_, fun _ => rfl⟩
          exact Tagged.measured_of_normalize coherent answered fits.2
  | negate inner ih =>
      obtain ⟨operand, middle, runs, evaluated⟩ := Attempt.exists_of_start_bind evaluated
      cases evaluated
      obtain ⟨still, plain, measured, erased⟩ := ih coherent fits runs
      refine ⟨still, -plain, measured.neg, fun state => ?_⟩
      exact Attempt.start_bind_of_start (erased state)
  | product signed first second ihFirst ihSecond =>
      have strict := strict_of_sign signed
      obtain ⟨_, _, _, leftRuns, rightRuns, applied⟩ :=
        exists_of_start_strict strict.1 strict.2 evaluated
      obtain ⟨leftFits, rightFits, read, taken⟩ := staysInWords_binary fits leftRuns evaluated
      obtain ⟨still, plain, measured, erased⟩ := ihFirst coherent leftFits leftRuns
      obtain ⟨last, other, alike, plainly⟩ := ihSecond still rightFits rightRuns
      have joined := measured.join alike (joins_of_applyOperator signed applied) taken
      refine ⟨last, _, joined, fun state => ?_⟩
      refine (start_strict strict.1 strict.2 (erased state) (plainly state)).trans ?_
      rw [applyOperator_ratio signed]

end Exact

end Expression

/-! ## Showing products -/

section Shown

variable {settings : Settings} {start registry grown : Registry ℚ}
  (loaded : Registry.ofDefinitions Definitions.builtin settings = .ok start)
  (coherent : start.Coherent registry)
include loaded coherent

theorem one_le_stepLimit_of_coherent : 1 ≤ registry.stepLimit := by
  rw [coherent.kept.stepLimit]
  exact Registry.one_le_stepLimit_reached loaded []

theorem owns_ratio_of_coherent : registry.Owns .ratio := by
  obtain ⟨owner, found⟩ := Option.isSome_iff_exists.1 (Registry.ratio_owned_reached loaded [])
  have isOwner := List.find?_some found
  rw [← beq_iff_eq.1 isOwner]
  exact Registry.ownerOf?_isSome_of_mem (coherent.kept.mem (List.mem_of_find?_eq_some found))

variable {value : Tagged ℚ} {plain number : ℚ} {unit : String}
  (measured : value.Measured start plain)
include measured

/-- A value without a tag is a pure number, shown as it is. -/
theorem shown_of_untagged (untagged : value.tag = "") :
    value.amount.magnitude = plain ∧
      registry.Accepts (Tagged.siExpression registry value.amount.dimension)
        value.amount.dimension := by
  obtain ⟨terms, scale, slope, reads, measures, magnitude⟩ := measured
  rw [untagged] at reads
  rw [reads.unique (Registry.reads_empty start)] at measures
  obtain ⟨ratio, rfl⟩ := measures.unique Scale.measures_one
  have owned := owns_ratio_of_coherent loaded coherent
  rw [← ratio] at owned
  obtain ⟨again, normalizes, same, _⟩ := Tagged.normalize_siExpression coherent
    (one_le_stepLimit_of_coherent loaded coherent) owned
  exact ⟨magnitude.trans (mul_one plain), again, registry, normalizes, same⟩

/-- A tag is normalized to the dimension and the slope that the value has been measured with. -/
theorem shown_of_tagged (filled : value.tag.isEmpty = false) {normalized : Normalized ℚ}
    (answered : registry.normalize value.tag = .ok (normalized, grown)) :
    normalized.dimension = value.amount.dimension ∧
      normalized.ofSI value.amount.magnitude = plain ∧ normalized.userExpression = value.tag ∧
      (registry.callFits value.tag = true → grown.Accepts value.tag value.amount.dimension) := by
  obtain ⟨terms, scale, slope, reads, measures, magnitude⟩ := measured
  obtain ⟨spelling, again, intercept⟩ := reads.measures_of_normalize coherent answered
  obtain ⟨same, sameSlope⟩ := again.unique measures
  have nonzero : normalized.slope ≠ 0 := again.slope ▸ scale.2.ne_zero
  refine ⟨same, ?_, spelling, fun fits => ?_⟩
  · rw [Normalized.ofSI, intercept, sub_zero, magnitude, ← sameSlope,
      mul_div_cancel_right₀ _ nonzero]
  · have grownCoherent := coherent.of_normalize fits answered
    obtain ⟨_, _, _, answeredAgain⟩ := Registry.normalize_tag_again
      (Registry.coherent_builtin loaded) coherent grownCoherent
      (one_le_stepLimit_of_coherent loaded grownCoherent) reads.wording filled answered
    exact ⟨normalized, _, answeredAgain, same⟩

/-- A measured value is shown as its plain number, in a unit of its dimension. -/
theorem shown_of_measured (shown : value.shown.start registry = (.ok (number, unit), grown)) :
    number = plain ∧ registry.Accepts unit value.amount.dimension ∧
      (registry.callFits value.tag = true → grown.Accepts unit value.amount.dimension) := by
  cases filled : value.tag.isEmpty with
  | true =>
      obtain ⟨same, accepts⟩ :=
        shown_of_untagged loaded coherent measured (String.isEmpty_iff.1 filled)
      rw [Tagged.start_shown_of_empty registry filled] at shown
      cases shown
      exact ⟨same, accepts, fun _ => accepts⟩
  | false =>
      cases answered : registry.normalize value.tag with
      | error failure =>
          rw [Tagged.start_shown_of_error filled answered] at shown
          cases shown
      | ok answer =>
          obtain ⟨normalized, after⟩ := answer
          obtain ⟨same, back, spelling, afterwards⟩ :=
            shown_of_tagged loaded coherent measured filled answered
          rw [Tagged.start_shown_of_ok filled answered, if_pos same] at shown
          cases shown
          rw [spelling]
          exact ⟨back, ⟨normalized, _, answered, same⟩, afterwards⟩

end Shown

/-- A product of numbers with unit tags is shown as the product of the plain numbers, in a unit
that has its dimension, as long as all exponents on the way are words of 32 bits. -/
theorem evaluate_erased {σ : Type} {settings : Settings} {start : Registry ℚ}
    (loaded : Registry.ofDefinitions Definitions.builtin settings = .ok start)
    {earlier : List String} {table : FunctionTable ℚ} {resolve : Resolver ℚ σ} {formula : String}
    {expression : Expression ℚ} (parsed : parse formula = .ok expression)
    (product : expression.Multiplicative) {inner final : σ}
    (fits : expression.staysInWords table resolve (start.reached earlier, inner) = true)
    {value : Tagged ℚ} {registry grown : Registry ℚ}
    (evaluated : (evaluate table resolve formula).start (start.reached earlier, inner) =
      (.ok value, registry, final))
    {number : ℚ} {unit : String}
    (shown : value.shown.start registry = (.ok (number, unit), grown)) :
    (∀ state : Registry ℚ × σ,
        (expression.erased.evaluate table (.ofResolver resolve)).start state =
          (.ok (.untagged (.ratio number)), state)) ∧
      registry.Accepts unit value.amount.dimension ∧
      (registry.callFits value.tag = true → grown.Accepts unit value.amount.dimension) := by
  have coherent := (Registry.coherent_builtin loaded).reached earlier
  rw [evaluate, parsed, Attempt.start_bind_of_start (Attempt.start_ofExcept _ _)] at evaluated
  obtain ⟨still, plain, measured, erased⟩ := product.measured coherent fits evaluated
  obtain ⟨rfl, accepts, afterwards⟩ := shown_of_measured loaded still measured shown
  exact ⟨erased, accepts, afterwards⟩

theorem evaluate_erased_pace :
    ∃ (start : Registry ℚ) (expression : Expression ℚ) (value : Tagged ℚ)
      (registry grown : Registry ℚ),
      Registry.ofDefinitions Definitions.builtin {} = .ok start ∧
      parse "3{km}/0.5{hr}" = .ok expression ∧
      (evaluate .standard .none "3{km}/0.5{hr}").start (start, ()) = (.ok value, registry, ()) ∧
      value.shown.start registry = (.ok (6, "km/hr"), grown) ∧
      (expression.erased.evaluate .standard (.ofResolver .none)).start (start, ()) =
        (.ok (.untagged (.ratio 6)), start, ()) ∧
      registry.Accepts "km/hr" value.amount.dimension := by
  obtain ⟨start, value, registry, loaded, _, run, _, observed⟩ :=
    exists_of_evaluated {} "3{km}/0.5{hr}"
      (fun start value registry => (
        (parse "3{km}/0.5{hr}" : Except Error (Expression ℚ)).toOption.any fun expression =>
          expression.isMultiplicative && expression.staysInWords .standard .none (start, ()),
        (value.shown.start registry).1.toOption))
      (show _ = some (true, some (6, "km/hr")) by decide +kernel)
  rw [Prod.mk.injEq, Option.any_eq_true] at observed
  obtain ⟨⟨expression, parsed, checked⟩, answered⟩ := observed
  rw [Bool.and_eq_true] at checked
  have shown : value.shown.start registry =
      (.ok (6, "km/hr"), (value.shown.start registry).2) :=
    Prod.ext (eq_ok_of_toOption answered) rfl
  have fits : expression.staysInWords .standard .none (start.reached [], ()) = true := checked.2
  have evaluated : (evaluate .standard .none "3{km}/0.5{hr}").start (start.reached [], ()) =
      (.ok value, registry, ()) := run
  obtain ⟨erased, accepts, _⟩ := evaluate_erased loaded (eq_ok_of_toOption parsed)
    (Expression.multiplicative_iff.2 checked.1) fits evaluated shown
  exact ⟨start, expression, value, registry, _, loaded, eq_ok_of_toOption parsed, run, shown,
    erased (start, ()), accepts⟩

end Formula
end Metrology
