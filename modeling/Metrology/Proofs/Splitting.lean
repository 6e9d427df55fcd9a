import Mathlib.Data.List.DropRight
import Mathlib.Data.List.TakeWhile
import Metrology.Proofs.Growth
import Metrology.Proofs.UnitText

/-!
# Writing what has been taken apart

Whatever text has been taken apart, its terms are written in such a way that taking the new text
apart gives each distinct token once, with the sum of its exponents, and writing this changes
nothing any more.  Only a sum that is the least word of 32 bits cannot be written.
-/

namespace Metrology

/-! ## Parts of texts -/

namespace Text

/-- The parts between separators have only characters of the text, and no separator. -/
theorem mem_of_mem_splitOn {separator character : Char} {text part : List Char}
    (listed : part ∈ text.splitOn separator) (member : character ∈ part) :
    character ∈ text ∧ character ≠ separator := by
  induction text generalizing part with
  | nil =>
      rw [List.splitOn_nil, List.mem_singleton] at listed
      rw [listed] at member
      cases member
  | cons first rest ih =>
      rw [List.splitOn, List.splitOnP_cons_eq_if_modifyHead, ← List.splitOn] at listed
      split at listed
      · rcases List.mem_cons.1 listed with rfl | later
        · cases member
        · obtain ⟨inside, apart⟩ := ih later member
          exact ⟨List.mem_cons_of_mem _ inside, apart⟩
      · next plain =>
          have differs : first ≠ separator := fun same => plain (beq_iff_eq.2 same)
          cases parts : rest.splitOn separator with
          | nil =>
              rw [parts] at listed
              cases listed
          | cons head tail =>
              rw [parts] at listed ih
              rcases List.mem_cons.1 listed with rfl | later
              · rcases List.mem_cons.1 member with rfl | inHead
                · exact ⟨List.mem_cons_self, differs⟩
                · obtain ⟨inside, apart⟩ := ih List.mem_cons_self inHead
                  exact ⟨List.mem_cons_of_mem _ inside, apart⟩
              · obtain ⟨inside, apart⟩ := ih (List.mem_cons_of_mem _ later) member
                exact ⟨List.mem_cons_of_mem _ inside, apart⟩

theorem mem_of_mem_trim {character : Char} {text : List Char} (member : character ∈ trim text) :
    character ∈ text := by
  rw [trim, trimEnd, List.mem_reverse] at member
  have started := (List.dropWhile_sublist _).subset member
  rw [List.mem_reverse] at started
  exact (List.dropWhile_sublist _).subset started

theorem not_isBlank_of_head?_dropWhile {character : Char} {text : List Char}
    (first : character ∈ (text.dropWhile isBlank).head?) : isBlank character = false := by
  have heads := List.head?_dropWhile_not isBlank text
  rw [Option.mem_def] at first
  rwa [first] at heads

/-- What is left of a text once it is trimmed has no blank at its ends. -/
theorem bare_trim {text : List Char} (filled : trim text ≠ []) : Bare (trim text) := by
  constructor
  · exact filled
  · intro character first
    obtain ⟨rest, whole⟩ : trimEnd (trimStart text) <+: trimStart text :=
      List.rdropWhile_prefix isBlank (trimStart text)
    have heads : character ∈ (trimStart text).head? := by
      rw [← whole]
      exact List.head?_append_of_ne_nil _ filled ▸ first
    exact not_isBlank_of_head?_dropWhile heads
  · intro character last
    rw [trim, trimEnd, List.getLast?_reverse] at last
    exact not_isBlank_of_head?_dropWhile last

end Text

namespace UnitExpression

/-! ## Tokens of texts -/

/-- The token of a factor has no caret and no blank at its ends. -/
theorem token_of_splitFactor {factor token : List Char} {exponent : Int}
    (bare : Text.Bare factor) (taken : splitFactor factor = .ok (token, exponent))
    (filled : token ≠ []) :
    Text.Bare token ∧ ∀ character ∈ token, character ∈ factor ∧ character ≠ '^' := by
  unfold splitFactor at taken
  split at taken
  · next uncapped =>
      cases taken
      rw [List.dropWhile_eq_nil_iff] at uncapped
      exact ⟨bare, fun character member =>
        ⟨member, of_decide_eq_true (uncapped character member)⟩⟩
  · split at taken
    · cases taken
    · cases taken
      refine ⟨Text.bare_trim filled, fun character member => ?_⟩
      have inside := Text.mem_of_mem_trim member
      have uncapped := List.mem_takeWhile_imp inside
      exact ⟨(List.takeWhile_sublist _).subset inside, of_decide_eq_true uncapped⟩

/-- The terms of a factor: none, or one with the token that the factor has been split into. -/
theorem factorTerms_cases {sign : Int} {factor : List Char} {terms : List UnitTerm}
    (taken : factorTerms sign factor = .ok terms) :
    terms = [] ∨ ∃ token exponent, Text.trim factor ≠ [] ∧
      splitFactor (Text.trim factor) = .ok (token, exponent) ∧ token ≠ [] ∧ token ≠ ['1'] ∧
      terms = [⟨String.ofList token, exponent * sign⟩] := by
  unfold factorTerms at taken
  dsimp only at taken
  split at taken
  · cases taken
  · next inside =>
      obtain ⟨⟨token, exponent⟩, read, taken⟩ := exists_of_bind_eq_ok taken
      dsimp only at taken
      split at taken
      · cases taken
      · next filled =>
          rw [List.isEmpty_iff] at inside filled
          split at taken
          · cases taken
            exact .inl rfl
          · next notOne =>
              cases taken
              exact .inr ⟨token, exponent, inside, read, filled, notOne, rfl⟩

/-- The token of a factor without a star or a slash can be read again. -/
theorem isToken_of_factorTerms {sign : Int} {factor : List Char} {terms : List UnitTerm}
    (plain : ∀ character ∈ factor, character ≠ '*' ∧ character ≠ '/')
    (taken : factorTerms sign factor = .ok terms) : ∀ term ∈ terms, IsToken term.token := by
  rcases factorTerms_cases taken with rfl | ⟨token, exponent, inside, read, filled, notOne, rfl⟩
  · exact fun _ impossible => absurd impossible List.not_mem_nil
  · obtain ⟨bare, kept⟩ := token_of_splitFactor (Text.bare_trim inside) read filled
    intro term member
    rw [List.mem_singleton.1 member]
    refine ⟨?_, fun character among => ?_, ?_⟩
    · rwa [String.toList_ofList]
    · rw [String.toList_ofList] at among
      obtain ⟨within, uncapped⟩ := kept character among
      obtain ⟨noStar, noSlash⟩ := plain character (Text.mem_of_mem_trim within)
      exact ⟨noStar, noSlash, uncapped⟩
    · rwa [String.toList_ofList]

/-- What has been read has been read from one of the values. -/
theorem exists_of_mem_mapM {β γ : Type} {read : β → Except Fault γ} {values : List β}
    {results : List γ} (reads : values.mapM read = .ok results) :
    ∀ result ∈ results, ∃ value ∈ values, read value = .ok result := by
  induction values generalizing results with
  | nil =>
      cases reads
      exact fun _ impossible => absurd impossible List.not_mem_nil
  | cons value rest ih =>
      rw [List.mapM_cons] at reads
      obtain ⟨here, first, reads⟩ := exists_of_bind_eq_ok reads
      obtain ⟨later, others, reads⟩ := exists_of_bind_eq_ok reads
      cases reads
      refine List.forall_mem_cons.2 ⟨⟨value, List.mem_cons_self, first⟩, fun result member => ?_⟩
      obtain ⟨original, inside, same⟩ := ih others result member
      exact ⟨original, List.mem_cons_of_mem _ inside, same⟩

theorem isToken_of_sideTerms {sign : Int} {side : List Char} {terms : List UnitTerm}
    (plain : '/' ∉ side) (taken : sideTerms sign side = .ok terms) :
    ∀ term ∈ terms, IsToken term.token := by
  obtain ⟨results, reads, taken⟩ := exists_of_bind_eq_ok taken
  cases taken
  intro term member
  obtain ⟨result, listed, among⟩ := List.mem_flatten.1 member
  obtain ⟨factor, part, read⟩ := exists_of_mem_mapM reads result listed
  refine isToken_of_factorTerms (fun character inside => ?_) read term among
  obtain ⟨within, noStar⟩ := Text.mem_of_mem_splitOn part inside
  exact ⟨noStar, fun slash => plain (slash ▸ within)⟩

theorem isToken_of_splitTrimmed {expression : List Char} {terms : List UnitTerm}
    (taken : splitTrimmed expression = .ok terms) : ∀ term ∈ terms, IsToken term.token := by
  have plain {side : List Char} (part : side ∈ expression.splitOn '/') : '/' ∉ side :=
    fun slash => (Text.mem_of_mem_splitOn part slash).2 rfl
  unfold splitTrimmed at taken
  split at taken
  · cases taken
    exact fun _ impossible => absurd impossible List.not_mem_nil
  · split at taken
    · next numerator denominator parts =>
        rw [parts] at plain
        have aboveTokens : ∃ above, (∀ term ∈ above, IsToken term.token) ∧
            (if (Text.trim denominator).isEmpty then .error .emptyDenominator
              else do
                let below ← sideTerms (-1) denominator
                .ok (above ++ below)) = .ok terms := by
          dsimp only at taken
          split at taken
          · exact ⟨[], fun _ impossible => absurd impossible List.not_mem_nil, taken⟩
          · obtain ⟨above, aboveTaken, taken⟩ := exists_of_bind_eq_ok taken
            exact ⟨above, isToken_of_sideTerms (plain List.mem_cons_self) aboveTaken, taken⟩
        obtain ⟨above, tokens, taken⟩ := aboveTokens
        split at taken
        · cases taken
        · obtain ⟨below, belowTaken, taken⟩ := exists_of_bind_eq_ok taken
          cases taken
          have second : '/' ∉ denominator :=
            plain (List.mem_cons_of_mem _ (List.mem_singleton_self _))
          exact List.forall_mem_append.2 ⟨tokens, isToken_of_sideTerms second belowTaken⟩
    · next side parts =>
        rw [parts] at plain
        exact isToken_of_sideTerms (plain List.mem_cons_self) taken
    · cases taken

/-- The tokens of a text that has been taken apart can be read again. -/
theorem isToken_of_split {text : String} {terms : List UnitTerm}
    (taken : split text = .ok terms) : ∀ term ∈ terms, IsToken term.token := by
  unfold split at taken
  dsimp only at taken
  split at taken
  · next read =>
      cases taken
      exact isToken_of_splitTrimmed read
  · cases taken

/-! ## Sums of exponents -/

/-- The distinct tokens of terms, in order of first appearance. -/
def distinctTokens (terms : List UnitTerm) : List String :=
  (terms.map (·.token)).eraseDups

/-- The sum of the exponents of a token. -/
def exponentOf (terms : List UnitTerm) (token : String) : Int :=
  total (terms.filter (·.token == token))

/-- A token with the sum of its exponents. -/
def summed (terms : List UnitTerm) (token : String) : UnitTerm :=
  ⟨token, exponentOf terms token⟩

theorem tokens_addTerm (term : UnitTerm) (terms : List UnitTerm) :
    (addTerm term terms).map (·.token) =
      if term.token ∈ terms.map (·.token) then terms.map (·.token)
      else terms.map (·.token) ++ [term.token] := by
  induction terms with
  | nil => rfl
  | cons first rest ih =>
      rw [addTerm]
      by_cases same : first.token = term.token
      · simp [same]
      · rw [if_neg same, List.map_cons, ih, List.map_cons]
        have apart : term.token ≠ first.token := fun equal => same equal.symm
        by_cases later : term.token ∈ rest.map (·.token)
        · rw [if_pos later, if_pos (List.mem_cons_of_mem _ later)]
        · rw [if_neg later, if_neg (by simp [apart, later]), List.cons_append]

theorem removeAll_singleton (token : String) (tokens : List String) :
    [token].removeAll tokens = if token ∈ tokens then [] else [token] := by
  by_cases present : token ∈ tokens <;> simp [List.removeAll, present]

/-- Combining keeps the tokens in order of first appearance. -/
theorem tokens_combine (terms : List UnitTerm) :
    (combine terms).map (·.token) = distinctTokens terms := by
  induction terms using List.reverseRecOn with
  | nil => rfl
  | append_singleton terms term ih =>
      rw [combine_append_singleton, tokens_addTerm, ih, distinctTokens, distinctTokens,
        List.map_append, List.eraseDups_append, List.map_singleton]
      by_cases present : term.token ∈ terms.map (·.token)
      · rw [if_pos (List.mem_eraseDups.2 present), removeAll_singleton, if_pos present]
        exact (List.append_nil _).symm
      · rw [if_neg (mt List.mem_eraseDups.1 present), removeAll_singleton, if_neg present]
        rfl

theorem exponentOf_addTerm (term : UnitTerm) (terms : List UnitTerm) (token : String) :
    exponentOf (addTerm term terms) token =
      exponentOf terms token + if term.token = token then term.exponent else 0 := by
  induction terms with
  | nil =>
      by_cases same : term.token = token <;> simp [exponentOf, addTerm, total, same]
  | cons first rest ih =>
      rw [addTerm]
      split
      · next merged =>
          by_cases same : term.token = token
          · simp [exponentOf, total, merged, same]
            ring
          · simp [exponentOf, total, merged, same]
      · by_cases same : first.token = token
        · simp [exponentOf, total, same] at ih ⊢
          rw [ih]
          ring
        · simpa [exponentOf, total, same] using ih

theorem exponentOf_append (left right : List UnitTerm) :
    exponentOf (left ++ right) = exponentOf left + exponentOf right := by
  funext token
  simp [exponentOf, total]

theorem exponentOf_append_singleton (terms : List UnitTerm) (term : UnitTerm) (token : String) :
    exponentOf (terms ++ [term]) token =
      exponentOf terms token + if term.token = token then term.exponent else 0 := by
  rw [exponentOf_append, Pi.add_apply]
  by_cases same : term.token = token <;> simp [exponentOf, total, same]

/-- Combining keeps the sums of exponents. -/
theorem exponentOf_combine (terms : List UnitTerm) (token : String) :
    exponentOf (combine terms) token = exponentOf terms token := by
  induction terms using List.reverseRecOn with
  | nil => rfl
  | append_singleton terms term ih =>
      rw [combine_append_singleton, exponentOf_addTerm, ih, exponentOf_append_singleton]

/-- A token that is there once has its own exponent. -/
theorem exponentOf_of_nodup {terms : List UnitTerm} (distinct : (terms.map (·.token)).Nodup)
    {term : UnitTerm} (member : term ∈ terms) : exponentOf terms term.token = term.exponent := by
  induction terms with
  | nil => cases member
  | cons first rest ih =>
      obtain ⟨fresh, restDistinct⟩ := List.nodup_cons.1 distinct
      rcases List.mem_cons.1 member with rfl | later
      · have none_left : rest.filter (·.token == term.token) = [] := by
          refine List.filter_eq_nil_iff.2 fun other inside same => fresh ?_
          exact List.mem_map.2 ⟨other, inside, beq_iff_eq.1 same⟩
        simp [exponentOf, total, none_left]
      · have apart : first.token ≠ term.token := fun same =>
          fresh (List.mem_map.2 ⟨term, later, same.symm⟩)
        have same := ih restDistinct later
        rw [exponentOf] at same ⊢
        simpa [apart] using same

/-- Combining gives each distinct token the sum of its exponents. -/
theorem combine_eq (terms : List UnitTerm) :
    combine terms = (distinctTokens terms).map (summed terms) := by
  have each : ∀ term ∈ combine terms, summed terms term.token = term := by
    intro term member
    rw [summed, ← exponentOf_combine, exponentOf_of_nodup (nodup_tokens_combine terms) member]
  rw [← tokens_combine, List.map_map]
  exact (List.map_id _).symm.trans (List.map_congr_left fun term member => (each term member).symm)

/-! ## Writing and taking apart -/

/-- What is read back are the sums of the exponents, those above the slash first. -/
theorem canonical_eq (terms : List UnitTerm) :
    canonical terms =
      ((distinctTokens terms).filter fun token => 0 < exponentOf terms token).map (summed terms) ++
        ((distinctTokens terms).filter fun token => exponentOf terms token < 0).map
          (summed terms) := by
  rw [canonical, combine_eq, aboveTerms, belowTerms, List.filter_map, List.filter_map]
  rfl

/-- Sums of exponents that can be written are legible.  The sums below the slash are written
without their sign, so the negative of a sum has to be a word of 32 bits as well. -/
theorem legible_of_sums {terms : List UnitTerm} (tokens : ∀ term ∈ terms, IsToken term.token)
    (fits : ∀ term ∈ terms, (exponentOf terms term.token).natAbs ≤ greatestExponent) :
    Legible (combine terms) := by
  intro term member
  refine ⟨isToken_of_mem_combine tokens member, ?_⟩
  obtain ⟨original, inside, same⟩ := List.mem_map.1
    (mem_tokens_combine.1 (List.mem_map_of_mem member))
  have sum := fits original inside
  rwa [same, ← exponentOf_combine, exponentOf_of_nodup (nodup_tokens_combine terms) member] at sum

/-! ## Words of 32 bits -/

/-- The word of 32 bits whose negative is none. -/
def leastWord : Int := -2147483648

/-- A whole number that is a word of 32 bits. -/
def IsWord (value : Int) : Prop :=
  leastWord ≤ value ∧ value ≤ greatestExponent

instance (value : Int) : Decidable (IsWord value) :=
  inferInstanceAs (Decidable (_ ∧ _))

/-- A term is added unless a sum leaves the words. -/
def addTermInWords? (term : UnitTerm) : List UnitTerm → Option (List UnitTerm)
  | [] => if IsWord term.exponent then some [term] else none
  | first :: rest =>
      if first.token = term.token then
        if IsWord (first.exponent + term.exponent) then
          some ({ first with exponent := first.exponent + term.exponent } :: rest)
        else none
      else (addTermInWords? term rest).map (first :: ·)

/-- Terms are combined unless a sum leaves the words. -/
def combineInWords? (terms : List UnitTerm) : Option (List UnitTerm) :=
  terms.foldlM (fun combined term => addTermInWords? term combined) []

/-- The factors below the slash, unless a sum has no negative. -/
def belowTextsInWords? (terms : List UnitTerm) : Option (List String) :=
  (terms.filter (·.exponent < 0)).mapM fun term =>
    if IsWord (-term.exponent) then some (factorText term.token (-term.exponent)) else none

/-- Write terms as `format` does, but in words of 32 bits: `none` where a number leaves them. -/
def formatInWords? (terms : List UnitTerm) : Option String := do
  let combined ← combineInWords? terms
  let above := aboveTexts combined
  let below ← belowTextsInWords? combined
  return match above.isEmpty, below.isEmpty with
    | true, true => ""
    | false, true => "*".intercalate above
    | true, false => "1/" ++ "*".intercalate below
    | false, false => "*".intercalate above ++ "/" ++ "*".intercalate below

/-- No sum of exponents leaves the words, however far the terms have been added up. -/
def SumsInWords (terms : List UnitTerm) : Prop :=
  ∀ earlier, earlier <+: terms → ∀ token, IsWord (exponentOf earlier token)

theorem addTermInWords?_eq (term : UnitTerm) {terms : List UnitTerm}
    (distinct : (terms.map (·.token)).Nodup) :
    addTermInWords? term terms =
      if IsWord (exponentOf terms term.token + term.exponent) then some (addTerm term terms)
      else none := by
  induction terms with
  | nil => simp [addTermInWords?, addTerm, exponentOf, total]
  | cons first rest ih =>
      rw [addTermInWords?, addTerm]
      split
      · next same =>
          rw [← same, exponentOf_of_nodup distinct List.mem_cons_self]
      · next differs =>
          have later : exponentOf (first :: rest) term.token = exponentOf rest term.token := by
            simp [exponentOf, differs]
          rw [ih (List.nodup_cons.1 distinct).2, later]
          split <;> rfl

/-- Only the sum that a term is added to can leave the words then. -/
theorem sumsInWords_append_singleton (terms : List UnitTerm) (term : UnitTerm) :
    SumsInWords (terms ++ [term]) ↔
      SumsInWords terms ∧ IsWord (exponentOf terms term.token + term.exponent) := by
  constructor
  · intro sums
    refine ⟨fun earlier before => sums earlier (before.trans (List.prefix_append _ _)), ?_⟩
    have last := sums _ (List.prefix_refl _) term.token
    rwa [exponentOf_append_singleton, if_pos rfl] at last
  · rintro ⟨sums, last⟩ earlier before token
    rcases List.prefix_concat_iff.1 before with rfl | shorter
    · rw [exponentOf_append_singleton]
      split
      · next same => rwa [← same]
      · rw [add_zero]
        exact sums terms (List.prefix_refl _) token
    · exact sums earlier shorter token

theorem combineInWords?_append_singleton (terms : List UnitTerm) (term : UnitTerm) :
    combineInWords? (terms ++ [term]) = (combineInWords? terms).bind (addTermInWords? term) := by
  rw [combineInWords?, List.foldlM_append]
  simp only [List.foldlM_cons, List.foldlM_nil, bind_pure]
  rfl

/-- Combining in words goes through exactly as long as the sums are words. -/
theorem combineInWords?_eq_some_iff {terms combined : List UnitTerm} :
    combineInWords? terms = some combined ↔ SumsInWords terms ∧ combine terms = combined := by
  induction terms using List.reverseRecOn generalizing combined with
  | nil =>
      have zero : SumsInWords [] := by
        intro earlier before token
        rw [List.prefix_nil.1 before]
        exact (by decide : IsWord 0)
      exact ⟨fun same => ⟨zero, Option.some.inj same⟩, fun same => congrArg some same.2⟩
  | append_singleton terms term ih =>
      have added := addTermInWords?_eq term (nodup_tokens_combine terms)
      rw [exponentOf_combine] at added
      rw [combineInWords?_append_singleton, Option.bind_eq_some_iff, sumsInWords_append_singleton,
        combine_append_singleton]
      constructor
      · rintro ⟨_, before, last⟩
        obtain ⟨sums, rfl⟩ := ih.1 before
        rw [added] at last
        split at last
        · next word => exact ⟨⟨sums, word⟩, Option.some.inj last⟩
        · cases last
      · rintro ⟨⟨sums, word⟩, rfl⟩
        exact ⟨_, ih.2 ⟨sums, rfl⟩, by rw [added, if_pos word]⟩

/-- All negatives are needed. -/
theorem belowTextsInWords?_eq (terms : List UnitTerm) :
    belowTextsInWords? terms =
      if ∀ term ∈ terms, term.exponent < 0 → IsWord (-term.exponent) then some (belowTexts terms)
      else none := by
  unfold belowTextsInWords? belowTexts
  induction terms with
  | nil => rfl
  | cons first rest ih =>
      simp only [List.forall_mem_cons]
      by_cases below : first.exponent < 0
      · simp only [List.filter_cons, below, decide_true, if_true]
        rw [List.mapM_cons, ih]
        by_cases word : IsWord (-first.exponent)
        · simp only [word, forall_const, true_and, if_true]
          split <;> rfl
        · simp only [word, forall_const, false_and, if_false]
          rfl
      · simp only [List.filter_cons, below, decide_false, Bool.false_eq_true, if_false,
          false_implies, true_and]
        exact ih

/-- What holds of zero holds of the exponents of combined terms as soon as it holds of all sums. -/
theorem forall_combine_iff (holds : Int → Prop) (zero : holds 0) {terms : List UnitTerm} :
    (∀ term ∈ combine terms, holds term.exponent) ↔ ∀ token, holds (exponentOf terms token) := by
  rw [combine_eq, List.forall_mem_map]
  refine ⟨fun listed token => ?_, fun all token _ => all token⟩
  by_cases present : token ∈ distinctTokens terms
  · exact listed token present
  · have nothing : terms.filter (·.token == token) = [] := by
      refine List.filter_eq_nil_iff.2 fun term member same => present ?_
      exact List.mem_eraseDups.2 (List.mem_map.2 ⟨term, member, beq_iff_eq.1 same⟩)
    rwa [exponentOf, nothing]

/-- As long as the sums are words, writing only has to find the negatives of those below the
slash, and only the least word has none. -/
theorem formatInWords?_eq {terms : List UnitTerm} (sums : SumsInWords terms) :
    ((∀ token, exponentOf terms token ≠ leastWord) →
        formatInWords? terms = some (format terms)) ∧
      ((∃ token, exponentOf terms token = leastWord) → formatInWords? terms = none) := by
  have writes : formatInWords? terms =
      if ∀ term ∈ combine terms, term.exponent < 0 → IsWord (-term.exponent) then
        some (format terms)
      else none := by
    rw [formatInWords?, combineInWords?_eq_some_iff.2 ⟨sums, rfl⟩, Option.bind_eq_bind,
      Option.bind_some, belowTextsInWords?_eq]
    split <;> rfl
  have negatives : (∀ term ∈ combine terms, term.exponent < 0 → IsWord (-term.exponent)) ↔
      ∀ token, exponentOf terms token ≠ leastWord := by
    rw [forall_combine_iff (fun exponent => exponent < 0 → IsWord (-exponent)) (by decide)]
    refine forall_congr' fun token => ?_
    have word := sums terms (List.prefix_refl _) token
    unfold IsWord leastWord greatestExponent at *
    omega
  rw [writes]
  refine ⟨fun none_least => if_pos (negatives.2 none_least), ?_⟩
  rintro ⟨token, least⟩
  exact if_neg fun all => negatives.1 all token least

/-- The terms of a text, none of whose sums leaves the words of 32 bits, are written as a text that
has each distinct token once, with the sum of its exponents unless that vanishes, the positive sums
first and each group in order of first appearance.  Writing these terms gives the same text again.
The least word is the exception: its negative is no word, so that writing stops, and no text with
this negative below the slash is taken apart. -/
theorem split_format_of_split {text : String} {terms : List UnitTerm}
    (taken : split text = .ok terms) (sums : SumsInWords terms) :
    ((∀ token, exponentOf terms token ≠ leastWord) →
        formatInWords? terms = some (format terms) ∧
        split (format terms) = .ok
          (((distinctTokens terms).filter fun token => 0 < exponentOf terms token).map
              (summed terms) ++
            ((distinctTokens terms).filter fun token => exponentOf terms token < 0).map
              (summed terms)) ∧
        (split (format terms)).map format = .ok (format terms)) ∧
      ((∃ token, exponentOf terms token = leastWord) →
        formatInWords? terms = none ∧ ∀ read, split (format terms) ≠ .ok read) := by
  obtain ⟨writes, stops⟩ := formatInWords?_eq sums
  have tokens := isToken_of_split taken
  constructor
  · intro none_least
    have fits (token : String) : (exponentOf terms token).natAbs ≤ greatestExponent := by
      have word := sums terms (List.prefix_refl _) token
      have differs := none_least token
      unfold IsWord leastWord greatestExponent at *
      omega
    have reads := split_format (legible_of_sums tokens fun term _ => fits term.token)
    refine ⟨writes none_least, ?_, ?_⟩
    · rw [reads, canonical_eq]
    · rw [reads]
      exact congrArg Except.ok (format_canonical terms)
  · rintro ⟨token, least⟩
    refine ⟨stops ⟨token, least⟩, fun read reads => ?_⟩
    have legible := legible_of_split (fun term member => isToken_of_mem_combine tokens member) reads
    have bound := (forall_combine_iff (fun exponent => exponent.natAbs ≤ greatestExponent)
      (Nat.zero_le _)).1 (fun term member => (legible term member).2) token
    rw [least] at bound
    exact absurd bound (by decide)

/-- Tokens on both sides of the slash, and a token to the power of the least word. -/
theorem split_format_of_split_mixed :
    split " m * s^-2 / kg*1 * m^3 * s^-4 " = .ok
        [⟨"m", 1⟩, ⟨"s", -2⟩, ⟨"kg", -1⟩, ⟨"m", -3⟩, ⟨"s", 4⟩] ∧
      split (format [⟨"m", 1⟩, ⟨"s", -2⟩, ⟨"kg", -1⟩, ⟨"m", -3⟩, ⟨"s", 4⟩]) = .ok
        [⟨"s", 2⟩, ⟨"m", -2⟩, ⟨"kg", -1⟩] ∧
      split "m^-2147483648" = .ok [⟨"m", -2147483648⟩] ∧
      formatInWords? [⟨"m", -2147483648⟩] = none ∧
      ∀ read, split (format [⟨"m", -2147483648⟩]) ≠ .ok read := by
  have taken : split " m * s^-2 / kg*1 * m^3 * s^-4 " = .ok
      [⟨"m", 1⟩, ⟨"s", -2⟩, ⟨"kg", -1⟩, ⟨"m", -3⟩, ⟨"s", 4⟩] := by decide +kernel
  have added : combineInWords? [⟨"m", 1⟩, ⟨"s", -2⟩, ⟨"kg", -1⟩, ⟨"m", -3⟩, ⟨"s", 4⟩] =
      some [⟨"m", -2⟩, ⟨"s", 2⟩, ⟨"kg", -1⟩] := by decide +kernel
  obtain ⟨sums, combined⟩ := combineInWords?_eq_some_iff.1 added
  obtain ⟨reads, _⟩ := split_format_of_split taken sums
  have greater : ∀ term ∈ combine [⟨"m", 1⟩, ⟨"s", -2⟩, ⟨"kg", -1⟩, ⟨"m", -3⟩, ⟨"s", 4⟩],
      term.exponent ≠ leastWord := by
    rw [combined]
    decide
  obtain ⟨_, terms, _⟩ := reads ((forall_combine_iff (· ≠ leastWord) (by decide)).1 greater)
  have least : split "m^-2147483648" = .ok [⟨"m", -2147483648⟩] := by decide +kernel
  have alone : combineInWords? [⟨"m", -2147483648⟩] = some [⟨"m", -2147483648⟩] := by decide
  obtain ⟨_, stops⟩ := split_format_of_split least (combineInWords?_eq_some_iff.1 alone).1
  exact ⟨taken, terms, least, stops ⟨"m", by decide⟩⟩

end UnitExpression

end Metrology
