import Metrology.Proofs.Dimension
import Metrology.Proofs.Labels

/-!
# The text of a dimension read as a unit

A dimension is printed as the powers of its axes with blanks between them.  Read as a unit
expression this is one factor at most: a power of the first letter, or a power of a token with
a blank after its first character.
-/

namespace Metrology

open UnitExpression

theorem Text.toList_intercalate_cons (separator text : String) (texts : List String) :
    (separator.intercalate (text :: texts)).toList =
      text.toList ++ texts.flatMap fun other => separator.toList ++ other.toList := by
  induction texts generalizing text with
  | nil => simp
  | cons next rest ih =>
      rw [String.intercalate_cons_cons, String.toList_append, String.toList_append, ih,
        List.flatMap_cons, List.append_assoc, List.append_assoc]

/-! ## Powers of axes -/

namespace Dimension

/-- Whether an exponent is written without marks and read back. -/
def readsBack (exponent : Int) : Bool :=
  Text.isBare exponent.repr.toList &&
    exponent.repr.toList.all (fun character => character != '*' && character != '/') &&
    readExponent? exponent.repr.toList == some exponent

theorem readsBack_all : (List.range 32).all (fun code => readsBack ((code : Int) - 16)) = true := by
  decide +kernel

/-- How an exponent in range is written. -/
structure WellWritten (exponent : Int) : Prop where
  bare : Text.Bare exponent.repr.toList
  plain : ∀ character ∈ exponent.repr.toList, character ≠ '*' ∧ character ≠ '/'
  read : readExponent? exponent.repr.toList = some exponent

theorem wellWritten_of_inRange {exponent : Int} (within : InRange exponent) :
    WellWritten exponent := by
  obtain ⟨lower, upper⟩ := within
  have reads := List.all_eq_true.1 readsBack_all (exponent + 16).toNat
    (List.mem_range.2 (by omega))
  have same : ((exponent + 16).toNat : Int) - 16 = exponent := by omega
  rw [same, readsBack, Bool.and_eq_true, Bool.and_eq_true, Text.isBare_iff, List.all_eq_true,
    beq_iff_eq] at reads
  obtain ⟨⟨bare, plain⟩, read⟩ := reads
  refine ⟨bare, fun character member => ?_, read⟩
  have marks := plain character member
  rwa [Bool.and_eq_true, bne_iff_ne, bne_iff_ne] at marks

end Dimension

namespace Axis

/-- The letter that stands for an axis. -/
def letter : Axis → Char
  | .mass => 'M'
  | .length => 'L'
  | .time => 'T'
  | .currency => '$'

/-- What follows the letter of an axis in a power of it. -/
def powerTail (exponent : Int) : List Char :=
  if exponent = 1 then [] else '^' :: exponent.repr.toList

/-- The axes that are written before an axis. -/
def earlier : Axis → List Axis
  | .mass => []
  | .length => [.mass]
  | .time => [.mass, .length]
  | .currency => [.mass, .length, .time]

/-- The axes that are written after an axis. -/
def later : Axis → List Axis
  | .mass => [.length, .time, .currency]
  | .length => [.time, .currency]
  | .time => [.currency]
  | .currency => []

theorem all_eq (axis : Axis) : all = axis.earlier ++ axis :: axis.later := by
  cases axis <;> rfl

theorem isSolid_letter (axis : Axis) : Text.isSolid axis.letter = true := by
  cases axis <;> decide

theorem letter_ne (axis : Axis) : axis.letter ≠ '^' ∧ axis.letter ≠ '*' ∧ axis.letter ≠ '/' := by
  cases axis <;> decide

end Axis

namespace Dimension

variable {dimension : Dimension} {axis : Axis} {text : String}

theorem toList_factorText (written : dimension.factorText? axis = some text) :
    text.toList = axis.letter :: Axis.powerTail (dimension.exponent axis) := by
  have symbol : axis.symbol.toList = [axis.letter] := by cases axis <;> rfl
  unfold factorText? at written
  dsimp only at written
  unfold Axis.powerTail
  split at written
  · cases written
  · split at written
    · next single =>
        cases written
        rw [if_pos single, symbol]
    · next several =>
        cases written
        rw [if_neg several, String.toList_append, String.toList_append, symbol]
        rfl

theorem bare_factorText (written : dimension.factorText? axis = some text) :
    Text.Bare text.toList := by
  have letter := Text.bare_letter axis.isSolid_letter
  rw [toList_factorText written, Axis.powerTail]
  split
  · exact letter
  · have exponent := wellWritten_of_inRange (dimension.inRange_exponent axis)
    exact letter.append ['^'] exponent.bare

theorem plain_factorText (written : dimension.factorText? axis = some text) :
    ∀ character ∈ text.toList, character ≠ '*' ∧ character ≠ '/' := by
  have exponent := wellWritten_of_inRange (dimension.inRange_exponent axis)
  intro character member
  rw [toList_factorText written, Axis.powerTail] at member
  rcases List.mem_cons.1 member with rfl | member
  · exact axis.letter_ne.2
  · split at member
    · cases member
    · rcases List.mem_cons.1 member with rfl | member
      · decide
      · exact exponent.plain character member

/-! ## The whole text -/

/-- The first axis of a dimension. -/
structure Leading (dimension : Dimension) (axis : Axis) : Prop where
  first : ∀ other ∈ axis.earlier, dimension.exponent other = 0
  nonzero : dimension.exponent axis ≠ 0

theorem exists_leading (dimensioned : dimension ≠ .ratio) : ∃ axis, dimension.Leading axis := by
  by_cases mass : dimension.exponent .mass = 0
  · by_cases length : dimension.exponent .length = 0
    · by_cases time : dimension.exponent .time = 0
      · by_cases currency : dimension.exponent .currency = 0
        · refine absurd (eq_of_exponent fun axis => ?_) dimensioned
          rw [exponent_ratio]
          cases axis with
          | mass => exact mass
          | length => exact length
          | time => exact time
          | currency => exact currency
        · exact ⟨.currency, by simp [Axis.earlier, mass, length, time], currency⟩
      · exact ⟨.time, by simp [Axis.earlier, mass, length], time⟩
    · exact ⟨.length, by simp [Axis.earlier, mass], length⟩
  · exact ⟨.mass, by simp [Axis.earlier], mass⟩

theorem ne_ratio_of_leading (leading : dimension.Leading axis) : dimension ≠ .ratio := by
  rintro rfl
  exact leading.nonzero (exponent_ratio axis)

theorem factorTexts_of_vanishing {axes : List Axis}
    (vanishing : ∀ other ∈ axes, dimension.exponent other = 0) :
    axes.filterMap dimension.factorText? = [] := by
  refine List.filterMap_eq_nil_iff.2 fun other member => ?_
  rw [factorText?, if_pos (vanishing other member)]

theorem factorTexts_of_leading (leading : dimension.Leading axis) :
    ∃ text, dimension.factorText? axis = some text ∧
      Axis.all.filterMap dimension.factorText? =
        text :: axis.later.filterMap dimension.factorText? := by
  cases written : dimension.factorText? axis with
  | none =>
      rw [factorText?, if_neg leading.nonzero] at written
      split at written
      · cases written
      · cases written
  | some text =>
      refine ⟨text, rfl, ?_⟩
      rw [axis.all_eq, List.filterMap_append, factorTexts_of_vanishing leading.first,
        List.nil_append, List.filterMap_cons_some written]

/-- The powers of later axes, each after a blank. -/
def tail (dimension : Dimension) (axis : Axis) : List Char :=
  (axis.later.filterMap dimension.factorText?).flatMap fun text => ' ' :: text.toList

theorem toList_text (leading : dimension.Leading axis) :
    dimension.text.toList =
      axis.letter :: (Axis.powerTail (dimension.exponent axis) ++ dimension.tail axis) := by
  obtain ⟨text, written, factors⟩ := factorTexts_of_leading leading
  rw [Dimension.text, factors, List.isEmpty_cons, if_neg Bool.false_ne_true,
    Text.toList_intercalate_cons, toList_factorText written]
  rfl

theorem bare_text (dimensioned : dimension ≠ .ratio) : Text.Bare dimension.text.toList := by
  obtain ⟨axis, leading⟩ := exists_leading dimensioned
  obtain ⟨text, _, factors⟩ := factorTexts_of_leading leading
  have filled : Axis.all.filterMap dimension.factorText? ≠ [] := by
    rw [factors]
    exact List.cons_ne_nil _ _
  rw [Dimension.text, if_neg (by simpa using filled), String.toList_intercalate]
  refine Text.Bare.intercalate _ (by simpa using filled) fun characters member => ?_
  obtain ⟨text, inside, rfl⟩ := List.mem_map.1 member
  obtain ⟨other, _, written⟩ := List.mem_filterMap.1 inside
  exact bare_factorText written

theorem trimmed_text (dimensioned : dimension ≠ .ratio) :
    Text.trimmed dimension.text = dimension.text := by
  rw [Text.trimmed, (bare_text dimensioned).trim, String.ofList_toList]

theorem isEmpty_text (dimensioned : dimension ≠ .ratio) : dimension.text.isEmpty = false := by
  refine Bool.eq_false_iff.2 fun nothing => (bare_text dimensioned).filled ?_
  rw [String.isEmpty_iff.1 nothing]
  rfl

theorem plain_text (dimension : Dimension) :
    ∀ character ∈ dimension.text.toList, character ≠ '*' ∧ character ≠ '/' := by
  unfold Dimension.text
  dsimp only
  split
  · simp
  · refine Text.forall_mem_intercalate (by simp) fun text member => ?_
    obtain ⟨axis, _, written⟩ := List.mem_filterMap.1 member
    exact plain_factorText written

end Dimension

/-! ## One factor -/

namespace UnitExpression

/-- A text without the marks of products and quotients is one factor. -/
theorem split_eq_ok_iff_of_plain {text : String} (bare : Text.Bare text.toList)
    (plain : ∀ character ∈ text.toList, character ≠ '*' ∧ character ≠ '/')
    {terms : List UnitTerm} :
    split text = .ok terms ↔ factorTerms 1 text.toList = .ok terms := by
  have noSlash : '/' ∉ text.toList := fun member => (plain _ member).2 rfl
  have noStar : '*' ∉ text.toList := fun member => (plain _ member).1 rfl
  have side : splitTrimmed text.toList = (do
      let terms ← [text.toList].mapM (factorTerms 1)
      .ok terms.flatten) := by
    rw [splitTrimmed_side bare noSlash, sideTerms, List.splitOn_eq_singleton noStar]
  unfold split
  dsimp only
  rw [bare.trim, side, List.mapM_cons, List.mapM_nil]
  cases factorTerms 1 text.toList with
  | error fault => simp [bind, Except.bind]
  | ok read => simp [bind, Except.bind, pure, Except.pure]

theorem factorTerms_eq_ok_iff {text : List Char} (bare : Text.Bare text)
    {terms : List UnitTerm} :
    factorTerms 1 text = .ok terms ↔ ∃ token exponent, splitFactor text = .ok (token, exponent) ∧
      token ≠ [] ∧ terms = if token = ['1'] then [] else [⟨String.ofList token, exponent⟩] := by
  have filled : text.isEmpty = false := List.isEmpty_eq_false_iff.2 bare.filled
  unfold factorTerms
  dsimp only
  rw [bare.trim, filled, if_neg Bool.false_ne_true]
  cases reads : splitFactor text with
  | error fault => simp [bind, Except.bind]
  | ok read =>
      obtain ⟨token, exponent⟩ := read
      simp only [bind, Except.bind, List.isEmpty_iff, Except.ok.injEq, Prod.mk.injEq, mul_one]
      constructor
      · intro succeeds
        split at succeeds
        · cases succeeds
        · next named =>
            refine ⟨token, exponent, ⟨rfl, rfl⟩, named, ?_⟩
            split at succeeds
            · next neutral =>
                rw [if_pos neutral]
                exact (Except.ok.inj succeeds).symm
            · next proper =>
                rw [if_neg proper]
                exact (Except.ok.inj succeeds).symm
      · rintro ⟨_, _, ⟨rfl, rfl⟩, named, rfl⟩
        rw [if_neg named]
        split <;> rfl

theorem splitFactor_letter {letter : Char} (noPower : letter ≠ '^') :
    splitFactor [letter] = .ok ([letter], 1) := by
  have none_left : [letter].dropWhile (· ≠ '^') = [] :=
    List.dropWhile_cons_of_pos (decide_eq_true noPower)
  rw [splitFactor, none_left]

theorem splitFactor_power {letter : Char} (solid : Text.isSolid letter = true)
    (noPower : letter ≠ '^') {text token : List Char} {exponent : Int} :
    splitFactor (letter :: '^' :: text) = .ok (token, exponent) ↔
      token = [letter] ∧ readExponent? text = some exponent := by
  have after : (letter :: '^' :: text).dropWhile (· ≠ '^') = '^' :: text := by
    rw [List.dropWhile_cons_of_pos (by simpa using noPower),
      List.dropWhile_cons_of_neg (by simp)]
  have before : (letter :: '^' :: text).takeWhile (· ≠ '^') = [letter] := by
    rw [List.takeWhile_cons_of_pos (by simpa using noPower),
      List.takeWhile_cons_of_neg (by simp)]
  rw [splitFactor, after, before, (Text.bare_letter solid).trim]
  dsimp only
  cases readExponent? text with
  | none => simp
  | some read =>
      simp only [Except.ok.injEq, Prod.mk.injEq, Option.some.injEq]
      exact and_congr_left' eq_comm

/-- The token of a gapped text is gapped. -/
theorem gapped_of_splitFactor {first second : Char} {rest token : List Char} {exponent : Int}
    (firstSolid : Text.isSolid first = true) (secondSolid : Text.isSolid second = true)
    (firstPlain : first ≠ '^') (secondPlain : second ≠ '^')
    (reads : splitFactor (first :: ' ' :: second :: rest) = .ok (token, exponent)) :
    Text.Gapped token := by
  unfold splitFactor at reads
  split at reads
  · cases reads
    exact ⟨first, second, rest, rfl, firstSolid, secondSolid⟩
  · split at reads
    · cases reads
    · cases reads
      rw [List.takeWhile_cons_of_pos (by simpa using firstPlain),
        List.takeWhile_cons_of_pos (by decide),
        List.takeWhile_cons_of_pos (by simpa using secondPlain)]
      exact Text.Gapped.trim ⟨first, second, _, rfl, firstSolid, secondSolid⟩

end UnitExpression

namespace Dimension

variable {dimension : Dimension} {axis : Axis}

theorem tail_of_vanishing (vanishing : ∀ other ∈ axis.later, dimension.exponent other = 0) :
    dimension.tail axis = [] := by
  rw [tail, factorTexts_of_vanishing vanishing]
  rfl

theorem exists_of_tail (filled : dimension.tail axis ≠ []) :
    ∃ (other : Axis) (rest : List Char), dimension.tail axis = ' ' :: other.letter :: rest := by
  cases texts : axis.later.filterMap dimension.factorText? with
  | nil =>
      rw [tail, texts] at filled
      exact absurd rfl filled
  | cons text rest =>
      have among : text ∈ axis.later.filterMap dimension.factorText? := by
        rw [texts]
        exact List.mem_cons_self
      obtain ⟨other, _, written⟩ := List.mem_filterMap.1 among
      rw [tail, texts, List.flatMap_cons, toList_factorText written]
      exact ⟨other, _, rfl⟩

/-- What the text of a dimension is read as is the power of one token. -/
theorem split_text_iff (dimensioned : dimension ≠ .ratio) {terms : List UnitTerm} :
    split dimension.text = .ok terms ↔ ∃ token exponent,
      splitFactor dimension.text.toList = .ok (token, exponent) ∧ token ≠ [] ∧
        terms = if token = ['1'] then [] else [⟨String.ofList token, exponent⟩] :=
  (split_eq_ok_iff_of_plain (bare_text dimensioned) dimension.plain_text).trans
    (factorTerms_eq_ok_iff (bare_text dimensioned))

/-- A power of one axis is read as this power of its letter. -/
theorem split_text_of_single (leading : dimension.Leading axis)
    (single : dimension.tail axis = []) :
    split dimension.text = .ok [⟨String.ofList [axis.letter], dimension.exponent axis⟩] := by
  have notOne : [axis.letter] ≠ ['1'] := by cases axis <;> decide
  refine (split_text_iff (ne_ratio_of_leading leading)).2
    ⟨[axis.letter], dimension.exponent axis, ?_, List.cons_ne_nil _ _, (if_neg notOne).symm⟩
  rw [toList_text leading, single, List.append_nil, Axis.powerTail]
  split
  · next one =>
      rw [one]
      exact splitFactor_letter axis.letter_ne.1
  · have written := wellWritten_of_inRange (dimension.inRange_exponent axis)
    exact (splitFactor_power axis.isSolid_letter axis.letter_ne.1).2 ⟨rfl, written.read⟩

/-- The text of a dimension is read as a power of its first letter, or of a gapped token. -/
theorem terms_of_split_text (leading : dimension.Leading axis) {terms : List UnitTerm}
    (reads : split dimension.text = .ok terms) :
    (∃ exponent, terms = [⟨String.ofList [axis.letter], exponent⟩] ∧
      ((∀ other ∈ axis.later, dimension.exponent other = 0) → exponent = dimension.exponent axis)) ∨
    ∃ token exponent, terms = [⟨String.ofList token, exponent⟩] ∧ Text.Gapped token := by
  have notOne : [axis.letter] ≠ ['1'] := by cases axis <;> decide
  by_cases single : dimension.tail axis = []
  · refine .inl ⟨dimension.exponent axis, ?_, fun _ => rfl⟩
    exact Except.ok.inj (reads.symm.trans (split_text_of_single leading single))
  · obtain ⟨token, exponent, factor, _, rfl⟩ :=
      (split_text_iff (ne_ratio_of_leading leading)).1 reads
    rw [toList_text leading, Axis.powerTail] at factor
    split at factor
    · obtain ⟨other, rest, same⟩ := exists_of_tail single
      rw [same] at factor
      have gapped := gapped_of_splitFactor axis.isSolid_letter other.isSolid_letter
        axis.letter_ne.1 other.letter_ne.1 factor
      refine .inr ⟨token, exponent, if_neg ?_, gapped⟩
      obtain ⟨first, second, rest, rfl, _⟩ := gapped
      intro impossible
      cases impossible
    · obtain ⟨rfl, _⟩ := (splitFactor_power axis.isSolid_letter axis.letter_ne.1).1 factor
      refine .inl ⟨exponent, if_neg notOne, fun vanishing => ?_⟩
      exact absurd (tail_of_vanishing vanishing) single

end Dimension

end Metrology
