import Metrology.Proofs.Newcomers
import Metrology.Proofs.Wording

/-!
# Expressions and names as labels

Expressions of units are written in ASCII without blanks, and their display names start with two
characters that are none.  So a text whose second character is a blank finds no unit, however
loosely it is matched, and a single letter finds only units whose expression is this letter in
either case.
-/

namespace Metrology

open UnitExpression

/-! ## Small forms -/

namespace Text

/-- A character of ASCII that is not a blank. -/
def isSolid (character : Char) : Bool :=
  character.toNat < 128 && !isBlank character

theorem ascii_of_isSolid {character : Char} (solid : isSolid character = true) :
    character.toNat < 128 := by
  rw [isSolid, Bool.and_eq_true, decide_eq_true_eq] at solid
  exact solid.1

theorem isBlank_of_isSolid {character : Char} (solid : isSolid character = true) :
    isBlank character = false := by
  rw [isSolid, Bool.and_eq_true, Bool.not_eq_true'] at solid
  exact solid.2

theorem bare_letter {letter : Char} (solid : isSolid letter = true) : Bare [letter] := by
  have nonblank := isBlank_of_isSolid solid
  refine ⟨List.cons_ne_nil _ _, ?_, ?_⟩
  · rintro character ⟨⟩
    exact nonblank
  · rintro character ⟨⟩
    exact nonblank

theorem isSolid_of_isDigit {character : Char} (digit : character.isDigit = true) :
    isSolid character = true := by
  have nonblank := isBlank_of_isDigit digit
  simp only [Char.isDigit, Bool.and_eq_true, decide_eq_true_eq, UInt32.le_iff_toNat_le] at digit
  have upper : character.toNat ≤ 57 := digit.2
  rw [isSolid, Bool.and_eq_true, decide_eq_true_eq]
  exact ⟨by omega, by rw [nonblank]; rfl⟩

theorem isBlank_toLower_ascii :
    (List.range 128).all (fun code =>
      isBlank (Char.ofNat code).toLower == isBlank (Char.ofNat code)) = true := by
  decide +kernel

theorem isBlank_toLower {character : Char} (ascii : character.toNat < 128) :
    isBlank character.toLower = isBlank character := by
  have kept := List.all_eq_true.1 isBlank_toLower_ascii _ (List.mem_range.2 ascii)
  rwa [Char.ofNat_toNat, beq_iff_eq] at kept

theorem isBlank_toLower_of_isSolid {character : Char} (solid : isSolid character = true) :
    isBlank character.toLower = false := by
  rw [isBlank_toLower (ascii_of_isSolid solid), isBlank_of_isSolid solid]

theorem lowerFrom_cons {character : Char} (ascii : character.toNat < 128)
    (before rest : List Char) :
    lowerFrom before (character :: rest) =
      character.toLower :: lowerFrom (character :: before) rest := by
  rw [lowerFrom, if_neg (by omega), lowerOne_of_ascii ascii]
  rfl

theorem lower_of_isSolid {text : List Char}
    (solid : ∀ character ∈ text, isSolid character = true) :
    lower text = text.map Char.toLower := by
  rw [lower]
  generalize ([] : List Char) = before
  induction text generalizing before with
  | nil => rfl
  | cons character rest ih =>
      have ascii := ascii_of_isSolid (solid character List.mem_cons_self)
      rw [lowerFrom_cons ascii, List.map_cons,
        ih (fun other member => solid other (List.mem_cons_of_mem _ member))]

/-- The characters of joined texts are those of the texts and of the separator. -/
theorem forall_mem_intercalate {holds : Char → Prop} {separator : String}
    (separated : ∀ character ∈ separator.toList, holds character) {texts : List String}
    (each : ∀ text ∈ texts, ∀ character ∈ text.toList, holds character) :
    ∀ character ∈ (separator.intercalate texts).toList, holds character := by
  induction texts with
  | nil => exact fun _ impossible => absurd impossible List.not_mem_nil
  | cons text rest ih =>
      have later := ih fun other member => each other (List.mem_cons_of_mem _ member)
      have here := each text List.mem_cons_self
      cases rest with
      | nil => rwa [String.intercalate_singleton]
      | cons next others =>
          intro character member
          rw [String.intercalate_cons_cons, String.toList_append, String.toList_append] at member
          rcases List.mem_append.1 member with joined | after
          · rcases List.mem_append.1 joined with first | between
            · exact here character first
            · exact separated character between
          · exact later character after

/-- A text with a blank between its first character and another one. -/
def Gapped (text : List Char) : Prop :=
  ∃ first second rest, text = first :: ' ' :: second :: rest ∧
    isSolid first = true ∧ isSolid second = true

/-- Only blanks after the gap and the character behind it can be trimmed. -/
theorem Gapped.trim {text : List Char} (gapped : Gapped text) : Gapped (Text.trim text) := by
  obtain ⟨first, second, rest, rfl, firstSolid, secondSolid⟩ := gapped
  have firstFilled := isBlank_of_isSolid firstSolid
  have secondFilled := isBlank_of_isSolid secondSolid
  have started : trimStart (first :: ' ' :: second :: rest) = first :: ' ' :: second :: rest :=
    List.dropWhile_cons_of_neg (by simp [firstFilled])
  have reversed : (first :: ' ' :: second :: rest).reverse =
      rest.reverse ++ [second, ' ', first] := by simp
  have ended : [second, ' ', first].dropWhile isBlank = [second, ' ', first] :=
    List.dropWhile_cons_of_neg (by simp [secondFilled])
  rw [Text.trim, started, trimEnd, reversed, List.dropWhile_append, ended]
  split
  · exact ⟨first, second, [], rfl, firstSolid, secondSolid⟩
  · rw [List.reverse_append]
    exact ⟨first, second, _, rfl, firstSolid, secondSolid⟩

theorem Gapped.lower {text : List Char} (gapped : Gapped text) :
    ∃ first second rest, Text.lower text = first :: ' ' :: second :: rest := by
  obtain ⟨first, second, rest, rfl, firstSolid, secondSolid⟩ := gapped
  have blank : (' ' : Char).toNat < 128 := by decide
  rw [Text.lower, lowerFrom_cons (ascii_of_isSolid firstSolid), lowerFrom_cons blank,
    lowerFrom_cons (ascii_of_isSolid secondSolid)]
  exact ⟨_, _, _, rfl⟩

end Text

/-! ## Loose forms -/

namespace Registry

theorem looseForms_of_gapped {token : String} (gapped : Text.Gapped token.toList) :
    ∀ form ∈ looseForms token, form[1]? = some ' ' := by
  obtain ⟨first, second, rest, same⟩ := gapped.lower
  intro form member
  rw [looseForms, same] at member
  rcases List.mem_cons.1 member with rfl | shortened
  · rfl
  · rw [Option.mem_toList, singular?] at shortened
    split at shortened
    · cases shortened
      rfl
    · cases shortened

theorem looseForms_of_letter {letter : Char} (ascii : letter.toNat < 128) :
    looseForms (String.ofList [letter]) = [[letter.toLower]] := by
  have small : Text.lower [letter] = [letter.toLower] := Text.lowerFrom_cons ascii [] []
  rw [looseForms, String.toList_ofList, small, singular?, if_neg]
  · rfl
  · rintro ⟨_, several⟩
    exact absurd several (by simp)

end Registry

/-! ## Expressions -/

namespace UnitExpression

/-- A text that can be a label: ASCII without blanks. -/
def IsLabel (text : String) : Prop :=
  ∀ character ∈ text.toList, Text.isSolid character = true

instance (text : String) : Decidable (IsLabel text) :=
  List.decidableBAll _ text.toList

theorem IsLabel.append {left right : String} (leftLabel : IsLabel left)
    (rightLabel : IsLabel right) : IsLabel (left ++ right) := by
  intro character member
  rw [String.toList_append] at member
  rcases List.mem_append.1 member with inLeft | inRight
  · exact leftLabel character inLeft
  · exact rightLabel character inRight

theorem isLabel_intercalate {separator : String} (separatorLabel : IsLabel separator)
    {texts : List String} (labels : ∀ text ∈ texts, IsLabel text) :
    IsLabel (separator.intercalate texts) :=
  Text.forall_mem_intercalate separatorLabel labels

theorem isLabel_repr (count : Nat) : IsLabel count.repr := by
  intro character member
  rw [Nat.toList_repr] at member
  exact Text.isSolid_of_isDigit (Nat.isDigit_of_mem_toDigits (by decide) (by decide) member)

theorem isLabel_factorText {token : String} (label : IsLabel token) (exponent : Int) :
    IsLabel (factorText token exponent) := by
  have power : IsLabel "^" := by decide
  have minus : IsLabel "-" := by decide
  unfold factorText
  split
  · exact label
  · refine (label.append power).append ?_
    cases exponent with
    | ofNat count => exact isLabel_repr count
    | negSucc count => exact minus.append (isLabel_repr (count + 1))

/-- What is written from labels is a label. -/
theorem isLabel_format {terms : List UnitTerm} (labels : ∀ term ∈ terms, IsLabel term.token) :
    IsLabel (format terms) := by
  have times : IsLabel "*" := by decide
  have slash : IsLabel "/" := by decide
  have one : IsLabel "1/" := by decide
  have factor {term : UnitTerm} (member : term ∈ combine terms) (exponent : Int) :
      IsLabel (factorText term.token exponent) := by
    obtain ⟨original, inside, same⟩ := List.mem_map.1
      (mem_tokens_combine.1 (List.mem_map_of_mem member))
    exact isLabel_factorText (same ▸ labels original inside) exponent
  have above : IsLabel ("*".intercalate (aboveTexts (combine terms))) := by
    refine isLabel_intercalate times fun text member => ?_
    obtain ⟨term, inside, rfl⟩ := List.mem_map.1 member
    exact factor (List.mem_of_mem_filter inside) _
  have below : IsLabel ("*".intercalate (belowTexts (combine terms))) := by
    refine isLabel_intercalate times fun text member => ?_
    obtain ⟨term, inside, rfl⟩ := List.mem_map.1 member
    exact factor (List.mem_of_mem_filter inside) _
  unfold format
  dsimp only
  split
  · exact fun _ impossible => absurd impossible List.not_mem_nil
  · exact above
  · exact one.append below
  · exact (above.append slash).append below

/-- A name that starts with two characters of a label. -/
def isTitle (name : String) : Bool :=
  match name.toList with
  | first :: second :: _ => Text.isSolid first && Text.isSolid second
  | _ => false

theorem isTitle_iff {name : String} :
    isTitle name = true ↔ ∃ first second rest, name.toList = first :: second :: rest ∧
      Text.isSolid first = true ∧ Text.isSolid second = true := by
  unfold isTitle
  split
  · next first second rest same =>
      rw [Bool.and_eq_true]
      constructor
      · rintro ⟨firstSolid, secondSolid⟩
        exact ⟨first, second, rest, same, firstSolid, secondSolid⟩
      · rintro ⟨_, _, _, others, firstSolid, secondSolid⟩
        cases same.symm.trans others
        exact ⟨firstSolid, secondSolid⟩
  · next short =>
      constructor
      · intro impossible
        cases impossible
      · rintro ⟨first, second, rest, same, _⟩
        exact absurd same (short first second rest)

theorem isTitle_append {name : String} (title : isTitle name = true) (suffix : String) :
    isTitle (name ++ suffix) = true := by
  obtain ⟨first, second, rest, same, firstSolid, secondSolid⟩ := isTitle_iff.1 title
  refine isTitle_iff.2 ⟨first, second, rest ++ suffix.toList, ?_, firstSolid, secondSolid⟩
  rw [String.toList_append, same]
  rfl

/-- The small form of a title has no blank in the second place. -/
theorem lower_of_isTitle {name : String} (title : isTitle name = true) :
    ∃ first second rest, Text.lower name.toList = first :: second :: rest ∧
      Text.isBlank second = false := by
  obtain ⟨first, second, rest, same, firstSolid, secondSolid⟩ := isTitle_iff.1 title
  rw [same, Text.lower, Text.lowerFrom_cons (Text.ascii_of_isSolid firstSolid),
    Text.lowerFrom_cons (Text.ascii_of_isSolid secondSolid)]
  exact ⟨_, _, _, rfl, Text.isBlank_toLower_of_isSolid secondSolid⟩

end UnitExpression

namespace Quantity

variable {α : Type} [Scalar α]

/-- All units of a quantity have titles as display names. -/
def Titled (quantity : Quantity α) : Prop :=
  ∀ unit ∈ quantity.units, isTitle unit.name = true

theorem inherited_titled : Quantity.Inherited (Titled : Quantity α → Prop) where
  power titled made := by
    unfold Quantity.power at made
    split at made
    · cases made
      exact titled
    · next several =>
        obtain ⟨dimension, _, made⟩ := exists_of_bind_eq_ok made
        cases made
        intro unit member
        obtain ⟨original, inside, rfl⟩ := List.mem_map.1 member
        rw [MeasureUnit.power, if_neg several]
        exact isTitle_append (isTitle_append (titled original inside) _) _
  product left _ made := by
    intro unit member
    obtain ⟨first, inside, second, _, rfl⟩ := exists_of_mem_product made member
    exact isTitle_append (isTitle_append (left first inside) _) _
  quotient left _ made := by
    intro unit member
    obtain ⟨first, inside, second, _, rfl⟩ := exists_of_mem_quotient made member
    exact isTitle_append (isTitle_append (left first inside) _) _
  origin _ titled := titled

end Quantity

/-! ## The built-in document -/

namespace Definitions

/-- The display names of all units of a document. -/
def names {α : Type} (definitions : Definitions α) : List String :=
  definitions.quantities.flatMap fun definition => definition.units.map (·.name)

/-- The names do not depend on the numbers that slopes are. -/
theorem names_builtin {α : Type} [Scalar α] :
    (builtin : Definitions α).names = (builtin : Definitions ℚ).names := rfl

theorem isTitle_builtin : (builtin : Definitions ℚ).names.all isTitle = true := by
  decide +kernel

theorem isLabel_builtin : ∀ text ∈ (builtin : Definitions ℚ).expressions, IsLabel text := by
  decide +kernel

theorem former_builtin : ∀ former ∈ (builtin : Definitions ℚ).legacy,
    IsLabel former.1 ∧ isTitle former.1 = true := by
  decide +kernel

end Definitions

namespace Registry

variable {α : Type}

/-- A registry in which expressions are labels, display names are titles and former names are
both. -/
structure Labelled (registry : Registry α) : Prop where
  expression : ∀ entry ∈ registry.entries, IsLabel entry.expression
  name : ∀ entry ∈ registry.entries, isTitle entry.unit.name = true
  former : ∀ former ∈ registry.legacy, IsLabel former.1 ∧ isTitle former.1 = true

/-- A single letter that is written from words is one of them. -/
theorem names_of_letter {basis : Registry α} {text : String} (worded : basis.Worded text)
    (label : IsLabel text) {letter : Char} (single : text.toList = [letter]) :
    basis.Names text := by
  obtain ⟨terms, wording, legible⟩ := worded
  have reads : split text = .ok (canonical terms) := by
    rw [wording.written, split_format legible]
  have filled : canonical terms ≠ [] := by
    intro none_left
    have written := wording.written
    rw [← format_canonical, none_left] at written
    rw [written] at single
    cases single
  -- The marks of an expression and the neutral token are read as nothing.
  have unmarked (mark : Char) (nothing : (split (String.ofList [mark])).toOption.getD [] = []) :
      letter ≠ mark := by
    rintro rfl
    rw [← single, String.ofList_toList, reads] at nothing
    exact filled nothing
  have isToken : IsToken text := by
    constructor
    · rw [single]
      exact Text.bare_letter (label letter (by rw [single]; exact List.mem_singleton_self letter))
    · intro character member
      rw [single] at member
      rw [List.mem_singleton.1 member]
      exact ⟨unmarked '*' (by decide), unmarked '/' (by decide), unmarked '^' (by decide)⟩
    · rw [single]
      intro one
      exact unmarked '1' (by decide) (List.singleton_injective one)
  rw [split_token isToken] at reads
  have member : (⟨text, 1⟩ : UnitTerm) ∈ canonical terms := by
    rw [← Except.ok.inj reads]
    exact List.mem_singleton_self _
  exact wording.named_canonical _ member

section Reached

variable [Scalar α] {settings : Settings} {start : Registry α}
  (loaded : ofDefinitions Definitions.builtin settings = .ok start)
include loaded

theorem isLabel_of_names {token : String} (names : start.Names token) : IsLabel token := by
  have listed := (findExpression?_isSome_loaded_iff loaded).1 names.found
  rw [Definitions.expressions_builtin] at listed
  exact Definitions.isLabel_builtin token listed

theorem isLabel_of_worded {text : String} (worded : start.Worded text) : IsLabel text := by
  obtain ⟨terms, wording, _⟩ := worded
  rw [wording.written]
  exact isLabel_format fun term member => isLabel_of_names loaded (wording.named term member)

/-- Labels and titles stay what they are, whatever is derived from them. -/
theorem labelled_reached (expressions : List String) : (start.reached expressions).Labelled := by
  have worded := passed_reached Quantity.passed_worded (worded_builtin loaded) expressions
  have titled : ∀ quantity ∈ (start.reached expressions).quantities, quantity.Titled := by
    refine inherited_run Quantity.inherited_titled (fun quantity member unit inside => ?_) ?_
    · obtain ⟨definition, listed, makes⟩ := exists_of_forall₂ (makes_of_loaded loaded) member
      rw [makes.units] at inside
      have named : unit.name ∈ (Definitions.builtin : Definitions α).names :=
        List.mem_flatMap.2 ⟨definition, listed, List.mem_map_of_mem inside⟩
      rw [Definitions.names_builtin] at named
      exact List.all_eq_true.1 Definitions.isTitle_builtin unit.name named
    · intro quantity registered
      obtain ⟨expression, _, impossible⟩ := List.mem_map.1 registered
      cases impossible
  constructor
  · intro entry member
    exact isLabel_of_worded loaded (worded _ (quantity_mem_of_entry member) _
      (unit_mem_of_entry member))
  · intro entry member
    exact titled _ (quantity_mem_of_entry member) _
      (unit_mem_of_entry member)
  · intro former member
    have kept : start.Extends (start.reached expressions) := Extends.run start _
    rw [kept.legacy, (extends_of_loaded loaded).legacy] at member
    exact Definitions.former_builtin former member

end Reached

/-! ## Finding units by labels -/

section Finding

variable {registry : Registry α} {token : String} {entry : UnitEntry α}

/-- A token that is no former name is, up to its case and a plural, the expression or the name
of the unit that it finds. -/
theorem mem_looseForms_of_findUnit (found : registry.findUnit token = .ok entry)
    (strange : registry.presentName? (Text.trimmed token) = none) :
    Text.lower entry.expression.toList ∈ looseForms (Text.trimmed token) ∨
      Text.lower entry.unit.name.toList ∈ looseForms (Text.trimmed token) := by
  unfold findUnit at found
  dsimp only at found
  split at found
  · next exact_match =>
      cases found
      rw [expression_of_findExpression? exact_match]
      exact .inl List.mem_cons_self
  · split at found
    · next displayed =>
        cases found
        have named := List.find?_some displayed
        rw [beq_iff_eq.1 named]
        exact .inr List.mem_cons_self
    · split at found
      · next former =>
          rw [findFormerName?, strange] at former
          cases former
      · split at found
        · cases found
        · next only =>
            cases found
            have member : entry ∈ registry.looseMatches (Text.trimmed token) := by
              rw [only]
              exact List.mem_singleton_self entry
            have matched := (List.mem_filter.1 member).2
            rw [Bool.and_eq_true, Bool.or_eq_true, List.contains_iff_mem,
              List.contains_iff_mem] at matched
            exact matched.2
        · cases found

theorem former_of_presentName? {former present : String}
    (renamed : registry.presentName? former = some present) :
    ∃ entry ∈ registry.legacy, entry.1 = former := by
  obtain ⟨before, after, listed, _⟩ := List.lookup_eq_some_iff.1 renamed
  refine ⟨(former, present), ?_, rfl⟩
  rw [listed]
  exact List.mem_append_right before List.mem_cons_self

/-- A text with a blank in the second place finds nothing. -/
theorem findUnit_ne_of_gapped (labelled : registry.Labelled)
    (gapped : Text.Gapped (Text.trimmed token).toList) : registry.findUnit token ≠ .ok entry := by
  intro found
  have strange : registry.presentName? (Text.trimmed token) = none := by
    rw [← Option.not_isSome_iff_eq_none, Option.isSome_iff_exists]
    rintro ⟨present, renamed⟩
    obtain ⟨former, listed, same⟩ := former_of_presentName? renamed
    obtain ⟨first, second, rest, others, _⟩ := gapped
    have solid := (labelled.former former listed).1 ' ' (by
      rw [same, others]
      exact List.mem_cons_of_mem _ List.mem_cons_self)
    exact absurd solid (by decide)
  have member := mem_of_findUnit found
  rcases mem_looseForms_of_findUnit found strange with likeExpression | likeName
  · have blank := List.mem_of_getElem? (looseForms_of_gapped gapped _ likeExpression)
    have label := labelled.expression entry member
    rw [Text.lower_of_isSolid label] at blank
    obtain ⟨character, inside, isSpace⟩ := List.mem_map.1 blank
    have nonblank := Text.isBlank_toLower_of_isSolid (label character inside)
    rw [isSpace] at nonblank
    exact absurd nonblank (by decide)
  · have blank := looseForms_of_gapped gapped _ likeName
    obtain ⟨first, second, rest, same, nonblank⟩ :=
      lower_of_isTitle (labelled.name entry member)
    rw [same] at blank
    cases blank
    exact absurd nonblank (by decide)

/-- A single letter finds only units whose expression is this letter in either case. -/
theorem lower_of_findUnit (labelled : registry.Labelled) {letter : Char}
    (solid : Text.isSolid letter = true)
    (found : registry.findUnit (String.ofList [letter]) = .ok entry) :
    Text.lower entry.expression.toList = [letter.toLower] := by
  have trimmed : Text.trimmed (String.ofList [letter]) = String.ofList [letter] := by
    rw [Text.trimmed, String.toList_ofList, (Text.bare_letter solid).trim]
  have strange : registry.presentName? (Text.trimmed (String.ofList [letter])) = none := by
    rw [← Option.not_isSome_iff_eq_none, Option.isSome_iff_exists]
    rintro ⟨present, renamed⟩
    obtain ⟨former, listed, same⟩ := former_of_presentName? renamed
    obtain ⟨first, second, rest, others, _⟩ := isTitle_iff.1 (labelled.former former listed).2
    rw [same, trimmed, String.toList_ofList] at others
    cases others
  rcases mem_looseForms_of_findUnit found strange with likeExpression | likeName
  · rw [trimmed, looseForms_of_letter (Text.ascii_of_isSolid solid)] at likeExpression
    exact List.mem_singleton.1 likeExpression
  · rw [trimmed, looseForms_of_letter (Text.ascii_of_isSolid solid)] at likeName
    obtain ⟨first, second, rest, same, _⟩ :=
      lower_of_isTitle (labelled.name entry (mem_of_findUnit found))
    rw [same] at likeName
    cases List.mem_singleton.1 likeName

/-- A single letter finds only units of the document. -/
theorem listed_of_findUnit [Scalar α] {settings : Settings} {start : Registry α}
    (loaded : ofDefinitions Definitions.builtin settings = .ok start) {expressions : List String}
    {letter : Char} (solid : Text.isSolid letter = true)
    (found : (start.reached expressions).findUnit (String.ofList [letter]) = .ok entry) :
    entry.expression ∈ (Definitions.builtin : Definitions α).expressions ∧
      Text.lower entry.expression.toList = [letter.toLower] := by
  have small := lower_of_findUnit (labelled_reached loaded expressions) solid found
  have member := mem_of_findUnit found
  have label := (labelled_reached loaded expressions).expression entry member
  have worded : start.Worded entry.expression :=
    passed_reached Quantity.passed_worded (worded_builtin loaded) expressions _
      (quantity_mem_of_entry member) _ (unit_mem_of_entry member)
  refine ⟨(findExpression?_isSome_loaded_iff loaded).1 ?_, small⟩
  rw [Text.lower_of_isSolid label] at small
  obtain ⟨character, single, _⟩ := List.map_eq_singleton_iff.1 small
  exact (names_of_letter worded label single).found

end Finding

end Registry

end Metrology
