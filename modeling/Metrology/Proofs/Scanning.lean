import Metrology.Proofs.Accepting
import Metrology.Proofs.UnitText

/-!
# Scanning before blanks

A scanner looks past the characters of its token, for a second character of a pair, a digit
of an exponent or one more character of a name.  A blank is none of these: what is taken
before some text is taken before every text that starts with a blank, and before none.
-/

namespace Metrology

/-! ## Blanks -/

namespace Text

/-- Ranges that do not meet have no character in common. -/
theorem not_inRanges_of_apart {left right : List (Nat × Nat)}
    (apart : (left.all fun here => right.all fun there =>
      here.2 < there.1 || there.2 < here.1) = true)
    {character : Char} (inside : inRanges left character = true) :
    inRanges right character = false := by
  obtain ⟨here, member, low, high⟩ : ∃ here ∈ left,
      here.1 ≤ character.toNat ∧ character.toNat ≤ here.2 := by
    simpa [inRanges] using inside
  rw [inRanges, List.any_eq_false]
  intro there other
  have gap := List.all_eq_true.1 (List.all_eq_true.1 apart here member) there other
  simp only [Bool.or_eq_true, decide_eq_true_eq] at gap
  simp only [Bool.and_eq_true, decide_eq_true_eq]
  omega

theorem not_isAlpha_of_isBlank {character : Char} (blank : isBlank character = true) :
    character.isAlpha = false := by
  rw [← Bool.not_eq_true]
  intro alpha
  have range : 65 ≤ character.toNat ∧ character.toNat ≤ 90 ∨
      97 ≤ character.toNat ∧ character.toNat ≤ 122 := by
    rcases Bool.or_eq_true_iff.1 alpha with upper | lower
    · exact .inl (of_decide_eq_true upper)
    · have bounds := Bool.and_eq_true_iff.1 lower
      exact .inr ⟨of_decide_eq_true bounds.1, of_decide_eq_true bounds.2⟩
  simp only [isBlank, inRanges, blankRanges, List.any_cons, List.any_nil, Bool.or_false,
    Bool.or_eq_true, Bool.and_eq_true, decide_eq_true_eq] at blank
  omega

theorem not_isDigit_of_isBlank {character : Char} (blank : isBlank character = true) :
    character.isDigit = false := by
  rw [← Bool.not_eq_true]
  intro digit
  rw [UnitExpression.isBlank_of_isDigit digit] at blank
  cases blank

/-- No blank is a letter or a numeral. -/
theorem not_isLetterOrNumeral_of_isBlank {character : Char}
    (blank : isBlank character = true) : isLetterOrNumeral character = false := by
  have letters : inRanges letterRanges character = false :=
    not_inRanges_of_apart (by decide +kernel) blank
  have numerals : inRanges numeralRanges character = false :=
    not_inRanges_of_apart (by decide +kernel) blank
  rw [isLetterOrNumeral, isLetter, isNumeral, letters, numerals,
    not_isAlpha_of_isBlank blank, not_isDigit_of_isBlank blank, Bool.and_false]
  rfl

end Text

namespace Text

/-- Blanks after a text that ends in none are trimmed. -/
theorem trimEnd_append {text gap : List Char}
    (solid : ∀ character ∈ text.getLast?, isBlank character = false)
    (blanks : ∀ character ∈ gap, isBlank character = true) : trimEnd (text ++ gap) = text := by
  rw [trimEnd, List.reverse_append,
    List.dropWhile_append_of_pos fun character member =>
      blanks character (List.mem_reverse.1 member)]
  cases ended : text.reverse with
  | nil => exact (List.reverse_eq_nil_iff.1 ended).symm
  | cons character rest =>
      have final : text.getLast? = some character := by
        rw [← List.head?_reverse, ended]
        rfl
      rw [List.dropWhile_cons_of_neg (by simp [solid character final]), ← ended,
        List.reverse_reverse]

end Text

namespace Formula

variable {α : Type}

theorem not_isNameCharacter_of_isBlank {character : Char}
    (blank : Text.isBlank character = true) : isNameCharacter character = false := by
  have mark : character ≠ '_' := by
    rintro rfl
    cases blank
  rw [isNameCharacter, Text.not_isLetterOrNumeral_of_isBlank blank, decide_eq_false mark]
  rfl

/-- Nothing, or a text that starts with a blank. -/
def Separated (text : List Char) : Prop :=
  ∀ character ∈ text.head?, Text.isBlank character = true

theorem separated_nil : Separated [] :=
  nofun

/-- What is true of no blank is not true of the start of a separated text. -/
theorem Separated.not_head {text : List Char} (separated : Separated text)
    {test : Char → Bool} (solid : ∀ character, Text.isBlank character = true →
      test character = false) : ∀ character ∈ text.head?, test character = false :=
  fun character starts => solid character (separated character starts)

/-! ## Characters of one token -/

/-- Characters that a test holds of are taken up to where it fails. -/
theorem takeWhile_append_stop {test : Char → Bool} {word other : List Char}
    (holds : ∀ character ∈ word, test character = true)
    (stops : ∀ character ∈ other.head?, test character = false) :
    (word ++ other).takeWhile test = word ∧ (word ++ other).dropWhile test = other := by
  rw [List.takeWhile_append_of_pos holds, List.dropWhile_append_of_pos holds]
  cases other with
  | nil => simp
  | cons character rest =>
      have fails := stops character rfl
      simp [fails]

/-- A scanner takes a body off a text, with no blank at its end, and the same off every
separated text. -/
def TakesOff (scanner : List Char → Scan α) (text : List Char) (token : Token α)
    (after : List Char) : Prop :=
  ∃ body, text = body ++ after ∧
    (∀ character ∈ body.getLast?, Text.isBlank character = false) ∧
    ∀ other, Separated other → scanner (body ++ other) = .ok (token, other)

section Scanning

variable {second : Char} {token : Token α} {text after : List Char}

theorem takesOff_nil {scanner : List Char → Scan α}
    (scans : ∀ other, Separated other → scanner other = .ok (token, other)) :
    TakesOff scanner after token after :=
  ⟨[], rfl, nofun, scans⟩

/-- The second character of a pair is taken only if it follows at once. -/
theorem takesOff_scanPair (solid : Text.isBlank second = false) {double : Token α}
    {single : Option (Token α)}
    (scanned : scanPair second double single text = .ok (token, after)) :
    TakesOff (scanPair second double single) text token after := by
  have both : TakesOff (scanPair second double single) (second :: after) double after := by
    refine ⟨[second], rfl, ?_, fun other _ => ?_⟩
    · rintro character ⟨⟩
      exact solid
    · cases single <;> simp [scanPair]
  have alone {token : Token α} :
      TakesOff (scanPair second double (some token)) after token after := by
    refine takesOff_nil fun other separated => ?_
    cases other with
    | nil => rfl
    | cons next rest =>
        have apart : next ≠ second := by
          rintro rfl
          rw [separated next rfl] at solid
          cases solid
        simp [scanPair, apart]
  unfold scanPair at scanned
  split at scanned
  · split at scanned
    · next same =>
        cases scanned
        rw [same]
        exact both
    · cases scanned
      exact alone
  · split at scanned
    · next same =>
        cases scanned
        rw [same]
        exact both
    · cases scanned
  · cases scanned
    exact alone
  · cases scanned

/-- What is taken up to a closing mark does not depend on what follows it. -/
theorem takeDelimited_eq_ok {opening closing : Char} {distance : Nat} {inside : List Char}
    (taken : (takeDelimited opening closing distance text : Except (Nat × Problem α) _) =
      .ok (inside, after)) :
    text = inside ++ closing :: after ∧
      ∀ other, (takeDelimited opening closing distance (inside ++ closing :: other) :
        Except (Nat × Problem α) _) = .ok (inside, other) := by
  induction text generalizing distance inside with
  | nil => cases taken
  | cons character rest ih =>
      rw [takeDelimited] at taken
      split at taken
      · next closes =>
          cases taken
          refine ⟨by rw [closes, List.nil_append], fun other => ?_⟩
          rw [List.nil_append, takeDelimited, if_pos rfl]
      · next goesOn =>
          split at taken
          · cases taken
          · next plain =>
              split at taken
              · cases taken
              · next found =>
                  cases taken
                  obtain ⟨same, anywhere⟩ := ih found
                  refine ⟨congrArg (character :: ·) same, fun other => ?_⟩
                  rw [List.cons_append, takeDelimited, if_neg goesOn, if_neg plain, anywhere]

theorem getLast?_delimited {inside : List Char} {closing : Char}
    (solid : Text.isBlank closing = false) :
    ∀ character ∈ (inside ++ [closing]).getLast?, Text.isBlank character = false := by
  rw [List.getLast?_concat]
  rintro character ⟨⟩
  exact solid

theorem takesOff_scanUnitTag (scanned : scanUnitTag text = .ok (token, after)) :
    TakesOff scanUnitTag text token after := by
  unfold scanUnitTag at scanned
  split at scanned
  · cases scanned
  · next inside _ taken =>
      cases scanned
      obtain ⟨same, anywhere⟩ := takeDelimited_eq_ok taken
      refine ⟨inside ++ ['}'], by simp [same], getLast?_delimited (by decide), ?_⟩
      intro other _
      rw [List.append_assoc, List.singleton_append, scanUnitTag, anywhere]

theorem takesOff_scanReference (scanned : scanReference text = .ok (token, after)) :
    TakesOff scanReference text token after := by
  unfold scanReference at scanned
  split at scanned
  · cases scanned
  · next inside _ taken =>
      dsimp only at scanned
      split at scanned
      · cases scanned
      · next filled =>
          cases scanned
          obtain ⟨same, anywhere⟩ := takeDelimited_eq_ok taken
          refine ⟨inside ++ [']'], by simp [same], getLast?_delimited (by decide), ?_⟩
          intro other _
          rw [List.append_assoc, List.singleton_append, scanReference, anywhere]
          dsimp only
          rw [if_neg filled]

theorem takesOff_scanIdentifier {first : Char}
    (scanned : scanIdentifier first text = .ok (token, after)) :
    TakesOff (scanIdentifier first) text token after := by
  cases scanned
  have named : ∀ character ∈ text.takeWhile isNameCharacter, isNameCharacter character = true :=
    fun _ => List.mem_takeWhile_imp
  refine ⟨text.takeWhile isNameCharacter, List.takeWhile_append_dropWhile.symm, ?_, ?_⟩
  · intro character last
    rw [← Bool.not_eq_true]
    intro blank
    have name := named character (List.mem_of_getLast? last)
    rw [not_isNameCharacter_of_isBlank blank] at name
    cases name
  · intro other separated
    obtain ⟨taken, left⟩ := takeWhile_append_stop named
      (separated.not_head fun _ => not_isNameCharacter_of_isBlank)
    rw [scanIdentifier, taken, left]

end Scanning

/-! ## Numbers -/

/-- The characters of a number, none of which is blank. -/
def IsNumeric (character : Char) : Prop :=
  character.isDigit = true ∨ character ∈ ['.', 'e', 'E', '+', '-']

theorem IsNumeric.solid {character : Char} (numeric : IsNumeric character) :
    Text.isBlank character = false := by
  rcases numeric with digit | mark
  · exact UnitExpression.isBlank_of_isDigit digit
  · have solid : (['.', 'e', 'E', '+', '-'].all (!Text.isBlank ·)) = true := by decide
    simpa using List.all_eq_true.1 solid character mark

theorem isNumeric_of_mem_takeWhile {character : Char} {text : List Char}
    (member : character ∈ text.takeWhile Char.isDigit) : IsNumeric character :=
  .inl (List.mem_takeWhile_imp member)

theorem isDigit_of_mem_takeWhile (text : List Char) :
    ∀ character ∈ text.takeWhile Char.isDigit, character.isDigit = true :=
  fun _ => List.mem_takeWhile_imp

/-- A mantissa goes up to where neither a digit nor a point follows. -/
theorem takeMantissa_eq {text mantissa after : List Char}
    (taken : takeMantissa text = (mantissa, after)) :
    text = mantissa ++ after ∧ (∀ character ∈ mantissa, IsNumeric character) ∧
      ∀ other, (∀ character ∈ other.head?, character.isDigit = false ∧ character ≠ '.') →
        takeMantissa (mantissa ++ other) = (mantissa, other) := by
  have whole := isDigit_of_mem_takeWhile text
  have parts := List.takeWhile_append_dropWhile (p := Char.isDigit) (l := text)
  unfold takeMantissa at taken
  split at taken
  · next rest found =>
      cases taken
      have fraction := isDigit_of_mem_takeWhile rest
      refine ⟨?_, ?_, fun other stops => ?_⟩
      · rw [List.append_assoc, List.cons_append, List.takeWhile_append_dropWhile, ← found, parts]
      · intro character member
        rcases List.mem_append.1 member with front | back
        · exact isNumeric_of_mem_takeWhile front
        · rcases List.mem_cons.1 back with rfl | back
          · exact .inr (by decide)
          · exact isNumeric_of_mem_takeWhile back
      · have point : ∀ character ∈ ('.' :: (rest.takeWhile Char.isDigit ++ other)).head?,
            character.isDigit = false := by
          rintro character ⟨⟩
          decide
        obtain ⟨front, later⟩ := takeWhile_append_stop whole point
        obtain ⟨back, left⟩ := takeWhile_append_stop fraction fun character starts =>
          (stops character starts).1
        rw [List.append_assoc, List.cons_append, takeMantissa, later, front]
        exact congrArg₂ (fun digits left => (text.takeWhile Char.isDigit ++ '.' :: digits, left))
          back left
  · next rest pointless =>
      cases taken
      refine ⟨parts.symm, fun _ => isNumeric_of_mem_takeWhile, fun other stops => ?_⟩
      obtain ⟨front, later⟩ := takeWhile_append_stop whole fun character starts =>
        (stops character starts).1
      rw [takeMantissa, later, front]
      split
      · next rest => exact absurd rfl (stops '.' rfl).2
      · rfl

theorem takeExponentSign_eq (text : List Char) :
    text = (takeExponentSign text).1 ++ (takeExponentSign text).2 ∧
      (∀ character ∈ (takeExponentSign text).1, IsNumeric character) ∧
      ∀ other, (∀ character ∈ other.head?, character.isDigit = true) →
        takeExponentSign ((takeExponentSign text).1 ++ other) =
          ((takeExponentSign text).1, other) := by
  unfold takeExponentSign
  split
  · refine ⟨rfl, ?_, fun _ _ => rfl⟩
    rintro character member
    exact .inr (by simp_all)
  · refine ⟨rfl, ?_, fun _ _ => rfl⟩
    rintro character member
    exact .inr (by simp_all)
  · refine ⟨rfl, nofun, fun other digit => ?_⟩
    rw [List.nil_append]
    split
    · exact absurd (digit '+' rfl) (by decide)
    · exact absurd (digit '-' rfl) (by decide)
    · rfl

/-- An exponent is taken with its sign and digits or not at all. -/
theorem takeExponent_eq {text exponent after : List Char}
    (taken : takeExponent text = (exponent, after)) :
    text = exponent ++ after ∧ (∀ character ∈ exponent, IsNumeric character) ∧
      (∀ character ∈ exponent.head?, character = 'e' ∨ character = 'E') ∧
      ∀ other, Separated other → takeExponent (exponent ++ other) = (exponent, other) := by
  have nothing (text : List Char) : text = [] ++ text ∧
      (∀ character ∈ ([] : List Char), IsNumeric character) ∧
      (∀ character ∈ ([] : List Char).head?, character = 'e' ∨ character = 'E') ∧
      ∀ other, Separated other → takeExponent ([] ++ other) = ([], other) := by
    refine ⟨rfl, nofun, nofun, fun other separated => ?_⟩
    cases other with
    | nil => rfl
    | cons character rest =>
        have blank := separated character rfl
        have unmarked : ¬(character = 'e' ∨ character = 'E') := by
          rintro (rfl | rfl) <;> cases blank
        rw [List.nil_append, takeExponent, if_neg unmarked]
  unfold takeExponent at taken
  split at taken
  · cases taken
    exact nothing _
  · next mark rest =>
      split at taken
      · next marked =>
          dsimp only at taken
          obtain ⟨same, signed, anywhere⟩ := takeExponentSign_eq rest
          split at taken
          · cases taken
            exact nothing _
          · next filled =>
              cases taken
              generalize (takeExponentSign rest).1 = sign at *
              generalize (takeExponentSign rest).2 = digits at *
              have numeric := isDigit_of_mem_takeWhile digits
              refine ⟨?_, ?_, ?_, fun other separated => ?_⟩
              · rw [same, List.cons_append, List.cons_append, List.append_assoc,
                  List.takeWhile_append_dropWhile]
              · intro character member
                rcases List.mem_cons.1 member with rfl | member
                · exact .inr (by rcases marked with rfl | rfl <;> decide)
                · rcases List.mem_append.1 member with front | back
                  · exact signed character front
                  · exact isNumeric_of_mem_takeWhile back
              · rintro character ⟨⟩
                exact marked
              · obtain ⟨front, left⟩ := takeWhile_append_stop numeric
                  (separated.not_head fun _ => Text.not_isDigit_of_isBlank)
                have starts : ∀ character ∈ (digits.takeWhile Char.isDigit ++ other).head?,
                    character.isDigit = true := by
                  cases word : digits.takeWhile Char.isDigit with
                  | nil => exact absurd (List.isEmpty_iff.2 word) filled
                  | cons first others =>
                      rintro character ⟨⟩
                      exact numeric _ (word ▸ List.mem_cons_self)
                rw [List.cons_append, List.cons_append, List.append_assoc, takeExponent,
                  if_pos marked]
                dsimp only
                rw [anywhere _ starts, front, left, if_neg filled]
                rfl
      · cases taken
        exact nothing _


section Words

variable [Scalar α] {token : Token α} {first : Char} {text after : List Char}

theorem takesOff_scanNumber (scanned : scanNumber text = .ok (token, after)) :
    TakesOff scanNumber text token after := by
  rcases taken : takeMantissa text with ⟨mantissa, afterMantissa⟩
  rcases takenNext : takeExponent afterMantissa with ⟨exponent, left⟩
  obtain ⟨whole, numeric, mantissaStands⟩ := takeMantissa_eq taken
  obtain ⟨later, exponentNumeric, marked, exponentStands⟩ := takeExponent_eq takenNext
  rw [scanNumber, taken] at scanned
  dsimp only at scanned
  rw [takenNext] at scanned
  dsimp only at scanned
  split at scanned
  · next numeral reads =>
      cases scanned
      refine ⟨mantissa ++ exponent, ?_, ?_, fun other separated => ?_⟩
      · rw [List.append_assoc, ← later, ← whole]
      · intro character last
        rcases List.mem_append.1 (List.mem_of_getLast? last) with front | back
        · exact (numeric character front).solid
        · exact (exponentNumeric character back).solid
      · -- An exponent or a blank comes after the mantissa, so neither a digit nor a point.
        have stops : ∀ character ∈ (exponent ++ other).head?,
            character.isDigit = false ∧ character ≠ '.' := by
          intro character starts
          cases exponent with
          | nil =>
              have blank := separated character starts
              exact ⟨Text.not_isDigit_of_isBlank blank, by rintro rfl; cases blank⟩
          | cons mark rest =>
              cases starts
              rcases marked character rfl with rfl | rfl <;> decide
        rw [List.append_assoc, scanNumber, mantissaStands _ stops]
        dsimp only
        rw [exponentStands other separated]
        dsimp only
        rw [reads]
  · cases scanned

theorem takesOff_scanWord (scanned : scanWord first text = .ok (token, after)) :
    TakesOff (scanWord first) text token after := by
  unfold scanWord at scanned
  split at scanned
  · next starts =>
      obtain ⟨word, same, solid, anywhere⟩ := takesOff_scanNumber scanned
      cases word with
      | nil => cases anywhere [] separated_nil
      | cons character body =>
          rw [List.cons_append] at same
          obtain ⟨rfl, rfl⟩ := List.cons.inj same
          refine ⟨body, rfl, fun last ends => solid last ?_, fun other separated => ?_⟩
          · rw [List.getLast?_cons, Option.mem_def.1 ends]
            rfl
          · rw [scanWord, if_pos starts]
            exact anywhere other separated
  · next noNumber =>
      split at scanned
      · next names =>
          obtain ⟨body, same, solid, anywhere⟩ := takesOff_scanIdentifier scanned
          refine ⟨body, same, solid, fun other separated => ?_⟩
          rw [scanWord, if_neg noNumber, if_pos names]
          exact anywhere other separated
      · cases scanned

theorem takesOff_scanLong (scanned : scanLong first text = .ok (token, after)) :
    TakesOff (scanLong first) text token after := by
  have unlisted (plain : scanLong first = scanWord (α := α) first) :
      TakesOff (scanLong first) text token after := by
    rw [plain] at scanned ⊢
    exact takesOff_scanWord scanned
  unfold scanLong at scanned
  split at scanned
  · exact takesOff_scanPair (by decide) scanned
  · exact takesOff_scanPair (by decide) scanned
  · exact takesOff_scanPair (by decide) scanned
  · exact takesOff_scanPair (by decide) scanned
  · exact takesOff_scanPair (by decide) scanned
  · exact takesOff_scanPair (by decide) scanned
  · exact takesOff_scanUnitTag scanned
  · exact takesOff_scanReference scanned
  · refine unlisted (funext fun rest => ?_)
    unfold scanLong
    split <;> first | rfl | contradiction

/-- A token takes its own characters and no other, whatever blank follows them. -/
theorem takesOff_scan (scanned : scan first text = .ok (token, after)) :
    TakesOff (scan first) text token after := by
  unfold scan at scanned
  split at scanned
  · next marks =>
      cases scanned
      refine takesOff_nil fun other _ => ?_
      rw [scan, marks]
  · next long =>
      have same : scan first = scanLong (α := α) first := by
        funext rest
        rw [scan, long]
      rw [same]
      exact takesOff_scanLong scanned

end Words

end Formula

end Metrology
