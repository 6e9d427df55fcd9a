import Metrology.Proofs.Scanning

/-!
# Words of formulas

A token hangs on nothing but its own characters: they are the same token when they stand
alone and when blanks are put around them.  So a formula is a row of words with blanks
between some of them, and its tokens are those of its words.
-/

namespace Metrology.Formula

variable {α : Type} [Scalar α]

/-! ## Rows of words -/

/-- A word that stands for a token wherever nothing but a blank follows it. -/
structure Word (α : Type) [Scalar α] where
  first : Char
  body : List Char
  token : Token α
  bare : Text.Bare (first :: body)
  scans : ∀ after, Separated after → scan first (body ++ after) = .ok (token, after)

namespace Word

def text (word : Word α) : List Char :=
  word.first :: word.body

theorem bare_text (word : Word α) : Text.Bare word.text :=
  word.bare

theorem token_ne_stop (word : Word α) : word.token ≠ .stop :=
  scan_ne_stop (word.scans [] separated_nil)

theorem not_isBlank_first (word : Word α) : Text.isBlank word.first = false :=
  word.bare.first _ rfl

/-- A word is the first token of a text that starts with it, and the rest goes on from
there. -/
theorem tokensFrom_append (word : Word α) (position : Nat) {after : List Char}
    (separated : Separated after) :
    tokensFrom position (word.text ++ after) =
      (tokensFrom (position + word.text.length) after).map (⟨word.token, position⟩ :: ·) := by
  have distance : (word.body ++ after).length + 1 - after.length = word.text.length := by
    rw [text, List.length_append, List.length_cons]
    omega
  have opens : ¬Text.isBlank word.first = true := by
    rw [word.not_isBlank_first]
    exact Bool.false_ne_true
  change tokensFrom position (word.first :: (word.body ++ after)) = _
  rw [tokensFrom, if_neg opens]
  split
  · next fails =>
      rw [word.scans after separated] at fails
      cases fails
  · next token left succeeds =>
      rw [word.scans after separated] at succeeds
      cases succeeds
      rw [distance]
      cases (tokensFrom (position + word.text.length) after : Except (Fault α) _) <;> rfl

end Word

theorem exists_word {first : Char} {text after : List Char} {token : Token α}
    (opens : Text.isBlank first = false) (scanned : scan first text = .ok (token, after)) :
    ∃ word : Word α, word.token = token ∧ first :: text = word.text ++ after := by
  obtain ⟨body, rfl, solid, scans⟩ := takesOff_scan scanned
  refine ⟨⟨first, body, token, ⟨List.cons_ne_nil _ _, ?_, ?_⟩, scans⟩, rfl, rfl⟩
  · rintro character ⟨⟩
    exact opens
  · intro character last
    cases body with
    | nil =>
        cases last
        exact opens
    | cons next rest => exact solid character last

/-- Words and blanks in a row, with the lexemes that they come to from a position on. -/
inductive Row : Nat → List Char → List (Word α) → List (Lexeme α) → Prop where
  | stop (position : Nat) : Row position [] [] [⟨.stop, position⟩]
  | blank {position : Nat} {character : Char} {text : List Char} {words : List (Word α)}
      {lexemes : List (Lexeme α)} (blank : Text.isBlank character = true)
      (later : Row (position + 1) text words lexemes) :
      Row position (character :: text) words lexemes
  | word {position : Nat} (word : Word α) {text : List Char} {words : List (Word α)}
      {lexemes : List (Lexeme α)} (later : Row (position + word.text.length) text words lexemes) :
      Row position (word.text ++ text) (word :: words) (⟨word.token, position⟩ :: lexemes)

/-- Every text that has tokens is a row of words. -/
theorem exists_row {position : Nat} {text : List Char} {lexemes : List (Lexeme α)}
    (tokenizes : tokensFrom position text = .ok lexemes) :
    ∃ words, Row position text words lexemes := by
  fun_induction @tokensFrom α _ position text generalizing lexemes with
  | case1 position =>
      cases tokenizes
      exact ⟨[], .stop position⟩
  | case2 position first rest blank ih =>
      obtain ⟨words, row⟩ := ih tokenizes
      exact ⟨words, .blank blank row⟩
  | case3 => cases tokenizes
  | case4 => cases tokenizes
  | case5 position first rest solid token after scanned others found ih =>
      cases tokenizes
      obtain ⟨words, row⟩ := ih found
      obtain ⟨word, rfl, same⟩ := exists_word (Bool.eq_false_iff.2 solid) scanned
      have distance : rest.length + 1 - after.length = word.text.length := by
        have lengths := congrArg List.length same
        rw [List.length_cons, List.length_append] at lengths
        omega
      rw [distance] at row
      rw [same]
      exact ⟨word :: words, .word word row⟩

/-- The part of a text from one lexeme to the next, without the blanks at its end. -/
def slice (text : List Char) (lexeme next : Lexeme α) : List Char :=
  Text.trimEnd ((text.take next.position).drop lexeme.position)

/-- The part of a text that belongs to each lexeme but the last. -/
def slices (text : List Char) (lexemes : List (Lexeme α)) : List (List Char) :=
  lexemes.zipWith (slice text) lexemes.tail

namespace Row

variable {position : Nat} {text : List Char} {words : List (Word α)} {lexemes : List (Lexeme α)}

theorem tokens_eq (row : Row position text words lexemes) :
    lexemes.map (·.token) = words.map (·.token) ++ [.stop] := by
  induction row with
  | stop position => rfl
  | blank _ _ ih => exact ih
  | word word _ ih => rw [List.map_cons, ih, List.map_cons, List.cons_append]

theorem getLast?_eq (row : Row position text words lexemes) :
    lexemes.getLast? = some ⟨.stop, position + text.length⟩ := by
  induction row with
  | stop position => rfl
  | blank _ _ ih =>
      rw [ih, List.length_cons]
      congr 2
      omega
  | word word later ih =>
      rw [List.getLast?_cons, ih, List.length_append, Nat.add_assoc]
      rfl

theorem position_le (row : Row position text words lexemes) :
    ∀ lexeme ∈ lexemes, position ≤ lexeme.position := by
  induction row with
  | stop position => simp
  | blank _ _ ih => exact fun lexeme member => Nat.le_of_succ_le (ih lexeme member)
  | word word _ ih =>
      intro lexeme member
      rcases List.mem_cons.1 member with rfl | later
      · exact Nat.le_refl _
      · exact Nat.le_of_add_right_le (ih lexeme later)

/-- Lexemes start at ever greater positions. -/
theorem increasing (row : Row position text words lexemes) :
    lexemes.Pairwise (·.position < ·.position) := by
  induction row with
  | stop position => exact List.pairwise_singleton _ _
  | blank _ _ ih => exact ih
  | word word later ih =>
      refine List.pairwise_cons.2 ⟨fun lexeme member => ?_, ih⟩
      have after := later.position_le lexeme member
      rw [Word.text, List.length_cons] at after
      dsimp only
      omega

/-- The first lexeme comes after the blanks. -/
theorem exists_first (row : Row position text words lexemes) :
    ∃ gap after lexeme rest, (∀ character ∈ gap, Text.isBlank character = true) ∧
      text = gap ++ after ∧ lexemes = lexeme :: rest ∧
      lexeme.position = position + gap.length := by
  induction row with
  | stop position => exact ⟨[], [], _, [], nofun, rfl, rfl, rfl⟩
  | @blank position character text words lexemes blank _ ih =>
      obtain ⟨gap, after, lexeme, rest, blanks, same, starts, placed⟩ := ih
      refine ⟨character :: gap, after, lexeme, rest, ?_, ?_, starts, ?_⟩
      · intro other member
        rcases List.mem_cons.1 member with rfl | later
        · exact blank
        · exact blanks other later
      · rw [same, List.cons_append]
      · rw [placed, List.length_cons]
        omega
  | word word _ _ => exact ⟨[], _, _, _, nofun, rfl, rfl, rfl⟩

/-- The part of a text from one lexeme to the next is the word of the lexeme. -/
theorem slices_eq (row : Row position text words lexemes) (front : List Char)
    (placed : front.length = position) :
    slices (front ++ text) lexemes = words.map Word.text := by
  induction row generalizing front with
  | stop position => rfl
  | @blank position character text words lexemes blank _ ih =>
      have shifted := ih (front ++ [character]) (by rw [List.length_append, placed]; rfl)
      rwa [List.append_assoc, List.singleton_append] at shifted
  | @word position word text words lexemes later ih =>
      have shifted := ih (front ++ word.text) (by rw [List.length_append, placed])
      obtain ⟨gap, after, next, rest, blanks, rfl, rfl, starts⟩ := later.exists_first
      rw [List.append_assoc] at shifted
      have upTo : (front ++ (word.text ++ (gap ++ after))).take next.position =
          front ++ (word.text ++ gap) := by
        rw [← List.append_assoc word.text, ← List.append_assoc front]
        apply List.take_left'
        rw [List.length_append, List.length_append, placed, starts, Nat.add_assoc]
      have here : slice (front ++ (word.text ++ (gap ++ after))) ⟨word.token, position⟩ next =
          word.text := by
        rw [slice, upTo, List.drop_left' placed, Text.trimEnd_append word.bare_text.last blanks]
      rw [List.map_cons, ← shifted]
      exact congrArg (· :: _) here

/-- Every lexeme but the last is a word of the row. -/
theorem exists_word_at (row : Row position text words lexemes) (front : List Char)
    (placed : front.length = position) (index : Nat) (short : index + 1 < lexemes.length) :
    ∃ word : Word α, word.token = lexemes[index].token ∧
      word.text = slice (front ++ text) lexemes[index] lexemes[index + 1] := by
  have lengths := congrArg List.length row.tokens_eq
  rw [List.length_map, List.length_append, List.length_map, List.length_singleton] at lengths
  have within : index < words.length := by omega
  have tokens := List.getElem_of_eq row.tokens_eq (i := index)
    (by rw [List.length_map]; exact Nat.lt_of_succ_lt short)
  have parts := List.getElem_of_eq (row.slices_eq front placed).symm (i := index)
    (by rw [List.length_map]; exact within)
  refine ⟨words[index], ?_, ?_⟩
  · rw [List.getElem_map, List.getElem_append_left (by rwa [List.length_map]),
      List.getElem_map] at tokens
    exact tokens.symm
  · simpa only [slices, List.getElem_zipWith, List.getElem_tail, List.getElem_map] using parts

end Row

/-! ## Words put together anew -/

theorem tokensFrom_blanks {gap : List Char}
    (blanks : ∀ character ∈ gap, Text.isBlank character = true) (position : Nat) (text : List Char) :
    (tokensFrom position (gap ++ text) : Except (Fault α) _) =
      tokensFrom (position + gap.length) text := by
  induction gap generalizing position with
  | nil => rfl
  | cons character gap ih =>
      rw [List.cons_append, tokensFrom, if_pos (blanks character List.mem_cons_self),
        ih fun other member => blanks other (List.mem_cons_of_mem _ member), List.length_cons,
        Nat.add_assoc, Nat.add_comm 1]

/-- Words joined by gaps, where a gap has the number of the words after it. -/
def joined (gap : Nat → List Char) : List (List Char) → List Char
  | [] => []
  | [word] => word
  | word :: other :: rest => word ++ (gap rest.length ++ joined gap (other :: rest))

/-- Words joined by blanks come to their own tokens. -/
theorem tokens_of_joined {gap : Nat → List Char} (apart : ∀ index, gap index ≠ [])
    (blanks : ∀ index, ∀ character ∈ gap index, Text.isBlank character = true)
    (words : List (Word α)) (position : Nat) :
    ∃ lexemes, tokensFrom position (joined gap (words.map Word.text)) = .ok lexemes ∧
      lexemes.map (·.token) = words.map (·.token) ++ [.stop] := by
  induction words generalizing position with
  | nil => exact ⟨[⟨.stop, position⟩], by rw [List.map_nil, joined, tokensFrom], rfl⟩
  | cons word rest ih =>
      cases rest with
      | nil =>
          have alone := word.tokensFrom_append position separated_nil
          rw [List.append_nil, tokensFrom] at alone
          exact ⟨_, alone, rfl⟩
      | cons other rest =>
          obtain ⟨lexemes, tokenizes, same⟩ := ih
            (position + word.text.length + (gap (rest.map Word.text).length).length)
          rw [List.map_cons] at tokenizes
          have separated : Separated (gap (rest.map Word.text).length ++
              joined gap (other.text :: rest.map Word.text)) := by
            intro character starts
            obtain ⟨first, others, shape⟩ :=
              List.exists_cons_of_ne_nil (apart (rest.map Word.text).length)
            rw [shape] at starts
            cases starts
            exact blanks _ _ (shape ▸ List.mem_cons_self)
          refine ⟨⟨word.token, position⟩ :: lexemes, ?_, by rw [List.map_cons, same]; rfl⟩
          rw [List.map_cons, List.map_cons, joined, word.tokensFrom_append position separated,
            tokensFrom_blanks (blanks _), tokenizes]
          rfl

/-- A text comes to lexemes that hang on nothing but their own characters. -/
structure TokenizesLocally (text : List Char) (lexemes : List (Lexeme α)) : Prop where
  increasing : lexemes.Pairwise (·.position < ·.position)
  ends : ∃ before, lexemes = before ++ [⟨.stop, text.length⟩] ∧
    ∀ lexeme ∈ before, lexeme.token ≠ .stop
  /-- The part of the text that belongs to a lexeme is that lexeme by itself. -/
  alone : ∀ index, (short : index + 1 < lexemes.length) →
    let word := slice text lexemes[index] lexemes[index + 1]
    tokenize (String.ofList word) = .ok [⟨lexemes[index].token, 0⟩, ⟨.stop, word.length⟩]
  /-- The same tokens come of these parts with any blanks between them. -/
  rejoined : ∀ gap : Nat → List Char, (∀ index, gap index ≠ []) →
    (∀ index, ∀ character ∈ gap index, Text.isBlank character = true) →
    ∃ others : List (Lexeme α),
      tokenize (String.ofList (joined gap (slices text lexemes))) = .ok others ∧
        others.map (·.token) = lexemes.map (·.token)

/-- Every formula that has tokens comes to them locally: each hangs on nothing but its own
characters, and blanks between them change nothing. -/
theorem tokenizesLocally_of_tokenize {formula : String} {lexemes : List (Lexeme α)}
    (tokenizes : tokenize formula = .ok lexemes) :
    TokenizesLocally formula.toList lexemes := by
  obtain ⟨words, row⟩ := exists_row tokenizes
  have parts : slices formula.toList lexemes = words.map Word.text := row.slices_eq [] rfl
  refine ⟨row.increasing, ?_, ?_, ?_⟩
  · obtain ⟨before, last⟩ := List.getLast?_eq_some_iff.1 row.getLast?_eq
    rw [Nat.zero_add] at last
    refine ⟨before, last, fun lexeme member stops => ?_⟩
    have same := row.tokens_eq
    rw [last, List.map_append, List.map_singleton, List.append_cancel_right_eq] at same
    have among : lexeme.token ∈ words.map (·.token) := same ▸ List.mem_map_of_mem member
    obtain ⟨word, _, token⟩ := List.mem_map.1 among
    exact word.token_ne_stop (token.trans stops)
  · intro index short
    obtain ⟨word, token, part⟩ := row.exists_word_at [] rfl index short
    have alone := word.tokensFrom_append 0 separated_nil
    rw [List.append_nil, tokensFrom, Nat.zero_add] at alone
    dsimp only
    rw [List.nil_append] at part
    rw [← part, ← token, tokenize, String.toList_ofList, alone]
    rfl
  · intro gap apart blanks
    obtain ⟨others, found, same⟩ := tokens_of_joined apart blanks words 0
    refine ⟨others, ?_, same.trans row.tokens_eq.symm⟩
    rw [tokenize, String.toList_ofList, parts]
    exact found

/-- What looks like an exponent is one only with a digit. -/
def exponentLexemes : List (Lexeme ℚ) :=
  [⟨.number 2, 0⟩, ⟨.identifier "e", 1⟩, ⟨.plus, 2⟩, ⟨.number 200000, 4⟩, ⟨.lessOrEqual, 7⟩,
    ⟨.reference "a", 9⟩, ⟨.stop, 14⟩]

theorem tokenizesLocally_of_tokenize_exponents :
    tokenize "2e+ 2e5<=[ a ]" = .ok exponentLexemes ∧
      TokenizesLocally "2e+ 2e5<=[ a ]".toList exponentLexemes :=
  have tokenizes : tokenize "2e+ 2e5<=[ a ]" = .ok exponentLexemes := by decide +kernel
  ⟨tokenizes, tokenizesLocally_of_tokenize tokenizes⟩

example : (slices "2e+ 2e5<=[ a ]".toList exponentLexemes).map String.ofList =
    ["2", "e", "+", "2e5", "<=", "[ a ]"] := by
  decide +kernel

end Metrology.Formula
