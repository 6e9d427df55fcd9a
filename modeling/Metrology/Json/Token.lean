import Metrology.Json.Notation
import Metrology.Json.Spelling

/-!
# JSON tokens

The words of JSON text: marks, and the values that need no nesting.  Each step
takes one token off the text, so that what is left is shorter.
-/

namespace Metrology.Json

inductive Token where
  | openBrace
  | closeBrace
  | openBracket
  | closeBracket
  | colon
  | comma
  /-- A string, with its text unless half of a character stands alone in it. -/
  | string (text : Option String)
  /-- Any other value that is not a container. -/
  | atom (value : Json)
  deriving Repr

/-- The blanks between tokens. -/
def isBlank (character : Char) : Bool :=
  character = ' ' || character = '\t' || character = '\n' || character = '\r'

/-- A word that is spelled out, after its first letter. -/
def takeWord (letters : List Char) (value : Json) (rest : List Char) :
    Option (Token × List Char) :=
  if rest.take letters.length = letters then some (.atom value, rest.drop letters.length)
  else none

/-- A string after its opening quote. -/
def takeQuoted (rest : List Char) : Option (Token × List Char) :=
  (takeString rest).map fun (pieces, after) =>
    (.string ((characters? pieces).map String.ofList), after)

/-- The token that starts with a character, and the text after it. -/
def takeToken (character : Char) (rest : List Char) : Option (Token × List Char) :=
  match character with
  | '{' => some (.openBrace, rest)
  | '}' => some (.closeBrace, rest)
  | '[' => some (.openBracket, rest)
  | ']' => some (.closeBracket, rest)
  | ':' => some (.colon, rest)
  | ',' => some (.comma, rest)
  | '"' => takeQuoted rest
  | 't' => takeWord ['r', 'u', 'e'] (.bool true) rest
  | 'f' => takeWord ['a', 'l', 's', 'e'] (.bool false) rest
  | 'n' => takeWord ['u', 'l', 'l'] .null rest
  | other => (takeNumber (other :: rest)).map fun (value, after) =>
      (.atom value, after)

/-! ## Progress -/

theorem length_after_takeWord {letters rest after : List Char} {value : Json}
    {token : Token} (taken : takeWord letters value rest = some (token, after)) :
    after.length ≤ rest.length := by
  unfold takeWord at taken
  split at taken
  · injection taken with equal
    injection equal with _ equal
    subst equal
    rw [List.length_drop]
    exact Nat.sub_le _ _
  · injection taken

theorem length_after_takeQuoted {rest after : List Char} {token : Token}
    (taken : takeQuoted rest = some (token, after)) : after.length ≤ rest.length := by
  obtain ⟨⟨pieces, others⟩, string, equal⟩ := Option.map_eq_some_iff.mp taken
  injection equal with _ equal
  subst equal
  exact Nat.le_of_lt (length_after_takeString string)

/-- Taking a token leaves no more than what follows its first character. -/
theorem length_after_takeToken {character : Char} {rest after : List Char}
    {token : Token} (taken : takeToken character rest = some (token, after)) :
    after.length ≤ rest.length := by
  unfold takeToken at taken
  split at taken
  case h_7 => exact length_after_takeQuoted taken
  case h_8 => exact length_after_takeWord taken
  case h_9 => exact length_after_takeWord taken
  case h_10 => exact length_after_takeWord taken
  case h_11 =>
      obtain ⟨⟨value, others⟩, number, equal⟩ := Option.map_eq_some_iff.mp taken
      injection equal with _ equal
      subst equal
      exact Nat.le_of_lt_succ (length_after_takeNumber number)
  all_goals
    injection taken with equal
    injection equal with _ equal
    subst equal
    exact Nat.le_refl _

/-! ## Texts -/

/-- The tokens of a text. -/
def tokens? (text : List Char) : Option (List Token) :=
  match text with
  | [] => some []
  | character :: rest =>
      if isBlank character then tokens? rest
      else
        match _taken : takeToken character rest with
        | none => none
        | some (token, after) => (tokens? after).map (token :: ·)
  termination_by text.length
  decreasing_by
    · exact Nat.lt_succ_self _
    · exact Nat.lt_succ_of_le (length_after_takeToken _taken)

end Metrology.Json
