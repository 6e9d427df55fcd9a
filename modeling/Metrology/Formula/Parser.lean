import Metrology.Error
import Metrology.Formula.Expression
import Metrology.Formula.Lexeme

/-!
# Reading formulas

Operators bind, from loosest to tightest: `||`, `&&`, comparisons, `+` and `-`,
`*` and `/`, `^`, and the sign before an operand.  All binary operators group
to the left.

A reader takes a tree off a list of lexemes and returns it with the lexemes
that are left.  The position of the end of the formula is `stop`.
-/

namespace Metrology.Formula

variable {α : Type}

/-- The binary operator that a token stands for. -/
def Token.operator? : Token α → Option Operator
  | .or => some .or
  | .and => some .and
  | .equal => some .equal
  | .notEqual => some .notEqual
  | .less => some .less
  | .greater => some .greater
  | .lessOrEqual => some .lessOrEqual
  | .greaterOrEqual => some .greaterOrEqual
  | .plus => some .add
  | .minus => some .subtract
  | .star => some .multiply
  | .slash => some .divide
  | .caret => some .power
  | _ => none

/-- The next token, or the end. -/
def nextToken : List (Lexeme α) → Token α
  | [] => .stop
  | lexeme :: _ => lexeme.token

/-- The position of the next token, or of the end. -/
def nextPosition (stop : Nat) : List (Lexeme α) → Nat
  | [] => stop
  | lexeme :: _ => lexeme.position

/-- A problem at the next token. -/
def problemAt (stop : Nat) (lexemes : List (Lexeme α)) (problem : Problem α) :
    Fault α :=
  .at (nextPosition stop lexemes) problem

/-- What was read from lexemes, and those that are left. -/
structure Reading (β : Type) (lexemes : List (Lexeme α)) where
  value : β
  rest : List (Lexeme α)
  shorter : rest.length < lexemes.length

/-- What was read from lexemes, or was there before, and those that are left. -/
structure Continuation (β : Type) (lexemes : List (Lexeme α)) where
  value : β
  rest : List (Lexeme α)
  no_longer : rest.length ≤ lexemes.length

namespace Reading

variable {β γ : Type} {lexemes : List (Lexeme α)}

/-- The reading as one of more lexemes. -/
def widen (reading : Reading β lexemes) (more : List (Lexeme α))
    (longer : lexemes.length ≤ more.length) (convert : β → γ) : Reading γ more :=
  ⟨convert reading.value, reading.rest, Nat.lt_of_lt_of_le reading.shorter longer⟩

theorem length_tail_lt (reading : Reading β lexemes) :
    reading.rest.tail.length < lexemes.length := by
  have shorter := reading.shorter
  rw [List.length_tail]
  omega

/-- The reading with one more lexeme taken. -/
def skip (reading : Reading β lexemes) : Reading β lexemes :=
  ⟨reading.value, reading.rest.tail, reading.length_tail_lt⟩

/-- Take a closing parenthesis off what is left. -/
def close (stop : Nat) (reading : Reading β lexemes) :
    Except (Fault α) (Reading β lexemes) :=
  match nextToken reading.rest with
  | .closeParen => .ok reading.skip
  | found => .error (problemAt stop reading.rest (.expected .closeParen found))

end Reading

mutual

/-- Read an operand with the signs before it. -/
def readOperand (stop : Nat) (lexemes : List (Lexeme α)) :
    Except (Fault α) (Reading (Expression α) lexemes) :=
  match lexemes with
  | [] => .error (.at stop .unexpectedEnd)
  | ⟨.minus, _⟩ :: after =>
      match readOperand stop after with
      | .error fault => .error fault
      | .ok operand => .ok (operand.widen _ (Nat.le_succ _) .negate)
  | ⟨.plus, _⟩ :: after =>
      match readOperand stop after with
      | .error fault => .error fault
      | .ok operand => .ok (operand.widen _ (Nat.le_succ _) id)
  | ⟨.number value, _⟩ :: ⟨.unitTag tag, _⟩ :: rest =>
      .ok ⟨.number value (some tag), rest, by simp only [List.length_cons]; omega⟩
  | ⟨.number value, _⟩ :: rest =>
      .ok ⟨.number value none, rest, Nat.lt_succ_self _⟩
  | ⟨.reference name, _⟩ :: rest =>
      .ok ⟨.reference name, rest, Nat.lt_succ_self _⟩
  | ⟨.openParen, _⟩ :: after =>
      match readBinary stop 0 after with
      | .error fault => .error fault
      | .ok inner => (inner.widen _ (Nat.le_succ _) id).close stop
  | ⟨.identifier name, _⟩ :: ⟨.openParen, _⟩ :: ⟨.closeParen, _⟩ :: rest =>
      .ok ⟨.call name [], rest, by simp only [List.length_cons]; omega⟩
  | ⟨.identifier name, _⟩ :: ⟨.openParen, _⟩ :: after =>
      match readArguments stop after with
      | .error fault => .error fault
      | .ok arguments =>
          .ok (arguments.widen _ (by simp only [List.length_cons]; omega) (.call name))
  | ⟨.identifier name, _⟩ :: rest =>
      .error (problemAt stop rest (.bareIdentifier name))
  | ⟨.unitTag tag, _⟩ :: rest => .error (problemAt stop rest (.strayUnit tag))
  | ⟨.stop, _⟩ :: rest => .error (problemAt stop rest .unexpectedEnd)
  | ⟨token, _⟩ :: rest => .error (problemAt stop rest (.unexpected token))
  termination_by 3 * lexemes.length
  decreasing_by all_goals simp only [List.length_cons]; omega

/-- Read operands joined by operators that bind at least as tightly as
`least`. -/
def readBinary (stop least : Nat) (lexemes : List (Lexeme α)) :
    Except (Fault α) (Reading (Expression α) lexemes) :=
  match readOperand stop lexemes with
  | .error fault => .error fault
  | .ok ⟨operand, after, shorter⟩ =>
      match extend stop least operand after with
      | .error fault => .error fault
      | .ok ⟨value, rest, no_longer⟩ =>
          .ok ⟨value, rest, Nat.lt_of_le_of_lt no_longer shorter⟩
  termination_by 3 * lexemes.length + 1

/-- Extend a left operand by the operators that bind at least as tightly as
`least`. -/
def extend (stop least : Nat) (left : Expression α) (lexemes : List (Lexeme α)) :
    Except (Fault α) (Continuation (Expression α) lexemes) :=
  match lexemes with
  | [] => .ok ⟨left, [], Nat.le_refl _⟩
  | lexeme :: after =>
      match lexeme.token.operator? with
      | none => .ok ⟨left, lexeme :: after, Nat.le_refl _⟩
      | some operator =>
          if operator.precedence < least then
            .ok ⟨left, lexeme :: after, Nat.le_refl _⟩
          else
            match readBinary stop (operator.precedence + 1) after with
            | .error fault => .error fault
            | .ok ⟨right, remaining, shorter⟩ =>
                match extend stop least (.binary operator left right) remaining with
                | .error fault => .error fault
                | .ok ⟨value, rest, no_longer⟩ =>
                    .ok ⟨value, rest, by simp only [List.length_cons]; omega⟩
  termination_by 3 * lexemes.length + 2
  decreasing_by all_goals simp only [List.length_cons]; omega

/-- Read at least one argument, through the closing parenthesis. -/
def readArguments (stop : Nat) (lexemes : List (Lexeme α)) :
    Except (Fault α) (Reading (List (Expression α)) lexemes) :=
  match readBinary stop 0 lexemes with
  | .error fault => .error fault
  | .ok argument =>
      match nextToken argument.rest with
      | .comma =>
          match readArguments stop argument.rest.tail with
          | .error fault => .error fault
          | .ok others =>
              .ok (others.widen _ (Nat.le_of_lt argument.length_tail_lt)
                (argument.value :: ·))
      | .closeParen =>
          .ok ⟨[argument.value], argument.rest.tail, argument.length_tail_lt⟩
      | found =>
          .error (problemAt stop argument.rest.tail (.expectedSeparator found))
  termination_by 3 * lexemes.length + 2
  decreasing_by
    · omega
    · have shorter := argument.length_tail_lt
      omega

end

/-- The position of the last lexeme, which is the end of the formula. -/
def endPosition (lexemes : List (Lexeme α)) : Nat :=
  (lexemes.getLast?.map (·.position)).getD 0

/-- The tree of a list of lexemes that ends with the end of the formula. -/
def parseLexemes (lexemes : List (Lexeme α)) : Except (Fault α) (Expression α) :=
  let stop := endPosition lexemes
  match readBinary stop 0 lexemes with
  | .error fault => .error fault
  | .ok ⟨expression, rest, _⟩ =>
      match nextToken rest with
      | .stop => .ok expression
      | token => .error (problemAt stop rest (.unexpected token))

variable [Scalar α]

/-- The tree of a formula, or the fault in it. -/
def parseText (formula : String) : Except (Fault α) (Expression α) :=
  if (Text.trim formula.toList).isEmpty then .error .blank
  else
    match tokenize formula with
    | .error fault => .error fault
    | .ok lexemes => parseLexemes lexemes

/-- `parseText` with the fault reported as an error. -/
def parse (formula : String) : Except Error (Expression α) :=
  match parseText formula with
  | .ok expression => .ok expression
  | .error (fault : Fault α) => .error (.parse fault.message)

/-- The names that a formula refers to, in order of first appearance. -/
def references (α : Type) [Scalar α] (formula : String) :
    Except Error (List String) :=
  match (parse formula : Except Error (Expression α)) with
  | .ok expression => .ok expression.references
  | .error failure => .error failure

end Metrology.Formula
