import Metrology.Formula.Token

/-!
# Faults of formulas

What can be wrong with a formula, and where.
-/

namespace Metrology.Formula

/-- What can be wrong with a formula. -/
inductive Problem (α : Type) where
  /-- A character that has to be doubled is not. -/
  | expectedCharacter (character : Char)
  | emptyReference
  | unexpectedCharacter (character : Char)
  | nested (opening : Char)
  | unterminated (opening : Char)
  | badNumber (text : String)
  | unexpected (token : Token α)
  | expected (wanted found : Token α)
  | expectedSeparator (found : Token α)
  | bareIdentifier (name : String)
  | strayUnit (tag : String)
  | unexpectedEnd
  deriving DecidableEq, Repr

/-- A character between single quotes. -/
def characterText (character : Char) : String :=
  "'" ++ String.singleton character ++ "'"

def Problem.message {α : Type} [Scalar α] : Problem α → String
  | .expectedCharacter character => "expected " ++ characterText character
  | .emptyReference => "empty reference"
  | .unexpectedCharacter character =>
      "unexpected character " ++ characterText character
  | .nested opening => "nested " ++ characterText opening
  | .unterminated opening => "unterminated " ++ characterText opening
  | .badNumber text => s!"invalid number '{text}'"
  | .unexpected token => "unexpected " ++ token.text
  | .expected wanted found => "expected " ++ wanted.text ++ ", found " ++ found.text
  | .expectedSeparator found => "expected ',' or ')', found " ++ found.text
  | .bareIdentifier name =>
      s!"bare identifier '{name}' (references are written [{name}])"
  | .strayUnit tag => "unit tag \x7b" ++ tag ++ "\x7d without a number"
  | .unexpectedEnd => "unexpected end of formula"

/-- Why a formula cannot be read. -/
inductive Fault (α : Type) where
  | blank
  | at (position : Nat) (problem : Problem α)
  deriving DecidableEq, Repr

def Fault.message {α : Type} [Scalar α] : Fault α → String
  | .blank => "empty formula"
  | .at position problem =>
      "at position " ++ position.repr ++ ": " ++ problem.message

end Metrology.Formula
