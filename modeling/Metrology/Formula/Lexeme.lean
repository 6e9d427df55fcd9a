import Metrology.Formula.Scan

/-!
# Lexemes

A formula as a sequence of tokens with the positions at which they start.
Positions count characters; blanks between tokens are passed over.
-/

namespace Metrology.Formula

/-- A token and the place of its first character. -/
structure Lexeme (α : Type) where
  token : Token α
  position : Nat
  deriving DecidableEq, Repr

variable {α : Type}

/-- The tokens of a text whose first character has the given position, through
the end of the formula. -/
def tokensFrom [Scalar α] (position : Nat) (text : List Char) :
    Except (Fault α) (List (Lexeme α)) :=
  match text with
  | [] => .ok [⟨.stop, position⟩]
  | first :: rest =>
      if Text.isBlank first then tokensFrom (position + 1) rest
      else
        match _scanned : scan first rest with
        | .error (distance, problem) => .error (.at (position + distance) problem)
        | .ok (token, after) =>
            match tokensFrom (position + (rest.length + 1 - after.length)) after with
            | .error fault => .error fault
            | .ok lexemes => .ok (⟨token, position⟩ :: lexemes)
  termination_by text.length
  decreasing_by
    · simp only [List.length_cons]
      omega
    · have shorter := length_after_scan _scanned
      simp only [List.length_cons]
      omega

/-- The tokens of a formula. -/
def tokenize [Scalar α] (formula : String) : Except (Fault α) (List (Lexeme α)) :=
  tokensFrom 0 formula.toList

end Metrology.Formula
