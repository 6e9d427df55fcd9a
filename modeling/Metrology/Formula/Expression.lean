/-!
# Formula expressions

The trees that formulas denote.
-/

namespace Metrology.Formula

inductive Operator where
  | or
  | and
  | equal
  | notEqual
  | less
  | greater
  | lessOrEqual
  | greaterOrEqual
  | add
  | subtract
  | multiply
  | divide
  | power
  deriving DecidableEq, Repr

namespace Operator

/-- The strength of binding; the stronger binds tighter. -/
def precedence : Operator → Nat
  | .or => 1
  | .and => 2
  | .equal | .notEqual | .less | .greater | .lessOrEqual | .greaterOrEqual => 3
  | .add | .subtract => 4
  | .multiply | .divide => 5
  | .power => 6

def symbol : Operator → String
  | .or => "||"
  | .and => "&&"
  | .equal => "=="
  | .notEqual => "!="
  | .less => "<"
  | .greater => ">"
  | .lessOrEqual => "<="
  | .greaterOrEqual => ">="
  | .add => "+"
  | .subtract => "-"
  | .multiply => "*"
  | .divide => "/"
  | .power => "^"

end Operator

inductive Expression (α : Type) where
  /-- A number, perhaps with a unit tag. -/
  | number (value : α) (unit : Option String)
  | reference (name : String)
  | negate (operand : Expression α)
  | binary (operator : Operator) (left right : Expression α)
  | call (name : String) (arguments : List (Expression α))
  deriving Repr

namespace Expression

variable {α : Type}

/-- The names that are referred to, from left to right, repeats included. -/
def occurrences : Expression α → List String
  | .number _ _ => []
  | .reference name => [name]
  | .negate operand => operand.occurrences
  | .binary _ left right => left.occurrences ++ right.occurrences
  | .call _ arguments => argumentOccurrences arguments
where
  argumentOccurrences : List (Expression α) → List String
    | [] => []
    | argument :: rest => argument.occurrences ++ argumentOccurrences rest

/-- The names that are referred to, in order of first appearance. -/
def references (expression : Expression α) : List String :=
  expression.occurrences.eraseDups

end Expression

end Metrology.Formula
