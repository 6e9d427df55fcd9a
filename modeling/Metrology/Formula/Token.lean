import Metrology.Number.Scalar
import Metrology.Text.Quoted

/-!
# Formula tokens

The words of a formula.  A unit tag in braces and a reference in brackets are
one token each.
-/

namespace Metrology.Formula

inductive Token (α : Type) where
  | number (value : α)
  | unitTag (text : String)
  | reference (name : String)
  | identifier (name : String)
  | plus
  | minus
  | star
  | slash
  | caret
  | openParen
  | closeParen
  | comma
  | equal
  | notEqual
  | less
  | greater
  | lessOrEqual
  | greaterOrEqual
  | and
  | or
  /-- The end of the formula. -/
  | stop
  deriving DecidableEq, Repr

/-- The name of a token in messages. -/
def Token.text {α : Type} [Scalar α] : Token α → String
  | .number value => "Number(" ++ Scalar.markedText value ++ ")"
  | .unitTag text => "UnitTag(" ++ Text.quoted text ++ ")"
  | .reference name => "Reference(" ++ Text.quoted name ++ ")"
  | .identifier name => "Identifier(" ++ Text.quoted name ++ ")"
  | .plus => "Plus"
  | .minus => "Minus"
  | .star => "Star"
  | .slash => "Slash"
  | .caret => "Caret"
  | .openParen => "LParen"
  | .closeParen => "RParen"
  | .comma => "Comma"
  | .equal => "EqEq"
  | .notEqual => "NotEq"
  | .less => "Lt"
  | .greater => "Gt"
  | .lessOrEqual => "Le"
  | .greaterOrEqual => "Ge"
  | .and => "AndAnd"
  | .or => "OrOr"
  | .stop => "Eof"

end Metrology.Formula
