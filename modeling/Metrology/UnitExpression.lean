import Metrology.Error
import Metrology.Number.Numeral
import Metrology.Text.Blank

/-!
# Unit expressions as text

A unit expression is a product of unit tokens raised to whole powers, with at
most one slash: `kg*m^2/s^2`.  This module takes such a text apart into terms
and writes terms as text.  Nothing here knows which units exist.
-/

namespace Metrology

/-- A unit token raised to a power. -/
structure UnitTerm where
  token : String
  exponent : Int
  deriving DecidableEq, Repr

namespace UnitExpression

/-- What can be wrong with a unit expression. -/
inductive Fault where
  | severalSlashes
  | emptyDenominator
  | emptyToken
  | badExponent (text : String)
  | missingToken
  deriving DecidableEq, Repr

/-- The text of a fault in an expression. -/
def Fault.message (expression : String) : Fault → String
  | .severalSlashes => s!"more than one '/' in unit expression: {expression}"
  | .emptyDenominator => s!"empty denominator in unit expression: {expression}"
  | .emptyToken => s!"empty unit token in: {expression}"
  | .badExponent text => s!"invalid exponent '{text}' in: {expression}"
  | .missingToken => s!"missing unit before '^' in: {expression}"

/-! ## Taking apart -/

/-- Read an exponent, which has to fit a 32-bit word. -/
def readExponent? (text : List Char) : Option Int :=
  (Numeral.readInt? (Text.trim text)).filter fun exponent =>
    -2147483648 ≤ exponent && exponent ≤ 2147483647

/-- The token and the exponent of one factor.  The text is trimmed. -/
def splitFactor (factor : List Char) : Except Fault (List Char × Int) :=
  match factor.dropWhile (· ≠ '^') with
  | [] => .ok (factor, 1)
  | _ :: exponent_text =>
      match readExponent? exponent_text with
      | none => .error (.badExponent (String.ofList exponent_text))
      | some exponent => .ok (Text.trim (factor.takeWhile (· ≠ '^')), exponent)

/-- The terms of one factor: none for the neutral token `1`. -/
def factorTerms (sign : Int) (factor : List Char) : Except Fault (List UnitTerm) :=
  let trimmed := Text.trim factor
  if trimmed.isEmpty then .error .emptyToken
  else do
    let (token, exponent) ← splitFactor trimmed
    if token.isEmpty then .error .missingToken
    else if token = ['1'] then .ok []
    else .ok [⟨String.ofList token, exponent * sign⟩]

/-- The terms of a product of factors. -/
def sideTerms (sign : Int) (side : List Char) : Except Fault (List UnitTerm) := do
  let terms ← (side.splitOn '*').mapM (factorTerms sign)
  .ok terms.flatten

/-- The terms of a trimmed expression.  A numerator may be blank when there is
a denominator. -/
def splitTrimmed (expression : List Char) : Except Fault (List UnitTerm) :=
  if expression.isEmpty then .ok []
  else
    match expression.splitOn '/' with
    | [numerator, denominator] => do
        let above ←
          if (Text.trim numerator).isEmpty then .ok [] else sideTerms 1 numerator
        if (Text.trim denominator).isEmpty then .error .emptyDenominator
        else do
          let below ← sideTerms (-1) denominator
          .ok (above ++ below)
    | [numerator] => sideTerms 1 numerator
    | _ => .error .severalSlashes

/-- Take an expression apart into its terms, as written. -/
def split (expression : String) : Except Error (List UnitTerm) :=
  let trimmed := Text.trim expression.toList
  match splitTrimmed trimmed with
  | .ok terms => .ok terms
  | .error fault => .error (.parse (fault.message (String.ofList trimmed)))

/-! ## Writing -/

/-- Add a term to terms with distinct tokens. -/
def addTerm (term : UnitTerm) : List UnitTerm → List UnitTerm
  | [] => [term]
  | first :: rest =>
      if first.token = term.token then
        { first with exponent := first.exponent + term.exponent } :: rest
      else first :: addTerm term rest

/-- Each distinct token once, in order of first appearance, with the sum of its
exponents. -/
def combine (terms : List UnitTerm) : List UnitTerm :=
  terms.foldl (fun combined term => addTerm term combined) []

/-- A token with its exponent, unless that is one. -/
def factorText (token : String) (exponent : Int) : String :=
  if exponent = 1 then token else token ++ "^" ++ exponent.repr

/-- The factors above the slash. -/
def aboveTexts (terms : List UnitTerm) : List String :=
  (terms.filter (0 < ·.exponent)).map fun term =>
    factorText term.token term.exponent

/-- The factors below the slash. -/
def belowTexts (terms : List UnitTerm) : List String :=
  (terms.filter (·.exponent < 0)).map fun term =>
    factorText term.token (-term.exponent)

/-- Write terms as an expression: repeated tokens combined, vanishing ones left
out, and the denominator after a slash. -/
def format (terms : List UnitTerm) : String :=
  let above := aboveTexts (combine terms)
  let below := belowTexts (combine terms)
  match above.isEmpty, below.isEmpty with
  | true, true => ""
  | false, true => "*".intercalate above
  | true, false => "1/" ++ "*".intercalate below
  | false, false => "*".intercalate above ++ "/" ++ "*".intercalate below

/-- The terms of an expression raised to a power.  An expression that cannot be
taken apart counts as one token. -/
def poweredTerms (expression : String) (power : Int) : List UnitTerm :=
  match split expression with
  | .ok terms =>
      terms.map fun term => { term with exponent := term.exponent * power }
  | .error _ => [⟨expression, power⟩]

/-- The product of expressions raised to powers. -/
def product (parts : List (String × Int)) : String :=
  format (parts.flatMap fun part => poweredTerms part.1 part.2)

end UnitExpression

end Metrology
