/-!
# Numerals

A numeral is a number as a text states it: undefined, infinite, or a whole
number of decimal units.  This module reads the decimal notation and the
notation of whole numbers.
-/

namespace Metrology

/-- What a numeral denotes: `finite negative digits exponent` is
`± digits * 10 ^ exponent`. -/
inductive Numeral where
  | undefined
  | infinite (negative : Bool)
  | finite (negative : Bool) (digits : Nat) (exponent : Int)
  deriving DecidableEq, Repr

namespace Numeral

/-- The numeral of a whole number. -/
def ofInt (value : Int) : Numeral :=
  .finite (value < 0) value.natAbs 0

/-- The numeral of opposite sign. -/
def withSign (negative : Bool) : Numeral → Numeral
  | .undefined => .undefined
  | .infinite _ => .infinite negative
  | .finite _ digits exponent => .finite negative digits exponent

/-- Take a leading sign off a text. -/
def readSign : List Char → Bool × List Char
  | '+' :: rest => (false, rest)
  | '-' :: rest => (true, rest)
  | text => (false, text)

/-- The number that a word of decimal digits denotes. -/
def digitsValue (word : List Char) : Nat :=
  Nat.ofDigitChars 10 word 0

/-- Read a whole number: an optional sign and at least one digit. -/
def readInt? (text : List Char) : Option Int :=
  let (negative, word) := readSign text
  if word.isEmpty || !word.all Char.isDigit then none
  else some (if negative then -(digitsValue word : Int) else digitsValue word)

/-- Read what may follow the digits: nothing, or a mark and a whole number. -/
def readExponent? : List Char → Option Int
  | [] => some 0
  | mark :: rest => if mark = 'e' ∨ mark = 'E' then readInt? rest else none

/-- Split the digits after the point, if there is one, from what follows. -/
def readFraction : List Char → List Char × List Char
  | '.' :: rest => (rest.takeWhile Char.isDigit, rest.dropWhile Char.isDigit)
  | rest => ([], rest)

/-- Read an unsigned decimal: digits with at most one point among or beside
them, and an optional exponent. -/
def readDecimal? (text : List Char) : Option Numeral :=
  let whole := text.takeWhile Char.isDigit
  let (fraction, rest) := readFraction (text.dropWhile Char.isDigit)
  if whole.isEmpty && fraction.isEmpty then none
  else
    (readExponent? rest).map fun exponent =>
      .finite false (digitsValue (whole ++ fraction)) (exponent - fraction.length)

/-- Read a number: an optional sign before a decimal or before one of the
words `nan`, `inf` and `infinity` in any case. -/
def read? (text : List Char) : Option Numeral :=
  let (negative, body) := readSign text
  let word := String.ofList (body.map Char.toLower)
  if word = "nan" then some .undefined
  else if word = "inf" ∨ word = "infinity" then some (.infinite negative)
  else (readDecimal? body).map (·.withSign negative)

theorem readInt?_sign (word : List Char) (digits : word ≠ [])
    (all_digits : word.all Char.isDigit = true) :
    readInt? ('-' :: word) = some (-(digitsValue word : Int)) := by
  simp [readInt?, readSign, digits, all_digits]

end Numeral

end Metrology
