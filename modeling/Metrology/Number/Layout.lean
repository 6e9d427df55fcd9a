import Metrology.Number.Numeral

/-!
# Layouts of numerals

A layout says how a numeral is written: which orders of magnitude are written
with all their places, and whether a whole number keeps a point.
-/

namespace Metrology

/-- The decisions of a decimal notation. -/
structure Layout where
  /-- The least and the greatest order of magnitude that is written with all
  its places; every order is when there are no bounds. -/
  positional : Option (Int × Int)
  /-- Whether a whole number written with all its places ends in `.0`. -/
  keepsPoint : Bool
  deriving DecidableEq, Repr

namespace Layout

/-- Readable text: never an exponent, and no point after a whole number. -/
def plain : Layout :=
  ⟨none, false⟩

/-- Text that is recognised as a fractional number, with an exponent for the
very large and the very small. -/
def marked : Layout :=
  ⟨some (-4, 15), true⟩

/-- The notation of numbers in JSON text. -/
def json : Layout :=
  ⟨some (-5, 15), true⟩

/-- Whether the layout writes out all places of a number of this order. -/
def writesPlaces (layout : Layout) (order : Int) : Bool :=
  match layout.positional with
  | none => true
  | some (least, greatest) => least ≤ order && order ≤ greatest

/-- A digit word scaled by a power of ten, with all its places. -/
def places (layout : Layout) (word : List Char) (exponent : Int) : List Char :=
  if 0 ≤ exponent then
    word ++ List.replicate exponent.toNat '0' ++
      (if layout.keepsPoint then ['.', '0'] else [])
  else
    let count := (-exponent).toNat
    if count < word.length then
      word.take (word.length - count) ++ '.' :: word.drop (word.length - count)
    else
      '0' :: '.' :: List.replicate (count - word.length) '0' ++ word

/-- A digit word as one digit, its fraction and the order of magnitude. -/
def scientific (word : List Char) (order : Int) : List Char :=
  word.take 1 ++
    (if word.length ≤ 1 then [] else '.' :: word.drop 1) ++
    'e' :: order.repr.toList

def sign (negative : Bool) : List Char :=
  if negative then ['-'] else []

/-- Write a numeral. -/
def write (layout : Layout) : Numeral → List Char
  | .undefined => "NaN".toList
  | .infinite negative => sign negative ++ "inf".toList
  | .finite negative digits exponent =>
      let word := Nat.toDigits 10 digits
      let order := exponent + word.length - 1
      sign negative ++
        if digits = 0 then layout.places ['0'] 0
        else if layout.writesPlaces order then layout.places word exponent
        else scientific word order

/-- `write` on strings. -/
def text (layout : Layout) (numeral : Numeral) : String :=
  String.ofList (layout.write numeral)

end Layout

end Metrology
