import Metrology.Number.Numeral

/-!
# Shortest decimals

The decimal with the fewest digits that lies in the interval of numbers
rounding to a given binary one, and of those the nearest to it.  Everything is
computed exactly on natural numbers.
-/

namespace Metrology

/-- A positive binary number `significand * 2 ^ exponent` and the interval
around it, whose ends are half way to its neighbours. -/
structure BinaryPoint where
  significand : Nat
  exponent : Int
  /-- Whether the neighbour below is only half as far as the one above. -/
  nearBelow : Bool
  deriving DecidableEq, Repr

namespace BinaryPoint

/-- A number of quarters of the last binary place as a numerator over
`denominator`, in units of the grid `10 ^ grid`. -/
def numerator (point : BinaryPoint) (grid : Int) (quarters : Nat) : Nat :=
  quarters * Nat.pow 2 (point.exponent - 2).toNat * Nat.pow 10 (-grid).toNat

def denominator (point : BinaryPoint) (grid : Int) : Nat :=
  Nat.pow 2 (2 - point.exponent).toNat * Nat.pow 10 grid.toNat

/-- The number itself, in quarters of its last binary place. -/
def centre (point : BinaryPoint) : Nat :=
  4 * point.significand

/-- The lower end of the interval, in quarters of the last binary place. -/
def lowerEnd (point : BinaryPoint) : Nat :=
  point.centre - if point.nearBelow then 1 else 2

/-- The upper end of the interval, in quarters of the last binary place. -/
def upperEnd (point : BinaryPoint) : Nat :=
  point.centre + 2

/-- Whether a multiple of `10 ^ grid` lies in the interval.  The ends belong to
it exactly when the significand is even. -/
def holds (point : BinaryPoint) (grid : Int) (multiple : Nat) : Bool :=
  let scaled := multiple * point.denominator grid
  let low := point.numerator grid point.lowerEnd
  let high := point.numerator grid point.upperEnd
  if point.significand % 2 = 0 then low ≤ scaled && scaled ≤ high
  else low < scaled && scaled < high

/-- The multiple of `10 ^ grid` in the interval that is nearest to the number;
of two equally near ones the larger. -/
def nearest? (point : BinaryPoint) (grid : Int) : Option Nat :=
  let below := point.numerator grid point.centre / point.denominator grid
  let remainder := point.numerator grid point.centre % point.denominator grid
  let upFirst := point.denominator grid ≤ 2 * remainder
  let first := if upFirst then below + 1 else below
  let second := if upFirst then below else below + 1
  if point.holds grid first then some first
  else if point.holds grid second then some second
  else none

/-- Whether the number is at least `10 ^ order`. -/
def reaches (point : BinaryPoint) (order : Int) : Bool :=
  point.denominator order ≤ point.numerator order point.centre

/-- The order of magnitude: the greatest power of ten that the number reaches,
found beside the estimate from its binary length. -/
def order (point : BinaryPoint) : Int :=
  let estimate :=
    Int.fdiv (((point.significand.log2 : Int) + point.exponent) * 30103) 100000
  if point.reaches (estimate + 1) then estimate + 1
  else if point.reaches estimate then estimate
  else estimate - 1

/-- Search ever finer grids, at most `count` of them. -/
def search (point : BinaryPoint) : Nat → Int → Nat × Int
  | 0, grid =>
      (point.numerator grid point.centre / point.denominator grid, grid)
  | count + 1, grid =>
      match point.nearest? grid with
      | some multiple => (multiple, grid)
      | none => search point count (grid - 1)

/-- Move trailing zeros of a digit word into its exponent. -/
def withoutZeros (digits : Nat) (exponent : Int) : Nat × Int :=
  if digits = 0 then (0, 0)
  else if digits % 10 = 0 then withoutZeros (digits / 10) (exponent + 1)
  else (digits, exponent)
  termination_by digits
  decreasing_by omega

/-- The digits and the exponent of the shortest decimal.  Seventeen digits tell
any two binary numbers apart. -/
def shortest (point : BinaryPoint) : Nat × Int :=
  let found := point.search 17 point.order
  withoutZeros found.1 found.2

end BinaryPoint

end Metrology
