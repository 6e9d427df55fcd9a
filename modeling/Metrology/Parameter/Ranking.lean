import Metrology.Parameter

/-!
# Ranking of amounts

Amounts of one dimension rank by magnitude.  Across dimensions a zero amount
is the weaker one; otherwise energy ranks above mass, mass above volume, and
volume above everything else.
-/

namespace Metrology

namespace Dimension

/-- The rank of a dimension among unequal ones. -/
def rank (dimension : Dimension) : Nat :=
  if dimension = energy then 3
  else if dimension = mass then 2
  else if dimension = volume then 1
  else 0

end Dimension

namespace Amount

variable {α : Type} [Scalar α]

/-- How two amounts rank.  Magnitudes that do not compare rank equal. -/
def rank (left right : Amount α) : Ordering :=
  if left.dimension = right.dimension then
    (Scalar.compare? left.magnitude right.magnitude).getD .eq
  else
    match left.isZero, right.isZero with
    | true, false => .lt
    | false, true => .gt
    | _, _ => compare left.dimension.rank right.dimension.rank

end Amount

namespace Parameter

variable {α : Type} [Scalar α]

/-- How the buffered amounts of two parameters rank. -/
def rank (left right : Parameter α) : Except Error Ordering := do
  let leftAmount ← left.amount
  let rightAmount ← right.amount
  .ok (leftAmount.rank rightAmount)

end Parameter

end Metrology
