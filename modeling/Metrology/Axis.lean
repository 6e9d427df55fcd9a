/-!
# Axes of measurement

The four base axes along which every physical dimension is resolved.
-/

namespace Metrology

inductive Axis where
  | mass
  | length
  | time
  | currency
  deriving DecidableEq, Repr

namespace Axis

/-- The axes in the order in which they are checked and written. -/
def all : List Axis :=
  [.mass, .length, .time, .currency]

def name : Axis → String
  | .mass => "mass"
  | .length => "length"
  | .time => "time"
  | .currency => "currency"

/-- The letter that stands for an axis in a dimension. -/
def symbol : Axis → String
  | .mass => "M"
  | .length => "L"
  | .time => "T"
  | .currency => "$"

/-- The place of the axis among all axes. -/
def index : Axis → Nat
  | .mass => 0
  | .length => 1
  | .time => 2
  | .currency => 3

@[simp]
theorem mem_all (axis : Axis) : axis ∈ all := by
  cases axis <;> decide

end Axis

end Metrology
