import Metrology.Error

/-!
# Dimensions

A dimension gives the exponents of the four base axes.  Each exponent is a
five-bit two's-complement field of one word, so every word is a dimension and
equal words are equal dimensions.  Arithmetic is that of integer vectors,
checked field by field.
-/

namespace Metrology

/-- Exponents of the axes, without bounds. -/
structure Exponents where
  mass : Int
  length : Int
  time : Int
  currency : Int
  deriving DecidableEq, Repr

namespace Exponents

def get (exponents : Exponents) : Axis → Int
  | .mass => exponents.mass
  | .length => exponents.length
  | .time => exponents.time
  | .currency => exponents.currency

/-- The exponents that a function gives to the axes. -/
def ofFunction (value : Axis → Int) : Exponents :=
  ⟨value .mass, value .length, value .time, value .currency⟩

def add (left right : Exponents) : Exponents :=
  ofFunction fun axis => left.get axis + right.get axis

def sub (left right : Exponents) : Exponents :=
  ofFunction fun axis => left.get axis - right.get axis

def neg (exponents : Exponents) : Exponents :=
  ofFunction fun axis => -exponents.get axis

def scale (factor : Int) (exponents : Exponents) : Exponents :=
  ofFunction fun axis => factor * exponents.get axis

def toList (exponents : Exponents) : List Int :=
  Axis.all.map exponents.get

@[simp]
theorem get_ofFunction (value : Axis → Int) (axis : Axis) :
    (ofFunction value).get axis = value axis := by
  cases axis <;> rfl

theorem ext_get {left right : Exponents}
    (agree : ∀ axis, left.get axis = right.get axis) : left = right := by
  cases left
  cases right
  have mass := agree .mass
  have length := agree .length
  have time := agree .time
  have currency := agree .currency
  simp only [get] at mass length time currency
  simp [mass, length, time, currency]

end Exponents

/-- The exponents of the four axes in one word, the mass lowest. -/
structure Dimension where
  packed : BitVec 20
  deriving DecidableEq, Repr

namespace Dimension

/-- The exponents that a field can hold. -/
def InRange (exponent : Int) : Prop :=
  -16 ≤ exponent ∧ exponent ≤ 15

instance (exponent : Int) : Decidable (InRange exponent) :=
  inferInstanceAs (Decidable (_ ∧ _))

/-- Put four exponents into a word. -/
def pack (exponents : Exponents) : BitVec 20 :=
  BitVec.ofInt 5 exponents.currency ++ BitVec.ofInt 5 exponents.time ++
    BitVec.ofInt 5 exponents.length ++ BitVec.ofInt 5 exponents.mass

/-- The exponent of one axis. -/
def exponent (dimension : Dimension) (axis : Axis) : Int :=
  (dimension.packed.extractLsb' (5 * axis.index) 5).toInt

/-- The exponents of all axes. -/
def exponents (dimension : Dimension) : Exponents :=
  Exponents.ofFunction dimension.exponent

/-- The dimension with the given exponents.  The first axis that is out of
range is reported. -/
def ofExponents (exponents : Exponents) : Except Error Dimension :=
  match Axis.all.find? fun axis => ¬ InRange (exponents.get axis) with
  | some axis => .error (.rangeOverflow axis (exponents.get axis))
  | none => .ok ⟨pack exponents⟩

/-- The dimension of pure numbers. -/
def ratio : Dimension :=
  ⟨0⟩

def isRatio (dimension : Dimension) : Bool :=
  dimension == ratio

/-- The dimension of a product. -/
def plus (left right : Dimension) : Except Error Dimension :=
  ofExponents (left.exponents.add right.exponents)

/-- The dimension of a quotient. -/
def minus (left right : Dimension) : Except Error Dimension :=
  ofExponents (left.exponents.sub right.exponents)

/-- The dimension of a reciprocal. -/
def flip (dimension : Dimension) : Except Error Dimension :=
  ofExponents dimension.exponents.neg

/-- Take a step `count` times, stopping at the first failure. -/
def repeated (step : Dimension → Except Error Dimension) :
    Nat → Dimension → Except Error Dimension
  | 0, dimension => .ok dimension
  | count + 1, dimension => (step dimension).bind (repeated step count)

/-- The dimension of a whole power, reached factor by factor so that the first
exponent to leave the range is the one reported. -/
def times (dimension : Dimension) (power : Int) : Except Error Dimension :=
  if dimension.isRatio then .ok ratio
  else if 0 < power then repeated (·.plus dimension) power.natAbs ratio
  else repeated (·.minus dimension) power.natAbs ratio

/-! ## Named dimensions -/

def mass : Dimension := ⟨pack ⟨1, 0, 0, 0⟩⟩
def length : Dimension := ⟨pack ⟨0, 1, 0, 0⟩⟩
def time : Dimension := ⟨pack ⟨0, 0, 1, 0⟩⟩
def currency : Dimension := ⟨pack ⟨0, 0, 0, 1⟩⟩
def area : Dimension := ⟨pack ⟨0, 2, 0, 0⟩⟩
def volume : Dimension := ⟨pack ⟨0, 3, 0, 0⟩⟩
def velocity : Dimension := ⟨pack ⟨0, 1, -1, 0⟩⟩
def energy : Dimension := ⟨pack ⟨1, 2, -2, 0⟩⟩
def power : Dimension := ⟨pack ⟨1, 2, -3, 0⟩⟩
def density : Dimension := ⟨pack ⟨1, -3, 0, 0⟩⟩
def frequency : Dimension := ⟨pack ⟨0, 0, -1, 0⟩⟩

/-- The dimensions that have a name. -/
def named : List (Dimension × String) :=
  [(ratio, "ratio"), (mass, "mass"), (length, "length"), (time, "time"),
    (currency, "currency"), (area, "area"), (volume, "volume"),
    (velocity, "velocity"), (energy, "energy"), (power, "power"),
    (density, "density"), (frequency, "frequency")]

def name? (dimension : Dimension) : Option String :=
  named.lookup dimension

/-! ## Text -/

/-- The factor of one axis, absent when its exponent is zero. -/
def factorText? (dimension : Dimension) (axis : Axis) : Option String :=
  let exponent := dimension.exponent axis
  if exponent = 0 then none
  else if exponent = 1 then some axis.symbol
  else some (axis.symbol ++ "^" ++ exponent.repr)

/-- The factors of a dimension, or `1` when it has none. -/
def text (dimension : Dimension) : String :=
  let factors := Axis.all.filterMap dimension.factorText?
  if factors.isEmpty then "1" else " ".intercalate factors

end Dimension

end Metrology
