import Metrology.Dimension
import Metrology.MeasureUnit

/-!
# Quantities

A quantity is a named dimension with an ordered list of units, one of which is
preferred.  Base quantities are checked when they are made; derived ones are
built from others by powers, products and quotients of all their units.
-/

namespace Metrology

/-- How a quantity came about. -/
inductive Origin where
  | base
  | derived (numerator : String) (denominator : Option String)
  deriving DecidableEq, Repr

structure Quantity (α : Type) where
  name : String
  symbol : String
  dimension : Dimension
  units : List (MeasureUnit α)
  /-- The place of the preferred unit. -/
  preferred : Nat
  preferred_lt : preferred < units.length
  origin : Origin

namespace Quantity

variable {α : Type}

def isDerived (quantity : Quantity α) : Bool :=
  quantity.origin != .base

def preferredUnit (quantity : Quantity α) : MeasureUnit α :=
  quantity.units.get ⟨quantity.preferred, quantity.preferred_lt⟩

/-- The place of the first unit with an expression. -/
def unitIndex? (quantity : Quantity α) (expression : String) : Option Nat :=
  quantity.units.findIdx? (·.expression == expression)

/-- The first unit with an expression. -/
def findUnit? (quantity : Quantity α) (expression : String) :
    Option (MeasureUnit α) :=
  quantity.units.find? (·.expression == expression)

def visibleUnits (quantity : Quantity α) : List (MeasureUnit α) :=
  quantity.units.filter (·.visible)

/-- The name and the dimension. -/
def text (quantity : Quantity α) : String :=
  quantity.name ++ " [" ++ quantity.dimension.text ++ "]"

section

variable [Scalar α]

/-- The place of the first SI unit. -/
def siIndex? (quantity : Quantity α) : Option Nat :=
  quantity.units.findIdx? (·.isSI)

/-- The first SI unit. -/
def siUnit? (quantity : Quantity α) : Option (MeasureUnit α) :=
  quantity.units.find? (·.isSI)

/-! ## Base quantities -/

/-- Why a list of units makes no quantity. -/
inductive Defect where
  | noUnits
  | badPreference (preferred count : Nat)
  | noSIUnit
  | unusableUnit (expression : String)
  | repeatedUnit (expression : String)
  deriving DecidableEq, Repr

def Defect.message (name : String) : Defect → String
  | .noUnits => s!"quantity '{name}' has no units"
  | .badPreference preferred count =>
      s!"quantity '{name}' prefers unit #{preferred} but has {count} units"
  | .noSIUnit => s!"quantity '{name}' has no SI unit (slope 1, intercept 0)"
  | .unusableUnit expression =>
      s!"unit '{expression}' of '{name}' has an unusable conversion"
  | .repeatedUnit expression =>
      s!"unit expression '{expression}' listed twice in '{name}'"

/-- Whether a unit can be converted to SI and back. -/
def isUsable (unit : MeasureUnit α) : Bool :=
  !Scalar.isZero unit.slope && Scalar.isFinite unit.slope &&
    Scalar.isFinite unit.intercept

/-- The first unit that cannot be converted or repeats an expression among
those before it, whose expressions are `seen`. -/
def unitDefect? (seen : List String) : List (MeasureUnit α) → Option Defect
  | [] => none
  | unit :: rest =>
      if !isUsable unit then some (.unusableUnit unit.expression)
      else if seen.contains unit.expression then some (.repeatedUnit unit.expression)
      else unitDefect? (unit.expression :: seen) rest

/-- What is wrong with a list of units, apart from its preference. -/
def unitsDefect? (units : List (MeasureUnit α)) : Option Defect :=
  if units.any (·.isSI) then unitDefect? [] units else some .noSIUnit

/-- A base quantity, if its units are sound. -/
def makeBase (name symbol : String) (dimension : Dimension)
    (units : List (MeasureUnit α)) (preferred : Nat) :
    Except Defect (Quantity α) :=
  if units.isEmpty then .error .noUnits
  else if preferred_lt : preferred < units.length then
    match unitsDefect? units with
    | some defect => .error defect
    | none => .ok ⟨name, symbol, dimension, units, preferred, preferred_lt, .base⟩
  else .error (.badPreference preferred units.length)

/-- `makeBase` with the defect reported as an error. -/
def base (name symbol : String) (dimension : Dimension)
    (units : List (MeasureUnit α)) (preferred : Nat) :
    Except Error (Quantity α) :=
  (makeBase name symbol dimension units preferred).mapError fun defect =>
    .definition (defect.message name)

/-! ## Derived quantities -/

/-- The quantity raised to a power, every unit with it. -/
def power (quantity : Quantity α) (exponent : Int) : Except Error (Quantity α) :=
  if exponent = 1 then .ok quantity
  else do
    let dimension ← quantity.dimension.times exponent
    .ok
      { name := quantity.name ++ "^" ++ exponent.repr
        symbol := UnitExpression.product [(quantity.symbol, exponent)]
        dimension
        units := quantity.units.map (·.power exponent)
        preferred := quantity.preferred
        preferred_lt := by
          rw [List.length_map]
          exact quantity.preferred_lt
        origin := .derived quantity.name none }

/-- The units whose expression no earlier one has, beyond those `seen`. -/
def distinctUnits (seen : List String) :
    List (MeasureUnit α) → List (MeasureUnit α)
  | [] => []
  | unit :: rest =>
      if seen.contains unit.expression then distinctUnits seen rest
      else unit :: distinctUnits (unit.expression :: seen) rest

omit [Scalar α] in
/-- Every expression is kept once. -/
theorem exists_distinctUnits (seen : List String) (units : List (MeasureUnit α))
    {unit : MeasureUnit α} (member : unit ∈ units)
    (fresh : unit.expression ∉ seen) :
    ∃ kept ∈ distinctUnits seen units, kept.expression = unit.expression := by
  induction units generalizing seen with
  | nil => cases member
  | cons first rest ih =>
      rw [distinctUnits]
      split
      · next repeated =>
          rcases List.mem_cons.1 member with rfl | later
          · simp at repeated
            exact absurd repeated fresh
          · exact ih seen later fresh
      · by_cases same : first.expression = unit.expression
        · exact ⟨first, List.mem_cons_self, same⟩
        · rcases List.mem_cons.1 member with rfl | later
          · exact absurd rfl same
          · obtain ⟨kept, inside, equal⟩ :=
              ih (first.expression :: seen) later (by
                simp only [List.mem_cons, not_or]
                exact ⟨fun eq => same eq.symm, fresh⟩)
            exact ⟨kept, List.mem_cons_of_mem _ inside, equal⟩

/-- A quantity over the distinct units of a list, which prefers the unit that
has the preferred expression of the list. -/
def ofCrossed (name symbol : String) (dimension : Dimension) (origin : Origin)
    (units : List (MeasureUnit α)) (preferred : Nat)
    (preferred_lt : preferred < units.length) : Quantity α :=
  let expression := units[preferred].expression
  { name
    symbol
    dimension
    units := distinctUnits [] units
    preferred := (distinctUnits [] units).findIdx (·.expression == expression)
    preferred_lt := by
      obtain ⟨kept, inside, equal⟩ :=
        exists_distinctUnits [] units (List.getElem_mem preferred_lt) (by simp)
      exact List.findIdx_lt_length_of_exists ⟨kept, inside, by simp [equal, expression]⟩
    origin }

/-- Every unit of the left list with every unit of the right one, row by row. -/
def crossUnits (combine : MeasureUnit α → MeasureUnit α → MeasureUnit α)
    (left right : List (MeasureUnit α)) : List (MeasureUnit α) :=
  left.flatMap fun unit => right.map (combine unit)

omit [Scalar α] in
@[simp]
theorem length_crossUnits (combine : MeasureUnit α → MeasureUnit α → MeasureUnit α)
    (left right : List (MeasureUnit α)) :
    (crossUnits combine left right).length = left.length * right.length := by
  induction left with
  | nil => simp [crossUnits]
  | cons unit rest ih =>
      rw [crossUnits, List.flatMap_cons, List.length_append, List.length_map,
        ← crossUnits, ih, List.length_cons, Nat.succ_mul, Nat.add_comm]

omit [Scalar α] in
/-- The place of a pair of preferred units in the cross product. -/
theorem crossed_preferred_lt
    (combine : MeasureUnit α → MeasureUnit α → MeasureUnit α)
    (left right : Quantity α) :
    left.preferred * right.units.length + right.preferred <
      (crossUnits combine left.units right.units).length := by
  rw [length_crossUnits]
  have row : left.preferred + 1 ≤ left.units.length := left.preferred_lt
  have area := Nat.mul_le_mul_right right.units.length row
  have column := right.preferred_lt
  rw [Nat.succ_mul] at area
  omega

/-- The product of two quantities, over the products of all their units. -/
def product (left right : Quantity α) : Except Error (Quantity α) := do
  let dimension ← left.dimension.plus right.dimension
  .ok (ofCrossed (left.name ++ "-" ++ right.name) (left.symbol ++ "*" ++ right.symbol)
    dimension (.derived left.name none) _ _
    (crossed_preferred_lt MeasureUnit.multiply left right))

/-- The quotient of two quantities, over the quotients of all their units. -/
def quotient (left right : Quantity α) : Except Error (Quantity α) := do
  let dimension ← left.dimension.minus right.dimension
  .ok (ofCrossed (left.name ++ " per " ++ right.name)
    (left.symbol ++ "/" ++ right.symbol) dimension
    (.derived left.name (some right.name)) _ _
    (crossed_preferred_lt MeasureUnit.divide left right))

/-- The quantity derived from a numerator and perhaps a denominator.  Without
one, the units of the numerator are taken as they are. -/
def derive (numerator : Quantity α) :
    Option (Quantity α) → Except Error (Quantity α)
  | none => .ok { numerator with origin := .derived numerator.name none }
  | some denominator => numerator.quotient denominator

end

end Quantity

end Metrology
