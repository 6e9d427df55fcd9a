import Metrology.Formula.Tagged
import Metrology.Text.LowerCase

/-!
# Formula functions

Functions are called by name, in any case.  A function may make anything of its
arguments; the standard ones take one pure number each, except the placeholder that
returns any argument unchanged.
-/

namespace Metrology.Formula

/-- What is known of a function beside its rule. -/
structure FunctionInfo where
  name : String
  description : String
  usage : String
  /-- The number of arguments. -/
  arity : Nat
  category : String
  deriving DecidableEq, Repr

namespace FunctionInfo

/-- Whether the number of arguments is the right one. -/
def checkArity (info : FunctionInfo) (count : Nat) : Except Error Unit :=
  if count = info.arity then .ok ()
  else
    .error (.evaluation (info.usage ++ " expects " ++ info.arity.repr ++
      " argument(s), got " ++ count.repr))

end FunctionInfo

/-- A function: what is known of it, and what it makes of the arguments of a call. -/
structure FormulaFunction (α : Type) where
  info : FunctionInfo
  call : List (Tagged α) → Except Error (Tagged α)

namespace FormulaFunction

variable {α : Type}

/-- A function of one argument, which counts its arguments first. -/
def ofOne (info : FunctionInfo) (apply : Tagged α → Except Error (Tagged α)) :
    FormulaFunction α where
  info := info
  call arguments := do
    info.checkArity arguments.length
    match arguments with
    | argument :: _ => apply argument
    | [] => .error (.internal (info.usage ++ " takes no arguments"))

/-- A map of pure numbers at work on an argument. -/
def onPure (name : String) (apply : α → α) (argument : Tagged α) :
    Except Error (Tagged α) :=
  if argument.amount.isRatio then
    .ok (.untagged (.ratio (apply argument.amount.magnitude)))
  else
    .error (.incompatible (name ++ "(" ++ argument.amount.dimension.text ++ ")")
      Dimension.ratio.text)

/-- A function of one pure number. -/
def math (name description usage : String) (apply : α → α) : FormulaFunction α :=
  .ofOne ⟨name, description, usage, 1, "math"⟩ (onPure name apply)

/-- The placeholder, which returns its argument with its dimension and its tag. -/
def noop : FormulaFunction α :=
  .ofOne ⟨"noop", "Returns its argument unchanged", "noop(x)", 1, "utility"⟩ .ok

end FormulaFunction

/-- Functions by their names in small letters. -/
structure FunctionTable (α : Type) where
  functions : List (String × FormulaFunction α)

namespace FunctionTable

variable {α : Type}

def empty : FunctionTable α :=
  ⟨[]⟩

/-- The table with a function put in, over any other of that name. -/
def insert (table : FunctionTable α) (function : FormulaFunction α) :
    FunctionTable α :=
  let key := Text.lowered function.info.name
  ⟨table.functions.filter (·.1 != key) ++ [(key, function)]⟩

def find? (table : FunctionTable α) (name : String) : Option (FormulaFunction α) :=
  table.functions.lookup (Text.lowered name)

/-- What is known of all functions, in the order of their names. -/
def list (table : FunctionTable α) : List FunctionInfo :=
  (table.functions.map (·.2.info)).mergeSort fun left right =>
    !(right.name < left.name)

variable [Scalar α]

/-- Logarithms and exponentials, trigonometry in radians, and the
placeholder. -/
def standard : FunctionTable α :=
  [.math "ln" "Natural logarithm" "ln(x)" Scalar.naturalLogarithm,
    .math "exp" "e raised to x" "exp(x)" Scalar.exponential,
    .math "log10" "Base-10 logarithm" "log10(x)" Scalar.decimalLogarithm,
    .math "sin" "Sine" "sin(x)" Scalar.sine,
    .math "cos" "Cosine" "cos(x)" Scalar.cosine,
    .math "tan" "Tangent" "tan(x)" Scalar.tangent,
    .math "asin" "Arcsine" "asin(x)" Scalar.arcsine,
    .math "acos" "Arccosine" "acos(x)" Scalar.arccosine,
    .math "atan" "Arctangent" "atan(x)" Scalar.arctangent,
    .noop].foldl insert empty

/-- Call a function by name. -/
def call (table : FunctionTable α) (name : String) (arguments : List (Tagged α)) :
    Except Error (Tagged α) :=
  match table.find? name with
  | some function => function.call arguments
  | none => .error (.evaluation s!"unknown function '{name}'")

end FunctionTable

end Metrology.Formula
