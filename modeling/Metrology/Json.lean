import Metrology.Json.Written

/-!
# JSON values

The values that documents and requests are written in.  Whole numbers of up to
64 bits are kept apart from other numbers, and members keep their order.  A
number that a text writes otherwise stays as it is written until a scalar is
wanted of it.
-/

namespace Metrology

inductive Json where
  | null
  | bool (value : Bool)
  | whole (value : Int)
  /-- A number as a text writes it. -/
  | written (number : Json.Written)
  /-- The number of a finite scalar. -/
  | decimal (value : Numeral)
  | string (value : String)
  | array (items : List Json)
  | object (members : List (String × Json))
  /-- A string in which half of a character stands alone, or an object with such a
  name.  It may be passed over but is nothing that could be wanted. -/
  | unpaired
  deriving Repr

namespace Json

/-- The number of containers around the innermost value. -/
def depth : Json → Nat
  | .array items => itemsDepth items + 1
  | .object members => membersDepth members + 1
  | _ => 0
where
  itemsDepth : List Json → Nat
    | [] => 0
    | item :: rest => max item.depth (itemsDepth rest)
  membersDepth : List (String × Json) → Nat
    | [] => 0
    | (_, value) :: rest => max value.depth (membersDepth rest)

/-- Put a named value in its place among values in the order of their names,
over any earlier one of that name. -/
def insertNamed {β : Type} (name : String) (value : β) :
    List (String × β) → List (String × β)
  | [] => [(name, value)]
  | first :: rest =>
      if name < first.1 then (name, value) :: first :: rest
      else if name = first.1 then (name, value) :: rest
      else first :: insertNamed name value rest

/-- Named values in the order of their names, the last of each name counting. -/
def arrange {β : Type} (values : List (String × β)) : List (String × β) :=
  values.foldl (fun arranged entry => insertNamed entry.1 entry.2 arranged) []

/-- The member with a name. -/
def member? (name : String) : Json → Option Json
  | .object members => members.lookup name
  | _ => none

def string? : Json → Option String
  | .string value => some value
  | _ => none

def items? : Json → Option (List Json)
  | .array items => some items
  | _ => none

/-- A list of strings. -/
def strings (values : List String) : Json :=
  .array (values.map .string)

section

variable {α : Type} [Scalar α]

/-- A scalar as a number; one that is not finite has no number. -/
def ofScalar (value : α) : Json :=
  match Scalar.toNumeral value with
  | .finite negative digits exponent => .decimal (.finite negative digits exponent)
  | _ => .null

/-- The scalar of a number, unless it is beyond the finite ones. -/
def toScalar? : Json → Option α
  | .whole value => some (Scalar.ofInt value)
  | .written number => number.toScalar?
  | .decimal value => some (Scalar.ofNumeral value)
  | _ => none

/-- The value with its members in order and with every written number replaced by
that of its scalar.  A number beyond the finite scalars is refused, and so is a
character that is halved. -/
def settle? (α : Type) [Scalar α] : Json → Option Json
  | .written number => (number.toScalar? : Option α).map ofScalar
  | .unpaired => none
  | .array items => (settleItems? items).map .array
  | .object members =>
      (settleMembers? members).map fun settled => .object (arrange settled)
  | other => some other
where
  settleItems? : List Json → Option (List Json)
    | [] => some []
    | item :: rest => do
        let first ← settle? α item
        let others ← settleItems? rest
        some (first :: others)
  settleMembers? : List (String × Json) → Option (List (String × Json))
    | [] => some []
    | (name, value) :: rest => do
        let first ← settle? α value
        let others ← settleMembers? rest
        some ((name, first) :: others)

end

/-! ## Text -/

/-- One character inside a string. -/
def escapeOne (character : Char) : List Char :=
  if character = '"' then ['\\', '"']
  else if character = '\\' then ['\\', '\\']
  else if character = '\n' then ['\\', 'n']
  else if character = '\r' then ['\\', 'r']
  else if character = '\t' then ['\\', 't']
  else if character.toNat = 8 then ['\\', 'b']
  else if character.toNat = 12 then ['\\', 'f']
  else if character.toNat < 0x20 then
    "\\u00".toList ++ (if character.toNat < 16 then ['0'] else []) ++
      Nat.toDigits 16 character.toNat
  else [character]

def stringText (value : String) : String :=
  "\"" ++ String.ofList (value.toList.flatMap escapeOne) ++ "\""

/-- The text of a value, on one line and without blanks.  What has no meaning is
written as nothing. -/
def text : Json → String
  | .null => "null"
  | .unpaired => "null"
  | .bool value => if value then "true" else "false"
  | .whole value => value.repr
  | .written number =>
      Layout.json.text (.finite number.negative number.significand number.exponent)
  | .decimal value => Layout.json.text value
  | .string value => stringText value
  | .array items => "[" ++ ",".intercalate (itemTexts items) ++ "]"
  | .object members => "\x7b" ++ ",".intercalate (memberTexts members) ++ "\x7d"
where
  itemTexts : List Json → List String
    | [] => []
    | item :: rest => item.text :: itemTexts rest
  memberTexts : List (String × Json) → List String
    | [] => []
    | (name, value) :: rest =>
        (stringText name ++ ":" ++ value.text) :: memberTexts rest

end Json

end Metrology
