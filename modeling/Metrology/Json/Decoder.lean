import Metrology.Json.Reader

/-!
# Decoding JSON

From values to the data they describe.  A record may be written with named
members or as a list of its fields in order; unknown members are passed over,
and a known one must not be repeated.
-/

namespace Metrology.Json

/-- Why a text or a value does not describe the wanted data. -/
inductive Fault where
  | malformed
  | expected (wanted : String)
  | missing (field : String)
  | repeated (field : String)
  | unsettled
  | tooDeep
  | refused (details : String)
  deriving DecidableEq, Repr

def Fault.message : Fault → String
  | .malformed => "malformed text"
  | .expected wanted => s!"expected {wanted}"
  | .missing field => s!"missing field '{field}'"
  | .repeated field => s!"duplicate field '{field}'"
  | .unsettled => "number out of range"
  | .tooDeep => "nesting limit exceeded"
  | .refused details => details

/-- A way to find data of one kind in a value. -/
abbrev Decoder (β : Type) := Json → Except Fault β

namespace Decoder

def bool : Decoder Bool
  | .bool value => .ok value
  | _ => .error (.expected "a boolean")

def string : Decoder String
  | .string value => .ok value
  | _ => .error (.expected "a string")

/-- A whole number within bounds. -/
def int (least greatest : Int) : Decoder Int
  | .whole value =>
      if least ≤ value ∧ value ≤ greatest then .ok value
      else .error (.expected "a smaller whole number")
  | _ => .error (.expected "a whole number")

/-- A natural number of at most 64 bits. -/
def nat (value : Json) : Except Fault Nat :=
  (int 0 18446744073709551615 value).map Int.toNat

/-- A number within the finite scalars. -/
def scalar {α : Type} [Scalar α] (value : Json) : Except Fault α :=
  match value, (value.toScalar? : Option α) with
  | _, some number => .ok number
  | .written _, none => .error .unsettled
  | _, none => .error (.expected "a number")

/-- Data that may be absent, which `null` says. -/
def optional {β : Type} (decoder : Decoder β) : Decoder (Option β)
  | .null => .ok none
  | value => (decoder value).map some

def list {β : Type} (decoder : Decoder β) : Decoder (List β)
  | .array items => items.mapM decoder
  | _ => .error (.expected "a list")

/-- Members with data of one kind, as written. -/
def members {β : Type} (decoder : Decoder β) : Decoder (List (String × β))
  | .object entries => entries.mapM fun entry => do
      let value ← decoder entry.2
      .ok (entry.1, value)
  | _ => .error (.expected "an object")

end Decoder

/-! ## Records -/

/-- The values found for the fields of a record. -/
abbrev Record := List (String × Json)

/-- The first of the given names that occurs again later. -/
def repeatedName? : List String → Option String
  | [] => none
  | name :: rest => if rest.contains name then some name else repeatedName? rest

/-- Find the fields of a record by name or by place. -/
def record (fields : List String) : Decoder Record
  | .object entries =>
      let known := entries.filter fun entry => fields.contains entry.1
      match repeatedName? (known.map (·.1)) with
      | some field => .error (.repeated field)
      | none => .ok known
  | .array items =>
      if items.length ≤ fields.length then .ok (fields.zip items)
      else .error (.expected s!"at most {fields.length} fields")
  | _ => .error (.expected "a record")

namespace Record

/-- A field that has to be there. -/
def required {β : Type} (record : Record) (field : String) (decoder : Decoder β) :
    Except Fault β :=
  match record.lookup field with
  | some value => decoder value
  | none => .error (.missing field)

/-- A field that has a value when it is left out. -/
def withDefault {β : Type} (record : Record) (field : String) (decoder : Decoder β)
    (absent : β) : Except Fault β :=
  match record.lookup field with
  | some value => decoder value
  | none => .ok absent

end Record

/-- Decode a text. -/
def decodeText {β : Type} (decoder : Decoder β) (text : String) :
    Except Fault β :=
  match ofText? text with
  | some value => decoder value
  | none => .error .malformed

/-- A value that nests at most `limit` containers, with settled numbers. -/
def settled (α : Type) [Scalar α] (limit : Nat) : Decoder Json := fun value =>
  if value.depth ≤ limit then
    match value.settle? α with
    | some settled => .ok settled
    | none => .error .unsettled
  else .error .tooDeep

end Metrology.Json
