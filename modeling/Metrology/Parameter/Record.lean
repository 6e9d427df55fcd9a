import Metrology.Parameter
import Metrology.Parameter.Fields

/-!
# Stored parameters

A parameter is stored as one line of fields: the default value or formula and
its unit, the override value or formula and its unit, the override flag, the
notes, the id, who modified it, when, and the name.  Empty fields at the end are
left out.
-/

namespace Metrology

namespace Source

variable {α : Type} [Scalar α]

/-- The source in a value field.  A number without a bracket is a literal, and
any other text a formula. -/
def ofField (field unit : String) : Source α :=
  let trimmed := Text.trim field.toList
  if trimmed.contains '[' then .formula field unit
  else
    match Scalar.read? trimmed with
    | some value => .literal value unit
    | none => .formula field unit

/-- The value field of a source. -/
def toField : Source α → String
  | .literal value _ => Scalar.plainText value
  | .formula text _ => text

end Source

namespace Parameter

variable {α : Type} [Scalar α]

def isBlankText (text : String) : Bool :=
  (Text.trim text.toList).isEmpty

/-- Read the override flag. -/
def readFlag (field : String) : Except Error Bool :=
  let flag := Text.trim field.toList
  let word := String.ofList (flag.map Char.toLower)
  if flag.isEmpty ∨ flag = ['0'] ∨ word = "false" then .ok false
  else if flag = ['1'] ∨ word = "true" then .ok true
  else .error (.parse s!"invalid override flag '{String.ofList flag}'")

/-- The source of the default track; a blank value is zero. -/
def defaultSource (field unit : String) : Source α :=
  if isBlankText field then .literal 0 unit else .ofField field unit

/-- The override track, if its value is not blank. -/
def overrideState? (field unit : String) : Option (TrackState α) :=
  if isBlankText field then none
  else some (.unbuffered (.ofField field unit))

/-- The parameter that fields describe.  Nothing is buffered. -/
def ofFields (fields : List String) : Except Error (Parameter α) := do
  let field (index : Nat) : String := fields.getD index ""
  let overrideTrack := overrideState? (field 2) (field 3)
  let overridden ← readFlag (field 4)
  if overridden && overrideTrack.isNone then
    .error (.parse (s!"parameter '{field 6}' selects an override track" ++
      " it does not have"))
  else
    .ok
      { id := field 6
        name := if (field 9).isEmpty then none else some (field 9)
        notes := field 5
        modifiedBy := field 7
        modifiedOn := field 8
        defaultTrack := .unbuffered (defaultSource (field 0) (field 1))
        overrideTrack
        active := if overridden then .override else .default }

/-- The parameter that a line describes. -/
def ofLine (line : String) : Except Error (Parameter α) :=
  ofFields (Fields.splitLine line)

/-- The value and the unit of an override track. -/
def overrideFields : Option (TrackState α) → List String
  | some state => [state.source.toField, state.source.unit]
  | none => ["", ""]

/-- All fields of a parameter. -/
def allFields (parameter : Parameter α) : List String :=
  [parameter.defaultTrack.source.toField, parameter.defaultTrack.source.unit] ++
    overrideFields parameter.overrideTrack ++
    [if parameter.active = .override then "1" else "0", parameter.notes, parameter.id,
      parameter.modifiedBy, parameter.modifiedOn, parameter.name.getD ""]

/-- Fields without the empty ones at the end. -/
def withoutTrailing (fields : List String) : List String :=
  (fields.reverse.dropWhile (·.isEmpty)).reverse

/-- The line of a parameter. -/
def toLine (parameter : Parameter α) : String :=
  Fields.joinLine (withoutTrailing parameter.allFields)

end Parameter

end Metrology
