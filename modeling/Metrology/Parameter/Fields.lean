/-!
# Delimited fields

A line holds fields between semicolons.  A backslash takes the character after
it as it is; at the end of a line it stands for itself.
-/

namespace Metrology.Fields

/-- Put a character before the first field. -/
def pushFront (character : Char) : List (List Char) → List (List Char)
  | [] => [[character]]
  | field :: rest => (character :: field) :: rest

/-- The fields of a line. -/
def split : List Char → List (List Char)
  | [] => [[]]
  | ['\\'] => [['\\']]
  | '\\' :: character :: rest => pushFront character (split rest)
  | character :: rest =>
      if character = ';' then [] :: split rest else pushFront character (split rest)

/-- One character of a field, as it stands in a line. -/
def escapeOne (character : Char) : List Char :=
  if character = ';' ∨ character = '\\' then ['\\', character] else [character]

def escape (field : List Char) : List Char :=
  field.flatMap escapeOne

/-- The line of fields. -/
def join : List (List Char) → List Char
  | [] => []
  | [field] => escape field
  | field :: rest => escape field ++ ';' :: join rest

/-- `split` on strings. -/
def splitLine (line : String) : List String :=
  (split line.toList).map String.ofList

/-- `join` on strings. -/
def joinLine (fields : List String) : String :=
  String.ofList (join (fields.map String.toList))

end Metrology.Fields
