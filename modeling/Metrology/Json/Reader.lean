import Metrology.Json.Token

/-!
# Reading JSON

The values of a token sequence.  A reader returns what it read together with
the tokens that are left, which are fewer than it was given.
-/

namespace Metrology.Json

/-- A result and the tokens left of a sequence. -/
structure Reading (β : Type) (tokens : List Token) where
  value : β
  rest : List Token
  shorter : rest.length < tokens.length

/-- The reading as one of a longer sequence. -/
def Reading.widen {β γ : Type} {tokens : List Token} (longer : List Token)
    (reading : Reading β tokens) (bound : tokens.length ≤ longer.length)
    (convert : β → γ) : Reading γ longer :=
  ⟨convert reading.value, reading.rest, Nat.lt_of_lt_of_le reading.shorter bound⟩

theorem Reading.length_tail_lt {β : Type} {tokens : List Token}
    (reading : Reading β tokens) : reading.rest.tail.length < tokens.length := by
  have shorter := reading.shorter
  rw [List.length_tail]
  omega

theorem length_lt_cons_cons (first second : Token) (rest : List Token) :
    rest.length < (first :: second :: rest).length :=
  Nat.lt_succ_of_lt (Nat.lt_succ_self _)

/-- A string with the text that it spells. -/
def ofSpelled : Option String → Json
  | some text => .string text
  | none => .unpaired

/-- An object with the names that its members spell. -/
def ofMembers (members : List (Option String × Json)) : Json :=
  match members.mapM fun (name, value) => name.map fun name => (name, value) with
  | some named => .object named
  | none => .unpaired

mutual

/-- Read one value. -/
def readValue (tokens : List Token) : Option (Reading Json tokens) :=
  match tokens with
  | .atom value :: rest => some ⟨value, rest, Nat.lt_succ_self _⟩
  | .string text :: rest => some ⟨ofSpelled text, rest, Nat.lt_succ_self _⟩
  | .openBracket :: .closeBracket :: rest =>
      some ⟨.array [], rest, length_lt_cons_cons _ _ rest⟩
  | .openBracket :: rest => (readItems rest).map (·.widen _ (Nat.le_succ _) .array)
  | .openBrace :: .closeBrace :: rest =>
      some ⟨.object [], rest, length_lt_cons_cons _ _ rest⟩
  | .openBrace :: rest => (readMembers rest).map (·.widen _ (Nat.le_succ _) ofMembers)
  | _ => none
  termination_by 2 * tokens.length
  decreasing_by all_goals simp only [List.length_cons]; omega

/-- Read at least one item, through the closing bracket. -/
def readItems (tokens : List Token) : Option (Reading (List Json) tokens) :=
  match readValue tokens with
  | none => none
  | some item =>
      match item.rest.head? with
      | some .closeBracket => some ⟨[item.value], item.rest.tail, item.length_tail_lt⟩
      | some .comma =>
          (readItems item.rest.tail).map
            (·.widen _ (Nat.le_of_lt item.length_tail_lt) (item.value :: ·))
      | _ => none
  termination_by 2 * tokens.length + 1
  decreasing_by
    · omega
    · have shorter := item.length_tail_lt
      omega

/-- Read at least one member, through the closing brace. -/
def readMembers (tokens : List Token) :
    Option (Reading (List (Option String × Json)) tokens) :=
  match tokens with
  | .string name :: .colon :: others =>
      match readValue others with
      | none => none
      | some value =>
          match value.rest.head? with
          | some .closeBrace =>
              some ⟨[(name, value.value)], value.rest.tail,
                Nat.lt_of_lt_of_le value.length_tail_lt (Nat.le_add_right _ 2)⟩
          | some .comma =>
              (readMembers value.rest.tail).map
                (·.widen _
                  (Nat.le_trans (Nat.le_of_lt value.length_tail_lt) (Nat.le_add_right _ 2))
                  ((name, value.value) :: ·))
          | _ => none
  | _ => none
  termination_by 2 * tokens.length + 1
  decreasing_by
    · simp only [List.length_cons]
      omega
    · have shorter := value.length_tail_lt
      simp only [List.length_cons]
      omega

end

/-- The value of a whole text. -/
def ofText? (text : String) : Option Json := do
  let tokens ← tokens? text.toList
  let reading ← readValue tokens
  if reading.rest.isEmpty then some reading.value else none

end Metrology.Json
