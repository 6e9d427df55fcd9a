/-!
# Strings as JSON text spells them

A string is spelled with characters and escapes.  An escape may stand for half
of a character only; such a string is well formed, but it has a text only if
every half has its other half next to it.
-/

namespace Metrology.Json

def hexDigit? (character : Char) : Option Nat :=
  if character.isDigit then some (character.toNat - '0'.toNat)
  else if 'a' ≤ character ∧ character ≤ 'f' then
    some (character.toNat - 'a'.toNat + 10)
  else if 'A' ≤ character ∧ character ≤ 'F' then
    some (character.toNat - 'A'.toNat + 10)
  else none

/-- The 16-bit word that four hexadecimal digits denote. -/
def hexWord? (first second third fourth : Char) : Option Nat := do
  let a ← hexDigit? first
  let b ← hexDigit? second
  let c ← hexDigit? third
  let d ← hexDigit? fourth
  some (((a * 16 + b) * 16 + c) * 16 + d)

/-- The character that a short escape stands for. -/
def shortEscape? (letter : Char) : Option Char :=
  [('"', '"'), ('\\', '\\'), ('/', '/'), ('b', '\x08'), ('f', '\x0c'),
    ('n', '\n'), ('r', '\r'), ('t', '\t')].lookup letter

/-- What one spelling in a string stands for: a character, or a surrogate, which
is half of one. -/
inductive Piece where
  | character (value : Char)
  | half (word : Nat)
  deriving DecidableEq, Repr

/-- The piece that a 16-bit word stands for. -/
def Piece.ofWord (word : Nat) : Piece :=
  if 0xd800 ≤ word ∧ word < 0xe000 then .half word else .character (Char.ofNat word)

/-- Take the pieces of a string up to its closing quote. -/
def takeString : List Char → Option (List Piece × List Char)
  | '"' :: rest => some ([], rest)
  | '\\' :: 'u' :: a :: b :: c :: d :: rest => do
      let word ← hexWord? a b c d
      let (pieces, after) ← takeString rest
      some (.ofWord word :: pieces, after)
  | '\\' :: letter :: rest => do
      let character ← shortEscape? letter
      let (pieces, after) ← takeString rest
      some (.character character :: pieces, after)
  | character :: rest =>
      if character.toNat < 0x20 ∨ character = '\\' then none
      else do
        let (pieces, after) ← takeString rest
        some (.character character :: pieces, after)
  | [] => none

/-- The character that two halves make up: a high one and then a low one. -/
def joined? (high low : Nat) : Option Char :=
  if high < 0xdc00 ∧ 0xdc00 ≤ low then
    some (Char.ofNat (0x10000 + (high - 0xd800) * 0x400 + (low - 0xdc00)))
  else none

/-- The characters of a string, if every half has its other half next to it. -/
def characters? : List Piece → Option (List Char)
  | [] => some []
  | .character value :: rest => (characters? rest).map (value :: ·)
  | .half high :: .half low :: rest => do
      let value ← joined? high low
      let others ← characters? rest
      some (value :: others)
  | .half _ :: _ => none

/-! ## Progress -/

/-- Taking a string takes its closing quote at least. -/
theorem length_after_takeString {text after : List Char} {pieces : List Piece}
    (taken : takeString text = some (pieces, after)) : after.length < text.length := by
  fun_induction takeString text generalizing pieces with
  | case1 rest =>
      injection taken with equal
      injection equal with _ equal
      subst equal
      exact Nat.lt_succ_self _
  | case2 a b c d rest ih =>
      obtain ⟨_, _, taken⟩ := Option.bind_eq_some_iff.mp taken
      obtain ⟨⟨_, others⟩, inner, equal⟩ := Option.bind_eq_some_iff.mp taken
      injection equal with equal
      injection equal with _ equal
      subst equal
      have shorter := ih inner
      simp only [List.length_cons]
      omega
  | case3 letter rest _ ih =>
      obtain ⟨_, _, taken⟩ := Option.bind_eq_some_iff.mp taken
      obtain ⟨⟨_, others⟩, inner, equal⟩ := Option.bind_eq_some_iff.mp taken
      injection equal with equal
      injection equal with _ equal
      subst equal
      have shorter := ih inner
      simp only [List.length_cons]
      omega
  | case4 => injection taken
  | case5 character rest _ _ _ _ ih =>
      obtain ⟨⟨_, others⟩, inner, equal⟩ := Option.bind_eq_some_iff.mp taken
      injection equal with equal
      injection equal with _ equal
      subst equal
      exact Nat.lt_succ_of_lt (ih inner)
  | case6 => injection taken

end Metrology.Json
