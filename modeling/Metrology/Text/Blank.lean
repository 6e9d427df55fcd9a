/-!
# Blank characters

A blank is a character of the Unicode property `White_Space`.  Texts are
trimmed of blanks at both ends before they are read.
-/

namespace Metrology.Text

/-- Whether a character's code point lies in one of the closed ranges. -/
def inRanges (ranges : List (Nat × Nat)) (character : Char) : Bool :=
  ranges.any fun range =>
    range.1 ≤ character.toNat && character.toNat ≤ range.2

/-- The code points of the property `White_Space`. -/
def blankRanges : List (Nat × Nat) :=
  [(0x09, 0x0d), (0x20, 0x20), (0x85, 0x85), (0xa0, 0xa0), (0x1680, 0x1680),
    (0x2000, 0x200a), (0x2028, 0x2029), (0x202f, 0x202f), (0x205f, 0x205f),
    (0x3000, 0x3000)]

def isBlank (character : Char) : Bool :=
  inRanges blankRanges character

/-- A text without its leading blanks. -/
def trimStart (text : List Char) : List Char :=
  text.dropWhile isBlank

/-- A text without its trailing blanks. -/
def trimEnd (text : List Char) : List Char :=
  (text.reverse.dropWhile isBlank).reverse

/-- A text without the blanks at its two ends. -/
def trim (text : List Char) : List Char :=
  trimEnd (trimStart text)

/-- `trim` on strings. -/
def trimmed (text : String) : String :=
  String.ofList (trim text.toList)

/-- Every blank of the standard library's ASCII notion is a blank here. -/
theorem isBlank_of_isWhitespace {character : Char}
    (white : character.isWhitespace = true) : isBlank character = true := by
  simp only [Char.isWhitespace, Bool.or_eq_true, decide_eq_true_eq] at white
  rcases white with (((rfl | rfl) | rfl) | rfl) <;> decide

end Metrology.Text
