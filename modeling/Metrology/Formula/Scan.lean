import Metrology.Formula.Fault
import Metrology.Text.Letter

/-!
# Scanning one token

Taking one token off a text.  What is left is no longer than what follows the
first character of the token.
-/

namespace Metrology.Formula

variable {α : Type}

/-- A token and the text after it, or a problem at some distance from the start
of the token. -/
abbrev Scan (α : Type) := Except (Nat × Problem α) (Token α × List Char)

/-- The longer token if its second character follows, and the shorter one, if
there is one, otherwise. -/
def scanPair (second : Char) (double : Token α) (single : Option (Token α))
    (rest : List Char) : Scan α :=
  match rest, single with
  | next :: after, some token =>
      if next = second then .ok (double, after) else .ok (token, next :: after)
  | next :: after, none =>
      if next = second then .ok (double, after)
      else .error (0, .expectedCharacter second)
  | [], some token => .ok (token, [])
  | [], none => .error (0, .expectedCharacter second)

/-- The text up to the closing mark and the text after it.  The distance of the
next character from the opening mark is `distance`. -/
def takeDelimited (opening closing : Char) :
    Nat → List Char → Except (Nat × Problem α) (List Char × List Char)
  | _, [] => .error (0, .unterminated opening)
  | distance, character :: rest =>
      if character = closing then .ok ([], rest)
      else if character = opening then .error (distance, .nested opening)
      else
        match takeDelimited opening closing (distance + 1) rest with
        | .error fault => .error fault
        | .ok (inside, after) => .ok (character :: inside, after)

def scanUnitTag (rest : List Char) : Scan α :=
  match takeDelimited '{' '}' 1 rest with
  | .error fault => .error fault
  | .ok (inside, after) => .ok (.unitTag (String.ofList (Text.trim inside)), after)

def scanReference (rest : List Char) : Scan α :=
  match takeDelimited '[' ']' 1 rest with
  | .error fault => .error fault
  | .ok (inside, after) =>
      let name := Text.trim inside
      if name.isEmpty then .error (0, .emptyReference)
      else .ok (.reference (String.ofList name), after)

/-- The characters of names after the first. -/
def isNameCharacter (character : Char) : Bool :=
  Text.isLetterOrNumeral character || character = '_'

def scanIdentifier (first : Char) (rest : List Char) : Scan α :=
  .ok (.identifier (String.ofList (first :: rest.takeWhile isNameCharacter)),
    rest.dropWhile isNameCharacter)

/-- Digits with at most one point among them, and the text after them. -/
def takeMantissa (text : List Char) : List Char × List Char :=
  match text.dropWhile Char.isDigit with
  | '.' :: rest =>
      (text.takeWhile Char.isDigit ++ '.' :: rest.takeWhile Char.isDigit,
        rest.dropWhile Char.isDigit)
  | rest => (text.takeWhile Char.isDigit, rest)

/-- The sign of an exponent, if there is one, and the text after it. -/
def takeExponentSign : List Char → List Char × List Char
  | '+' :: rest => (['+'], rest)
  | '-' :: rest => (['-'], rest)
  | text => ([], text)

/-- An exponent and the text after it.  Without a digit it is no exponent. -/
def takeExponent : List Char → List Char × List Char
  | [] => ([], [])
  | mark :: rest =>
      if mark = 'e' ∨ mark = 'E' then
        let digits := (takeExponentSign rest).2
        if (digits.takeWhile Char.isDigit).isEmpty then ([], mark :: rest)
        else
          (mark :: (takeExponentSign rest).1 ++ digits.takeWhile Char.isDigit,
            digits.dropWhile Char.isDigit)
      else ([], mark :: rest)

def scanNumber [Scalar α] (text : List Char) : Scan α :=
  let (mantissa, afterMantissa) := takeMantissa text
  let (exponent, after) := takeExponent afterMantissa
  match Numeral.readDecimal? (mantissa ++ exponent) with
  | some numeral => .ok (.number (Scalar.ofNumeral numeral), after)
  | none => .error (0, .badNumber (String.ofList (mantissa ++ exponent)))

/-- The number or the name that starts with a character. -/
def scanWord [Scalar α] (first : Char) (rest : List Char) : Scan α :=
  if first.isDigit || first = '.' then scanNumber (first :: rest)
  else if Text.isLetter first || first = '_' then scanIdentifier first rest
  else .error (0, .unexpectedCharacter first)

/-- The token that a character is by itself. -/
def mark? : Char → Option (Token α)
  | '+' => some .plus
  | '-' => some .minus
  | '*' => some .star
  | '/' => some .slash
  | '^' => some .caret
  | '(' => some .openParen
  | ')' => some .closeParen
  | ',' => some .comma
  | _ => none

/-- The token that starts with a character that is no token by itself. -/
def scanLong [Scalar α] (first : Char) (rest : List Char) : Scan α :=
  match first with
  | '=' => scanPair '=' .equal none rest
  | '!' => scanPair '=' .notEqual none rest
  | '<' => scanPair '=' .lessOrEqual (some .less) rest
  | '>' => scanPair '=' .greaterOrEqual (some .greater) rest
  | '&' => scanPair '&' .and none rest
  | '|' => scanPair '|' .or none rest
  | '{' => scanUnitTag rest
  | '[' => scanReference rest
  | other => scanWord other rest

/-- The token that starts with a character that is not blank. -/
def scan [Scalar α] (first : Char) (rest : List Char) : Scan α :=
  match mark? first with
  | some token => .ok (token, rest)
  | none => scanLong first rest

/-! ## Progress -/

theorem length_dropWhile_le (test : Char → Bool) (text : List Char) :
    (text.dropWhile test).length ≤ text.length :=
  (List.dropWhile_suffix test).length_le

theorem length_after_scanPair {second : Char} {double : Token α}
    {single : Option (Token α)} {rest after : List Char} {token : Token α}
    (scanned : scanPair second double single rest = .ok (token, after)) :
    after.length ≤ rest.length := by
  unfold scanPair at scanned
  grind

theorem length_after_takeDelimited {opening closing : Char} {distance : Nat}
    {rest inside after : List Char}
    (taken : (takeDelimited opening closing distance rest :
      Except (Nat × Problem α) _) = .ok (inside, after)) :
    after.length ≤ rest.length := by
  induction rest generalizing distance inside after with
  | nil => simp [takeDelimited] at taken
  | cons character rest ih =>
      rw [takeDelimited] at taken
      split at taken
      · injection taken with equal
        injection equal with _ equal
        subst equal
        simp
      · split at taken
        · injection taken
        · split at taken
          · injection taken
          · next inner =>
              injection taken with equal
              injection equal with _ equal
              subst equal
              exact Nat.le_succ_of_le (ih inner)

theorem length_after_takeMantissa (text : List Char) :
    (takeMantissa text).2.length ≤ text.length := by
  unfold takeMantissa
  split
  · next rest found =>
      have outer := length_dropWhile_le Char.isDigit text
      have inner := length_dropWhile_le Char.isDigit rest
      rw [found, List.length_cons] at outer
      simp only
      omega
  · exact length_dropWhile_le Char.isDigit text

/-- A mantissa that starts with a digit or a point takes that character. -/
theorem length_after_takeMantissa_cons {first : Char} (rest : List Char)
    (starts : first.isDigit = true ∨ first = '.') :
    (takeMantissa (first :: rest)).2.length ≤ rest.length := by
  by_cases digit : first.isDigit = true
  · have same : (takeMantissa (first :: rest)).2 = (takeMantissa rest).2 := by
      simp only [takeMantissa, List.dropWhile_cons, digit, if_true]
      split <;> rfl
    rw [same]
    exact length_after_takeMantissa rest
  · have point := starts.resolve_left digit
    subst point
    simp only [takeMantissa, List.dropWhile_cons, digit]
    exact length_dropWhile_le Char.isDigit rest

theorem length_after_takeExponentSign (text : List Char) :
    (takeExponentSign text).2.length ≤ text.length := by
  unfold takeExponentSign
  split <;> simp

theorem length_after_takeExponent (text : List Char) :
    (takeExponent text).2.length ≤ text.length := by
  unfold takeExponent
  split
  · simp
  · next mark rest =>
      split
      · simp only
        split
        · simp
        · have outer := length_after_takeExponentSign rest
          have inner := length_dropWhile_le Char.isDigit (takeExponentSign rest).2
          simp only [List.length_cons]
          omega
      · simp

theorem length_after_scanNumber [Scalar α] {first : Char} {rest after : List Char}
    {token : Token α} (starts : first.isDigit = true ∨ first = '.')
    (scanned : scanNumber (first :: rest) = .ok (token, after)) :
    after.length ≤ rest.length := by
  have mantissa := length_after_takeMantissa_cons rest starts
  have exponent := length_after_takeExponent (takeMantissa (first :: rest)).2
  unfold scanNumber at scanned
  simp only at scanned
  split at scanned
  · injection scanned with equal
    injection equal with _ equal
    subst equal
    omega
  · injection scanned

theorem length_after_scanUnitTag {rest after : List Char} {token : Token α}
    (scanned : scanUnitTag rest = .ok (token, after)) :
    after.length ≤ rest.length := by
  unfold scanUnitTag at scanned
  split at scanned
  · injection scanned
  · next taken =>
      injection scanned with equal
      injection equal with _ equal
      subst equal
      exact length_after_takeDelimited taken

theorem length_after_scanReference {rest after : List Char} {token : Token α}
    (scanned : scanReference rest = .ok (token, after)) :
    after.length ≤ rest.length := by
  unfold scanReference at scanned
  split at scanned
  · injection scanned
  · next taken =>
      simp only at scanned
      split at scanned
      · injection scanned
      · injection scanned with equal
        injection equal with _ equal
        subst equal
        exact length_after_takeDelimited taken

theorem length_after_scanIdentifier {first : Char} {rest after : List Char}
    {token : Token α} (scanned : scanIdentifier first rest = .ok (token, after)) :
    after.length ≤ rest.length := by
  injection scanned with equal
  injection equal with _ equal
  subst equal
  exact length_dropWhile_le isNameCharacter rest

theorem length_after_scanWord [Scalar α] {first : Char} {rest after : List Char}
    {token : Token α} (scanned : scanWord first rest = .ok (token, after)) :
    after.length ≤ rest.length := by
  unfold scanWord at scanned
  split at scanned
  · next starts => exact length_after_scanNumber (by simpa using starts) scanned
  · split at scanned
    · exact length_after_scanIdentifier scanned
    · injection scanned

theorem length_after_scanLong [Scalar α] {first : Char} {rest after : List Char}
    {token : Token α} (scanned : scanLong first rest = .ok (token, after)) :
    after.length ≤ rest.length := by
  unfold scanLong at scanned
  split at scanned
  · exact length_after_scanPair scanned
  · exact length_after_scanPair scanned
  · exact length_after_scanPair scanned
  · exact length_after_scanPair scanned
  · exact length_after_scanPair scanned
  · exact length_after_scanPair scanned
  · exact length_after_scanUnitTag scanned
  · exact length_after_scanReference scanned
  · exact length_after_scanWord scanned

/-- Scanning a token leaves no more than what follows its first character. -/
theorem length_after_scan [Scalar α] {first : Char} {rest after : List Char}
    {token : Token α} (scanned : scan first rest = .ok (token, after)) :
    after.length ≤ rest.length := by
  unfold scan at scanned
  split at scanned
  · injection scanned with equal
    injection equal with _ equal
    subst equal
    exact Nat.le_refl _
  · exact length_after_scanLong scanned

end Metrology.Formula
