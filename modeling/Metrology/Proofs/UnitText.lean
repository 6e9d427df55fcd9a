import Metrology.Proofs.Combining

/-!
# Unit expressions read back

What is written from terms is read back as these terms, combined and with the
denominator last.
-/

namespace Metrology

namespace Text

/-- A text with something in it and no blank at its ends. -/
structure Bare (text : List Char) : Prop where
  filled : text ≠ []
  first : ∀ character ∈ text.head?, isBlank character = false
  last : ∀ character ∈ text.getLast?, isBlank character = false

def isBare (text : List Char) : Bool :=
  !text.isEmpty && text.head?.all (!isBlank ·) && text.getLast?.all (!isBlank ·)

theorem isBare_iff {text : List Char} : isBare text = true ↔ Bare text := by
  simp only [isBare, Bool.and_eq_true, Bool.not_eq_true', List.isEmpty_eq_false_iff,
    Option.all_eq_true]
  constructor
  · rintro ⟨⟨filled, first⟩, last⟩
    exact ⟨filled, first, last⟩
  · rintro ⟨filled, first, last⟩
    exact ⟨⟨filled, first⟩, last⟩

theorem Bare.trim {text : List Char} (bare : Bare text) : trim text = text := by
  have started : trimStart text = text := by
    cases text with
    | nil => rfl
    | cons character rest =>
        exact List.dropWhile_cons_of_neg (by simp [bare.first character rfl])
  rw [Text.trim, started, trimEnd]
  cases ended : text.reverse with
  | nil =>
      rw [List.reverse_eq_nil_iff.1 ended]
      rfl
  | cons character rest =>
      have final : text.getLast? = some character := by
        rw [← List.head?_reverse, ended]
        rfl
      rw [List.dropWhile_cons_of_neg (by simp [bare.last character final]), ← ended,
        List.reverse_reverse]

theorem Bare.append {left right : List Char} (leftBare : Bare left) (middle : List Char)
    (rightBare : Bare right) : Bare (left ++ middle ++ right) where
  filled := by simp [leftBare.filled]
  first character heads := by
    rw [List.append_assoc, List.head?_append_of_ne_nil _ leftBare.filled] at heads
    exact leftBare.first character heads
  last character ends := by
    rw [List.getLast?_append_of_ne_nil _ rightBare.filled] at ends
    exact rightBare.last character ends

/-- Bare texts stay bare when they are joined. -/
theorem Bare.intercalate (separator : List Char) {texts : List (List Char)}
    (filled : texts ≠ []) (bare : ∀ text ∈ texts, Bare text) :
    Bare (separator.intercalate texts) := by
  induction texts with
  | nil => exact absurd rfl filled
  | cons text rest ih =>
      have textBare := bare text List.mem_cons_self
      cases rest with
      | nil => rwa [List.intercalate_singleton]
      | cons next later =>
          have restBare := ih (List.cons_ne_nil _ _) fun other member =>
            bare other (List.mem_cons_of_mem _ member)
          rw [List.intercalate_cons_cons]
          exact textBare.append separator restBare

end Text

namespace UnitExpression

/-! ## Tokens -/

/-- A text that stands for one unit. -/
structure IsToken (token : String) : Prop where
  bare : Text.Bare token.toList
  plain : ∀ character ∈ token.toList, character ≠ '*' ∧ character ≠ '/' ∧ character ≠ '^'
  notOne : token.toList ≠ ['1']

def isTokenText (token : String) : Bool :=
  Text.isBare token.toList &&
    token.toList.all (fun character => character != '*' && character != '/' && character != '^') &&
    token.toList != ['1']

theorem isTokenText_iff {token : String} : isTokenText token = true ↔ IsToken token := by
  simp only [isTokenText, Bool.and_eq_true, Text.isBare_iff, List.all_eq_true, bne_iff_ne]
  constructor
  · rintro ⟨⟨bare, plain⟩, notOne⟩
    exact ⟨bare, fun character member =>
      ⟨(plain character member).1.1, (plain character member).1.2, (plain character member).2⟩,
      notOne⟩
  · rintro ⟨bare, plain, notOne⟩
    exact ⟨⟨bare, fun character member =>
      ⟨⟨(plain character member).1, (plain character member).2.1⟩,
        (plain character member).2.2⟩⟩, notOne⟩

instance (token : String) : Decidable (IsToken token) :=
  decidable_of_iff _ isTokenText_iff

/-- The greatest exponent that is read. -/
def greatestExponent : Nat := 2147483647

theorem isBlank_of_isDigit {character : Char} (digit : character.isDigit = true) :
    Text.isBlank character = false := by
  simp only [Char.isDigit, Bool.and_eq_true, decide_eq_true_eq, UInt32.le_iff_toNat_le] at digit
  have lower : 48 ≤ character.toNat := digit.1
  have upper : character.toNat ≤ 57 := digit.2
  simp only [Text.isBlank, Text.inRanges, Text.blankRanges, List.any_cons, List.any_nil,
    Bool.or_false, Bool.or_eq_false_iff, Bool.and_eq_false_iff, decide_eq_false_iff_not]
  omega

theorem bare_toDigits (count : Nat) : Text.Bare (Nat.toDigits 10 count) := by
  have nonblank : ∀ character ∈ Nat.toDigits 10 count, Text.isBlank character = false :=
    fun _ member => isBlank_of_isDigit
      (Nat.isDigit_of_mem_toDigits (by decide) (by decide) member)
  exact ⟨Nat.toDigits_ne_nil, fun _ first => nonblank _ (List.mem_of_mem_head? first),
    fun _ last => nonblank _ (List.mem_of_getLast? last)⟩

/-- A written exponent is read back as long as it is not too great. -/
theorem readExponent?_toDigits (count : Nat) :
    readExponent? (Nat.toDigits 10 count) =
      if count ≤ greatestExponent then some (count : Int) else none := by
  have digits : ∀ character ∈ Nat.toDigits 10 count, character.isDigit = true :=
    fun _ member => Nat.isDigit_of_mem_toDigits (by decide) (by decide) member
  have unsigned : Numeral.readSign (Nat.toDigits 10 count) =
      (false, Nat.toDigits 10 count) := by
    cases word : Nat.toDigits 10 count with
    | nil => rfl
    | cons first rest =>
        have digit := digits first (by rw [word]; exact List.mem_cons_self)
        unfold Numeral.readSign
        split
        · next heads =>
            cases heads
            cases digit
        · next heads =>
            cases heads
            cases digit
        · rfl
  rw [readExponent?, (bare_toDigits count).trim, Numeral.readInt?, unsigned]
  have whole : (Nat.toDigits 10 count).all Char.isDigit = true := List.all_eq_true.2 digits
  have value : Numeral.digitsValue (Nat.toDigits 10 count) = count :=
    Nat.ofDigitChars_ten_toDigits
  have negative : (-2147483648 : Int) ≤ count := by omega
  have bound : (count : Int) ≤ 2147483647 ↔ count ≤ greatestExponent := by
    rw [greatestExponent]
    omega
  simp [whole, value, Nat.toDigits_ne_nil, Option.filter, bound, negative]

/-- The characters of a factor with a positive exponent. -/
theorem toList_factorText (token : String) (count : Nat) :
    (factorText token count).toList =
      if count = 1 then token.toList
      else token.toList ++ '^' :: Nat.toDigits 10 count := by
  by_cases one : count = 1
  · simp [factorText, one]
  · have several : (count : Int) ≠ 1 := by exact_mod_cast one
    rw [factorText, if_neg several, if_neg one]
    change (token ++ "^" ++ Nat.repr count).toList = _
    simp [Nat.toList_repr]

theorem bare_factorText {token : String} (isToken : IsToken token) (count : Nat) :
    Text.Bare (factorText token count).toList := by
  rw [toList_factorText]
  split
  · exact isToken.bare
  · have joined := isToken.bare.append ['^'] (bare_toDigits count)
    rwa [List.append_assoc] at joined

theorem plain_factorText {token : String} (isToken : IsToken token) (count : Nat) :
    '*' ∉ (factorText token count).toList ∧ '/' ∉ (factorText token count).toList := by
  have plainToken : '*' ∉ token.toList ∧ '/' ∉ token.toList :=
    ⟨fun member => (isToken.plain _ member).1 rfl,
      fun member => (isToken.plain _ member).2.1 rfl⟩
  have plainDigits : '*' ∉ Nat.toDigits 10 count ∧ '/' ∉ Nat.toDigits 10 count := by
    constructor
    · intro member
      cases Nat.isDigit_of_mem_toDigits (by decide) (by decide) member
    · intro member
      cases Nat.isDigit_of_mem_toDigits (by decide) (by decide) member
  rw [toList_factorText]
  split
  · exact plainToken
  · simp [plainToken, plainDigits]

theorem splitFactor_factorText {token : String} (isToken : IsToken token) (count : Nat) :
    splitFactor (factorText token count).toList =
      if count ≤ greatestExponent then .ok (token.toList, (count : Int))
      else .error (.badExponent (String.ofList (Nat.toDigits 10 count))) := by
  have uncapped : ∀ character ∈ token.toList, (decide (character ≠ '^')) = true := by
    intro character member
    simpa using (isToken.plain character member).2.2
  rw [toList_factorText, splitFactor]
  by_cases one : count = 1
  · have none_left : token.toList.dropWhile (· ≠ '^') = [] := by
      rw [← List.append_nil token.toList, List.dropWhile_append_of_pos uncapped]
      rfl
    rw [if_pos one, none_left, one]
    rfl
  · rw [if_neg one, List.dropWhile_append_of_pos uncapped, List.takeWhile_append_of_pos uncapped]
    by_cases fits : count ≤ greatestExponent <;>
      simp [readExponent?_toDigits, isToken.bare.trim, fits]

/-- A written factor is read as the term that it was written from. -/
theorem factorTerms_factorText {token : String} (isToken : IsToken token) (sign : Int)
    {count : Nat} (fits : count ≤ greatestExponent) :
    factorTerms sign (factorText token count).toList = .ok [⟨token, count * sign⟩] := by
  have filled : (factorText token count).toList.isEmpty = false :=
    List.isEmpty_eq_false_iff.2 (bare_factorText isToken count).filled
  have bareToken : token.toList.isEmpty = false := List.isEmpty_eq_false_iff.2 isToken.bare.filled
  simp only [factorTerms, (bare_factorText isToken count).trim, filled,
    splitFactor_factorText isToken, fits, bareToken, isToken.notOne, Bool.false_eq_true, if_true,
    if_false, bind, Except.bind, String.ofList_toList]

/-- Only factors with exponents that are not too great are read. -/
theorem le_of_factorTerms {token : String} (isToken : IsToken token) {sign : Int} {count : Nat}
    {terms : List UnitTerm}
    (read : factorTerms sign (factorText token count).toList = .ok terms) :
    count ≤ greatestExponent := by
  by_contra exceeds
  have filled : (factorText token count).toList.isEmpty = false :=
    List.isEmpty_eq_false_iff.2 (bare_factorText isToken count).filled
  simp [factorTerms, (bare_factorText isToken count).trim, filled,
    splitFactor_factorText isToken, exceeds, bind, Except.bind] at read

/-! ## Sides and whole expressions -/

theorem mapM_eq_ok {β γ : Type} {read : β → Except Fault γ} {values : List β}
    (result : β → γ) (reads : ∀ value ∈ values, read value = .ok (result value)) :
    values.mapM read = .ok (values.map result) := by
  induction values with
  | nil => rfl
  | cons value rest ih =>
      rw [List.mapM_cons, reads value List.mem_cons_self,
        ih fun other member => reads other (List.mem_cons_of_mem _ member)]
      rfl

theorem ok_of_mapM {β γ : Type} {read : β → Except Fault γ} {values : List β} {results : List γ}
    (reads : values.mapM read = .ok results) :
    ∀ value ∈ values, ∃ result, read value = .ok result := by
  induction values generalizing results with
  | nil => exact fun _ impossible => absurd impossible List.not_mem_nil
  | cons value rest ih =>
      rw [List.mapM_cons] at reads
      cases first : read value with
      | error fault =>
          rw [first] at reads
          cases reads
      | ok result =>
          cases others : rest.mapM read with
          | error fault =>
              rw [first, others] at reads
              cases reads
          | ok later => exact List.forall_mem_cons.2 ⟨⟨result, first⟩, ih others⟩

/-- Terms whose tokens can be read and whose exponents are not negative. -/
def Writable (terms : List UnitTerm) : Prop :=
  ∀ term ∈ terms, IsToken term.token ∧ 0 ≤ term.exponent

/-- Terms whose tokens can be read and whose exponents are neither negative nor too
great. -/
def Readable (terms : List UnitTerm) : Prop :=
  ∀ term ∈ terms, IsToken term.token ∧ 0 ≤ term.exponent ∧
    term.exponent ≤ greatestExponent

theorem Readable.writable {terms : List UnitTerm} (readable : Readable terms) : Writable terms :=
  fun term member => ⟨(readable term member).1, (readable term member).2.1⟩

/-- The text of one side. -/
def sideText (terms : List UnitTerm) : String :=
  "*".intercalate (terms.map fun term => factorText term.token term.exponent)

theorem exists_count_of_writable {terms : List UnitTerm} (writable : Writable terms)
    {term : UnitTerm} (member : term ∈ terms) :
    IsToken term.token ∧ ∃ count : Nat, term.exponent = count := by
  obtain ⟨isToken, nonnegative⟩ := writable term member
  exact ⟨isToken, Int.eq_ofNat_of_zero_le nonnegative⟩

theorem toList_sideText (terms : List UnitTerm) :
    (sideText terms).toList =
      ['*'].intercalate (terms.map fun term => (factorText term.token term.exponent).toList) := by
  rw [sideText, String.toList_intercalate, List.map_map]
  rfl

theorem bare_sideText {terms : List UnitTerm} (filled : terms ≠ [])
    (writable : Writable terms) : Text.Bare (sideText terms).toList := by
  rw [toList_sideText]
  refine Text.Bare.intercalate _ (by simpa using filled) ?_
  intro text member
  obtain ⟨term, inside, rfl⟩ := List.mem_map.1 member
  obtain ⟨isToken, count, same⟩ := exists_count_of_writable writable inside
  rw [same]
  exact bare_factorText isToken count

theorem splitOn_sideText {terms : List UnitTerm} (filled : terms ≠ [])
    (writable : Writable terms) :
    (sideText terms).toList.splitOn '*' =
      terms.map fun term => (factorText term.token term.exponent).toList := by
  rw [toList_sideText]
  refine List.splitOn_intercalate '*' ?_ (by simpa using filled)
  intro text member
  obtain ⟨term, inside, rfl⟩ := List.mem_map.1 member
  obtain ⟨isToken, count, same⟩ := exists_count_of_writable writable inside
  rw [same]
  exact (plain_factorText isToken count).1

/-- A written side is read back. -/
theorem sideTerms_sideText {terms : List UnitTerm} (filled : terms ≠ [])
    (readable : Readable terms) (sign : Int) :
    sideTerms sign (sideText terms).toList = .ok (scaled sign terms) := by
  have reads : ∀ term ∈ terms,
      (factorTerms sign ∘ fun term => (factorText term.token term.exponent).toList) term =
        .ok [{ term with exponent := term.exponent * sign }] := by
    intro term member
    obtain ⟨isToken, count, same⟩ := exists_count_of_writable readable.writable member
    have fits := (readable term member).2.2
    rw [Function.comp_apply, same,
      factorTerms_factorText isToken sign (by rw [same] at fits; exact_mod_cast fits)]
  rw [sideTerms, splitOn_sideText filled readable.writable, List.mapM_map, mapM_eq_ok _ reads]
  refine congrArg Except.ok ?_
  rw [scaled, ← List.flatMap_def, List.map_eq_flatMap]

/-- A written side that is read has exponents that are not too great. -/
theorem readable_of_sideTerms {terms read : List UnitTerm} (filled : terms ≠ [])
    (writable : Writable terms) {sign : Int}
    (reads : sideTerms sign (sideText terms).toList = .ok read) : Readable terms := by
  rw [sideTerms, splitOn_sideText filled writable, List.mapM_map] at reads
  intro term member
  obtain ⟨isToken, count, same⟩ := exists_count_of_writable writable member
  cases each : terms.mapM
      (factorTerms sign ∘ fun term => (factorText term.token term.exponent).toList) with
  | error fault =>
      rw [each] at reads
      cases reads
  | ok results =>
      obtain ⟨result, readsTerm⟩ := ok_of_mapM each term member
      rw [Function.comp_apply, same] at readsTerm
      have fits := le_of_factorTerms isToken readsTerm
      exact ⟨isToken, by omega, by omega⟩

theorem not_mem_sideText {terms : List UnitTerm} (writable : Writable terms) :
    '/' ∉ (sideText terms).toList := by
  induction terms with
  | nil => simp [sideText]
  | cons term rest ih =>
      obtain ⟨isToken, count, same⟩ :=
        exists_count_of_writable writable (List.mem_cons_self)
      have restWritable : Writable rest := fun other member =>
        writable other (List.mem_cons_of_mem _ member)
      have plain := (plain_factorText isToken count).2
      rw [toList_sideText, List.map_cons, same]
      cases rest with
      | nil => simpa using plain
      | cons next later =>
          have restPlain := ih restWritable
          rw [toList_sideText, List.map_cons] at restPlain
          rw [List.map_cons, List.intercalate_cons_cons]
          simp [plain, restPlain]

theorem intercalate_aboveTexts (terms : List UnitTerm) :
    "*".intercalate (aboveTexts terms) = sideText (aboveTerms terms) := rfl

theorem intercalate_belowTexts (terms : List UnitTerm) :
    "*".intercalate (belowTexts terms) = sideText (scaled (-1) (belowTerms terms)) := by
  rw [sideText, scaled, List.map_map, belowTexts, belowTerms]
  simp [Function.comp_def]

theorem isEmpty_aboveTexts (terms : List UnitTerm) :
    (aboveTexts terms).isEmpty = (aboveTerms terms).isEmpty := by
  simp [aboveTexts, aboveTerms]

theorem isEmpty_belowTexts (terms : List UnitTerm) :
    (belowTexts terms).isEmpty = (belowTerms terms).isEmpty := by
  simp [belowTexts, belowTerms]

/-- Terms whose tokens can be read, with exponents that can be read on either side. -/
def Legible (terms : List UnitTerm) : Prop :=
  ∀ term ∈ terms, IsToken term.token ∧ term.exponent.natAbs ≤ greatestExponent

theorem Legible.above {terms : List UnitTerm} (legible : Legible terms) :
    Readable (aboveTerms terms) := by
  intro term member
  obtain ⟨inside, positive⟩ := List.mem_filter.1 member
  obtain ⟨isToken, fits⟩ := legible term inside
  have sign : 0 < term.exponent := by simpa using positive
  exact ⟨isToken, sign.le, by omega⟩

theorem Legible.below {terms : List UnitTerm} (legible : Legible terms) :
    Readable (scaled (-1) (belowTerms terms)) := by
  intro term member
  obtain ⟨original, inside, rfl⟩ := List.mem_map.1 member
  obtain ⟨inside, negative⟩ := List.mem_filter.1 inside
  obtain ⟨isToken, fits⟩ := legible original inside
  have sign : original.exponent < 0 := by simpa using negative
  dsimp only
  exact ⟨isToken, by omega, by omega⟩

theorem writable_above {terms : List UnitTerm} (tokens : ∀ term ∈ terms, IsToken term.token) :
    Writable (aboveTerms terms) := by
  intro term member
  obtain ⟨inside, positive⟩ := List.mem_filter.1 member
  have sign : 0 < term.exponent := by simpa using positive
  exact ⟨tokens term inside, sign.le⟩

theorem writable_below {terms : List UnitTerm} (tokens : ∀ term ∈ terms, IsToken term.token) :
    Writable (scaled (-1) (belowTerms terms)) := by
  intro term member
  obtain ⟨original, inside, rfl⟩ := List.mem_map.1 member
  obtain ⟨inside, negative⟩ := List.mem_filter.1 inside
  have sign : original.exponent < 0 := by simpa using negative
  dsimp only
  exact ⟨tokens original inside, by omega⟩

theorem isToken_of_mem_combine {terms : List UnitTerm}
    (tokens : ∀ term ∈ terms, IsToken term.token) {term : UnitTerm}
    (member : term ∈ combine terms) : IsToken term.token := by
  obtain ⟨original, inside, same⟩ := List.mem_map.1
    (mem_tokens_combine.1 (List.mem_map_of_mem member))
  exact same ▸ tokens original inside

/-- Read a side that may be missing. -/
def readSide (sign : Int) (terms : List UnitTerm) : Except Fault (List UnitTerm) :=
  if terms = [] then .ok [] else sideTerms sign (sideText terms).toList

theorem readSide_of_readable {terms : List UnitTerm} (readable : Readable terms) (sign : Int) :
    readSide sign terms = .ok (scaled sign terms) := by
  unfold readSide
  split
  · next missing =>
      rw [missing]
      rfl
  · next filled => exact sideTerms_sideText filled readable sign

theorem readable_of_readSide {terms read : List UnitTerm} (writable : Writable terms)
    {sign : Int} (reads : readSide sign terms = .ok read) : Readable terms := by
  unfold readSide at reads
  split at reads
  · next missing =>
      rw [missing]
      exact fun _ impossible => absurd impossible List.not_mem_nil
  · next filled => exact readable_of_sideTerms filled writable reads

theorem splitTrimmed_side {side : List Char} (bare : Text.Bare side) (plain : '/' ∉ side) :
    splitTrimmed side = sideTerms 1 side := by
  rw [splitTrimmed, if_neg (by simpa using bare.filled), List.splitOn_eq_singleton plain]

theorem splitTrimmed_quotient {numerator denominator : List Char}
    (numeratorBare : Text.Bare numerator) (denominatorBare : Text.Bare denominator)
    (numeratorPlain : '/' ∉ numerator) (denominatorPlain : '/' ∉ denominator) :
    splitTrimmed (numerator ++ '/' :: denominator) = (do
      let above ← sideTerms 1 numerator
      let below ← sideTerms (-1) denominator
      .ok (above ++ below)) := by
  have parts : (numerator ++ '/' :: denominator).splitOn '/' = [numerator, denominator] := by
    rw [List.splitOn_append_cons_self_of_not_mem numeratorPlain,
      List.splitOn_eq_singleton denominatorPlain]
  have numeratorFilled : (Text.trim numerator).isEmpty = false := by
    rw [numeratorBare.trim]
    exact List.isEmpty_eq_false_iff.2 numeratorBare.filled
  have denominatorFilled : (Text.trim denominator).isEmpty = false := by
    rw [denominatorBare.trim]
    exact List.isEmpty_eq_false_iff.2 denominatorBare.filled
  rw [splitTrimmed, if_neg (by simp), parts]
  simp only [numeratorFilled, denominatorFilled, Bool.false_eq_true, if_false]

/-- A text that is written from terms has no blank at its ends. -/
theorem bare_format {terms : List UnitTerm} (tokens : ∀ term ∈ combine terms, IsToken term.token)
    (filled : format terms ≠ "") : Text.Bare (format terms).toList := by
  have aboveWritable := writable_above tokens
  have belowWritable := writable_below tokens
  unfold format at filled ⊢
  dsimp only at filled ⊢
  rw [isEmpty_aboveTexts, isEmpty_belowTexts, intercalate_aboveTexts, intercalate_belowTexts]
    at filled ⊢
  generalize aboveTerms (combine terms) = above at *
  generalize belowTerms (combine terms) = below at *
  cases above with
  | nil =>
      cases below with
      | nil => exact absurd rfl filled
      | cons term rest =>
          have bare := bare_sideText (by simp [scaled]) belowWritable
          have oneBare : Text.Bare ['1'] := Text.isBare_iff.1 (by decide)
          simpa using oneBare.append ['/'] bare
  | cons first others =>
      have bare := bare_sideText (List.cons_ne_nil _ _) aboveWritable
      cases below with
      | nil => exact bare
      | cons term rest =>
          have denominator := bare_sideText (by simp [scaled]) belowWritable
          simpa using bare.append ['/'] denominator

theorem trim_format {terms : List UnitTerm} (tokens : ∀ term ∈ combine terms, IsToken term.token) :
    Text.trim (format terms).toList = (format terms).toList := by
  by_cases empty : format terms = ""
  · rw [empty]
    rfl
  · exact (bare_format tokens empty).trim

theorem trimmed_format {terms : List UnitTerm}
    (tokens : ∀ term ∈ combine terms, IsToken term.token) :
    Text.trimmed (format terms) = format terms := by
  rw [Text.trimmed, trim_format tokens, String.ofList_toList]

/-- What is written from terms is read side by side. -/
theorem splitTrimmed_format {terms : List UnitTerm}
    (tokens : ∀ term ∈ combine terms, IsToken term.token) :
    splitTrimmed (format terms).toList = (do
      let above ← readSide 1 (aboveTerms (combine terms))
      let below ← readSide (-1) (scaled (-1) (belowTerms (combine terms)))
      .ok (above ++ below)) := by
  have aboveWritable := writable_above tokens
  have belowWritable := writable_below tokens
  unfold format readSide
  dsimp only
  rw [isEmpty_aboveTexts, isEmpty_belowTexts, intercalate_aboveTexts, intercalate_belowTexts]
  generalize aboveTerms (combine terms) = above at *
  generalize belowTerms (combine terms) = below at *
  cases above with
  | nil =>
      cases below with
      | nil => rfl
      | cons term rest =>
          have bare := bare_sideText (by simp [scaled]) belowWritable
          have oneBare : Text.Bare ['1'] := Text.isBare_iff.1 (by decide)
          have quotient := splitTrimmed_quotient oneBare bare (by decide)
            (not_mem_sideText belowWritable)
          have neutral : sideTerms 1 ['1'] = .ok [] := by rfl
          rw [neutral] at quotient
          simpa [scaled] using quotient
  | cons first others =>
      have bare := bare_sideText (List.cons_ne_nil _ _) aboveWritable
      cases below with
      | nil =>
          have side := splitTrimmed_side bare (not_mem_sideText aboveWritable)
          have missing : scaled (-1) ([] : List UnitTerm) = [] := rfl
          rw [List.isEmpty_cons, List.isEmpty_nil, if_neg (List.cons_ne_nil _ _), if_pos missing]
          refine side.trans ?_
          cases sideTerms 1 (sideText (first :: others)).toList with
          | error fault => rfl
          | ok read => simp [bind, Except.bind]
      | cons term rest =>
          have denominator := bare_sideText (by simp [scaled]) belowWritable
          have quotient := splitTrimmed_quotient bare denominator
            (not_mem_sideText aboveWritable) (not_mem_sideText belowWritable)
          simpa [scaled] using quotient

theorem Legible.isToken {terms : List UnitTerm} (legible : Legible terms) :
    ∀ term ∈ terms, IsToken term.token :=
  fun term member => (legible term member).1

/-- What is written from terms is read back. -/
theorem split_format {terms : List UnitTerm} (legible : Legible (combine terms)) :
    split (format terms) = .ok (canonical terms) := by
  rw [split, trim_format legible.isToken, splitTrimmed_format legible.isToken,
    readSide_of_readable legible.above, readSide_of_readable legible.below, scaled_one,
    scaled_scaled]
  rfl

/-- What is written from terms is read only when its exponents are not too great. -/
theorem legible_of_split {terms read : List UnitTerm}
    (tokens : ∀ term ∈ combine terms, IsToken term.token)
    (reads : split (format terms) = .ok read) : Legible (combine terms) := by
  rw [split, trim_format tokens, splitTrimmed_format tokens] at reads
  intro term member
  refine ⟨tokens term member, ?_⟩
  cases above : readSide 1 (aboveTerms (combine terms)) with
  | error fault =>
      rw [above] at reads
      cases reads
  | ok aboveRead =>
      cases below : readSide (-1) (scaled (-1) (belowTerms (combine terms))) with
      | error fault =>
          rw [above, below] at reads
          cases reads
      | ok belowRead =>
          have aboveReadable := readable_of_readSide (writable_above tokens) above
          have belowReadable := readable_of_readSide (writable_below tokens) below
          rcases lt_trichotomy term.exponent 0 with negative | zero | positive
          · have inside : term ∈ belowTerms (combine terms) :=
              List.mem_filter.2 ⟨member, decide_eq_true negative⟩
            have fits := (belowReadable _ (List.mem_map_of_mem inside)).2.2
            dsimp only at fits
            omega
          · omega
          · have inside : term ∈ aboveTerms (combine terms) :=
              List.mem_filter.2 ⟨member, decide_eq_true positive⟩
            have fits := (aboveReadable _ inside).2.2
            omega

/-- Tokens of a bounded weight stay legible when they are combined. -/
theorem legible_combine {terms : List UnitTerm} (tokens : ∀ term ∈ terms, IsToken term.token)
    (bounded : weight terms ≤ greatestExponent) : Legible (combine terms) :=
  fun _ member => ⟨isToken_of_mem_combine tokens member,
    (natAbs_le_weight member).trans ((weight_combine_le terms).trans bounded)⟩

/-! ## Products of expressions -/

theorem format_congr {left right : List UnitTerm} (same : combine left = combine right) :
    format left = format right := by
  rw [format, format, same]

/-- Terms as they are read back are written as before. -/
theorem format_canonical (terms : List UnitTerm) : format (canonical terms) = format terms := by
  have above : aboveTexts (canonical terms) = aboveTexts (combine terms) :=
    congrArg (List.map _) (aboveTerms_canonical terms)
  have below : belowTexts (canonical terms) = belowTexts (combine terms) :=
    congrArg (List.map _) (belowTerms_canonical terms)
  rw [format, format, combine_of_nodup (nodup_tokens_canonical terms), above, below]

theorem format_token (token : String) : format [⟨token, 1⟩] = token := by
  simp [format, combine, addTerm, aboveTexts, belowTexts, factorText]

theorem split_token {token : String} (isToken : IsToken token) :
    split token = .ok [⟨token, 1⟩] := by
  have legible : Legible (combine [⟨token, 1⟩]) := by
    intro term member
    rw [List.mem_singleton.1 member]
    exact ⟨isToken, by simp [greatestExponent]⟩
  have read := split_format legible
  rw [format_token] at read
  exact read

theorem poweredTerms_token {token : String} (isToken : IsToken token) (power : Int) :
    poweredTerms token power = [⟨token, power⟩] := by
  simp [poweredTerms, split_token isToken]

theorem poweredTerms_empty (power : Int) : poweredTerms "" power = [] := by
  have read : split "" = .ok [] := by rfl
  simp [poweredTerms, read]

theorem poweredTerms_format {terms : List UnitTerm} (legible : Legible (combine terms))
    (power : Int) : poweredTerms (format terms) power = scaled power (canonical terms) := by
  simp [poweredTerms, split_format legible, scaled]

/-- The product of expressions with positive exponents is written from all their
terms. -/
theorem product_format {left right : List UnitTerm} (leftLegible : Legible (combine left))
    (rightLegible : Legible (combine right))
    (leftPositive : ∀ term ∈ left, 0 < term.exponent)
    (rightPositive : ∀ term ∈ right, 0 < term.exponent) (power : Int) :
    product [(format left, 1), (format right, power)] =
      format (left ++ scaled power right) := by
  have parts : product [(format left, 1), (format right, power)] =
      format (combine left ++ combine (scaled power right)) := by
    rw [product, List.flatMap_cons, List.flatMap_cons, List.flatMap_nil, List.append_nil,
      poweredTerms_format leftLegible, poweredTerms_format rightLegible,
      canonical_of_positive leftPositive, canonical_of_positive rightPositive, scaled_one,
      combine_scaled]
  rw [parts]
  exact format_congr (combine_append _ _)

end UnitExpression

end Metrology
