import Mathlib.Data.List.TakeWhile
import Metrology.Proofs.Exact
import Metrology.Proofs.Parsing

/-!
# Accepted formulas

A formula is accepted just when its tokens derive from the grammar, and its tree is the
one that derives.  Every other formula with tokens fails to parse.
-/

namespace Metrology.Formula

variable {α : Type}

/-! ## The end of a formula -/

theorem Operator.token_ne_stop (operator : Operator) : (operator.token : Token α) ≠ .stop := by
  cases operator <;> exact nofun

theorem stop_notMem_argumentTokens {arguments : List (Passage α)}
    (each : ∀ argument ∈ arguments, .stop ∉ argument.tokens) :
    .stop ∉ argumentTokens arguments := by
  induction arguments with
  | nil => exact List.not_mem_nil
  | cons argument others ih =>
      have here := each argument List.mem_cons_self
      have later := ih fun other member => each other (List.mem_cons_of_mem _ member)
      by_cases last : others = []
      · rwa [last, argumentTokens_singleton]
      · rw [argumentTokens_cons _ last]
        simp [here, later]

/-- No rule of the grammar has the end in it. -/
theorem Derives.stop_notMem {nonterminal : Nonterminal} {tokens : List (Token α)}
    {tree : Expression α} (derives : Derives nonterminal tokens tree) : .stop ∉ tokens := by
  induction derives with
  | joined first others _ _ _ _ leads follows =>
      intro member
      rcases List.mem_append.1 member with front | back
      · exact leads front
      · obtain ⟨other, among, inside⟩ := List.mem_flatMap.1 back
        rcases List.mem_cons.1 inside with operator | operand
        · exact other.1.token_ne_stop operator.symm
        · exact follows other among operand
  | unsigned _ ih => exact ih
  | call name arguments _ ih => simpa using stop_notMem_argumentTokens ih
  | _ => simp_all

section Scanning

variable {first second : Char} {token : Token α} {rest after : List Char}

theorem scanPair_ne_stop {double : Token α} {single : Option (Token α)}
    (twice : double ≠ .stop) (once : ∀ token, single = some token → token ≠ .stop)
    (scanned : scanPair second double single rest = .ok (token, after)) : token ≠ .stop := by
  unfold scanPair at scanned
  split at scanned
  · next alone =>
      split at scanned
      · cases scanned
        exact twice
      · cases scanned
        exact once _ rfl
  · split at scanned
    · cases scanned
      exact twice
    · cases scanned
  · cases scanned
    exact once _ rfl
  · cases scanned

theorem mark?_ne_stop (marks : mark? first = some token) : token ≠ .stop := by
  rintro rfl
  unfold mark? at marks
  split at marks <;> cases marks

theorem scanUnitTag_ne_stop (scanned : scanUnitTag rest = .ok (token, after)) :
    token ≠ .stop := by
  rintro rfl
  unfold scanUnitTag at scanned
  split at scanned <;> cases scanned

theorem scanReference_ne_stop (scanned : scanReference rest = .ok (token, after)) :
    token ≠ .stop := by
  rintro rfl
  unfold scanReference at scanned
  split at scanned
  · cases scanned
  · dsimp only at scanned
    split at scanned <;> cases scanned

variable [Scalar α]

theorem scanNumber_ne_stop {text : List Char}
    (scanned : scanNumber text = .ok (token, after)) : token ≠ .stop := by
  rintro rfl
  unfold scanNumber at scanned
  dsimp only at scanned
  split at scanned <;> cases scanned

theorem scanWord_ne_stop (scanned : scanWord first rest = .ok (token, after)) :
    token ≠ .stop := by
  unfold scanWord at scanned
  split at scanned
  · exact scanNumber_ne_stop scanned
  · rintro rfl
    split at scanned <;> cases scanned

theorem scanLong_ne_stop (scanned : scanLong first rest = .ok (token, after)) :
    token ≠ .stop := by
  unfold scanLong at scanned
  split at scanned
  all_goals
    first
    | exact scanPair_ne_stop (by simp) (by simp) scanned
    | exact scanUnitTag_ne_stop scanned
    | exact scanReference_ne_stop scanned
    | exact scanWord_ne_stop scanned

theorem scan_ne_stop (scanned : scan first rest = .ok (token, after)) : token ≠ .stop := by
  unfold scan at scanned
  split at scanned
  · next marks =>
      cases scanned
      exact mark?_ne_stop marks
  · exact scanLong_ne_stop scanned

end Scanning

variable [Scalar α]

/-- The end comes last among the tokens of a text, and nowhere else. -/
theorem tokens_of_tokensFrom {position : Nat} {text : List Char} {lexemes : List (Lexeme α)}
    (tokenizes : tokensFrom position text = .ok lexemes) :
    ∃ tokens, lexemes.map (·.token) = tokens ++ [.stop] ∧ .stop ∉ tokens := by
  fun_induction @tokensFrom α _ position text generalizing lexemes with
  | case1 position =>
      cases tokenizes
      exact ⟨[], rfl, List.not_mem_nil⟩
  | case2 position first rest blank ih => exact ih tokenizes
  | case3 => cases tokenizes
  | case4 => cases tokenizes
  | case5 position first rest _ token after scanned others found ih =>
      cases tokenizes
      obtain ⟨tokens, same, ends⟩ := ih found
      refine ⟨token :: tokens, by rw [List.map_cons, same, List.cons_append], ?_⟩
      intro member
      rcases List.mem_cons.1 member with here | later
      · exact scan_ne_stop scanned here.symm
      · exact ends later

/-- A text with nothing left between its blank ends is blank. -/
theorem isBlank_of_trim {text : List Char} (nothing : (Text.trim text).isEmpty = true) :
    ∀ character ∈ text, Text.isBlank character = true := by
  rw [List.isEmpty_iff, Text.trim, Text.trimEnd, List.reverse_eq_nil_iff,
    List.dropWhile_eq_nil_iff] at nothing
  intro character member
  rw [← List.takeWhile_append_dropWhile (p := Text.isBlank) (l := text)] at member
  rcases List.mem_append.1 member with front | back
  · exact List.mem_takeWhile_imp front
  · exact nothing character (List.mem_reverse.2 back)

/-- A blank text has no token. -/
theorem tokensFrom_of_blank (position : Nat) {text : List Char}
    (blank : ∀ character ∈ text, Text.isBlank character = true) :
    ∃ stop, (tokensFrom position text : Except (Fault α) _) = .ok [⟨.stop, stop⟩] := by
  induction text generalizing position with
  | nil => exact ⟨position, by rw [tokensFrom]⟩
  | cons first rest ih =>
      rw [tokensFrom, if_pos (blank first List.mem_cons_self)]
      exact ih _ fun character member => blank character (List.mem_cons_of_mem _ member)

omit [Scalar α] in
/-- Reading succeeds when the tokens before the end derive from the grammar. -/
theorem parseLexemes_eq_ok_iff {lexemes : List (Lexeme α)} {tokens : List (Token α)}
    (same : lexemes.map (·.token) = tokens ++ [.stop]) (ends : .stop ∉ tokens)
    {tree : Expression α} : parseLexemes lexemes = .ok tree ↔ Derives .or tokens tree := by
  constructor
  · intro parsed
    unfold parseLexemes at parsed
    dsimp only at parsed
    split at parsed
    · cases parsed
    · next value rest shorter read =>
        obtain ⟨taken, split, derives⟩ := readExpression_sound (soundBelow _ _) read
        split at parsed
        · next stops =>
            cases parsed
            rw [split, List.map_append] at same
            cases rest with
            | nil =>
                rw [List.map_nil, List.append_nil] at same
                exact absurd (same ▸ List.mem_append_right _ List.mem_cons_self)
                  derives.stop_notMem
            | cons lexeme rest =>
                rw [List.map_cons, show lexeme.token = .stop from stops] at same
                have all := ((List.append_cons_inj_of_notMem ends List.not_mem_nil).1 same.symm).1
                rwa [all]
        · cases parsed
  · intro derives
    obtain ⟨taken, last, rfl, takenSame, lastSame⟩ := List.map_eq_append_iff.1 same
    obtain ⟨position, others, rfl, none_left⟩ := exists_lexeme lastSame
    have read : (readBinary (endPosition (taken ++ ⟨.stop, position⟩ :: others)) 0
        (taken ++ ⟨.stop, position⟩ :: others)).map Reading.parts =
          .ok (tree, ⟨.stop, position⟩ :: others) :=
      (found_of_derives _ derives).before_mark takenSame rfl (by simp)
    obtain ⟨shorter, found⟩ := exists_of_parts read
    rw [parseLexemes, found]
    rfl

theorem exists_of_parse_error {formula : String} {failure : Error}
    (fails : (parse formula : Except Error (Expression α)) = .error failure) :
    ∃ details, failure = .parse details := by
  unfold parse at fails
  split at fails
  · cases fails
  · cases fails
    exact ⟨_, rfl⟩

/-- A formula with tokens is accepted just when they derive from the grammar, with the
tree that derives.  Otherwise it fails to parse. -/
theorem parse_eq_ok_iff_derives {formula : String} {lexemes : List (Lexeme α)}
    (tokenizes : tokenize formula = .ok lexemes) :
    ∃ tokens, lexemes.map (·.token) = tokens ++ [.stop] ∧ .stop ∉ tokens ∧
      (∀ tree : Expression α, parse formula = .ok tree ↔ Derives .or tokens tree) ∧
      ((¬∃ tree, Derives .or tokens tree) →
        ∃ details, (parse formula : Except Error (Expression α)) = .error (.parse details)) := by
  obtain ⟨tokens, same, ends⟩ := tokens_of_tokensFrom tokenizes
  have accepts : ∀ tree : Expression α, parse formula = .ok tree ↔ Derives .or tokens tree := by
    intro tree
    unfold parse parseText
    by_cases blank : (Text.trim formula.toList).isEmpty = true
    · rw [if_pos blank]
      constructor
      · exact nofun
      · intro derives
        obtain ⟨stop, alone⟩ : ∃ stop, tokenize formula = .ok [(⟨.stop, stop⟩ : Lexeme α)] :=
          tokensFrom_of_blank 0 (isBlank_of_trim blank)
        cases tokenizes.symm.trans alone
        have tokenless : tokens = [] := by simpa using same.symm
        obtain ⟨first, rest, starts, _⟩ := derives.exists_first
        cases tokenless.symm.trans starts
    · rw [if_neg blank, tokenizes, ← parseLexemes_eq_ok_iff same ends]
      dsimp only
      cases parseLexemes lexemes with
      | error fault => exact ⟨nofun, nofun⟩
      | ok found => exact ⟨fun | rfl => rfl, fun | rfl => rfl⟩
  refine ⟨tokens, same, ends, accepts, ?_⟩
  intro none_derives
  cases parsed : (parse formula : Except Error (Expression α)) with
  | ok tree => exact absurd ⟨tree, (accepts tree).1 parsed⟩ none_derives
  | error failure =>
      obtain ⟨details, rfl⟩ := exists_of_parse_error parsed
      exact ⟨details, rfl⟩

/-- The tokens of a sum with a signed operand. -/
def sumLexemes : List (Lexeme ℚ) :=
  [⟨.reference "a", 0⟩, ⟨.plus, 3⟩, ⟨.minus, 4⟩, ⟨.number 2, 5⟩, ⟨.stop, 6⟩]

theorem parse_eq_ok_iff_derives_sum :
    tokenize "[a]+-2" = .ok sumLexemes ∧
      ∃ tokens, sumLexemes.map (·.token) = tokens ++ [.stop] ∧ .stop ∉ tokens ∧
        (∀ tree : Expression ℚ, parse "[a]+-2" = .ok tree ↔ Derives .or tokens tree) ∧
        ((¬∃ tree, Derives .or tokens tree) →
          ∃ details, (parse "[a]+-2" : Except Error (Expression ℚ)) =
            .error (.parse details)) :=
  have tokenizes : tokenize "[a]+-2" = .ok sumLexemes := by decide +kernel
  ⟨tokenizes, parse_eq_ok_iff_derives tokenizes⟩

end Metrology.Formula
