import Metrology.Proofs.Locality
import Metrology.Proofs.Stages

/-!
# Positions of faults

A formula is rejected at the first token with which no formula goes on, and the fault names
it.  Where the token has been looked at only, the fault has its position.  Where it has been
taken, the fault has the position of the token after it.
-/

namespace Metrology.Formula

variable {α : Type}

/-! ## What the stages accept -/

section Accepting

variable {stop : Nat} {stage : Stage} {lexemes rest : List (Lexeme α)}
  {ends : Stage → List (Lexeme α) → Prop} {fault : Fault α} {tokens : List (Token α)}

theorem Runs.exists_of_ok (runs : Runs stop ends stage lexemes (.ok rest)) :
    ∃ taken last, lexemes = taken ++ rest ∧ stage.run (taken.map (·.token)) = some last ∧
      ends last rest := by
  generalize succeeding : Except.ok rest = result at runs
  induction runs with
  | done last =>
      cases succeeding
      exact ⟨[], _, rfl, rfl, last⟩
  | fails => cases succeeding
  | @step _ _ lexeme _ _ steps _ ih =>
      obtain ⟨taken, last, rfl, later, ended⟩ := ih succeeding
      refine ⟨lexeme :: taken, last, rfl, ?_, ended⟩
      rw [List.map_cons, Stage.run_cons, steps]
      exact later

theorem Runs.exists_of_error (runs : Runs stop ends stage lexemes (.error fault)) :
    ∃ taken rest last, lexemes = taken ++ rest ∧
      stage.run (taken.map (·.token)) = some last ∧ Stuck stop last rest fault := by
  generalize failing : Except.error fault = result at runs
  induction runs with
  | done => cases failing
  | fails stuck =>
      cases failing
      exact ⟨[], _, _, rfl, rfl, stuck⟩
  | @step _ _ lexeme _ _ steps _ ih =>
      obtain ⟨taken, rest, last, rfl, later, stuck⟩ := ih failing
      refine ⟨lexeme :: taken, rest, last, rfl, ?_, stuck⟩
      rw [List.map_cons, Stage.run_cons, steps]
      exact later

/-- A formula is rejected in its midst, or because it goes on where it could end. -/
inductive Halts (stop : Nat) (stage : Stage) (rest : List (Lexeme α)) : Fault α → Prop where
  | inside {fault : Fault α} (stuck : Stuck stop stage rest fault) : Halts stop stage rest fault
  | beyond (complete : stage.Complete) (stands : stage.step (nextToken rest) = none)
      (goesOn : nextToken rest ≠ .stop) :
      Halts stop stage rest (.at (nextPosition stop rest) (.unexpected (nextToken rest)))

theorem Halts.stands (halts : Halts stop stage rest fault) :
    stage.step (nextToken rest) = none := by
  cases halts with
  | inside stuck => exact stuck.stands
  | beyond _ stands _ => exact stands

theorem PastOperand.complete (past : PastOperand [] stage rest) : stage.Complete := by
  cases past with
  | operator => exact ⟨.inr rfl, rfl⟩
  | unit => exact ⟨.inl rfl, rfl⟩

theorem exists_run_of_parse_ok {tree : Expression α} (parsed : parseLexemes lexemes = .ok tree) :
    ∃ taken rest last, lexemes = taken ++ rest ∧
      Stage.start.run (taken.map (·.token)) = some last ∧ last.Complete ∧
      nextToken rest = .stop := by
  have runs := (runsBelow (endPosition lexemes) _).binary lexemes (Nat.lt_succ_self _) 0 []
  unfold parseLexemes at parsed
  dsimp only at parsed
  split at parsed
  · cases parsed
  · next expression rest shorter found =>
      rw [found] at runs
      obtain ⟨taken, last, same, reached, past⟩ := runs.exists_of_ok
      split at parsed
      · next stops => exact ⟨taken, rest, last, same, reached, past.complete, stops⟩
      · cases parsed

theorem exists_run_of_parse_error (failed : parseLexemes lexemes = .error fault) :
    ∃ taken rest last, lexemes = taken ++ rest ∧
      Stage.start.run (taken.map (·.token)) = some last ∧
      Halts (endPosition lexemes) last rest fault := by
  have runs := (runsBelow (endPosition lexemes) _).binary lexemes (Nat.lt_succ_self _) 0 []
  unfold parseLexemes at failed
  dsimp only at failed
  split at failed
  · next found =>
      cases failed
      rw [found] at runs
      obtain ⟨taken, rest, last, same, reached, stuck⟩ := runs.exists_of_error
      exact ⟨taken, rest, last, same, reached, .inside stuck⟩
  · next expression rest shorter found =>
      rw [found] at runs
      obtain ⟨taken, last, same, reached, past⟩ := runs.exists_of_ok
      split at failed
      · cases failed
      · next goesOn =>
          cases failed
          have plain : (nextToken rest).operator? = none := (ends_of_readBinary found).noOperator
          have stands := past.step_eq.trans
            (Stage.stepOperator_eq_none plain (fun _ => rfl) fun _ outer =>
              (List.cons_ne_nil _ outer).symm)
          exact ⟨taken, rest, last, same, reached, .beyond past.complete stands goesOn⟩

/-- What has been taken is all tokens before the end, or another one comes next. -/
theorem exists_next {taken : List (Lexeme α)} {last : Stage}
    (same : (taken ++ rest).map (·.token) = tokens ++ [.stop]) (ended : .stop ∉ tokens)
    (reached : stage.run (taken.map (·.token)) = some last) :
    ∃ lexeme later, rest = lexeme :: later ∧
      (lexeme.token = .stop ∧ taken.map (·.token) = tokens ∧ later = [] ∨
        lexeme.token ≠ .stop ∧ later ≠ [] ∧
          ∃ more, tokens = taken.map (·.token) ++ lexeme.token :: more) := by
  rw [List.map_append] at same
  cases rest with
  | nil =>
      rw [List.map_nil, List.append_nil] at same
      exact absurd (same ▸ List.mem_append_right _ List.mem_cons_self)
        (Stage.stop_notMem_of_run reached)
  | cons lexeme later =>
      rw [List.map_cons] at same
      refine ⟨lexeme, later, rfl, ?_⟩
      by_cases stops : lexeme.token = .stop
      · rw [stops] at same
        obtain ⟨all, _, none_left⟩ :=
          (List.append_cons_inj_of_notMem ended List.not_mem_nil).1 same.symm
        exact .inl ⟨stops, all.symm, List.map_eq_nil_iff.1 none_left.symm⟩
      · rcases List.eq_nil_or_concat later with rfl | ⟨others, final, rfl⟩
        · rw [List.map_nil] at same
          exact absurd (List.cons.inj (List.append_inj' same rfl).2).1 stops
        · refine .inr ⟨stops, by simp, others.map (·.token), ?_⟩
          rw [List.concat_eq_append, List.map_append, List.map_singleton,
            ← List.cons_append, ← List.append_assoc] at same
          exact (List.append_inj' same rfl).1.symm

/-- Tokens derive from the grammar just when they lead to where a formula may end. -/
theorem exists_complete_iff_derives :
    (∃ last, Stage.start.run tokens = some last ∧ last.Complete) ↔
      ∃ tree, Derives .or tokens tree := by
  let lexemes : List (Lexeme α) := (tokens ++ [Token.stop]).map (⟨·, 0⟩)
  have same : lexemes.map (·.token) = tokens ++ [.stop] := by
    rw [List.map_map]
    exact List.map_id' _
  constructor
  · rintro ⟨last, reached, complete⟩
    have ended := Stage.stop_notMem_of_run reached
    cases parsed : parseLexemes lexemes with
    | ok tree => exact ⟨tree, (parseLexemes_eq_ok_iff same ended).1 parsed⟩
    | error fault =>
        exfalso
        obtain ⟨taken, rest, stage, split, came, halts⟩ := exists_run_of_parse_error parsed
        obtain ⟨lexeme, later, rfl, ⟨stops, all, _⟩ | ⟨_, _, more, all⟩⟩ :=
          exists_next (split ▸ same) ended came
        · rw [all] at came
          cases reached.symm.trans came
          cases halts with
          | inside stuck => exact stuck.unfinished complete
          | beyond _ _ goesOn => exact goesOn stops
        · have stands : stage.step lexeme.token = none := halts.stands
          rw [all, Stage.run_append, came, Option.bind_some, Stage.run_cons, stands] at reached
          cases reached
  · rintro ⟨tree, derives⟩
    have ended := derives.stop_notMem
    obtain ⟨taken, rest, last, split, reached, complete, stops⟩ :=
      exists_run_of_parse_ok ((parseLexemes_eq_ok_iff same ended).2 derives)
    obtain ⟨lexeme, later, rfl, ⟨_, all, _⟩ | ⟨goesOn, _⟩⟩ :=
      exists_next (split ▸ same) ended reached
    · exact ⟨last, all ▸ reached, complete⟩
    · exact absurd stops goesOn

theorem complete_iff_derives (reached : Stage.start.run tokens = some stage) :
    stage.Complete ↔ ∃ tree, Derives .or tokens tree := by
  rw [← exists_complete_iff_derives]
  constructor
  · exact fun complete => ⟨stage, reached, complete⟩
  · rintro ⟨last, came, complete⟩
    cases reached.symm.trans came
    exact complete

/-- Some formula begins with the tokens. -/
def Begins (tokens : List (Token α)) : Prop :=
  ∃ more tree, Derives .or (tokens ++ more) tree

/-- A formula begins with all tokens that can be taken, and with no others. -/
theorem begins_iff_run : Begins tokens ↔ ∃ last, Stage.start.run tokens = some last := by
  constructor
  · rintro ⟨more, derives⟩
    obtain ⟨last, reached, _⟩ := exists_complete_iff_derives.2 derives
    rw [Stage.run_append] at reached
    obtain ⟨stage, came, _⟩ := Option.bind_eq_some_iff.1 reached
    exact ⟨stage, came⟩
  · rintro ⟨stage, came⟩
    obtain ⟨more, last, reached, complete⟩ := stage.exists_completion (α := α)
    refine ⟨more, exists_complete_iff_derives.1 ⟨last, ?_, complete⟩⟩
    rw [Stage.run_append, came, Option.bind_some, reached]

theorem not_begins_of_step {token : Token α} (reached : Stage.start.run tokens = some stage)
    (stands : stage.step token = none) : ¬Begins (tokens ++ [token]) := by
  intro begins
  obtain ⟨last, came⟩ := begins_iff_run.1 begins
  rw [Stage.run_append, reached, Option.bind_some, Stage.run_cons, stands] at came
  cases came

end Accepting

/-! ## Positions -/

section Positions

variable {stop position : Nat} {problem : Problem α} {token : Token α} {lexemes : List (Lexeme α)}

/-- A fault is placed at the token that it names or, if that has been taken, after it. -/
theorem Halts.placed {stage : Stage} {lexeme : Lexeme α} {later : List (Lexeme α)}
    (halts : Halts stop stage (lexeme :: later) (.at position problem))
    (names : problem.named? = some token) :
    token = lexeme.token ∧
      (position = lexeme.position ∧ ((∃ wanted, problem = .expected wanted token) ∨
          problem = .unexpected token ∧ stage.Complete) ∨
        position = nextPosition stop later ∧ problem.wanted? = none ∧ ¬stage.Complete) := by
  cases halts with
  | inside stuck =>
      have unfinished := stuck.unfinished
      cases stuck.blames with
      | passed named other =>
          cases names.symm.trans named
          exact ⟨rfl, .inr ⟨rfl, other, unfinished⟩⟩
      | here wanted =>
          cases names
          exact ⟨rfl, .inl ⟨rfl, .inl ⟨wanted, rfl⟩⟩⟩
      | bare => cases names
  | beyond complete _ _ =>
      cases names
      exact ⟨rfl, .inl ⟨rfl, .inr ⟨rfl, complete⟩⟩⟩

/-- The token that a fault names, among the lexemes of a formula. -/
structure Offends (lexemes : List (Lexeme α)) (position : Nat) (problem : Problem α)
    (token : Token α) (before : List (Lexeme α)) (start : Nat) (after : List (Lexeme α)) :
    Prop where
  split : lexemes = before ++ ⟨token, start⟩ :: after
  /-- It is the first token with which no formula goes on. -/
  begins : Begins (before.map (·.token))
  stands : ¬Begins (before.map (·.token) ++ [token])
  placed : position = start ∨ after.head?.map (·.position) = some position
  /-- Its position is reported just when it is the end, when another token was wanted in its
  place, or when the tokens before it are a formula. -/
  exact_iff : position = start ↔ token = .stop ∨ (∃ wanted, problem = .expected wanted token) ∨
    problem = .unexpected token ∧ ∃ tree, Derives .or (before.map (·.token)) tree

/-- A fault that names a token has its position, or the position of the token after it if
the token has been taken. -/
theorem exists_offending [Scalar α] {formula : String}
    (tokenizes : tokenize formula = .ok lexemes)
    (fails : (parseText formula : Except (Fault α) (Expression α)) =
      .error (.at position problem)) (names : problem.named? = some token) :
    ∃ before start after, Offends lexemes position problem token before start after := by
  obtain ⟨tokens, same, ended⟩ := tokens_of_tokensFrom tokenizes
  obtain ⟨words, row⟩ := exists_row tokenizes
  have failed : parseLexemes lexemes = .error (.at position problem) := by
    unfold parseText at fails
    split at fails
    · cases fails
    · rwa [tokenizes] at fails
  obtain ⟨before, rest, stage, rfl, reached, halts⟩ := exists_run_of_parse_error failed
  obtain ⟨lexeme, after, rfl, next⟩ := exists_next same ended reached
  obtain ⟨rfl, placed⟩ := halts.placed names
  have begins : Begins (before.map (·.token)) := begins_iff_run.2 ⟨stage, reached⟩
  have stands := not_begins_of_step reached halts.stands
  have complete_iff := complete_iff_derives reached
  rcases placed with ⟨here, reason⟩ | ⟨there, other, unfinished⟩
  · refine ⟨before, _, after, rfl, begins, stands, .inl here, fun _ => .inr ?_, fun _ => here⟩
    rcases reason with wanted | ⟨unexpected, complete⟩
    · exact .inl wanted
    · exact .inr ⟨unexpected, complete_iff.1 complete⟩
  · rcases next with ⟨stops, _, rfl⟩ | ⟨goesOn, filled, _⟩
    · -- The position after the end is the end once more.
      have here : position = lexeme.position := by
        rw [there, nextPosition, endPosition, List.getLast?_append]
        rfl
      exact ⟨before, _, _, rfl, begins, stands, .inl here, fun _ => .inl stops, fun _ => here⟩
    · obtain ⟨following, others, rfl⟩ := List.exists_cons_of_ne_nil filled
      have later : lexeme.position < following.position :=
        (List.pairwise_cons.1 (List.pairwise_append.1 row.increasing).2.1).1 _ List.mem_cons_self
      rw [nextPosition] at there
      refine ⟨before, _, _, rfl, begins, stands, .inr (congrArg some there.symm), ?_, ?_⟩
      · omega
      · rintro (stops | ⟨wanted, expected⟩ | ⟨_, derives⟩)
        · exact absurd stops goesOn
        · rw [expected] at other
          cases other
        · exact absurd (complete_iff.2 derives) unfinished

/-- The fault in a formula, if there is one. -/
def fault? [Scalar α] (formula : String) : Option (Fault α) :=
  match (parseText formula : Except (Fault α) (Expression α)) with
  | .ok _ => none
  | .error fault => some fault

theorem fault?_eq_some_iff [Scalar α] {formula : String} {fault : Fault α} :
    fault? formula = some fault ↔
      (parseText formula : Except (Fault α) (Expression α)) = .error fault := by
  unfold fault?
  cases (parseText formula : Except (Fault α) (Expression α)) with
  | ok tree => exact ⟨nofun, nofun⟩
  | error found => rw [Option.some_inj, Except.error.injEq]

/-- The tokens of a call without a comma between its arguments. -/
def commalessLexemes : List (Lexeme ℚ) :=
  [⟨.identifier "f", 0⟩, ⟨.openParen, 1⟩, ⟨.number 1, 2⟩, ⟨.number 2, 4⟩, ⟨.closeParen, 5⟩,
    ⟨.stop, 6⟩]

theorem exists_offending_commaless :
    tokenize "f(1 2)" = .ok commalessLexemes ∧
      (parseText "f(1 2)" : Except (Fault ℚ) (Expression ℚ)) =
        .error (.at 5 (.expectedSeparator (.number 2))) ∧
      ∃ before start after,
        Offends commalessLexemes 5 (.expectedSeparator (.number 2)) (.number 2) before start after :=
  have tokenizes : tokenize "f(1 2)" = .ok commalessLexemes := by decide +kernel
  have fails : (parseText "f(1 2)" : Except (Fault ℚ) (Expression ℚ)) =
      .error (.at 5 (.expectedSeparator (.number 2))) :=
    fault?_eq_some_iff.1 (by decide +kernel)
  ⟨tokenizes, fails, exists_offending tokenizes fails rfl⟩

end Positions

end Metrology.Formula
