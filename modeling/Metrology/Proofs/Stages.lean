import Metrology.Proofs.Accepting

/-!
# Stages of reading

What can come next in a formula hangs only on the last token or two and on the parentheses
that are open.  The readers go from one such stage to the next, token by token, and where
they fail the stage has no step for the token that they name.
-/

namespace Metrology.Formula

variable {α : Type}

/-! ## Stages of reading -/

inductive Bracket where
  | group
  | call
  deriving DecidableEq, Repr

/-- What has to come next. -/
inductive Awaited where
  | operand
  /-- An operand, or the parenthesis that closes a call without arguments. -/
  | argument
  /-- The parenthesis after a name. -/
  | opening
  /-- What may follow an operand, or the unit of a number. -/
  | unit
  | operator
  deriving DecidableEq, Repr

/-- What has to come next, and the parentheses that are open, the last one first. -/
structure Stage where
  awaited : Awaited
  brackets : List Bracket
  deriving DecidableEq, Repr

namespace Stage

def start : Stage := ⟨.operand, []⟩

def stepOperand (brackets : List Bracket) : Token α → Option Stage
  | .plus | .minus => some ⟨.operand, brackets⟩
  | .number _ => some ⟨.unit, brackets⟩
  | .reference _ => some ⟨.operator, brackets⟩
  | .openParen => some ⟨.operand, .group :: brackets⟩
  | .identifier _ => some ⟨.opening, brackets⟩
  | _ => none

def stepOperator (brackets : List Bracket) (token : Token α) : Option Stage :=
  match token.operator?, token, brackets with
  | some _, _, brackets => some ⟨.operand, brackets⟩
  | none, .closeParen, _ :: outer => some ⟨.operator, outer⟩
  | none, .comma, .call :: outer => some ⟨.operand, .call :: outer⟩
  | none, _, _ => none

/-- The stage after one more token, if it can come next. -/
def step (stage : Stage) (token : Token α) : Option Stage :=
  match stage.awaited, token with
  | .operand, token => stepOperand stage.brackets token
  | .argument, .closeParen => stepOperator stage.brackets (.closeParen : Token α)
  | .argument, token => stepOperand stage.brackets token
  | .opening, .openParen => some ⟨.argument, .call :: stage.brackets⟩
  | .opening, _ => none
  | .unit, .unitTag _ => some ⟨.operator, stage.brackets⟩
  | .unit, token => stepOperator stage.brackets token
  | .operator, token => stepOperator stage.brackets token

def run (stage : Stage) (tokens : List (Token α)) : Option Stage :=
  tokens.foldlM step stage

/-- A formula may end. -/
def Complete (stage : Stage) : Prop :=
  (stage.awaited = .unit ∨ stage.awaited = .operator) ∧ stage.brackets = []

@[simp]
theorem run_nil (stage : Stage) : stage.run ([] : List (Token α)) = some stage :=
  rfl

theorem run_cons (stage : Stage) (token : Token α) (tokens : List (Token α)) :
    stage.run (token :: tokens) = (stage.step token).bind (·.run tokens) := by
  rw [run, List.foldlM_cons]
  rfl

theorem run_append (stage : Stage) (front back : List (Token α)) :
    stage.run (front ++ back) = (stage.run front).bind (·.run back) := by
  rw [run, List.foldlM_append]
  rfl

theorem stepOperator_of_operator {token : Token α} {operator : Operator}
    (joins : token.operator? = some operator) (brackets : List Bracket) :
    stepOperator brackets token = some ⟨.operand, brackets⟩ := by
  unfold stepOperator
  rw [joins]

/-- After an operand comes an operator or what goes with the last open parenthesis. -/
theorem stepOperator_eq_none {brackets : List Bracket} {token : Token α}
    (plain : token.operator? = none) (closed : token = .closeParen → brackets = [])
    (separated : token = .comma → ∀ outer, brackets ≠ .call :: outer) :
    stepOperator brackets token = none := by
  unfold stepOperator
  split
  · next joins => cases plain.symm.trans joins
  · cases closed rfl
  · next outer _ => exact absurd rfl (separated rfl outer)
  · rfl

/-- Nothing goes on after the end. -/
theorem step_stop (stage : Stage) : stage.step (.stop : Token α) = none := by
  obtain ⟨awaited, brackets⟩ := stage
  cases awaited <;> rfl

theorem stop_notMem_of_run {stage last : Stage} {tokens : List (Token α)}
    (runs : stage.run tokens = some last) : .stop ∉ tokens := by
  induction tokens generalizing stage with
  | nil => exact List.not_mem_nil
  | cons token tokens ih =>
      rw [run_cons] at runs
      obtain ⟨next, stepped, later⟩ := Option.bind_eq_some_iff.1 runs
      rw [List.mem_cons, not_or]
      refine ⟨?_, ih later⟩
      rintro rfl
      rw [step_stop] at stepped
      cases stepped

/-- Open parentheses can be closed one by one. -/
theorem run_closing (brackets : List Bracket) :
    run ⟨.operator, brackets⟩ (brackets.map fun _ => (.closeParen : Token α)) =
      some ⟨.operator, []⟩ := by
  induction brackets with
  | nil => rfl
  | cons bracket outer ih =>
      rw [List.map_cons, run_cons]
      exact ih

/-- From every stage some tokens lead to the end of a formula. -/
theorem exists_completion (stage : Stage) :
    ∃ (tokens : List (Token α)) (last : Stage), stage.run tokens = some last ∧ last.Complete := by
  obtain ⟨awaited, brackets⟩ := stage
  have closing := run_closing (α := α) brackets
  have complete : Complete ⟨.operator, []⟩ := ⟨.inr rfl, rfl⟩
  cases awaited with
  | operand => exact ⟨.reference "" :: _, _, closing, complete⟩
  | argument => exact ⟨.reference "" :: _, _, closing, complete⟩
  | opening => exact ⟨.openParen :: .closeParen :: _, _, closing, complete⟩
  | unit => exact ⟨.unitTag "" :: _, _, closing, complete⟩
  | operator => exact ⟨_, _, closing, complete⟩

end Stage

/-! ## Readers and stages -/

/-- The token that a problem names. -/
def Problem.named? : Problem α → Option (Token α)
  | .unexpected token => some token
  | .expected _ found => some found
  | .expectedSeparator found => some found
  | .strayUnit tag => some (.unitTag tag)
  | .unexpectedEnd => some .stop
  | _ => none

/-- The token that a problem misses in the place of the one it names. -/
def Problem.wanted? : Problem α → Option (Token α)
  | .expected wanted _ => some wanted
  | _ => none

/-- An operand has been taken, inside some parentheses. -/
inductive PastOperand (brackets : List Bracket) : Stage → List (Lexeme α) → Prop where
  | operator (rest : List (Lexeme α)) : PastOperand brackets ⟨.operator, brackets⟩ rest
  | unit (rest : List (Lexeme α)) (untagged : ∀ tag, nextToken rest ≠ .unitTag tag) :
      PastOperand brackets ⟨.unit, brackets⟩ rest

/-- A fault that readers return for the first of the lexemes that are left. -/
inductive Blames (stop : Nat) (rest : List (Lexeme α)) : Fault α → Prop where
  /-- The position is the one after the token that is named. -/
  | passed {problem : Problem α} (names : problem.named? = some (nextToken rest))
      (other : problem.wanted? = none) :
      Blames stop rest (.at (nextPosition stop rest.tail) problem)
  | here (wanted : Token α) :
      Blames stop rest (.at (nextPosition stop rest) (.expected wanted (nextToken rest)))
  | bare (name : String) : Blames stop rest (.at (nextPosition stop rest) (.bareIdentifier name))

/-- In the midst of a formula, the first of the lexemes that are left cannot come next. -/
structure Stuck (stop : Nat) (stage : Stage) (rest : List (Lexeme α)) (fault : Fault α) :
    Prop where
  stands : stage.step (nextToken rest) = none
  unfinished : ¬stage.Complete
  blames : Blames stop rest fault

/-- Lexemes are taken one after the other, until a reader returns the rest or is stuck. -/
inductive Runs (stop : Nat) (ends : Stage → List (Lexeme α) → Prop) :
    Stage → List (Lexeme α) → Except (Fault α) (List (Lexeme α)) → Prop where
  | done {stage : Stage} {rest : List (Lexeme α)} (last : ends stage rest) :
      Runs stop ends stage rest (.ok rest)
  | fails {stage : Stage} {rest : List (Lexeme α)} {fault : Fault α}
      (stuck : Stuck stop stage rest fault) : Runs stop ends stage rest (.error fault)
  | step {stage next : Stage} {lexeme : Lexeme α} {rest : List (Lexeme α)}
      {result : Except (Fault α) (List (Lexeme α))} (steps : stage.step lexeme.token = some next)
      (later : Runs stop ends next rest result) : Runs stop ends stage (lexeme :: rest) result

section Running

variable {stop : Nat} {stage : Stage} {brackets : List Bracket} {lexemes rest : List (Lexeme α)}
  {ends others : Stage → List (Lexeme α) → Prop} {fault : Fault α}
  {result : Except (Fault α) (List (Lexeme α))}

namespace Runs

theorem failed (runs : Runs stop ends stage lexemes (.error fault)) :
    Runs stop others stage lexemes (.error fault) := by
  generalize failing : Except.error fault = result at runs
  induction runs with
  | done => cases failing
  | fails stuck => exact .fails stuck
  | step steps _ ih => exact .step steps (ih failing)

theorem trans (runs : Runs stop ends stage lexemes (.ok rest))
    (later : ∀ last, ends last rest → Runs stop others last rest result) :
    Runs stop others stage lexemes result := by
  generalize succeeding : Except.ok rest = reading at runs
  induction runs with
  | done last =>
      cases succeeding
      exact later _ last
  | fails => cases succeeding
  | step steps _ ih => exact .step steps (ih succeeding)

/-- What is read as an operand is read so as a first argument. -/
theorem argument {outer : List Bracket} (opens : nextToken lexemes ≠ .closeParen)
    (runs : Runs stop (PastOperand outer) ⟨.operand, brackets⟩ lexemes result) :
    Runs stop (PastOperand outer) ⟨.argument, brackets⟩ lexemes result := by
  have same : Stage.step ⟨.argument, brackets⟩ (nextToken lexemes) =
      Stage.step ⟨.operand, brackets⟩ (nextToken lexemes) := by
    cases next : nextToken lexemes <;> first | rfl | exact absurd next opens
  cases runs with
  | done last => cases last
  | fails stuck => exact .fails ⟨same.trans stuck.stands, by simp [Stage.Complete], stuck.blames⟩
  | step steps later => exact .step (same.trans steps) later

theorem step_of_next {next : Stage} {token : Token α} (starts : nextToken lexemes = token)
    (steps : stage.step token = some next) (later : Runs stop ends next lexemes.tail result) :
    Runs stop ends stage lexemes result := by
  have inside : token ≠ .stop := by
    rintro rfl
    rw [Stage.step_stop] at steps
    cases steps
  obtain ⟨position, same⟩ := eq_cons_of_nextToken starts inside
  rw [same]
  exact .step steps later

end Runs

theorem PastOperand.step_eq (past : PastOperand brackets stage rest) :
    stage.step (nextToken rest) = Stage.stepOperator brackets (nextToken rest) := by
  cases past with
  | operator => rfl
  | unit _ untagged =>
      cases next : nextToken rest <;> first | rfl | exact absurd next (untagged _)

/-- No operator comes after a whole expression. -/
theorem Ends.noOperator (calm : Ends 1 rest) : (nextToken rest).operator? = none := by
  cases joins : (nextToken rest).operator? with
  | none => rfl
  | some operator =>
      have weak := calm operator joins
      have least := operator.one_le_precedence
      omega

theorem ends_of_readBinary {reading : Reading (Expression α) lexemes}
    (read : readBinary stop 0 lexemes = .ok reading) : Ends 1 reading.rest :=
  (readBinary_sound (soundBelow stop _) (show Nonterminal.or.rank = max 1 0 from rfl) (by decide)
    read).2

theorem PastOperand.closes {bracket : Bracket}
    (past : PastOperand (bracket :: brackets) stage rest) (closes : nextToken rest = .closeParen) :
    Runs stop (PastOperand brackets) stage rest (.ok rest.tail) := by
  have steps := past.step_eq
  rw [closes] at steps
  exact .step_of_next closes steps (.done (.operator _))

/-- Inside parentheses, only the right ones of them and operators come after an operand. -/
theorem PastOperand.stuck {bracket : Bracket}
    (past : PastOperand (bracket :: brackets) stage rest) (calm : Ends 1 rest)
    (inside : nextToken rest ≠ .closeParen) (alone : nextToken rest = .comma → bracket = .group)
    (blames : Blames stop rest fault) : Stuck stop stage rest fault := by
  refine ⟨past.step_eq.trans (Stage.stepOperator_eq_none calm.noOperator ?_ ?_), ?_, blames⟩
  · exact fun closes => absurd closes inside
  · rintro separates outer ⟨⟩
    cases alone separates
  · cases past <;> simp [Stage.Complete]

end Running

/-- Readers of fewer lexemes than a bound take them one after the other. -/
structure RunsBelow (α : Type) (stop bound : Nat) : Prop where
  operand : ∀ lexemes : List (Lexeme α), lexemes.length < bound → ∀ brackets,
    Runs stop (PastOperand brackets) ⟨.operand, brackets⟩ lexemes
      ((readOperand stop lexemes).map (·.rest))
  binary : ∀ lexemes : List (Lexeme α), lexemes.length < bound → ∀ least brackets,
    Runs stop (PastOperand brackets) ⟨.operand, brackets⟩ lexemes
      ((readBinary stop least lexemes).map (·.rest))
  extend : ∀ lexemes : List (Lexeme α), lexemes.length < bound → ∀ least left brackets stage,
    PastOperand brackets stage lexemes → Runs stop (PastOperand brackets) stage lexemes
      ((Formula.extend stop least left lexemes).map (·.rest))
  arguments : ∀ lexemes : List (Lexeme α), lexemes.length < bound → ∀ brackets,
    Runs stop (PastOperand brackets) ⟨.operand, .call :: brackets⟩ lexemes
      ((readArguments stop lexemes).map (·.rest))

theorem not_complete_operand {brackets : List Bracket} :
    ¬Stage.Complete ⟨.operand, brackets⟩ := by
  simp [Stage.Complete]

section Readers

variable {stop : Nat} {brackets : List Bracket} {lexemes : List (Lexeme α)}

theorem runs_readOperand (below : RunsBelow α stop lexemes.length) (brackets : List Bracket) :
    Runs stop (PastOperand brackets) ⟨.operand, brackets⟩ lexemes
      ((readOperand stop lexemes).map (·.rest)) := by
  unfold readOperand
  split
  · exact .fails ⟨rfl, not_complete_operand, .passed rfl rfl⟩
  · next position after =>
      have runs := below.operand after (Nat.lt_succ_self _) brackets
      split <;>
      · next found =>
          rw [found] at runs
          exact .step rfl runs
  · next position after =>
      have runs := below.operand after (Nat.lt_succ_self _) brackets
      split <;>
      · next found =>
          rw [found] at runs
          exact .step rfl runs
  · exact .step rfl (.step rfl (.done (.operator _)))
  · next rest untagged =>
      refine .step rfl (.done (.unit _ fun tag next => ?_))
      obtain ⟨position, same⟩ := eq_cons_of_nextToken next (by simp)
      exact untagged _ _ _ same
  · exact .step rfl (.done (.operator _))
  · next position after =>
      have runs := below.binary after (Nat.lt_succ_self _) 0 (.group :: brackets)
      split
      · next failed =>
          rw [failed] at runs
          exact .step rfl runs.failed
      · next inner found =>
          rw [found] at runs
          refine .step rfl (runs.trans fun last past => ?_)
          unfold Reading.close
          split
          · next closes => exact past.closes closes
          · next opens =>
              exact .fails (past.stuck (ends_of_readBinary found) opens (fun _ => rfl) (.here _))
  · exact .step rfl (.step rfl (.step rfl (.done (.operator _))))
  · next name position openPosition after opens =>
      have runs := below.arguments after (by simp only [List.length_cons]; omega) brackets
      have starts : nextToken after ≠ .closeParen := by
        intro closes
        obtain ⟨closePosition, same⟩ := eq_cons_of_nextToken closes (by simp)
        exact opens _ _ same
      split <;>
      · next found =>
          rw [found] at runs
          exact .step rfl (.step rfl (runs.argument starts))
  · next rest _ bare =>
      refine .step rfl (.fails ⟨?_, by simp [Stage.Complete], .bare _⟩)
      cases next : nextToken rest with
      | openParen =>
          obtain ⟨position, same⟩ := eq_cons_of_nextToken next (by simp)
          exact absurd same (bare _ _)
      | _ => rfl
  · exact .fails ⟨rfl, not_complete_operand, .passed rfl rfl⟩
  · exact .fails ⟨rfl, not_complete_operand, .passed rfl rfl⟩
  · next token position rest _ _ _ _ _ _ _ _ _ _ _ =>
      refine .fails ⟨?_, not_complete_operand, .passed rfl rfl⟩
      cases token <;> first | rfl | simp_all

theorem runs_readBinary (below : RunsBelow α stop lexemes.length) (least : Nat)
    (brackets : List Bracket) :
    Runs stop (PastOperand brackets) ⟨.operand, brackets⟩ lexemes
      ((readBinary stop least lexemes).map (·.rest)) := by
  have runs := runs_readOperand below brackets
  rw [readBinary]
  split
  · next failed =>
      rw [failed] at runs
      exact runs.failed
  · next operand after shorter found =>
      rw [found] at runs
      refine runs.trans fun stage past => ?_
      have more := below.extend after shorter least operand brackets stage past
      split
      · next failed =>
          rw [failed] at more
          exact more.failed
      · next extended =>
          rw [extended] at more
          exact more

theorem runs_extend (below : RunsBelow α stop lexemes.length) (least : Nat)
    (left : Expression α) {stage : Stage} (past : PastOperand brackets stage lexemes) :
    Runs stop (PastOperand brackets) stage lexemes
      ((Formula.extend stop least left lexemes).map (·.rest)) := by
  rw [Formula.extend.eq_def]
  split
  · exact .done past
  · next lexeme after =>
      split
      · exact .done past
      · next operator joins =>
          split
          · exact .done past
          · have steps : stage.step lexeme.token = some ⟨.operand, brackets⟩ :=
              past.step_eq.trans (Stage.stepOperator_of_operator joins brackets)
            have runs := below.binary after (Nat.lt_succ_self _) (operator.precedence + 1) brackets
            split
            · next failed =>
                rw [failed] at runs
                exact .step steps runs
            · next right remaining shorter found =>
                rw [found] at runs
                refine .step steps (runs.trans fun last beyond => ?_)
                have more := below.extend remaining (by simp only [List.length_cons]; omega) least
                  (.binary operator left right) brackets last beyond
                split <;>
                · next found =>
                    rw [found] at more
                    exact more

theorem runs_readArguments (below : RunsBelow α stop lexemes.length) :
    Runs stop (PastOperand brackets) ⟨.operand, .call :: brackets⟩ lexemes
      ((readArguments stop lexemes).map (·.rest)) := by
  have runs := runs_readBinary below 0 (.call :: brackets)
  rw [readArguments]
  split
  · next failed =>
      rw [failed] at runs
      exact runs.failed
  · next argument found =>
      rw [found] at runs
      refine runs.trans fun stage past => ?_
      split
      · next separates =>
          have steps := past.step_eq
          have more := below.arguments argument.rest.tail argument.length_tail_lt brackets
          rw [separates] at steps
          split <;>
          · next found =>
              rw [found] at more
              exact .step_of_next separates steps more
      · next closes => exact past.closes closes
      · next opens apart =>
          exact .fails (past.stuck (ends_of_readBinary found) apart
            (fun separates => absurd separates opens) (.passed rfl rfl))

end Readers

/-- The readers take lexemes one after the other. -/
theorem runsBelow (stop bound : Nat) : RunsBelow α stop bound := by
  induction bound with
  | zero => exact ⟨nofun, nofun, nofun, nofun⟩
  | succ bound ih =>
      have within (lexemes : List (Lexeme α)) (shorter : lexemes.length < bound + 1) :
          RunsBelow α stop lexemes.length :=
        ⟨fun others fewer => ih.operand others (by omega),
          fun others fewer => ih.binary others (by omega),
          fun others fewer => ih.extend others (by omega),
          fun others fewer => ih.arguments others (by omega)⟩
      exact
        ⟨fun lexemes shorter => runs_readOperand (within lexemes shorter),
          fun lexemes shorter => runs_readBinary (within lexemes shorter),
          fun lexemes shorter least left _ _ past =>
            runs_extend (within lexemes shorter) least left past,
          fun lexemes shorter _ => runs_readArguments (within lexemes shorter)⟩

end Metrology.Formula
