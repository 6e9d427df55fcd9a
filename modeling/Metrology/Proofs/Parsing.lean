import Metrology.Proofs.Grammar

/-!
# Reading and the grammar

The readers climb over the strengths of operators in one loop, the grammar has one
nonterminal for each strength.  Both find the same trees: what is read derives from the
rules, and what derives from them is read.
-/

namespace Metrology.Formula

variable {α : Type}

/-! ## Soundness -/

/-- The lexemes before `rest` derive a tree from a nonterminal. -/
def Reads (nonterminal : Nonterminal) (lexemes : List (Lexeme α)) (tree : Expression α)
    (rest : List (Lexeme α)) : Prop :=
  ∃ taken, lexemes = taken ++ rest ∧ Derives nonterminal (taken.map (·.token)) tree

/-- The lexemes before `rest` are arguments with the parenthesis that closes them. -/
def ReadsArguments (lexemes : List (Lexeme α)) (trees : List (Expression α))
    (rest : List (Lexeme α)) : Prop :=
  ∃ arguments taken, arguments ≠ [] ∧ trees = arguments.map Passage.tree ∧
    lexemes = taken ++ rest ∧
    taken.map (·.token) = argumentTokens arguments ++ [.closeParen] ∧
    ∀ argument ∈ arguments, Derives .or argument.tokens argument.tree

/-- No operator of some strength or a greater one comes next. -/
def Ends (strength : Nat) (lexemes : List (Lexeme α)) : Prop :=
  ∀ operator, (nextToken lexemes).operator? = some operator → operator.precedence < strength

/-- What the readers do with fewer lexemes than a bound. -/
structure SoundBelow (α : Type) (stop bound : Nat) : Prop where
  operand : ∀ lexemes : List (Lexeme α), lexemes.length < bound →
    ∀ reading, readOperand stop lexemes = .ok reading →
      Reads .unary lexemes reading.value reading.rest
  binary : ∀ lexemes : List (Lexeme α), lexemes.length < bound →
    ∀ (least : Nat) (nonterminal : Nonterminal), nonterminal.rank = max 1 least →
    nonterminal.rank ≤ 7 → ∀ reading, readBinary stop least lexemes = .ok reading →
      Reads nonterminal lexemes reading.value reading.rest ∧
        Ends nonterminal.rank reading.rest
  extend : ∀ lexemes : List (Lexeme α), lexemes.length < bound →
    ∀ (least : Nat) (nonterminal current : Nonterminal), nonterminal.rank = max 1 least →
    nonterminal.rank ≤ current.rank → current.rank ≤ 7 → Ends (current.rank + 1) lexemes →
    ∀ (before : List (Token α)) (left : Expression α), Derives current before left →
    ∀ continuation, Formula.extend stop least left lexemes = .ok continuation →
      (∃ taken, lexemes = taken ++ continuation.rest ∧
        Derives nonterminal (before ++ taken.map (·.token)) continuation.value) ∧
        Ends nonterminal.rank continuation.rest
  arguments : ∀ lexemes : List (Lexeme α), lexemes.length < bound →
    ∀ reading, readArguments stop lexemes = .ok reading →
      ReadsArguments lexemes reading.value reading.rest

section Sound

variable {stop : Nat} {lexemes : List (Lexeme α)}

theorem eq_cons_of_nextToken {token : Token α} (next : nextToken lexemes = token)
    (notStop : token ≠ .stop) : ∃ position, lexemes = ⟨token, position⟩ :: lexemes.tail := by
  cases lexemes with
  | nil => exact absurd next.symm notStop
  | cons lexeme rest =>
      subst next
      exact ⟨lexeme.position, rfl⟩

/-- A parenthesis that is taken off was there. -/
theorem close_eq_ok {β : Type} {reading closed : Reading β lexemes}
    (closes : reading.close stop = .ok closed) :
    closed.value = reading.value ∧ ∃ position,
      reading.rest = ⟨.closeParen, position⟩ :: closed.rest := by
  unfold Reading.close at closes
  split at closes
  · next found =>
      cases closes
      exact ⟨rfl, eq_cons_of_nextToken found (by simp)⟩
  · cases closes

theorem readOperand_sound (below : SoundBelow α stop lexemes.length)
    {reading : Reading (Expression α) lexemes} (read : readOperand stop lexemes = .ok reading) :
    Reads .unary lexemes reading.value reading.rest := by
  unfold readOperand at read
  split at read
  · cases read
  · next position after =>
      split at read
      · cases read
      · next operand found =>
          cases read
          obtain ⟨taken, same, derives⟩ := below.operand _ (Nat.lt_succ_self _) _ found
          exact ⟨⟨.minus, position⟩ :: taken, congrArg (_ :: ·) same, .minus derives⟩
  · next position after =>
      split at read
      · cases read
      · next operand found =>
          cases read
          obtain ⟨taken, same, derives⟩ := below.operand _ (Nat.lt_succ_self _) _ found
          exact ⟨⟨.plus, position⟩ :: taken, congrArg (_ :: ·) same, .plus derives⟩
  · next value position tag tagPosition rest =>
      cases read
      exact ⟨[⟨.number value, position⟩, ⟨.unitTag tag, tagPosition⟩], rfl,
        .unsigned (.tagged value tag)⟩
  · next value position rest _ =>
      cases read
      exact ⟨[⟨.number value, position⟩], rfl, .unsigned (.number value)⟩
  · next name position rest =>
      cases read
      exact ⟨[⟨.reference name, position⟩], rfl, .unsigned (.reference name)⟩
  · next position after =>
      split at read
      · cases read
      · next inner found =>
          obtain ⟨value, closing, last⟩ := close_eq_ok read
          obtain ⟨⟨taken, same, derives⟩, _⟩ :=
            below.binary _ (Nat.lt_succ_self _) 0 .or rfl (by decide) _ found
          refine ⟨⟨.openParen, position⟩ :: (taken ++ [⟨.closeParen, closing⟩]), ?_, ?_⟩
          · rw [List.cons_append, List.append_assoc, List.singleton_append, ← last]
            exact congrArg (_ :: ·) same
          · have whole := Derives.unsigned (.parenthesized derives)
            simpa [value, Reading.widen] using whole
  · next name position openPosition closePosition rest =>
      cases read
      refine ⟨[⟨.identifier name, position⟩, ⟨.openParen, openPosition⟩,
        ⟨.closeParen, closePosition⟩], rfl, .unsigned (.call name [] ?_)⟩
      exact fun _ impossible => absurd impossible List.not_mem_nil
  · next name position openPosition after _ =>
      split at read
      · cases read
      · next found =>
          cases read
          obtain ⟨arguments, taken, _, trees, same, tokens, each⟩ :=
            below.arguments _ (by simp only [List.length_cons]; omega) _ found
          refine ⟨⟨.identifier name, position⟩ :: ⟨.openParen, openPosition⟩ :: taken,
            congrArg (_ :: _ :: ·) same, ?_⟩
          have whole := Derives.unsigned (.call name arguments each)
          rw [← trees, List.cons_append, List.cons_append, ← tokens] at whole
          exact whole
  · cases read
  · cases read
  · cases read
  · cases read

theorem readBinary_sound (below : SoundBelow α stop lexemes.length) {least : Nat}
    {nonterminal : Nonterminal} (strength : nonterminal.rank = max 1 least)
    (signed : nonterminal.rank ≤ 7) {reading : Reading (Expression α) lexemes}
    (read : readBinary stop least lexemes = .ok reading) :
    Reads nonterminal lexemes reading.value reading.rest ∧
      Ends nonterminal.rank reading.rest := by
  rw [readBinary] at read
  split at read
  · cases read
  · next operand after shorter found =>
      obtain ⟨front, same, derives⟩ := readOperand_sound below found
      split at read
      · cases read
      · next value rest noLonger extended =>
          cases read
          -- No operator is as strong as a sign, so anything may follow the operand.
          have calm : Ends (Nonterminal.unary.rank + 1) after := fun operator _ =>
            operator.precedence_le.trans_lt (by decide)
          obtain ⟨⟨back, continues, whole⟩, ends⟩ :=
            below.extend after shorter least nonterminal .unary strength signed (le_refl _) calm
              _ _ derives _ extended
          refine ⟨⟨front ++ back, ?_, ?_⟩, ends⟩
          · exact (same.trans (congrArg _ continues)).trans (List.append_assoc _ _ _).symm
          · rw [List.map_append]
            exact whole

/-- What is read without a bound on the operators is a whole expression. -/
theorem readExpression_sound (below : SoundBelow α stop lexemes.length)
    {reading : Reading (Expression α) lexemes} (read : readBinary stop 0 lexemes = .ok reading) :
    Reads .or lexemes reading.value reading.rest :=
  (readBinary_sound below (show Nonterminal.or.rank = max 1 0 from rfl) (by decide) read).1

theorem extend_sound (below : SoundBelow α stop lexemes.length) {least : Nat}
    {nonterminal current : Nonterminal} (strength : nonterminal.rank = max 1 least)
    (looser : nonterminal.rank ≤ current.rank) (signed : current.rank ≤ 7)
    (calm : Ends (current.rank + 1) lexemes) {before : List (Token α)} {left : Expression α}
    (derives : Derives current before left) {continuation : Continuation (Expression α) lexemes}
    (extended : Formula.extend stop least left lexemes = .ok continuation) :
    (∃ taken, lexemes = taken ++ continuation.rest ∧
      Derives nonterminal (before ++ taken.map (·.token)) continuation.value) ∧
      Ends nonterminal.rank continuation.rest := by
  have alone : Derives nonterminal (before ++ List.map (·.token) ([] : List (Lexeme α))) left := by
    simpa using derives.of_rank_le looser signed
  rw [Formula.extend.eq_def] at extended
  split at extended
  · cases extended
    refine ⟨⟨[], rfl, alone⟩, fun _ impossible => ?_⟩
    cases impossible
  · next lexeme after =>
      split at extended
      · next noOperator =>
          cases extended
          refine ⟨⟨[], rfl, alone⟩, fun operator found => ?_⟩
          rw [show nextToken (lexeme :: after) = lexeme.token from rfl, noOperator] at found
          cases found
      · next operator found =>
          split at extended
          · next weak =>
              cases extended
              refine ⟨⟨[], rfl, alone⟩, fun other otherFound => ?_⟩
              cases found.symm.trans otherFound
              omega
          · next strong =>
              have reached := calm operator found
              have one := operator.one_le_precedence
              have most := operator.precedence_le
              -- The operator takes all before it as its left operand.
              obtain ⟨level, levelRank⟩ := Nonterminal.exists_rank one (by omega)
              obtain ⟨operand, tighter⟩ := Nonterminal.exists_operand level (by omega)
              have operandRank := Nonterminal.rank_operand tighter
              have joins := Nonterminal.mem_operators_iff.2 levelRank.symm
              have leftDerives : Derives level before left := derives.of_rank_le (by omega) signed
              split at extended
              · cases extended
              · next right remaining shorter rightFound =>
                  obtain ⟨⟨middle, same, rightDerives⟩, rightEnds⟩ :=
                    below.binary after (Nat.lt_succ_self _) _ operand (by omega) (by omega) _
                      rightFound
                  split at extended
                  · cases extended
                  · next value rest noLonger restExtended =>
                      cases extended
                      have joined := leftDerives.join tighter joins rightDerives
                      rw [operandRank] at rightEnds
                      obtain ⟨⟨back, continues, whole⟩, ends⟩ :=
                        below.extend remaining (by simp only [List.length_cons]; omega) least
                          nonterminal level strength (by omega) (by omega) rightEnds _ _ joined _
                          restExtended
                      refine ⟨⟨lexeme :: (middle ++ back), ?_, ?_⟩, ends⟩
                      · have rejoined := same.trans (congrArg _ continues)
                        exact congrArg (_ :: ·)
                          (rejoined.trans (List.append_assoc _ _ _).symm)
                      · rw [← Token.operator?_eq_some_iff.1 found] at whole
                        simpa using whole

theorem argumentTokens_cons (argument : Passage α) {others : List (Passage α)}
    (filled : others ≠ []) :
    argumentTokens (argument :: others) =
      argument.tokens ++ .comma :: argumentTokens others := by
  cases others with
  | nil => exact absurd rfl filled
  | cons other rest =>
      simp [argumentTokens, List.intercalate_cons_cons]

theorem argumentTokens_singleton (argument : Passage α) :
    argumentTokens [argument] = argument.tokens := by
  simp [argumentTokens]

theorem readArguments_sound (below : SoundBelow α stop lexemes.length)
    {reading : Reading (List (Expression α)) lexemes}
    (read : readArguments stop lexemes = .ok reading) :
    ReadsArguments lexemes reading.value reading.rest := by
  rw [readArguments] at read
  split at read
  · cases read
  · next argument found =>
      obtain ⟨taken, same, derives⟩ := readExpression_sound below found
      split at read
      · next comma =>
          obtain ⟨position, separated⟩ := eq_cons_of_nextToken comma (by simp)
          split at read
          · cases read
          · next others othersFound =>
              cases read
              obtain ⟨arguments, later, filled, trees, continues, tokens, each⟩ :=
                below.arguments _ argument.length_tail_lt _ othersFound
              refine ⟨⟨taken.map (·.token), argument.value⟩ :: arguments,
                taken ++ ⟨.comma, position⟩ :: later, List.cons_ne_nil _ _, ?_, ?_, ?_, ?_⟩
              · exact congrArg (_ :: ·) trees
              · rw [List.append_assoc, List.cons_append]
                exact same.trans (congrArg _ (separated.trans (congrArg _ continues)))
              · rw [argumentTokens_cons _ filled, List.map_append, List.map_cons, tokens]
                simp
              · intro other member
                rcases List.mem_cons.1 member with rfl | later
                · exact derives
                · exact each other later
      · next closes =>
          cases read
          obtain ⟨position, closed⟩ := eq_cons_of_nextToken closes (by simp)
          refine ⟨[⟨taken.map (·.token), argument.value⟩], taken ++ [⟨.closeParen, position⟩],
            List.cons_ne_nil _ _, rfl, ?_, ?_, ?_⟩
          · rw [List.append_assoc, List.singleton_append]
            exact same.trans (congrArg _ closed)
          · rw [argumentTokens_singleton, List.map_append]
            rfl
          · intro other member
            rw [List.mem_singleton.1 member]
            exact derives
      · cases read

end Sound

/-- What the readers return derives from the grammar. -/
theorem soundBelow (stop bound : Nat) : SoundBelow α stop bound := by
  induction bound with
  | zero =>
      exact ⟨fun _ impossible => absurd impossible (Nat.not_lt_zero _),
        fun _ impossible => absurd impossible (Nat.not_lt_zero _),
        fun _ impossible => absurd impossible (Nat.not_lt_zero _),
        fun _ impossible => absurd impossible (Nat.not_lt_zero _)⟩
  | succ bound ih =>
      have within (lexemes : List (Lexeme α)) (shorter : lexemes.length < bound + 1) :
          SoundBelow α stop lexemes.length :=
        ⟨fun others fewer => ih.operand others (by omega),
          fun others fewer => ih.binary others (by omega),
          fun others fewer => ih.extend others (by omega),
          fun others fewer => ih.arguments others (by omega)⟩
      exact
        ⟨fun lexemes shorter _ read => readOperand_sound (within lexemes shorter) read,
          fun lexemes shorter _ _ strength signed _ read =>
            readBinary_sound (within lexemes shorter) strength signed read,
          fun lexemes shorter _ _ _ strength looser signed calm _ _ derives _ extended =>
            extend_sound (within lexemes shorter) strength looser signed calm derives extended,
          fun lexemes shorter _ read => readArguments_sound (within lexemes shorter) read⟩

/-! ## Completeness -/

def Reading.parts {β : Type} {lexemes : List (Lexeme α)} (reading : Reading β lexemes) :
    β × List (Lexeme α) :=
  (reading.value, reading.rest)

def Continuation.parts {β : Type} {lexemes : List (Lexeme α)}
    (continuation : Continuation β lexemes) : β × List (Lexeme α) :=
  (continuation.value, continuation.rest)

section Equations

variable {stop least position : Nat} {lexemes after rest : List (Lexeme α)}
  {tree : Expression α}

theorem exists_of_parts {β : Type} {read : Except (Fault α) (Reading β lexemes)}
    {value : β} (returns : read.map Reading.parts = .ok (value, rest)) :
    ∃ shorter, read = .ok ⟨value, rest, shorter⟩ := by
  cases read with
  | error fault => cases returns
  | ok reading =>
      cases returns
      exact ⟨reading.shorter, rfl⟩

theorem parts_readBinary (least : Nat)
    (operand : (readOperand stop lexemes).map Reading.parts = .ok (tree, rest)) :
    (readBinary stop least lexemes).map Reading.parts =
      (Formula.extend stop least tree rest).map Continuation.parts := by
  obtain ⟨shorter, found⟩ := exists_of_parts operand
  rw [readBinary, found]
  dsimp only
  cases Formula.extend stop least tree rest <;> rfl

theorem parts_extend_of_ends (ends : Ends least lexemes) :
    (Formula.extend stop least tree lexemes).map Continuation.parts = .ok (tree, lexemes) := by
  rw [Formula.extend.eq_def]
  split
  · rfl
  · next lexeme after =>
      split
      · rfl
      · next operator found =>
          rw [if_pos (ends operator found)]
          rfl

theorem parts_extend_cons {operator : Operator} {left right : Expression α}
    (strong : least ≤ operator.precedence)
    (operand : (readBinary stop (operator.precedence + 1) after).map Reading.parts =
      .ok (right, rest)) :
    (Formula.extend stop least left (⟨operator.token, position⟩ :: after)).map
        Continuation.parts =
      (Formula.extend stop least (.binary operator left right) rest).map
        Continuation.parts := by
  obtain ⟨shorter, found⟩ := exists_of_parts operand
  have stands : (operator.token : Token α).operator? = some operator :=
    Token.operator?_eq_some_iff.2 rfl
  rw [Formula.extend.eq_def]
  dsimp only
  split
  · next noOperator =>
      rw [stands] at noOperator
      cases noOperator
  · next other same =>
      cases stands.symm.trans same
      rw [if_neg (Nat.not_lt.2 strong), found]
      dsimp only
      cases Formula.extend stop least (.binary operator left right) rest <;> rfl

theorem parts_readOperand_minus
    (operand : (readOperand stop after).map Reading.parts = .ok (tree, rest)) :
    (readOperand stop (⟨.minus, position⟩ :: after)).map Reading.parts =
      .ok (.negate tree, rest) := by
  obtain ⟨shorter, found⟩ := exists_of_parts operand
  rw [readOperand, found]
  rfl

theorem parts_readOperand_plus
    (operand : (readOperand stop after).map Reading.parts = .ok (tree, rest)) :
    (readOperand stop (⟨.plus, position⟩ :: after)).map Reading.parts = .ok (tree, rest) := by
  obtain ⟨shorter, found⟩ := exists_of_parts operand
  rw [readOperand, found]
  rfl

theorem parts_readOperand_number {value : α}
    (untagged : ∀ tag, nextToken rest ≠ .unitTag tag) :
    (readOperand stop (⟨.number value, position⟩ :: rest)).map Reading.parts =
      .ok (.number value none, rest) := by
  rw [readOperand]
  · rfl
  · rintro tag tagPosition others rfl
    exact untagged tag rfl

theorem parts_readOperand_openParen {closing : Nat}
    (inner : (readBinary stop 0 after).map Reading.parts =
      .ok (tree, ⟨.closeParen, closing⟩ :: rest)) :
    (readOperand stop (⟨.openParen, position⟩ :: after)).map Reading.parts =
      .ok (tree, rest) := by
  obtain ⟨shorter, found⟩ := exists_of_parts inner
  rw [readOperand, found]
  rfl

theorem parts_readOperand_call {name : String} {opening : Nat} {trees : List (Expression α)}
    (filled : nextToken after ≠ .closeParen)
    (arguments : (readArguments stop after).map Reading.parts = .ok (trees, rest)) :
    (readOperand stop (⟨.identifier name, position⟩ :: ⟨.openParen, opening⟩ :: after)).map
      Reading.parts = .ok (.call name trees, rest) := by
  obtain ⟨shorter, found⟩ := exists_of_parts arguments
  rw [readOperand, found]
  · rfl
  · rintro closing others rfl
    exact filled rfl

theorem parts_readArguments_last {closing : Nat}
    (argument : (readBinary stop 0 after).map Reading.parts =
      .ok (tree, ⟨.closeParen, closing⟩ :: rest)) :
    (readArguments stop after).map Reading.parts = .ok ([tree], rest) := by
  obtain ⟨shorter, found⟩ := exists_of_parts argument
  rw [readArguments, found]
  rfl

theorem parts_readArguments_comma {others : List (Lexeme α)} {trees : List (Expression α)}
    (argument : (readBinary stop 0 after).map Reading.parts =
      .ok (tree, ⟨.comma, position⟩ :: others))
    (arguments : (readArguments stop others).map Reading.parts = .ok (trees, rest)) :
    (readArguments stop after).map Reading.parts = .ok (tree :: trees, rest) := by
  obtain ⟨shorter, found⟩ := exists_of_parts argument
  obtain ⟨othersShorter, othersFound⟩ := exists_of_parts arguments
  rw [readArguments, found]
  simp only [nextToken, List.tail_cons, othersFound]
  rfl

end Equations

/-- What may follow a tree: no operator of a greater strength and no unit tag. -/
structure Follows (strength : Nat) (rest : List (Lexeme α)) : Prop where
  ends : Ends (strength + 1) rest
  untagged : ∀ tag, nextToken rest ≠ .unitTag tag

/-- The readers take tokens off what may follow them, and find a tree. -/
structure Found (stop : Nat) (nonterminal : Nonterminal) (tokens : List (Token α))
    (tree : Expression α) : Prop where
  operand : ∀ taken rest : List (Lexeme α), taken.map (·.token) = tokens →
    Follows nonterminal.rank rest → Nonterminal.unary.rank ≤ nonterminal.rank →
    (readOperand stop (taken ++ rest)).map Reading.parts = .ok (tree, rest)
  binary : ∀ taken rest : List (Lexeme α), taken.map (·.token) = tokens →
    Follows nonterminal.rank rest → ∀ least ≤ nonterminal.rank,
    (readBinary stop least (taken ++ rest)).map Reading.parts =
      (Formula.extend stop least tree rest).map Continuation.parts

section Complete

variable {stop : Nat} {nonterminal operand : Nonterminal} {tokens : List (Token α)}
  {tree : Expression α}

theorem Follows.of_le {loose tight : Nat} {rest : List (Lexeme α)} (follows : Follows loose rest)
    (tighter : loose ≤ tight) : Follows tight rest :=
  ⟨fun operator found => (follows.ends operator found).trans_le (Nat.succ_le_succ tighter),
    follows.untagged⟩

/-- A mark that is no operator may follow anything. -/
theorem follows_of_mark {token : Token α} {position strength : Nat}
    {rest : List (Lexeme α)} (noOperator : token.operator? = none)
    (untagged : ∀ tag, token ≠ .unitTag tag) :
    Follows strength (⟨token, position⟩ :: rest) := by
  refine ⟨fun operator found => ?_, untagged⟩
  cases noOperator.symm.trans found

/-- Any operator may follow an operand with its signs. -/
theorem follows_signed {strength : Nat} {rest : List (Lexeme α)} (signed : 7 ≤ strength)
    (untagged : ∀ tag, nextToken rest ≠ .unitTag tag) : Follows strength rest :=
  ⟨fun operator _ => operator.precedence_le.trans_lt (by omega), untagged⟩

theorem exists_lexeme {taken : List (Lexeme α)} {token : Token α} {later : List (Token α)}
    (same : taken.map (·.token) = token :: later) :
    ∃ position others, taken = ⟨token, position⟩ :: others ∧
      others.map (·.token) = later := by
  obtain ⟨⟨_, position⟩, others, rfl, rfl, laterSame⟩ := List.map_eq_cons_iff.1 same
  exact ⟨position, others, rfl, laterSame⟩

theorem found_of_operand
    (read : ∀ taken rest : List (Lexeme α), taken.map (·.token) = tokens →
      (∀ tag, nextToken rest ≠ .unitTag tag) →
      (readOperand stop (taken ++ rest)).map Reading.parts = .ok (tree, rest)) :
    Found stop nonterminal tokens tree :=
  ⟨fun taken rest same follows _ => read taken rest same follows.untagged,
    fun taken rest same follows least _ =>
      parts_readBinary least (read taken rest same follows.untagged)⟩

/-- A whole expression before a mark is read up to the mark. -/
theorem Found.before_mark (found : Found stop .or tokens tree) {taken rest : List (Lexeme α)}
    (same : taken.map (·.token) = tokens) {token : Token α} {position : Nat}
    (noOperator : token.operator? = none) (untagged : ∀ tag, token ≠ .unitTag tag) :
    (readBinary stop 0 (taken ++ ⟨token, position⟩ :: rest)).map Reading.parts =
      .ok (tree, ⟨token, position⟩ :: rest) := by
  rw [found.binary taken _ same (follows_of_mark noOperator untagged) 0 (Nat.zero_le _)]
  refine parts_extend_of_ends fun operator stands => ?_
  cases noOperator.symm.trans stands

/-- The loop takes up one operator after the other. -/
theorem parts_extend_joined {least : Nat} (tighter : nonterminal.operand? = some operand)
    (loose : least ≤ nonterminal.rank) {others : List (Operator × Passage α)}
    (joins : ∀ other ∈ others, other.1 ∈ nonterminal.operators)
    (found : ∀ other ∈ others, Found stop operand other.2.tokens other.2.tree)
    {back rest : List (Lexeme α)}
    (same : back.map (·.token) = others.flatMap fun other => other.1.token :: other.2.tokens)
    (follows : Follows nonterminal.rank rest) (first : Passage α) :
    (Formula.extend stop least first.tree (back ++ rest)).map Continuation.parts =
      (Formula.extend stop least (joinedTree first others) rest).map Continuation.parts ∧
      Follows nonterminal.rank (back ++ rest) := by
  induction others generalizing back first with
  | nil =>
      rw [List.flatMap_nil, List.map_eq_nil_iff] at same
      rw [same]
      exact ⟨rfl, follows⟩
  | cons other others ih =>
      rw [List.flatMap_cons, List.cons_append] at same
      obtain ⟨position, later, rfl, laterSame⟩ := exists_lexeme same
      obtain ⟨middle, last, rfl, middleSame, lastSame⟩ := List.map_eq_append_iff.1 laterSame
      have strength := Nonterminal.mem_operators_iff.1 (joins other List.mem_cons_self)
      have tight := Nonterminal.rank_operand tighter
      obtain ⟨continues, calm⟩ := ih
        (fun next member => joins next (List.mem_cons_of_mem _ member))
        (fun next member => found next (List.mem_cons_of_mem _ member)) lastSame
        ⟨first.tokens, .binary other.1 first.tree other.2.tree⟩
      have right : (readBinary stop (other.1.precedence + 1) (middle ++ (last ++ rest))).map
          Reading.parts = .ok (other.2.tree, last ++ rest) := by
        rw [(found other List.mem_cons_self).binary middle _ middleSame
          (calm.of_le (by omega)) _ (by omega)]
        refine parts_extend_of_ends fun operator stands => ?_
        have weak := calm.ends operator stands
        omega
      constructor
      · rw [List.cons_append, List.append_assoc, parts_extend_cons (by omega) right, continues]
        rfl
      · refine ⟨fun operator stands => ?_, fun tag tagged => ?_⟩
        · cases (Token.operator?_eq_some_iff.2 rfl).symm.trans stands
          omega
        · have stands : (other.1.token : Token α).operator? = some other.1 :=
            Token.operator?_eq_some_iff.2 rfl
          rw [show (other.1.token : Token α) = .unitTag tag from tagged] at stands
          cases stands

theorem Found.joined {first : Passage α} {others : List (Operator × Passage α)}
    (tighter : nonterminal.operand? = some operand)
    (leads : Found stop operand first.tokens first.tree)
    (joins : ∀ other ∈ others, other.1 ∈ nonterminal.operators)
    (follows : ∀ other ∈ others, Found stop operand other.2.tokens other.2.tree) :
    Found stop nonterminal (joinedTokens first others) (joinedTree first others) := by
  have tight := Nonterminal.rank_operand tighter
  refine ⟨fun _ _ _ _ signed => ?_, fun taken rest same calm least loose => ?_⟩
  · exact absurd (Nonterminal.rank_lt_of_operand tighter) (Nat.not_lt.2 signed)
  · obtain ⟨front, back, rfl, frontSame, backSame⟩ := List.map_eq_append_iff.1 same
    obtain ⟨continues, backCalm⟩ :=
      parts_extend_joined tighter loose joins follows backSame calm first
    rw [List.append_assoc, leads.binary front _ frontSame (backCalm.of_le (by omega)) least
      (by omega), continues]

/-- Tokens that derive from the grammar do not start with a closing parenthesis. -/
theorem Derives.exists_first (derives : Derives nonterminal tokens tree) :
    ∃ first rest, tokens = first :: rest ∧ first ≠ .closeParen := by
  induction derives with
  | joined first others _ _ _ _ ih _ =>
      obtain ⟨token, rest, same, open_⟩ := ih
      exact ⟨token, _, by rw [joinedTokens, same, List.cons_append], open_⟩
  | unsigned _ ih => exact ih
  | _ => exact ⟨_, _, rfl, by simp⟩

/-- Neither do arguments. -/
theorem exists_first_argument {arguments : List (Passage α)} (filled : arguments ≠ [])
    (derives : ∀ argument ∈ arguments, Derives .or argument.tokens argument.tree) :
    ∃ first rest, argumentTokens arguments = first :: rest ∧ first ≠ .closeParen := by
  cases arguments with
  | nil => exact absurd rfl filled
  | cons argument others =>
      obtain ⟨first, rest, starts, opens⟩ := (derives argument List.mem_cons_self).exists_first
      cases others with
      | nil => exact ⟨first, rest, by rw [argumentTokens_singleton, starts], opens⟩
      | cons other others =>
          exact ⟨first, _, by
            rw [argumentTokens_cons _ (List.cons_ne_nil _ _), starts, List.cons_append], opens⟩

theorem parts_readArguments {arguments : List (Passage α)} (filled : arguments ≠ [])
    (found : ∀ argument ∈ arguments, Found stop .or argument.tokens argument.tree)
    {taken : List (Lexeme α)} (same : taken.map (·.token) = argumentTokens arguments)
    (closing : Nat) (rest : List (Lexeme α)) :
    (readArguments stop (taken ++ ⟨.closeParen, closing⟩ :: rest)).map Reading.parts =
      .ok (arguments.map (·.tree), rest) := by
  induction arguments generalizing taken with
  | nil => exact absurd rfl filled
  | cons argument others ih =>
      have argumentFound := found argument List.mem_cons_self
      by_cases last : others = []
      · subst last
        rw [argumentTokens_singleton] at same
        exact parts_readArguments_last (argumentFound.before_mark same rfl (by simp))
      · rw [argumentTokens_cons _ last] at same
        obtain ⟨front, back, rfl, frontSame, backSame⟩ := List.map_eq_append_iff.1 same
        obtain ⟨position, later, rfl, laterSame⟩ := exists_lexeme backSame
        rw [List.append_assoc, List.cons_append]
        exact parts_readArguments_comma (argumentFound.before_mark frontSame rfl (by simp))
          (ih last (fun next member => found next (List.mem_cons_of_mem _ member)) laterSame)

/-- What derives from the grammar is found. -/
theorem found_of_derives (stop : Nat) (derives : Derives nonterminal tokens tree) :
    Found stop nonterminal tokens tree := by
  induction derives with
  | joined first others tighter _ joins _ leads follows =>
      exact Found.joined tighter leads joins follows
  | minus _ found =>
      refine found_of_operand fun taken rest same untagged => ?_
      obtain ⟨position, later, rfl, laterSame⟩ := exists_lexeme same
      exact parts_readOperand_minus
        (found.operand later rest laterSame (follows_signed (by decide) untagged) (le_refl _))
  | plus _ found =>
      refine found_of_operand fun taken rest same untagged => ?_
      obtain ⟨position, later, rfl, laterSame⟩ := exists_lexeme same
      exact parts_readOperand_plus
        (found.operand later rest laterSame (follows_signed (by decide) untagged) (le_refl _))
  | unsigned _ found =>
      refine found_of_operand fun taken rest same untagged => ?_
      exact found.operand taken rest same (follows_signed (by decide) untagged) (by decide)
  | number value =>
      refine found_of_operand fun taken rest same untagged => ?_
      obtain ⟨position, later, rfl, laterSame⟩ := exists_lexeme same
      rw [List.map_eq_nil_iff.1 laterSame]
      exact parts_readOperand_number untagged
  | tagged value tag =>
      refine found_of_operand fun taken rest same _ => ?_
      obtain ⟨position, later, rfl, laterSame⟩ := exists_lexeme same
      obtain ⟨tagPosition, others, rfl, othersSame⟩ := exists_lexeme laterSame
      rw [List.map_eq_nil_iff.1 othersSame, List.cons_append, List.cons_append, readOperand]
      rfl
  | reference name =>
      refine found_of_operand fun taken rest same _ => ?_
      obtain ⟨position, later, rfl, laterSame⟩ := exists_lexeme same
      rw [List.map_eq_nil_iff.1 laterSame, List.cons_append, readOperand]
      rfl
  | parenthesized _ found =>
      refine found_of_operand fun taken rest same _ => ?_
      obtain ⟨position, later, rfl, laterSame⟩ := exists_lexeme same
      obtain ⟨middle, last, rfl, middleSame, lastSame⟩ := List.map_eq_append_iff.1 laterSame
      obtain ⟨closing, others, rfl, othersSame⟩ := exists_lexeme lastSame
      rw [List.map_eq_nil_iff.1 othersSame, List.cons_append, List.append_assoc]
      exact parts_readOperand_openParen (found.before_mark middleSame rfl (by simp))
  | call name arguments derives found =>
      refine found_of_operand fun taken rest same _ => ?_
      obtain ⟨position, later, rfl, laterSame⟩ := exists_lexeme same
      obtain ⟨opening, inner, rfl, innerSame⟩ := exists_lexeme laterSame
      obtain ⟨middle, last, rfl, middleSame, lastSame⟩ := List.map_eq_append_iff.1 innerSame
      obtain ⟨closing, others, rfl, othersSame⟩ := exists_lexeme lastSame
      rw [List.map_eq_nil_iff.1 othersSame, List.cons_append, List.cons_append,
        List.append_assoc]
      by_cases none_given : arguments = []
      · subst none_given
        rw [List.map_eq_nil_iff.1 middleSame, List.nil_append, List.cons_append, readOperand]
        rfl
      · refine parts_readOperand_call (fun closes => ?_)
          (parts_readArguments none_given found middleSame closing rest)
        obtain ⟨first, others, starts, opens⟩ := exists_first_argument none_given derives
        rw [starts] at middleSame
        obtain ⟨place, remaining, rfl, _⟩ := exists_lexeme middleSame
        exact opens closes

end Complete

end Metrology.Formula
