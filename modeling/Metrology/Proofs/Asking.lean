import Metrology.Proofs.Accepting
import Metrology.Proofs.Composing
import Metrology.Proofs.Growth

/-!
# What formulas ask for

A formula asks its resolver for names that it refers to, in the order in which they are written.  It
may pass over some of them, where it branches or fails; without branches a formula that comes to a
value has asked for each of its references.
-/

namespace Metrology.Formula

variable {α σ : Type}

/-! ## References in a text -/

def Token.reference? : Token α → Option String
  | .reference name => some name
  | _ => none

/-- The names of the references among tokens, from left to right. -/
def referenced (tokens : List (Token α)) : List String :=
  tokens.filterMap Token.reference?

@[simp]
theorem referenced_append (left right : List (Token α)) :
    referenced (left ++ right) = referenced left ++ referenced right :=
  List.filterMap_append

@[simp]
theorem referenced_cons (token : Token α) (tokens : List (Token α)) :
    referenced (token :: tokens) = token.reference?.toList ++ referenced tokens := by
  cases found : token.reference? <;> simp [referenced, found]

@[simp]
theorem Operator.reference?_token (operator : Operator) :
    (operator.token : Token α).reference? = none := by
  cases operator <;> rfl

theorem referenced_flatMap (others : List (Operator × Passage α)) :
    referenced (others.flatMap fun other => other.1.token :: other.2.tokens) =
      others.flatMap fun other => referenced other.2.tokens := by
  induction others with
  | nil => rfl
  | cons other rest ih =>
      rw [List.flatMap_cons, List.flatMap_cons, referenced_append, ih, referenced_cons,
        Operator.reference?_token]
      rfl

theorem occurrences_joinedTree (first : Passage α) (others : List (Operator × Passage α)) :
    (joinedTree first others).occurrences =
      first.tree.occurrences ++ others.flatMap fun other => other.2.tree.occurrences := by
  induction others using List.reverseRecOn with
  | nil => simp [joinedTree]
  | append_singleton others other ih =>
      rw [joinedTree, List.foldl_append, List.foldl_cons, List.foldl_nil, ← joinedTree,
        Expression.occurrences, ih]
      simp

theorem referenced_argumentTokens (arguments : List (Passage α)) :
    referenced (argumentTokens arguments) =
      arguments.flatMap fun argument => referenced argument.tokens := by
  induction arguments with
  | nil => rfl
  | cons argument rest ih =>
      cases rest with
      | nil => rw [argumentTokens_singleton, List.flatMap_cons, List.flatMap_nil, List.append_nil]
      | cons next rest =>
          rw [argumentTokens_cons _ (List.cons_ne_nil _ _), List.flatMap_cons, ← ih,
            referenced_append]
          rfl

theorem argumentOccurrences_map (arguments : List (Passage α)) :
    Expression.occurrences.argumentOccurrences (arguments.map (·.tree)) =
      arguments.flatMap fun argument => argument.tree.occurrences := by
  induction arguments with
  | nil => rfl
  | cons argument rest ih =>
      rw [List.map_cons, Expression.occurrences.argumentOccurrences, ih, List.flatMap_cons]

/-- The references of a tree are those of its tokens, in the same order. -/
theorem Derives.occurrences {nonterminal : Nonterminal} {tokens : List (Token α)}
    {tree : Expression α} (derives : Derives nonterminal tokens tree) :
    tree.occurrences = referenced tokens := by
  induction derives with
  | joined first others _ _ _ _ leads follows =>
      rw [occurrences_joinedTree, joinedTokens, referenced_append, referenced_flatMap, leads,
        List.flatMap_congr follows]
  | minus _ ih => rw [Expression.occurrences, ih]; rfl
  | plus _ ih => rw [ih]; rfl
  | unsigned _ ih => exact ih
  | number value => rfl
  | tagged value tag => rfl
  | reference name => rfl
  | parenthesized _ ih =>
      rw [ih, List.cons_append, referenced_cons, referenced_append]
      exact (List.append_nil _).symm
  | call name arguments _ each =>
      rw [Expression.occurrences, argumentOccurrences_map, List.flatMap_congr each,
        ← referenced_argumentTokens, List.cons_append, List.cons_append, referenced_cons,
        referenced_cons, referenced_append]
      exact (List.append_nil _).symm

theorem exists_of_parse_ok [Scalar α] {formula : String} {tree : Expression α}
    (parsed : parse formula = .ok tree) :
    ∃ lexemes : List (Lexeme α), tokenize formula = .ok lexemes ∧
      tree.occurrences = referenced (lexemes.map (·.token)) := by
  unfold parse parseText at parsed
  split at parsed
  · next accepted =>
      cases parsed
      split at accepted
      · cases accepted
      · split at accepted
        · cases accepted
        · next lexemes tokenizes =>
            obtain ⟨tokens, same, ends⟩ := tokens_of_tokensFrom tokenizes
            refine ⟨lexemes, tokenizes, ?_⟩
            rw [((parseLexemes_eq_ok_iff same ends).1 accepted).occurrences, same,
              referenced_append]
            exact (List.append_nil _).symm
  · cases parsed

/-! ## Names once each -/

/-- Each of some names once, in the order in which they first appear. -/
structure FirstAppearances (names occurrences : List String) : Prop where
  nodup : names.Nodup
  mem_iff : ∀ name, name ∈ names ↔ name ∈ occurrences
  ordered : names.Pairwise fun earlier later =>
    occurrences.idxOf earlier < occurrences.idxOf later

/-- What is written behind some names does not change where they first appear. -/
theorem idxOf_append_lt_idxOf_append {names : List String} {earlier later : String}
    (more : List String) (member : earlier ∈ names)
    (less : names.idxOf earlier < names.idxOf later) :
    (names ++ more).idxOf earlier < (names ++ more).idxOf later := by
  rw [List.idxOf_append_of_mem member]
  by_cases present : later ∈ names
  · rwa [List.idxOf_append_of_mem present]
  · rw [List.idxOf_append_of_notMem present]
    exact Nat.lt_add_right _ (List.idxOf_lt_length_of_mem member)

theorem eraseDups_append_singleton (names : List String) (last : String) :
    (names ++ [last]).eraseDups =
      if last ∈ names then names.eraseDups else names.eraseDups ++ [last] := by
  rw [List.eraseDups_append]
  split
  · next present => simp [List.removeAll, present]
  · next absent => simp [List.removeAll, absent, List.eraseDups_cons]

theorem pairwise_idxOf_eraseDups (occurrences : List String) :
    occurrences.eraseDups.Pairwise fun earlier later =>
      occurrences.idxOf earlier < occurrences.idxOf later := by
  induction occurrences using List.reverseRecOn with
  | nil => exact .nil
  | append_singleton occurrences last ih =>
      have kept : occurrences.eraseDups.Pairwise fun earlier later =>
          (occurrences ++ [last]).idxOf earlier < (occurrences ++ [last]).idxOf later :=
        ih.imp_of_mem fun first _ less =>
          idxOf_append_lt_idxOf_append _ (List.mem_eraseDups.1 first) less
      rw [eraseDups_append_singleton]
      split
      · exact kept
      · next absent =>
          rw [List.pairwise_append]
          refine ⟨kept, List.pairwise_singleton _ _, fun earlier member later isLast => ?_⟩
          have before := List.mem_eraseDups.1 member
          refine idxOf_append_lt_idxOf_append _ before ?_
          rw [List.mem_singleton.1 isLast, List.idxOf_eq_length absent]
          exact List.idxOf_lt_length_of_mem before

theorem firstAppearances_eraseDups (occurrences : List String) :
    FirstAppearances occurrences.eraseDups occurrences where
  nodup := by
    refine (pairwise_idxOf_eraseDups occurrences).imp fun less same => ?_
    exact absurd less (same ▸ lt_irrefl _)
  mem_iff _ := List.mem_eraseDups
  ordered := pairwise_idxOf_eraseDups occurrences

/-! ## The record of a resolver -/

section Recording

variable {β γ : Type}

/-- Whatever has been recorded before, a calculation adds some of the given names to the record, in
their order, and all of them if it comes to a value under the given condition. -/
def Asks (all : Prop) (names : List String) (calculation : Calculation α (σ × List String) β) :
    Prop :=
  ∀ (registry : Registry α) (inner : σ) (earlier : List String), ∃ asked,
    (calculation.start (registry, inner, earlier)).2.2.2 = earlier ++ asked ∧ asked.Sublist names ∧
      (all → (∃ value, (calculation.start (registry, inner, earlier)).1 = .ok value) →
        asked = names)

variable {all : Prop} {names more : List String}

theorem Asks.imp {fewer : Prop} {calculation : Calculation α (σ × List String) β}
    (asks : Asks all names calculation) (suffices_all : fewer → all) :
    Asks fewer names calculation := by
  intro registry inner earlier
  obtain ⟨asked, recorded, some, every⟩ := asks registry inner earlier
  exact ⟨asked, recorded, some, fun condition => every (suffices_all condition)⟩

/-- Where not all names have to be asked for, others may stand between them. -/
theorem Asks.among {calculation : Calculation α (σ × List String) β}
    (asks : Asks all names calculation) (fewer : names.Sublist more) :
    Asks False more calculation := by
  intro registry inner earlier
  obtain ⟨asked, recorded, some, _⟩ := asks registry inner earlier
  exact ⟨asked, recorded, some.trans fewer, False.elim⟩

theorem asks_ofExcept (outcome : Except Error β) :
    Asks all [] (Attempt.ofExcept outcome : Calculation α (σ × List String) β) :=
  fun _ _ earlier => ⟨[], (List.append_nil earlier).symm, List.Sublist.refl _, fun _ _ => rfl⟩

theorem asks_pure (value : β) : Asks all [] (pure value : Calculation α (σ × List String) β) :=
  asks_ofExcept (.ok value)

theorem asks_onFirst (attempt : Attempt (Registry α) β) :
    Asks all [] (Attempt.onFirst attempt : Calculation α (σ × List String) β) :=
  fun _ _ earlier => ⟨[], (List.append_nil earlier).symm, List.Sublist.refl _, fun _ _ => rfl⟩

theorem asks_bind {calculation : Calculation α (σ × List String) β}
    {next : β → Calculation α (σ × List String) γ} (first : Asks all names calculation)
    (later : ∀ value, Asks all more (next value)) :
    Asks all (names ++ more) (calculation >>= next) := by
  intro registry inner earlier
  obtain ⟨asked, recorded, some, every⟩ := first registry inner earlier
  cases outcome : (calculation.start (registry, inner, earlier)).1 with
  | error failure =>
      rw [Attempt.start_bind_of_error outcome]
      exact ⟨asked, recorded, some.trans (List.sublist_append_left _ _), nofun⟩
  | ok value =>
      rw [Attempt.start_bind_of_ok outcome]
      obtain ⟨others, addedThen, someThen, everyThen⟩ := later value
        (calculation.start (registry, inner, earlier)).2.1
        (calculation.start (registry, inner, earlier)).2.2.1
        (calculation.start (registry, inner, earlier)).2.2.2
      refine ⟨asked ++ others, ?_, some.append someThen, fun condition succeeds => ?_⟩
      · rw [← List.append_assoc, ← recorded]
        exact addedThen
      · rw [every condition ⟨value, outcome⟩, everyThen condition succeeds]

/-- What comes after the last name to be asked for. -/
theorem asks_bind_nil {calculation : Calculation α (σ × List String) β}
    {next : β → Calculation α (σ × List String) γ} (first : Asks all names calculation)
    (later : ∀ value, Asks all [] (next value)) : Asks all names (calculation >>= next) := by
  have both := asks_bind first later
  rwa [List.append_nil] at both

theorem asks_reference (resolve : Resolver α σ) (name : String) :
    Asks all [name] (evaluateReference resolve.recording name) :=
  asks_bind_nil (fun _ _ _ => ⟨[name], rfl, List.Sublist.refl _, fun _ _ => rfl⟩)
    fun _ => asks_pure _

end Recording

namespace Expression

variable [Scalar α] (table : FunctionTable α) (resolve : Resolver α σ)

theorem composes_asks :
    Composes (fun _ straight names _ calculation => Asks straight names calculation) table
      (.ofResolver resolve.recording) (fun _ => True) where
  untagged _ := trivial
  negate _ := trivial
  tagged _ _ := asks_bind (asks_onFirst _) fun _ => asks_pure _
  reference name := asks_reference resolve name
  operator _ _ _ := asks_ofExcept _
  call _ _ := asks_ofExcept _
  refuse _ := asks_ofExcept _
  done _ := asks_pure _
  bind := asks_bind
  weaken asks fewer _ := asks.imp fewer
  among := Asks.among

theorem asks_evaluate (expression : Expression α) :
    Asks (expression.isStraight = true) expression.occurrences
      (expression.evaluate table (.ofResolver resolve.recording)) :=
  (composes_asks table resolve).evaluate expression

end Expression

/-! ## Recording changes nothing -/

/-- The same registry and the same state of the resolver, with a record beside it. -/
def beside (α σ : Type) : Coupling (Registry α × σ) (Registry α × σ × List String) where
  states plain recorded := recorded.1 = plain.1 ∧ recorded.2.1 = plain.2
  failures := Eq
  failures_refl _ := rfl
  excused _ := False

variable [Scalar α] (table : FunctionTable α) (resolve : Resolver α σ)

omit [Scalar α] in
theorem recording_inStep (name : String) :
    (beside α σ).InStep Eq (resolve name) (resolve.recording name) := by
  rintro ⟨registry, inner⟩ ⟨_, _, earlier⟩ ⟨rfl, rfl⟩
  exact .inr ⟨Coupling.outcomes_refl _, rfl, rfl⟩

theorem evaluate_recording_inStep (expression : Expression α) :
    (beside α σ).InStep Eq (expression.evaluate table (.ofResolver resolve))
      (expression.evaluate table (.ofResolver resolve.recording)) := by
  refine Expression.evaluate_inStep (respected_eq _ table) expression ⟨?_, ?_⟩
  · intro tag _ value
    refine Coupling.inStep_bind_eq (Coupling.inStep_onFirst _ ?_) fun normalized =>
      Coupling.inStep_pure rfl
    rintro first second ⟨registry, inner⟩
    exact ⟨registry, rfl, inner⟩
  · intro name _
    refine Coupling.inStep_bind_eq ?_ fun amount => Coupling.inStep_pure rfl
    exact Coupling.inStep_mapFailure (recording_inStep resolve name) (congrArg _) id

/-! ## Formulas -/

/-- A formula that can be read asks for names among its references, in the order in which they are
written: all of them if it branches nowhere and comes to a value.  The names it refers to are these
references, each once, in the order of their first appearance. -/
theorem evaluate_asks_references {formula : String} {expression : Expression α}
    (parsed : parse formula = .ok expression) (registry : Registry α) (inner : σ) :
    ∃ (lexemes : List (Lexeme α)) (names asked : List String)
      (outcome : Except Error (Tagged α)) (grown : Registry α) (final : σ),
      tokenize formula = .ok lexemes ∧ references α formula = .ok names ∧
      FirstAppearances names (referenced (lexemes.map (·.token))) ∧
      (evaluate table resolve formula).start (registry, inner) = (outcome, grown, final) ∧
      (evaluate table resolve.recording formula).start (registry, inner, []) =
        (outcome, grown, final, asked) ∧
      asked.Sublist (referenced (lexemes.map (·.token))) ∧ (∀ name ∈ asked, name ∈ names) ∧
      (expression.isStraight = true → (∃ value, outcome = .ok value) →
        asked = referenced (lexemes.map (·.token))) := by
  obtain ⟨lexemes, tokenizes, written⟩ := exists_of_parse_ok parsed
  have plain : evaluate table resolve formula =
      expression.evaluate table (.ofResolver resolve) := by
    rw [evaluate, parsed]
    rfl
  have recorded : evaluate table resolve.recording formula =
      expression.evaluate table (.ofResolver resolve.recording) := by
    rw [evaluate, parsed]
    rfl
  have named : references α formula = .ok expression.references := by
    rw [references, parsed]
  obtain ⟨asked, adds, some, every⟩ :=
    Expression.asks_evaluate table resolve expression registry inner []
  rcases evaluate_recording_inStep table resolve expression (registry, inner)
    (registry, inner, []) ⟨rfl, rfl⟩ with ⟨_, _, impossible⟩ | ⟨outcomes, sameRegistry, sameInner⟩
  · exact impossible.elim
  · have same := Coupling.eq_of_outcomes (beside α σ) id outcomes
    let run := (expression.evaluate table (.ofResolver resolve)).start (registry, inner)
    refine ⟨lexemes, expression.references, asked, run.1, run.2.1, run.2.2, tokenizes, named, ?_,
      by rw [plain], ?_, ?_, fun name member => List.mem_eraseDups.2 (some.subset member), ?_⟩
    · rw [← written]
      exact firstAppearances_eraseDups _
    · rw [recorded]
      exact Prod.ext same.symm (Prod.ext sameRegistry (Prod.ext sameInner adds))
    · rwa [← written]
    · rw [← written]
      exact fun straight succeeds => every straight (same ▸ succeeds)

/-- A formula that refers to a name twice asks for it twice. -/
theorem evaluate_asks_references_twice :
    ∃ (expression : Expression ℚ) (grown : Registry ℚ),
      parse "[b] + [a] * [b]" = .ok expression ∧ expression.isStraight = true ∧
      references ℚ "[b] + [a] * [b]" = .ok ["b", "a"] ∧
      FirstAppearances ["b", "a"] ["b", "a", "b"] ∧
      (evaluate .standard (Resolver.ofTable [("a", .ratio 2), ("b", .ratio 3)]).recording
          "[b] + [a] * [b]").start (.empty {} [], (), []) =
        (.ok (.untagged (.ratio 9)), grown, (), ["b", "a", "b"]) := by
  have straight : (parse "[b] + [a] * [b]" : Except Error (Expression ℚ)).toOption.any
      Expression.isStraight = true := by decide +kernel
  have written : (tokenize "[b] + [a] * [b]" : Except (Fault ℚ) (List (Lexeme ℚ))).toOption.map
      (referenced <| ·.map (·.token)) = some ["b", "a", "b"] := by decide +kernel
  have listed : (references ℚ "[b] + [a] * [b]").toOption = some ["b", "a"] := by decide +kernel
  have value : ((evaluate .standard (Resolver.ofTable [("a", .ratio 2), ("b", .ratio 3)])
      "[b] + [a] * [b]").start ((.empty {} [] : Registry ℚ), ())).1.toOption =
        some (.untagged (.ratio 9)) := by decide +kernel
  obtain ⟨expression, parsed, branchless⟩ := (Option.any_eq_true ..).1 straight
  obtain ⟨lexemes, names, asked, outcome, grown, final, tokenizes, named, appear, plain, recorded,
    _, _, every⟩ := evaluate_asks_references .standard
      (Resolver.ofTable [("a", .ratio 2), ("b", .ratio 3)]) (eq_ok_of_toOption parsed)
      (.empty {} []) ()
  rw [tokenizes] at written
  rw [plain] at value
  obtain rfl : outcome = .ok (.untagged (.ratio 9)) := eq_ok_of_toOption value
  obtain rfl : names = ["b", "a"] :=
    Except.ok.inj (named.symm.trans (eq_ok_of_toOption listed))
  have same : referenced (lexemes.map (·.token)) = ["b", "a", "b"] := Option.some.inj written
  rw [same] at appear every
  rw [every branchless ⟨_, rfl⟩] at recorded
  exact ⟨expression, grown, eq_ok_of_toOption parsed, branchless, named, appear, recorded⟩

/-- Of the branches only the chosen one is asked for. -/
example : ((evaluate .standard
    (Resolver.ofTable [("a", .ratio 2), ("b", .ratio 3), ("c", .ratio 5)]).recording
    "if([a] > 0, [b], [c])").start ((.empty {} [] : Registry ℚ), (), [])).2.2.2 =
      ["a", "b"] := by
  decide +kernel

end Metrology.Formula
