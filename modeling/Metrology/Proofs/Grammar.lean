import Mathlib.Tactic
import Metrology.Formula.Parser

/-!
# The grammar of formulas

A formula derives from rules that have one nonterminal for each strength of binding.
Operators of one strength join operands of the next, and they group to the left.
-/

namespace Metrology.Formula

variable {α : Type}

/-! ## Rules -/

/-- The token that an operator is written as. -/
def Operator.token : Operator → Token α
  | .or => .or
  | .and => .and
  | .equal => .equal
  | .notEqual => .notEqual
  | .less => .less
  | .greater => .greater
  | .lessOrEqual => .lessOrEqual
  | .greaterOrEqual => .greaterOrEqual
  | .add => .plus
  | .subtract => .minus
  | .multiply => .star
  | .divide => .slash
  | .power => .caret

inductive Nonterminal where
  | or
  | and
  | comparison
  | sum
  | term
  | power
  | unary
  | primary
  deriving DecidableEq, Repr

namespace Nonterminal

/-- The operators that join the operands of a nonterminal. -/
def operators : Nonterminal → List Operator
  | .or => [.or]
  | .and => [.and]
  | .comparison =>
      [.equal, .notEqual, .less, .greater, .lessOrEqual, .greaterOrEqual]
  | .sum => [.add, .subtract]
  | .term => [.multiply, .divide]
  | .power => [.power]
  | .unary | .primary => []

/-- What the operands of a nonterminal with operators derive from. -/
def operand? : Nonterminal → Option Nonterminal
  | .or => some .and
  | .and => some .comparison
  | .comparison => some .sum
  | .sum => some .term
  | .term => some .power
  | .power => some .unary
  | .unary | .primary => none

end Nonterminal

/-- Tokens with the tree that they stand for. -/
structure Passage (α : Type) where
  tokens : List (Token α)
  tree : Expression α

/-- The tokens of an operand with the operators and operands that follow it. -/
def joinedTokens (first : Passage α) (others : List (Operator × Passage α)) :
    List (Token α) :=
  first.tokens ++ others.flatMap fun other => other.1.token :: other.2.tokens

/-- The tree of an operand with the operators and operands that follow it, grouped to
the left. -/
def joinedTree (first : Passage α) (others : List (Operator × Passage α)) :
    Expression α :=
  others.foldl (fun left other => .binary other.1 left other.2.tree) first.tree

/-- The tokens of arguments with commas between them. -/
def argumentTokens (arguments : List (Passage α)) : List (Token α) :=
  [.comma].intercalate (arguments.map (·.tokens))

/-- The tokens that derive from a nonterminal, with their tree. -/
inductive Derives : Nonterminal → List (Token α) → Expression α → Prop where
  | joined {nonterminal operand : Nonterminal} (first : Passage α)
      (others : List (Operator × Passage α))
      (tighter : nonterminal.operand? = some operand)
      (leads : Derives operand first.tokens first.tree)
      (joins : ∀ other ∈ others, other.1 ∈ nonterminal.operators)
      (follows : ∀ other ∈ others, Derives operand other.2.tokens other.2.tree) :
      Derives nonterminal (joinedTokens first others) (joinedTree first others)
  | minus {tokens : List (Token α)} {tree : Expression α}
      (operand : Derives .unary tokens tree) :
      Derives .unary (.minus :: tokens) (.negate tree)
  | plus {tokens : List (Token α)} {tree : Expression α}
      (operand : Derives .unary tokens tree) : Derives .unary (.plus :: tokens) tree
  | unsigned {tokens : List (Token α)} {tree : Expression α}
      (operand : Derives .primary tokens tree) : Derives .unary tokens tree
  | number (value : α) : Derives .primary [.number value] (.number value none)
  | tagged (value : α) (tag : String) :
      Derives .primary [.number value, .unitTag tag] (.number value (some tag))
  | reference (name : String) : Derives .primary [.reference name] (.reference name)
  | parenthesized {tokens : List (Token α)} {tree : Expression α}
      (inner : Derives .or tokens tree) :
      Derives .primary (.openParen :: tokens ++ [.closeParen]) tree
  | call (name : String) (arguments : List (Passage α))
      (each : ∀ argument ∈ arguments, Derives .or argument.tokens argument.tree) :
      Derives .primary
        (.identifier name :: .openParen :: argumentTokens arguments ++ [.closeParen])
        (.call name (arguments.map (·.tree)))

/-! ## Strengths -/

theorem Token.operator?_eq_some_iff {token : Token α} {operator : Operator} :
    token.operator? = some operator ↔ token = operator.token := by
  constructor
  · intro stands
    cases token <;> cases stands <;> rfl
  · rintro rfl
    cases operator <;> rfl

namespace Nonterminal

/-- The strength of the operators of a nonterminal; operands without operators are
stronger than all. -/
def rank : Nonterminal → Nat
  | .or => 1
  | .and => 2
  | .comparison => 3
  | .sum => 4
  | .term => 5
  | .power => 6
  | .unary => 7
  | .primary => 8

theorem mem_operators_iff {nonterminal : Nonterminal} {operator : Operator} :
    operator ∈ nonterminal.operators ↔ operator.precedence = nonterminal.rank := by
  cases nonterminal <;> cases operator <;> decide

theorem rank_operand {nonterminal operand : Nonterminal}
    (tighter : nonterminal.operand? = some operand) :
    operand.rank = nonterminal.rank + 1 := by
  cases nonterminal <;> cases tighter <;> rfl

theorem rank_lt_of_operand {nonterminal operand : Nonterminal}
    (tighter : nonterminal.operand? = some operand) : nonterminal.rank < 7 := by
  cases nonterminal <;> first | decide | cases tighter

theorem exists_operand (nonterminal : Nonterminal) (loose : nonterminal.rank < 7) :
    ∃ operand, nonterminal.operand? = some operand := by
  cases nonterminal <;> first | exact ⟨_, rfl⟩ | exact absurd loose (by decide)

theorem rank_injective {left right : Nonterminal} (same : left.rank = right.rank) :
    left = right := by
  cases left <;> cases right <;> first | rfl | cases same

/-- Every strength from the loosest operator to the unary signs has a nonterminal. -/
theorem exists_rank {strength : Nat} (least : 1 ≤ strength) (greatest : strength ≤ 7) :
    ∃ nonterminal : Nonterminal, nonterminal.rank = strength := by
  interval_cases strength
  · exact ⟨.or, rfl⟩
  · exact ⟨.and, rfl⟩
  · exact ⟨.comparison, rfl⟩
  · exact ⟨.sum, rfl⟩
  · exact ⟨.term, rfl⟩
  · exact ⟨.power, rfl⟩
  · exact ⟨.unary, rfl⟩

end Nonterminal

theorem Operator.one_le_precedence (operator : Operator) : 1 ≤ operator.precedence := by
  cases operator <;> decide

theorem Operator.precedence_le (operator : Operator) : operator.precedence ≤ 6 := by
  cases operator <;> decide

/-! ## Derivations -/

namespace Derives

variable {tokens : List (Token α)} {tree : Expression α}

/-- An operand is an instance of each looser nonterminal. -/
theorem of_operand {nonterminal operand : Nonterminal}
    (tighter : nonterminal.operand? = some operand) (derives : Derives operand tokens tree) :
    Derives nonterminal tokens tree := by
  have alone := Derives.joined ⟨tokens, tree⟩ [] tighter derives
    (fun _ impossible => absurd impossible List.not_mem_nil)
    (fun _ impossible => absurd impossible List.not_mem_nil)
  simpa [joinedTokens, joinedTree] using alone

theorem of_rank_le {tight loose : Nonterminal} (looser : loose.rank ≤ tight.rank)
    (signed : tight.rank ≤ 7) (derives : Derives tight tokens tree) :
    Derives loose tokens tree := by
  obtain ⟨gap, distance⟩ := Nat.exists_eq_add_of_le looser
  induction gap generalizing loose with
  | zero =>
      have same : tight = loose := Nonterminal.rank_injective (by omega)
      rwa [same] at derives
  | succ gap ih =>
      obtain ⟨operand, tighter⟩ := Nonterminal.exists_operand loose (by omega)
      have next := Nonterminal.rank_operand tighter
      exact of_operand tighter (ih (by omega) (by omega))

/-- One more operator of the same strength takes all that is before it as its left
operand. -/
theorem join {nonterminal operand : Nonterminal} {operator : Operator}
    {right : List (Token α)} {rightTree : Expression α}
    (tighter : nonterminal.operand? = some operand)
    (derives : Derives nonterminal tokens tree) (joins : operator ∈ nonterminal.operators)
    (follows : Derives operand right rightTree) :
    Derives nonterminal (tokens ++ operator.token :: right)
      (.binary operator tree rightTree) := by
  cases derives with
  | joined first others same leads joined followed =>
      cases tighter.symm.trans same
      have longer := Derives.joined first (others ++ [(operator, ⟨right, rightTree⟩)]) tighter
        leads
        (by
          intro other member
          rcases List.mem_append.1 member with earlier | last
          · exact joined other earlier
          · rw [List.mem_singleton.1 last]
            exact joins)
        (by
          intro other member
          rcases List.mem_append.1 member with earlier | last
          · exact followed other earlier
          · rw [List.mem_singleton.1 last]
            exact follows)
      simpa [joinedTokens, joinedTree] using longer
  | _ => cases joins

end Derives

end Metrology.Formula
