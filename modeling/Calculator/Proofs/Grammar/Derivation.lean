/-
**The grammar of programs, as derivations.**

```
program    = [ statement { ";" statement } [ ";" ] ] end
statement  = name "=" expression | expression
expression = term { ( "+" | "-" ) term }
term       = factor { ( "*" | "/" ) factor }
factor     = number | name | "(" expression ")"
```

* `Phrase`: a derivation of a factor, a term or an expression; `Clause`: one of a statement;
  `Sentence`: one of a program.
* `lexemes`: the tokens that are derived; `nesting`: how deep parentheses nest in them; `tree`: what
  they mean.
* `Phrase.repetition`: a repetition as the list of its rounds; `Phrase.exists_rounds`: every term and
  every expression is one, and its tree groups the rounds from the left.
* `Sentence.content_program`: the numbers, names and operators of a program are those of its
  sentence, each once and in the same order.

A repetition is built up by its rounds, so a derivation of `a - b - c` is one of `a - b` with one
more round.
-/

import Calculator.Syntax.Basic
import Calculator.Reading.Expression

namespace Calculator

/-! ### Levels -/

/-- What the operator stands between: the level of the grammar that repeats it. -/
def Operator.level : Operator → Goal
  | .add => .expression
  | .subtract => .expression
  | .multiply => .term
  | .divide => .term

/-- Phrases of the first sort are the operands of the second. -/
inductive Operands : Goal → Goal → Prop
  | factors : Operands .factor .term
  | terms : Operands .term .expression

/-! ### Derivations -/

/-- A derivation of a factor, a term or an expression. -/
inductive Phrase : Goal → Type
  | number (value : Float) : Phrase .factor
  | reference (name : String) : Phrase .factor
  | group (inner : Phrase .expression) : Phrase .factor
  /-- A repetition without rounds. -/
  | first {operand level : Goal} (operands : Operands operand level) (only : Phrase operand) :
      Phrase level
  /-- A repetition with one more round. -/
  | more {operand level : Goal} (operands : Operands operand level) (left : Phrase level)
      (op : Operator) (binds : op.level = level) (right : Phrase operand) : Phrase level

/-- A derivation of a statement. -/
inductive Clause where
  | expression (value : Phrase .expression)
  | assignment (name : String) (value : Phrase .expression)

/-- A derivation of a program. -/
inductive Sentence where
  | empty
  /-- Statements parted by semicolons; `closed` if one more semicolon stands behind the last. -/
  | clauses (first : Clause) (rest : List Clause) (closed : Bool)

/-! ### Tokens -/

/-- The symbol of an operator as a token. -/
def Operator.lexeme (op : Operator) : Lexeme := .symbol op.symbol

/-- The tokens of a phrase. -/
def Phrase.lexemes {level : Goal} : Phrase level → List Lexeme
  | .number value => [.number value]
  | .reference name => [.identifier name]
  | .group inner => .symbol .leftParen :: (inner.lexemes ++ [.symbol .rightParen])
  | .first _ only => only.lexemes
  | .more _ left op _ right => left.lexemes ++ op.lexeme :: right.lexemes

/-- The tokens of a statement. -/
def Clause.lexemes : Clause → List Lexeme
  | .expression value => value.lexemes
  | .assignment name value => .identifier name :: .symbol .assign :: value.lexemes

/-- A statement behind a semicolon. -/
def Clause.later (clause : Clause) : List Lexeme := .symbol .semicolon :: clause.lexemes

/-- The tokens of a program, the end of input included. -/
def Sentence.lexemes : Sentence → List Lexeme
  | .empty => [.endOfInput]
  | .clauses first rest closed =>
    first.lexemes ++ rest.flatMap Clause.later ++ (if closed then [.symbol .semicolon] else []) ++
      [.endOfInput]

/-! ### Nesting -/

/-- How many parentheses are open at the deepest place of a phrase. -/
def Phrase.nesting {level : Goal} : Phrase level → Nat
  | .number _ => 0
  | .reference _ => 0
  | .group inner => inner.nesting + 1
  | .first _ only => only.nesting
  | .more _ left _ _ right => max left.nesting right.nesting

/-- How many parentheses are open at the deepest place of a statement. -/
def Clause.nesting : Clause → Nat
  | .expression value => value.nesting
  | .assignment _ value => value.nesting

/-- No parenthesis of the program is nested deeper than `limit`. -/
def Sentence.Within (limit : Int) : Sentence → Prop
  | .empty => True
  | .clauses first rest _ => ∀ clause ∈ first :: rest, clause.nesting ≤ limit.toNat

/-! ### Meaning -/

/-- The tree of a phrase. -/
def Phrase.tree {level : Goal} : Phrase level → Expr
  | .number value => .number value
  | .reference name => .reference name
  | .group inner => inner.tree
  | .first _ only => only.tree
  | .more _ left op _ right => .binary op left.tree right.tree

/-- The statement that is derived. -/
def Clause.statement : Clause → Statement
  | .expression value => .expression value.tree
  | .assignment name value => .assignment name value.tree

/-- The program that is derived. -/
def Sentence.program : Sentence → Program
  | .empty => ⟨[]⟩
  | .clauses first rest _ => ⟨(first :: rest).map Clause.statement⟩

/-! ### Repetitions -/

/-- An operator of a level with the operand behind it. -/
structure Round (operand level : Goal) where
  op : Operator
  binds : op.level = level
  right : Phrase operand

namespace Round

variable {operand level : Goal}

/-- The tokens of a round. -/
def lexemes (round : Round operand level) : List Lexeme := round.op.lexeme :: round.right.lexemes

/-- The tree of a round behind what is on its left. -/
def onto (left : Expr) (round : Round operand level) : Expr := .binary round.op left round.right.tree

end Round

namespace Phrase

variable {operand level : Goal}

/-- A phrase with more rounds behind it. -/
def extend (operands : Operands operand level) (left : Phrase level)
    (rounds : List (Round operand level)) : Phrase level :=
  rounds.foldl (fun left round => .more operands left round.op round.binds round.right) left

/-- A first operand and the rounds behind it. -/
def repetition (operands : Operands operand level) (start : Phrase operand)
    (rounds : List (Round operand level)) : Phrase level :=
  extend operands (.first operands start) rounds

theorem lexemes_extend (operands : Operands operand level) (left : Phrase level)
    (rounds : List (Round operand level)) :
    (extend operands left rounds).lexemes = left.lexemes ++ rounds.flatMap Round.lexemes := by
  induction rounds generalizing left with
  | nil => exact (List.append_nil _).symm
  | cons round rounds ih =>
    rw [List.flatMap_cons, ← List.append_assoc]
    exact ih _

theorem tree_extend (operands : Operands operand level) (left : Phrase level)
    (rounds : List (Round operand level)) :
    (extend operands left rounds).tree = rounds.foldl Round.onto left.tree := by
  induction rounds generalizing left with
  | nil => rfl
  | cons round rounds ih => exact ih _

/-- Every term and every expression is a repetition. -/
theorem exists_repetition (operands : Operands operand level) (phrase : Phrase level) :
    ∃ start rounds, phrase = repetition operands start rounds := by
  induction phrase with
  | number | reference | group => cases operands
  | first operands' only =>
    cases operands <;> cases operands' <;> exact ⟨only, [], rfl⟩
  | more operands' left op binds right ih =>
    obtain ⟨start, rounds, rfl⟩ := ih operands
    cases operands <;> cases operands' <;>
      exact ⟨start, rounds ++ [⟨op, binds, right⟩], by simp [repetition, extend]⟩

/-- **Both levels group from the left.** -/
theorem exists_rounds (operands : Operands operand level) (phrase : Phrase level) :
    ∃ (start : Phrase operand) (rounds : List (Round operand level)),
      phrase.lexemes = start.lexemes ++ rounds.flatMap Round.lexemes ∧
      phrase.tree = rounds.foldl Round.onto start.tree := by
  obtain ⟨start, rounds, rfl⟩ := exists_repetition operands phrase
  exact ⟨start, rounds, lexemes_extend operands (.first operands start) rounds,
    tree_extend operands (.first operands start) rounds⟩

end Phrase

/-! ### Content -/

/-- The token is a number, a name or an operator. -/
def Lexeme.isContent : Lexeme → Bool
  | .number _ => true
  | .identifier _ => true
  | .symbol .plus => true
  | .symbol .minus => true
  | .symbol .star => true
  | .symbol .slash => true
  | _ => false

/-- The numbers, names and operators of a tree, from left to right. -/
def Expr.content : Expr → List Lexeme
  | .number value => [.number value]
  | .reference name => [.identifier name]
  | .binary op left right => left.content ++ op.lexeme :: right.content

/-- The numbers, names and operators of a statement, the name that it assigns to first. -/
def Statement.content : Statement → List Lexeme
  | .expression value => value.content
  | .assignment name value => .identifier name :: value.content

/-- The numbers, names and operators of a program, statement by statement. -/
def Program.content (program : Program) : List Lexeme :=
  program.statements.flatMap Statement.content

theorem Operator.isContent_lexeme (op : Operator) : op.lexeme.isContent = true := by
  cases op <;> rfl

theorem Phrase.content_tree {level : Goal} (phrase : Phrase level) :
    phrase.tree.content = phrase.lexemes.filter Lexeme.isContent := by
  induction phrase with
  | number | reference => rfl
  | group inner ih =>
    rw [tree, ih, lexemes, List.filter_cons_of_neg Bool.false_ne_true, List.filter_append]
    exact (List.append_nil _).symm
  | first operands only ih => exact ih
  | more operands left op binds right ihLeft ihRight =>
    rw [tree, Expr.content, ihLeft, ihRight, lexemes, List.filter_append,
      List.filter_cons_of_pos op.isContent_lexeme]

theorem Clause.content_statement (clause : Clause) :
    clause.statement.content = clause.lexemes.filter Lexeme.isContent := by
  cases clause with
  | expression value => exact value.content_tree
  | assignment name value =>
    rw [statement, Statement.content, value.content_tree, lexemes,
      List.filter_cons_of_pos rfl, List.filter_cons_of_neg Bool.false_ne_true]

/-- **Every number, name and operator of a sentence is in its program, once and in its order.** -/
theorem Sentence.content_program (sentence : Sentence) :
    sentence.program.content = sentence.lexemes.filter Lexeme.isContent := by
  cases sentence with
  | empty => rfl
  | clauses start rest closed =>
    have later : (rest.flatMap Clause.later).filter Lexeme.isContent =
        rest.flatMap fun clause => clause.statement.content := by
      rw [List.filter_flatMap]
      congr 1
      funext clause
      rw [clause.content_statement]
      rfl
    have mark : (if closed then [Lexeme.symbol .semicolon] else []).filter Lexeme.isContent = [] := by
      cases closed <;> rfl
    have last : [Lexeme.endOfInput].filter Lexeme.isContent = [] := rfl
    rw [lexemes, List.filter_append, List.filter_append, List.filter_append, later, mark, last,
      ← start.content_statement, List.append_nil, List.append_nil]
    simp only [program, Program.content, List.map_cons, List.flatMap_cons, List.flatMap_map]

end Calculator
