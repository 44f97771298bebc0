/-
**Programs.**

* `Expr`: arithmetic over numbers and variables; `Statement`: an expression or an assignment;
  `Program`: statements in order; `Form`: a statement or a program.
* `Expr.size`: how many nodes a tree has; `Expr.height`: how deep its operators nest.
* `Operator.ofText?_eq_some_iff`: an operator is read from its own sign and from no other.

An assignment can be a statement and nothing else, so no tree needs to be checked for shape.
-/

import Calculator.Token.Basic

namespace Calculator

/-! ### Operators -/

/-- The binary operators. -/
inductive Operator where
  | add
  | subtract
  | multiply
  | divide
  deriving DecidableEq, Repr

namespace Operator

/-- The symbol that stands for an operator. -/
def symbol : Operator → Symbol
  | .add => .plus
  | .subtract => .minus
  | .multiply => .star
  | .divide => .slash

/-- An operator as it is written. -/
def text (op : Operator) : String := String.singleton op.symbol.char

/-- The operator that is written like this. -/
def ofText? (text : String) : Option Operator :=
  if text = "+" then some .add
  else if text = "-" then some .subtract
  else if text = "*" then some .multiply
  else if text = "/" then some .divide
  else none

theorem ofText?_eq_some_iff {text : String} {op : Operator} :
    ofText? text = some op ↔ text = op.text := by
  unfold ofText?
  constructor
  · intro read
    split at read
    · cases read; assumption
    split at read
    · cases read; assumption
    split at read
    · cases read; assumption
    split at read
    · cases read; assumption
    · cases read
  · rintro rfl
    cases op <;> rfl

end Operator

/-- The operator of a sum that a symbol stands for. -/
def Symbol.additive? : Symbol → Option Operator
  | .plus => some .add
  | .minus => some .subtract
  | _ => none

/-- The operator of a product that a symbol stands for. -/
def Symbol.multiplicative? : Symbol → Option Operator
  | .star => some .multiply
  | .slash => some .divide
  | _ => none

/-! ### Trees -/

/-- An expression. -/
inductive Expr where
  | number (value : Float)
  | reference (name : String)
  | binary (op : Operator) (left right : Expr)
  deriving DecidableEq

/-- A statement; the value of an assignment is the value it assigns. -/
inductive Statement where
  | expression (value : Expr)
  | assignment (name : String) (value : Expr)
  deriving DecidableEq

/-- Statements that run in order; the value of the last one is the value of them all. -/
structure Program where
  statements : List Statement
  deriving DecidableEq

/-- A statement or a whole program. -/
inductive Form where
  | statement (value : Statement)
  | program (value : Program)

/-! ### Measures -/

/-- How many nodes an expression has. -/
def Expr.size : Expr → Nat
  | .number _ => 1
  | .reference _ => 1
  | .binary _ left right => left.size + right.size + 1

/-- How deep the operators of an expression nest. -/
def Expr.height : Expr → Nat
  | .number _ => 0
  | .reference _ => 0
  | .binary _ left right => max left.height right.height + 1

/-- How many nodes a statement has. -/
def Statement.size : Statement → Nat
  | .expression value => value.size
  | .assignment _ value => value.size + 1

/-- How deep the operators of a statement nest. -/
def Statement.height : Statement → Nat
  | .expression value => value.height
  | .assignment _ value => value.height

end Calculator
