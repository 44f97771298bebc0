/-
**What a program computes.**

* `Rules`: what happens on a zero divisor, and how many nodes may be visited.
* `Progress`: the bindings made and the nodes visited so far.
* `Expr.evaluate`, `Statement.evaluate`: the value of a tree by recursion, the left operand before
  the right one.

A node is counted when it is entered, before anything below it; an operation and an assignment act
after what they wait for. A failure keeps the progress made until then.
-/

import Calculator.Binary64.Rank
import Calculator.Bindings
import Calculator.Diagnostic
import Calculator.Syntax.Basic

namespace Calculator

/-! ### Rules -/

/-- What happens when a zero divides. -/
inductive DivisionPolicy where
  /-- The quotient of the IEEE format: an infinity, or NaN for zero by zero. -/
  | ieee
  /-- The evaluation fails. -/
  | refuse
  deriving DecidableEq, Repr

/-- What an evaluation has to keep to. -/
structure Rules where
  division : DivisionPolicy
  /-- How many nodes may be visited. -/
  budget : Option Nat
  deriving DecidableEq, Repr

/-- Why an evaluation fails. -/
inductive RuntimeError where
  | undefinedVariable (name : String)
  | divisionByZero
  | emptyProgram
  | stepLimit (limit : Nat)
  deriving DecidableEq, Repr

/-- The failure in words. -/
def RuntimeError.diagnostic : RuntimeError → Diagnostic
  | .undefinedVariable name => .undefinedVariable name
  | .divisionByZero => .divisionByZero
  | .emptyProgram => .emptyProgram
  | .stepLimit limit => .stepLimit limit

/-- How far an evaluation has come. -/
structure Progress where
  bindings : Bindings
  visits : Nat
  deriving DecidableEq

/-! ### Steps -/

/-- Something that moves an evaluation on and yields a value or a failure. -/
def Step (α : Type) : Type := Progress → Except RuntimeError α × Progress

namespace Step

/-- Yields a value and moves nothing. -/
def pure {α : Type} (value : α) : Step α := fun σ => (.ok value, σ)

/-- Fails and moves nothing. -/
def fail {α : Type} (error : RuntimeError) : Step α := fun σ => (.error error, σ)

/-- One step and, if it does not fail, another that depends on its value. -/
def bind {α β : Type} (first : Step α) (second : α → Step β) : Step β := fun σ =>
  match first σ with
  | (.ok value, σ) => second value σ
  | (.error error, σ) => (.error error, σ)

instance : Monad Step where
  pure := Step.pure
  bind := Step.bind

end Step

/-- Enters a node: it is counted, and then the count is held against the budget. -/
def Rules.visit (rules : Rules) : Step Unit := fun σ =>
  let σ := { σ with visits := σ.visits + 1 }
  match rules.budget with
  | none => (.ok (), σ)
  | some limit => if limit < σ.visits then (.error (.stepLimit limit), σ) else (.ok (), σ)

/-- Reads a variable. -/
def readVariable (name : String) : Step Float := fun σ =>
  match σ.bindings.lookup? name with
  | some value => (.ok value, σ)
  | none => (.error (.undefinedVariable name), σ)

/-- Gives a variable a value. -/
def assignVariable (name : String) (value : Float) : Step Unit := fun σ =>
  (.ok (), { σ with bindings := σ.bindings.assign name value })

/-- Divides. A quotient by a zero is refused, or it is NaN for a zero or a NaN, and otherwise an
infinity signed by both operands. -/
def Rules.divide (rules : Rules) (left right : Float) : Except RuntimeError Float :=
  if right != 0 then .ok (left / right)
  else if rules.division = .refuse then .error .divisionByZero
  else if left == 0 || left.isNaN then .ok Binary64.nan
  else .ok (Binary64.copySign Binary64.infinity left * Binary64.copySign 1 right)

/-- Applies an operator to its operands. -/
def Rules.apply (rules : Rules) : Operator → Float → Float → Except RuntimeError Float
  | .add, left, right => .ok (left + right)
  | .subtract, left, right => .ok (left - right)
  | .multiply, left, right => .ok (left * right)
  | .divide, left, right => rules.divide left right

/-- An operation as a step, which moves nothing. -/
def Rules.operate (rules : Rules) (op : Operator) (left right : Float) : Step Float := fun σ =>
  (rules.apply op left right, σ)

/-! ### By recursion -/

/-- The value of an expression. -/
def Expr.evaluate (rules : Rules) : Expr → Step Float
  | .number value => do
    rules.visit
    return value
  | .reference name => do
    rules.visit
    readVariable name
  | .binary op left right => do
    rules.visit
    let x ← left.evaluate rules
    let y ← right.evaluate rules
    rules.operate op x y

/-- The value of a statement. -/
def Statement.evaluate (rules : Rules) : Statement → Step Float
  | .expression value => value.evaluate rules
  | .assignment name value => do
    rules.visit
    let x ← value.evaluate rules
    assignVariable name x
    return x

end Calculator
