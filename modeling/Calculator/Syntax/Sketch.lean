/-
**Trees put together by hand.**

* `Sketch`: a tree whose operators are texts and whose parts need not fit together.
* `Sketch.build`: the statement or program that a sketch stands for, or the first thing wrong with
  it.

An operator is looked at before its operands, and whether the parts fit is looked at after all of
them are built.
-/

import Calculator.Syntax.Basic

namespace Calculator

/-- A tree whose parts need not fit together. -/
inductive Sketch where
  | number (value : Float)
  | reference (name : String)
  | binary (op : String) (left right : Sketch)
  | assignment (name : String) (value : Sketch)
  | program (members : List Sketch)
  deriving Inhabited

/-- What is wrong with a sketch. -/
inductive SketchFault where
  /-- There is no such operator. -/
  | unknownOperator
  /-- A part stands where none of its sort may stand. -/
  | misplaced
  deriving DecidableEq, Repr

namespace Form

/-- The form as an operand or as the value of an assignment. -/
def expr : Form → Except SketchFault Expr
  | .statement (.expression value) => .ok value
  | _ => .error .misplaced

/-- The form as a member of a program. -/
def member : Form → Except SketchFault Statement
  | .statement value => .ok value
  | .program _ => .error .misplaced

end Form

namespace Sketch

mutual

/-- What a sketch stands for. -/
def build : Sketch → Except SketchFault Form
  | .number value => .ok (.statement (.expression (.number value)))
  | .reference name => .ok (.statement (.expression (.reference name)))
  | .binary op left right => do
    let some op := Operator.ofText? op | throw .unknownOperator
    let left ← left.build
    let right ← right.build
    return .statement (.expression (.binary op (← left.expr) (← right.expr)))
  | .assignment name value => do
    let value ← value.build
    return .statement (.assignment name (← value.expr))
  | .program members => do
    let members ← buildAll members
    return .program ⟨← members.mapM Form.member⟩

/-- What each of several sketches stands for. -/
def buildAll : List Sketch → Except SketchFault (List Form)
  | [] => .ok []
  | sketch :: rest => do
    let first ← sketch.build
    let more ← buildAll rest
    return first :: more

end

end Sketch

end Calculator
