/-
**Programs as trees of values.**

* `Program.value`: a program as tables, lists, texts and numbers.
* `NodeClass`: the classes of nodes with their keys; `NodeClass.read?`: the node that a class reads.
* `Program.ofValue?`: the program that such a tree stands for, if it is one and no deeper than is
  read.
* `Program.levels`: how deep the tables of a program nest.
* `Program.isDumpable`: whether the levels are few enough to be written as JSON.

Every class reads a table that has its own keys, each with a part of its own sort under it, and no other
key. The classes are tried in order.
-/

import Calculator.Data.Value
import Calculator.Syntax.Basic

namespace Calculator

/-! ### Writing -/

/-- An expression as a tree of values. -/
def Expr.value : Expr → Value
  | .number x => .table [("value", .float x)]
  | .reference name => .table [("name", .text name)]
  | .binary op left right =>
    .table [("op", .text op.text), ("left", left.value), ("right", right.value)]

/-- A statement as a tree of values. -/
def Statement.value : Statement → Value
  | .expression e => e.value
  | .assignment name e => .table [("name", .text name), ("value", e.value)]

/-- A program as a tree of values. -/
def Program.value (program : Program) : Value :=
  .table [("statements", .list (program.statements.map Statement.value))]

/-! ### Reading -/

/-- The number that a value is. An integer counts as the number nearest to it, unless that is
infinite. -/
def Value.number? : Value → Option Float
  | .float x => some x
  | .integer n =>
    let rank := Binary64.nearestRank n.natAbs 1
    if rank < Binary64.infinityRank then some (Binary64.ofRank (decide (n < 0)) rank) else none
  | _ => none

/-- What a value can be within a tree. -/
inductive Part where
  | number (value : Float)
  | text (value : String)
  | node (value : Statement)

/-- The classes of nodes. -/
inductive NodeClass where
  | number
  | reference
  | binary
  | assignment
  deriving DecidableEq, Repr

namespace NodeClass

/-- All classes, in the order in which they are tried. -/
def all : List NodeClass := [.number, .reference, .binary, .assignment]

/-- The keys of a class. -/
def keys : NodeClass → List String
  | .number => ["value"]
  | .reference => ["name"]
  | .binary => ["op", "left", "right"]
  | .assignment => ["name", "value"]

/-- The node of a class whose keys hold these parts. -/
def build? : NodeClass → List Part → Option Statement
  | .number, [.number x] => some (.expression (.number x))
  | .reference, [.text name] => some (.expression (.reference name))
  | .binary, [.text op, .node (.expression left), .node (.expression right)] =>
    (Operator.ofText? op).map fun op => .expression (.binary op left right)
  | .assignment, [.text name, .node (.expression e)] => some (.assignment name e)
  | _, _ => none

/-- The node that a class reads from the parts of a table. -/
def read? (which : NodeClass) (parts : List (String × Part)) : Option Statement :=
  if parts.length = which.keys.length then
    (which.keys.mapM fun key => parts.lookup key).bind which.build?
  else none

end NodeClass

/-- The node that the first class reads that can. -/
def Part.assemble (parts : List (String × Part)) : Option Statement :=
  NodeClass.all.findSome? (·.read? parts)

mutual

/-- What a value is within a tree, if it can be in one. -/
def Value.part? : Value → Option Part
  | .text value => some (.text value)
  | .float x => some (.number x)
  | .integer n => (Value.integer n).number?.map .number
  | .table entries => do return .node (← Part.assemble (← partEntries? entries))
  | _ => none

/-- What the values under the keys of a table are within a tree. -/
def partEntries? : List (String × Value) → Option (List (String × Part))
  | [] => some []
  | (key, value) :: rest => do
    let part ← value.part?
    let more ← partEntries? rest
    return (key, part) :: more

end

/-- The greatest height of a statement that is read. -/
def heightLimit : Nat := 253

/-- The statement that a tree of values stands for, unless its operators nest too deep. -/
def Statement.ofValue? (value : Value) : Option Statement :=
  match value.part? with
  | some (.node statement) => if statement.height ≤ heightLimit then some statement else none
  | _ => none

/-- The program that a tree of values stands for. -/
def Program.ofValue? : Value → Option Program
  | .table [] => some ⟨[]⟩
  | .table [("statements", .list items)] => do return ⟨← items.mapM Statement.ofValue?⟩
  | _ => none

/-! ### Depth -/

/-- How many tables a statement nests at most, its own included. -/
def Statement.levels : Statement → Nat
  | .expression e => e.height + 1
  | .assignment _ e => e.height + 2

/-- How many tables a program nests at most, its own included. -/
def Program.levels (program : Program) : Nat :=
  (program.statements.map Statement.levels).foldl max 0 + 1

/-- The most levels that are written as JSON. -/
def levelLimit : Nat := 255

/-- A program whose levels are few enough to be written as JSON. -/
def Program.isDumpable (program : Program) : Bool := program.levels ≤ levelLimit

end Calculator
