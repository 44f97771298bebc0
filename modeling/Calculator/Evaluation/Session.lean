/-
**Programs, and sessions that run many of them.**

* `Program.run`: the statements in order, with a budget of their own.
* `Session`: what an evaluator keeps between calls, bindings of its own and the count of visits.
* `Session.evaluate`: a program on fresh bindings of the session; `Session.runProgram`,
  `Session.runStatement`: a program or a single statement on bindings handed in.

The count of visits starts anew with every program that has statements, and with nothing else.
-/

import Calculator.Evaluation.Machine

namespace Calculator

/-! ### Programs -/

/-- Runs statements in order; the value is that of the last one, or `value` if there is none. -/
def runStatements (rules : Rules) (value : Float) : List Statement → Step Float
  | [] => return value
  | statement :: rest => do
    let next ← statement.run rules
    runStatements rules next rest

/-- Starts the count of visits anew. -/
def resetVisits : Step Unit := fun σ => (.ok (), { σ with visits := 0 })

/-- Runs a program. -/
def Program.run (rules : Rules) (program : Program) : Step Float :=
  match program.statements with
  | [] => .fail .emptyProgram
  | statements => do
    resetVisits
    runStatements rules 0 statements

/-! ### Sessions -/

/-- What an evaluator keeps between calls. -/
structure Session where
  rules : Rules
  own : Bindings
  visits : Nat
  deriving DecidableEq

/-- A value or a failure, with the bindings it was computed on and the session after it. -/
structure Session.Result where
  value : Except RuntimeError Float
  bindings : Bindings
  session : Session

namespace Session

/-- A session that has done nothing. -/
def fresh (rules : Rules) : Session := ⟨rules, .empty, 0⟩

/-- One step on bindings handed in. -/
def perform (s : Session) (step : Step Float) (bindings : Bindings) : Result :=
  let (value, σ) := step ⟨bindings, s.visits⟩
  ⟨value, σ.bindings, { s with visits := σ.visits }⟩

/-- Runs a program on bindings handed in. -/
def runProgram (s : Session) (program : Program) (bindings : Bindings) : Result :=
  s.perform (program.run s.rules) bindings

/-- Runs a single statement on bindings handed in. -/
def runStatement (s : Session) (statement : Statement) (bindings : Bindings) : Result :=
  s.perform (statement.run s.rules) bindings

/-- Runs a program on fresh bindings, which the session keeps as its own. -/
def evaluate (s : Session) (program : Program) : Except RuntimeError Float × Session :=
  let result := s.runProgram program .empty
  (result.value, { result.session with own := result.bindings })

end Session

end Calculator
