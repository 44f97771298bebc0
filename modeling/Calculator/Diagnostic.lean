/-
**What is said about a failure.**

* `Stage`: the part of the work that failed.
* `Diagnostic`: a stage, a text and the position it speaks of, if any.
* `Diagnostic.message`, `Diagnostic.headline`: the two forms in which it is shown.

Every wording that does not depend on settings stands here, so that a failure and its text can be
told apart everywhere else.
-/

import Calculator.Text.Quoted

namespace Calculator

open Text (quoted)

/-! ### Stages -/

/-- The part of the work that failed. -/
inductive Stage where
  | general
  | lexical
  | syntactic
  | runtime
  | configuration
  deriving DecidableEq, Repr

/-- The short name of a stage. -/
def Stage.label : Stage → String
  | .general => "error"
  | .lexical => "lex"
  | .syntactic => "syntax"
  | .runtime => "runtime"
  | .configuration => "config"

/-- The short name of a stage at the start of a sentence. -/
def Stage.heading : Stage → String
  | .general => "Error"
  | .lexical => "Lex"
  | .syntactic => "Syntax"
  | .runtime => "Runtime"
  | .configuration => "Config"

/-! ### Diagnostics -/

/-- A failure in words. -/
structure Diagnostic where
  stage : Stage
  text : String
  position : Option Int
  deriving DecidableEq, Repr

namespace Diagnostic

/-- The text, followed by the position it speaks of. -/
def message (d : Diagnostic) : String :=
  match d.position with
  | none => d.text
  | some position => s!"{d.text} (at position {position})"

/-- One line that names the stage that failed. -/
def headline (d : Diagnostic) : String :=
  match d.position with
  | none => s!"{d.stage.heading} error: {d.text}"
  | some position => s!"{d.stage.heading} error at position {position}: {d.text}"

/-- A wording of its own, unless there is none or it is empty, else the standard one. -/
def worded (own : Option String) (standard : String) : String :=
  match own with
  | none => standard
  | some own => if own = "" then standard else own

/-- No token starts with this character. -/
def lexical (character : String) (position : Option Int) (own : Option String) : Diagnostic :=
  ⟨.lexical, worded own s!"unexpected character {quoted character}", position⟩

/-- The grammar asks for another token. -/
def syntactic (expected actual : String) (position : Option Int) (own : Option String) :
    Diagnostic :=
  ⟨.syntactic, worded own s!"expected {expected}, got {actual}", position⟩

/-- A variable is read that has no value yet. -/
def undefinedVariable (name : String) : Diagnostic :=
  ⟨.runtime, s!"undefined variable {quoted name}", none⟩

/-- A zero divides under the strict policy. -/
def divisionByZero : Diagnostic := ⟨.runtime, "division by zero", none⟩

/-- There is nothing to evaluate. -/
def emptyProgram : Diagnostic := ⟨.runtime, "program has no statements", none⟩

/-- More nodes would be visited than the budget allows. -/
def stepLimit (limit : Int) : Diagnostic := ⟨.runtime, s!"step limit of {limit} exceeded", none⟩

/-- A setting is wrong. -/
def configuration (text : String) : Diagnostic := ⟨.configuration, text, none⟩

end Diagnostic

end Calculator
