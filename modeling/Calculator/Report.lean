/-
**The outcome of running a text.**

* `Report`: a value with the bindings that led to it, or a failure in words.
* `Program.read`: the program of a text under given settings.
* `runText`: reads a text and runs it on fresh bindings.
* `Report.summary`: the short form of a report, as a table.
-/

import Calculator.Evaluation.Session
import Calculator.Reading.Program
import Calculator.Settings.Basic

namespace Calculator

/-! ### Reports -/

/-- The outcome of running a text. -/
inductive Report where
  | succeeded (value : Float) (bindings : Bindings)
  | failed (diagnostic : Diagnostic)
  deriving DecidableEq

namespace Report

/-- The text was read and run. -/
def success : Report → Bool
  | .succeeded .. => true
  | .failed _ => false

/-- The value of the last statement. -/
def value? : Report → Option Float
  | .succeeded value _ => some value
  | .failed _ => none

/-- What went wrong. -/
def error? : Report → Option String
  | .succeeded .. => none
  | .failed diagnostic => some diagnostic.headline

/-- The stage that failed. -/
def stage? : Report → Option Stage
  | .succeeded .. => none
  | .failed diagnostic => some diagnostic.stage

/-- The bindings that a successful run left. -/
def bindings : Report → Bindings
  | .succeeded _ bindings => bindings
  | .failed _ => .empty

/-- The short form of a report, its value being shown by `present`. -/
def summary (present : Float → Value) (report : Report) : Value :=
  if report.success then
    .table [("success", .boolean true), ("result", (report.value?.map present).getD .null)]
  else .table [("success", .boolean false), ("error", (report.error?.map .text).getD .null)]

end Report

/-! ### Running a text -/

/-- The program that a text spells under given settings. -/
def Program.read (settings : Settings) (source : String) : Except ReadError Program :=
  Program.parse settings.maxDepth.val source

/-- Reads a text and runs it on fresh bindings. -/
def runText (settings : Settings) (source : String) : Report :=
  match Program.read settings source with
  | .error e => .failed e.diagnostic
  | .ok program =>
    match (Session.fresh settings.rules).evaluate program with
    | (.error e, _) => .failed e.diagnostic
    | (.ok value, session) => .succeeded value session.own

/-- The bindings in the order of their names. -/
def Bindings.sorted (b : Bindings) : List (String × Float) :=
  b.pairs.mergeSort fun first second => decide (first.1 ≤ second.1)

end Calculator
