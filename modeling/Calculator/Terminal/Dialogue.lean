/-
**Interactive use.**

* `errorLine`: an error message as it is printed.
* `Dialogue`: what lasts from one line to the next, the bindings above all.
* `Dialogue.answer`: what one line is answered with, unless it ends the dialogue.
* `Dialogue.replies`: the answers to many lines; `Transcript.ofLines`: all that is printed.

A line is read without the blanks around it. One that cannot be read changes nothing; one whose
evaluation fails keeps what the statements before the failing one did.
-/

import Calculator.Report
import Calculator.Text.ControlSequence

namespace Calculator

open Text (trim withoutSequences)

/-! ### Answers -/

/-- An error message on a line of its own. What it quotes from elsewhere does not act on the
terminal. -/
def errorLine (message : String) : String :=
  String.ofList (withoutSequences message.toList) ++ "\n"

/-- What a line is answered with. -/
inductive Reply where
  | silence
  | listing (bindings : List (String × Float))
  | result (value : Float)
  | failure (diagnostic : Diagnostic)
  deriving DecidableEq

namespace Reply

/-- What a reply prints as output. -/
def out : Reply → String
  | .silence => ""
  | .listing bindings =>
    String.join (bindings.map fun (name, value) => name ++ " = " ++ Binary64.text value ++ "\n")
  | .result value => Binary64.text value ++ "\n"
  | .failure _ => ""

/-- What a reply prints as an error. -/
def err : Reply → String
  | .failure diagnostic => errorLine diagnostic.headline
  | _ => ""

end Reply

/-! ### Dialogues -/

/-- What lasts from one line to the next. -/
structure Dialogue where
  settings : Settings
  session : Session
  bindings : Bindings
  deriving DecidableEq

namespace Dialogue

/-- A dialogue that has seen no line. -/
def fresh (settings : Settings) : Dialogue := ⟨settings, .fresh settings.rules, .empty⟩

/-- The line that ends a dialogue. -/
def farewell : List Char := [':', 'q', 'u', 'i', 't']

/-- The line that asks for the bindings. -/
def inquiry : List Char := [':', 'v', 'a', 'r', 's']

/-- Runs a program on the bindings of a dialogue. -/
def runProgram (d : Dialogue) (program : Program) : Reply × Dialogue :=
  let result := d.session.runProgram program d.bindings
  let next := { d with session := result.session, bindings := result.bindings }
  match result.value with
  | .ok value => (.result value, next)
  | .error e => (.failure e.diagnostic, next)

/-- The answer to a text, and the dialogue after it. -/
def evaluate (d : Dialogue) (text : List Char) : Reply × Dialogue :=
  match Program.read d.settings (String.ofList text) with
  | .error e => (.failure e.diagnostic, d)
  | .ok program => if program.statements = [] then (.silence, d) else d.runProgram program

/-- The answer to a line, and the dialogue after it; no answer to the line that ends it. -/
def answer (d : Dialogue) (line : List Char) : Option (Reply × Dialogue) :=
  let text := trim line
  if text = [] then some (.silence, d)
  else if text = farewell then none
  else if text = inquiry then some (.listing d.bindings.sorted, d)
  else some (d.evaluate text)

/-- The answers to the lines before the one that ends the dialogue, and the dialogue after them. -/
def replies (d : Dialogue) : List (List Char) → List Reply × Dialogue
  | [] => ([], d)
  | line :: rest =>
    match d.answer line with
    | none => ([], d)
    | some (reply, next) =>
      let (more, last) := next.replies rest
      (reply :: more, last)

end Dialogue

/-! ### Transcripts -/

/-- All that is printed, as output and as errors. -/
structure Transcript where
  out : String
  err : String
  deriving DecidableEq, Repr

/-- What stands before every answer. -/
def prompt : String := "abacus> "

/-- What a dialogue prints for its lines. One that the lines do not end ends with them. -/
def Transcript.ofLines (d : Dialogue) (lines : List (List Char)) : Transcript :=
  let replies := (d.replies lines).1
  let ending := if replies.length < lines.length then "" else "\n"
  ⟨String.join (replies.map fun reply => prompt ++ reply.out) ++ prompt ++ ending,
    String.join (replies.map Reply.err)⟩

end Calculator
