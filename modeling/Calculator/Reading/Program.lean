/-
**Reading statements and programs.**

* `Window.statement`: an assignment if a name and an equals sign come first, else an expression.
* `Window.program`: statements parted by semicolons, with one semicolon allowed behind the last.
* `Program.parse`: the program that a whole text spells.
* `Reader.perform`: one request to a reader that is used step by step, also after a failure.
-/

import Calculator.Reading.Expression
import Calculator.Syntax.Printer

namespace Calculator

/-! ### Statements -/

namespace Window

/-- Reads a name, an equals sign and an expression. -/
def assignment (limit : Int) (w : Window) : Reading Statement :=
  match w.current.lexeme with
  | .identifier name =>
    match w.shift with
    | .failed error reader => .failed error reader
    | .done _ w =>
      match w.expect (.symbol .assign) with
      | .failed error reader => .failed error reader
      | .done _ w => (w.read limit .expression).map (.assignment name)
  | _ => .failed (w.current.refusal (.one .identifier)) (.ready w)

/-- Reads an assignment or an expression. The token after a name is looked at, and no other. -/
def statement (limit : Int) (w : Window) : Reading Statement :=
  if w.current.kind = .identifier then
    match w.lookAhead with
    | (.error e, w) => .failed (.lexical e) (.ready w)
    | (.ok second, w) =>
      if second.kind = .symbol .assign then w.assignment limit
      else (w.read limit .expression).map .expression
  else (w.read limit .expression).map .expression

/-! ### Progress -/

theorem map_read_remaining_le {limit : Int} {goal : Goal} {w w' : Window} {f : Expr → Statement}
    {value : Statement} (read : (w.read limit goal).map f = .done value w') :
    w'.remaining ≤ w.remaining := by
  unfold Window.read Reading.map at read
  split at read
  · next run =>
    cases read
    exact Configuration.run_remaining_le run
  · cases read

theorem assignment_remaining_le {limit : Int} {w w' : Window} {value : Statement}
    (read : w.assignment limit = .done value w') : w'.remaining ≤ w.remaining := by
  unfold assignment at read
  split at read
  · split at read
    · cases read
    · next gone =>
      split at read
      · cases read
      · next found =>
        have first := shift_remaining_le gone
        have second := expect_remaining_le found
        have third := map_read_remaining_le read
        omega
  · cases read

theorem statement_remaining_le {limit : Int} {w w' : Window} {value : Statement}
    (read : w.statement limit = .done value w') : w'.remaining ≤ w.remaining := by
  unfold statement at read
  split at read
  · split at read
    · cases read
    · next looked =>
      have first := lookAhead_remaining_le looked
      split at read
      · exact Nat.le_trans (assignment_remaining_le read) first
      · exact Nat.le_trans (map_read_remaining_le read) first
  · exact map_read_remaining_le read

/-! ### Programs -/

/-- Reads the statements from here on, behind those in `done`, the latest of which comes first. -/
def statements (limit : Int) (done : List Statement) (w : Window) : Reading Program :=
  match read : w.statement limit with
  | .failed error reader => .failed error reader
  | .done statement after =>
    let done := statement :: done
    if separated : after.current.kind = .symbol .semicolon then
      match gone : after.shift with
      | .failed error reader => .failed error reader
      | .done _ next =>
        if next.current.kind = .endOfInput then .done ⟨done.reverse⟩ next
        else
          have := statement_remaining_le read
          have := shift_remaining_lt gone (by rw [separated]; exact Kind.noConfusion)
          statements limit done next
    else if after.current.kind = .endOfInput then .done ⟨done.reverse⟩ after
    else .failed (after.current.refusal .statementEnd) (.ready after)
termination_by w.remaining
decreasing_by omega

/-- Reads a program up to the end of input. -/
def program (limit : Int) (w : Window) : Reading Program :=
  if w.current.kind = .endOfInput then .done ⟨[]⟩ w else w.statements limit []

end Window

/-- The program that a text spells, with at most `limit` parentheses open at any place. -/
def Program.parse (limit : Int) (source : String) : Except ReadError Program :=
  match Window.start (Scanner.ofText source) with
  | .error e => .error (.lexical e)
  | .ok w =>
    match w.program limit with
    | .done program _ => .ok program
    | .failed error _ => .error error

/-! ### Step by step -/

namespace Reader

/-- What a reader can be asked for. -/
inductive Request where
  | current
  | lookAhead
  | shift
  | expect (kind : Kind)
  | read (goal : Goal)
  | statement
  | assignment
  | program
  deriving DecidableEq, Repr

/-- What a reader answers. -/
inductive Answer where
  | token (token : Token)
  | expression (value : Expr)
  | statement (value : Statement)
  | program (value : Program)

/-- Why a reader does not answer. -/
inductive Refusal where
  | unread (error : ReadError)
  /-- There is no current token. -/
  | noToken
  deriving DecidableEq, Repr

/-- The scanner behind a reader. -/
def scanner : Reader → Scanner
  | .ready w => w.scanner
  | .stranded _ s => s

/-- The tokens in view. -/
def buffer : Reader → List Token
  | .ready w => w.current :: w.ahead.toList
  | .stranded .. => []

/-- The tokens let go, in order. -/
def consumed : Reader → List Token
  | .ready w => w.taken.reverse
  | .stranded taken _ => taken.reverse

/-- The answer that a reading amounts to. -/
def answer {α : Type} (wrap : α → Answer) : Reading α → Except Refusal Answer × Reader
  | .done value w => (.ok (wrap value), .ready w)
  | .failed error reader => (.error (.unread error), reader)

/-- One request. Without a current token only `lookAhead` does anything: it scans a token, which is
then the current one, and finds none after it. -/
def perform (limit : Int) : Request → Reader → Except Refusal Answer × Reader
  | .lookAhead, .stranded taken s =>
    match s.next with
    | (.ok token, after) => (.error .noToken, .ready ⟨taken, token, none, after⟩)
    | (.error e, after) => (.error (.unread (.lexical e)), .stranded taken after)
  | _, .stranded taken s => (.error .noToken, .stranded taken s)
  | .current, .ready w => (.ok (.token w.current), .ready w)
  | .lookAhead, .ready w =>
    match w.lookAhead with
    | (.ok token, w) => (.ok (.token token), .ready w)
    | (.error e, w) => (.error (.unread (.lexical e)), .ready w)
  | .shift, .ready w => answer .token w.shift
  | .expect kind, .ready w => answer .token (w.expect kind)
  | .read goal, .ready w => answer .expression (w.read limit goal)
  | .statement, .ready w => answer .statement (w.statement limit)
  | .assignment, .ready w => answer .statement (w.assignment limit)
  | .program, .ready w => answer .program (w.program limit)

end Reader

end Calculator
