/-
**Reading a program, without the text.**

* `Course`: how far the reading of a program has come; `Course.move`: what a token does to it.
* `Course.drive`: the moves of a course carried out on a window, one token after the other and none
  looked at before it is current.
* `Window.program_agrees`: reading a program is driving the first course.

A reader that has a name before it looks one token further, and a course that has read a name waits
for that token. The two leave the same behind except where the token cannot be scanned: there the
reader still holds the name. `Reading.Agrees` allows for that and for nothing else.
-/

import Calculator.Proofs.Reading.Place

namespace Calculator

/-! ### Courses -/

/-- How far the reading of a program has come; `done` holds the statements read, the latest first. -/
inductive Course where
  /-- A statement may start. -/
  | between (done : List Statement)
  /-- A statement starts with a name. -/
  | named (done : List Statement) (name : String)
  /-- An expression is read, which is assigned to `target` if there is one. -/
  | inside (done : List Statement) (target : Option String) (place : Place)
  deriving DecidableEq

/-- The statement that an expression makes. -/
def Statement.ofTarget (target : Option String) (value : Expr) : Statement :=
  match target with
  | none => .expression value
  | some name => .assignment name value

namespace Course

/-- What a token does behind a statement. -/
def endMove (done : List Statement) : Lexeme → Move Course Program
  | .symbol .semicolon => .shift (.between done)
  | .endOfInput => .stop ⟨done.reverse⟩
  | _ => .refuse .statementEnd none

/-- What a token does while an expression is read. -/
def insideMove (limit : Int) (done : List Statement) (target : Option String) (place : Place)
    (lexeme : Lexeme) : Move Course Program :=
  match place.move limit lexeme with
  | .shift next => .shift (.inside done target next)
  | .stop value => endMove (Statement.ofTarget target value :: done) lexeme
  | .refuse expected depthLimit => .refuse expected depthLimit

/-- What a token does while a program is read. -/
def move (limit : Int) (course : Course) (lexeme : Lexeme) : Move Course Program :=
  match course with
  | .between done =>
    match lexeme with
    | .endOfInput => .stop ⟨done.reverse⟩
    | .identifier name => .shift (.named done name)
    | _ => insideMove limit done none .start lexeme
  | .named done name =>
    if lexeme = .symbol .assign then .shift (.inside done (some name) .start)
    else insideMove limit done none (.named name) lexeme
  | .inside done target place => insideMove limit done target place lexeme

theorem endMove_of_not_endsClause {done : List Statement} {lexeme : Lexeme}
    (between : lexeme ≠ .symbol .semicolon) (last : lexeme ≠ .endOfInput) :
    endMove done lexeme = .refuse .statementEnd none := by
  match lexeme with
  | .number _ | .identifier _ => rfl
  | .endOfInput => exact absurd rfl last
  | .symbol which => cases which <;> first | rfl | exact absurd rfl between

theorem endMove_eq_shift {done : List Statement} {lexeme : Lexeme} {next : Course}
    (shifted : endMove done lexeme = .shift next) :
    lexeme = .symbol .semicolon ∧ next = .between done := by
  unfold endMove at shifted
  split at shifted
  · cases shifted
    exact ⟨rfl, rfl⟩
  · cases shifted
  · cases shifted

theorem endMove_eq_stop {done : List Statement} {lexeme : Lexeme} {program : Program}
    (stopped : endMove done lexeme = .stop program) :
    lexeme = .endOfInput ∧ program = ⟨done.reverse⟩ := by
  unfold endMove at stopped
  split at stopped
  · cases stopped
  · cases stopped
    exact ⟨rfl, rfl⟩
  · cases stopped

section Inside

variable {limit : Int} {done : List Statement} {target : Option String} {place : Place}
  {lexeme : Lexeme}

theorem insideMove_of_shifts {next : Place} (shifts : place.Shifts limit lexeme next) :
    insideMove limit done target place lexeme = .shift (.inside done target next) := by
  rw [insideMove, Place.move_eq_shift_iff.mpr shifts]

/-- Within an expression the place lets a token go, or a semicolon ends the statement. -/
theorem insideMove_eq_shift {next : Course}
    (shifted : insideMove limit done target place lexeme = .shift next) :
    (∃ place', place.Shifts limit lexeme place' ∧ next = .inside done target place') ∨
    ∃ level factor, place = ⟨[], level, .operator factor⟩ ∧ lexeme = .symbol .semicolon ∧
      next = .between (Statement.ofTarget target (Place.total level factor) :: done) := by
  unfold insideMove at shifted
  split at shifted
  · next place' moved =>
    cases shifted
    exact .inl ⟨place', Place.move_eq_shift_iff.mp moved, rfl⟩
  · next stopped =>
    obtain ⟨level, factor, here, rfl⟩ := Place.eq_of_move_stop stopped
    obtain ⟨semicolon, same⟩ := endMove_eq_shift shifted
    exact .inr ⟨level, factor, here, semicolon, same⟩
  · cases shifted

/-- Only the end of input ends a program, behind a factor and outside all parentheses. -/
theorem insideMove_eq_stop {program : Program}
    (stopped : insideMove limit done target place lexeme = .stop program) :
    ∃ level factor, place = ⟨[], level, .operator factor⟩ ∧ lexeme = .endOfInput ∧
      program = ⟨(Statement.ofTarget target (Place.total level factor) :: done).reverse⟩ := by
  unfold insideMove at stopped
  split at stopped
  · cases stopped
  · next ended =>
    obtain ⟨level, factor, here, rfl⟩ := Place.eq_of_move_stop ended
    obtain ⟨last, same⟩ := endMove_eq_stop stopped
    exact ⟨level, factor, here, last, same⟩
  · cases stopped

theorem insideMove_endOfInput (next : Course) :
    insideMove limit done target place .endOfInput ≠ .shift next := by
  intro shifted
  rcases insideMove_eq_shift shifted with ⟨place', shifts, -⟩ | ⟨-, -, -, semicolon, -⟩
  · cases shifts
  · cases semicolon

end Inside

/-- The end of input is never let go. -/
theorem move_endOfInput (limit : Int) (course next : Course) :
    course.move limit .endOfInput ≠ .shift next := by
  cases course with
  | between done => exact fun same => nomatch same
  | named done name =>
    rw [move, if_neg Lexeme.noConfusion]
    exact insideMove_endOfInput next
  | inside done target place => exact insideMove_endOfInput next

theorem kind_ne_of_move {limit : Int} {course next : Course} {token : Token}
    (shifted : course.move limit token.lexeme = .shift next) : token.kind ≠ .endOfInput := by
  rw [Token.kind, Ne, Lexeme.kind_eq_endOfInput_iff]
  intro last
  rw [last] at shifted
  exact move_endOfInput limit course next shifted

/-- The token that is current does not fit. -/
def refusal {α : Type} (w : Window) (expected : Expectation) (depthLimit : Option Int) : Reading α :=
  .failed (.syntactic ⟨expected, w.current.kind, w.current.position, depthLimit⟩) (.ready w)

/-- The moves of a course, carried out on a window. -/
def drive (limit : Int) (course : Course) (w : Window) : Reading Program :=
  match moved : course.move limit w.current.lexeme with
  | .stop program => .done program w
  | .refuse expected depthLimit => refusal w expected depthLimit
  | .shift next =>
    match gone : w.shift with
    | .failed error reader => .failed error reader
    | .done _ w' =>
      have := Window.shift_remaining_lt gone (kind_ne_of_move moved)
      next.drive limit w'
termination_by w.remaining

/-- What a move comes to on a window. -/
def carry (limit : Int) (w : Window) : Move Course Program → Reading Program
  | .stop program => .done program w
  | .refuse expected depthLimit => refusal w expected depthLimit
  | .shift next =>
    match w.shift with
    | .failed error reader => .failed error reader
    | .done _ w' => next.drive limit w'

theorem drive_eq (limit : Int) (course : Course) (w : Window) :
    course.drive limit w = carry limit w (course.move limit w.current.lexeme) := by
  rw [drive]
  split
  · next moved => rw [moved, carry]
  · next moved => rw [moved, carry]
  · next next moved =>
    refine Eq.trans ?_ (congrArg (carry limit w) moved).symm
    unfold carry
    split <;> next gone => simp only [gone]

end Course

/-! ### Windows -/

namespace Window

theorem shift_ahead {w w' : Window} {token : Token} (gone : w.shift = .done token w') :
    w'.ahead = none := by
  obtain ⟨-, _, _, rfl, -⟩ := exists_of_shift gone
  rfl

/-- Letting the current token go does not depend on whether the next one has been looked at. -/
theorem shift_lookAhead {w w' : Window} {token : Token} (unseen : w.ahead = none)
    (looked : w.lookAhead = (.ok token, w')) : w'.shift = w.shift := by
  unfold lookAhead at looked
  rw [unseen] at looked
  dsimp only at looked
  split at looked
  · next read =>
    cases looked
    exact (shift_of_seen rfl).trans (shift_of_ok unseen read).symm
  · cases looked

theorem lookAhead_current {w w' : Window} {result : Except ScanError Token}
    (looked : w.lookAhead = (result, w')) : w'.current = w.current := by
  unfold lookAhead at looked
  split at looked
  · cases looked
    rfl
  · split at looked <;> cases looked <;> rfl

theorem shift_of_lookAhead {w w' : Window} {token : Token} (unseen : w.ahead = none)
    (looked : w.lookAhead = (.ok token, w')) :
    ∃ after, w.shift = .done w.current ⟨w.current :: w.taken, token, none, after⟩ := by
  unfold lookAhead at looked
  rw [unseen] at looked
  dsimp only at looked
  split at looked
  · next after read =>
    cases looked
    exact ⟨after, shift_of_ok unseen read⟩
  · cases looked

theorem shift_of_lookAhead_error {w w' : Window} {e : ScanError} (unseen : w.ahead = none)
    (looked : w.lookAhead = (.error e, w')) :
    ∃ reader, w.shift = .failed (.lexical e) reader := by
  unfold lookAhead at looked
  rw [unseen] at looked
  dsimp only at looked
  split at looked
  · cases looked
  · next read =>
    cases looked
    exact ⟨_, shift_of_error unseen read⟩

end Window

/-! ### Expressions -/

namespace Configuration

/-- What a turn comes to. -/
def resume (limit : Int) (goal : Goal) : Turn → Reading Expr
  | .go next => next.run limit goal
  | .stop reading => reading

theorem run_eq (limit : Int) (goal : Goal) (c : Configuration) :
    c.run limit goal = resume limit goal (c.step limit goal) := by
  rw [run]
  split
  · next went => exact (congrArg (resume limit goal) went).symm
  · next went => rw [went, resume]

end Configuration

namespace Course

/-- What follows a statement that was read. -/
def behind (limit : Int) (done : List Statement) : Reading Statement → Reading Program
  | .done statement w => carry limit w (endMove (statement :: done) w.current.lexeme)
  | .failed error reader => .failed error reader

/-- **Within a statement, driving a course is running a configuration.** -/
theorem drive_inside (limit : Int) (done : List Statement) (target : Option String)
    (c : Configuration) :
    (inside done target c.place).drive limit c.window =
      behind limit done ((c.run limit .expression).map (Statement.ofTarget target)) := by
  fun_induction Configuration.run limit .expression c with
  | case1 c next went shorter ih =>
    rw [drive_eq, move, insideMove]
    rw [Configuration.step_eq] at went
    cases moved : c.place.move limit c.window.current.lexeme with
    | shift place =>
      rw [moved, Configuration.carry, Configuration.proceed] at went
      dsimp only [carry]
      split at went
      · next gone =>
        cases went
        rw [gone]
        exact ih
      · cases went
    | stop | refuse =>
      rw [moved] at went
      cases went
  | case2 c reading stopped =>
    rw [drive_eq, move, insideMove]
    rw [Configuration.step_eq] at stopped
    cases moved : c.place.move limit c.window.current.lexeme with
    | shift place =>
      rw [moved, Configuration.carry, Configuration.proceed] at stopped
      dsimp only [carry]
      split at stopped
      · cases stopped
      · next gone =>
        cases stopped
        rw [gone]
        rfl
    | stop value =>
      rw [moved] at stopped
      cases stopped
      rfl
    | refuse expected depthLimit =>
      rw [moved] at stopped
      cases stopped
      rfl

end Course

/-! ### Statements -/

/-- The same reading, up to what is left behind where no token could be scanned. -/
inductive Reading.Agrees {α : Type} : Reading α → Reading α → Prop
  | refl (reading : Reading α) : Agrees reading reading
  | lexical (e : ScanError) (reader reader' : Reader) :
      Agrees (.failed (.lexical e) reader) (.failed (.lexical e) reader')

theorem Reading.Agrees.trans {α : Type} {first second third : Reading α}
    (left : first.Agrees second) (right : second.Agrees third) : first.Agrees third := by
  cases left with
  | refl => exact right
  | lexical e reader reader' =>
    cases right with
    | refl => exact .lexical ..
    | lexical => exact .lexical ..

theorem Reading.Agrees.eq_of_syntactic {α : Type} {first : Reading α} {error : SyntaxError}
    {reader : Reader} (agrees : first.Agrees (.failed (.syntactic error) reader)) :
    first = .failed (.syntactic error) reader := by
  cases agrees
  rfl

namespace Course

/-- A reading that starts with a name that has been looked behind goes on behind it. -/
theorem run_named {limit : Int} {w w' : Window} {name : String} {token : Token}
    (here : w.current.lexeme = .identifier name) (gone : w.shift = .done token w') :
    (Configuration.start w).run limit .expression =
      (Configuration.mk w' [] .empty (.operator (.reference name))).run limit .expression := by
  have shifted : (Configuration.start w).place.move limit w.current.lexeme =
      .shift (.named name) := by
    rw [here]
    rfl
  rw [Configuration.run_eq, Configuration.step_eq]
  dsimp only [Configuration.start] at shifted ⊢
  rw [shifted, Configuration.carry, Configuration.proceed, gone]
  rfl

/-- An assignment whose name and equals sign have been looked at. -/
theorem assignment_eq {limit : Int} {w w' : Window} {name : String} {token : Token}
    (here : w.current.lexeme = .identifier name) (gone : w.shift = .done token w')
    (assigned : w'.current.kind = .symbol .assign) :
    w.assignment limit =
      match w'.shift with
      | .failed error reader => .failed error reader
      | .done _ w'' => (w''.read limit .expression).map (.assignment name) := by
  have expected : w'.expect (.symbol .assign) = w'.shift := if_pos assigned
  unfold Window.assignment
  rw [here, gone]
  dsimp only
  generalize w'.shift = outcome at expected ⊢
  subst expected
  cases w'.expect (.symbol .assign) <;> rfl

/-- Reading the value of an assignment is driving on behind the equals sign. -/
theorem behind_assignment (limit : Int) (done : List Statement) (name : String) (w : Window) :
    behind limit done
        (match w.shift with
        | .failed error reader => .failed error reader
        | .done _ w' => (w'.read limit .expression).map (.assignment name)) =
      carry limit w (.shift (.inside done (some name) .start)) := by
  unfold carry
  cases w.shift with
  | failed error reader => rfl
  | done token w' => exact (drive_inside limit done (some name) (Configuration.start w')).symm

theorem lexeme_eq_of_kind {token : Token} {which : Symbol} :
    token.kind = .symbol which ↔ token.lexeme = .symbol which := by
  rw [Token.kind]
  cases token.lexeme <;> simp [Lexeme.kind]

/-- Reading a statement that starts with a name is driving on behind the name. -/
theorem statement_named {limit : Int} {done : List Statement} {w : Window} {name : String}
    (unseen : w.ahead = none) (here : w.current.lexeme = .identifier name) :
    (behind limit done (w.statement limit)).Agrees ((between done).drive limit w) := by
  have isName : w.current.kind = .identifier := by rw [Token.kind, here, Lexeme.kind]
  have first : (between done).move limit w.current.lexeme = .shift (.named done name) := by
    rw [here]
    rfl
  rw [Window.statement, if_pos isName, drive_eq, first, carry]
  split
  · next e w' looked =>
    obtain ⟨reader, gone⟩ := Window.shift_of_lookAhead_error unseen looked
    rw [gone]
    exact .lexical ..
  · next second w' looked =>
    obtain ⟨after, gone⟩ := Window.shift_of_lookAhead unseen looked
    have goneAhead := (Window.shift_lookAhead unseen looked).trans gone
    have hereAhead : w'.current.lexeme = .identifier name := by
      rw [Window.lookAhead_current looked, here]
    rw [gone]
    dsimp only
    split
    · next assigned =>
      have moved : (named done name).move limit second.lexeme =
          .shift (.inside done (some name) .start) := if_pos (lexeme_eq_of_kind.mp assigned)
      rw [assignment_eq hereAhead goneAhead assigned, drive_eq, moved,
        behind_assignment]
      exact .refl _
    · next other =>
      have moved : (named done name).move limit second.lexeme =
          (inside done none (.named name)).move limit second.lexeme :=
        if_neg fun assigned => other (lexeme_eq_of_kind.mpr assigned)
      rw [Window.read, run_named hereAhead goneAhead, drive_eq, moved, ← drive_eq]
      exact drive_inside limit done none (Configuration.mk _ [] .empty _) ▸ .refl _

/-- **Reading a statement is driving a course up to its end.** -/
theorem statement_agrees {limit : Int} {done : List Statement} {w : Window}
    (unseen : w.ahead = none) (notEnd : w.current.kind ≠ .endOfInput) :
    (behind limit done (w.statement limit)).Agrees ((between done).drive limit w) := by
  have otherwise (moved : (between done).move limit w.current.lexeme =
      (inside done none .start).move limit w.current.lexeme)
      (notName : w.current.kind ≠ .identifier) :
      (behind limit done (w.statement limit)).Agrees ((between done).drive limit w) := by
    rw [Window.statement, if_neg notName, drive_eq, moved, ← drive_eq]
    exact drive_inside limit done none (Configuration.start w) ▸ .refl _
  cases here : w.current.lexeme with
  | identifier name => exact statement_named unseen here
  | number value =>
    refine otherwise ?_ (Token.kind_ne here Kind.noConfusion)
    rw [here]
    rfl
  | symbol which =>
    refine otherwise ?_ (Token.kind_ne here Kind.noConfusion)
    rw [here]
    rfl
  | endOfInput => exact absurd (Lexeme.kind_eq_endOfInput_iff.mpr here) notEnd

end Course

/-! ### Programs -/

namespace Window

open Course

theorem statements_agrees {limit : Int} {done : List Statement} {w : Window}
    (unseen : w.ahead = none) (notEnd : w.current.kind ≠ .endOfInput) :
    (w.statements limit done).Agrees ((between done).drive limit w) := by
  refine Reading.Agrees.trans ?_ (statement_agrees unseen notEnd)
  fun_induction Window.statements limit done w with
  | case1 done w error reader failed =>
    rw [failed]
    exact .refl _
  | case2 done w statement after read separated error reader gone =>
    rw [read, behind, lexeme_eq_of_kind.mp separated, endMove, carry, gone]
    exact .refl _
  | case3 done w statement after read all separated token next gone last =>
    rw [read, behind, lexeme_eq_of_kind.mp separated, endMove, carry, gone]
    dsimp only
    rw [drive_eq, Lexeme.kind_eq_endOfInput_iff.mp last]
    exact .refl _
  | case4 done w statement after read all separated token next gone more _ _ ih =>
    rw [read, behind, lexeme_eq_of_kind.mp separated, endMove, carry, gone]
    have unseen := shift_ahead gone
    exact (ih unseen more).trans (statement_agrees unseen more)
  | case5 done w statement after read all separated last =>
    rw [read, behind, Lexeme.kind_eq_endOfInput_iff.mp last]
    exact .refl _
  | case6 done w statement after read separated last =>
    rw [read, behind, endMove_of_not_endsClause
      (fun found => separated (lexeme_eq_of_kind.mpr found))
      (fun found => last (Lexeme.kind_eq_endOfInput_iff.mpr found))]
    exact .refl _

/-- **Reading a program is driving a course from its start.** -/
theorem program_agrees {limit : Int} {w : Window} (unseen : w.ahead = none) :
    (w.program limit).Agrees ((between []).drive limit w) := by
  by_cases last : w.current.kind = .endOfInput
  · rw [program, if_pos last, drive_eq, Lexeme.kind_eq_endOfInput_iff.mp last]
    exact .refl _
  · rw [program, if_neg last]
    exact statements_agrees unseen last

end Window
end Calculator
