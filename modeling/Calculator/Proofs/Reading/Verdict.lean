/-
**Parsing as a judgement over tokens.**

* `Course.verdict`: what tokens come to from a course on, with the failure of the scanner behind them.
* `Program.parse_eq_verdict`: what a text is parsed to is the verdict over its tokens.
* `Course.verdict_append`: tokens that a course goes through have no part in the verdict.
* `Course.verdict_placed`: where tokens stand has no part in it, but in the position of a failure.
* `Course.verdict_after`: statements that are done stand before the program, and change nothing else.

The window, the cursor and the order in which tokens are scanned do not occur in a verdict, so texts can
be compared by their tokens alone.
-/

import Calculator.Proofs.Reading.Stream
import Calculator.Proofs.Token.Moved

namespace Calculator

/-- A token that is not the last is let go, and the window shows those behind it, or the window shows no
other token and a failure. -/
theorem Window.shift_cases {w : Window} (unseen : w.ahead = none)
    (notEnd : w.current.kind ≠ .endOfInput) :
    (∃ w', w.shift = .done w.current w' ∧ w.upcoming = w.current :: w'.upcoming ∧
      w'.failure? = w.failure?) ∨
    ∃ e reader, w.shift = .failed (.lexical e) reader ∧ w.upcoming = [w.current] ∧
      w.failure? = some e := by
  obtain ⟨rest, shown⟩ : ∃ rest, w.upcoming = w.current :: rest := ⟨_, rfl⟩
  cases rest with
  | cons token back =>
    obtain ⟨w', gone, past⟩ := exists_shift unseen shown
    exact .inl ⟨w', gone, past.upcoming, past.failure⟩
  | nil =>
    cases failed : w.failure? with
    | none => exact absurd (kind_of_last shown failed) notEnd
    | some e =>
      obtain ⟨reader, gone⟩ := shift_failed unseen shown failed
      exact .inr ⟨e, reader, gone, shown, rfl⟩

namespace Course

/-! ### Verdicts -/

/-- What the tokens come to from a course on, with the failure of the scanner behind them: nothing, if
they end without a failure and before the end of input. -/
def verdict (limit : Int) (failure : Option ScanError) :
    Course → List Token → Option (Except ReadError Program)
  | _, [] => failure.map fun e => .error (.lexical e)
  | course, token :: rest =>
    match course.move limit token.lexeme with
    | .stop program => some (.ok program)
    | .refuse expected depthLimit =>
      some (.error (.syntactic ⟨expected, token.kind, token.position, depthLimit⟩))
    | .shift next => next.verdict limit failure rest

variable {limit : Int} {failure : Option ScanError}

/-- **Tokens that a course goes through have no part in the verdict.** -/
theorem verdict_append {course next : Course} {front : List Token} (back : List Token)
    (reached : follow (move limit) course (front.map Token.lexeme) = some next) :
    course.verdict limit failure (front ++ back) = next.verdict limit failure back := by
  induction front generalizing course with
  | nil =>
    cases reached
    rfl
  | cons token front ih =>
    obtain ⟨middle, shifted, rest⟩ := follow_cons_eq_some reached
    rw [List.cons_append, verdict, shifted]
    exact ih rest

/-- **Driving a course over a window is judging the tokens that it shows.** -/
theorem verdict_eq_drive {course : Course} {w : Window} (unseen : w.ahead = none) :
    course.verdict limit w.failure? w.upcoming = some (course.drive limit w).outcome := by
  fun_induction drive limit course w with
  | case1 course w program moved =>
    rw [Window.upcoming, verdict, moved]
    rfl
  | case2 course w expected depthLimit moved =>
    rw [Window.upcoming, verdict, moved]
    rfl
  | case3 course w next moved error reader gone =>
    rcases Window.shift_cases unseen (kind_ne_of_move moved) with
      ⟨w', shifted, -⟩ | ⟨e, reader', shifted, shown, failed⟩
    · cases gone.symm.trans shifted
    · cases gone.symm.trans shifted
      rw [shown, failed, verdict, moved]
      rfl
  | case4 course w next moved token w' gone shorter ih =>
    rcases Window.shift_cases unseen (kind_ne_of_move moved) with
      ⟨w', shifted, shown, failure⟩ | ⟨e, reader', shifted, -⟩
    · cases gone.symm.trans shifted
      rw [shown, verdict, moved, ← failure]
      exact ih (Window.shift_ahead gone)
    · cases gone.symm.trans shifted

end Course

/-- **What a text is parsed to is the verdict over its tokens.** -/
theorem Program.parse_eq_verdict (limit : Int) (source : String) :
    some (parse limit source) =
      (Course.between []).verdict limit (Scanner.ofText source).run.failure
        (Scanner.ofText source).run.tokens := by
  cases opened : Window.start (Scanner.ofText source) with
  | error e =>
    obtain ⟨tokens, failed⟩ := Window.start_eq_error opened
    rw [parse, opened, tokens, failed]
    rfl
  | ok w =>
    obtain ⟨tokens, failure, -, unseen, -⟩ := Window.start_eq_ok opened
    rw [parse_eq opened, tokens, failure, Course.verdict_eq_drive unseen]

/-- A text that is scanned to its end is parsed to the verdict over the tokens that it has. -/
theorem Program.parse_of_verdict {limit : Int} {source : String} {tokens : List Token}
    {result : Except ReadError Program} (scanned : scanText source = .ok tokens)
    (verdict : (Course.between []).verdict limit none tokens = some result) :
    parse limit source = result := by
  obtain ⟨failure, rfl⟩ := scanText_eq_ok_iff.mp scanned
  refine Option.some.inj ?_
  rw [parse_eq_verdict, failure, verdict]

/-! ### Tokens at other places -/

/-- The failure where `place` takes it. -/
def ReadError.placed (place : Nat → Nat) : ReadError → ReadError
  | .lexical e => .lexical (e.placed place)
  | .syntactic e => .syntactic { e with position := place e.position }

/-- **Where tokens stand has no part in what they come to, but in the position of the failure.** -/
theorem Course.verdict_placed (limit : Int) (place : Nat → Nat) (failure : Option ScanError)
    (course : Course) (tokens : List Token) :
    course.verdict limit (failure.map (ScanError.placed place)) (tokens.map (Token.placed place)) =
      (course.verdict limit failure tokens).map (Except.mapError (ReadError.placed place)) := by
  induction tokens generalizing course with
  | nil => cases failure <;> rfl
  | cons token rest ih =>
    have same : (token.placed place).lexeme = token.lexeme := rfl
    rw [List.map_cons, verdict, verdict, same]
    cases course.move limit token.lexeme with
    | shift next => exact ih next
    | stop | refuse => rfl

/-! ### Statements that are done -/

namespace Course

/-- The course with other statements done before those that it has. -/
def after (before : List Statement) : Course → Course
  | .between done => .between (done ++ before.reverse)
  | .named done name => .named (done ++ before.reverse) name
  | .inside done target place => .inside (done ++ before.reverse) target place

end Course

/-- The program with other statements before its own. -/
def Program.after (before : List Statement) (program : Program) : Program :=
  ⟨before ++ program.statements⟩

/-- The move with other statements before those of its course, or of its program. -/
def Move.after (before : List Statement) : Move Course Program → Move Course Program
  | .shift next => .shift (next.after before)
  | .stop program => .stop (program.after before)
  | .refuse expected depthLimit => .refuse expected depthLimit

namespace Course

variable (limit : Int) (failure : Option ScanError) (before : List Statement)

theorem endMove_after (done : List Statement) (lexeme : Lexeme) :
    endMove (done ++ before.reverse) lexeme = (endMove done lexeme).after before := by
  unfold endMove
  split
  · rfl
  · rw [Move.after, Program.after, List.reverse_append, List.reverse_reverse]
  · rfl

theorem insideMove_after (done : List Statement) (target : Option String) (place : Place)
    (lexeme : Lexeme) :
    insideMove limit (done ++ before.reverse) target place lexeme =
      (insideMove limit done target place lexeme).after before := by
  unfold insideMove
  cases place.move limit lexeme with
  | shift | refuse => rfl
  | stop value => exact endMove_after before (Statement.ofTarget target value :: done) lexeme

/-- **What is done has no part in what a token does.** -/
theorem move_after (course : Course) (lexeme : Lexeme) :
    (course.after before).move limit lexeme = (course.move limit lexeme).after before := by
  cases course with
  | inside done target place => exact insideMove_after limit before done target place lexeme
  | named done name =>
    by_cases assigned : lexeme = .symbol .assign
    · subst assigned
      rfl
    · rw [after, move, move, if_neg assigned, if_neg assigned]
      exact insideMove_after limit before done none (.named name) lexeme
  | between done =>
    cases lexeme with
    | identifier name => rfl
    | number value => exact insideMove_after limit before done none .start (.number value)
    | symbol which => exact insideMove_after limit before done none .start (.symbol which)
    | endOfInput => exact endMove_after before done .endOfInput

/-- **Statements that are done stand before the program, and change nothing else.** -/
theorem verdict_after (course : Course) (tokens : List Token) :
    (course.after before).verdict limit failure tokens =
      (course.verdict limit failure tokens).map (Except.map (Program.after before)) := by
  induction tokens generalizing course with
  | nil => cases failure <;> rfl
  | cons token rest ih =>
    rw [verdict, verdict, move_after]
    cases course.move limit token.lexeme with
    | shift next => exact ih next
    | stop | refuse => rfl

end Course

end Calculator
