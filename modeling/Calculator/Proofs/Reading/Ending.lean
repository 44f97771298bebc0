/-
**How the parsing of a text ends.**

* `Program.Ends`: a failure of the scanner behind tokens that all fit, a program, or a token that does
  not fit behind tokens that do.
* `Program.parse_ends`: every text is parsed to one of the three.
* `Program.Ends.Refusal`: what is left behind at a token that does not fit. It is current, the tokens
  before it have been let go, and nothing behind it has been scanned.
-/

import Calculator.Proofs.Reading.Stream
import Calculator.Proofs.Reading.Viable

namespace Calculator

/-- Tokens are all let go, or there is a first one that is not. -/
theorem follow_cases {σ α : Type} (move : σ → Lexeme → Move σ α) (start : σ)
    (tokens : List Token) :
    (∃ last, follow move start (tokens.map Token.lexeme) = some last) ∨
    ∃ front token back middle, tokens = front ++ token :: back ∧
      follow move start (front.map Token.lexeme) = some middle ∧
      ∀ next, move middle token.lexeme ≠ .shift next := by
  induction tokens generalizing start with
  | nil => exact .inl ⟨start, rfl⟩
  | cons token tokens ih =>
    cases moved : move start token.lexeme with
    | shift next =>
      rcases ih next with ⟨last, reached⟩ | ⟨front, stuck, back, middle, rfl, reached, never⟩
      · exact .inl ⟨last, (follow_cons moved).trans reached⟩
      · exact .inr ⟨token :: front, stuck, back, middle, rfl, (follow_cons moved).trans reached,
          never⟩
    | stop | refuse =>
      refine .inr ⟨[], token, tokens, start, rfl, rfl, fun next shifted => ?_⟩
      rw [moved] at shifted
      cases shifted

theorem Sentence.exists_body (sentence : Sentence) :
    ∃ body, sentence.lexemes = body ++ [.endOfInput] := by
  cases sentence with
  | empty => exact ⟨[], rfl⟩
  | clauses => exact ⟨_, rfl⟩

/-- Only the end of input ends a course. -/
theorem Course.eq_endOfInput_of_stop {limit : Int} {before : List Lexeme} {course : Course}
    {lexeme : Lexeme} {program : Program}
    (reached : follow (Course.move limit) (.between []) before = some course)
    (stopped : course.move limit lexeme = .stop program) : lexeme = .endOfInput := by
  obtain ⟨sentence, same, -, -⟩ := (spells_of_follow reached).stop stopped
  obtain ⟨body, ends⟩ := sentence.exists_body
  rw [ends] at same
  exact (List.cons.inj (List.append_inj' same rfl).2).1.symm

namespace Program

/-- What is left behind at a token that does not fit. -/
structure Ends.Refusal (limit : Int) (source : String) (front : List Token) (token : Token)
    (error : SyntaxError) : Prop where
  /-- The reading of the program fails at the token, with the tokens before it let go, none looked at
  ahead, and the cursor behind the token. -/
  window : ∃ w, Window.start (Scanner.ofText source) = .ok w ∧
    w.program limit = .failed (.syntactic error)
      (.ready ⟨front.reverse, token, none, (Scanner.ofText source).skip (front.length + 1)⟩)
  position : error.position = token.position
  actual : error.actual = token.kind

/-- How the parsing of a text ends. -/
inductive Ends (limit : Int) (source : String) : Except ReadError Program → Prop
  | lexical {e : ScanError} {course : Course}
      (failed : (Scanner.ofText source).run.failure = some e)
      (reached : follow (Course.move limit) (.between [])
        ((Scanner.ofText source).run.tokens.map Token.lexeme) = some course) :
      Ends limit source (.error (.lexical e))
  | accepted {front : List Token} {last : Token} {course : Course} {program : Program}
      (fine : (Scanner.ofText source).run.failure = none)
      (tokens : (Scanner.ofText source).run.tokens = front ++ [last])
      (ends : last.lexeme = .endOfInput)
      (reached : follow (Course.move limit) (.between []) (front.map Token.lexeme) = some course)
      (stopped : course.move limit .endOfInput = .stop program) :
      Ends limit source (.ok program)
  | refused {front back : List Token} {token : Token} {course : Course} {error : SyntaxError}
      (tokens : (Scanner.ofText source).run.tokens = front ++ token :: back)
      (reached : follow (Course.move limit) (.between []) (front.map Token.lexeme) = some course)
      (refused : course.move limit token.lexeme = .refuse error.expected error.depthLimit)
      (refusal : Ends.Refusal limit source front token error) :
      Ends limit source (.error (.syntactic error))

section Start

variable {limit : Int} {source : String} {w : Window}
  (opened : Window.start (Scanner.ofText source) = .ok w)

include opened

/-- Where all tokens fit, the failure of the scanner is met. -/
theorem ends_of_through {course : Course}
    (reached : follow (Course.move limit) (.between [])
      ((Scanner.ofText source).run.tokens.map Token.lexeme) = some course) :
    Ends limit source (parse limit source) := by
  obtain ⟨tokens, failure, -, unseen, -⟩ := Window.start_eq_ok opened
  obtain ⟨front, last, whole⟩ : ∃ front last, w.upcoming = front ++ [last] :=
    ⟨_, _, (List.dropLast_concat_getLast (List.cons_ne_nil _ _)).symm⟩
  have through := reached
  rw [tokens, whole, List.map_append] at through
  obtain ⟨middle, reachedMiddle, rest⟩ := follow_append_eq_some through
  obtain ⟨next, shifted, -⟩ := follow_cons_eq_some rest
  obtain ⟨w', past, current, driven⟩ := Course.exists_past unseen whole reachedMiddle
  have alone : w'.upcoming = [w'.current] := by
    rw [past.upcoming, List.append_cancel_left_eq] at whole
    rw [whole, current]
  cases failed : w'.failure? with
  | none =>
    have ends := Window.kind_of_last alone failed
    rw [current] at ends
    exact absurd ends (Course.kind_ne_of_move shifted)
  | some e =>
    obtain ⟨reader, gone⟩ := Window.shift_failed past.unseen alone failed
    have result : parse limit source = .error (.lexical e) := by
      rw [parse_eq opened, driven, Course.drive_eq, current, shifted, Course.carry, gone]
      rfl
    rw [result]
    exact .lexical ((failure.trans past.failure.symm).trans failed) reached

/-- Where a token does not fit, the parsing ends. -/
theorem ends_of_stuck {front back : List Token} {token : Token} {course : Course}
    (tokens : (Scanner.ofText source).run.tokens = front ++ token :: back)
    (reached : follow (Course.move limit) (.between []) (front.map Token.lexeme) = some course)
    (never : ∀ next, course.move limit token.lexeme ≠ .shift next) :
    Ends limit source (parse limit source) := by
  obtain ⟨whole, failure, taken, unseen, scanner⟩ := Window.start_eq_ok opened
  rw [tokens] at whole
  obtain ⟨w', past, current, driven⟩ := Course.exists_past unseen whole.symm reached
  cases moved : course.move limit token.lexeme with
  | shift next => exact absurd moved (never next)
  | stop program =>
    have ends := Course.eq_endOfInput_of_stop reached moved
    have last : w'.current.kind = .endOfInput := by
      rw [current]
      exact Lexeme.kind_eq_endOfInput_iff.mpr ends
    have alone : back = [] := by
      have rest := past.upcoming
      rw [← whole, List.append_cancel_left_eq, Window.upcoming, if_pos last] at rest
      exact (List.cons.inj rest).2
    subst alone
    have fine : (Scanner.ofText source).run.failure = none := by
      rw [failure, ← past.failure, Window.failure?, if_pos last]
    have result : parse limit source = .ok program := by
      rw [parse_eq opened, driven, Course.drive_eq, current, moved]
      rfl
    rw [result]
    exact .accepted fine tokens ends reached (ends ▸ moved)
  | refuse expected depthLimit =>
    have drive : (Course.between []).drive limit w =
        .failed (.syntactic ⟨expected, token.kind, token.position, depthLimit⟩) (.ready w') := by
      rw [driven, Course.drive_eq, current, moved, Course.carry, Course.refusal, current]
    have left : w' = ⟨front.reverse, token, none, (Scanner.ofText source).skip (front.length + 1)⟩ := by
      rw [past.eq, taken, current, scanner, List.append_nil]
      rfl
    rw [parse_eq opened, drive]
    refine .refused tokens reached moved ⟨⟨w, opened, ?_⟩, rfl, rfl⟩
    have agrees : (w.program limit).Agrees ((Course.between []).drive limit w) :=
      Window.program_agrees unseen
    rw [drive, left] at agrees
    exact agrees.eq_of_syntactic

end Start

/-- **Every text is parsed to a failure of the scanner, a program, or a token that does not fit.** -/
theorem parse_ends (limit : Int) (source : String) :
    Ends limit source (parse limit source) := by
  cases opened : Window.start (Scanner.ofText source) with
  | error e =>
    obtain ⟨tokens, failed⟩ := Window.start_eq_error opened
    have result : parse limit source = .error (.lexical e) := by
      rw [parse, opened]
    rw [result]
    have reached : follow (Course.move limit) (.between [])
        ((Scanner.ofText source).run.tokens.map Token.lexeme) = some (.between []) := by
      rw [tokens]
      rfl
    exact .lexical failed reached
  | ok w =>
    rcases follow_cases (Course.move limit) (.between []) (Scanner.ofText source).run.tokens with
      ⟨course, reached⟩ | ⟨front, token, back, course, tokens, reached, never⟩
    · exact ends_of_through opened reached
    · exact ends_of_stuck opened tokens reached never

end Program

end Calculator
