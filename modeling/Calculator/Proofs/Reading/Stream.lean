/-
**The tokens that a window will show.**

* `Window.upcoming`, `Window.failure?`: the tokens from the current one on, and the failure that cuts
  them short.
* `Scanner.skip`: the cursor after so many tokens.
* `Window.Past`: one window is another with tokens let go, and nothing behind its current token has
  been scanned.
* `Course.exists_past`: a course that goes through tokens is driven past them.
* `Program.parse_eq`: what a text is parsed to, by the course that is driven.
-/

import Calculator.Proofs.Reading.Course
import Calculator.Proofs.Token.Written

namespace Calculator

/-! ### Windows on a run -/

/-- The cursor after so many tokens. -/
def Scanner.skip (s : Scanner) : Nat → Scanner
  | 0 => s
  | count + 1 => s.next.2.skip count

namespace Window

/-- The tokens from the current one on, as long as the next one has not been looked at. -/
def upcoming (w : Window) : List Token :=
  w.current :: if w.current.kind = .endOfInput then [] else w.scanner.run.tokens

/-- The failure behind the tokens that are upcoming. -/
def failure? (w : Window) : Option ScanError :=
  if w.current.kind = .endOfInput then none else w.scanner.run.failure

/-- A window on the next token of a scanner shows the run of the scanner. -/
theorem run_eq_upcoming {s after : Scanner} {token : Token} (read : s.next = (.ok token, after))
    (taken : List Token) :
    s.run.tokens = upcoming ⟨taken, token, none, after⟩ ∧
      s.run.failure = failure? ⟨taken, token, none, after⟩ := by
  unfold upcoming failure?
  dsimp only
  by_cases last : token.kind = .endOfInput
  · rw [if_pos last, if_pos last, Scanner.run_of_end read last]
    exact ⟨rfl, rfl⟩
  · rw [if_neg last, if_neg last, Scanner.run_of_token read last]
    exact ⟨rfl, rfl⟩

/-- The second window is the first with tokens let go, and no token scanned behind its current one. -/
structure Past (w : Window) (front : List Token) (w' : Window) : Prop where
  upcoming : w.upcoming = front ++ w'.upcoming
  failure : w'.failure? = w.failure?
  taken : w'.taken = front.reverse ++ w.taken
  unseen : w'.ahead = none
  scanner : w'.scanner = w.scanner.skip front.length

theorem Past.refl {w : Window} (unseen : w.ahead = none) : w.Past [] w :=
  ⟨rfl, rfl, rfl, unseen, rfl⟩

theorem Past.cons {w next last : Window} {front : List Token} (first : w.Past [w.current] next)
    (rest : next.Past front last) : w.Past (w.current :: front) last where
  upcoming := by rw [first.upcoming, rest.upcoming, List.singleton_append, List.cons_append]
  failure := rest.failure.trans first.failure
  taken := by
    rw [rest.taken, first.taken, List.reverse_singleton, List.reverse_cons, List.append_assoc]
  unseen := rest.unseen
  scanner := by
    rw [rest.scanner, first.scanner]
    rfl

theorem Past.eq {w w' : Window} {front : List Token} (past : w.Past front w') :
    w' = ⟨front.reverse ++ w.taken, w'.current, none, w.scanner.skip front.length⟩ := by
  rw [← past.taken, ← past.unseen, ← past.scanner]

/-- A token that is not the last is let go. -/
theorem exists_shift {w : Window} {token : Token} {back : List Token} (unseen : w.ahead = none)
    (upcoming : w.upcoming = w.current :: token :: back) :
    ∃ w', w.shift = .done w.current w' ∧ w.Past [w.current] w' := by
  have notEnd : w.current.kind ≠ .endOfInput := by
    intro last
    rw [Window.upcoming, if_pos last] at upcoming
    cases upcoming
  have failure : w.failure? = w.scanner.run.failure := if_neg notEnd
  rw [Window.upcoming, if_neg notEnd, List.cons.injEq] at upcoming
  rcases read : w.scanner.next with ⟨_ | found, after⟩
  · rw [Scanner.run_of_error read] at upcoming
    cases upcoming.2
  · obtain ⟨tokens, failures⟩ := run_eq_upcoming read (w.current :: w.taken)
    refine ⟨_, shift_of_ok unseen read, ?_, ?_, rfl, rfl, ?_⟩
    · rw [← tokens, Window.upcoming, if_neg notEnd, List.singleton_append]
    · rw [failure, failures]
    · rw [List.length_singleton, Scanner.skip, Scanner.skip, read]

/-- The last token before a failure cannot be let go. -/
theorem shift_failed {w : Window} {e : ScanError} (unseen : w.ahead = none)
    (upcoming : w.upcoming = [w.current]) (failed : w.failure? = some e) :
    ∃ reader, w.shift = .failed (.lexical e) reader := by
  have notEnd : w.current.kind ≠ .endOfInput := by
    intro last
    rw [failure?, if_pos last] at failed
    cases failed
  rw [Window.upcoming, if_neg notEnd, List.cons.injEq] at upcoming
  rw [failure?, if_neg notEnd] at failed
  rcases read : w.scanner.next with ⟨stray | found, after⟩
  · rw [Scanner.run_of_error read] at failed
    cases failed
    exact ⟨_, shift_of_error unseen read⟩
  · rw [(run_eq_upcoming read []).1, Window.upcoming] at upcoming
    cases upcoming.2

/-- Without a failure the last token is the end of input. -/
theorem kind_of_last {w : Window} (upcoming : w.upcoming = [w.current])
    (fine : w.failure? = none) : w.current.kind = .endOfInput := by
  refine Decidable.byContradiction fun notEnd => ?_
  rw [Window.upcoming, if_neg notEnd, List.cons.injEq] at upcoming
  rw [failure?, if_neg notEnd] at fine
  rcases read : w.scanner.next with ⟨stray | found, after⟩
  · rw [Scanner.run_of_error read] at fine
    cases fine
  · rw [(run_eq_upcoming read []).1, Window.upcoming] at upcoming
    cases upcoming.2

/-- The window on the start of a text shows the run over the text. -/
theorem start_eq_ok {s : Scanner} {w : Window} (opened : start s = .ok w) :
    s.run.tokens = w.upcoming ∧ s.run.failure = w.failure? ∧ w.taken = [] ∧ w.ahead = none ∧
      w.scanner = s.skip 1 := by
  unfold start at opened
  split at opened
  · next read =>
    cases opened
    obtain ⟨tokens, failure⟩ := run_eq_upcoming read []
    refine ⟨tokens, failure, rfl, rfl, ?_⟩
    rw [Scanner.skip, Scanner.skip, read]
  · cases opened

theorem start_eq_error {s : Scanner} {e : ScanError} (failed : start s = .error e) :
    s.run.tokens = [] ∧ s.run.failure = some e := by
  unfold start at failed
  split at failed
  · cases failed
  · next read =>
    cases failed
    rw [Scanner.run_of_error read]
    exact ⟨rfl, rfl⟩

end Window

/-! ### Driving past tokens -/

/-- **A course that goes through tokens is driven past them.** -/
theorem Course.exists_past {limit : Int} {course next : Course} {w : Window} {front back : List Token}
    {token : Token} (unseen : w.ahead = none) (upcoming : w.upcoming = front ++ token :: back)
    (reached : follow (Course.move limit) course (front.map Token.lexeme) = some next) :
    ∃ w', w.Past front w' ∧ w'.current = token ∧ course.drive limit w = next.drive limit w' := by
  induction front generalizing course w with
  | nil =>
    cases reached
    have here : w.current = token := (List.cons.inj upcoming).1
    exact ⟨w, .refl unseen, here, rfl⟩
  | cons first front ih =>
    have here : w.current = first := (List.cons.inj upcoming).1
    subst here
    obtain ⟨second, rest, split⟩ : ∃ second rest, front ++ token :: back = second :: rest := by
      cases front with
      | nil => exact ⟨_, _, rfl⟩
      | cons => exact ⟨_, _, rfl⟩
    rw [List.cons_append, split] at upcoming
    obtain ⟨w₁, gone, past⟩ := Window.exists_shift unseen upcoming
    obtain ⟨course₁, shifted, reached⟩ := follow_cons_eq_some reached
    have shown : w₁.upcoming = front ++ token :: back := by
      rw [past.upcoming, List.singleton_append, List.cons.injEq] at upcoming
      rw [upcoming.2, split]
    obtain ⟨w', further, current, driven⟩ := ih past.unseen shown reached
    refine ⟨w', past.cons further, current, ?_⟩
    rw [drive_eq, shifted, carry, gone]
    exact driven

/-! ### Parsing -/

/-- What a reading comes to. -/
def Reading.outcome {α : Type} : Reading α → Except ReadError α
  | .done value _ => .ok value
  | .failed error _ => .error error

theorem Reading.Agrees.outcome_eq {α : Type} {first second : Reading α}
    (agrees : first.Agrees second) : first.outcome = second.outcome := by
  cases agrees <;> rfl

/-- **What a text is parsed to is what driving the first course comes to.** -/
theorem Program.parse_eq {limit : Int} {source : String} {w : Window}
    (opened : Window.start (Scanner.ofText source) = .ok w) :
    Program.parse limit source = ((Course.between []).drive limit w).outcome := by
  obtain ⟨-, -, -, unseen, -⟩ := Window.start_eq_ok opened
  rw [← (Window.program_agrees unseen).outcome_eq, Program.parse, opened]
  dsimp only
  cases w.program limit <;> rfl

end Calculator
