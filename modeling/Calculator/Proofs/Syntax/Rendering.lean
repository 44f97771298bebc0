/-
**The canonical text, turn by turn, and no other program with the same.**

* `Draft.advance`: so many turns.
* `Draft.exists_advance`: a draft that comes to a text meets no piece of an unknown sort, whatever is
  waiting; every turn keeps the text and takes one off the turns that are left.
* `Expr.two_mul_turns`: the turns grow with the size of the tree, however deep it is.
* `Program.text_inj`: programs whose numbers and names can be written at all are told apart by their
  texts.
* `Program.rendered_uniquely`: the two together, for every statement and for programs that were parsed.
-/

import Calculator.Proofs.Reading.Verdict
import Calculator.Proofs.Syntax.Reparse

namespace Calculator

/-! ### Turns -/

/-- **A tree is written in a number of turns that grows with its size alone.** -/
theorem Expr.two_mul_turns (value : Expr) : 2 * value.turns + 3 = 5 * value.size := by
  induction value with
  | number | reference => rfl
  | binary op left right ihLeft ihRight =>
    rw [turns, size]
    omega

theorem Statement.turns_lt (statement : Statement) : statement.turns < 3 * statement.size := by
  cases statement with
  | expression value =>
    have linear := value.two_mul_turns
    rw [turns, size]
    omega
  | assignment name value =>
    have linear := value.two_mul_turns
    rw [turns, size]
    omega

theorem Expr.turns_pos (value : Expr) : 0 < value.turns := by
  cases value <;> exact Nat.succ_pos _

theorem Piece.turns_pos (piece : Piece) : 0 < piece.turns := by
  match piece with
  | .text _ | .form (.program _) => exact Nat.one_pos
  | .form (.statement (.expression value)) => exact value.turns_pos
  | .form (.statement (.assignment _ _)) => exact Nat.succ_pos _

namespace Draft

/-- So many turns. -/
def advance : Nat → Draft → Except UnknownNode Draft
  | 0, draft => .ok draft
  | count + 1, draft => draft.turn.bind (advance count)

theorem waiting_eq_nil_iff {draft : Draft} : draft.waiting = [] ↔ draft.turns = 0 := by
  obtain ⟨written, waiting⟩ := draft
  cases waiting with
  | nil => exact iff_of_true rfl rfl
  | cons piece rest =>
    have positive := piece.turns_pos
    refine iff_of_false (List.cons_ne_nil _ _) ?_
    rw [turns, Piece.work]
    omega

variable {draft : Draft} {text : String}

/-- A draft that comes to a text goes on to one that comes to the same, with one turn fewer left. -/
theorem exists_turn (comes : draft.outcome = .ok text) :
    ∃ next, draft.turn = .ok next ∧ next.outcome = .ok text ∧ next.turns = draft.turns - 1 := by
  have same := draft.outcome_turn.trans comes
  cases turned : draft.turn with
  | error e =>
    rw [turned] at same
    cases same
  | ok next =>
    rw [turned] at same
    refine ⟨next, rfl, same, ?_⟩
    -- With nothing waiting, a turn stands still.
    by_cases nothing : draft.waiting = []
    · obtain ⟨written, waiting⟩ := draft
      cases nothing
      cases turned
      rfl
    · exact Nat.eq_sub_of_add_eq (turns_turn nothing turned)

/-- **No draft that comes to a text ever meets a piece of an unknown sort.** After any number of turns
it comes to the same text still, and so many turns fewer are left. -/
theorem exists_advance (comes : draft.outcome = .ok text) (count : Nat) :
    ∃ next, draft.advance count = .ok next ∧ next.outcome = .ok text ∧
      next.turns = draft.turns - count := by
  induction count generalizing draft with
  | zero => exact ⟨draft, rfl, comes, rfl⟩
  | succ count ih =>
    obtain ⟨next, turned, comesNext, fewer⟩ := exists_turn comes
    obtain ⟨last, advanced, comesLast, left⟩ := ih comesNext
    refine ⟨last, ?_, comesLast, ?_⟩
    · rw [advance, turned]
      exact advanced
    · rw [left, fewer, Nat.sub_sub, Nat.add_comm]

/-- What is written when nothing waits any more is what the draft comes to. -/
theorem join_written (comes : draft.outcome = .ok text) (nothing : draft.waiting = []) :
    String.join draft.written.reverse = text := by
  rw [outcome, nothing] at comes
  simpa [Piece.contents, Except.map] using comes

end Draft

/-- A form is shown as it is rendered. -/
theorem Form.shown_statement (statement : Statement) :
    (Form.statement statement).shown = statement.text := by
  match statement with
  | .expression (.number _) | .expression (.reference _) => rfl
  | .expression (.binary ..) | .assignment .. => exact spelled_eq_text _

/-! ### Programs -/

namespace Program

/-- **No two programs are written alike,** as far as their numbers and names can be written at all. The
text is scanned to the tokens of the canonical derivation, whatever its depth, and these have no
other. -/
theorem text_inj {program other : Program} (spellable : Spellable program.content)
    (spellableOther : Spellable other.content) (same : program.text = other.text) :
    program = other := by
  obtain ⟨tokens, scanned, lexemes⟩ := scanText_text spellable
  obtain ⟨tokens', scanned', lexemes'⟩ := scanText_text spellableOther
  obtain rfl : tokens = tokens' := Except.ok.inj (scanned.symm.trans (same ▸ scanned'))
  have derivation : program.sentence = other.sentence :=
    Sentence.lexemes_inj (lexemes.symm.trans lexemes')
  rw [← program.program_sentence, derivation, other.program_sentence]

/-- **Every statement is written piece by piece as the recursion says, and every program that was
parsed has a text of its own.** No number of turns meets a piece of an unknown sort; from a certain turn
on, and not before, nothing waits, with fewer than three turns for each node; and what is written then is
the recursive text. This is what rendering yields and what the statement is shown as; a whole program
is refused. Two programs have one text only if they are one, whatever the limits that they were parsed
under and whether or not these admit the text. -/
theorem rendered_uniquely :
    (∀ statement : Statement,
      (∀ count, ∃ draft, (Draft.start (.statement statement)).advance count = .ok draft ∧
        (draft.waiting = [] ↔ statement.turns ≤ count) ∧
        (draft.waiting = [] → String.join draft.written.reverse = statement.text)) ∧
      statement.turns < 3 * statement.size ∧
      (Form.statement statement).render = .ok statement.text ∧
      (Form.statement statement).shown = statement.text) ∧
    (∀ whole : Program, (Form.program whole).render = .error ⟨"Program"⟩) ∧
    ∀ (limit limit' : Int) (source source' : String) (program program' : Program),
      parse limit source = .ok program → parse limit' source' = .ok program' →
      (program.text = program'.text ↔ program = program') := by
  refine ⟨fun statement => ⟨fun count => ?_, ?_, ?_, ?_⟩, Form.render_program, ?_⟩
  · obtain ⟨draft, advanced, comes, left⟩ :=
      Draft.exists_advance (Draft.outcome_start statement) count
    refine ⟨draft, advanced, ?_, Draft.join_written comes⟩
    have whole : (Draft.start (.statement statement)).turns = statement.turns := rfl
    rw [Draft.waiting_eq_nil_iff, left, whole, Nat.sub_eq_zero_iff_le]
  · exact statement.turns_lt
  · exact Form.render_statement statement
  · exact Form.shown_statement statement
  · intro limit limit' source source' program program' parsed parsed'
    exact ⟨text_inj (spellable_of_parse parsed) (spellable_of_parse parsed'), congrArg text⟩

/-- The two ways of grouping `a - a - a`, parsed under the least limits that admit them, have two texts. -/
theorem rendered_uniquely_grouped :
    ∃ flat grouped, parse 0 "a-a-a" = .ok flat ∧ parse 1 "a-(a-a)" = .ok grouped ∧
      flat.text ≠ grouped.text := by
  have flatTokens : scanText "a-a-a" =
      .ok [⟨.identifier "a", 0⟩, ⟨.symbol .minus, 1⟩, ⟨.identifier "a", 2⟩, ⟨.symbol .minus, 3⟩,
        ⟨.identifier "a", 4⟩, ⟨.endOfInput, 5⟩] :=
    scanText_eq_ok_iff.mpr ⟨by decide +kernel, by decide +kernel⟩
  have groupedTokens : scanText "a-(a-a)" =
      .ok [⟨.identifier "a", 0⟩, ⟨.symbol .minus, 1⟩, ⟨.symbol .leftParen, 2⟩, ⟨.identifier "a", 3⟩,
        ⟨.symbol .minus, 4⟩, ⟨.identifier "a", 5⟩, ⟨.symbol .rightParen, 6⟩, ⟨.endOfInput, 7⟩] :=
    scanText_eq_ok_iff.mpr ⟨by decide +kernel, by decide +kernel⟩
  have flat : parse 0 "a-a-a" = .ok ⟨[.expression (.binary .subtract
      (.binary .subtract (.reference "a") (.reference "a")) (.reference "a"))]⟩ :=
    parse_of_verdict flatTokens rfl
  have grouped : parse 1 "a-(a-a)" = .ok ⟨[.expression (.binary .subtract (.reference "a")
      (.binary .subtract (.reference "a") (.reference "a")))]⟩ :=
    parse_of_verdict groupedTokens rfl
  refine ⟨_, _, flat, grouped, fun same => ?_⟩
  cases (rendered_uniquely.2.2 _ _ _ _ _ _ flat grouped).mp same

end Program

end Calculator
