/-
**What the limit on parentheses changes.**

* `Course.move_mono`: a token that is let go under a limit is let go under a larger one.
* `Course.move_congr`: a token that opens no operand's parenthesis does not meet the limit.
* `Sentence.refused_leftParen`: a sentence is refused at a parenthesis, and for its depth only.
* `Program.Ends.of_sentence`: a text whose tokens are those of a sentence is parsed to its program, or
  refused at the first parenthesis that nests too deep.
-/

import Calculator.Proofs.Reading.Acceptance
import Calculator.Proofs.Reading.Depth

namespace Calculator

section Move

variable {limit limit' : Int} {place : Place} {lexeme : Lexeme}

/-! ### Larger limits -/

theorem Place.Shifts.mono {next : Place} (larger : limit.toNat ≤ limit'.toNat)
    (shifts : place.Shifts limit lexeme next) : place.Shifts limit' lexeme next := by
  cases shifts with
  | number => exact .number _
  | reference => exact .reference _
  | enter room => exact .enter (Nat.lt_of_lt_of_le room larger)
  | multiply binds => exact .multiply binds
  | add binds => exact .add binds
  | leave => exact .leave _

/-- A parenthesis is let go where fewer are open than may be. -/
theorem Place.Shifts.room {next : Place} (shifts : place.Shifts limit lexeme next)
    (opens : lexeme = .symbol .leftParen) : place.outer.length < limit.toNat := by
  cases shifts with
  | enter room => exact room
  | number | reference | leave => cases opens
  | @multiply _ _ _ op | @add _ _ _ op => cases op <;> cases opens

/-- The limit is met by parentheses that stand for an operand, and by nothing else. -/
theorem Place.move_congr (limit' : Int)
    (other : ¬ (lexeme = .symbol .leftParen ∧ place.phase = .operand)) :
    place.move limit lexeme = place.move limit' lexeme := by
  obtain ⟨outer, level, phase⟩ := place
  cases phase with
  | operator => rfl
  | operand =>
    match lexeme with
    | .number _ | .identifier _ | .endOfInput => rfl
    | .symbol which =>
      cases which with
      | leftParen => exact absurd ⟨rfl, rfl⟩ other
      | _ => rfl

namespace Course

variable {course next : Course} {done : List Statement} {target : Option String}

theorem insideMove_mono (larger : limit.toNat ≤ limit'.toNat)
    (shifted : insideMove limit done target place lexeme = .shift next) :
    insideMove limit' done target place lexeme = .shift next := by
  rcases insideMove_eq_shift shifted with ⟨place', shifts, rfl⟩ | ⟨level, factor, rfl, rfl, rfl⟩
  · exact insideMove_of_shifts (shifts.mono larger)
  · rfl

/-- **A token that is let go under a limit is let go under a larger one.** -/
theorem move_mono (larger : limit.toNat ≤ limit'.toNat)
    (shifted : course.move limit lexeme = .shift next) :
    course.move limit' lexeme = .shift next := by
  obtain ⟨done, target, place, stands⟩ := course.exists_stands
  rcases stands.move_cases lexeme with inside | ⟨move, -, same⟩
  · rw [inside] at shifted ⊢
    exact insideMove_mono larger shifted
  · rw [same] at shifted ⊢
    exact shifted

theorem follow_mono {lexemes : List Lexeme} (larger : limit.toNat ≤ limit'.toNat)
    (reached : follow (move limit) course lexemes = some next) :
    follow (move limit') course lexemes = some next := by
  induction lexemes generalizing course with
  | nil => exact reached
  | cons lexeme lexemes ih =>
    obtain ⟨middle, shifted, rest⟩ := follow_cons_eq_some reached
    rw [follow_cons (move_mono larger shifted)]
    exact ih rest

/-- **A token that opens no operand's parenthesis does not meet the limit.** -/
theorem move_congr (limit' : Int) (stands : course.Stands done target place)
    (other : ¬ (lexeme = .symbol .leftParen ∧ place.phase = .operand)) :
    course.move limit lexeme = course.move limit' lexeme := by
  rcases stands.move_cases lexeme with inside | ⟨move, -, same⟩
  · rw [inside, inside, insideMove, insideMove, Place.move_congr limit' other]
  · rw [same, same]

/-- A parenthesis is let go where fewer are open than may be. -/
theorem lt_of_shift_leftParen (shifted : course.move limit (.symbol .leftParen) = .shift next) :
    course.depth < limit.toNat := by
  obtain ⟨done, target, place, stands⟩ := course.exists_stands
  rcases stands.move_cases (.symbol .leftParen) with inside | ⟨move, opens, -⟩
  · rw [inside] at shifted
    rw [stands.depth_eq]
    rcases insideMove_eq_shift shifted with ⟨place', shifts, -⟩ | ⟨-, -, -, semicolon, -⟩
    · exact shifts.room rfl
    · cases semicolon
  · cases opens

end Course

end Move

/-! ### Sentences under a limit -/

theorem Clause.exists_nesting_le (clauses : List Clause) :
    ∃ bound, ∀ clause ∈ clauses, clause.nesting ≤ bound := by
  induction clauses with
  | nil => exact ⟨0, List.forall_mem_nil _⟩
  | cons clause clauses ih =>
    obtain ⟨bound, below⟩ := ih
    refine ⟨max clause.nesting bound, List.forall_mem_cons.mpr ⟨Nat.le_max_left .., ?_⟩⟩
    exact fun other member => Nat.le_trans (below other member) (Nat.le_max_right ..)

/-- Every sentence keeps to some limit. -/
theorem Sentence.exists_within (sentence : Sentence) :
    ∃ bound : Nat, ∀ limit : Int, bound ≤ limit.toNat → sentence.Within limit := by
  cases sentence with
  | empty => exact ⟨0, fun _ _ => True.intro⟩
  | clauses start rest closed =>
    obtain ⟨bound, below⟩ := Clause.exists_nesting_le (start :: rest)
    exact ⟨bound, fun limit larger clause member => Nat.le_trans (below clause member) larger⟩

section Sentence

variable {limit : Int} {sentence : Sentence} {front back : List Lexeme} {lexeme : Lexeme}
  {course : Course} {expected : Expectation} {depthLimit : Option Int}

/-- **A sentence is refused at a parenthesis, and for its depth only.** -/
theorem Sentence.refused_leftParen (lexemes : sentence.lexemes = front ++ lexeme :: back)
    (reached : follow (Course.move limit) (.between []) front = some course)
    (refused : course.move limit lexeme = .refuse expected depthLimit) :
    expected = .operand ∧ depthLimit = some limit ∧ lexeme = .symbol .leftParen ∧
      limit ≤ course.depth := by
  obtain ⟨done, target, place, stands⟩ := course.exists_stands
  rcases stands.refuse_iff refused with ⟨operand, depth, opens, -, deep⟩ | ⟨-, other⟩
  · exact ⟨operand, depth, opens, deep⟩
  · -- Under a limit that the sentence keeps to, the token is refused as well.
    obtain ⟨bound, within⟩ := sentence.exists_within
    let wide : Int := (max bound limit.toNat : Nat)
    have larger : limit.toNat ≤ wide.toNat := Nat.le_max_right ..
    have viable : Viable wide (front ++ [lexeme]) := by
      refine ⟨sentence, within wide (Nat.le_max_left ..), back, ?_⟩
      rw [lexemes, List.append_assoc, List.singleton_append]
    rw [Course.move_congr wide stands other] at refused
    exact absurd viable (not_viable_of_refuse (Course.follow_mono larger reached) refused)

end Sentence

/-- Tokens that a course lets go do not nest too deep. -/
theorem tooDeepToken?_of_follow {limit : Int} {course next : Course} {front : List Token}
    (back : List Token)
    (reached : follow (Course.move limit) course (front.map Token.lexeme) = some next) :
    tooDeepToken? limit course.depth (front ++ back) = tooDeepToken? limit next.depth back := by
  induction front generalizing course with
  | nil =>
    cases reached
    rfl
  | cons token front ih =>
    obtain ⟨middle, shifted, rest⟩ := follow_cons_eq_some reached
    have fits : ¬ (token.lexeme = .symbol .leftParen ∧ limit ≤ course.depth) := by
      rintro ⟨opens, deep⟩
      rw [opens] at shifted
      have room := Course.lt_of_shift_leftParen shifted
      omega
    rw [List.cons_append, tooDeepToken?, if_neg fits, ← Course.depth_shift shifted, ih rest]

namespace Program

/-- The refusal of a parenthesis for its depth. -/
def nestingError (limit : Int) (position : Nat) : ReadError :=
  .syntactic ⟨.operand, .symbol .leftParen, position, some limit⟩

/-- **A sentence that keeps to the limit is parsed to its program, and any other is refused at the
first parenthesis that nests too deep.** -/
theorem Ends.of_sentence {limit : Int} {source : String} {result : Except ReadError Program}
    {tokens : List Token} {sentence : Sentence} (ends : Ends limit source result)
    (scanned : scanText source = .ok tokens)
    (lexemes : tokens.map Token.lexeme = sentence.lexemes) :
    (sentence.Within limit ∧ result = .ok sentence.program) ∨
    (¬ sentence.Within limit ∧ ∃ position, tooDeepToken? limit 0 tokens = some position ∧
      result = .error (nestingError limit position)) := by
  by_cases within : sentence.Within limit
  · exact .inl ⟨within, ends.eq_ok scanned lexemes.symm within⟩
  · refine .inr ⟨within, ?_⟩
    obtain ⟨fine, rfl⟩ := scanText_eq_ok_iff.mp scanned
    cases ends with
    | lexical failed =>
      rw [fine] at failed
      cases failed
    | @accepted front last _ _ _ tokens ends reached stopped =>
      obtain ⟨other, lexemes', within', -⟩ := accepts_iff.mp ⟨_, reached, stopped⟩
      rw [tokens, List.map_append, List.map_singleton, ends, ← lexemes'] at lexemes
      exact absurd (Sentence.lexemes_inj lexemes ▸ within') within
    | @refused front back token course error tokens reached refused refusal =>
      rw [tokens, List.map_append, List.map_cons] at lexemes
      obtain ⟨operand, depth, opens, deep⟩ :=
        Sentence.refused_leftParen lexemes.symm reached refused
      refine ⟨token.position, ?_, ?_⟩
      · rw [tokens]
        have passed := tooDeepToken?_of_follow (token :: back) reached
        exact passed.trans (if_pos ⟨opens, deep⟩)
      · have actual : error.actual = .symbol .leftParen := by
          rw [refusal.actual, Token.kind, opens, Lexeme.kind]
        rw [nestingError, ← operand, ← depth, ← actual, ← refusal.position]

end Program

end Calculator
