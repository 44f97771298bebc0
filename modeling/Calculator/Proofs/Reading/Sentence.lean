/-
**Sentences lead to programs.**

* `Phrase.leads`, `Clause.leads`, `Sentence.leads`: the tokens of a derivation, nested no deeper than
  the limit, take a course from its start to its end, where the program derived is ready.
* `Course.Stands`: a course goes on as if the expression had been read from a place on, also where
  it cannot know yet whether a name is assigned to; `Course.Stands.move_cases`: only the start of a
  statement tells the two apart.
* `Course.Completes`: a course has a statement ready, and a semicolon or the end of input takes it.
-/

import Calculator.Proofs.Grammar.Unique
import Calculator.Proofs.Reading.Course
import Calculator.Proofs.Reading.Phrase

namespace Calculator

/-! ### Sentences lead to programs -/

/-- The course goes on as if the expression had been read from the place on. -/
inductive Course.Stands : Course → List Statement → Option String → Place → Prop
  | between (done : List Statement) : Stands (.between done) done none .start
  | named (done : List Statement) (name : String) : Stands (.named done name) done none (.named name)
  | inside (done : List Statement) (target : Option String) (place : Place) :
      Stands (.inside done target place) done target place

theorem Place.Shifts.inExpression {limit : Int} {place next : Place} {lexeme : Lexeme}
    (shifts : place.Shifts limit lexeme next) : lexeme.InExpression := by
  cases shifts with
  | number | reference | enter | leave => exact True.intro
  | multiply | add => exact Operator.inExpression_lexeme _

namespace Course

/-- Every course goes on as from some place. -/
theorem exists_stands (course : Course) : ∃ done target place, course.Stands done target place := by
  cases course with
  | between done => exact ⟨_, _, _, .between done⟩
  | named done name => exact ⟨_, _, _, .named done name⟩
  | inside done target place => exact ⟨_, _, _, .inside done target place⟩

/-- What tokens do at the start of a statement and nowhere else. -/
inductive Opens : Course → Lexeme → Move Course Program → Prop
  | last (done : List Statement) : Opens (.between done) .endOfInput (.stop ⟨done.reverse⟩)
  | name (done : List Statement) (name : String) :
      Opens (.between done) (.identifier name) (.shift (.named done name))
  | assign (done : List Statement) (name : String) :
      Opens (.named done name) (.symbol .assign) (.shift (.inside done (some name) .start))

variable {limit : Int} {course : Course} {done : List Statement} {target : Option String}
  {place : Place}

/-- **The start of a statement apart, a token does what it does within an expression.** -/
theorem Stands.move_cases (stands : course.Stands done target place) (lexeme : Lexeme) :
    (∀ limit, course.move limit lexeme = insideMove limit done target place lexeme) ∨
    ∃ move, course.Opens lexeme move ∧ ∀ limit, course.move limit lexeme = move := by
  cases stands with
  | inside => exact .inl fun _ => rfl
  | named done name =>
    by_cases assigned : lexeme = .symbol .assign
    · subst assigned
      exact .inr ⟨_, .assign done name, fun _ => rfl⟩
    · exact .inl fun _ => if_neg assigned
  | between done =>
    cases lexeme with
    | number | symbol => exact .inl fun _ => rfl
    | identifier name => exact .inr ⟨_, .name done name, fun _ => rfl⟩
    | endOfInput => exact .inr ⟨_, .last done, fun _ => rfl⟩

/-- A token that is let go at the place is let go by the course. -/
theorem Stands.shift {next : Place} {lexeme : Lexeme} (stands : course.Stands done target place)
    (shifts : place.Shifts limit lexeme next) :
    ∃ course', course.move limit lexeme = .shift course' ∧ course'.Stands done target next := by
  rcases stands.move_cases lexeme with inside | ⟨move, opens, same⟩
  · exact ⟨_, (inside limit).trans (insideMove_of_shifts shifts), .inside ..⟩
  · cases opens with
    | last => exact shifts.inExpression.elim
    | assign => exact shifts.inExpression.elim
    | name done name =>
      cases stands
      cases shifts
      exact ⟨_, same limit, .named ..⟩

/-- Tokens that lead from place to place lead the course along. -/
theorem Stands.along {last : Place} {lexemes : List Lexeme}
    (stands : course.Stands done target place)
    (reached : follow (Place.move limit) place lexemes = some last) :
    ∃ course', follow (Course.move limit) course lexemes = some course' ∧
      course'.Stands done target last := by
  induction lexemes generalizing course place with
  | nil =>
    cases reached
    exact ⟨course, rfl, stands⟩
  | cons lexeme lexemes ih =>
    obtain ⟨next, shifted, rest⟩ := follow_cons_eq_some reached
    obtain ⟨course', moved, stands⟩ := stands.shift (Place.move_eq_shift_iff.mp shifted)
    rw [follow_cons moved]
    exact ih stands rest

/-- What ends a statement ends the reading of its expression. -/
theorem place_move_of_endsClause {level : Level} {factor : Expr} {mark : Lexeme}
    (ends : mark.EndsClause) :
    Place.move limit ⟨[], level, .operator factor⟩ mark = .stop (Place.total level factor) := by
  match mark with
  | .symbol .semicolon | .endOfInput => rfl

/-- What ends a statement ends it for the course. -/
theorem Stands.finish {level : Level} {factor : Expr} {mark : Lexeme}
    (stands : course.Stands done target ⟨[], level, .operator factor⟩) (ends : mark.EndsClause) :
    course.move limit mark =
      endMove (Statement.ofTarget target (Place.total level factor) :: done) mark := by
  rcases stands.move_cases mark with inside | ⟨move, opens, -⟩
  · rw [inside, insideMove, place_move_of_endsClause ends]
  · cases opens with
    | last => cases stands
    | name => exact ends.elim
    | assign => exact ends.elim

end Course

/-- Before what ends a statement, the course has the statement. -/
def Course.Completes (limit : Int) (course : Course) (done : List Statement) : Prop :=
  ∀ mark : Lexeme, mark.EndsClause → course.move limit mark = endMove done mark

/-- The expression of a statement leads from its start to its end. -/
theorem Course.Stands.completes {limit : Int} {course : Course} {done : List Statement}
    {target : Option String} (stands : course.Stands done target .start)
    (value : Phrase .expression) (fits : value.nesting ≤ limit.toNat) :
    ∃ course', follow (Course.move limit) course value.lexemes = some course' ∧
      course'.Completes limit (Statement.ofTarget target value.tree :: done) := by
  have room : ([] : List Level).length + value.nesting ≤ limit.toNat := by
    rwa [List.length_nil, Nat.zero_add]
  obtain ⟨level, factor, reached, tree⟩ := value.leads room
  obtain ⟨course', followed, stands⟩ := stands.along reached
  refine ⟨course', followed, fun mark ends => ?_⟩
  rw [stands.finish ends, tree]

/-- **A statement that nests no deeper than the limit leads to its end.** -/
theorem Clause.leads {limit : Int} (clause : Clause) (fits : clause.nesting ≤ limit.toNat)
    (done : List Statement) :
    ∃ course, follow (Course.move limit) (.between done) clause.lexemes = some course ∧
      course.Completes limit (clause.statement :: done) := by
  cases clause with
  | expression value => exact (Course.Stands.between done).completes value fits
  | assignment name value =>
    obtain ⟨course, reached, completes⟩ :=
      (Course.Stands.inside done (some name) .start).completes value fits
    exact ⟨course, reached, completes⟩

/-- The tokens behind a statement lead to the end of the program. -/
theorem Sentence.leads_ending {limit : Int} {done : List Statement} {course : Course}
    (completes : course.Completes limit done) (rest : List Clause)
    (fits : ∀ clause ∈ rest, clause.nesting ≤ limit.toNat) (closed : Bool) :
    ∃ last, follow (Course.move limit) course
        (rest.flatMap Clause.later ++ if closed then [.symbol .semicolon] else []) = some last ∧
      last.move limit .endOfInput = .stop ⟨done.reverse ++ rest.map Clause.statement⟩ := by
  have between : course.move limit (.symbol .semicolon) = .shift (.between done) :=
    completes _ True.intro
  induction rest generalizing course done with
  | nil =>
    rw [List.map_nil, List.append_nil]
    cases closed with
    | false => exact ⟨course, rfl, completes _ True.intro⟩
    | true => exact ⟨.between done, follow_cons between, rfl⟩
  | cons clause rest ih =>
    obtain ⟨fitsFirst, fitsRest⟩ := List.forall_mem_cons.mp fits
    obtain ⟨next, reached, completes⟩ := clause.leads fitsFirst done
    obtain ⟨last, reachedLast, stopped⟩ :=
      ih completes fitsRest (completes _ True.intro)
    refine ⟨last, ?_, ?_⟩
    · rw [List.flatMap_cons, Clause.later, List.append_assoc, List.cons_append,
        follow_cons between, follow_append reached, reachedLast]
    · rw [stopped, List.reverse_cons, List.append_assoc, List.map_cons, List.singleton_append]

/-- **A sentence that nests no deeper than the limit leads to its program.** -/
theorem Sentence.leads {limit : Int} {sentence : Sentence} (within : sentence.Within limit) :
    ∃ body course, sentence.lexemes = body ++ [.endOfInput] ∧
      follow (Course.move limit) (.between []) body = some course ∧
      course.move limit .endOfInput = .stop sentence.program := by
  cases sentence with
  | empty => exact ⟨[], .between [], rfl, rfl, rfl⟩
  | clauses start rest closed =>
    obtain ⟨fitsStart, fitsRest⟩ := List.forall_mem_cons.mp within
    obtain ⟨course, reached, completes⟩ := start.leads fitsStart []
    obtain ⟨last, reachedLast, stopped⟩ := leads_ending completes rest fitsRest closed
    refine ⟨_, last, rfl, ?_, stopped⟩
    rw [List.append_assoc, follow_append reached, reachedLast]

end Calculator
