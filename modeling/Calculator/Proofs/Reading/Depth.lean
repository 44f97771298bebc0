/-
**How deep parentheses are open.**

* `Course.depth_eq`: a course has as many levels around it as its tokens leave parentheses open.
* `OperandDue`: a number could follow the tokens.
* `Course.refusal_tooDeep_iff`: a token is refused for its depth if and only if it opens a parenthesis
  where an operand is due and as many are open already as may be.
-/

import Calculator.Proofs.Reading.Viable
import Calculator.Proofs.Token.Parentheses

namespace Calculator

/-! ### Levels -/

theorem Operator.opening_lexeme (op : Operator) : op.lexeme.opening = 0 := by
  cases op <;> rfl

/-- How many parentheses are open around a course. -/
def Course.depth : Course → Nat
  | .between _ => 0
  | .named _ _ => 0
  | .inside _ _ place => place.outer.length

theorem Place.Shifts.length_outer {limit : Int} {place next : Place} {lexeme : Lexeme}
    (shifts : place.Shifts limit lexeme next) :
    (next.outer.length : Int) = place.outer.length + lexeme.opening := by
  cases shifts with
  | number | reference => exact (Int.add_zero _).symm
  | enter => exact Int.natCast_succ _
  | @leave outer around level factor =>
    show (outer.length : Int) = ((around :: outer).length : Int) + -1
    rw [List.length_cons]
    omega
  | multiply | add =>
    rw [Operator.opening_lexeme]
    exact (Int.add_zero _).symm

namespace Course

variable {limit : Int} {done : List Statement} {target : Option String} {place : Place}
  {course : Course} {lexeme : Lexeme}

theorem Stands.depth_eq (stands : course.Stands done target place) :
    course.depth = place.outer.length := by
  cases stands <;> rfl

/-- A token that is let go moves the depth by what it opens or closes. -/
theorem depth_shift {next : Course} (shifted : course.move limit lexeme = .shift next) :
    (next.depth : Int) = course.depth + lexeme.opening := by
  obtain ⟨done, target, place, stands⟩ := course.exists_stands
  rcases stands.move_cases lexeme with inside | ⟨move, opens, same⟩
  · rw [inside] at shifted
    rw [stands.depth_eq]
    rcases insideMove_eq_shift shifted with ⟨place', shifts, rfl⟩ | ⟨level, factor, rfl, rfl, rfl⟩
    · exact shifts.length_outer
    · rfl
  · rw [same] at shifted
    cases opens with
    | last => cases shifted
    | name | assign =>
      cases shifted
      rfl

/-- **A course has as many levels around it as its tokens leave parentheses open.** -/
theorem depth_eq {lexemes : List Lexeme}
    (reached : follow (Course.move limit) (.between []) lexemes = some course) :
    (course.depth : Int) = openParens lexemes := by
  have start : ((between []).depth : Int) = openParens [] := rfl
  refine follow_invariant (fun course lexemes => (course.depth : Int) = openParens lexemes)
    (fun course lexemes lexeme next depth shifted => ?_) start reached
  rw [depth_shift shifted, depth, openParens_concat]

end Course

/-! ### Refusals -/

/-- A number could follow the tokens. -/
def OperandDue (limit : Int) (lexemes : List Lexeme) : Prop :=
  ∃ value, Viable limit (lexemes ++ [.number value])

/-- The token opens a parenthesis where an operand is due, and as many are open as may be. -/
def TooDeep (limit : Int) (before : List Lexeme) (lexeme : Lexeme) : Prop :=
  lexeme = .symbol .leftParen ∧ OperandDue limit before ∧ limit ≤ openParens before

theorem Place.refuse_iff {limit : Int} {place : Place} {lexeme : Lexeme} {expected : Expectation}
    {depthLimit : Option Int} (refused : place.move limit lexeme = .refuse expected depthLimit) :
    (expected = .operand ∧ depthLimit = some limit ∧ lexeme = .symbol .leftParen ∧
      place.phase = .operand ∧ limit ≤ place.outer.length) ∨
    (depthLimit = none ∧ ¬ (lexeme = .symbol .leftParen ∧ place.phase = .operand)) := by
  obtain ⟨outer, level, phase⟩ := place
  cases phase with
  | operand =>
    change operandMove limit outer level lexeme = _ at refused
    unfold operandMove at refused
    split at refused
    · cases refused
    · cases refused
    · split at refused
      · next deep =>
        cases refused
        exact .inl ⟨rfl, rfl, rfl, rfl, deep⟩
      · cases refused
    · next other =>
      cases refused
      exact .inr ⟨rfl, fun both => other both.1⟩
  | operator factor =>
    change operatorMove outer level factor lexeme = _ at refused
    refine .inr ⟨?_, fun both => nomatch both.2⟩
    unfold operatorMove at refused
    dsimp only at refused
    split at refused
    · cases refused
    · split at refused
      · cases refused
      · unfold closeMove at refused
        split at refused
        · cases refused
        · split at refused <;> cases refused
          rfl

namespace Course

variable {limit : Int} {done : List Statement} {target : Option String} {place : Place}
  {course : Course} {before : List Lexeme} {lexeme : Lexeme} {expected : Expectation}
  {depthLimit : Option Int}

/-- A token that is refused is refused as it is within an expression. -/
theorem Stands.refuse_inside (stands : course.Stands done target place)
    (refused : course.move limit lexeme = .refuse expected depthLimit) :
    insideMove limit done target place lexeme = .refuse expected depthLimit := by
  rcases stands.move_cases lexeme with inside | ⟨move, opens, same⟩
  · exact (inside limit).symm.trans refused
  · rw [same] at refused
    cases opens <;> cases refused

theorem Stands.refuse_iff (stands : course.Stands done target place)
    (refused : course.move limit lexeme = .refuse expected depthLimit) :
    (expected = .operand ∧ depthLimit = some limit ∧ lexeme = .symbol .leftParen ∧
      place.phase = .operand ∧ limit ≤ course.depth) ∨
    (depthLimit = none ∧ ¬ (lexeme = .symbol .leftParen ∧ place.phase = .operand)) := by
  have inside := stands.refuse_inside refused
  rw [stands.depth_eq]
  unfold insideMove at inside
  split at inside
  · cases inside
  · next stopped =>
    obtain ⟨level, factor, rfl, rfl⟩ := Place.eq_of_move_stop stopped
    refine .inr ⟨?_, fun both => nomatch both.2⟩
    unfold endMove at inside
    split at inside <;> cases inside
    rfl
  · next refusedHere =>
    cases inside
    exact Place.refuse_iff refusedHere

/-- A number is refused behind a factor. -/
theorem Stands.exists_refuse_number {factor : Expr} (stands : course.Stands done target place)
    (behind : place.phase = .operator factor) (value : Float) :
    ∃ expected depthLimit, course.move limit (.number value) = .refuse expected depthLimit := by
  obtain ⟨outer, level, phase⟩ := place
  cases behind
  have inside : ∃ expected depthLimit, insideMove limit done target ⟨outer, level, .operator factor⟩
      (.number value) = .refuse expected depthLimit := by
    cases outer <;> exact ⟨_, _, rfl⟩
  cases stands with
  | inside => exact inside
  | named done name => exact inside

/-- **A number could follow the tokens of a course if and only if it waits for an operand.** -/
theorem Stands.operandDue_iff (stands : course.Stands done target place)
    (reached : follow (Course.move limit) (.between []) before = some course) :
    OperandDue limit before ↔ place.phase = .operand := by
  constructor
  · rintro ⟨value, viable⟩
    cases behind : place.phase with
    | operand => rfl
    | operator factor =>
      obtain ⟨expected, depthLimit, refused⟩ := stands.exists_refuse_number behind value
      exact absurd viable (not_viable_of_refuse reached refused)
  · intro waits
    obtain ⟨outer, level, phase⟩ := place
    cases waits
    have shifts : Place.Shifts limit ⟨outer, level, .operand⟩ (.number 0) _ := .number 0
    obtain ⟨next, shifted, -⟩ := stands.shift shifts
    exact ⟨0, viable_of_shift reached shifted⟩

/-- **A token is refused for its depth if and only if it is too deep**, and no refusal for depth names
another limit. -/
theorem refusal_tooDeep_iff (reached : follow (Course.move limit) (.between []) before = some course)
    (refused : course.move limit lexeme = .refuse expected depthLimit) :
    (depthLimit = some limit ↔ TooDeep limit before lexeme) ∧
      (depthLimit = none ↔ ¬ TooDeep limit before lexeme) := by
  obtain ⟨done, target, place, stands⟩ := course.exists_stands
  have due := stands.operandDue_iff reached
  have depth := depth_eq reached
  rcases stands.refuse_iff refused with ⟨-, rfl, rfl, waits, deep⟩ | ⟨rfl, other⟩
  · have tooDeep : TooDeep limit before (.symbol .leftParen) :=
      ⟨rfl, due.mpr waits, depth ▸ deep⟩
    exact ⟨⟨fun _ => tooDeep, fun _ => rfl⟩, nofun, fun fine => absurd tooDeep fine⟩
  · have fine : ¬ TooDeep limit before lexeme :=
      fun tooDeep => other ⟨tooDeep.1, due.mp tooDeep.2.1⟩
    exact ⟨⟨nofun, fun tooDeep => absurd tooDeep fine⟩, fun _ => fine, fun _ => rfl⟩

end Course

end Calculator
