/-
**Beginnings of sentences.**

* `Viable`: tokens with which a sentence begins that nests no deeper than the limit.
* `Course.exists_completion`: every course can be taken to its end.
* `accepts_iff`: tokens take a course to its end if and only if they are those of a sentence.
* `viable_iff`: tokens are the beginning of a sentence if and only if a course goes through them.
* `not_viable_of_refuse`: a token that is refused begins no sentence with those before it.
-/

import Calculator.Proofs.Reading.Spelling

namespace Calculator

/-- The tokens begin a sentence that nests no deeper than the limit. -/
def Viable (limit : Int) (lexemes : List Lexeme) : Prop :=
  ∃ sentence : Sentence, sentence.Within limit ∧ lexemes <+: sentence.lexemes

/-! ### Completions -/

theorem Place.exists_way_out_operator (limit : Int) (outer : List Level) (level : Level)
    (factor : Expr) :
    ∃ lexemes level' factor',
      follow (Place.move limit) ⟨outer, level, .operator factor⟩ lexemes =
        some ⟨[], level', .operator factor'⟩ := by
  induction outer generalizing level factor with
  | nil => exact ⟨[], level, factor, rfl⟩
  | cons around outer ih =>
    obtain ⟨lexemes, level', factor', reached⟩ := ih around (Place.total level factor)
    have shifted : Place.move limit ⟨around :: outer, level, .operator factor⟩
        (.symbol .rightParen) = .shift ⟨outer, around, .operator (Place.total level factor)⟩ :=
      Place.move_eq_shift_iff.mpr (.leave around)
    exact ⟨_, level', factor', (follow_cons shifted).trans reached⟩

/-- Every place can be left behind a factor and outside all parentheses. -/
theorem Place.exists_way_out (limit : Int) (place : Place) :
    ∃ lexemes level factor,
      follow (Place.move limit) place lexemes = some ⟨[], level, .operator factor⟩ := by
  obtain ⟨outer, level, phase⟩ := place
  cases phase with
  | operator factor => exact exists_way_out_operator limit outer level factor
  | operand =>
    obtain ⟨lexemes, level', factor', reached⟩ :=
      exists_way_out_operator limit outer level (.number 0)
    have shifted : Place.move limit ⟨outer, level, .operand⟩ (.number 0) =
        .shift ⟨outer, level, .operator (.number 0)⟩ := Place.move_eq_shift_iff.mpr (.number 0)
    exact ⟨_, level', factor', (follow_cons shifted).trans reached⟩

/-- **Every course can be taken to its end.** -/
theorem Course.exists_completion (limit : Int) (course : Course) :
    ∃ lexemes last program, follow (Course.move limit) course lexemes = some last ∧
      last.move limit .endOfInput = .stop program := by
  obtain ⟨done, target, place, stands⟩ := course.exists_stands
  obtain ⟨lexemes, level, factor, reached⟩ := place.exists_way_out limit
  obtain ⟨last, followed, stands⟩ := stands.along reached
  exact ⟨lexemes, last, _, followed, stands.finish True.intro⟩

/-! ### Acceptance -/

/-- **Tokens take a course to its end if and only if they are those of a sentence.** -/
theorem accepts_iff {limit : Int} {body : List Lexeme} {program : Program} :
    (∃ course, follow (Course.move limit) (.between []) body = some course ∧
      course.move limit .endOfInput = .stop program) ↔
    ∃ sentence : Sentence, sentence.lexemes = body ++ [.endOfInput] ∧ sentence.Within limit ∧
      sentence.program = program := by
  constructor
  · rintro ⟨course, reached, stopped⟩
    exact (Course.spells_of_follow reached).stop stopped
  · rintro ⟨sentence, lexemes, within, rfl⟩
    obtain ⟨body', course, lexemes', reached, stopped⟩ := sentence.leads within
    rw [lexemes] at lexemes'
    obtain ⟨rfl, -⟩ := List.append_inj' lexemes' rfl
    exact ⟨course, reached, stopped⟩

/-- **Tokens begin a sentence if and only if a course goes through them, or ends with the last.** -/
theorem viable_iff {limit : Int} {lexemes : List Lexeme} :
    Viable limit lexemes ↔
      (∃ course, follow (Course.move limit) (.between []) lexemes = some course) ∨
      ∃ body course program, lexemes = body ++ [.endOfInput] ∧
        follow (Course.move limit) (.between []) body = some course ∧
        course.move limit .endOfInput = .stop program := by
  constructor
  · rintro ⟨sentence, within, begins⟩
    obtain ⟨body, course, same, reached, stopped⟩ := sentence.leads within
    rw [same] at begins
    rcases List.prefix_concat_iff.mp begins with whole | ⟨rest, rfl⟩
    · exact .inr ⟨body, course, _, whole, reached, stopped⟩
    · obtain ⟨middle, reached, -⟩ := follow_append_eq_some reached
      exact .inl ⟨middle, reached⟩
  · rintro (⟨course, reached⟩ | ⟨body, course, program, rfl, reached, stopped⟩)
    · obtain ⟨rest, last, program, followed, stopped⟩ := course.exists_completion limit
      have whole := (follow_append reached).trans followed
      obtain ⟨sentence, same, within, -⟩ := (Course.spells_of_follow whole).stop stopped
      refine ⟨sentence, within, rest ++ [.endOfInput], ?_⟩
      rw [same, List.append_assoc]
    · obtain ⟨sentence, same, within, -⟩ := (Course.spells_of_follow reached).stop stopped
      exact ⟨sentence, within, same ▸ List.prefix_rfl⟩

section Next

variable {limit : Int} {before : List Lexeme} {course : Course} {lexeme : Lexeme}

/-- A token that is let go keeps the tokens viable. -/
theorem viable_of_shift {next : Course}
    (reached : follow (Course.move limit) (.between []) before = some course)
    (shifted : course.move limit lexeme = .shift next) : Viable limit (before ++ [lexeme]) :=
  viable_iff.mpr (.inl ⟨next, (follow_append reached).trans (follow_cons shifted)⟩)

/-- The token that ends a course keeps the tokens viable. -/
theorem viable_of_stop {program : Program}
    (reached : follow (Course.move limit) (.between []) before = some course)
    (stopped : course.move limit lexeme = .stop program) : Viable limit (before ++ [lexeme]) := by
  obtain ⟨sentence, same, within, -⟩ := (Course.spells_of_follow reached).stop stopped
  exact ⟨sentence, within, same ▸ List.prefix_rfl⟩

/-- **A token that is refused begins no sentence with those before it.** -/
theorem not_viable_of_refuse {expected : Expectation} {depthLimit : Option Int}
    (reached : follow (Course.move limit) (.between []) before = some course)
    (refused : course.move limit lexeme = .refuse expected depthLimit) :
    ¬ Viable limit (before ++ [lexeme]) := by
  intro viable
  rcases viable_iff.mp viable with ⟨last, through⟩ | ⟨body, last, program, whole, through, stopped⟩
  · rw [follow_append reached] at through
    obtain ⟨next, shifted, -⟩ := follow_cons_eq_some through
    rw [refused] at shifted
    cases shifted
  · obtain ⟨rfl, same⟩ := List.append_inj' whole rfl
    cases same
    rw [reached] at through
    cases through
    rw [refused] at stopped
    cases stopped

end Next

end Calculator
