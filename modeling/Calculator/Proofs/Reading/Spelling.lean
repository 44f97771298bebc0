/-
**Courses spell sentences.**

* `Course.Spells`: the tokens let go before a course are those of the statements that are done and
  of what has been read of the next one; `Course.Spells.shift`: every move keeps it.
* `Course.Spells.stop`: where a course ends, the tokens are those of a sentence.
-/

import Calculator.Proofs.Reading.Sentence

namespace Calculator

/-! ### Statements that are done -/

/-- The derivation of a statement from its target and its expression. -/
def Clause.ofTarget (target : Option String) (value : Phrase .expression) : Clause :=
  match target with
  | none => .expression value
  | some name => .assignment name value

/-- The tokens of a statement before its expression. -/
def targetLexemes : Option String → List Lexeme
  | none => []
  | some name => [.identifier name, .symbol .assign]

namespace Clause

variable (target : Option String) (value : Phrase .expression)

theorem lexemes_ofTarget : (ofTarget target value).lexemes = targetLexemes target ++ value.lexemes := by
  cases target <;> rfl

theorem statement_ofTarget :
    (ofTarget target value).statement = Statement.ofTarget target value.tree := by
  cases target <;> rfl

theorem nesting_ofTarget : (ofTarget target value).nesting = value.nesting := by
  cases target <;> rfl

/-- A statement and the semicolon behind it. -/
def closed (clause : Clause) : List Lexeme := clause.lexemes ++ [.symbol .semicolon]

/-- Semicolons behind statements are semicolons before the later ones, and one more. -/
theorem flatMap_closed (start : Clause) (rest : List Clause) :
    (start :: rest).flatMap closed =
      start.lexemes ++ rest.flatMap later ++ [.symbol .semicolon] := by
  induction rest generalizing start with
  | nil => rw [List.flatMap_cons, List.flatMap_nil, List.flatMap_nil, List.append_nil,
      List.append_nil, closed]
  | cons clause rest ih =>
    rw [List.flatMap_cons, ih, List.flatMap_cons, closed, later]
    simp only [List.append_assoc, List.cons_append, List.nil_append]

end Clause

/-- The statements that are done, the latest first, and their tokens, each with its semicolon. -/
inductive Completed (limit : Int) : List Statement → List Lexeme → Prop
  | mk (clauses : List Clause) (fits : ∀ clause ∈ clauses, clause.nesting ≤ limit.toNat) :
      Completed limit (clauses.map Clause.statement).reverse (clauses.flatMap Clause.closed)

namespace Completed

variable {limit : Int} {done : List Statement} {front : List Lexeme}

theorem nil (limit : Int) : Completed limit [] [] := .mk [] (List.forall_mem_nil _)

theorem append (completed : Completed limit done front) (clause : Clause)
    (fits : clause.nesting ≤ limit.toNat) :
    Completed limit (clause.statement :: done)
      (front ++ clause.lexemes ++ [.symbol .semicolon]) := by
  obtain ⟨clauses, fitsAll⟩ := completed
  have appended : Completed limit _ _ := .mk (clauses ++ [clause]) fun other member => by
    rcases List.mem_append.mp member with member | member
    · exact fitsAll other member
    · rw [List.mem_singleton.mp member]
      exact fits
  rw [List.map_append, List.reverse_append, List.flatMap_append, List.flatMap_singleton,
    Clause.closed, ← List.append_assoc] at appended
  exact appended

/-- Statements that are all closed are a sentence. -/
theorem sentence (completed : Completed limit done front) :
    ∃ sentence : Sentence, sentence.lexemes = front ++ [.endOfInput] ∧ sentence.Within limit ∧
      sentence.program = ⟨done.reverse⟩ := by
  obtain ⟨clauses, fits⟩ := completed
  rw [List.reverse_reverse]
  cases clauses with
  | nil => exact ⟨.empty, rfl, True.intro, rfl⟩
  | cons start rest =>
    refine ⟨.clauses start rest true, ?_, fits, rfl⟩
    rw [Clause.flatMap_closed, Sentence.lexemes, if_pos rfl]

/-- Statements that are closed, and one more, are a sentence. -/
theorem sentence_append (completed : Completed limit done front) (clause : Clause)
    (fits : clause.nesting ≤ limit.toNat) :
    ∃ sentence : Sentence, sentence.lexemes = front ++ clause.lexemes ++ [.endOfInput] ∧
      sentence.Within limit ∧ sentence.program = ⟨(clause.statement :: done).reverse⟩ := by
  obtain ⟨clauses, fitsAll⟩ := completed
  rw [List.reverse_cons, List.reverse_reverse]
  cases clauses with
  | nil =>
    refine ⟨.clauses clause [] false, ?_, List.forall_mem_singleton.mpr fits, rfl⟩
    rw [Sentence.lexemes, List.flatMap_nil, List.flatMap_nil, List.append_nil]
    simp
  | cons start rest =>
    obtain ⟨fitsStart, fitsRest⟩ := List.forall_mem_cons.mp fitsAll
    refine ⟨.clauses start (rest ++ [clause]) false, ?_, ?_, ?_⟩
    · rw [Clause.flatMap_closed, Sentence.lexemes, List.flatMap_append, List.flatMap_singleton,
        Clause.later, if_neg Bool.false_ne_true]
      simp only [List.append_assoc, List.cons_append, List.nil_append]
    · refine List.forall_mem_cons.mpr ⟨fitsStart, fun other member => ?_⟩
      rcases List.mem_append.mp member with member | member
      · exact fitsRest other member
      · rw [List.mem_singleton.mp member]
        exact fits
    · rw [Sentence.program, List.map_cons, List.map_append, List.map_singleton, List.map_cons,
        List.cons_append]

end Completed

/-! ### Courses -/

/-- The tokens let go before a course. -/
inductive Course.Spells (limit : Int) : Course → List Lexeme → Prop
  | between {done : List Statement} {front : List Lexeme} (completed : Completed limit done front) :
      Spells limit (.between done) front
  | named {done : List Statement} {front : List Lexeme} (completed : Completed limit done front)
      (name : String) : Spells limit (.named done name) (front ++ [.identifier name])
  | inside {done : List Statement} {front back : List Lexeme} {place : Place}
      (completed : Completed limit done front) (target : Option String)
      (here : place.Spells limit back) :
      Spells limit (.inside done target place) (front ++ (targetLexemes target ++ back))

namespace Course

variable {limit : Int} {course : Course} {lexemes : List Lexeme} {lexeme : Lexeme}

/-- A course spells the statements that are done and what has been read of the next one. -/
theorem Spells.exists_stands (spells : course.Spells limit lexemes) :
    ∃ done target place front back, course.Stands done target place ∧
      Completed limit done front ∧ place.Spells limit back ∧
      lexemes = front ++ (targetLexemes target ++ back) := by
  cases spells with
  | between completed =>
    exact ⟨_, none, .start, lexemes, [], .between _, completed, Place.Spells.start limit,
      (List.append_nil lexemes).symm⟩
  | named completed name =>
    have here := (Place.Spells.start limit).shift (.reference name)
    exact ⟨_, none, .named name, _, [.identifier name], .named _ name, completed, here, rfl⟩
  | inside completed target here =>
    exact ⟨_, target, _, _, _, .inside .., completed, here, rfl⟩

/-- Where the reading of an expression may end, a statement has been let go. -/
theorem exists_clause {level : Level} {factor : Expr} {back : List Lexeme}
    (here : Place.Spells limit ⟨[], level, .operator factor⟩ back) (target : Option String) :
    ∃ clause : Clause, clause.lexemes = targetLexemes target ++ back ∧
      clause.statement = Statement.ofTarget target (Place.total level factor) ∧
      clause.nesting ≤ limit.toNat := by
  obtain ⟨whole, tree, lexemes, fits⟩ := here.whole
  refine ⟨.ofTarget target whole, ?_, ?_, ?_⟩
  · rw [Clause.lexemes_ofTarget, lexemes]
  · rw [Clause.statement_ofTarget, tree]
  · rwa [Clause.nesting_ofTarget]

/-- **Every move keeps what a course spells.** -/
theorem Spells.shift {next : Course} (spells : course.Spells limit lexemes)
    (shifted : course.move limit lexeme = .shift next) :
    next.Spells limit (lexemes ++ [lexeme]) := by
  obtain ⟨done, target, place, front, back, stands, completed, here, whole⟩ := spells.exists_stands
  rcases stands.move_cases lexeme with inside | ⟨move, opens, same⟩
  · rw [inside] at shifted
    subst whole
    rcases insideMove_eq_shift shifted with ⟨place', shifts, rfl⟩ | ⟨level, factor, rfl, rfl, rfl⟩
    · rw [List.append_assoc, List.append_assoc]
      exact .inside completed target (here.shift shifts)
    · obtain ⟨clause, lexemes, statement, fits⟩ := exists_clause here target
      rw [← lexemes, ← statement]
      exact .between (completed.append clause fits)
  · rw [same] at shifted
    cases opens with
    | last => cases shifted
    | name done name =>
      cases shifted
      cases spells with
      | between completed => exact .named completed name
    | assign done name =>
      cases shifted
      cases spells with
      | named completed name =>
        rw [List.append_assoc]
        exact .inside completed (some name) (Place.Spells.start limit)

/-- **Where a course ends, the tokens are those of a sentence, and it means the program.** -/
theorem Spells.stop {program : Program} (spells : course.Spells limit lexemes)
    (stopped : course.move limit lexeme = .stop program) :
    ∃ sentence : Sentence, sentence.lexemes = lexemes ++ [lexeme] ∧ sentence.Within limit ∧
      sentence.program = program := by
  obtain ⟨done, target, place, front, back, stands, completed, here, whole⟩ := spells.exists_stands
  rcases stands.move_cases lexeme with inside | ⟨move, opens, same⟩
  · rw [inside] at stopped
    obtain ⟨level, factor, rfl, rfl, rfl⟩ := insideMove_eq_stop stopped
    obtain ⟨clause, lexemes, statement, fits⟩ := exists_clause here target
    rw [whole, ← lexemes, ← statement]
    exact completed.sentence_append clause fits
  · rw [same] at stopped
    cases opens with
    | name | assign => cases stopped
    | last done =>
      cases stopped
      cases spells with
      | between completed => exact completed.sentence

/-- What a course spells that is reached from the start. -/
theorem spells_of_follow {course : Course} {lexemes : List Lexeme}
    (reached : follow (Course.move limit) (.between []) lexemes = some course) :
    course.Spells limit lexemes :=
  follow_invariant (Spells limit) (fun _ _ _ _ spells shifted => spells.shift shifted)
    (.between (Completed.nil limit)) reached

end Course

end Calculator
