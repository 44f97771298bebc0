/-
**No two derivations of the same tokens.**

* `Phrase.lexemes_inj`: a phrase is determined by its tokens, and so is what stands before it.
* `Clause.lexemes_inj`, `Sentence.lexemes_inj`: so are a statement and a program.

A repetition ends with its last operand, so tokens are compared from the right. What stands before
a phrase must not end with an operator that the phrase itself could take in, and that is what
`Parted` says.
-/

import Calculator.Proofs.Grammar.Derivation

namespace Calculator

/-! ### Phrases -/

/-- What stands before a phrase does not end with an operator of its level or of a tighter one. -/
def Parted : Goal → List Lexeme → Prop
  | .factor, _ => True
  | .term, front => ∀ op : Operator, op.level = .term → front.getLast? ≠ some op.lexeme
  | .expression, front => ∀ op : Operator, front.getLast? ≠ some op.lexeme

namespace Parted

variable {operand level : Goal} {front : List Lexeme}

/-- What parts a repetition parts its first operand. -/
theorem tighter (operands : Operands operand level) (parted : Parted level front) :
    Parted operand front := by
  cases operands with
  | factors => exact True.intro
  | terms => exact fun op _ => parted op

/-- An operator parts the operand behind it. -/
theorem behind (operands : Operands operand level) {op : Operator} (binds : op.level = level) :
    Parted operand (front ++ [op.lexeme]) := by
  cases operands with
  | factors => exact True.intro
  | terms =>
    intro other inside
    rw [List.getLast?_concat]
    rintro same
    cases op <;> cases binds <;> cases other <;> cases inside <;> cases same

theorem leftParen : Parted .expression (front ++ [.symbol .leftParen]) := by
  intro op
  rw [List.getLast?_concat]
  cases op <;> exact fun same => nomatch same

theorem ne_concat (operands : Operands operand level) (parted : Parted level front)
    {before : List Lexeme} {op : Operator} (binds : op.level = level) :
    front ≠ before ++ [op.lexeme] := by
  rintro rfl
  cases operands with
  | factors => exact parted op binds List.getLast?_concat
  | terms => exact parted op List.getLast?_concat

end Parted

/-- A level has operands of one sort. -/
theorem Operands.unique {operand operand' level : Goal} (operands : Operands operand level)
    (operands' : Operands operand' level) : operand = operand' := by
  cases operands <;> cases operands' <;> rfl

theorem Operator.lexeme_inj {op op' : Operator} (same : op.lexeme = op'.lexeme) : op = op' := by
  cases op <;> cases op' <;> first | rfl | cases same

/-- The tokens of a repetition with one more round, split before the last operand. -/
theorem Phrase.append_lexemes_more {operand level : Goal} (operands : Operands operand level)
    (front : List Lexeme) (left : Phrase level) (op : Operator) (binds : op.level = level)
    (right : Phrase operand) :
    front ++ (more operands left op binds right).lexemes =
      (front ++ left.lexemes ++ [op.lexeme]) ++ right.lexemes := by
  simp only [lexemes, List.append_assoc, List.singleton_append]

/-- The tokens of a phrase in parentheses, split around it. -/
theorem Phrase.append_lexemes_group (front : List Lexeme) (inner : Phrase .expression) :
    front ++ (group inner).lexemes =
      (front ++ [.symbol .leftParen] ++ inner.lexemes) ++ [.symbol .rightParen] := by
  simp only [lexemes, List.append_assoc, List.cons_append, List.nil_append]

/-- **A phrase is determined by its tokens, and so is what stands before it.** -/
theorem Phrase.lexemes_inj {level : Goal} (phrase other : Phrase level) {front front' : List Lexeme}
    (parted : Parted level front) (parted' : Parted level front')
    (same : front ++ phrase.lexemes = front' ++ other.lexemes) :
    phrase = other ∧ front = front' := by
  induction phrase generalizing front front' with
  | number value =>
    cases other with
    | number value' =>
      obtain ⟨fronts, ends⟩ := List.append_inj' same rfl
      cases ends
      exact ⟨rfl, fronts⟩
    | reference name =>
      cases (List.append_inj' same rfl).2
    | group inner =>
      rw [append_lexemes_group] at same
      cases (List.append_inj' same rfl).2
    | first operands | more operands => cases operands
  | reference name =>
    cases other with
    | number value =>
      cases (List.append_inj' same rfl).2
    | reference name' =>
      obtain ⟨fronts, ends⟩ := List.append_inj' same rfl
      cases ends
      exact ⟨rfl, fronts⟩
    | group inner =>
      rw [append_lexemes_group] at same
      cases (List.append_inj' same rfl).2
    | first operands | more operands => cases operands
  | group inner ih =>
    rw [append_lexemes_group] at same
    cases other with
    | number value =>
      cases (List.append_inj' same rfl).2
    | reference name =>
      cases (List.append_inj' same rfl).2
    | group inner' =>
      rw [append_lexemes_group] at same
      obtain ⟨inners, fronts⟩ :=
        ih inner' Parted.leftParen Parted.leftParen (List.append_inj' same rfl).1
      exact ⟨congrArg group inners, (List.append_inj' fronts rfl).1⟩
    | first operands | more operands => cases operands
  | @first operand level operands only ih =>
    cases other with
    | number | reference | group => cases operands
    | @first operand' _ operands' only' =>
      have sorts := operands'.unique operands
      subst sorts
      obtain ⟨onlys, fronts⟩ := ih only' (parted.tighter operands) (parted'.tighter operands) same
      exact ⟨congrArg (first operands) onlys, fronts⟩
    | @more operand' _ operands' left' op' binds' right' =>
      have sorts := operands'.unique operands
      subst sorts
      rw [append_lexemes_more] at same
      obtain ⟨_, fronts⟩ := ih right' (parted.tighter operands) (.behind operands binds') same
      exact absurd fronts (parted.ne_concat operands binds')
  | @more operand level operands left op binds right ihLeft ihRight =>
    rw [append_lexemes_more] at same
    cases other with
    | number | reference | group => cases operands
    | @first operand' _ operands' only' =>
      have sorts := operands'.unique operands
      subst sorts
      obtain ⟨_, fronts⟩ := ihRight only' (.behind operands binds) (parted'.tighter operands) same
      exact absurd fronts.symm (parted'.ne_concat operands binds)
    | @more operand' _ operands' left' op' binds' right' =>
      have sorts := operands'.unique operands
      subst sorts
      rw [append_lexemes_more] at same
      obtain ⟨rights, before⟩ :=
        ihRight right' (.behind operands binds) (.behind operands binds') same
      obtain ⟨before, ends⟩ := List.append_inj' before rfl
      obtain ⟨lefts, fronts⟩ := ihLeft left' parted parted' before
      cases Operator.lexeme_inj (List.singleton_inj.mp ends)
      subst rights lefts
      exact ⟨rfl, fronts⟩

/-! ### Statements -/

/-- The token can stand within an expression. -/
def Lexeme.InExpression : Lexeme → Prop
  | .symbol .assign => False
  | .symbol .semicolon => False
  | .endOfInput => False
  | _ => True

/-- The token ends the statement before it. -/
def Lexeme.EndsClause : Lexeme → Prop
  | .symbol .semicolon => True
  | .endOfInput => True
  | _ => False

theorem Operator.inExpression_lexeme (op : Operator) : op.lexeme.InExpression := by
  cases op <;> exact True.intro

theorem Phrase.inExpression_of_mem {level : Goal} {phrase : Phrase level} {lexeme : Lexeme}
    (member : lexeme ∈ phrase.lexemes) : lexeme.InExpression := by
  induction phrase with
  | number | reference =>
    cases List.mem_singleton.mp member
    exact True.intro
  | group inner ih =>
    rcases List.mem_cons.mp member with rfl | member
    · exact True.intro
    · rcases List.mem_append.mp member with member | member
      · exact ih member
      · cases List.mem_singleton.mp member
        exact True.intro
  | first operands only ih => exact ih member
  | more operands left op binds right ihLeft ihRight =>
    rcases List.mem_append.mp member with member | member
    · exact ihLeft member
    · rcases List.mem_cons.mp member with rfl | member
      · exact op.inExpression_lexeme
      · exact ihRight member

theorem Phrase.lexemes_ne_nil {level : Goal} (phrase : Phrase level) : phrase.lexemes ≠ [] := by
  induction phrase with
  | number | reference | group => exact List.cons_ne_nil _ _
  | first operands only ih => exact ih
  | more operands left op binds right ihLeft ihRight =>
    exact List.append_ne_nil_of_left_ne_nil ihLeft _

theorem Clause.lexemes_ne_nil (clause : Clause) : clause.lexemes ≠ [] := by
  cases clause with
  | expression value => exact value.lexemes_ne_nil
  | assignment name value => exact List.cons_ne_nil _ _

theorem Clause.not_endsClause_of_mem {clause : Clause} {lexeme : Lexeme}
    (member : lexeme ∈ clause.lexemes) : ¬ lexeme.EndsClause := by
  have inner {value : Phrase .expression} (member : lexeme ∈ value.lexemes) :
      ¬ lexeme.EndsClause := by
    have inside := Phrase.inExpression_of_mem member
    revert inside
    unfold Lexeme.InExpression Lexeme.EndsClause
    split <;> simp
  cases clause with
  | expression value => exact inner member
  | assignment name value =>
    rcases List.mem_cons.mp member with rfl | member
    · exact id
    · rcases List.mem_cons.mp member with rfl | member
      · exact id
      · exact inner member

/-- An expression does not start like an assignment. -/
theorem Phrase.lexemes_ne_assignment {level : Goal} (phrase : Phrase level) (name : String)
    (rest : List Lexeme) : phrase.lexemes ≠ .identifier name :: .symbol .assign :: rest := by
  intro same
  have member : Lexeme.symbol .assign ∈ phrase.lexemes := by
    rw [same]
    exact List.mem_cons_of_mem _ List.mem_cons_self
  exact inExpression_of_mem member

/-- **A statement is determined by its tokens.** -/
theorem Clause.lexemes_inj {clause other : Clause} (same : clause.lexemes = other.lexemes) :
    clause = other := by
  have parted : Parted .expression [] := fun _ found => nomatch found
  cases clause with
  | expression value =>
    cases other with
    | expression value' => exact congrArg expression (value.lexemes_inj value' parted parted same).1
    | assignment name' value' => exact (value.lexemes_ne_assignment _ _ same).elim
  | assignment name value =>
    cases other with
    | expression value' => exact (value'.lexemes_ne_assignment _ _ same.symm).elim
    | assignment name' value' =>
      injection same with names rest
      injection names with names
      injection rest with _ rest
      rw [names, (value.lexemes_inj value' parted parted rest).1]

/-! ### Programs -/

/-- What ends one statement does not stand within another. -/
theorem Clause.eq_nil_of_longer {clause : Clause} {front between rest rest' : List Lexeme}
    {mark : Lexeme} (ends : mark.EndsClause) (longer : clause.lexemes = front ++ between)
    (marks : mark :: rest = between ++ rest') : between = [] := by
  cases between with
  | nil => rfl
  | cons lexeme between =>
    cases marks
    have member : mark ∈ clause.lexemes := by
      rw [longer]
      exact List.mem_append_right _ List.mem_cons_self
    exact absurd ends (not_endsClause_of_mem member)

/-- A statement is determined by its tokens and what ends it. -/
theorem Clause.append_inj {clause other : Clause} {mark mark' : Lexeme} {rest rest' : List Lexeme}
    (ends : mark.EndsClause) (ends' : mark'.EndsClause)
    (same : clause.lexemes ++ mark :: rest = other.lexemes ++ mark' :: rest') :
    clause = other ∧ mark = mark' ∧ rest = rest' := by
  rcases List.append_eq_append_iff.mp same with ⟨between, longer, marks⟩ | ⟨between, longer, marks⟩
  · cases eq_nil_of_longer ends longer marks
    rw [List.append_nil] at longer
    injection marks with marks rests
    exact ⟨lexemes_inj longer.symm, marks, rests⟩
  · cases eq_nil_of_longer ends' longer marks
    rw [List.append_nil] at longer
    injection marks with marks rests
    exact ⟨lexemes_inj longer, marks.symm, rests.symm⟩

/-- The tokens behind the first statement of a program. -/
def Sentence.ending (rest : List Clause) (closed : Bool) : List Lexeme :=
  rest.flatMap Clause.later ++ (if closed then [.symbol .semicolon] else []) ++ [.endOfInput]

theorem Sentence.ending_cons (clause : Clause) (rest : List Clause) (closed : Bool) :
    ending (clause :: rest) closed =
      .symbol .semicolon :: (clause.lexemes ++ ending rest closed) := by
  simp only [ending, List.flatMap_cons, Clause.later, List.append_assoc, List.cons_append]

theorem Sentence.lexemes_clauses (start : Clause) (rest : List Clause) (closed : Bool) :
    (clauses start rest closed).lexemes = start.lexemes ++ ending rest closed := by
  simp only [lexemes, ending, List.append_assoc]

theorem Sentence.exists_ending (rest : List Clause) (closed : Bool) :
    ∃ mark more, ending rest closed = mark :: more ∧ mark.EndsClause := by
  cases rest with
  | nil => cases closed <;> exact ⟨_, _, rfl, True.intro⟩
  | cons clause rest => exact ⟨_, _, ending_cons .., True.intro⟩

/-- A statement and the tokens behind it, as far as the program goes, are determined by them all. -/
theorem Sentence.start_inj {start start' : Clause} {rest rest' : List Clause}
    {closed closed' : Bool}
    (same : start.lexemes ++ ending rest closed = start'.lexemes ++ ending rest' closed') :
    start = start' ∧ ending rest closed = ending rest' closed' := by
  obtain ⟨mark, more, opened, ends⟩ := exists_ending rest closed
  obtain ⟨mark', more', opened', ends'⟩ := exists_ending rest' closed'
  rw [opened, opened'] at same ⊢
  obtain ⟨starts, marks, mores⟩ := Clause.append_inj ends ends' same
  exact ⟨starts, congr (congrArg List.cons marks) mores⟩

/-- A statement does not start with the end of input. -/
theorem Clause.append_ne_endOfInput (clause : Clause) (rest : List Lexeme) :
    clause.lexemes ++ rest ≠ [.endOfInput] := by
  intro same
  cases opened : clause.lexemes with
  | nil => exact clause.lexemes_ne_nil opened
  | cons lexeme more =>
    rw [opened] at same
    injection same with last
    subst last
    have member : Lexeme.endOfInput ∈ clause.lexemes := by
      rw [opened]
      exact List.mem_cons_self
    exact clause.not_endsClause_of_mem member True.intro

theorem Sentence.ending_inj {rest rest' : List Clause} {closed closed' : Bool}
    (same : ending rest closed = ending rest' closed') : rest = rest' ∧ closed = closed' := by
  induction rest generalizing rest' with
  | nil =>
    cases rest' with
    | nil => cases closed <;> cases closed' <;> first | exact ⟨rfl, rfl⟩ | cases same
    | cons clause rest' =>
      rw [ending_cons] at same
      cases closed with
      | false => cases same
      | true =>
        injection same with _ same
        exact absurd same.symm (clause.append_ne_endOfInput _)
  | cons clause rest ih =>
    rw [ending_cons] at same
    cases rest' with
    | nil =>
      cases closed' with
      | false => cases same
      | true =>
        injection same with _ same
        exact absurd same (clause.append_ne_endOfInput _)
    | cons clause' rest' =>
      rw [ending_cons] at same
      injection same with _ same
      obtain ⟨starts, endings⟩ := start_inj same
      obtain ⟨rests, closings⟩ := ih endings
      exact ⟨congr (congrArg List.cons starts) rests, closings⟩

/-- **A program has one derivation at most.** -/
theorem Sentence.lexemes_inj {sentence other : Sentence} (same : sentence.lexemes = other.lexemes) :
    sentence = other := by
  cases sentence with
  | empty =>
    cases other with
    | empty => rfl
    | clauses start rest closed =>
      rw [lexemes_clauses] at same
      exact absurd same.symm (start.append_ne_endOfInput _)
  | clauses start rest closed =>
    rw [lexemes_clauses] at same
    cases other with
    | empty => exact absurd same (start.append_ne_endOfInput _)
    | clauses start' rest' closed' =>
      rw [lexemes_clauses] at same
      obtain ⟨starts, endings⟩ := start_inj same
      obtain ⟨rests, closings⟩ := ending_inj endings
      rw [starts, rests, closings]

end Calculator
