/-
**The canonical text as a sentence.**

* `Expr.factor`, `Statement.clause`, `Program.sentence`: the derivation that the canonical text
  follows, every operation a group of two factors.
* `Expr.nesting_factor`: parentheses nest in it as deep as operators nest in the tree.
* `Program.program_sentence`: it means the program.
* `Program.scanText_text`: the canonical text is scanned to the tokens of this sentence, provided that
  the numbers and names of the program can be written at all.
-/

import Calculator.Proofs.Binary64.Whole
import Calculator.Proofs.Grammar.Derivation
import Calculator.Proofs.Token.Written
import Calculator.Syntax.Printer

namespace Calculator

/-! ### Derivations -/

/-- The derivation of an operation on two factors. -/
def Phrase.operation (op : Operator) (left right : Phrase .factor) : Phrase .expression :=
  match op with
  | .add => .more .terms (.first .terms (.first .factors left)) .add rfl (.first .factors right)
  | .subtract =>
    .more .terms (.first .terms (.first .factors left)) .subtract rfl (.first .factors right)
  | .multiply => .first .terms (.more .factors (.first .factors left) .multiply rfl right)
  | .divide => .first .terms (.more .factors (.first .factors left) .divide rfl right)

section Operation

variable (op : Operator) (left right : Phrase .factor)

theorem Phrase.lexemes_operation :
    (operation op left right).lexemes = left.lexemes ++ op.lexeme :: right.lexemes := by
  cases op <;> rfl

theorem Phrase.nesting_operation :
    (operation op left right).nesting = max left.nesting right.nesting := by
  cases op <;> rfl

theorem Phrase.tree_operation :
    (operation op left right).tree = .binary op left.tree right.tree := by
  cases op <;> rfl

end Operation

/-- The derivation of an expression from its canonical text. -/
def Expr.factor : Expr → Phrase .factor
  | .number value => .number value
  | .reference name => .reference name
  | .binary op left right => .group (.operation op left.factor right.factor)

/-- A factor as an expression. -/
def Phrase.asExpression (factor : Phrase .factor) : Phrase .expression :=
  .first .terms (.first .factors factor)

/-- The derivation of a statement from its canonical text. -/
def Statement.clause : Statement → Clause
  | .expression value => .expression value.factor.asExpression
  | .assignment name value => .assignment name value.factor.asExpression

/-- The derivation of a program from its canonical text. -/
def Program.sentence (program : Program) : Sentence :=
  match program.statements with
  | [] => .empty
  | start :: rest => .clauses start.clause (rest.map Statement.clause) true

theorem Expr.tree_factor (value : Expr) : value.factor.tree = value := by
  induction value with
  | number | reference => rfl
  | binary op left right ihLeft ihRight =>
    rw [factor, Phrase.tree, Phrase.tree_operation, ihLeft, ihRight]

/-- **Parentheses nest in the canonical text as operators nest in the tree.** -/
theorem Expr.nesting_factor (value : Expr) : value.factor.nesting = value.height := by
  induction value with
  | number | reference => rfl
  | binary op left right ihLeft ihRight =>
    rw [factor, Phrase.nesting, Phrase.nesting_operation, ihLeft, ihRight, height]

theorem Statement.statement_clause (statement : Statement) :
    statement.clause.statement = statement := by
  cases statement with
  | expression value => exact congrArg expression value.tree_factor
  | assignment name value => exact congrArg (assignment name) value.tree_factor

theorem Statement.nesting_clause (statement : Statement) :
    statement.clause.nesting = statement.height := by
  cases statement <;> exact Expr.nesting_factor _

/-- **The canonical sentence means the program.** -/
theorem Program.program_sentence (program : Program) : program.sentence.program = program := by
  obtain ⟨statements⟩ := program
  cases statements with
  | nil => rfl
  | cons start rest =>
    have same : (start.clause :: rest.map Statement.clause).map Clause.statement = start :: rest := by
      rw [← List.map_cons, List.map_map]
      exact (List.map_congr_left fun statement _ => statement.statement_clause).trans (List.map_id _)
    exact congrArg Program.mk same

/-- The canonical sentence keeps to a limit if and only if the heights do. -/
theorem Program.within_sentence_iff {limit : Int} (program : Program) :
    program.sentence.Within limit ↔
      ∀ statement ∈ program.statements, statement.height ≤ limit.toNat := by
  obtain ⟨statements⟩ := program
  cases statements with
  | nil => exact iff_of_true True.intro (List.forall_mem_nil _)
  | cons start rest =>
    show (∀ clause ∈ (start :: rest).map Statement.clause, _) ↔ _
    rw [List.forall_mem_map]
    simp only [Statement.nesting_clause]

/-! ### Texts -/

/-- Every number and every name can be written. -/
def Spellable (lexemes : List Lexeme) : Prop := ∀ lexeme ∈ lexemes, ∃ chars, lexeme.Writes chars

/-- A number that can be written is written by its literal. -/
theorem Lexeme.Writes.literal {value : Float} {chars : List Char}
    (writes : (Lexeme.number value).Writes chars) :
    (Lexeme.number value).Writes (Binary64.literalText value).toList := by
  cases writes with
  | number nonempty digit read =>
    obtain ⟨number, -, text, read⟩ := (Binary64.isWhole_iff.mpr ⟨_, read⟩).exists_digits
    rw [text, String.toList_ofList]
    exact .digits read

/-- A name that can be written is written by itself. -/
theorem Lexeme.Writes.name {name : String} {chars : List Char}
    (writes : (Lexeme.identifier name).Writes chars) :
    (Lexeme.identifier name).Writes name.toList := by
  cases writes with
  | identifier letter rest =>
    rw [String.toList_ofList]
    exact .identifier letter rest

theorem Expr.toList_text_binary (op : Operator) (left right : Expr) (rest : List Char) :
    (binary op left right).text.toList ++ rest =
      '(' :: (left.text.toList ++
        ' ' :: op.symbol.char :: ' ' :: (right.text.toList ++ ')' :: rest)) := by
  simp only [text, Operator.text, String.toList_append, String.toList_singleton, List.append_assoc]
  rfl

/-- **The canonical text of an expression writes the tokens of its derivation.** -/
theorem Expr.written {value : Expr} {lexemes : List Lexeme} {rest : List Char}
    (spellable : Spellable value.content) (apart : ∀ c ∈ rest.head?, Scanner.isNameChar c = false)
    (more : Written lexemes rest) :
    Written (value.factor.lexemes ++ lexemes) (value.text.toList ++ rest) := by
  induction value generalizing lexemes rest with
  | number value =>
    obtain ⟨chars, writes⟩ := spellable _ List.mem_cons_self
    exact .token writes.literal apart more
  | reference name =>
    obtain ⟨chars, writes⟩ := spellable _ List.mem_cons_self
    exact .token writes.name apart more
  | binary op left right ihLeft ihRight =>
    have spellableLeft : Spellable left.content := fun lexeme member =>
      spellable lexeme (List.mem_append_left _ member)
    have spellableRight : Spellable right.content := fun lexeme member =>
      spellable lexeme (List.mem_append_right _ (List.mem_cons_of_mem _ member))
    have close := ihRight spellableRight (by rintro c ⟨⟩; rfl) (more.symbol .rightParen)
    have operator := (close.space.symbol op.symbol).space
    have whole := (ihLeft spellableLeft (by rintro c ⟨⟩; rfl) operator).symbol .leftParen
    rw [toList_text_binary]
    rw [factor, Phrase.lexemes, Phrase.lexemes_operation]
    simp only [List.append_assoc, List.cons_append]
    exact whole

theorem Statement.written {statement : Statement} {lexemes : List Lexeme} {rest : List Char}
    (spellable : Spellable statement.content)
    (apart : ∀ c ∈ rest.head?, Scanner.isNameChar c = false) (more : Written lexemes rest) :
    Written (statement.clause.lexemes ++ lexemes) (statement.text.toList ++ rest) := by
  cases statement with
  | expression value => exact value.written spellable apart more
  | assignment name value =>
    obtain ⟨chars, writes⟩ := spellable _ List.mem_cons_self
    have spellableValue : Spellable value.content := fun lexeme member =>
      spellable lexeme (List.mem_cons_of_mem _ member)
    have assign := ((value.written spellableValue apart more).space.symbol .assign).space
    have whole := Written.token writes.name (by rintro c ⟨⟩; rfl) assign
    rw [text, String.toList_append, String.toList_append, List.append_assoc, List.append_assoc]
    exact whole

theorem Statement.written_all {start : Statement} {rest : List Statement}
    (spellable : ∀ statement ∈ start :: rest, Spellable statement.content) :
    Written
      (start.clause.lexemes ++ (rest.map clause).flatMap Clause.later ++ [.symbol .semicolon])
      ("; ".intercalate ((start :: rest).map text) ++ ";").toList := by
  obtain ⟨spellableStart, spellableRest⟩ := List.forall_mem_cons.mp spellable
  induction rest generalizing start with
  | nil =>
    have last := Written.empty.symbol .semicolon
    have whole := start.written spellableStart (by rintro c ⟨⟩; rfl) last
    rw [List.map_singleton, String.intercalate_singleton, String.toList_append]
    rw [List.map_nil, List.flatMap_nil, List.append_nil]
    exact whole
  | cons next rest ih =>
    obtain ⟨spellableNext, spellableMore⟩ := List.forall_mem_cons.mp spellableRest
    have later := (ih spellableRest spellableNext spellableMore).space.symbol .semicolon
    have whole := start.written spellableStart (by rintro c ⟨⟩; rfl) later
    simp only [List.map_cons, String.intercalate_cons_cons, String.toList_append, List.flatMap_cons,
      Clause.later, List.append_assoc, List.cons_append] at whole ⊢
    exact whole

/-- **The canonical text is scanned to the tokens of the canonical sentence.** -/
theorem Program.scanText_text {program : Program} (spellable : Spellable program.content) :
    ∃ tokens, scanText program.text = .ok tokens ∧
      tokens.map Token.lexeme = program.sentence.lexemes := by
  have written : ∃ lexemes, program.sentence.lexemes = lexemes ++ [.endOfInput] ∧
      Written lexemes program.text.toList := by
    obtain ⟨statements⟩ := program
    cases statements with
    | nil => exact ⟨[], rfl, .empty⟩
    | cons start rest =>
      refine ⟨_, rfl, ?_⟩
      have spelled : Statement.spelled = Statement.text := funext spelled_eq_text
      rw [text, if_neg (List.cons_ne_nil _ _), spelled]
      exact Statement.written_all fun statement member lexeme content =>
        spellable lexeme (List.mem_flatMap.mpr ⟨statement, member, content⟩)
  obtain ⟨lexemes, same, written⟩ := written
  rw [same]
  exact written.scanText_eq_ok

end Calculator
