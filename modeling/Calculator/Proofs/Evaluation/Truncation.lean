/-
**Where a budget cuts a run.**

* `LongestWithin`: the longest beginning of statements that has no more than so many nodes.
* `FailsIn.longestWithin`: a run that goes past its budget has passed just these statements.
* `Program.length_content`: the nodes of a program are its numbers, names and operators.
* `Program.run_budget`: under a budget a program does what it does without one, if that takes no more
  visits, and otherwise leaves what the longest beginning within the budget leaves.
-/

import Calculator.Proofs.Evaluation.Leftover
import Calculator.Proofs.Reading.Acceptance

namespace Calculator

/-! ### The longest beginning -/

/-- The longest beginning of statements that has no more than so many nodes. -/
structure LongestWithin (limit : Nat) (front whole : List Statement) : Prop where
  beginning : front <+: whole
  within : (Program.mk front).size ≤ limit
  longest : ∀ other, other <+: whole → (Program.mk other).size ≤ limit → other.length ≤ front.length

/-- **A run that goes past its budget has passed the longest beginning within it.** -/
theorem FailsIn.longestWithin {division : DivisionPolicy} {limit : Nat} {start : Bindings}
    {front : List Statement} {failing : Statement} {reached last : Progress} {error : RuntimeError}
    (fails : FailsIn ⟨division, some limit⟩ start front reached failing error last)
    (spent : limit < last.visits) (back : List Statement) :
    LongestWithin limit front (front ++ failing :: back) := by
  obtain ⟨x, passed⟩ := fails.passed
  have kept := ((runStatements_truncates division limit 0 front).eq_of_ok (Nat.zero_le _) passed).2
  have visits := (runStatements_takes _ 0 front).done _ _ _ passed
  have further := (failing.evaluate_takes _).failed _ _ _ fails.evaluate_eq
  dsimp only at visits
  refine ⟨List.prefix_append _ _, by omega, fun other beginning within => ?_⟩
  refine Nat.le_of_not_lt fun longer => ?_
  obtain ⟨more, rfl⟩ := concat_prefix beginning longer
  rw [Program.size_append, Program.size_append, Program.size_cons, Program.size_nil] at within
  omega

/-! ### Nodes and tokens -/

theorem Expr.length_content (value : Expr) : value.content.length = value.size := by
  induction value with
  | number | reference => rfl
  | binary op left right ihLeft ihRight =>
    rw [content, List.length_append, List.length_cons, ihLeft, ihRight, size, Nat.add_assoc]

theorem Statement.length_content (statement : Statement) :
    statement.content.length = statement.size := by
  cases statement with
  | expression value => exact value.length_content
  | assignment name value => rw [content, List.length_cons, value.length_content, size]

/-- The nodes of a program are its numbers, names and operators. -/
theorem Program.length_content (program : Program) : program.content.length = program.size := by
  obtain ⟨statements⟩ := program
  induction statements with
  | nil => rfl
  | cons statement rest ih =>
    rw [size_cons, ← ih, ← statement.length_content, ← List.length_append]
    rfl

/-- The nodes of a program that a text spells are the numbers, names and operators of the text. -/
theorem Program.size_of_parse {program : Program} {depth : Int} {source : String}
    (parsed : Program.parse depth source = .ok program) :
    ∃ tokens, scanText source = .ok tokens ∧
      program.size = (tokens.filter fun token => token.lexeme.isContent).length := by
  obtain ⟨tokens, scanned, sentence, spelling⟩ := Ends.exists_spelling (parsed ▸ parse_ends depth source)
  refine ⟨tokens, scanned, ?_⟩
  rw [← program.length_content, spelling.content, List.filter_map, List.length_map]
  rfl

/-! ### Programs -/

/-- **A budget cuts a program short and changes nothing else.** Let a program that has statements make
so many visits without a budget. Under a budget that allows them all it does the same. Under a smaller
one it fails with the first visit too many, and leaves what the longest beginning leaves that has no
more nodes than the budget allows. If it succeeds without a budget, its visits are its nodes, and these
are the numbers, names and operators of the text, if it was read from one. -/
theorem Program.run_budget (division : DivisionPolicy) (program : Program) (σ : Progress)
    (nonempty : program.statements ≠ []) :
    (∃ result bindings visits,
      program.run ⟨division, none⟩ σ = (result, ⟨bindings, visits⟩) ∧
      (∀ limit, visits ≤ limit →
        program.run ⟨division, some limit⟩ σ = (result, ⟨bindings, visits⟩)) ∧
      (∀ limit, limit < visits → ∃ front kept,
        LongestWithin limit front program.statements ∧
        Program.Leaves division ⟨front⟩ σ.bindings kept ∧
        program.run ⟨division, some limit⟩ σ = (.error (.stepLimit limit), ⟨kept, limit + 1⟩)) ∧
      ∀ value, result = .ok value → visits = program.size) ∧
    ∀ depth source, Program.parse depth source = .ok program →
      ∃ tokens, scanText source = .ok tokens ∧
        program.size = (tokens.filter fun token => token.lexeme.isContent).length := by
  refine ⟨?_, fun depth source => size_of_parse⟩
  simp only [program.run_eq nonempty]
  have truncates (limit : Nat) := runStatements_truncates division limit 0 program.statements
  rcases ran : runStatements ⟨division, none⟩ 0 program.statements ⟨σ.bindings, 0⟩ with
    ⟨result, bindings, visits⟩
  refine ⟨result, bindings, visits, rfl, fun limit fits => ?_, fun limit exceeds => ?_, ?_⟩
  · rw [(truncates limit).within _ (by rwa [ran]), ran]
  · obtain ⟨kept, failed⟩ := (truncates limit).beyond _ (Nat.zero_le _) (by rwa [ran])
    obtain ⟨front, failing, back, reached, split, fails⟩ := exists_failsIn failed
    refine ⟨front, kept, ?_, fails.leaves, failed⟩
    rw [split]
    exact fails.longestWithin (Nat.lt_succ_self limit) back
  · rintro value rfl
    have taken := (runStatements_takes _ 0 program.statements).done _ _ _ ran
    rw [← Nat.zero_add program.size]
    exact taken

/-- Of `x = 1; x` a budget of two visits leaves the first statement. -/
theorem Program.run_budget_second :
    ∃ front kept,
      LongestWithin 2 front [.assignment "x" (.number 1), .expression (.reference "x")] ∧
      Program.Leaves .ieee ⟨front⟩ .empty kept ∧
      (Program.mk [.assignment "x" (.number 1), .expression (.reference "x")]).run
        ⟨.ieee, some 2⟩ ⟨.empty, 0⟩ = (.error (.stepLimit 2), ⟨kept, 3⟩) := by
  have counted : (Program.mk [.assignment "x" (.number 1), .expression (.reference "x")]).run
      ⟨.ieee, none⟩ ⟨.empty, 0⟩ = (.ok 1, ⟨Bindings.empty.assign "x" 1, 3⟩) := by
    rw [Program.run_eq (List.cons_ne_nil _ _)]
    simp only [runStatements_cons]
    rfl
  obtain ⟨⟨result, bindings, visits, ran, -, cut, -⟩, -⟩ :=
    run_budget .ieee ⟨[.assignment "x" (.number 1), .expression (.reference "x")]⟩ ⟨.empty, 0⟩
      (List.cons_ne_nil _ _)
  rw [counted] at ran
  cases ran
  exact cut 2 (by decide)

end Calculator
