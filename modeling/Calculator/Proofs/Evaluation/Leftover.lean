/-
**What a failed run leaves behind.**

* `Program.Leaves`: the bindings that a program leaves if it runs alone and without a budget.
* `FailsIn.leaves`: a run that fails in a statement leaves what the statements before it leave.
* `Program.run_failed`: so a statement that fails has no effect.
-/

import Calculator.Proofs.Evaluation.Budget
import Calculator.Proofs.Evaluation.Failures

namespace Calculator

/-- Alone, from the bindings `before` and without a budget, the program succeeds and leaves the bindings
`after`; one without statements leaves those that it finds. -/
def Program.Leaves (division : DivisionPolicy) (program : Program) (before after : Bindings) : Prop :=
  (program.statements = [] ∧ after = before) ∨
    ∃ value visits, program.run ⟨division, none⟩ ⟨before, 0⟩ = (.ok value, ⟨after, visits⟩)

/-- Statements that succeed leave the bindings that they come to, with a budget or without. -/
theorem leaves_of_ok {rules : Rules} {statements : List Statement} {start : Bindings} {x : Float}
    {last : Progress} (done : runStatements rules 0 statements ⟨start, 0⟩ = (.ok x, last)) :
    Program.Leaves rules.division ⟨statements⟩ start last.bindings := by
  by_cases none : statements = []
  · subst none
    cases done
    exact .inl ⟨rfl, rfl⟩
  · refine .inr ⟨x, last.visits, ?_⟩
    rw [Program.run_eq none]
    exact runStatements_of_budget done

section Failures

variable {rules : Rules} {start : Bindings} {front : List Statement} {failing : Statement}
  {reached last : Progress} {error : RuntimeError}

/-- **A statement that fails leaves the bindings as it finds them.** -/
theorem FailsIn.bindings_eq (fails : FailsIn rules start front reached failing error last) :
    last.bindings = reached.bindings :=
  failing.evaluate_atomic rules reached last error fails.evaluate_eq

theorem FailsIn.leaves (fails : FailsIn rules start front reached failing error last) :
    Program.Leaves rules.division ⟨front⟩ start last.bindings := by
  obtain ⟨x, passed⟩ := fails.passed
  rw [fails.bindings_eq]
  exact leaves_of_ok passed

theorem FailsIn.justified (fails : FailsIn rules start front reached failing error last) :
    RuntimeError.Justified rules last error :=
  failing.evaluate_justified rules reached last error fails.evaluate_eq

/-- **A statement that fails has no effect.** If a program with statements fails, it fails in one of
them and in no other, for a name that is not bound, a zero divisor that is refused or a spent budget. The
statements before it, alone and without a budget, succeed, and what they leave is left: the first
bindings, if there are none before it. A failing assignment leaves its target as it finds it. -/
theorem Program.run_failed {program : Program} {σ : Progress} (nonempty : program.statements ≠ [])
    (failed : program.run rules σ = (.error error, last)) :
    ∃ front failing back reached,
      program.statements = front ++ failing :: back ∧
      FailsIn rules σ.bindings front reached failing error last ∧
      (∀ front' failing' back' reached' error' last',
        program.statements = front' ++ failing' :: back' →
        FailsIn rules σ.bindings front' reached' failing' error' last' → front' = front) ∧
      RuntimeError.Justified rules last error ∧
      Program.Leaves rules.division ⟨front⟩ σ.bindings last.bindings ∧
      (front = [] → last.bindings = σ.bindings) ∧
      ∀ name value, failing = .assignment name value →
        last.bindings.lookup? name = reached.bindings.lookup? name := by
  rw [program.run_eq nonempty] at failed
  obtain ⟨front, failing, back, reached, split, fails⟩ := exists_failsIn failed
  refine ⟨front, failing, back, reached, split, fails, ?_, fails.justified, fails.leaves, ?_, ?_⟩
  · intro front' failing' back' reached' error' last' split' fails'
    exact fails.unique fails' (split.symm.trans split')
  · rintro rfl
    obtain ⟨x, passed⟩ := fails.passed
    cases passed
    exact fails.bindings_eq
  · intro name value _
    rw [fails.bindings_eq]

/-- The second statement of `x = 1; x = y` fails, at the last visit that the budget allows. -/
theorem Program.run_failed_second :
    (Program.mk [.assignment "x" (.number 1), .assignment "x" (.reference "y")]).run
        ⟨.refuse, some 4⟩ ⟨.empty, 0⟩ =
      (.error (.undefinedVariable "y"), ⟨Bindings.empty.assign "x" 1, 4⟩) ∧
    ∃ front failing back reached,
      [.assignment "x" (.number 1), .assignment "x" (.reference "y")] = front ++ failing :: back ∧
      FailsIn ⟨.refuse, some 4⟩ .empty front reached failing (.undefinedVariable "y")
        ⟨Bindings.empty.assign "x" 1, 4⟩ ∧
      Program.Leaves .refuse ⟨front⟩ .empty (Bindings.empty.assign "x" 1) := by
  have failed : (Program.mk [.assignment "x" (.number 1), .assignment "x" (.reference "y")]).run
      ⟨.refuse, some 4⟩ ⟨.empty, 0⟩ =
        (.error (.undefinedVariable "y"), ⟨Bindings.empty.assign "x" 1, 4⟩) := by
    rw [Program.run_eq (List.cons_ne_nil _ _)]
    simp only [runStatements_cons]
    rfl
  obtain ⟨front, failing, back, reached, split, fails, -, -, leaves, -⟩ :=
    run_failed (List.cons_ne_nil _ _) failed
  exact ⟨failed, front, failing, back, reached, split, fails, leaves⟩

end Failures

end Calculator
