/-
**Runs of statements.**

* `Program.size`: the nodes of a program, and `runStatements_takes`: they are its visits.
* `runStatements_append`: what has run is left behind, and the run goes on from there.
* `FailsIn`: the statement in which a run fails; `exists_failsIn`: every run that fails does so in one
  of its statements, and `FailsIn.unique`: in no other.
-/

import Calculator.Evaluation.Session
import Calculator.Proofs.Evaluation.Steps

namespace Calculator

/-! ### Sizes -/

/-- How many nodes a program has below its root. -/
def Program.size (program : Program) : Nat :=
  program.statements.foldr (fun statement total => statement.size + total) 0

theorem Program.size_nil : (Program.mk []).size = 0 := rfl

theorem Program.size_cons (statement : Statement) (rest : List Statement) :
    (Program.mk (statement :: rest)).size = statement.size + (Program.mk rest).size := rfl

theorem Program.size_append (front back : List Statement) :
    (Program.mk (front ++ back)).size = (Program.mk front).size + (Program.mk back).size := by
  induction front with
  | nil => rw [List.nil_append, size_nil, Nat.zero_add]
  | cons statement front ih => rw [List.cons_append, size_cons, size_cons, ih, Nat.add_assoc]

/-- A beginning that is longer than the statements before `next` has these and `next`. -/
theorem concat_prefix {front back other : List Statement} {next : Statement}
    (beginning : other <+: front ++ next :: back) (longer : front.length < other.length) :
    front ++ [next] <+: other := by
  have whole : front ++ [next] <+: front ++ next :: back :=
    ⟨back, by rw [List.append_assoc, List.singleton_append]⟩
  refine List.prefix_of_prefix_length_le whole beginning ?_
  rw [List.length_append, List.length_singleton]
  exact longer

/-! ### Statement by statement -/

section Runs

variable {rules : Rules} {value x : Float} {statement : Statement} {statements front back : List Statement}
  {σ mid last : Progress} {error : RuntimeError}

theorem runStatements_cons (rules : Rules) (value : Float) (statement : Statement)
    (rest : List Statement) :
    runStatements rules value (statement :: rest) =
      statement.evaluate rules >>= fun x => runStatements rules x rest := by
  rw [runStatements, statement.run_eq_evaluate]

/-- **What has run is left behind, and the run goes on from there.** -/
theorem runStatements_append (passed : runStatements rules value front σ = (.ok x, mid))
    (back : List Statement) :
    runStatements rules value (front ++ back) σ = runStatements rules x back mid := by
  induction front generalizing value σ with
  | nil =>
    cases passed
    rfl
  | cons statement front ih =>
    rw [runStatements_cons] at passed
    obtain ⟨y, next, done, passed⟩ := Step.bind_eq_ok_iff.mp passed
    rw [List.cons_append, runStatements_cons, Step.bind_of_ok done]
    exact ih passed

/-- The visits of statements are their nodes. -/
theorem runStatements_takes (rules : Rules) (value : Float) (statements : List Statement) :
    (runStatements rules value statements).Takes (Program.mk statements).size := by
  induction statements generalizing value with
  | nil => exact .pure value
  | cons statement rest ih =>
    rw [runStatements_cons, Program.size_cons]
    exact .bind (statement.evaluate_takes rules) ih

/-- A program that has statements runs them, with no visits made. -/
theorem Program.run_eq {program : Program} (nonempty : program.statements ≠ []) (rules : Rules)
    (σ : Progress) :
    program.run rules σ = runStatements rules 0 program.statements ⟨σ.bindings, 0⟩ := by
  obtain ⟨statements⟩ := program
  cases statements with
  | nil => exact absurd rfl nonempty
  | cons statement rest => rfl

/-! ### The statement that fails -/

/-- From these bindings the statements `front` succeed, and `failing` fails behind them. -/
structure FailsIn (rules : Rules) (start : Bindings) (front : List Statement) (reached : Progress)
    (failing : Statement) (error : RuntimeError) (last : Progress) : Prop where
  passed : ∃ value, runStatements rules 0 front ⟨start, 0⟩ = (.ok value, reached)
  failed : failing.run rules reached = (.error error, last)

theorem exists_failing (failed : runStatements rules value statements σ = (.error error, last)) :
    ∃ front failing back reached, statements = front ++ failing :: back ∧
      (∃ x, runStatements rules value front σ = (.ok x, reached)) ∧
      failing.evaluate rules reached = (.error error, last) := by
  induction statements generalizing value σ with
  | nil => cases failed
  | cons statement rest ih =>
    rw [runStatements_cons] at failed
    rcases Step.bind_eq_error_iff.mp failed with failed | ⟨x, mid, done, failed⟩
    · exact ⟨[], statement, rest, σ, rfl, ⟨value, rfl⟩, failed⟩
    · obtain ⟨front, failing, back, reached, rfl, ⟨y, passed⟩, failed⟩ := ih failed
      refine ⟨statement :: front, failing, back, reached, rfl, ⟨y, ?_⟩, failed⟩
      rw [runStatements_cons, Step.bind_of_ok done]
      exact passed

/-- **A run that fails does so in one of its statements.** -/
theorem exists_failsIn {start : Bindings}
    (failed : runStatements rules 0 statements ⟨start, 0⟩ = (.error error, last)) :
    ∃ front failing back reached, statements = front ++ failing :: back ∧
      FailsIn rules start front reached failing error last := by
  obtain ⟨front, failing, back, reached, split, passed, failed⟩ := exists_failing failed
  refine ⟨front, failing, back, reached, split, passed, ?_⟩
  rw [failing.run_eq_evaluate]
  exact failed

namespace FailsIn

variable {start : Bindings} {failing : Statement} {reached : Progress}

theorem evaluate_eq (fails : FailsIn rules start front reached failing error last) :
    failing.evaluate rules reached = (.error error, last) := by
  rw [← failing.run_eq_evaluate]
  exact fails.failed

/-- Such a run fails, whatever stands behind the place. -/
theorem runStatements_eq (fails : FailsIn rules start front reached failing error last)
    (back : List Statement) :
    runStatements rules 0 (front ++ failing :: back) ⟨start, 0⟩ = (.error error, last) := by
  obtain ⟨y, passed⟩ := fails.passed
  rw [runStatements_append passed, runStatements_cons, Step.bind_of_error fails.evaluate_eq]

theorem length_le {front' back back' : List Statement} {failing' : Statement} {reached' last' : Progress}
    {error' : RuntimeError} (fails : FailsIn rules start front reached failing error last)
    (fails' : FailsIn rules start front' reached' failing' error' last')
    (same : front ++ failing :: back = front' ++ failing' :: back') : front'.length ≤ front.length := by
  refine Nat.le_of_not_lt fun longer => ?_
  obtain ⟨more, rfl⟩ := concat_prefix ⟨failing' :: back', same.symm⟩ longer
  obtain ⟨y, passed⟩ := fails'.passed
  rw [List.append_assoc, List.singleton_append, fails.runStatements_eq more] at passed
  cases passed

/-- **A run fails in no more than one place.** -/
theorem unique {front' back back' : List Statement} {failing' : Statement} {reached' last' : Progress}
    {error' : RuntimeError} (fails : FailsIn rules start front reached failing error last)
    (fails' : FailsIn rules start front' reached' failing' error' last')
    (same : front ++ failing :: back = front' ++ failing' :: back') : front' = front :=
  (List.append_inj same (Nat.le_antisymm (fails'.length_le fails same.symm)
    (fails.length_le fails' same))).1.symm

end FailsIn

end Runs

end Calculator
