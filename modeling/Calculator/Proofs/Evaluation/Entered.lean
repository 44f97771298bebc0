/-
**The nodes that a statement enters.**

* `Task.enters`: the tasks that enter a node, which is what the count of visits counts.
* `Machine.taken`: the tasks that turns take up; `Machine.visits_advance`: as many as enter a node are
  counted, also where the last of them fails.
* `Statement.entered`: those of a statement; `Statement.visits_run`: a run counts them and nothing else;
  `Statement.length_entered`: they are at most its nodes, and all of them if it does not fail.
* `Statement.run_spent`: where the budget is spent, the first node is refused.
-/

import Calculator.Proofs.Evaluation.Turns

namespace Calculator

/-- The task enters a node. -/
def Task.enters : Task → Bool
  | .visit _ | .begin _ _ => true
  | .combine _ | .assign _ => false

/-- The progress at a halt. -/
def Halt.progress : Halt → Progress
  | .finished _ σ | .failed _ σ | .starved σ => σ

theorem Halt.progress_ofOutcome (outcome : Except RuntimeError Float × Progress) :
    (ofOutcome outcome).progress = outcome.2 := by
  obtain ⟨result, moved⟩ := outcome
  cases result <;> rfl

namespace Machine

/-- The progress after turns. -/
def Turn.progress : Turn → Progress
  | .go next => next.progress
  | .halt ended => ended.progress

/-- The tasks that so many turns take up, in order; the last of them may fail. -/
def taken (rules : Rules) : Nat → State → List Task
  | 0, _ => []
  | count + 1, s =>
    s.work.take 1 ++
      match turn rules s with
      | .go next => taken rules count next
      | .halt _ => []

variable (rules : Rules)

/-- **A turn counts a visit if the task that it takes up enters a node, and none otherwise.** -/
theorem visits_turn (s : State) :
    (turn rules s).progress.visits = s.progress.visits + (s.work.take 1).countP Task.enters := by
  match s with
  | ⟨[], values, σ⟩ => rfl
  | ⟨.visit value :: work, values, σ⟩ =>
    show _ = σ.visits + 1
    rw [turn]
    have counted := congrArg Progress.visits (rules.visit_snd σ)
    generalize rules.visit σ = entered at counted ⊢
    obtain ⟨_ | _, moved⟩ := entered
    · exact counted
    · cases value with
      | number | binary => exact counted
      | reference name =>
        have still := congrArg Progress.visits (readVariable_snd name moved)
        dsimp only
        generalize readVariable name moved = found at still ⊢
        obtain ⟨_ | _, after⟩ := found <;> exact still.trans counted
  | ⟨.begin name value :: work, values, σ⟩ =>
    show _ = σ.visits + 1
    rw [turn]
    have counted := congrArg Progress.visits (rules.visit_snd σ)
    generalize rules.visit σ = entered at counted ⊢
    obtain ⟨_ | _, moved⟩ := entered <;> exact counted
  | ⟨.combine op :: work, right :: left :: values, σ⟩ =>
    rw [turn]
    cases rules.apply op left right <;> rfl
  | ⟨.combine op :: work, [], σ⟩ | ⟨.combine op :: work, [x], σ⟩ => rfl
  | ⟨.assign name :: work, x :: values, σ⟩ | ⟨.assign name :: work, [], σ⟩ => rfl

/-- **Turns count the nodes that they enter.** -/
theorem visits_advance (count : Nat) (s : State) :
    (advance rules count s).progress.visits =
      s.progress.visits + (taken rules count s).countP Task.enters := by
  induction count generalizing s with
  | zero => rfl
  | succ count ih =>
    have first := visits_turn rules s
    rw [advance, taken, List.countP_append]
    cases went : turn rules s with
    | halt halt =>
      rw [went] at first
      exact first
    | go next =>
      rw [went] at first
      rw [← Nat.add_assoc, ← first]
      exact ih next

end Machine

namespace Statement

variable {rules : Rules}

/-- The nodes that a statement enters, in order. -/
def entered (rules : Rules) (statement : Statement) (σ : Progress) : List Task :=
  (Machine.taken rules (statement.task.weight + 1) (Machine.State.start statement σ)).filter Task.enters

/-- **A run of a statement counts the nodes that it enters.** -/
theorem visits_run (statement : Statement) (σ : Progress) :
    (statement.run rules σ).2.visits = σ.visits + (statement.entered rules σ).length := by
  have whole : Machine.advance rules (statement.task.weight + 1) (Machine.State.start statement σ) =
      .halt (Machine.run rules [statement.task] [] σ) :=
    Machine.advance_eq_run rules (Nat.lt_succ_self _)
  have counted := Machine.visits_advance rules (statement.task.weight + 1)
    (Machine.State.start statement σ)
  rw [whole] at counted
  rw [entered, ← List.countP_eq_length_filter, statement.run_eq_evaluate, ← Halt.progress_ofOutcome,
    ← Machine.run_eq_ofOutcome]
  exact counted

/-- A statement enters each of its nodes at most once, and all of them if it does not fail. -/
theorem length_entered (rules : Rules) (statement : Statement) (σ : Progress) :
    (statement.entered rules σ).length ≤ statement.size ∧
      ∀ x last, statement.run rules σ = (.ok x, last) →
        (statement.entered rules σ).length = statement.size := by
  have counted : (statement.run rules σ).2.visits = _ := statement.visits_run σ
  have takes := statement.evaluate_takes rules
  rw [statement.run_eq_evaluate] at counted ⊢
  rcases ran : statement.evaluate rules σ with ⟨error | y, reached⟩ <;> rw [ran] at counted
  · have bounded := takes.failed σ reached error ran
    rw [counted] at bounded
    refine ⟨Nat.le_of_add_le_add_left bounded, ?_⟩
    rintro x last ⟨⟩
  · have all := takes.done σ reached y ran
    have whole := Nat.add_left_cancel (counted.symm.trans all)
    exact ⟨Nat.le_of_eq whole, fun _ _ _ => whole⟩

/-- **Where the budget is spent, a statement fails at its first node and binds nothing.** -/
theorem run_spent {limit : Nat} (budget : rules.budget = some limit) (statement : Statement)
    (σ : Progress) (spent : limit ≤ σ.visits) :
    statement.run rules σ = (.error (.stepLimit limit), { σ with visits := σ.visits + 1 }) ∧
      statement.entered rules σ = [statement.task] := by
  have refused : rules.visit σ = (.error (.stepLimit limit), { σ with visits := σ.visits + 1 }) := by
    rw [Rules.visit, budget]
    exact if_pos (Nat.lt_succ_of_le spent)
  cases statement with
  | expression value =>
    constructor
    · rw [run_eq_evaluate, evaluate]
      cases value <;> exact Step.bind_of_error refused
    · simp only [entered, Machine.taken, Machine.State.start, Machine.turn, task, refused]
      rfl
  | assignment name value =>
    constructor
    · rw [run_eq_evaluate, evaluate]
      exact Step.bind_of_error refused
    · simp only [entered, Machine.taken, Machine.State.start, Machine.turn, task, refused]
      rfl

end Statement

end Calculator
