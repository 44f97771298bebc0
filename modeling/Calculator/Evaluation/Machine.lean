/-
**Evaluation with two stacks.**

* `Task`: something that waits to be done; `Machine.run`: does the tasks in order, with a stack of
  values, until none is left.
* `run_visit`: an expression on the stack of tasks puts its recursive value on the stack of values.
* `Statement.run`: the value of a statement, from the machine; `run_eq_evaluate`: it is the
  recursive one.

The machine needs no recursion however long a chain of operators is. It never runs out of values:
`Halt.starved` is reached from no statement.
-/

import Calculator.Evaluation.Basic

namespace Calculator

/-! ### The machine -/

/-- Something that waits to be done. -/
inductive Task where
  | visit (value : Expr)
  | begin (name : String) (value : Expr)
  | combine (op : Operator)
  | assign (name : String)
  deriving DecidableEq

/-- What a task adds to the length of the work. -/
def Task.weight : Task → Nat
  | .visit value => 2 * value.size
  | .begin _ value => 2 * value.size + 2
  | .combine _ => 1
  | .assign _ => 1

/-- The work that a list of tasks stands for. -/
def Task.work : List Task → Nat
  | [] => 0
  | task :: rest => task.weight + work rest

/-- How a run ends. -/
inductive Halt where
  | finished (values : List Float) (progress : Progress)
  | failed (error : RuntimeError) (progress : Progress)
  /-- A task found fewer values than it takes. -/
  | starved (progress : Progress)

namespace Machine

/-- Does the tasks in order; `values` holds the results not yet used, the latest first. -/
def run (rules : Rules) : List Task → List Float → Progress → Halt
  | [], values, σ => .finished values σ
  | .visit value :: work, values, σ =>
    match rules.visit σ with
    | (.error error, σ) => .failed error σ
    | (.ok _, σ) =>
      match value with
      | .number x => run rules work (x :: values) σ
      | .reference name =>
        match readVariable name σ with
        | (.error error, σ) => .failed error σ
        | (.ok x, σ) => run rules work (x :: values) σ
      | .binary op left right =>
        run rules (.visit left :: .visit right :: .combine op :: work) values σ
  | .begin name value :: work, values, σ =>
    match rules.visit σ with
    | (.error error, σ) => .failed error σ
    | (.ok _, σ) => run rules (.visit value :: .assign name :: work) values σ
  | .combine op :: work, right :: left :: values, σ =>
    match rules.apply op left right with
    | .error error => .failed error σ
    | .ok x => run rules work (x :: values) σ
  | .combine _ :: _, _, σ => .starved σ
  | .assign name :: work, x :: values, σ =>
    run rules work (x :: values) (assignVariable name x σ).2
  | .assign _ :: _, [], σ => .starved σ
termination_by tasks => Task.work tasks
decreasing_by
  all_goals simp only [Task.work, Task.weight, Expr.size]
  all_goals omega

/-- A run that goes on after a step, unless the step failed. -/
def after {α : Type} (outcome : Except RuntimeError α × Progress) (next : α → Progress → Halt) :
    Halt :=
  match outcome with
  | (.ok value, σ) => next value σ
  | (.error error, σ) => .failed error σ

theorem after_bind {α β : Type} (first : Step α) (second : α → Step β) (σ : Progress)
    (next : β → Progress → Halt) :
    after ((first >>= second) σ) next =
      after (first σ) fun value σ => after (second value σ) next := by
  change after (Step.bind first second σ) next = _
  unfold Step.bind
  generalize first σ = outcome
  obtain ⟨result, moved⟩ := outcome
  cases result <;> rfl

theorem run_visit (rules : Rules) (value : Expr) (work : List Task) (values : List Float)
    (σ : Progress) :
    run rules (.visit value :: work) values σ =
      after (value.evaluate rules σ) fun x σ => run rules work (x :: values) σ := by
  induction value generalizing work values σ with
  | number x =>
    rw [run, Expr.evaluate, after_bind]
    generalize rules.visit σ = entered
    obtain ⟨result, moved⟩ := entered
    cases result <;> rfl
  | reference name =>
    rw [run, Expr.evaluate, after_bind]
    generalize rules.visit σ = entered
    obtain ⟨result, moved⟩ := entered
    cases result with
    | error error => rfl
    | ok _ =>
      simp only [after]
      generalize readVariable name moved = found
      obtain ⟨result, moved⟩ := found
      cases result <;> rfl
  | binary op left right ihLeft ihRight =>
    rw [run, Expr.evaluate, after_bind]
    generalize rules.visit σ = entered
    obtain ⟨result, moved⟩ := entered
    cases result with
    | error error => rfl
    | ok _ =>
      simp only [after_bind]
      simp only [after, ihLeft, ihRight]
      generalize left.evaluate rules moved = first
      obtain ⟨result, moved⟩ := first
      cases result with
      | error error => rfl
      | ok x =>
        dsimp only
        generalize right.evaluate rules moved = second
        obtain ⟨result, moved⟩ := second
        cases result with
        | error error => rfl
        | ok y =>
          dsimp only
          rw [run]
          unfold Rules.operate
          generalize rules.apply op x y = applied
          cases applied <;> rfl

end Machine

/-! ### Statements -/

/-- The task that a statement is. -/
def Statement.task : Statement → Task
  | .expression value => .visit value
  | .assignment name value => .begin name value

theorem Machine.run_task (rules : Rules) (statement : Statement) (σ : Progress) :
    run rules [statement.task] [] σ =
      after (statement.evaluate rules σ) fun x σ => .finished [x] σ := by
  cases statement with
  | expression value =>
    rw [Statement.task, run_visit, Statement.evaluate]
    congr 1
    funext x σ
    rw [run]
  | assignment name value =>
    rw [Statement.task, run, Statement.evaluate, after_bind]
    generalize rules.visit σ = entered
    obtain ⟨result, moved⟩ := entered
    cases result with
    | error error => rfl
    | ok _ =>
      simp only [after_bind, run_visit]
      simp only [after]
      generalize value.evaluate rules moved = computed
      obtain ⟨result, moved⟩ := computed
      cases result with
      | error error => rfl
      | ok x => simp only [run]; rfl

/-- A halt with one value or a failure; no run of a statement ends in another way. -/
inductive Halt.Settled : Halt → Prop
  | finished (x : Float) (σ : Progress) : Settled (.finished [x] σ)
  | failed (error : RuntimeError) (σ : Progress) : Settled (.failed error σ)

theorem Machine.run_settled (rules : Rules) (statement : Statement) (σ : Progress) :
    (run rules [statement.task] [] σ).Settled := by
  rw [run_task]
  generalize statement.evaluate rules σ = outcome
  obtain ⟨result, moved⟩ := outcome
  cases result
  · exact .failed ..
  · exact .finished ..

/-- What a settled halt amounts to. -/
def Halt.outcome : (halt : Halt) → halt.Settled → Except RuntimeError Float × Progress
  | .finished [x] σ, _ => (.ok x, σ)
  | .failed error σ, _ => (.error error, σ)

/-- The value of a statement, computed with two stacks. -/
def Statement.run (rules : Rules) (statement : Statement) : Step Float := fun σ =>
  (Machine.run rules [statement.task] [] σ).outcome (Machine.run_settled rules statement σ)

theorem Statement.run_eq_evaluate (rules : Rules) (statement : Statement) :
    statement.run rules = statement.evaluate rules := by
  funext σ
  have settled := Machine.run_settled rules statement σ
  have ran := Machine.run_task rules statement σ
  suffices ∀ (halt : Halt) (settled : halt.Settled), halt = Machine.after
      (statement.evaluate rules σ) (fun x σ => .finished [x] σ) →
      halt.outcome settled = statement.evaluate rules σ from this _ settled ran
  generalize statement.evaluate rules σ = outcome
  obtain ⟨result, moved⟩ := outcome
  rintro halt settled rfl
  cases result <;> rfl

end Calculator
