/-
**Runs one after the other as one run.**

* `succeeding`: the statements of a run before the first that fails; `runStatements_succeeding`: alone
  they succeed, and they leave what the run leaves.
* `Step.Uncounted`: the step does the same whatever the count of visits is, and adds the same to it.
* `runStatements_join`: without a budget, two runs of which each starts its own count are one run.

Only a budget looks at the count, so without one it matters to no step when the count was started.
-/

import Calculator.Proofs.Evaluation.Budget

namespace Calculator

/-! ### Statements that succeed -/

/-- The statements before the first that fails, or all of them. -/
def succeeding (rules : Rules) : List Statement → Progress → List Statement
  | [], _ => []
  | statement :: rest, σ =>
    match statement.run rules σ with
    | (.ok _, σ) => statement :: succeeding rules rest σ
    | (.error _, _) => []

section Succeeding

variable {rules : Rules} {value x : Float} {statements front : List Statement} {σ mid last : Progress}
  {error : RuntimeError}

theorem succeeding_append (passed : runStatements rules value front σ = (.ok x, mid))
    (back : List Statement) :
    succeeding rules (front ++ back) σ = front ++ succeeding rules back mid := by
  induction front generalizing value σ with
  | nil =>
    cases passed
    rfl
  | cons statement front ih =>
    rw [runStatements_cons] at passed
    obtain ⟨y, next, done, passed⟩ := Step.bind_eq_ok_iff.mp passed
    rw [← statement.run_eq_evaluate] at done
    rw [List.cons_append, succeeding, done]
    exact congrArg _ (ih passed)

/-- Where a run succeeds, all its statements do. -/
theorem succeeding_of_ok (done : runStatements rules value statements σ = (.ok x, last)) :
    succeeding rules statements σ = statements := by
  have all := succeeding_append done []
  rwa [List.append_nil, succeeding, List.append_nil] at all

/-- Where a run fails, they are those before the one that fails. -/
theorem FailsIn.succeeding_eq {start : Bindings} {failing : Statement} {reached : Progress}
    (fails : FailsIn rules start front reached failing error last) (back : List Statement) :
    succeeding rules (front ++ failing :: back) ⟨start, 0⟩ = front := by
  obtain ⟨y, passed⟩ := fails.passed
  rw [succeeding_append passed, succeeding, fails.failed]
  exact List.append_nil front

end Succeeding

/-! ### Counts -/

/-- The progress with so many more visits. -/
def Progress.later (extra : Nat) (σ : Progress) : Progress := { σ with visits := σ.visits + extra }

/-- The step does the same whatever the count of visits is, and adds the same to it. -/
def Step.Uncounted {α : Type} (step : Step α) : Prop :=
  ∀ σ extra, step (Progress.later extra σ) = ((step σ).1, (step σ).2.later extra)

section Uncounted

variable {α β : Type}

theorem Step.Uncounted.pure (value : α) : (Pure.pure value : Step α).Uncounted := fun _ _ => rfl

theorem Step.Uncounted.bind {first : Step α} {second : α → Step β} (left : first.Uncounted)
    (right : ∀ x, (second x).Uncounted) : (first >>= second).Uncounted := by
  intro σ extra
  have moved := left σ extra
  rcases ran : first σ with ⟨error | x, mid⟩ <;> rw [ran] at moved
  · rw [bind_of_error moved, bind_of_error ran]
  · rw [bind_of_ok moved, bind_of_ok ran]
    exact right x mid extra

variable (division : DivisionPolicy)

theorem Rules.visit_uncounted : (Rules.visit ⟨division, none⟩).Uncounted := by
  intro σ extra
  show (Except.ok (), Progress.mk σ.bindings (σ.visits + extra + 1)) =
    (.ok (), ⟨σ.bindings, σ.visits + 1 + extra⟩)
  rw [Nat.add_right_comm]

theorem readVariable_uncounted (name : String) : (readVariable name).Uncounted := by
  intro σ extra
  unfold readVariable Progress.later
  cases σ.bindings.lookup? name <;> rfl

theorem Expr.evaluate_uncounted (value : Expr) : (value.evaluate ⟨division, none⟩).Uncounted := by
  induction value with
  | number x => exact .bind (Rules.visit_uncounted division) fun _ => .pure x
  | reference name =>
    exact .bind (Rules.visit_uncounted division) fun _ => readVariable_uncounted name
  | binary op left right ihLeft ihRight =>
    refine .bind (Rules.visit_uncounted division) fun _ => ?_
    refine .bind ihLeft fun x => ?_
    refine .bind ihRight fun y => ?_
    exact fun _ _ => rfl

theorem Statement.evaluate_uncounted (statement : Statement) :
    (statement.evaluate ⟨division, none⟩).Uncounted := by
  cases statement with
  | expression value => exact value.evaluate_uncounted division
  | assignment name value =>
    refine .bind (Rules.visit_uncounted division) fun _ => ?_
    refine .bind (value.evaluate_uncounted division) fun x => ?_
    exact .bind (fun _ _ => rfl) fun _ => .pure x

theorem runStatements_uncounted (value : Float) (statements : List Statement) :
    (runStatements ⟨division, none⟩ value statements).Uncounted := by
  induction statements generalizing value with
  | nil => exact .pure value
  | cons statement rest ih =>
    rw [runStatements_cons]
    exact .bind (statement.evaluate_uncounted division) ih

end Uncounted

/-! ### Runs in a row -/

/-- The value of a run of statements does not depend on the value before it. -/
theorem runStatements_value {statements : List Statement} (nonempty : statements ≠ []) (rules : Rules)
    (value value' : Float) : runStatements rules value statements = runStatements rules value' statements := by
  cases statements with
  | nil => exact absurd rfl nonempty
  | cons => rfl

/-- **Without a budget, two runs of which each starts its own count are one run.** -/
theorem runStatements_join {division : DivisionPolicy} {front back : List Statement}
    {start : Bindings} {x y : Float} {mid last : Progress}
    (passed : runStatements ⟨division, none⟩ 0 front ⟨start, 0⟩ = (.ok x, mid))
    (further : runStatements ⟨division, none⟩ 0 back ⟨mid.bindings, 0⟩ = (.ok y, last)) :
    runStatements ⟨division, none⟩ 0 (front ++ back) ⟨start, 0⟩ =
      (.ok (if back = [] then x else y), last.later mid.visits) := by
  rw [runStatements_append passed]
  by_cases nothing : back = []
  · subst nothing
    cases further
    rw [if_pos rfl, Progress.later, Nat.zero_add]
    rfl
  · have onward := runStatements_uncounted division 0 back ⟨mid.bindings, 0⟩ mid.visits
    rw [further, Progress.later, Nat.zero_add] at onward
    rw [if_neg nothing, runStatements_value nothing _ x 0]
    exact onward

end Calculator
