/-
**A budget cuts a run short and changes nothing else.**

* `Step.Truncates`: under a budget the step does what it does without one if that takes no more visits,
  and otherwise it fails with the first visit too many.
* `Expr.evaluate_truncates`, `Statement.evaluate_truncates`, `runStatements_truncates`: so do trees and
  runs of statements.
* `runStatements_of_budget`: what succeeds under a budget succeeds without one, in the same way.

Only a visit looks at the budget. Two steps in a row are cut short as each of them is, because the
second takes no visits back: a run that goes past the budget in the first step goes past it.
-/

import Calculator.Proofs.Evaluation.Runs

namespace Calculator

/-- The step `limited` is the step `free` up to so many visits. -/
structure Step.Truncates {α : Type} (limit : Nat) (free limited : Step α) : Prop where
  counts : ∀ σ, σ.visits ≤ (free σ).2.visits
  within : ∀ σ, (free σ).2.visits ≤ limit → limited σ = free σ
  beyond : ∀ σ, σ.visits ≤ limit → limit < (free σ).2.visits →
    ∃ bindings, limited σ = (.error (.stepLimit limit), ⟨bindings, limit + 1⟩)

namespace Step.Truncates

variable {α β : Type} {limit : Nat}

/-! ### Steps -/

/-- A step that visits nothing is not cut short. -/
theorem of_still {step : Step α} (visits : ∀ σ, (step σ).2.visits = σ.visits) :
    Truncates limit step step where
  counts := fun σ => Nat.le_of_eq (visits σ).symm
  within := fun _ _ => rfl
  beyond := fun σ fits exceeds => absurd (visits σ ▸ exceeds) (Nat.not_lt.mpr fits)

theorem pure (value : α) : Truncates limit (Pure.pure value : Step α) (Pure.pure value) :=
  of_still fun _ => rfl

theorem bind {first first' : Step α} {second second' : α → Step β}
    (left : Truncates limit first first') (right : ∀ x, Truncates limit (second x) (second' x)) :
    Truncates limit (first >>= second) (first' >>= second') where
  counts := by
    intro σ
    have reached := left.counts σ
    rcases ran : first σ with ⟨error | x, mid⟩ <;> rw [ran] at reached
    · rw [bind_of_error ran]
      exact reached
    · rw [bind_of_ok ran]
      exact Nat.le_trans reached ((right x).counts mid)
  within := by
    intro σ fits
    rcases ran : first σ with ⟨error | x, mid⟩
    · rw [bind_of_error ran] at fits ⊢
      have same : first' σ = first σ := left.within σ (by rwa [ran])
      rw [bind_of_error (same.trans ran)]
    · rw [bind_of_ok ran] at fits ⊢
      have reached := Nat.le_trans ((right x).counts mid) fits
      have same : first' σ = first σ := left.within σ (by rwa [ran])
      rw [bind_of_ok (same.trans ran), (right x).within mid fits]
  beyond := by
    intro σ fits exceeds
    rcases ran : first σ with ⟨error | x, mid⟩
    · rw [bind_of_error ran] at exceeds
      obtain ⟨bindings, failed⟩ := left.beyond σ fits (by rwa [ran])
      exact ⟨bindings, bind_of_error failed⟩
    · rw [bind_of_ok ran] at exceeds
      by_cases reached : mid.visits ≤ limit
      · have same : first' σ = first σ := left.within σ (by rwa [ran])
        obtain ⟨bindings, failed⟩ := (right x).beyond mid reached exceeds
        exact ⟨bindings, (bind_of_ok (same.trans ran)).trans failed⟩
      · obtain ⟨bindings, failed⟩ := left.beyond σ fits (by rw [ran]; exact Nat.lt_of_not_le reached)
        exact ⟨bindings, bind_of_error failed⟩

/-- What succeeds under a budget stays within it, and does the same without it. -/
theorem eq_of_ok {free limited : Step α} (truncates : Truncates limit free limited)
    {σ last : Progress} {x : α} (fits : σ.visits ≤ limit) (done : limited σ = (.ok x, last)) :
    free σ = (.ok x, last) ∧ last.visits ≤ limit := by
  by_cases within : (free σ).2.visits ≤ limit
  · have same := truncates.within σ within
    rw [← same, done] at within
    exact ⟨same.symm.trans done, within⟩
  · obtain ⟨bindings, failed⟩ := truncates.beyond σ fits (Nat.lt_of_not_le within)
    cases done.symm.trans failed

end Step.Truncates

/-! ### Trees and runs -/

section Trees

variable (division : DivisionPolicy) (limit : Nat)

theorem Rules.visit_truncates :
    Step.Truncates limit (Rules.visit ⟨division, none⟩) (Rules.visit ⟨division, some limit⟩) where
  counts := fun σ => Nat.le_succ σ.visits
  within := fun σ fits => if_neg (Nat.not_lt.mpr fits)
  beyond := by
    intro σ fits exceeds
    have spent : σ.visits = limit := Nat.le_antisymm fits (Nat.le_of_lt_succ exceeds)
    refine ⟨σ.bindings, ?_⟩
    rw [← spent]
    exact if_pos (Nat.lt_succ_self σ.visits)

/-- An operation does not look at the budget. -/
theorem Rules.operate_truncates (op : Operator) (x y : Float) :
    Step.Truncates limit (Rules.operate ⟨division, none⟩ op x y)
      (Rules.operate ⟨division, some limit⟩ op x y) := by
  have same : Rules.operate ⟨division, some limit⟩ op x y = Rules.operate ⟨division, none⟩ op x y := by
    cases op <;> rfl
  rw [same]
  exact .of_still fun _ => rfl

theorem readVariable_truncates (name : String) :
    Step.Truncates limit (readVariable name) (readVariable name) :=
  .of_still fun σ => by rw [readVariable_snd]

theorem Expr.evaluate_truncates (value : Expr) :
    Step.Truncates limit (value.evaluate ⟨division, none⟩) (value.evaluate ⟨division, some limit⟩) := by
  induction value with
  | number x => exact .bind (Rules.visit_truncates division limit) fun _ => .pure x
  | reference name =>
    refine .bind (Rules.visit_truncates division limit) fun _ => ?_
    exact readVariable_truncates limit name
  | binary op left right ihLeft ihRight =>
    refine .bind (Rules.visit_truncates division limit) fun _ => ?_
    refine .bind ihLeft fun x => ?_
    refine .bind ihRight fun y => ?_
    exact Rules.operate_truncates division limit op x y

theorem Statement.evaluate_truncates (statement : Statement) :
    Step.Truncates limit (statement.evaluate ⟨division, none⟩)
      (statement.evaluate ⟨division, some limit⟩) := by
  cases statement with
  | expression value => exact value.evaluate_truncates division limit
  | assignment name value =>
    refine .bind (Rules.visit_truncates division limit) fun _ => ?_
    refine .bind (value.evaluate_truncates division limit) fun x => ?_
    exact .of_still fun _ => rfl

/-- **A budget cuts a run of statements short and changes nothing else.** -/
theorem runStatements_truncates (value : Float) (statements : List Statement) :
    Step.Truncates limit (runStatements ⟨division, none⟩ value statements)
      (runStatements ⟨division, some limit⟩ value statements) := by
  induction statements generalizing value with
  | nil => exact .pure value
  | cons statement rest ih =>
    rw [runStatements_cons, runStatements_cons]
    exact .bind (statement.evaluate_truncates division limit) ih

end Trees

/-- What succeeds under a budget succeeds without one, in the same way. -/
theorem runStatements_of_budget {rules : Rules} {value x : Float} {statements : List Statement}
    {start : Bindings} {last : Progress}
    (done : runStatements rules value statements ⟨start, 0⟩ = (.ok x, last)) :
    runStatements ⟨rules.division, none⟩ value statements ⟨start, 0⟩ = (.ok x, last) := by
  obtain ⟨division, budget⟩ := rules
  cases budget with
  | none => exact done
  | some limit =>
    exact ((runStatements_truncates division limit value statements).eq_of_ok (Nat.zero_le _) done).1

end Calculator
