/-
**Why an evaluation fails.**

* `RuntimeError.Justified`: the reason that a failure has in the rules and in the progress made.
* `Statement.evaluate_justified`: every failure of a statement has its reason.

A statement is thus never refused for its shape or for an operator.
-/

import Calculator.Proofs.Evaluation.Steps

namespace Calculator

/-- The failure has its reason in the rules and the progress. -/
inductive RuntimeError.Justified (rules : Rules) (σ : Progress) : RuntimeError → Prop
  | undefinedVariable {name : String} (unbound : σ.bindings.lookup? name = none) :
      Justified rules σ (.undefinedVariable name)
  | divisionByZero (refused : rules.division = .refuse) : Justified rules σ .divisionByZero
  | stepLimit {limit : Nat} (budget : rules.budget = some limit) (spent : limit < σ.visits) :
      Justified rules σ (.stepLimit limit)

/-- Every failure of the step has its reason. -/
def Step.Justified {α : Type} (rules : Rules) (step : Step α) : Prop :=
  ∀ σ σ' error, step σ = (.error error, σ') → RuntimeError.Justified rules σ' error

/-! ### Steps -/

section Steps

variable {α β : Type} {rules : Rules}

theorem Step.Justified.pure (value : α) : Step.Justified rules (Pure.pure value : Step α) :=
  fun _ _ _ failed => nomatch failed

theorem Step.Justified.bind {first : Step α} {second : α → Step β}
    (left : first.Justified rules) (right : ∀ value, (second value).Justified rules) :
    (first >>= second).Justified rules := by
  intro σ σ' error failed
  rcases Step.bind_eq_error_iff.mp failed with failed | ⟨value, mid, done, failed⟩
  · exact left σ σ' error failed
  · exact right value mid σ' error failed

theorem Rules.visit_justified (rules : Rules) : rules.visit.Justified rules := by
  intro σ σ' error failed
  unfold Rules.visit at failed
  dsimp only at failed
  split at failed
  · cases failed
  · next limit budget =>
    by_cases spent : limit < σ.visits + 1
    · rw [if_pos spent] at failed
      cases failed
      exact .stepLimit budget spent
    · rw [if_neg spent] at failed
      cases failed

theorem readVariable_justified (rules : Rules) (name : String) :
    (readVariable name).Justified rules := by
  intro σ σ' error failed
  unfold readVariable at failed
  split at failed
  · cases failed
  · next unbound =>
    cases failed
    exact .undefinedVariable unbound

theorem assignVariable_justified (rules : Rules) (name : String) (value : Float) :
    (assignVariable name value).Justified rules :=
  fun _ _ _ failed => nomatch failed

theorem Rules.operate_justified (rules : Rules) (op : Operator) (left right : Float) :
    (rules.operate op left right).Justified rules := by
  intro σ σ' error failed
  obtain ⟨applied, rfl⟩ := Prod.mk.inj failed
  rcases rules.apply_cases op left right with ⟨value, done⟩ | ⟨-, -, strict, refused⟩
  · rw [done] at applied
    cases applied
  · rw [refused] at applied
    cases applied
    exact .divisionByZero strict

end Steps

/-! ### Trees -/

theorem Expr.evaluate_justified (rules : Rules) (value : Expr) :
    (value.evaluate rules).Justified rules := by
  induction value with
  | number x => exact .bind rules.visit_justified fun _ => .pure x
  | reference name => exact .bind rules.visit_justified fun _ => readVariable_justified rules name
  | binary op left right ihLeft ihRight =>
    refine .bind rules.visit_justified fun _ => ?_
    refine .bind ihLeft fun x => ?_
    refine .bind ihRight fun y => ?_
    exact rules.operate_justified op x y

/-- **Every failure of a statement has its reason.** -/
theorem Statement.evaluate_justified (rules : Rules) (statement : Statement) :
    (statement.evaluate rules).Justified rules := by
  cases statement with
  | expression value => exact value.evaluate_justified rules
  | assignment name value =>
    refine .bind rules.visit_justified fun _ => ?_
    refine .bind (value.evaluate_justified rules) fun x => ?_
    exact .bind (assignVariable_justified rules name x) fun _ => .pure x

end Calculator
