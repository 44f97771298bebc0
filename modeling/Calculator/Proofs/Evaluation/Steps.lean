/-
**What a step leaves behind.**

* `Step.bind_of_ok`, `Step.bind_eq_error_iff` and the like: two steps in a row, by their outcomes.
* `Rules.apply_cases`: an operation has a value, or its divisor is a zero and refused.
* `Step.Still`: the step makes no binding; `Step.Atomic`: it makes none if it fails.
* `Step.Takes`: how many nodes the step visits, and that it visits no more if it fails.
* `Expr.evaluate_still`, `Expr.evaluate_takes`: an expression makes no binding, and its visits are its
  nodes.
* `Statement.evaluate_atomic`, `Statement.evaluate_takes`, `Statement.evaluate_ok`: the same of a
  statement that fails, and the one binding of a statement that does not.

Every property here is one of `pure` and is kept by `bind`, so that of a tree follows its evaluation.
-/

import Calculator.Evaluation.Basic

namespace Calculator

namespace Step

variable {α β : Type} {first : Step α} {second : α → Step β} {σ mid last : Progress}

/-! ### Two steps in a row -/

theorem bind_of_ok {x : α} (done : first σ = (.ok x, mid)) : (first >>= second) σ = second x mid := by
  show Step.bind first second σ = _
  rw [Step.bind, done]

theorem bind_of_error {error : RuntimeError} (failed : first σ = (.error error, mid)) :
    (first >>= second) σ = (.error error, mid) := by
  show Step.bind first second σ = _
  rw [Step.bind, failed]

theorem bind_eq_ok_iff {y : β} :
    (first >>= second) σ = (.ok y, last) ↔
      ∃ x mid, first σ = (.ok x, mid) ∧ second x mid = (.ok y, last) := by
  rcases ran : first σ with ⟨error | x, mid⟩
  · rw [bind_of_error ran]
    refine iff_of_false (fun same => nomatch same) ?_
    rintro ⟨x, mid, same, -⟩
    cases same
  · rw [bind_of_ok ran]
    constructor
    · exact fun done => ⟨x, mid, rfl, done⟩
    · rintro ⟨x, mid, ⟨⟩, done⟩
      exact done

theorem bind_eq_error_iff {error : RuntimeError} :
    (first >>= second) σ = (.error error, last) ↔
      first σ = (.error error, last) ∨
        ∃ x mid, first σ = (.ok x, mid) ∧ second x mid = (.error error, last) := by
  rcases ran : first σ with ⟨error' | x, mid⟩
  · rw [bind_of_error ran]
    constructor
    · intro same
      cases same
      exact .inl rfl
    · rintro (same | ⟨x, mid, same, -⟩)
      · cases same
        rfl
      · cases same
  · rw [bind_of_ok ran]
    constructor
    · exact fun failed => .inr ⟨x, mid, rfl, failed⟩
    · rintro (same | ⟨x, mid, ⟨⟩, failed⟩)
      · cases same
      · exact failed

/-! ### Bindings -/

/-- The step makes no binding. -/
def Still (step : Step α) : Prop := ∀ σ, (step σ).2.bindings = σ.bindings

/-- The step makes no binding if it fails. -/
def Atomic (step : Step α) : Prop :=
  ∀ σ σ' error, step σ = (.error error, σ') → σ'.bindings = σ.bindings

theorem Still.bindings_eq {step : Step α} {result : Except RuntimeError α} (still : step.Still)
    (ran : step σ = (result, last)) : last.bindings = σ.bindings := by
  have kept := still σ
  rwa [ran] at kept

theorem Still.pure (value : α) : (Pure.pure value : Step α).Still := fun _ => rfl

theorem Still.bind (left : first.Still) (right : ∀ x, (second x).Still) :
    (first >>= second).Still := by
  intro σ
  rcases ran : first σ with ⟨error | x, mid⟩
  · rw [bind_of_error ran]
    exact left.bindings_eq ran
  · rw [bind_of_ok ran, right x mid]
    exact left.bindings_eq ran

theorem Still.atomic {step : Step α} (still : step.Still) : step.Atomic :=
  fun _ _ _ failed => still.bindings_eq failed

theorem Atomic.bind (left : first.Still) (right : ∀ x, (second x).Atomic) :
    (first >>= second).Atomic := by
  intro σ σ' error failed
  rcases bind_eq_error_iff.mp failed with failed | ⟨x, mid, done, failed⟩
  · exact left.bindings_eq failed
  · rw [right x mid σ' error failed, left.bindings_eq done]

/-! ### Visits -/

/-- The step visits so many nodes; if it fails, it may have visited fewer. -/
structure Takes (count : Nat) (step : Step α) : Prop where
  done : ∀ σ σ' x, step σ = (.ok x, σ') → σ'.visits = σ.visits + count
  failed : ∀ σ σ' error, step σ = (.error error, σ') → σ'.visits ≤ σ.visits + count

theorem Takes.of_visits {count : Nat} {step : Step α}
    (visits : ∀ σ, (step σ).2.visits = σ.visits + count) : step.Takes count where
  done := by
    intro σ σ' x done
    rw [← visits σ, done]
  failed := by
    intro σ σ' error failed
    have reached := visits σ
    rw [failed] at reached
    exact Nat.le_of_eq reached

theorem Takes.pure (value : α) : (Pure.pure value : Step α).Takes 0 := .of_visits fun _ => rfl

theorem Takes.bind {front back : Nat} (left : first.Takes front) (right : ∀ x, (second x).Takes back) :
    (first >>= second).Takes (front + back) where
  done := by
    intro σ σ' y done
    obtain ⟨x, mid, passed, done⟩ := bind_eq_ok_iff.mp done
    rw [(right x).done mid σ' y done, left.done σ mid x passed, Nat.add_assoc]
  failed := by
    intro σ σ' error failed
    rcases bind_eq_error_iff.mp failed with failed | ⟨x, mid, passed, failed⟩
    · have bounds := left.failed σ σ' error failed
      omega
    · have reached := left.done σ mid x passed
      have bounds := (right x).failed mid σ' error failed
      omega

end Step

/-! ### Single steps -/

/-- **An operation has a value, or it divides by a zero and the rules refuse that.** -/
theorem Rules.apply_cases (rules : Rules) (op : Operator) (left right : Float) :
    (∃ value, rules.apply op left right = .ok value) ∨
      (op = .divide ∧ (right == 0) = true ∧ rules.division = .refuse ∧
        rules.apply op left right = .error .divisionByZero) := by
  cases op with
  | add | subtract | multiply => exact .inl ⟨_, rfl⟩
  | divide =>
    rw [apply, divide, bne]
    cases zero : right == 0 with
    | false => exact .inl ⟨_, if_pos (by decide)⟩
    | true =>
      rw [if_neg (by decide)]
      by_cases strict : rules.division = .refuse
      · exact .inr ⟨rfl, rfl, strict, if_pos strict⟩
      · rw [if_neg strict]
        split <;> exact .inl ⟨_, rfl⟩

theorem Rules.visit_snd (rules : Rules) (σ : Progress) :
    (rules.visit σ).2 = { σ with visits := σ.visits + 1 } := by
  unfold Rules.visit
  dsimp only
  split
  · rfl
  · split <;> rfl

theorem readVariable_snd (name : String) (σ : Progress) : (readVariable name σ).2 = σ := by
  unfold readVariable
  split <;> rfl

theorem Rules.visit_still (rules : Rules) : rules.visit.Still := by
  intro σ
  rw [rules.visit_snd]

theorem Rules.visit_takes (rules : Rules) : rules.visit.Takes 1 := by
  refine .of_visits fun σ => ?_
  rw [rules.visit_snd]

theorem readVariable_still (name : String) : (readVariable name).Still := by
  intro σ
  rw [readVariable_snd]

theorem readVariable_takes (name : String) : (readVariable name).Takes 0 := by
  refine .of_visits fun σ => ?_
  rw [readVariable_snd, Nat.add_zero]

theorem Rules.operate_still (rules : Rules) (op : Operator) (left right : Float) :
    (rules.operate op left right).Still := fun _ => rfl

theorem Rules.operate_takes (rules : Rules) (op : Operator) (left right : Float) :
    (rules.operate op left right).Takes 0 := .of_visits fun _ => rfl

theorem assignVariable_takes (name : String) (value : Float) : (assignVariable name value).Takes 0 :=
  .of_visits fun _ => rfl

/-! ### Trees -/

/-- An expression makes no binding. -/
theorem Expr.evaluate_still (rules : Rules) (value : Expr) : (value.evaluate rules).Still := by
  induction value with
  | number x => exact .bind rules.visit_still fun _ => .pure x
  | reference name => exact .bind rules.visit_still fun _ => readVariable_still name
  | binary op left right ihLeft ihRight =>
    refine .bind rules.visit_still fun _ => ?_
    refine .bind ihLeft fun x => ?_
    refine .bind ihRight fun y => ?_
    exact rules.operate_still op x y

/-- The visits of an expression are its nodes. -/
theorem Expr.evaluate_takes (rules : Rules) (value : Expr) :
    (value.evaluate rules).Takes value.size := by
  induction value with
  | number x => exact .bind rules.visit_takes fun _ => .pure x
  | reference name => exact .bind rules.visit_takes fun _ => readVariable_takes name
  | binary op left right ihLeft ihRight =>
    have total : (Expr.binary op left right).size = 1 + (left.size + (right.size + 0)) := by
      rw [Expr.size]
      omega
    rw [total]
    refine .bind rules.visit_takes fun _ => ?_
    refine .bind ihLeft fun x => ?_
    refine .bind ihRight fun y => ?_
    exact rules.operate_takes op x y

/-- **A statement that fails makes no binding**: to assign is the last thing that it does. -/
theorem Statement.evaluate_atomic (rules : Rules) (statement : Statement) :
    (statement.evaluate rules).Atomic := by
  cases statement with
  | expression value => exact (value.evaluate_still rules).atomic
  | assignment name value =>
    refine .bind rules.visit_still fun _ => ?_
    refine .bind (value.evaluate_still rules) fun x => ?_
    intro σ σ' error failed
    cases failed

/-- The bindings after a statement whose value is `x`. -/
def Statement.store (x : Float) (bindings : Bindings) : Statement → Bindings
  | .expression _ => bindings
  | .assignment name _ => bindings.assign name x

/-- A statement that succeeds binds its target, if it has one, to its value. -/
theorem Statement.evaluate_ok {rules : Rules} {statement : Statement} {σ last : Progress} {x : Float}
    (done : statement.evaluate rules σ = (.ok x, last)) :
    last.bindings = statement.store x σ.bindings := by
  cases statement with
  | expression value => exact (value.evaluate_still rules).bindings_eq done
  | assignment name value =>
    obtain ⟨⟨⟩, entered, visited, done⟩ := Step.bind_eq_ok_iff.mp done
    obtain ⟨y, mid, computed, done⟩ := Step.bind_eq_ok_iff.mp done
    cases done
    show mid.bindings.assign name x = σ.bindings.assign name x
    rw [(value.evaluate_still rules).bindings_eq computed, rules.visit_still.bindings_eq visited]

/-- The visits of a statement are its nodes. -/
theorem Statement.evaluate_takes (rules : Rules) (statement : Statement) :
    (statement.evaluate rules).Takes statement.size := by
  cases statement with
  | expression value => exact value.evaluate_takes rules
  | assignment name value =>
    have total : (Statement.assignment name value).size = 1 + (value.size + (0 + 0)) := by
      rw [Statement.size]
      omega
    rw [total]
    refine .bind rules.visit_takes fun _ => ?_
    refine .bind (value.evaluate_takes rules) fun x => ?_
    exact .bind (assignVariable_takes name x) fun _ => .pure x

end Calculator
