/-
**The levels of a reading are its recursion.**

* `Configuration.enter`: what the steps of configurations come to where a rule is applied.
* `Configuration.enter_eq`: a descent reads what the steps come to, at any depth.
* `Descent.read_eq`: a descent from outside all parentheses reads what a window is asked to read.

The steps of configurations keep no counter: they keep the levels that wait outside the open parentheses.
The counter of a descent is their number.
-/

import Calculator.Proofs.Reading.Course
import Calculator.Proofs.Reading.Descent

namespace Calculator

/-! ### Levels -/

/-- The reading that goes on behind a value. -/
def Reading.andThen {α β : Type} (next : α → Window → Reading β) : Reading α → Reading β
  | .done value w => next value w
  | .failed error reader => .failed error reader

/-- The rule whose phrases are the operands of the rule for a goal; a factor has none. -/
def Goal.operand : Goal → Goal
  | .factor | .term => .factor
  | .expression => .term

theorem Operands.eq_operand {operand goal : Goal} (operands : Operands operand goal) :
    operand = goal.operand := by
  cases operands <;> rfl

/-- What waits of a level outside the rule for a goal. -/
def Level.outside (level : Level) : Goal → Level
  | .factor => level
  | .term => ⟨level.sum, none⟩
  | .expression => .empty

/-- The level with a left operand that waits in the rule for a goal. -/
def Level.waiting (level : Level) (left : Expr) (op : Operator) : Goal → Level
  | .factor => level
  | .term => ⟨level.sum, some (left, op)⟩
  | .expression => ⟨some (left, op), none⟩

/-- Outside all parentheses a reading does not go beyond its goal. -/
structure Goal.Within (aim goal : Goal) (outer : List Level) : Prop where
  term : aim ≠ .factor → ¬ (goal = .factor ∧ outer = [])
  expression : aim = .expression → ¬ (goal = .term ∧ outer = [])

theorem Goal.Within.operand {aim goal : Goal} {outer : List Level} (within : aim.Within goal outer) :
    aim.operand.Within goal outer := by
  cases aim with
  | factor | term => exact ⟨fun other => absurd rfl other, fun other => nomatch other⟩
  | expression => exact ⟨fun _ => within.term Goal.noConfusion, fun other => nomatch other⟩

theorem Goal.within_cons (aim goal : Goal) (level : Level) (outer : List Level) :
    aim.Within goal (level :: outer) :=
  ⟨fun _ both => List.cons_ne_nil _ _ both.2, fun _ both => List.cons_ne_nil _ _ both.2⟩

theorem Goal.within_self (goal : Goal) : goal.Within goal [] := by
  refine ⟨fun other both => other both.1, ?_⟩
  rintro rfl both
  cases both.1

namespace Configuration

section Behind

variable (limit : Int) (goal : Goal) (outer : List Level) (level : Level)

/-- What the steps come to behind a value that the rule for an aim has read. -/
def behind : Goal → Expr → Window → Reading Expr
  | .factor, value, w => run limit goal ⟨w, outer, level, .operator value⟩
  | .term, value, w => resume limit goal (sumStep goal value ⟨w, outer, ⟨level.sum, none⟩, .operand⟩)
  | .expression, value, w => resume limit goal (closeStep value ⟨w, outer, .empty, .operand⟩)

/-- What the steps come to where a rule is applied. -/
def enter (w : Window) : Production → Reading Expr
  | .start aim => run limit goal ⟨w, outer, level.outside aim, .operand⟩
  | .behind aim left => behind limit goal outer (level.outside aim) aim.operand left w

theorem resume_proceed (c : Configuration) (phase : Phase) :
    resume limit goal (c.proceed outer level phase) =
      c.window.shift.andThen fun _ w => run limit goal ⟨w, outer, level, phase⟩ := by
  unfold proceed
  cases c.window.shift <;> rfl

theorem resume_factor (c : Configuration) (value : Expr) :
    resume limit goal (c.proceed outer level (.operator value)) =
      (c.window.shift.map fun _ => value).andThen (behind limit goal outer level .factor) := by
  rw [resume_proceed]
  cases c.window.shift <;> rfl

variable {goal outer level} {aim operand : Goal} {left value : Expr} {w : Window} {op : Operator}

/-- Behind an expression between parentheses the level around it goes on. -/
theorem behind_closed (closed : w.current.kind = .symbol .rightParen) :
    behind limit goal (level :: outer) .empty .expression value w =
      (w.shift.map fun _ => value).andThen (behind limit goal outer level .factor) := by
  rw [behind, closeStep]
  dsimp only
  rw [if_pos closed, resume_factor]

theorem behind_unclosed (notClosed : w.current.kind ≠ .symbol .rightParen) :
    behind limit goal (level :: outer) .empty .expression value w =
      .failed (w.current.refusal (.one (.symbol .rightParen))) (.ready w) := by
  rw [behind, closeStep]
  dsimp only
  rw [if_neg notClosed]
  rfl

/-- Where no operator takes it up, an operand is all that the rule reads. -/
theorem behind_ended (within : aim.Within goal outer)
    (noOperator : ∀ op : Operator, op.level = aim → w.current.lexeme ≠ op.lexeme) :
    behind limit goal outer (level.outside aim) aim.operand left w =
      behind limit goal outer level aim left w := by
  cases aim with
  | factor => rfl
  | term =>
    have single : w.current.lexeme.symbol?.bind Symbol.multiplicative? = none := by
      refine Option.eq_none_iff_forall_not_mem.mpr fun op found => ?_
      obtain ⟨here, binds⟩ := Place.multiplicative_iff.mp found
      exact noOperator op binds here
    show run limit goal ⟨w, outer, ⟨level.sum, none⟩, .operator left⟩ = _
    rw [run_eq, step]
    dsimp only
    rw [operatorStep, if_neg (within.term Goal.noConfusion), symbol?_eq, single]
    rfl
  | expression =>
    have single : w.current.lexeme.symbol?.bind Symbol.additive? = none := by
      refine Option.eq_none_iff_forall_not_mem.mpr fun op found => ?_
      obtain ⟨here, binds⟩ := Place.additive_iff.mp found
      exact noOperator op binds here
    show resume limit goal (sumStep goal left ⟨w, outer, ⟨none, none⟩, .operand⟩) = _
    rw [sumStep, if_neg (within.expression rfl), symbol?_eq, single]
    rfl

/-- An operator is let go, and the operand before it waits. -/
theorem behind_operator (within : aim.Within goal outer) (binds : op.level = aim)
    (here : w.current.lexeme = op.lexeme) :
    behind limit goal outer (level.outside aim) aim.operand left w =
      w.shift.andThen fun _ w => run limit goal ⟨w, outer, level.waiting left op aim, .operand⟩ := by
  cases aim with
  | factor => cases op <;> cases binds
  | term =>
    have found : w.current.lexeme.symbol?.bind Symbol.multiplicative? = some op :=
      Place.multiplicative_iff.mpr ⟨here, binds⟩
    show run limit goal ⟨w, outer, ⟨level.sum, none⟩, .operator left⟩ = _
    rw [run_eq, step]
    dsimp only
    rw [operatorStep, if_neg (within.term Goal.noConfusion), symbol?_eq, found]
    exact resume_proceed limit goal outer _ _ _
  | expression =>
    have found : w.current.lexeme.symbol?.bind Symbol.additive? = some op :=
      Place.additive_iff.mpr ⟨here, binds⟩
    show resume limit goal (sumStep goal left ⟨w, outer, ⟨none, none⟩, .operand⟩) = _
    rw [sumStep, if_neg (within.expression rfl), symbol?_eq, found]
    exact resume_proceed limit goal outer _ _ _

/-- Behind its right operand, the one that waits is combined with it. -/
theorem behind_waiting (within : aim.Within goal outer) (binds : op.level = aim) :
    behind limit goal outer (level.waiting left op aim) aim.operand value w =
      behind limit goal outer (level.outside aim) aim.operand (.binary op left value) w := by
  cases aim with
  | factor => cases op <;> cases binds
  | term =>
    show run limit goal ⟨w, outer, ⟨level.sum, some (left, op)⟩, .operator value⟩ =
      run limit goal ⟨w, outer, ⟨level.sum, none⟩, .operator (.binary op left value)⟩
    rw [run_eq, run_eq, step, step]
    dsimp only
    rw [operatorStep, operatorStep, if_neg (within.term Goal.noConfusion),
      if_neg (within.term Goal.noConfusion)]
    rfl
  | expression =>
    show resume limit goal (sumStep goal value ⟨w, outer, ⟨some (left, op), none⟩, .operand⟩) =
      resume limit goal (sumStep goal (.binary op left value) ⟨w, outer, ⟨none, none⟩, .operand⟩)
    rw [sumStep, sumStep, if_neg (within.expression rfl), if_neg (within.expression rfl)]
    rfl

theorem outside_waiting (binds : op.level = aim) :
    (level.waiting left op aim).outside aim.operand = level.waiting left op aim := by
  cases aim with
  | factor => cases op <;> cases binds
  | term | expression => rfl

theorem outside_outside : (level.outside aim).outside aim.operand = level.outside aim := by
  cases aim <;> rfl

/-- Where an operand is due, the current token tells what to do. -/
theorem enter_factor :
    enter limit goal outer level w (.start .factor) =
      resume limit goal (operandStep limit ⟨w, outer, level, .operand⟩) := by
  show run limit goal ⟨w, outer, level, .operand⟩ = _
  rw [run_eq, step]

/-- An opened parenthesis makes a level of its own. -/
theorem enter_group (here : w.current.lexeme = .symbol .leftParen)
    (room : ¬ limit ≤ (outer.length : Int)) :
    enter limit goal outer level w (.start .factor) =
      w.shift.andThen fun _ w => enter limit goal (level :: outer) .empty w (.start .expression) := by
  rw [enter_factor, operandStep]
  dsimp only
  rw [here]
  dsimp only
  rw [Configuration.depth, if_neg room, resume_proceed]
  rfl

end Behind

theorem counted_cons {depth : Int} {outer : List Level} (counted : depth = outer.length)
    (level : Level) : depth + 1 = ((level :: outer).length : Int) := by
  rw [counted, List.length_cons, Int.natCast_add, Int.natCast_one]

/-- **Where a rule is applied, the steps of configurations come to what it reads**, if the counter is the
number of open parentheses. -/
theorem enter_eq {limit depth depth' : Int} {rule : Production} {w : Window} {events : List Event}
    {reading : Reading Expr} (descent : Descent limit rule depth w events reading depth')
    {goal : Goal} {outer : List Level} (level : Level) (counted : depth = outer.length)
    (within : rule.goal.Within goal outer) :
    enter limit goal outer level w rule =
      reading.andThen (behind limit goal outer level rule.goal) := by
  -- The levels vary along the descent: a group is read on a level of its own, inside the one around it.
  induction descent generalizing outer level with
  | number here | reference here =>
    rw [enter_factor, operandStep]
    dsimp only
    rw [here]
    exact resume_factor ..
  | tooDeep here deep =>
    rw [enter_factor, operandStep]
    dsimp only
    rw [here]
    dsimp only
    rw [Configuration.depth, if_pos (counted ▸ deep)]
    rfl
  | unopened here room gone =>
    rw [enter_group limit here (counted ▸ room), gone]
    rfl
  | @insideFailed depth depth₁ w w₁ token events error reader here room gone inside ih =>
    have read := ih .empty (counted_cons counted level) (Goal.within_cons ..)
    rw [enter_group limit here (counted ▸ room), gone, Reading.andThen, read]
    rfl
  | @unclosed depth depth₁ w w₁ w₂ token events value here room gone inside notClosed ih =>
    have read := ih .empty (counted_cons counted level) (Goal.within_cons ..)
    rw [enter_group limit here (counted ▸ room), gone, Reading.andThen, read]
    exact behind_unclosed limit notClosed
  | @group depth depth₁ w w₁ w₂ token events value here room gone inside closed ih =>
    have read := ih .empty (counted_cons counted level) (Goal.within_cons ..)
    rw [enter_group limit here (counted ▸ room), gone, Reading.andThen, read]
    exact behind_closed limit closed
  | @unfit depth w noNumber noName noParen =>
    rw [enter_factor, operandStep]
    dsimp only
    split
    · next value here => exact absurd here (noNumber value)
    · next name here => exact absurd here (noName name)
    · next here => exact absurd here noParen
    · rfl
  | @operandFailed depth depth₁ w events operand aim error reader operands first ih =>
    obtain rfl := operands.eq_operand
    have read := ih (level.outside aim) counted within.operand
    rw [enter, outside_outside] at read
    exact read
  | @operand depth depth₁ depth₂ w w₁ events events₁ operand aim left reading operands first rest
      ihFirst ihRest =>
    obtain rfl := operands.eq_operand
    have before := ihFirst (level.outside aim) counted within.operand
    have behind := ihRest level (first.restored.trans counted) within
    rw [enter, outside_outside] at before
    exact before.trans behind
  | ended noOperator => exact behind_ended limit within noOperator
  | @stuck depth w left op error reader here gone =>
    have within : op.level.Within goal outer := within
    rw [enter, behind_operator limit within rfl here, gone]
    rfl
  | @rightFailed depth depth₁ w w₁ events operand left op token error reader here gone operands right
      ih =>
    obtain rfl := operands.eq_operand
    have within : op.level.Within goal outer := within
    have read := ih (level.waiting left op op.level) counted within.operand
    rw [enter, outside_waiting rfl] at read
    rw [enter, behind_operator limit within rfl here, gone]
    exact read
  | @more depth depth₁ depth₂ w w₁ w₂ events events₁ operand left value op token reading here gone
      operands right rest ihRight ihRest =>
    obtain rfl := operands.eq_operand
    have within : op.level.Within goal outer := within
    have read := ihRight (level.waiting left op op.level) counted within.operand
    have further := ihRest level (right.restored.trans counted) within
    rw [enter, outside_waiting rfl] at read
    rw [enter, ← behind_waiting limit within rfl] at further
    rw [enter, behind_operator limit within rfl here, gone]
    exact read.trans further

end Configuration

/-- **A descent from outside all parentheses reads what the steps of configurations read.** -/
theorem Descent.read_eq {limit depth depth' : Int} {goal : Goal} {w : Window} {events : List Event}
    {reading : Reading Expr} (descent : Descent limit (.start goal) depth w events reading depth')
    (start : depth = 0) : reading = w.read limit goal := by
  have read : Configuration.enter limit goal [] .empty w (.start goal) = _ :=
    Configuration.enter_eq descent .empty start goal.within_self
  have stops (value : Expr) (w : Window) :
      Configuration.behind limit goal [] .empty goal value w = .done value w := by
    cases goal with
    | factor =>
      rw [Configuration.behind, Configuration.run_eq, Configuration.step]
      rfl
    | term | expression => rfl
  have started : Configuration.enter limit goal [] .empty w (.start goal) = w.read limit goal := by
    cases goal <;> rfl
  rw [started] at read
  rw [read]
  cases reading with
  | done value w' => exact (stops value w').symm
  | failed error reader => rfl

end Calculator
