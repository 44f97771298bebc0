/-
**Where the division policies part.**

* `Rules.divide_eq`: a quotient is that of the format, or its divisor is a zero and refused.
* `Machine.State.AtZeroDivisor`: the next thing that the machine does is to divide by a zero.
* `Machine.turn_refuse`: at any other state both policies take the same turn.
* `Statement.evaluate_refuse`, `Statement.evaluate_refuse_first`: so a statement that comes to no such
  state does the same under both, and one that does fails there under the strict one.
* `Program.Reaches`: a state that the run of a program comes to, and where it does so.
* `Program.FirstZeroDivisor`: the first such state at a zero divisor.
* `Program.run_divisionPolicy`: the strict policy fails at the first zero divisor that the other one divides by,
  and changes nothing where there is none.

The two runs are compared turn by turn. They hold the same tasks, the same values and the same progress
until one of them divides by a zero, so it does not matter what was computed before.
-/

import Calculator.Proofs.Binary64.Zero
import Calculator.Proofs.Evaluation.Leftover
import Calculator.Proofs.Evaluation.Turns
import Mathlib

namespace Calculator

/-! ### Turns -/

/-- The next thing that the machine does is to divide by a zero, of either sign. -/
inductive Machine.State.AtZeroDivisor : Machine.State → Prop
  | mk {divisor : Float} (zero : divisor = 0 ∨ divisor = -0) (dividend : Float) (work : List Task)
      (values : List Float) (σ : Progress) :
      AtZeroDivisor ⟨.combine .divide :: work, divisor :: dividend :: values, σ⟩

/-- **Division is that of the format.** All that the rules can change is that a zero divisor is
refused. -/
theorem Rules.divide_eq (rules : Rules) (left right : Float) :
    rules.divide left right =
      if rules.division = .refuse ∧ (right == 0) = true then .error .divisionByZero
      else .ok (left / right) := by
  unfold Rules.divide
  by_cases zero : (right == 0) = true
  · rw [bne, zero, if_neg (by decide), Binary64.div_zero left zero]
    by_cases strict : rules.division = .refuse
    · rw [if_pos strict, if_pos ⟨strict, rfl⟩]
    · have allowed : ¬ (rules.division = .refuse ∧ true = true) := fun refused => strict refused.1
      rw [if_neg strict, if_neg allowed]
      split <;> rfl
  · rw [Bool.not_eq_true] at zero
    rw [bne, zero, if_pos (by decide), if_neg fun refused => nomatch refused.2]

/-- The policies agree on every operation that does not divide by a zero. -/
theorem Rules.apply_refuse (budget : Option Nat) (op : Operator) (left : Float) {right : Float}
    (other : ¬ (op = .divide ∧ (right = 0 ∨ right = -0))) :
    Rules.apply ⟨.refuse, budget⟩ op left right = Rules.apply ⟨.ieee, budget⟩ op left right := by
  cases op with
  | add | subtract | multiply => rfl
  | divide =>
    have nonzero : ¬ (right == 0) = true := fun zero =>
      other ⟨rfl, (Binary64.beq_zero_iff right).mp zero⟩
    have allowed (policy : DivisionPolicy) : ¬ (policy = .refuse ∧ (right == 0) = true) :=
      fun refused => nonzero refused.2
    rw [apply, apply, divide_eq, divide_eq, if_neg (allowed _), if_neg (allowed _)]

/-- The strict policy refuses a zero divisor. -/
theorem Rules.apply_refuse_zero (budget : Option Nat) (left : Float) {right : Float}
    (zero : right = 0 ∨ right = -0) :
    Rules.apply ⟨.refuse, budget⟩ .divide left right = .error .divisionByZero := by
  rw [apply, divide_eq, if_pos ⟨rfl, (Binary64.beq_zero_iff right).mpr zero⟩]

namespace Machine

variable {budget : Option Nat} {s last : State}

/-- **At any other state both policies take the same turn.** -/
theorem turn_refuse (other : ¬ s.AtZeroDivisor) :
    turn ⟨.refuse, budget⟩ s = turn ⟨.ieee, budget⟩ s := by
  match s with
  | ⟨[], values, σ⟩ => rfl
  | ⟨.visit _ :: _, _, _⟩ | ⟨.begin _ _ :: _, _, _⟩ => rfl
  | ⟨.assign _ :: _, [], _⟩ | ⟨.assign _ :: _, _ :: _, _⟩ => rfl
  | ⟨.combine _ :: _, [], _⟩ | ⟨.combine _ :: _, [_], _⟩ => rfl
  | ⟨.combine op :: work, right :: left :: values, σ⟩ =>
    have allowed : ¬ (op = .divide ∧ (right = 0 ∨ right = -0)) := by
      rintro ⟨rfl, zero⟩
      exact other (.mk zero left work values σ)
    rw [turn, turn, Rules.apply_refuse budget op left allowed]

/-- At a zero divisor the strict policy fails, and the machine has moved nothing. -/
theorem turn_refuse_zero (here : s.AtZeroDivisor) :
    turn ⟨.refuse, budget⟩ s = .halt (.failed .divisionByZero s.progress) := by
  cases here with
  | mk zero dividend work values σ => rw [turn, Rules.apply_refuse_zero budget dividend zero]

/-! ### Several turns -/

/-- None of so many turns divides by a zero where zero divisors are allowed. -/
def AvoidsZero (budget : Option Nat) (count : Nat) (s : State) : Prop :=
  ∀ earlier < count, ∀ next, advance ⟨.ieee, budget⟩ earlier s = .go next → ¬ next.AtZeroDivisor

theorem AvoidsZero.step {count : Nat} {next : State} (avoids : AvoidsZero budget (count + 1) s)
    (went : turn ⟨.ieee, budget⟩ s = .go next) : AvoidsZero budget count next := by
  intro earlier sooner last reached
  refine avoids (earlier + 1) (Nat.succ_lt_succ sooner) last ?_
  rw [advance, went]
  exact reached

/-- **Until the first zero divisor both policies take the same turns.** -/
theorem advance_refuse {count : Nat} (avoids : AvoidsZero budget count s) :
    advance ⟨.refuse, budget⟩ count s = advance ⟨.ieee, budget⟩ count s := by
  induction count generalizing s with
  | zero => rfl
  | succ count ih =>
    have same : turn ⟨.refuse, budget⟩ s = turn ⟨.ieee, budget⟩ s :=
      turn_refuse (avoids 0 (Nat.succ_pos count) s rfl)
    rw [advance, advance, same]
    cases went : turn ⟨.ieee, budget⟩ s with
    | halt halt => rfl
    | go next => exact ih (avoids.step went)

/-- A run is the same from wherever some of its turns lead. -/
theorem resume_advance (rules : Rules) (count : Nat) (s : State) :
    resume rules (advance rules count s) = run rules s.work s.values s.progress := by
  induction count generalizing s with
  | zero => rfl
  | succ count ih =>
    rw [advance, run_eq_resume]
    cases turn rules s with
    | halt halt => rfl
    | go next => exact ih next

/-- A run without a zero divisor is the same under both policies. -/
theorem run_refuse (avoids : ∀ count, AvoidsZero budget count s) :
    run ⟨.refuse, budget⟩ s.work s.values s.progress =
      run ⟨.ieee, budget⟩ s.work s.values s.progress := by
  have strict := advance_eq_run ⟨.refuse, budget⟩ (Nat.lt_succ_self (Task.work s.work))
  have lenient := advance_eq_run ⟨.ieee, budget⟩ (Nat.lt_succ_self (Task.work s.work))
  rw [advance_refuse (avoids _), lenient] at strict
  exact (Turn.halt.inj strict).symm

/-- A run fails under the strict policy at the first zero divisor of the other run. -/
theorem run_refuse_first {count : Nat} (avoids : AvoidsZero budget count s)
    (reached : advance ⟨.ieee, budget⟩ count s = .go last) (here : last.AtZeroDivisor) :
    run ⟨.refuse, budget⟩ s.work s.values s.progress = .failed .divisionByZero last.progress := by
  rw [← resume_advance _ count, advance_refuse avoids, reached, resume, run_eq_resume,
    turn_refuse_zero here, resume]

end Machine

/-! ### Statements -/

theorem Halt.ofOutcome_inj {first second : Except RuntimeError Float × Progress}
    (same : ofOutcome first = ofOutcome second) : first = second := by
  obtain ⟨_ | x, σ⟩ := first <;> obtain ⟨_ | y, σ'⟩ := second <;> cases same <;> rfl

section Statements

variable {budget : Option Nat} {statement : Statement} {σ : Progress}

/-- **A statement that divides by no zero does the same under both policies.** -/
theorem Statement.evaluate_refuse
    (avoids : ∀ count, Machine.AvoidsZero budget count (.start statement σ)) :
    statement.evaluate ⟨.refuse, budget⟩ σ = statement.evaluate ⟨.ieee, budget⟩ σ := by
  refine Halt.ofOutcome_inj ?_
  rw [← Machine.run_eq_ofOutcome, ← Machine.run_eq_ofOutcome]
  exact Machine.run_refuse avoids

/-- **A statement that divides by a zero fails there under the strict policy.** -/
theorem Statement.evaluate_refuse_first {count : Nat} {last : Machine.State}
    (avoids : Machine.AvoidsZero budget count (.start statement σ))
    (reached : Machine.advance ⟨.ieee, budget⟩ count (.start statement σ) = .go last)
    (here : last.AtZeroDivisor) :
    statement.evaluate ⟨.refuse, budget⟩ σ = (.error .divisionByZero, last.progress) := by
  refine Halt.ofOutcome_inj ?_
  rw [← Machine.run_eq_ofOutcome]
  exact Machine.run_refuse_first avoids reached here

end Statements

/-! ### Programs -/

/-- Statements do the same under rules under which each of them does, from where those before it
lead. -/
theorem runStatements_congr {rules rules' : Rules} {value : Float} {statements : List Statement}
    {σ : Progress}
    (same : ∀ front statement back reached, statements = front ++ statement :: back →
      (∃ x, runStatements rules value front σ = (.ok x, reached)) →
      statement.evaluate rules' reached = statement.evaluate rules reached) :
    runStatements rules' value statements σ = runStatements rules value statements σ := by
  induction statements generalizing value σ with
  | nil => rfl
  | cons statement rest ih =>
    have here := same [] statement rest σ rfl ⟨value, rfl⟩
    rw [runStatements_cons, runStatements_cons]
    rcases ran : statement.evaluate rules σ with ⟨error | x, mid⟩
    · rw [Step.bind_of_error ran, Step.bind_of_error (here.trans ran)]
    · rw [Step.bind_of_ok ran, Step.bind_of_ok (here.trans ran)]
      refine ih fun front next back reached split passed => ?_
      refine same (statement :: front) next back reached (congrArg _ split) ?_
      rw [runStatements_cons, Step.bind_of_ok ran]
      exact passed

/-- The run of a program comes to the state `s`, so many turns into the statement behind `front`, which
is entered with the progress `entered`. -/
structure Program.Reaches (rules : Rules) (program : Program) (start : Bindings)
    (front : List Statement) (entered : Progress) (count : Nat) (s : Machine.State) : Prop where
  passed : ∃ value, runStatements rules 0 front ⟨start, 0⟩ = (.ok value, entered)
  inside : ∃ statement back, program.statements = front ++ statement :: back ∧
    Machine.advance rules count (.start statement entered) = .go s

/-- Somewhere in its run the program divides by a zero, if that is allowed. -/
def Program.MeetsZeroDivisor (budget : Option Nat) (program : Program) (start : Bindings) : Prop :=
  ∃ front entered count s,
    program.Reaches ⟨.ieee, budget⟩ start front entered count s ∧ s.AtZeroDivisor

/-- The first state at which the program divides by a zero, if that is allowed: none is met in an
earlier statement, and none after fewer turns in the same one. -/
structure Program.FirstZeroDivisor (budget : Option Nat) (program : Program) (start : Bindings)
    (front : List Statement) (entered : Progress) (count : Nat) (s : Machine.State) : Prop where
  reaches : program.Reaches ⟨.ieee, budget⟩ start front entered count s
  here : s.AtZeroDivisor
  first : ∀ front' entered' count' s',
    program.Reaches ⟨.ieee, budget⟩ start front' entered' count' s' → s'.AtZeroDivisor →
      front.length < front'.length ∨ (front' = front ∧ count ≤ count')

section Programs

variable {budget : Option Nat} {program : Program} {start : Bindings} {front : List Statement}
  {entered : Progress} {count : Nat} {s : Machine.State}

/-- What a run has passed tells the statements and where it is. -/
theorem Program.Reaches.congr {rules : Rules} {front' : List Statement} {entered' : Progress}
    {count' : Nat} {s' : Machine.State} (reaches : program.Reaches rules start front entered count s)
    (other : program.Reaches rules start front' entered' count' s')
    (same : front'.length = front.length) : front' = front ∧ entered' = entered := by
  obtain ⟨⟨x, passed⟩, statement, back, split, -⟩ := reaches
  obtain ⟨⟨y, passed'⟩, statement', back', split', -⟩ := other
  obtain rfl : front' = front := (List.append_inj (split'.symm.trans split) same).1
  cases passed.symm.trans passed'
  exact ⟨rfl, rfl⟩

/-- **A program that meets a zero divisor meets a first one.** -/
theorem Program.MeetsZeroDivisor.exists_first (meets : program.MeetsZeroDivisor budget start) :
    ∃ front entered count s, program.FirstZeroDivisor budget start front entered count s := by
  classical
  -- The shortest beginning behind which there is one, and then the fewest turns.
  have shortest : ∃ length front entered count s, front.length = length ∧
      program.Reaches ⟨.ieee, budget⟩ start front entered count s ∧ s.AtZeroDivisor := by
    obtain ⟨front, entered, count, s, reaches, here⟩ := meets
    exact ⟨front.length, front, entered, count, s, rfl, reaches, here⟩
  obtain ⟨front, entered, count, s, length, reaches, here⟩ := Nat.find_spec shortest
  have fewest : ∃ count s,
      program.Reaches ⟨.ieee, budget⟩ start front entered count s ∧ s.AtZeroDivisor :=
    ⟨count, s, reaches, here⟩
  obtain ⟨s, reaches, here⟩ := Nat.find_spec fewest
  refine ⟨front, entered, Nat.find fewest, s, reaches, here, ?_⟩
  intro front' entered' count' s' reaches' here'
  have longer : front.length ≤ front'.length := by
    rw [length]
    exact Nat.find_min' shortest ⟨front', entered', count', s', rfl, reaches', here'⟩
  rcases Nat.lt_or_eq_of_le longer with further | same
  · exact .inl further
  · obtain ⟨rfl, rfl⟩ := reaches.congr reaches' same.symm
    exact .inr ⟨rfl, Nat.find_min' fewest ⟨s', reaches', here'⟩⟩

/-- Statements that meet no zero divisor run in the same way under both policies. -/
theorem runStatements_refuse {statements : List Statement}
    (avoids : ∀ front statement back entered, statements = front ++ statement :: back →
      (∃ x, runStatements ⟨.ieee, budget⟩ 0 front ⟨start, 0⟩ = (.ok x, entered)) →
      ∀ count, Machine.AvoidsZero budget count (.start statement entered)) :
    runStatements ⟨.refuse, budget⟩ 0 statements ⟨start, 0⟩ =
      runStatements ⟨.ieee, budget⟩ 0 statements ⟨start, 0⟩ :=
  runStatements_congr fun front statement back entered split passed =>
    Statement.evaluate_refuse (avoids front statement back entered split passed)

namespace Program.FirstZeroDivisor

/-- Before the first zero divisor of a statement there is none. -/
theorem avoids (first : program.FirstZeroDivisor budget start front entered count s)
    {statement : Statement} {back : List Statement}
    (split : program.statements = front ++ statement :: back) :
    Machine.AvoidsZero budget count (.start statement entered) := by
  intro earlier sooner next reached here
  rcases first.first front entered earlier next ⟨first.reaches.passed, statement, back, split, reached⟩
    here with longer | ⟨-, later⟩
  · exact absurd longer (Nat.lt_irrefl _)
  · exact absurd sooner (Nat.not_lt.mpr later)

/-- The statements before the first zero divisor succeed under the strict policy too. -/
theorem passed (first : program.FirstZeroDivisor budget start front entered count s) :
    ∃ x, runStatements ⟨.refuse, budget⟩ 0 front ⟨start, 0⟩ = (.ok x, entered) := by
  obtain ⟨statement, back, split, reached⟩ := first.reaches.inside
  obtain ⟨x, passed⟩ := first.reaches.passed
  refine ⟨x, ?_⟩
  rw [runStatements_refuse, passed]
  rintro before earlier behind entered' rfl passed' turns fewer - next reached' here
  have split' : program.statements = before ++ earlier :: (behind ++ statement :: back) := by
    rw [split, List.append_assoc, List.cons_append]
  rcases first.first before entered' fewer next ⟨passed', earlier, _, split', reached'⟩ here with
    longer | ⟨same, -⟩
  · rw [List.length_append, List.length_cons] at longer
    omega
  · have length := congrArg List.length same
    rw [List.length_append, List.length_cons] at length
    omega

/-- The statement with the first zero divisor is where the strict policy fails. -/
theorem exists_failsIn (first : program.FirstZeroDivisor budget start front entered count s) :
    ∃ statement back, program.statements = front ++ statement :: back ∧
      FailsIn ⟨.refuse, budget⟩ start front entered statement .divisionByZero s.progress := by
  obtain ⟨statement, back, split, reached⟩ := first.reaches.inside
  refine ⟨statement, back, split, first.passed, ?_⟩
  rw [statement.run_eq_evaluate]
  exact Statement.evaluate_refuse_first (first.avoids split) reached first.here

end Program.FirstZeroDivisor

/-- Without a zero divisor both policies run a program in the same way. -/
theorem Program.run_refuse_of_not_meets (σ : Progress)
    (never : ¬ program.MeetsZeroDivisor budget σ.bindings) :
    program.run ⟨.refuse, budget⟩ σ = program.run ⟨.ieee, budget⟩ σ := by
  by_cases none : program.statements = []
  · unfold Program.run
    rw [none]
  · rw [Program.run_eq none, Program.run_eq none]
    refine runStatements_refuse fun front statement back entered split passed => ?_
    rintro count earlier - next reached here
    exact never ⟨front, entered, earlier, next, ⟨passed, statement, back, split, reached⟩, here⟩

/-- Where zero divisors are allowed, no program fails for one. -/
theorem Program.run_ieee_ne_divisionByZero (program : Program) (budget : Option Nat)
    (σ last : Progress) : program.run ⟨.ieee, budget⟩ σ ≠ (.error .divisionByZero, last) := by
  intro failed
  by_cases none : program.statements = []
  · unfold Program.run at failed
    rw [none] at failed
    cases failed
  · rw [Program.run_eq none] at failed
    obtain ⟨front, failing, back, reached, -, fails⟩ := Calculator.exists_failsIn failed
    cases fails.justified with
    | divisionByZero refused => cases refused

/-- **The policies agree but for zero divisors.** A program that meets no zero divisor where these are
allowed does the same under both policies: the same value or failure, the same bindings and the same
count of visits. One that meets a zero divisor meets a first one, and there the strict policy fails, and
it fails for a zero divisor in no other case. What is left then is what the statements before the failing
one leave, and the count of visits that the first zero divisor is met with. -/
theorem Program.run_divisionPolicy (program : Program) (budget : Option Nat) (σ : Progress) :
    (¬ program.MeetsZeroDivisor budget σ.bindings →
      program.run ⟨.refuse, budget⟩ σ = program.run ⟨.ieee, budget⟩ σ) ∧
    (program.MeetsZeroDivisor budget σ.bindings →
      ∃ front entered count s,
        program.FirstZeroDivisor budget σ.bindings front entered count s) ∧
    (∀ front entered count s, program.FirstZeroDivisor budget σ.bindings front entered count s →
      program.run ⟨.refuse, budget⟩ σ = (.error .divisionByZero, s.progress) ∧
      s.progress.bindings = entered.bindings ∧
      Program.Leaves .ieee ⟨front⟩ σ.bindings s.progress.bindings) ∧
    ((∃ last, program.run ⟨.refuse, budget⟩ σ = (.error .divisionByZero, last)) ↔
      program.MeetsZeroDivisor budget σ.bindings) := by
  have atFirst (front entered count s)
      (first : program.FirstZeroDivisor budget σ.bindings front entered count s) :
      program.run ⟨.refuse, budget⟩ σ = (.error .divisionByZero, s.progress) ∧
      s.progress.bindings = entered.bindings ∧
      Program.Leaves .ieee ⟨front⟩ σ.bindings s.progress.bindings := by
    obtain ⟨statement, back, split, fails⟩ := first.exists_failsIn
    obtain ⟨x, passed⟩ := first.reaches.passed
    have nonempty : program.statements ≠ [] := by
      rw [split]
      exact List.append_ne_nil_of_right_ne_nil _ (List.cons_ne_nil _ _)
    refine ⟨?_, fails.bindings_eq, ?_⟩
    · rw [Program.run_eq nonempty, split, fails.runStatements_eq back]
    · rw [fails.bindings_eq]
      exact leaves_of_ok passed
  refine ⟨Program.run_refuse_of_not_meets σ, fun meets => meets.exists_first, atFirst, ?_, ?_⟩
  · rintro ⟨last, failed⟩
    by_cases meets : program.MeetsZeroDivisor budget σ.bindings
    · exact meets
    · rw [Program.run_refuse_of_not_meets σ meets] at failed
      exact absurd failed (program.run_ieee_ne_divisionByZero budget σ last)
  · intro meets
    obtain ⟨front, entered, count, s, first⟩ := meets.exists_first
    exact ⟨s.progress, (atFirst front entered count s first).1⟩

/-- In `x = 1; x = x / (0 * (0 - 1)); y` the second statement divides by a negative zero, with all its
nodes visited and nothing stored, so that the name behind it is never looked for. -/
theorem Program.run_divisionPolicy_negative :
    ∃ front entered count s,
      (Program.mk [.assignment "x" (.number 1),
        .assignment "x" (.binary .divide (.reference "x")
          (.binary .multiply (.number 0) (.binary .subtract (.number 0) (.number 1)))),
        .expression (.reference "y")]).FirstZeroDivisor (some 20) .empty front entered count s ∧
      s.progress = ⟨Bindings.empty.assign "x" 1, 10⟩ := by
  let program : Program := ⟨[.assignment "x" (.number 1),
    .assignment "x" (.binary .divide (.reference "x")
      (.binary .multiply (.number 0) (.binary .subtract (.number 0) (.number 1)))),
    .expression (.reference "y")]⟩
  have failed : program.run ⟨.refuse, some 20⟩ ⟨.empty, 0⟩ =
      (.error .divisionByZero, ⟨Bindings.empty.assign "x" 1, 10⟩) := by
    rw [Program.run_eq (List.cons_ne_nil _ _)]
    simp only [runStatements_cons]
    rfl
  obtain ⟨-, first, atFirst, meets⟩ := program.run_divisionPolicy (some 20) ⟨.empty, 0⟩
  obtain ⟨front, entered, count, s, first⟩ := first (meets.mp ⟨_, failed⟩)
  refine ⟨front, entered, count, s, first, ?_⟩
  obtain ⟨stopped, -, -⟩ := atFirst front entered count s first
  exact (Prod.mk.inj (stopped.symm.trans failed)).2

end Programs

end Calculator
