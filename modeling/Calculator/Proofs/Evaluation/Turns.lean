/-
**The machine turn by turn.**

* `Machine.turn`: one turn of the machine, which does one task; `Machine.advance`: several turns.
* `Machine.Moves`: all that a turn can do, short of a halt.
* `Machine.Supplied`: the values suffice for the tasks, and one is left when these are done. Every turn
  keeps this, so a task never finds fewer values than it takes.
* `Machine.advance_statement`: the machine halts on every statement after a bounded number of turns,
  with the recursive value or the recursive failure and with the same progress.
-/

import Calculator.Evaluation.Machine
import Calculator.Proofs.Evaluation.Failures

namespace Calculator

/-- The halt of a machine that has one value, or a failure. -/
def Halt.ofOutcome : Except RuntimeError Float × Progress → Halt
  | (.ok x, σ) => .finished [x] σ
  | (.error error, σ) => .failed error σ

namespace Machine

/-! ### Turns -/

/-- The tasks, the values not yet used, the latest first, and the progress made. -/
structure State where
  work : List Task
  values : List Float
  progress : Progress

/-- What turns come to. -/
inductive Turn where
  | go (next : State)
  | halt (halt : Halt)

/-- The first task is done, or there is none and the machine halts. -/
def turn (rules : Rules) : State → Turn
  | ⟨[], values, σ⟩ => .halt (.finished values σ)
  | ⟨.visit value :: work, values, σ⟩ =>
    match rules.visit σ with
    | (.error error, σ) => .halt (.failed error σ)
    | (.ok _, σ) =>
      match value with
      | .number x => .go ⟨work, x :: values, σ⟩
      | .reference name =>
        match readVariable name σ with
        | (.error error, σ) => .halt (.failed error σ)
        | (.ok x, σ) => .go ⟨work, x :: values, σ⟩
      | .binary op left right =>
        .go ⟨.visit left :: .visit right :: .combine op :: work, values, σ⟩
  | ⟨.begin name value :: work, values, σ⟩ =>
    match rules.visit σ with
    | (.error error, σ) => .halt (.failed error σ)
    | (.ok _, σ) => .go ⟨.visit value :: .assign name :: work, values, σ⟩
  | ⟨.combine op :: work, right :: left :: values, σ⟩ =>
    match rules.apply op left right with
    | .error error => .halt (.failed error σ)
    | .ok x => .go ⟨work, x :: values, σ⟩
  | ⟨.combine _ :: _, _, σ⟩ => .halt (.starved σ)
  | ⟨.assign name :: work, x :: values, σ⟩ =>
    .go ⟨work, x :: values, (assignVariable name x σ).2⟩
  | ⟨.assign _ :: _, [], σ⟩ => .halt (.starved σ)

/-- So many turns, or fewer if the machine halts before. -/
def advance (rules : Rules) : Nat → State → Turn
  | 0, s => .go s
  | count + 1, s =>
    match turn rules s with
    | .go next => advance rules count next
    | .halt halt => .halt halt

/-- A run from a turn on. -/
def resume (rules : Rules) : Turn → Halt
  | .go next => run rules next.work next.values next.progress
  | .halt halt => halt

/-- A run goes turn by turn. -/
theorem run_eq_resume (rules : Rules) (s : State) :
    run rules s.work s.values s.progress = resume rules (turn rules s) := by
  match s with
  | ⟨[], values, σ⟩ => rw [turn, resume, run]
  | ⟨.visit value :: work, values, σ⟩ =>
    rw [turn, run]
    generalize rules.visit σ = entered
    obtain ⟨result, moved⟩ := entered
    cases result with
    | error => rfl
    | ok _ =>
      cases value with
      | number | binary => rfl
      | reference name =>
        dsimp only
        generalize readVariable name moved = found
        obtain ⟨result, moved⟩ := found
        cases result <;> rfl
  | ⟨.begin name value :: work, values, σ⟩ =>
    rw [turn, run]
    generalize rules.visit σ = entered
    obtain ⟨result, moved⟩ := entered
    cases result <;> rfl
  | ⟨.combine op :: work, right :: left :: values, σ⟩ =>
    rw [turn, run]
    generalize rules.apply op left right = applied
    cases applied <;> rfl
  | ⟨.combine op :: work, [], σ⟩ => simp [turn, resume, run]
  | ⟨.combine op :: work, [x], σ⟩ => simp [turn, resume, run]
  | ⟨.assign name :: work, x :: values, σ⟩ => rw [turn, resume, run]
  | ⟨.assign name :: work, [], σ⟩ => rw [turn, resume, run]

/-- All that a turn can do, short of a halt. -/
inductive Moves (rules : Rules) : State → State → Prop
  | number {σ σ' : Progress} {work : List Task} {values : List Float} (x : Float)
      (entered : rules.visit σ = (.ok (), σ')) :
      Moves rules ⟨.visit (.number x) :: work, values, σ⟩ ⟨work, x :: values, σ'⟩
  | reference {σ σ' σ'' : Progress} {work : List Task} {values : List Float} {x : Float}
      (name : String) (entered : rules.visit σ = (.ok (), σ'))
      (found : readVariable name σ' = (.ok x, σ'')) :
      Moves rules ⟨.visit (.reference name) :: work, values, σ⟩ ⟨work, x :: values, σ''⟩
  | binary {σ σ' : Progress} {work : List Task} {values : List Float} (op : Operator)
      (left right : Expr) (entered : rules.visit σ = (.ok (), σ')) :
      Moves rules ⟨.visit (.binary op left right) :: work, values, σ⟩
        ⟨.visit left :: .visit right :: .combine op :: work, values, σ'⟩
  | begin {σ σ' : Progress} {work : List Task} {values : List Float} (name : String) (value : Expr)
      (entered : rules.visit σ = (.ok (), σ')) :
      Moves rules ⟨.begin name value :: work, values, σ⟩
        ⟨.visit value :: .assign name :: work, values, σ'⟩
  | combine {σ : Progress} {work : List Task} {values : List Float} {op : Operator}
      {left right x : Float} (applied : rules.apply op left right = .ok x) :
      Moves rules ⟨.combine op :: work, right :: left :: values, σ⟩ ⟨work, x :: values, σ⟩
  | assign (σ : Progress) (work : List Task) (values : List Float) (name : String) (x : Float) :
      Moves rules ⟨.assign name :: work, x :: values, σ⟩
        ⟨work, x :: values, (assignVariable name x σ).2⟩

theorem moves_of_turn {rules : Rules} {s next : State} (went : turn rules s = .go next) :
    Moves rules s next := by
  unfold turn at went
  split at went
  · cases went
  · split at went
    · cases went
    · next entered =>
      split at went
      · cases went
        exact .number _ entered
      · split at went
        · cases went
        · next found =>
          cases went
          exact .reference _ entered found
      · cases went
        exact .binary _ _ _ entered
  · split at went
    · cases went
    · next entered =>
      cases went
      exact .begin _ _ entered
  · split at went
    · cases went
    · next applied =>
      cases went
      exact .combine applied
  · cases went
  · cases went
    exact .assign ..
  · cases went

/-! ### The end of a run -/

theorem Moves.work_lt {rules : Rules} {s next : State} (moves : Moves rules s next) :
    Task.work next.work < Task.work s.work := by
  cases moves <;> simp only [Task.work, Task.weight, Expr.size] <;> omega

/-- The machine halts as its run does, after one turn more than there is work. -/
theorem advance_eq_run (rules : Rules) {count : Nat} {s : State} (enough : Task.work s.work < count) :
    advance rules count s = .halt (run rules s.work s.values s.progress) := by
  induction count generalizing s with
  | zero => exact absurd enough (Nat.not_lt_zero _)
  | succ count ih =>
    rw [advance, run_eq_resume]
    cases went : turn rules s with
    | halt halt => rfl
    | go next =>
      have shorter := (moves_of_turn went).work_lt
      exact ih (by omega)

/-! ### The supply of values -/

/-- So many values suffice for the tasks, and one is left when these are done. -/
def Supplied : List Task → Nat → Prop
  | [], supply => supply = 1
  | .visit _ :: work, supply => Supplied work (supply + 1)
  | .begin _ _ :: work, supply => Supplied work (supply + 1)
  | .combine _ :: work, supply => ∃ spare, supply = spare + 2 ∧ Supplied work (spare + 1)
  | .assign _ :: work, supply => 1 ≤ supply ∧ Supplied work supply

/-- A turn keeps the tasks supplied. -/
theorem Moves.supplied {rules : Rules} {s next : State} (moves : Moves rules s next)
    (supplied : Supplied s.work s.values.length) : Supplied next.work next.values.length := by
  cases moves with
  | number | reference => exact supplied
  | binary => exact ⟨_, rfl, supplied⟩
  | begin => exact ⟨Nat.le_add_left .., supplied⟩
  | combine =>
    obtain ⟨spare, same, rest⟩ := supplied
    cases same
    exact rest
  | assign => exact supplied.2

/-- The first task finds the values that it takes, and one value is there if no task is left. -/
def State.Served (s : State) : Prop :=
  match s.work with
  | .combine _ :: _ => 2 ≤ s.values.length
  | .assign _ :: _ => 1 ≤ s.values.length
  | .visit _ :: _ | .begin _ _ :: _ => True
  | [] => s.values.length = 1

theorem Supplied.served {s : State} (supplied : Supplied s.work s.values.length) : s.Served := by
  obtain ⟨work, values, σ⟩ := s
  unfold State.Served
  match work with
  | [] => exact supplied
  | .visit _ :: _ | .begin _ _ :: _ => exact True.intro
  | .combine _ :: _ =>
    obtain ⟨spare, same, -⟩ := supplied
    exact same ▸ Nat.le_add_left ..
  | .assign _ :: _ => exact supplied.1

/-- **Wherever the machine comes to, the first task finds its values.** -/
theorem served_of_advance {rules : Rules} {count : Nat} {s last : State}
    (supplied : Supplied s.work s.values.length) (went : advance rules count s = .go last) :
    last.Served := by
  induction count generalizing s with
  | zero =>
    cases went
    exact supplied.served
  | succ count ih =>
    rw [advance] at went
    split at went
    · next next first => exact ih ((moves_of_turn first).supplied supplied) went
    · cases went

/-! ### Statements -/

/-- The state in which a statement is started. -/
def State.start (statement : Statement) (σ : Progress) : State := ⟨[statement.task], [], σ⟩

theorem State.start_supplied (statement : Statement) (σ : Progress) :
    Supplied (start statement σ).work (start statement σ).values.length := by
  cases statement <;> rfl

/-- A statement comes to the halt of its recursive value. -/
theorem run_eq_ofOutcome (rules : Rules) (statement : Statement) (σ : Progress) :
    run rules [statement.task] [] σ = Halt.ofOutcome (statement.evaluate rules σ) := by
  rw [run_task]
  obtain ⟨result, moved⟩ := statement.evaluate rules σ
  cases result <;> rfl

/-- **The machine does what the recursion says.** From any progress on, it halts on every statement
within a bounded number of turns, with the recursive value alone on its stack or with the recursive
failure, and with the same bindings and the same count of visits; until then no task finds fewer values
than it takes; and a failure is an unbound name, a zero divisor that is refused, or a spent budget. -/
theorem advance_statement (rules : Rules) (statement : Statement) (σ : Progress) :
    advance rules (statement.task.weight + 1) (State.start statement σ) =
        .halt (run rules [statement.task] [] σ) ∧
      run rules [statement.task] [] σ = Halt.ofOutcome (statement.evaluate rules σ) ∧
      statement.run rules σ = statement.evaluate rules σ ∧
      (∀ count state, advance rules count (State.start statement σ) = .go state → state.Served) ∧
      ∀ error σ', statement.evaluate rules σ = (.error error, σ') →
        RuntimeError.Justified rules σ' error := by
  refine ⟨?_, ?_, ?_, fun count state went => ?_, fun error σ' failed => ?_⟩
  · exact advance_eq_run rules (Nat.lt_succ_self _)
  · exact run_eq_ofOutcome rules statement σ
  · rw [statement.run_eq_evaluate]
  · exact served_of_advance (State.start_supplied statement σ) went
  · exact statement.evaluate_justified rules σ σ' error failed

end Machine

end Calculator
