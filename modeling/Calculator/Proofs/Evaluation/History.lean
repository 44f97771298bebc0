/-
**What a session keeps of its history.**

* `World`: a session among environments, each at an address; `World.Call`: what a session is called for.
* `Session.runProgram_eq`, `Session.evaluate_eq`: a program with statements is run as by a fresh session.
* `World.perform_frame`: a call leaves every environment but its target as it is.
* `World.performAll_spent`: a spent budget stays spent until a program with statements is run.
* `World.reusable`: so a session can be used again after anything.

An environment is changed where it is, so that a caller who holds it sees the change. A program that is
evaluated gets a new environment, and the one that the session had before stays with those who hold it.
-/

import Calculator.Proofs.Evaluation.Entered
import Calculator.Proofs.Evaluation.Runs

namespace Calculator

/-! ### Programs and sessions -/

namespace Session

variable {program : Program}

/-- A program with statements is run as by a fresh session, but for what the session has of its own. -/
theorem runProgram_eq (nonempty : program.statements ≠ []) (s : Session) (bindings : Bindings) :
    s.runProgram program bindings =
      let result := (fresh s.rules).runProgram program bindings
      { result with session := { result.session with own := s.own } } := by
  rw [runProgram, runProgram, perform, perform, Program.run_eq nonempty, Program.run_eq nonempty]
  rfl

/-- **A program with statements is evaluated as by a fresh session.** -/
theorem evaluate_eq (nonempty : program.statements ≠ []) (s : Session) :
    s.evaluate program = (fresh s.rules).evaluate program := by
  rw [evaluate, evaluate, runProgram_eq nonempty s]

/-- A statement alone counts the nodes that it enters. -/
theorem visits_runStatement (s : Session) (statement : Statement) (bindings : Bindings) :
    (s.runStatement statement bindings).session.visits =
      s.visits + (statement.entered s.rules ⟨bindings, s.visits⟩).length :=
  statement.visits_run ⟨bindings, s.visits⟩

/-- Where the budget is spent, a statement alone is refused and binds nothing. -/
theorem runStatement_spent (s : Session) {limit : Nat} (budget : s.rules.budget = some limit)
    (spent : limit ≤ s.visits) (statement : Statement) (bindings : Bindings) :
    s.runStatement statement bindings =
      ⟨.error (.stepLimit limit), bindings, { s with visits := s.visits + 1 }⟩ := by
  obtain ⟨refused, -⟩ := Statement.run_spent budget statement ⟨bindings, s.visits⟩ spent
  rw [runStatement, perform, refused]

end Session

/-! ### Worlds -/

/-- A session among environments, each at an address. -/
structure World where
  rules : Rules
  visits : Nat
  environments : List Bindings
  /-- The address of the environment that the session has of its own. -/
  own : Nat

namespace World

/-- A session that has done nothing, behind environments that are there already. -/
def fresh (rules : Rules) (environments : List Bindings) : World :=
  ⟨rules, 0, environments ++ [.empty], environments.length⟩

/-- The bindings at an address, of which there are none where no environment is. -/
def bindings (w : World) (address : Nat) : Bindings := w.environments.getD address .empty

/-- The session apart from the other environments. -/
def session (w : World) : Session := ⟨w.rules, w.bindings w.own, w.visits⟩

/-- The bindings and the count of a result, kept where the environment is. -/
def keep (w : World) (address : Nat) (result : Session.Result) : World :=
  { w with
    visits := result.session.visits
    environments := w.environments.set address result.bindings }

/-- What a session is called for; an environment is handed in by its address. -/
inductive Call where
  | evaluate (program : Program)
  | program (address : Nat) (program : Program)
  | statement (address : Nat) (statement : Statement)

/-- The environment that a call is handed. -/
def Call.target? : Call → Option Nat
  | .evaluate _ => none
  | .program address _ | .statement address _ => some address

/-- The call runs a program that has statements. -/
def Call.Restarts : Call → Prop
  | .evaluate toRun | .program _ toRun => toRun.statements ≠ []
  | .statement .. => False

/-- The call runs a statement alone. -/
def Call.isBare : Call → Bool
  | .statement .. => true
  | .evaluate _ | .program .. => false

/-- One call, and what it answers. -/
def perform (w : World) : Call → Except RuntimeError Float × World
  | .evaluate program =>
    let (value, session) := w.session.evaluate program
    (value, ⟨session.rules, session.visits, w.environments ++ [session.own], w.environments.length⟩)
  | .program address program =>
    let result := w.session.runProgram program (w.bindings address)
    (result.value, w.keep address result)
  | .statement address statement =>
    let result := w.session.runStatement statement (w.bindings address)
    (result.value, w.keep address result)

/-- Calls one after the other, whatever they answer. -/
def performAll (w : World) (calls : List Call) : World :=
  calls.foldl (fun w call => (w.perform call).2) w

variable {w : World} {call : Call} {calls : List Call} {address : Nat}

/-! ### Rules -/

theorem perform_rules (w : World) (call : Call) : (w.perform call).2.rules = w.rules := by
  cases call <;> rfl

theorem performAll_rules (w : World) (calls : List Call) : (w.performAll calls).rules = w.rules := by
  induction calls generalizing w with
  | nil => rfl
  | cons call calls ih => exact (ih _).trans (w.perform_rules call)

/-! ### Frames -/

theorem length_le_perform (w : World) (call : Call) :
    w.environments.length ≤ (w.perform call).2.environments.length := by
  cases call with
  | evaluate program =>
    show _ ≤ (w.environments ++ _).length
    rw [List.length_append]
    exact Nat.le_add_right ..
  | program | statement => exact Nat.le_of_eq List.length_set.symm

/-- **A call leaves every environment but its target as it is.** -/
theorem perform_frame (call : Call) (here : address < w.environments.length)
    (other : call.target? ≠ some address) :
    (w.perform call).2.environments[address]? = w.environments[address]? := by
  cases call with
  | evaluate program => exact List.getElem?_append_left here
  | program target | statement target =>
    have apart : target ≠ address := fun same => other (congrArg some same)
    exact List.getElem?_set_ne apart

theorem performAll_frame (calls : List Call) (here : address < w.environments.length)
    (others : ∀ call ∈ calls, call.target? ≠ some address) :
    (w.performAll calls).environments[address]? = w.environments[address]? := by
  induction calls generalizing w with
  | nil => rfl
  | cons call calls ih =>
    obtain ⟨other, others⟩ := List.forall_mem_cons.mp others
    have still := Nat.lt_of_lt_of_le here (w.length_le_perform call)
    exact (ih still others).trans (perform_frame call here other)

/-! ### Answers -/

theorem bindings_keep (here : address < w.environments.length) (result : Session.Result) :
    (w.keep address result).bindings address = result.bindings := by
  rw [bindings, keep, List.getD_eq_getElem?_getD, List.getElem?_set_self here]
  rfl

/-- What is kept as it was changes nothing. -/
theorem keep_bindings (w : World) (address : Nat) (value : Except RuntimeError Float)
    (session : Session) :
    w.keep address ⟨value, w.bindings address, session⟩ = { w with visits := session.visits } := by
  have same : w.environments.set address (w.bindings address) = w.environments := by
    by_cases here : address < w.environments.length
    · have found : w.bindings address = w.environments[address] := by
        rw [bindings, List.getD_eq_getElem?_getD, List.getElem?_eq_getElem here]
        rfl
      rw [found, List.set_getElem_self]
    · exact List.set_eq_of_length_le (Nat.le_of_not_lt here)
  rw [keep, same]

/-- A program is evaluated as the session evaluates it, which keeps the new environment. -/
theorem perform_evaluate (w : World) (program : Program) :
    ((w.perform (.evaluate program)).1, (w.perform (.evaluate program)).2.session) =
      w.session.evaluate program := by
  obtain ⟨value, kept⟩ : ∃ value, value = w.session.evaluate program := ⟨_, rfl⟩
  have latest : (w.environments ++ [value.2.own]).getD w.environments.length .empty = value.2.own := by
    rw [List.getD_eq_getElem?_getD, List.getElem?_concat_length]
    rfl
  unfold perform
  dsimp only
  rw [← kept, session, bindings, latest]

/-! ### Spent budgets -/

section Spent

variable {limit : Nat} (budget : w.rules.budget = some limit) (spent : limit ≤ w.visits)

include budget spent

/-- **Where the budget is spent, a statement alone fails at its first node and binds nothing.** -/
theorem perform_statement_spent (address : Nat) (statement : Statement) :
    w.perform (.statement address statement) =
      (.error (.stepLimit limit), { w with visits := w.visits + 1 }) := by
  have refused := w.session.runStatement_spent budget spent statement (w.bindings address)
  rw [perform, refused]
  exact congrArg _ (w.keep_bindings address _ _)

end Spent

theorem perform_program_nil (w : World) (address : Nat) :
    w.perform (.program address ⟨[]⟩) = (.error .emptyProgram, w) :=
  congrArg _ (w.keep_bindings address _ _)

theorem perform_evaluate_nil (w : World) :
    w.perform (.evaluate ⟨[]⟩) =
      (.error .emptyProgram,
        { w with environments := w.environments ++ [.empty], own := w.environments.length }) := rfl

theorem Call.eq_nil_of_not_restarts {program : Program} (bare : ¬ program.statements ≠ []) :
    program = ⟨[]⟩ :=
  congrArg Program.mk (Decidable.not_not.mp bare)

/-- With the budget spent, a call counts one visit if it runs a statement alone, and none otherwise
unless it runs a program with statements; and it binds nothing. -/
theorem perform_spent {limit : Nat} (budget : w.rules.budget = some limit)
    (spent : limit ≤ w.visits) (bare : ¬ call.Restarts) :
    (w.perform call).2.visits = w.visits + [call].countP Call.isBare ∧
      w.environments <+: (w.perform call).2.environments := by
  cases call with
  | evaluate program =>
    obtain rfl := Call.eq_nil_of_not_restarts bare
    exact ⟨rfl, List.prefix_append ..⟩
  | program address program =>
    obtain rfl := Call.eq_nil_of_not_restarts bare
    rw [perform_program_nil]
    exact ⟨rfl, List.prefix_refl _⟩
  | statement address statement =>
    rw [perform_statement_spent budget spent]
    exact ⟨rfl, List.prefix_refl _⟩

/-- **A spent budget stays spent until a program with statements is run**, and nothing is bound. -/
theorem performAll_spent {limit : Nat} (budget : w.rules.budget = some limit)
    (spent : limit ≤ w.visits) (bare : ∀ call ∈ calls, ¬ call.Restarts) :
    (w.performAll calls).visits = w.visits + calls.countP Call.isBare ∧
      w.environments <+: (w.performAll calls).environments := by
  induction calls generalizing w with
  | nil => exact ⟨rfl, List.prefix_refl _⟩
  | cons call calls ih =>
    obtain ⟨notProgram, bare⟩ := List.forall_mem_cons.mp bare
    obtain ⟨counted, longer⟩ := perform_spent budget spent notProgram
    have still : limit ≤ (w.perform call).2.visits := by
      rw [counted]
      exact Nat.le_add_right_of_le spent
    obtain ⟨rest, longest⟩ := ih ((w.perform_rules call).symm ▸ budget) still bare
    refine ⟨?_, longer.trans longest⟩
    show ((w.perform call).2.performAll calls).visits = _
    rw [rest, counted, Nat.add_assoc, ← List.countP_append, List.singleton_append]

/-! ### Histories -/

/-- A session that can be used again. -/
structure Reusable (rules : Rules) (w : World) : Prop where
  /-- A program with statements is evaluated as by a fresh session, with the same value or failure, the
  same bindings of its own and the same count. -/
  evaluate : ∀ program : Program, program.statements ≠ [] →
    ((w.perform (.evaluate program)).1, (w.perform (.evaluate program)).2.session) =
      (Session.fresh rules).evaluate program
  /-- On an environment it is run as by a fresh session, with the same value or failure, bindings and
  count. -/
  program : ∀ program : Program, program.statements ≠ [] →
    ∀ address < w.environments.length,
      let result := (Session.fresh rules).runProgram program (w.bindings address)
      (w.perform (.program address program)).1 = result.value ∧
        (w.perform (.program address program)).2.bindings address = result.bindings ∧
        (w.perform (.program address program)).2.visits = result.session.visits
  /-- Calls leave the environments that none of them is handed as they are. -/
  frame : ∀ later : List Call, ∀ address < w.environments.length,
    (∀ call ∈ later, call.target? ≠ some address) →
      (w.performAll later).environments[address]? = w.environments[address]?
  /-- A statement alone counts the nodes that it enters, which are all of its nodes if it succeeds. -/
  statement : ∀ address, ∀ statement : Statement,
    let entered := statement.entered rules ⟨w.bindings address, w.visits⟩
    let (value, last) := w.perform (.statement address statement)
    last.visits = w.visits + entered.length ∧ entered.length ≤ statement.size ∧
      ∀ x, value = .ok x → entered.length = statement.size
  /-- A program without statements is refused, and the count goes on. -/
  empty : (∀ address, w.perform (.program address ⟨[]⟩) = (.error .emptyProgram, w)) ∧
    w.perform (.evaluate ⟨[]⟩) =
      (.error .emptyProgram,
        { w with environments := w.environments ++ [.empty], own := w.environments.length })
  /-- Once the budget is spent, a statement alone fails at its first node and binds nothing, until a
  program with statements is run. -/
  spent : ∀ limit, rules.budget = some limit → limit ≤ w.visits →
    ∀ later : List Call, (∀ call ∈ later, ¬ call.Restarts) →
      let last := w.performAll later
      last.visits = w.visits + later.countP Call.isBare ∧ w.environments <+: last.environments ∧
        ∀ address, ∀ statement : Statement,
          last.perform (.statement address statement) =
            (.error (.stepLimit limit), { last with visits := last.visits + 1 }) ∧
          statement.entered rules ⟨last.bindings address, last.visits⟩ = [statement.task]

/-- **A session can be used again after anything.** Whatever calls are made first, on whatever
environments, and however they end, a program with statements is run as by a fresh session, and nothing
but the environment that a call is handed is changed. Only the count goes on between programs. -/
theorem reusable (rules : Rules) (environments : List Bindings) (calls : List Call) :
    Reusable rules ((fresh rules environments).performAll calls) := by
  have same : ((fresh rules environments).performAll calls).rules = rules := performAll_rules _ calls
  generalize (fresh rules environments).performAll calls = w at same ⊢
  subst same
  constructor
  case evaluate =>
    intro program nonempty
    rw [perform_evaluate, Session.evaluate_eq nonempty]
    rfl
  case program =>
    intro program nonempty address here
    have ran := Session.runProgram_eq nonempty w.session (w.bindings address)
    rw [perform]
    dsimp only
    rw [bindings_keep here, ran]
    exact ⟨rfl, rfl, rfl⟩
  case frame => exact fun later address here others => performAll_frame later here others
  case statement =>
    intro address statement
    obtain ⟨bounded, all⟩ :=
      statement.length_entered w.rules ⟨w.bindings address, w.visits⟩
    refine ⟨w.session.visits_runStatement statement (w.bindings address), bounded, ?_⟩
    exact fun x done => all x _ (Prod.ext done rfl)
  case empty => exact ⟨w.perform_program_nil, w.perform_evaluate_nil⟩
  case spent =>
    intro limit budget spent later bare
    obtain ⟨counted, longer⟩ := performAll_spent budget spent bare
    refine ⟨counted, longer, fun address statement => ?_⟩
    have rules := performAll_rules w later
    have still : limit ≤ (w.performAll later).visits := by
      rw [counted]
      exact Nat.le_add_right_of_le spent
    refine ⟨perform_statement_spent (rules.symm ▸ budget) still address statement, ?_⟩
    exact (Statement.run_spent budget statement ⟨_, _⟩ still).2

/-- A statement of three nodes takes up a budget of two visits. Another statement alone is then refused,
and a program is evaluated all the same. -/
theorem reusable_refused :
    let sum := Statement.expression (.binary .add (.number 1) (.number 2))
    let assigned := Statement.assignment "x" (.number 1)
    let w := (fresh ⟨.refuse, some 2⟩ []).performAll [.statement 0 sum]
    w.visits = 3 ∧
      w.perform (.statement 0 assigned) = (.error (.stepLimit 2), { w with visits := 4 }) ∧
      (w.perform (.evaluate ⟨[assigned]⟩)).1 = .ok 1 := by
  intro sum assigned w
  have again := reusable ⟨.refuse, some 2⟩ [] [.statement 0 sum]
  have first : (fresh ⟨.refuse, some 2⟩ []).perform (.statement 0 sum) =
      (.error (.stepLimit 2), ⟨⟨.refuse, some 2⟩, 3, [.empty], 0⟩) := by
    rw [perform, Session.runStatement, Session.perform, Statement.run_eq_evaluate]
    rfl
  have visits : w.visits = 3 := congrArg (fun answer => answer.2.visits) first
  have spent : 2 ≤ w.visits := by
    rw [visits]
    decide
  refine ⟨visits, ?_, ?_⟩
  · obtain ⟨-, -, refused⟩ := again.spent 2 rfl spent [] (List.forall_mem_nil _)
    have answer : w.perform (.statement 0 assigned) =
        (.error (.stepLimit 2), { w with visits := w.visits + 1 }) := (refused 0 assigned).1
    rw [visits] at answer
    exact answer
  · have evaluated := again.evaluate ⟨[assigned]⟩ (List.cons_ne_nil _ _)
    refine (congrArg Prod.fst evaluated).trans ?_
    rw [Session.evaluate, Session.runProgram, Session.perform,
      Program.run_eq (List.cons_ne_nil _ _), runStatements_cons]
    rfl

end World

end Calculator
