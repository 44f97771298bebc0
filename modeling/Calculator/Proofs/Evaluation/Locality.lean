/-
**What a run reads and what it writes.**

* `Needs`: a statement reads the name and no earlier one assigns it; `assigned`: the names that statements
  assign, in order.
* `Step.Agrees`: from two progresses the step yields the same and counts the same.
* `Expr.evaluate_agrees`, `runStatements_agrees`: so does what needs only names with the same value in both.
* `Confined`: what statements that completed leave of the bindings before them;
  `runStatements_confined`: **a run writes the names that it assigns and no others.**
* `Program.run_local`: both, of two runs of a program.

A name that was assigned on the way has the value just computed in both runs, so after each statement the
two progresses agree again on what the rest needs.
-/

import Calculator.Proofs.Evaluation.Batch
import Calculator.Proofs.Evaluation.Scope

namespace Calculator

/-! ### Names read and names written -/

/-- A statement reads the name, and no earlier one assigns it. -/
def Needs (statements : List Statement) (name : String) : Prop :=
  ∃ front statement back, statements = front ++ statement :: back ∧ name ∈ statement.references ∧
    ∀ earlier ∈ front, earlier.target? ≠ some name

/-- The names that the statements assign, one for each assignment. -/
def assigned (statements : List Statement) : List String := statements.filterMap Statement.target?

section Names

variable {statement : Statement} {rest : List Statement} {name : String}

theorem not_needs_nil (name : String) : ¬ Needs [] name := by
  rintro ⟨front, statement, back, split, -⟩
  cases front <;> cases split

/-- Statements need what the first one reads, and what the others need and the first one does not assign. -/
theorem needs_cons_iff :
    Needs (statement :: rest) name ↔
      name ∈ statement.references ∨ (statement.target? ≠ some name ∧ Needs rest name) := by
  constructor
  · rintro ⟨front, next, back, split, read, earlier⟩
    cases front with
    | nil =>
      cases split
      exact .inl read
    | cons first front =>
      cases split
      obtain ⟨kept, earlier⟩ := List.forall_mem_cons.mp earlier
      exact .inr ⟨kept, front, next, back, rfl, read, earlier⟩
  · rintro (read | ⟨kept, front, next, back, rfl, read, earlier⟩)
    · exact ⟨[], statement, rest, rfl, read, nofun⟩
    · exact ⟨statement :: front, next, back, rfl, read, List.forall_mem_cons.mpr ⟨kept, earlier⟩⟩

theorem assigned_cons (statement : Statement) (rest : List Statement) :
    assigned (statement :: rest) = assigned [statement] ++ assigned rest :=
  List.filterMap_append (l := [statement])

theorem mem_assigned_singleton : name ∈ assigned [statement] ↔ statement.target? = some name := by
  rw [assigned, List.mem_filterMap]
  simp only [List.mem_singleton, exists_eq_left]

/-- A statement whose value is `x` gives its target that value and no other name another one. -/
theorem Statement.lookup?_store (statement : Statement) (x : Float) (b : Bindings) (name : String) :
    (statement.store x b).lookup? name =
      if statement.target? = some name then some x else b.lookup? name := by
  cases statement with
  | expression e => exact (if_neg nofun).symm
  | assignment target e =>
    show (b.assign target x).lookup? name = if some target = some name then some x else b.lookup? name
    simp only [b.lookup?_assign, Option.some_inj]

end Names

/-! ### Two runs -/

/-- From both progresses the step yields the same and counts the same. -/
structure Step.Agrees {α : Type} (step : Step α) (σ σ' : Progress) : Prop where
  result : (step σ).1 = (step σ').1
  visits : (step σ).2.visits = (step σ').2.visits

section Agreement

variable {σ σ' : Progress}

theorem Step.Agrees.pure {α : Type} (value : α) (visits : σ.visits = σ'.visits) :
    (Pure.pure value : Step α).Agrees σ σ' := ⟨rfl, visits⟩

theorem Step.Agrees.bind {α β : Type} {first : Step α} {second : α → Step β}
    (left : first.Agrees σ σ')
    (right : ∀ x mid mid', first σ = (.ok x, mid) → first σ' = (.ok x, mid') →
      mid.visits = mid'.visits → (second x).Agrees mid mid') :
    (first >>= second).Agrees σ σ' := by
  obtain ⟨result, visits⟩ := left
  rcases ran : first σ with ⟨outcome, mid⟩
  rcases ran' : first σ' with ⟨outcome', mid'⟩
  rw [ran, ran'] at result visits
  obtain rfl : outcome = outcome' := result
  cases outcome with
  | error error =>
    constructor
    · rw [bind_of_error ran, bind_of_error ran']
    · rw [bind_of_error ran, bind_of_error ran']
      exact visits
  | ok x =>
    obtain ⟨result, visits⟩ := right x mid mid' ran ran' visits
    constructor
    · rwa [bind_of_ok ran, bind_of_ok ran']
    · rwa [bind_of_ok ran, bind_of_ok ran']

theorem Rules.visit_agrees (rules : Rules) (visits : σ.visits = σ'.visits) : rules.visit.Agrees σ σ' := by
  refine ⟨?_, ?_⟩
  · unfold Rules.visit
    dsimp only
    rw [visits]
    split
    · rfl
    · split <;> rfl
  · rw [rules.visit_snd, rules.visit_snd]
    exact congrArg (· + 1) visits

theorem readVariable_agrees {name : String} (visits : σ.visits = σ'.visits)
    (same : σ.bindings.lookup? name = σ'.bindings.lookup? name) : (readVariable name).Agrees σ σ' := by
  refine ⟨?_, ?_⟩
  · unfold readVariable
    rw [same]
    split <;> rfl
  · rw [readVariable_snd, readVariable_snd]
    exact visits

/-- **An expression reads no names but its own.** -/
theorem Expr.evaluate_agrees (rules : Rules) (value : Expr) (visits : σ.visits = σ'.visits)
    (same : ∀ name ∈ value.references, σ.bindings.lookup? name = σ'.bindings.lookup? name) :
    (value.evaluate rules).Agrees σ σ' := by
  induction value generalizing σ σ' with
  | number x => exact .bind (rules.visit_agrees visits) fun _ _ _ _ _ visits => .pure x visits
  | reference name =>
    refine .bind (rules.visit_agrees visits) fun _ mid mid' entered entered' visits => ?_
    refine readVariable_agrees visits ?_
    rw [rules.visit_still.bindings_eq entered, rules.visit_still.bindings_eq entered']
    exact same name List.mem_cons_self
  | binary op left right ihLeft ihRight =>
    rw [references_binary] at same
    refine .bind (rules.visit_agrees visits) fun _ mid mid' entered entered' visits => ?_
    have kept := rules.visit_still.bindings_eq entered
    have kept' := rules.visit_still.bindings_eq entered'
    refine .bind (ihLeft visits fun name read => ?_) fun x next next' ran ran' visits => ?_
    · rw [kept, kept']
      exact same name (List.mem_append_left _ read)
    refine .bind (ihRight visits fun name read => ?_) fun y last last' _ _ visits => ⟨rfl, visits⟩
    rw [(left.evaluate_still rules).bindings_eq ran, (left.evaluate_still rules).bindings_eq ran',
      kept, kept']
    exact same name (List.mem_append_right _ read)

/-- Nor does a statement. -/
theorem Statement.evaluate_agrees (rules : Rules) (statement : Statement) (visits : σ.visits = σ'.visits)
    (same : ∀ name ∈ statement.references, σ.bindings.lookup? name = σ'.bindings.lookup? name) :
    (statement.evaluate rules).Agrees σ σ' := by
  cases statement with
  | expression value => exact value.evaluate_agrees rules visits same
  | assignment target value =>
    refine .bind (rules.visit_agrees visits) fun _ mid mid' entered entered' visits => ?_
    refine .bind (value.evaluate_agrees rules visits fun name read => ?_) fun x next next' _ _ visits =>
      ⟨rfl, visits⟩
    rw [rules.visit_still.bindings_eq entered, rules.visit_still.bindings_eq entered']
    exact same name read

end Agreement

/-! ### Writing -/

/-- What is left of the bindings when the names `written` were assigned in this order: the other names keep
their bindings, and the new names stand behind the old ones. -/
structure Confined (start last : Bindings) (written : List String) : Prop where
  others : ∀ name, name ∉ written → last.lookup? name = start.lookup? name
  names : last.names = start.names ++ (written.filter (· ∉ start.names)).eraseDups

namespace Confined

variable {start mid last : Bindings} {front back : List String}

theorem refl (b : Bindings) : Confined b b [] := ⟨fun _ _ => rfl, (List.append_nil _).symm⟩

theorem mem_names (confined : Confined start last front) (name : String) :
    name ∈ last.names ↔ name ∈ start.names ∨ name ∈ front := by
  rw [confined.names, List.mem_append, List.mem_eraseDups, List.mem_filter, decide_eq_true_eq]
  by_cases bound : name ∈ start.names
  · exact iff_of_true (.inl bound) (.inl bound)
  · rw [and_iff_left bound]

theorem append (first : Confined start mid front) (second : Confined mid last back) :
    Confined start last (front ++ back) where
  others := by
    intro name fresh
    rw [List.mem_append, not_or] at fresh
    rw [second.others name fresh.2, first.others name fresh.1]
  names := by
    have later : back.filter (· ∉ mid.names) =
        (back.filter (· ∉ start.names)).removeAll (front.filter (· ∉ start.names)) := by
      rw [List.removeAll, List.filter_filter]
      refine List.filter_congr fun name _ => ?_
      simp only [first.mem_names, List.elem_eq_mem, List.mem_filter]
      grind
    rw [second.names, later, first.names, List.filter_append, List.eraseDups_append, List.append_assoc]

end Confined

/-- A statement writes its target and nothing else. -/
theorem Statement.store_confined (statement : Statement) (x : Float) (b : Bindings) :
    Confined b (statement.store x b) (assigned [statement]) where
  others := by
    intro name other
    rw [statement.lookup?_store, if_neg (mt mem_assigned_singleton.mpr other)]
  names := by
    cases statement with
    | expression e => exact (List.append_nil _).symm
    | assignment target e =>
      show (b.assign target x).names = b.names ++ (List.filter (· ∉ b.names) [target]).eraseDups
      rw [b.names_assign]
      by_cases bound : target ∈ b.names <;> simp [bound, List.eraseDups_cons]

/-! ### Runs -/

section Runs

variable {rules : Rules} {value x : Float} {statement : Statement} {statements rest : List Statement}
  {σ σ' mid : Progress} {error : RuntimeError}

theorem succeeding_cons_of_ok (done : statement.evaluate rules σ = (.ok x, mid)) :
    succeeding rules (statement :: rest) σ = statement :: succeeding rules rest mid := by
  rw [succeeding, statement.run_eq_evaluate, done]

theorem succeeding_cons_of_error (failed : statement.evaluate rules σ = (.error error, mid)) :
    succeeding rules (statement :: rest) σ = [] := by
  rw [succeeding, statement.run_eq_evaluate, failed]

/-- **A run writes the names that its completed statements assign, and no others.** -/
theorem runStatements_confined (rules : Rules) (value : Float) (statements : List Statement)
    (σ : Progress) :
    Confined σ.bindings (runStatements rules value statements σ).2.bindings
      (assigned (succeeding rules statements σ)) := by
  induction statements generalizing value σ with
  | nil => exact .refl σ.bindings
  | cons statement rest ih =>
    rw [runStatements_cons]
    rcases ran : statement.evaluate rules σ with ⟨error | x, mid⟩
    · rw [Step.bind_of_error ran, succeeding_cons_of_error ran,
        statement.evaluate_atomic rules σ mid error ran]
      exact .refl σ.bindings
    · rw [Step.bind_of_ok ran, succeeding_cons_of_ok ran, assigned_cons]
      have first := statement.store_confined x σ.bindings
      rw [← Statement.evaluate_ok ran] at first
      exact first.append (ih x mid)

/-- Behind a statement with one value in both runs, its target agrees, and every other name that agreed. -/
theorem Statement.lookup?_eq_of_ok {mid' : Progress} {name : String}
    (done : statement.evaluate rules σ = (.ok x, mid)) (done' : statement.evaluate rules σ' = (.ok x, mid'))
    (before : σ.bindings.lookup? name = σ'.bindings.lookup? name ∨ statement.target? = some name) :
    mid.bindings.lookup? name = mid'.bindings.lookup? name := by
  rw [evaluate_ok done, evaluate_ok done', statement.lookup?_store, statement.lookup?_store]
  split
  · rfl
  · next other => exact before.resolve_right other

/-- Two runs of the same statements: they yield and count the same, the same statements complete, and the
names that agreed or were assigned agree in the end. -/
structure RunsAgree (rules : Rules) (value : Float) (statements : List Statement) (σ σ' : Progress) :
    Prop where
  agrees : (runStatements rules value statements).Agrees σ σ'
  completed : succeeding rules statements σ = succeeding rules statements σ'
  same : ∀ name, σ.bindings.lookup? name = σ'.bindings.lookup? name ∨
      name ∈ assigned (succeeding rules statements σ) →
    (runStatements rules value statements σ).2.bindings.lookup? name =
      (runStatements rules value statements σ').2.bindings.lookup? name

/-- **A run reads the names that it needs, and no others.** -/
theorem runStatements_agree (rules : Rules) (value : Float) (statements : List Statement)
    (visits : σ.visits = σ'.visits)
    (needed : ∀ name, Needs statements name → σ.bindings.lookup? name = σ'.bindings.lookup? name) :
    RunsAgree rules value statements σ σ' := by
  induction statements generalizing value σ σ' with
  | nil => exact ⟨.pure value visits, rfl, fun name same => same.resolve_right List.not_mem_nil⟩
  | cons statement rest ih =>
    have alike := statement.evaluate_agrees rules visits fun name read =>
      needed name (needs_cons_iff.mpr (.inl read))
    have result := alike.result
    have further := alike.visits
    rcases ran : statement.evaluate rules σ with ⟨outcome, mid⟩
    rcases ran' : statement.evaluate rules σ' with ⟨outcome', mid'⟩
    rw [ran, ran'] at result further
    obtain rfl : outcome = outcome' := result
    cases outcome with
    | error error =>
      have kept := statement.evaluate_atomic rules σ mid error ran
      have kept' := statement.evaluate_atomic rules σ' mid' error ran'
      constructor
      · rw [runStatements_cons]
        exact alike.bind fun x mid mid' done => by rw [ran] at done; cases done
      · rw [succeeding_cons_of_error ran, succeeding_cons_of_error ran']
      · rw [runStatements_cons, Step.bind_of_error ran, Step.bind_of_error ran',
          succeeding_cons_of_error ran, kept, kept']
        exact fun name same => same.resolve_right List.not_mem_nil
    | ok x =>
      have onward := ih x further fun name needs => Statement.lookup?_eq_of_ok ran ran' <|
        Decidable.or_iff_not_imp_right.mpr fun kept =>
          needed name (needs_cons_iff.mpr (.inr ⟨kept, needs⟩))
      constructor
      · rw [runStatements_cons]
        refine alike.bind fun y next next' done done' _ => ?_
        rw [ran] at done
        rw [ran'] at done'
        cases done
        cases done'
        exact onward.agrees
      · rw [succeeding_cons_of_ok ran, succeeding_cons_of_ok ran', onward.completed]
      · intro name same
        rw [runStatements_cons, Step.bind_of_ok ran, Step.bind_of_ok ran']
        rw [succeeding_cons_of_ok ran, assigned_cons, List.mem_append, mem_assigned_singleton,
          ← or_assoc] at same
        exact onward.same name (same.imp_left (Statement.lookup?_eq_of_ok ran ran'))

end Runs

/-! ### Programs -/

/-- **A program reads what it needs and writes what it assigns.** Let two bindings agree on every name that
a statement reads before an earlier one has assigned it. Then the program yields the same in both, a value
or an error, with the same count of visits, and the same statements complete. Each name that they assign
has in the end one value, the same in both. In each run all other names keep their bindings, no name moves,
and the new ones stand behind the others, in the order of their first assignment. -/
theorem Program.run_local (rules : Rules) (program : Program) {start start' : Bindings} {visits visits' : Nat}
    (needed : ∀ name, Needs program.statements name → start.lookup? name = start'.lookup? name)
    (counts : program.statements = [] → visits = visits') :
    ∃ result count last last' completed,
      program.run rules ⟨start, visits⟩ = (result, ⟨last, count⟩) ∧
      program.run rules ⟨start', visits'⟩ = (result, ⟨last', count⟩) ∧
      succeeding rules program.statements ⟨start, 0⟩ = completed ∧
      succeeding rules program.statements ⟨start', 0⟩ = completed ∧
      (∀ name ∈ assigned completed, ∃ x, last.lookup? name = some x ∧ last'.lookup? name = some x) ∧
      Confined start last (assigned completed) ∧ Confined start' last' (assigned completed) := by
  by_cases empty : program.statements = []
  · obtain ⟨statements⟩ := program
    obtain rfl : statements = [] := empty
    obtain rfl : visits = visits' := counts rfl
    exact ⟨.error .emptyProgram, visits, start, start', [], rfl, rfl, rfl, rfl, nofun, .refl _, .refl _⟩
  · rw [program.run_eq empty, program.run_eq empty]
    have agreement : RunsAgree rules 0 program.statements ⟨start, 0⟩ ⟨start', 0⟩ :=
      runStatements_agree rules 0 program.statements rfl needed
    obtain ⟨⟨result, count⟩, completed, same⟩ := agreement
    have confined := runStatements_confined rules 0 program.statements ⟨start, 0⟩
    have confined' := runStatements_confined rules 0 program.statements ⟨start', 0⟩
    rcases ran : runStatements rules 0 program.statements ⟨start, 0⟩ with ⟨outcome, last, total⟩
    rcases ran' : runStatements rules 0 program.statements ⟨start', 0⟩ with ⟨outcome', last', total'⟩
    rw [ran, ran'] at result count same
    rw [ran] at confined
    rw [ran', ← completed] at confined'
    obtain rfl : outcome = outcome' := result
    obtain rfl : total = total' := count
    refine ⟨outcome, total, last, last', _, rfl, rfl, rfl, completed.symm, ?_, confined, confined'⟩
    intro name written
    have bound : last.lookup? name ≠ none :=
      mt (last.lookup?_eq_none_iff name).mp (not_not_intro ((confined.mem_names name).mpr (.inr written)))
    obtain ⟨x, found⟩ := Option.ne_none_iff_exists'.mp bound
    exact ⟨x, found, (same name (.inr written)).symm.trans found⟩

/-- In `x = y; x` it is the value of `y` that matters, and not the one that `x` had before. -/
theorem Program.run_local_overwritten :
    ∃ result count last last',
      (Program.mk [.assignment "x" (.reference "y"), .expression (.reference "x")]).run ⟨.refuse, some 3⟩
        ⟨(Bindings.empty.assign "y" 2).assign "x" 5, 8⟩ = (result, ⟨last, count⟩) ∧
      (Program.mk [.assignment "x" (.reference "y"), .expression (.reference "x")]).run ⟨.refuse, some 3⟩
        ⟨(Bindings.empty.assign "x" 7).assign "y" 2, 0⟩ = (result, ⟨last', count⟩) ∧
      (∃ x, last.lookup? "x" = some x ∧ last'.lookup? "x" = some x) ∧
      last.names = ["y", "x"] ∧ last'.names = ["x", "y"] := by
  have needed : ∀ name, Needs [.assignment "x" (.reference "y"), .expression (.reference "x")] name →
      name = "y" := by
    intro name needs
    rcases needs_cons_iff.mp needs with read | ⟨kept, needs⟩
    · exact List.mem_singleton.mp read
    rcases needs_cons_iff.mp needs with read | ⟨-, needs⟩
    · cases List.mem_singleton.mp read
      exact absurd rfl kept
    · exact absurd needs (not_needs_nil name)
  obtain ⟨result, count, last, last', completed, ran, ran', passed, -, same, confined, confined'⟩ :=
    @run_local ⟨.refuse, some 3⟩ ⟨[.assignment "x" (.reference "y"), .expression (.reference "x")]⟩
      ((Bindings.empty.assign "y" 2).assign "x" 5) ((Bindings.empty.assign "x" 7).assign "y" 2) 8 0
      (fun name needs => by cases needed name needs; rfl) (nomatch ·)
  have all : succeeding ⟨.refuse, some 3⟩ [.assignment "x" (.reference "y"), .expression (.reference "x")]
      ⟨(Bindings.empty.assign "y" 2).assign "x" 5, 0⟩ =
        [.assignment "x" (.reference "y"), .expression (.reference "x")] := by decide +kernel
  obtain rfl := all.symm.trans passed
  exact ⟨result, count, last, last', ran, ran', same "x" (.head _), confined.names, confined'.names⟩

end Calculator
