/-
**Scope: which names a run may read.**

* `Expr.references`, `Statement.references`: the names that are read, in the order of the text.
* `Visible`: the name is bound at the start or assigned by a statement; `Scoped`: every statement reads
  names only that are visible before it; `FirstUnbound`: the first name read that is not.
* `Step.Lacks`: a step fails for a missing name, or for nothing.
* `Expr.evaluate_lacks`, `runStatements_lacks`: without a budget, and where every divisor is allowed, so
  do expressions and runs of statements; the name is the first one in the text.
* `Program.run_ieee`: such a program succeeds if and only if it is scoped.

No number has a part in this.
-/

import Calculator.Proofs.Evaluation.Runs
import Calculator.Proofs.Grammar.Derivation

namespace Calculator

/-! ### Names of a text -/

/-- The name that a token is. -/
def Lexeme.name? : Lexeme → Option String
  | .identifier name => some name
  | _ => none

/-- The names that an expression reads, in the order of the text. -/
def Expr.references (value : Expr) : List String := value.content.filterMap Lexeme.name?

theorem Expr.references_binary (op : Operator) (left right : Expr) :
    (Expr.binary op left right).references = left.references ++ right.references := by
  unfold references
  rw [content, List.filterMap_append]
  rfl

/-- The names that a statement reads, in the order of the text; the one that it assigns to is not read. -/
def Statement.references : Statement → List String
  | .expression value => value.references
  | .assignment _ value => value.references

/-- The name that a statement assigns to. -/
def Statement.target? : Statement → Option String
  | .expression _ => none
  | .assignment name _ => some name

/-! ### Scope -/

/-- The name is bound at the start, or one of the statements assigns to it. -/
def Visible (bound : List String) (front : List Statement) (name : String) : Prop :=
  name ∈ bound ∨ ∃ statement ∈ front, statement.target? = some name

/-- Every statement reads names only that are visible behind those before it. -/
def Scoped (bound : List String) (statements : List Statement) : Prop :=
  ∀ front statement back, statements = front ++ statement :: back →
    ∀ name ∈ statement.references, Visible bound front name

/-- The name is the first in the order of the text that is read and not visible. -/
def FirstUnbound (bound : List String) (statements : List Statement) (name : String) : Prop :=
  ∃ front statement back before after,
    statements = front ++ statement :: back ∧ statement.references = before ++ name :: after ∧
    Scoped bound front ∧ (∀ other ∈ before, Visible bound front other) ∧ ¬ Visible bound front name

section Scopes

variable {bound bound' : List String} {statement : Statement} {rest : List Statement} {name : String}

theorem visible_cons (grown : ∀ other, other ∈ bound' ↔ other ∈ bound ∨ statement.target? = some other)
    (front : List Statement) (name : String) :
    Visible bound (statement :: front) name ↔ Visible bound' front name := by
  unfold Visible
  simp only [grown, or_assoc, List.mem_cons, exists_eq_or_imp]

theorem visible_nil (bound : List String) (name : String) : Visible bound [] name ↔ name ∈ bound := by
  refine ⟨?_, .inl⟩
  rintro (bound | ⟨statement, member, -⟩)
  · exact bound
  · exact absurd member List.not_mem_nil

theorem Scoped.nil (bound : List String) : Scoped bound [] := by
  intro front statement back split
  cases front <;> cases split

theorem Scoped.cons
    (grown : ∀ other, other ∈ bound' ↔ other ∈ bound ∨ statement.target? = some other)
    (here : ∀ other ∈ statement.references, other ∈ bound) (further : Scoped bound' rest) :
    Scoped bound (statement :: rest) := by
  intro front next back split other read
  cases front with
  | nil =>
    cases split
    exact (visible_nil bound other).mpr (here other read)
  | cons first front =>
    cases split
    exact (visible_cons grown front other).mpr (further front next back rfl other read)

theorem FirstUnbound.head {before after : List String}
    (split : statement.references = before ++ name :: after) (here : ∀ other ∈ before, other ∈ bound)
    (unbound : name ∉ bound) (rest : List Statement) : FirstUnbound bound (statement :: rest) name := by
  refine ⟨[], statement, rest, before, after, rfl, split, .nil bound, fun other read => ?_, ?_⟩
  · exact (visible_nil bound other).mpr (here other read)
  · exact mt (visible_nil bound name).mp unbound

theorem FirstUnbound.cons
    (grown : ∀ other, other ∈ bound' ↔ other ∈ bound ∨ statement.target? = some other)
    (here : ∀ other ∈ statement.references, other ∈ bound) (first : FirstUnbound bound' rest name) :
    FirstUnbound bound (statement :: rest) name := by
  obtain ⟨front, next, back, before, after, rfl, split, passed, earlier, unbound⟩ := first
  refine ⟨statement :: front, next, back, before, after, rfl, split, passed.cons grown here, ?_, ?_⟩
  · exact fun other read => (visible_cons grown front other).mpr (earlier other read)
  · exact mt (visible_cons grown front name).mp unbound

theorem FirstUnbound.not_scoped (first : FirstUnbound bound rest name) : ¬ Scoped bound rest := by
  obtain ⟨front, statement, back, before, after, rfl, split, -, -, unbound⟩ := first
  intro whole
  refine unbound (whole front statement back rfl name ?_)
  rw [split]
  exact List.mem_append_right _ List.mem_cons_self

end Scopes

/-! ### Missing names -/

/-- From here the step fails for the name that is missing; if none is, it does not fail. -/
def Step.Lacks {α : Type} (step : Step α) (σ : Progress) : Option String → Prop
  | none => ∃ x last, step σ = (.ok x, last)
  | some name => ∃ last, step σ = (.error (.undefinedVariable name), last)

theorem Step.Lacks.bind {α β : Type} {first : Step α} {second : α → Step β} {σ : Progress}
    {missing missing' : Option String} (left : first.Lacks σ missing)
    (right : ∀ x mid, first σ = (.ok x, mid) → (second x).Lacks mid missing') :
    (first >>= second).Lacks σ (missing.or missing') := by
  cases missing with
  | some name =>
    obtain ⟨last, failed⟩ := left
    exact ⟨last, bind_of_error failed⟩
  | none =>
    obtain ⟨x, mid, done⟩ := left
    have lacks := right x mid done
    rw [Option.none_or]
    cases missing' <;> (unfold Lacks; rw [bind_of_ok done]; exact lacks)

theorem Step.Lacks.behind {α β : Type} {first : Step α} {second : α → Step β} {σ : Progress}
    {missing : Option String} (left : first.Lacks σ none)
    (right : ∀ x mid, first σ = (.ok x, mid) → (second x).Lacks mid missing) :
    (first >>= second).Lacks σ missing := by
  rw [← missing.none_or]
  exact .bind left right

theorem Step.Lacks.before {α β : Type} {first : Step α} {second : α → Step β} {σ : Progress}
    {missing : Option String} (left : first.Lacks σ missing)
    (right : ∀ x mid, first σ = (.ok x, mid) → (second x).Lacks mid none) :
    (first >>= second).Lacks σ missing := by
  rw [← missing.or_none]
  exact .bind left right

namespace Bindings

variable {b : Bindings} {names : List String} {name : String}

/-- The first of the names that is not bound. -/
def missing? (b : Bindings) (names : List String) : Option String :=
  names.find? fun name => name ∉ b.names

theorem missing?_append (b : Bindings) (front back : List String) :
    b.missing? (front ++ back) = (b.missing? front).or (b.missing? back) := List.find?_append

theorem missing?_eq_none (found : b.missing? names = none) : ∀ other ∈ names, other ∈ b.names := by
  intro other member
  have here := List.find?_eq_none.mp found other member
  rwa [decide_eq_true_eq, Decidable.not_not] at here

theorem missing?_eq_some (found : b.missing? names = some name) :
    ∃ before after, names = before ++ name :: after ∧ (∀ other ∈ before, other ∈ b.names) ∧
      name ∉ b.names := by
  obtain ⟨unbound, before, after, split, earlier⟩ := List.find?_eq_some_iff_append.mp found
  refine ⟨before, after, split, fun other member => ?_, of_decide_eq_true unbound⟩
  have here := earlier other member
  rwa [Bool.not_eq_true', decide_eq_false_iff_not, Decidable.not_not] at here

end Bindings

theorem Rules.visit_lacks (division : DivisionPolicy) (σ : Progress) :
    (Rules.visit ⟨division, none⟩).Lacks σ none := ⟨_, _, rfl⟩

theorem readVariable_lacks (name : String) (σ : Progress) :
    (readVariable name).Lacks σ (σ.bindings.missing? [name]) := by
  unfold Bindings.missing?
  rw [List.find?_singleton]
  cases found : σ.bindings.lookup? name with
  | none =>
    have unbound := (σ.bindings.lookup?_eq_none_iff name).mp found
    rw [if_pos (decide_eq_true unbound)]
    exact ⟨σ, by rw [readVariable, found]⟩
  | some x =>
    have bound := mt (σ.bindings.lookup?_eq_none_iff name).mpr (by rw [found]; exact Option.some_ne_none x)
    rw [if_neg (by rwa [decide_eq_true_eq])]
    exact ⟨x, σ, by rw [readVariable, found]⟩

/-- No operation fails where every divisor is allowed. -/
theorem Rules.operate_lacks (op : Operator) (x y : Float) (σ : Progress) :
    (Rules.operate ⟨.ieee, none⟩ op x y).Lacks σ none := by
  rcases Rules.apply_cases ⟨.ieee, none⟩ op x y with ⟨z, applied⟩ | ⟨-, -, strict, -⟩
  · exact ⟨z, σ, by rw [operate, applied]⟩
  · cases strict

/-- **An expression lacks the first name, in the order of the text, that is not bound.** -/
theorem Expr.evaluate_lacks (value : Expr) (σ : Progress) :
    (value.evaluate ⟨.ieee, none⟩).Lacks σ (σ.bindings.missing? value.references) := by
  induction value generalizing σ with
  | number x => exact .bind (Rules.visit_lacks _ σ) fun _ _ _ => ⟨x, _, rfl⟩
  | reference name =>
    refine .behind (Rules.visit_lacks _ σ) fun _ entered visited => ?_
    rw [← (Rules.visit_still _).bindings_eq visited]
    exact readVariable_lacks name entered
  | binary op left right ihLeft ihRight =>
    rw [references_binary, Bindings.missing?_append]
    refine .behind (Rules.visit_lacks _ σ) fun _ entered visited => ?_
    rw [← (Rules.visit_still _).bindings_eq visited]
    refine .bind (ihLeft entered) fun x mid computed => ?_
    rw [← (left.evaluate_still _).bindings_eq computed]
    refine .before (ihRight mid) fun y reached _ => ?_
    exact Rules.operate_lacks op x y reached

/-- So does a statement. -/
theorem Statement.evaluate_lacks (statement : Statement) (σ : Progress) :
    (statement.evaluate ⟨.ieee, none⟩).Lacks σ (σ.bindings.missing? statement.references) := by
  cases statement with
  | expression value => exact value.evaluate_lacks σ
  | assignment name value =>
    refine .behind (Rules.visit_lacks _ σ) fun _ entered visited => ?_
    rw [← (Rules.visit_still _).bindings_eq visited]
    refine .before (value.evaluate_lacks entered) fun x reached _ => ?_
    exact ⟨x, _, rfl⟩

/-! ### Runs -/

theorem Statement.mem_names_store (statement : Statement) (x : Float) (b : Bindings) (name : String) :
    name ∈ (statement.store x b).names ↔ name ∈ b.names ∨ statement.target? = some name := by
  cases statement with
  | expression value => exact (or_iff_left fun same => nomatch same).symm
  | assignment target value =>
    show name ∈ (b.assign target x).names ↔ name ∈ b.names ∨ some target = some name
    rw [Bindings.names_assign, Option.some_inj]
    split
    · next bound =>
      refine (or_iff_left_of_imp ?_).symm
      rintro rfl
      exact bound
    · rw [List.mem_append, List.mem_singleton, eq_comm]

/-- **A run of statements succeeds, or it fails for the first name that is not visible.** -/
theorem runStatements_lacks (value : Float) (statements : List Statement) (σ : Progress) :
    ∃ missing, (runStatements ⟨.ieee, none⟩ value statements).Lacks σ missing ∧
      (missing = none → Scoped σ.bindings.names statements) ∧
      ∀ name, missing = some name → FirstUnbound σ.bindings.names statements name := by
  induction statements generalizing value σ with
  | nil => exact ⟨none, ⟨value, σ, rfl⟩, fun _ => .nil _, fun name same => nomatch same⟩
  | cons statement rest ih =>
    rw [runStatements_cons]
    have lacks := statement.evaluate_lacks σ
    cases found : σ.bindings.missing? statement.references with
    | some name =>
      rw [found] at lacks
      obtain ⟨last, failed⟩ := lacks
      refine ⟨some name, ⟨last, Step.bind_of_error failed⟩, (nomatch ·), ?_⟩
      rintro _ ⟨⟩
      obtain ⟨before, after, split, earlier, unbound⟩ := Bindings.missing?_eq_some found
      exact .head split earlier unbound rest
    | none =>
      rw [found] at lacks
      obtain ⟨x, mid, done⟩ := lacks
      have here := Bindings.missing?_eq_none found
      have grown (other : String) : other ∈ mid.bindings.names ↔
          other ∈ σ.bindings.names ∨ statement.target? = some other := by
        rw [Statement.evaluate_ok done]
        exact statement.mem_names_store x σ.bindings other
      obtain ⟨missing, further, passes, first⟩ := ih x mid
      refine ⟨missing, ?_, fun same => (passes same).cons grown here, fun name same => ?_⟩
      · exact .behind ⟨x, mid, done⟩ fun y reached again => by
          rw [done] at again
          cases again
          exact further
      · exact (first name same).cons grown here

/-- **Where every divisor is allowed, success is a matter of names.** Without a budget, a program that
has statements succeeds if and only if every name that it reads is bound at the start or assigned by an
earlier statement. Otherwise it fails for the first name, in the order of the text, for which this is not
so. No number that is computed decides on this, a zero divisor included. -/
theorem Program.run_ieee (program : Program) (nonempty : program.statements ≠ []) (σ : Progress) :
    ((∃ x last, program.run ⟨.ieee, none⟩ σ = (.ok x, last)) ↔
      Scoped σ.bindings.names program.statements) ∧
    (¬ Scoped σ.bindings.names program.statements →
      ∃ name last, FirstUnbound σ.bindings.names program.statements name ∧
        program.run ⟨.ieee, none⟩ σ = (.error (.undefinedVariable name), last)) := by
  rw [program.run_eq nonempty]
  obtain ⟨missing, lacks, passes, first⟩ :=
    runStatements_lacks 0 program.statements ⟨σ.bindings, 0⟩
  cases missing with
  | none => exact ⟨iff_of_true lacks (passes rfl), fun unscoped => absurd (passes rfl) unscoped⟩
  | some name =>
    have unbound := first name rfl
    obtain ⟨last, failed⟩ := lacks
    refine ⟨iff_of_false ?_ unbound.not_scoped, fun _ => ⟨name, last, unbound, failed⟩⟩
    rintro ⟨x, last', done⟩
    rw [failed] at done
    cases done

/-- In `x = 1 / 0; x - y` it is the name `y` that makes the run fail. -/
theorem Program.run_ieee_missing :
    ∃ name last,
      FirstUnbound [] [.assignment "x" (.binary .divide (.number 1) (.number 0)),
        .expression (.binary .subtract (.reference "x") (.reference "y"))] name ∧
      (Program.mk [.assignment "x" (.binary .divide (.number 1) (.number 0)),
        .expression (.binary .subtract (.reference "x") (.reference "y"))]).run
          ⟨.ieee, none⟩ ⟨.empty, 0⟩ = (.error (.undefinedVariable name), last) := by
  refine (run_ieee _ (List.cons_ne_nil _ _) ⟨.empty, 0⟩).2 fun whole => ?_
  rcases whole [_] _ [] rfl "y" (by decide) with bound | ⟨statement, member, assigned⟩
  · exact absurd bound List.not_mem_nil
  · cases List.mem_singleton.mp member
    exact absurd assigned (by decide)

end Calculator
