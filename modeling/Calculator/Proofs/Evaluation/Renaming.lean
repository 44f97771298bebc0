/-
**Renaming the names of a program.**

* `Renaming.program`, `Renaming.bindings`: a program and bindings with their names replaced, in the same
  order.
* `Renaming.lookup?_bindings`, `Renaming.assign_bindings`: reading and assigning under the new name.
* `Renaming.Follows`: a step does under the new names what another does under the old ones.
* `Renaming.run_program`: **a renamed program does under the new names what it did under the old ones.**

Names are compared with names and with nothing else, so all that is asked of the new ones is that
different names stay different.
-/

import Calculator.Proofs.Evaluation.Runs
import Calculator.Proofs.Token.Renaming

namespace Calculator

namespace Renaming

variable (r : Renaming)

/-! ### Programs and bindings -/

/-- An expression with its names replaced. -/
def expr : Expr → Expr
  | .number value => .number value
  | .reference name => .reference (r.name name)
  | .binary op left right => .binary op (expr left) (expr right)

/-- A statement with its names replaced. -/
def statement : Statement → Statement
  | .expression value => .expression (r.expr value)
  | .assignment name value => .assignment (r.name name) (r.expr value)

/-- A program with its names replaced. -/
def program (program : Program) : Program := ⟨program.statements.map r.statement⟩

/-- A pair with its name replaced. -/
def pair (pair : String × Float) : String × Float := (r.name pair.1, pair.2)

theorem keys_map_pair (pairs : List (String × Float)) :
    (pairs.map r.pair).map Prod.fst = (pairs.map Prod.fst).map r.name := by
  rw [List.map_map, List.map_map]
  rfl

/-- Bindings with their names replaced, in the same order. -/
def bindings (b : Bindings) : Bindings where
  pairs := b.pairs.map r.pair
  distinct := by
    rw [keys_map_pair]
    exact List.pairwise_map.mpr (b.distinct.imp fun different same => different (r.name_injective same))

/-- A progress with its names replaced. -/
def progress (σ : Progress) : Progress := ⟨r.bindings σ.bindings, σ.visits⟩

/-- A failure with its name replaced. -/
def error : RuntimeError → RuntimeError
  | .undefinedVariable name => .undefinedVariable (r.name name)
  | other => other

/-- **A new name has the value of the old one.** -/
theorem lookup?_bindings (b : Bindings) (name : String) :
    (r.bindings b).lookup? (r.name name) = b.lookup? name := by
  show lookupPair? (r.name name) (b.pairs.map r.pair) = lookupPair? name b.pairs
  induction b.pairs with
  | nil => rfl
  | cons first rest ih =>
    obtain ⟨other, value⟩ := first
    simp only [List.map_cons, pair, lookupPair?, r.name_injective.eq_iff, ih]

theorem assignPair_map (name : String) (value : Float) (pairs : List (String × Float)) :
    assignPair (r.name name) value (pairs.map r.pair) = (assignPair name value pairs).map r.pair := by
  induction pairs with
  | nil => rfl
  | cons first rest ih =>
    obtain ⟨other, old⟩ := first
    simp only [List.map_cons, pair, assignPair, r.name_injective.eq_iff]
    split
    · rfl
    · exact congrArg _ ih

/-- **Assigning to a new name is assigning to the old one.** -/
theorem assign_bindings (b : Bindings) (name : String) (value : Float) :
    (r.bindings b).assign (r.name name) value = r.bindings (b.assign name value) := by
  have pairs := r.assignPair_map name value b.pairs
  simp only [bindings, Bindings.assign, pairs]

/-! ### Steps -/

section Steps

variable {α β : Type}

/-- What a step led to, with the names replaced. -/
def outcome (reached : Except RuntimeError α × Progress) : Except RuntimeError α × Progress :=
  (reached.1.mapError r.error, r.progress reached.2)

/-- Under the new names the second step does what the first does under the old ones. -/
def Follows (step step' : Step α) : Prop := ∀ σ, step' (r.progress σ) = r.outcome (step σ)

variable {r}

theorem Follows.pure (value : α) : r.Follows (Pure.pure value) (Pure.pure value) := fun _ => rfl

theorem Follows.bind {first first' : Step α} {second second' : α → Step β} (left : r.Follows first first')
    (right : ∀ x, r.Follows (second x) (second' x)) : r.Follows (first >>= second) (first' >>= second') := by
  intro σ
  have moved := left σ
  rcases ran : first σ with ⟨failure | x, mid⟩ <;> rw [ran] at moved
  · rw [Step.bind_of_error moved, Step.bind_of_error ran]
    rfl
  · rw [Step.bind_of_ok moved, Step.bind_of_ok ran]
    exact right x mid

variable (r) (rules : Rules)

theorem visit_follows : r.Follows rules.visit rules.visit := by
  intro σ
  unfold Rules.visit progress
  dsimp only
  cases rules.budget with
  | none => rfl
  | some limit =>
    dsimp only
    split <;> rfl

theorem readVariable_follows (name : String) : r.Follows (readVariable name) (readVariable (r.name name)) := by
  intro σ
  unfold readVariable
  rw [progress, r.lookup?_bindings]
  cases σ.bindings.lookup? name <;> rfl

theorem assignVariable_follows (name : String) (value : Float) :
    r.Follows (assignVariable name value) (assignVariable (r.name name) value) := by
  intro σ
  rw [assignVariable, progress, r.assign_bindings]
  rfl

theorem apply_follows (op : Operator) (x y : Float) :
    (rules.apply op x y).mapError r.error = rules.apply op x y := by
  rcases rules.apply_cases op x y with ⟨value, done⟩ | ⟨-, -, -, refused⟩
  · rw [done]
    rfl
  · rw [refused]
    rfl

theorem operate_follows (op : Operator) (x y : Float) :
    r.Follows (rules.operate op x y) (rules.operate op x y) := by
  intro σ
  rw [outcome, Rules.operate, Rules.operate, apply_follows]

/-! ### Trees and runs -/

theorem evaluate_expr (value : Expr) : r.Follows (value.evaluate rules) ((r.expr value).evaluate rules) := by
  induction value with
  | number x => exact .bind (r.visit_follows rules) fun _ => .pure x
  | reference name => exact .bind (r.visit_follows rules) fun _ => r.readVariable_follows name
  | binary op left right ihLeft ihRight =>
    refine .bind (r.visit_follows rules) fun _ => ?_
    refine .bind ihLeft fun x => ?_
    refine .bind ihRight fun y => ?_
    exact r.operate_follows rules op x y

theorem evaluate_statement (statement : Statement) :
    r.Follows (statement.evaluate rules) ((r.statement statement).evaluate rules) := by
  cases statement with
  | expression value => exact r.evaluate_expr rules value
  | assignment name value =>
    refine .bind (r.visit_follows rules) fun _ => ?_
    refine .bind (r.evaluate_expr rules value) fun x => ?_
    exact .bind (r.assignVariable_follows name x) fun _ => .pure x

theorem runStatements_map (value : Float) (statements : List Statement) :
    r.Follows (runStatements rules value statements)
      (runStatements rules value (statements.map r.statement)) := by
  induction statements generalizing value with
  | nil => exact .pure value
  | cons statement rest ih =>
    rw [List.map_cons, runStatements_cons, runStatements_cons]
    exact .bind (r.evaluate_statement rules statement) ih

/-- **A renamed program does under the new names what it did under the old ones.** -/
theorem run_program (program : Program) :
    r.Follows (program.run rules) ((r.program program).run rules) := by
  obtain ⟨statements⟩ := program
  cases statements with
  | nil => exact fun _ => rfl
  | cons statement rest =>
    have reset : r.Follows resetVisits resetVisits := fun _ => rfl
    exact .bind reset fun _ => r.runStatements_map rules 0 (statement :: rest)

end Steps

end Renaming

end Calculator
