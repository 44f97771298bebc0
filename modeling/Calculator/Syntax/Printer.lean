/-
**The canonical text of a program.**

* `Expr.text`, `Statement.text`: the text by recursion on the tree, an operation in parentheses.
* `Draft.turn`, `Draft.finish`: the same text from a stack of pieces yet to be written, so that a long
  chain of operators needs no deep recursion; each turn takes one piece.
* `Draft.turns`: how many turns are left, one fewer after each.
* `Draft.finish_eq_outcome`: a stack of any pieces comes to their recursive texts in order, or is
  refused for a program among them.
* `Form.render`: the text of a statement, piece by piece; a whole program is no such piece.
* `Program.text`: the statements of a program, each closed by a semicolon; `Form.shown`: the text of
  any form.
-/

import Calculator.Binary64.Notation
import Calculator.Syntax.Basic

namespace Calculator

open Binary64 (literalText)

/-! ### By recursion -/

/-- The text of an expression. -/
def Expr.text : Expr → String
  | .number value => literalText value
  | .reference name => name
  | .binary op left right => "(" ++ left.text ++ " " ++ op.text ++ " " ++ right.text ++ ")"

/-- The text of a statement. -/
def Statement.text : Statement → String
  | .expression value => value.text
  | .assignment name value => name ++ " = " ++ value.text

/-! ### Piece by piece -/

/-- Something yet to be written. -/
inductive Piece where
  | text (part : String)
  | form (value : Form)

/-- An expression yet to be written. -/
@[match_pattern]
def Piece.expr (value : Expr) : Piece := .form (.statement (.expression value))

/-- A piece that is neither a text nor a statement, by its sort. -/
structure UnknownNode where
  sort : String
  deriving DecidableEq, Repr

/-- The failure in words. -/
def UnknownNode.text (e : UnknownNode) : String := "Unknown node type: " ++ e.sort

/-- A text in the making: its parts so far, the latest first, and the pieces yet to be written, the
next first. -/
structure Draft where
  written : List String
  waiting : List Piece

namespace Draft

/-- A form of which nothing is written yet. -/
def start (form : Form) : Draft := ⟨[], [.form form]⟩

/-- The next piece is taken. Texts, numbers and names are written; an operation or an assignment is
taken apart, and its pieces wait in front of all others. -/
def turn : Draft → Except UnknownNode Draft
  | ⟨written, []⟩ => .ok ⟨written, []⟩
  | ⟨written, .text part :: rest⟩ => .ok ⟨part :: written, rest⟩
  | ⟨written, .expr (.number value) :: rest⟩ => .ok ⟨literalText value :: written, rest⟩
  | ⟨written, .expr (.reference name) :: rest⟩ => .ok ⟨name :: written, rest⟩
  | ⟨written, .expr (.binary op left right) :: rest⟩ =>
    .ok ⟨written, .text "(" :: .expr left :: .text (" " ++ op.text ++ " ") :: .expr right ::
      .text ")" :: rest⟩
  | ⟨written, .form (.statement (.assignment name value)) :: rest⟩ =>
    .ok ⟨written, .text (name ++ " = ") :: .expr value :: rest⟩
  | ⟨_, .form (.program _) :: _⟩ => .error ⟨"Program"⟩

end Draft

/-! ### How long it takes -/

/-- How many turns an expression takes to be written. -/
def Expr.turns : Expr → Nat
  | .number _ => 1
  | .reference _ => 1
  | .binary _ left right => left.turns + right.turns + 4

/-- How many turns a statement takes to be written. -/
def Statement.turns : Statement → Nat
  | .expression value => value.turns
  | .assignment _ value => value.turns + 2

/-- How many turns a piece takes to be written, or to be refused. -/
def Piece.turns : Piece → Nat
  | .text _ => 1
  | .form (.statement statement) => statement.turns
  | .form (.program _) => 1

/-- How many turns several pieces take. -/
def Piece.work : List Piece → Nat
  | [] => 0
  | piece :: rest => piece.turns + work rest

namespace Draft

/-- How many turns are left. -/
def turns (draft : Draft) : Nat := Piece.work draft.waiting

theorem turns_turn {draft next : Draft} (waits : draft.waiting ≠ []) (turned : draft.turn = .ok next) :
    next.turns + 1 = draft.turns := by
  unfold turn at turned
  split at turned
  · exact absurd rfl waits
  all_goals cases turned
  all_goals
    simp only [turns, Piece.work, Piece.turns, Statement.turns, Expr.turns]
    omega

/-- The text that comes of a draft, turn after turn until nothing waits. -/
def finish (draft : Draft) : Except UnknownNode String :=
  if waits : draft.waiting = [] then .ok (String.join draft.written.reverse)
  else
    match turned : draft.turn with
    | .error e => .error e
    | .ok next =>
      have := turns_turn waits turned
      next.finish
termination_by draft.turns

end Draft

/-! ### What is written -/

/-- The text of a piece, by recursion. -/
def Piece.content : Piece → Except UnknownNode String
  | .text part => .ok part
  | .form (.statement statement) => .ok statement.text
  | .form (.program _) => .error ⟨"Program"⟩

/-- The texts of several pieces, one behind the other. -/
def Piece.contents : List Piece → Except UnknownNode String
  | [] => .ok ""
  | piece :: rest => piece.content.bind fun first => (contents rest).map (first ++ ·)

namespace Draft

/-- What a draft comes to: what is written, and behind it the texts of all that waits. -/
def outcome (draft : Draft) : Except UnknownNode String :=
  (Piece.contents draft.waiting).map (String.join draft.written.reverse ++ ·)

theorem outcome_cons {written : List String} {piece : Piece} {rest : List Piece} {text : String}
    (content : piece.content = .ok text) :
    outcome ⟨written, piece :: rest⟩ = outcome ⟨text :: written, rest⟩ := by
  unfold outcome
  rw [Piece.contents, content]
  cases Piece.contents rest with
  | error e => rfl
  | ok more => simp [Except.bind, Except.map, String.join_append, String.append_assoc]

theorem outcome_congr {written written' : List String} (rest : List Piece)
    (same : String.join written.reverse = String.join written'.reverse) :
    outcome ⟨written, rest⟩ = outcome ⟨written', rest⟩ := by
  rw [outcome, outcome, same]

/-- **A turn changes nothing in what a draft comes to.** -/
theorem outcome_turn (draft : Draft) : draft.turn.bind outcome = draft.outcome := by
  unfold turn
  split
  · rfl
  · exact (outcome_cons rfl).symm
  · exact (outcome_cons rfl).symm
  · exact (outcome_cons rfl).symm
  -- What is taken apart comes to its pieces one by one, and so to its own text.
  · next written op left right rest =>
    show outcome _ = outcome ⟨written, .expr (.binary op left right) :: rest⟩
    rw [outcome_cons rfl, outcome_cons rfl, outcome_cons rfl, outcome_cons rfl, outcome_cons rfl,
      outcome_cons rfl]
    refine outcome_congr rest ?_
    simp [String.join_append, String.append_assoc, Statement.text, Expr.text]
  · next written name value rest =>
    show outcome _ = outcome ⟨written, .form (.statement (.assignment name value)) :: rest⟩
    rw [outcome_cons rfl, outcome_cons rfl, outcome_cons rfl]
    refine outcome_congr rest ?_
    simp [String.join_append, String.append_assoc, Statement.text]
  · rfl

/-- **Turn after turn, a draft comes to what the recursion says.** -/
theorem finish_eq_outcome (draft : Draft) : draft.finish = draft.outcome := by
  fun_induction finish draft with
  | case1 draft nothing =>
    rw [outcome, nothing]
    simp [Piece.contents, Except.map]
  | case2 draft waits e turned =>
    rw [← draft.outcome_turn, turned]
    rfl
  | case3 draft waits next turned shorter ih =>
    rw [ih, ← draft.outcome_turn, turned]
    rfl

theorem outcome_start (statement : Statement) :
    (start (.statement statement)).outcome = .ok statement.text := by
  rw [start, outcome_cons rfl]
  simp [outcome, Piece.contents, Except.map]

end Draft

/-! ### Forms -/

/-- The text of a form, written piece by piece. -/
def Form.render (form : Form) : Except UnknownNode String := (Draft.start form).finish

theorem Form.render_statement (statement : Statement) :
    (Form.statement statement).render = .ok statement.text := by
  rw [render, Draft.finish_eq_outcome, Draft.outcome_start]

theorem Form.render_program (whole : Program) : (Form.program whole).render = .error ⟨"Program"⟩ := by
  rw [render, Draft.finish_eq_outcome]
  rfl

/-- The text of a statement, written piece by piece. -/
def Statement.spelled (statement : Statement) : String :=
  match rendered : (Form.statement statement).render with
  | .ok text => text
  | .error _ => nomatch (Form.render_statement statement).symm.trans rendered

theorem spelled_eq_text (statement : Statement) : statement.spelled = statement.text := by
  unfold Statement.spelled
  split
  · next rendered =>
    exact Except.ok.inj (rendered.symm.trans (Form.render_statement statement))
  · next rendered => cases (Form.render_statement statement).symm.trans rendered

/-! ### Programs -/

/-- The text of a program. -/
def Program.text (program : Program) : String :=
  if program.statements = [] then ""
  else "; ".intercalate (program.statements.map Statement.spelled) ++ ";"

/-- A form as it is shown: a number or a name at once, any other statement piece by piece. -/
def Form.shown : Form → String
  | .statement (.expression (.number value)) => literalText value
  | .statement (.expression (.reference name)) => name
  | .statement other => other.spelled
  | .program whole => whole.text

end Calculator
