/-
**Reading expressions.**

* `Configuration`: how far the reading of an expression has come. Every open parenthesis, and the
  text outside all of them, has a `Level`, which holds the sum and the product begun there.
* `Configuration.step`: one token is let go, or the reading ends.
* `Window.read`: all steps from the start of a factor, a term or an expression.
* `Configuration.step_remaining_lt`: every step is progress, so the reading ends.

The parentheses open at any time are the levels in `outer`, so their number is bounded by the limit
on nesting and is none before and after a reading.
-/

import Calculator.Reading.Window
import Calculator.Syntax.Basic

namespace Calculator

/-! ### Configurations -/

/-- The left operands of a level that wait for their right ones: one of a sum, and one of a product
within it. -/
structure Level where
  sum : Option (Expr × Operator)
  product : Option (Expr × Operator)
  deriving DecidableEq

namespace Level

/-- A level where nothing has been read. -/
def empty : Level := ⟨none, none⟩

/-- A waiting operand combined with its right one. -/
def combine (waiting : Option (Expr × Operator)) (right : Expr) : Expr :=
  match waiting with
  | none => right
  | some (left, op) => .binary op left right

end Level

/-- What a reading is to end with. -/
inductive Goal where
  | factor
  | term
  | expression
  deriving DecidableEq, Repr

/-- What comes next on the innermost level. -/
inductive Phase where
  /-- A number, a name or a parenthesis. -/
  | operand
  /-- An operator behind this factor, or the end of the level. -/
  | operator (factor : Expr)
  deriving DecidableEq

/-- How far a reading has come. -/
structure Configuration where
  window : Window
  /-- The levels around the innermost one, the nearest first. -/
  outer : List Level
  level : Level
  phase : Phase
  deriving DecidableEq

/-- What a step leads to. -/
inductive Turn where
  | go (next : Configuration)
  | stop (reading : Reading Expr)

namespace Configuration

/-- A configuration at the start of an expression. -/
def start (w : Window) : Configuration := ⟨w, [], .empty, .operand⟩

/-- How many parentheses are open. -/
def depth (c : Configuration) : Nat := c.outer.length

/-- Lets the current token go and goes on from there. -/
def proceed (c : Configuration) (outer : List Level) (level : Level) (phase : Phase) : Turn :=
  match c.window.shift with
  | .done _ window => .go ⟨window, outer, level, phase⟩
  | .failed error reader => .stop (.failed error reader)

/-- The reading ends before a token that does not fit. -/
def refuse (c : Configuration) (expected : Expectation) : Turn :=
  .stop (.failed (c.window.current.refusal expected) (.ready c.window))

/-- A step where an operand is due. -/
def operandStep (limit : Int) (c : Configuration) : Turn :=
  match c.window.current.lexeme with
  | .number value => c.proceed c.outer c.level (.operator (.number value))
  | .identifier name => c.proceed c.outer c.level (.operator (.reference name))
  | .symbol .leftParen =>
    if limit ≤ c.depth then
      let token := c.window.current
      .stop (.failed (.syntactic ⟨.operand, token.kind, token.position, some limit⟩)
        (.ready c.window))
    else c.proceed (c.level :: c.outer) .empty .operand
  | _ => c.refuse .operand

/-- The symbol that is current, if one is. -/
def symbol? (c : Configuration) : Option Symbol :=
  match c.window.current.lexeme with
  | .symbol which => some which
  | _ => none

/-- A step behind the sum `total` of the innermost level. -/
def closeStep (total : Expr) (c : Configuration) : Turn :=
  match c.outer with
  | [] => .stop (.done total c.window)
  | level :: outer =>
    if c.window.current.kind = .symbol .rightParen then c.proceed outer level (.operator total)
    else c.refuse (.one (.symbol .rightParen))

/-- A step behind the product `product` of the innermost level. -/
def sumStep (goal : Goal) (product : Expr) (c : Configuration) : Turn :=
  if goal = .term ∧ c.outer = [] then .stop (.done product c.window)
  else
    let total := Level.combine c.level.sum product
    match c.symbol?.bind Symbol.additive? with
    | some op => c.proceed c.outer ⟨some (total, op), none⟩ .operand
    | none => c.closeStep total

/-- A step behind the factor `factor` of the innermost level. -/
def operatorStep (goal : Goal) (factor : Expr) (c : Configuration) : Turn :=
  if goal = .factor ∧ c.outer = [] then .stop (.done factor c.window)
  else
    let product := Level.combine c.level.product factor
    match c.symbol?.bind Symbol.multiplicative? with
    | some op => c.proceed c.outer { c.level with product := some (product, op) } .operand
    | none => c.sumStep goal product

/-- One step: a token is let go, or the reading ends. -/
def step (limit : Int) (goal : Goal) (c : Configuration) : Turn :=
  match c.phase with
  | .operand => c.operandStep limit
  | .operator factor => c.operatorStep goal factor

/-! ### Progress -/

theorem proceed_remaining {c next : Configuration} {outer : List Level} {level : Level}
    {phase : Phase} (notEnd : c.window.current.kind ≠ .endOfInput)
    (went : c.proceed outer level phase = .go next) :
    next.window.remaining < c.window.remaining := by
  unfold proceed at went
  split at went
  · next gone =>
    cases went
    exact Window.shift_remaining_lt gone notEnd
  · cases went

theorem kind_ne_of_symbol? {c : Configuration} {α : Type} {f : Symbol → Option α} {value : α}
    (found : c.symbol?.bind f = some value) : c.window.current.kind ≠ .endOfInput := by
  intro last
  rw [Token.kind, Lexeme.kind_eq_endOfInput_iff] at last
  rw [symbol?, last] at found
  cases found

theorem operandStep_remaining {limit : Int} {c next : Configuration}
    (went : c.operandStep limit = .go next) : next.window.remaining < c.window.remaining := by
  unfold operandStep at went
  split at went
  · next here => exact proceed_remaining (Token.kind_ne here Kind.noConfusion) went
  · next here => exact proceed_remaining (Token.kind_ne here Kind.noConfusion) went
  · next here =>
    split at went
    · cases went
    · exact proceed_remaining (Token.kind_ne here Kind.noConfusion) went
  · cases went

theorem closeStep_remaining {total : Expr} {c next : Configuration}
    (went : c.closeStep total = .go next) : next.window.remaining < c.window.remaining := by
  unfold closeStep at went
  split at went
  · cases went
  · split at went
    · next right => exact proceed_remaining (by rw [right]; exact Kind.noConfusion) went
    · cases went

theorem sumStep_remaining {goal : Goal} {product : Expr} {c next : Configuration}
    (went : c.sumStep goal product = .go next) : next.window.remaining < c.window.remaining := by
  unfold sumStep at went
  split at went
  · cases went
  · dsimp only at went
    split at went
    · next found => exact proceed_remaining (kind_ne_of_symbol? found) went
    · exact closeStep_remaining went

theorem operatorStep_remaining {goal : Goal} {factor : Expr} {c next : Configuration}
    (went : c.operatorStep goal factor = .go next) :
    next.window.remaining < c.window.remaining := by
  unfold operatorStep at went
  split at went
  · cases went
  · dsimp only at went
    split at went
    · next found => exact proceed_remaining (kind_ne_of_symbol? found) went
    · exact sumStep_remaining went

theorem step_remaining_lt {limit : Int} {goal : Goal} {c next : Configuration}
    (went : c.step limit goal = .go next) : next.window.remaining < c.window.remaining := by
  unfold step at went
  split at went
  · exact operandStep_remaining went
  · exact operatorStep_remaining went

/-! ### Readings -/

/-- All steps from a configuration on. -/
def run (limit : Int) (goal : Goal) (c : Configuration) : Reading Expr :=
  match went : c.step limit goal with
  | .go next =>
    have := step_remaining_lt went
    run limit goal next
  | .stop reading => reading
termination_by c.window.remaining

theorem proceed_ne_done {c : Configuration} {outer : List Level} {level : Level} {phase : Phase}
    {value : Expr} {w : Window} : c.proceed outer level phase ≠ .stop (.done value w) := by
  unfold proceed
  split <;> exact fun stopped => nomatch stopped

theorem step_done {limit : Int} {goal : Goal} {c : Configuration} {value : Expr} {w : Window}
    (stopped : c.step limit goal = .stop (.done value w)) : w = c.window := by
  unfold step operandStep operatorStep sumStep closeStep refuse at stopped
  dsimp only at stopped
  repeat' split at stopped
  all_goals first
    | exact absurd stopped proceed_ne_done
    | (cases stopped; try rfl)

theorem run_remaining_le {limit : Int} {goal : Goal} {c : Configuration} {value : Expr}
    {w : Window} (read : c.run limit goal = .done value w) :
    w.remaining ≤ c.window.remaining := by
  fun_induction run limit goal c with
  | case1 c next went shorter ih => exact Nat.le_trans (ih read) (Nat.le_of_lt shorter)
  | case2 c reading stopped =>
    subst read
    exact Nat.le_of_eq (congrArg Window.remaining (step_done stopped))

end Configuration

/-- Reads a factor, a term or an expression, with at most `limit` parentheses open. -/
def Window.read (limit : Int) (goal : Goal) (w : Window) : Reading Expr :=
  (Configuration.start w).run limit goal

end Calculator
