/-
**Reading an expression, without the text.**

* `Move`: what a token does to a state; `follow`: the state after several tokens.
* `Place`: a configuration without its window; `Place.move`: its step, as far as the current token
  decides it.
* `Configuration.step_eq`: a step of a configuration is the move of its place, carried out on the
  window.
* `Place.move_number` and its companions: the moves that let a token go, one by one.

A place knows the tokens only through the operands that wait in its levels, so what holds of a place
holds whatever the text that led there.
-/

import Calculator.Proofs.Grammar.Derivation
import Calculator.Reading.Program

namespace Calculator

/-! ### Moves -/

/-- What a token does to a state: it is let go, it ends the reading before it, or it does not fit. -/
inductive Move (σ α : Type) where
  | shift (next : σ)
  | stop (value : α)
  | refuse (expected : Expectation) (depthLimit : Option Int)
  deriving DecidableEq

section Follow

variable {σ α : Type}

/-- The state after a token that is let go. -/
def Move.next? : Move σ α → Option σ
  | .shift next => some next
  | _ => none

theorem Move.next?_eq_some_iff {move : Move σ α} {next : σ} :
    move.next? = some next ↔ move = .shift next := by
  cases move with
  | shift other =>
    rw [next?, Option.some.injEq, shift.injEq]
  | stop | refuse => exact iff_of_false (fun found => nomatch found) (fun found => nomatch found)

/-- The state after several tokens, if all of them are let go. -/
def follow (move : σ → Lexeme → Move σ α) (start : σ) (lexemes : List Lexeme) : Option σ :=
  lexemes.foldlM (fun state lexeme => (move state lexeme).next?) start

variable {move : σ → Lexeme → Move σ α} {start next : σ}

@[simp] theorem follow_nil : follow move start [] = some start := rfl

theorem follow_cons {lexeme : Lexeme} {rest : List Lexeme}
    (shifted : move start lexeme = .shift next) :
    follow move start (lexeme :: rest) = follow move next rest := by
  rw [follow, List.foldlM_cons, shifted]
  rfl

theorem follow_append {front back : List Lexeme} (reached : follow move start front = some next) :
    follow move start (front ++ back) = follow move next back := by
  rw [follow] at reached
  rw [follow, List.foldlM_append, reached]
  rfl

theorem follow_append_eq_some {front back : List Lexeme} {last : σ}
    (reached : follow move start (front ++ back) = some last) :
    ∃ middle, follow move start front = some middle ∧ follow move middle back = some last := by
  rw [follow, List.foldlM_append] at reached
  exact Option.bind_eq_some_iff.mp reached

theorem follow_cons_eq_some {lexeme : Lexeme} {rest : List Lexeme} {last : σ}
    (reached : follow move start (lexeme :: rest) = some last) :
    ∃ next, move start lexeme = .shift next ∧ follow move next rest = some last := by
  rw [follow, List.foldlM_cons] at reached
  obtain ⟨next, shifted, rest⟩ := Option.bind_eq_some_iff.mp reached
  exact ⟨next, Move.next?_eq_some_iff.mp shifted, rest⟩

/-- **What every token that is let go keeps, a whole run keeps.** -/
theorem follow_invariant (holds : σ → List Lexeme → Prop)
    (step : ∀ state lexemes lexeme next, holds state lexemes → move state lexeme = .shift next →
      holds next (lexemes ++ [lexeme]))
    {front back : List Lexeme} (holdsStart : holds start front)
    (reached : follow move start back = some next) : holds next (front ++ back) := by
  induction back generalizing start front with
  | nil =>
    cases reached
    rw [List.append_nil]
    exact holdsStart
  | cons lexeme back ih =>
    obtain ⟨middle, shifted, rest⟩ := follow_cons_eq_some reached
    rw [List.append_cons]
    exact ih (step start front lexeme middle holdsStart shifted) rest

end Follow

/-! ### Places -/

/-- A configuration without its window. -/
structure Place where
  outer : List Level
  level : Level
  phase : Phase
  deriving DecidableEq

/-- The symbol that a token is, if it is one. -/
def Lexeme.symbol? : Lexeme → Option Symbol
  | .symbol which => some which
  | _ => none

namespace Place

/-- The start of an expression. -/
def start : Place := ⟨[], .empty, .operand⟩

/-- The place behind a name at the start of an expression. -/
def named (name : String) : Place := ⟨[], .empty, .operator (.reference name)⟩

/-- The place behind an opened parenthesis. -/
def opened (outer : List Level) (level : Level) : Place := ⟨level :: outer, .empty, .operand⟩

/-- What a token does where an operand is due. -/
def operandMove (limit : Int) (outer : List Level) (level : Level) : Lexeme → Move Place Expr
  | .number value => .shift ⟨outer, level, .operator (.number value)⟩
  | .identifier name => .shift ⟨outer, level, .operator (.reference name)⟩
  | .symbol .leftParen =>
    if limit ≤ outer.length then .refuse .operand (some limit) else .shift (opened outer level)
  | _ => .refuse .operand none

/-- What a token does behind the sum `total` if no operator takes it up. -/
def closeMove (outer : List Level) (total : Expr) (lexeme : Lexeme) : Move Place Expr :=
  match outer with
  | [] => .stop total
  | level :: outer =>
    if lexeme = .symbol .rightParen then .shift ⟨outer, level, .operator total⟩
    else .refuse (.one (.symbol .rightParen)) none

/-- What a token does behind a factor. -/
def operatorMove (outer : List Level) (level : Level) (factor : Expr) (lexeme : Lexeme) :
    Move Place Expr :=
  let product := Level.combine level.product factor
  match lexeme.symbol?.bind Symbol.multiplicative? with
  | some op => .shift ⟨outer, ⟨level.sum, some (product, op)⟩, .operand⟩
  | none =>
    let total := Level.combine level.sum product
    match lexeme.symbol?.bind Symbol.additive? with
    | some op => .shift ⟨outer, ⟨some (total, op), none⟩, .operand⟩
    | none => closeMove outer total lexeme

/-- What a token does while an expression is read. -/
def move (limit : Int) (place : Place) (lexeme : Lexeme) : Move Place Expr :=
  match place.phase with
  | .operand => operandMove limit place.outer place.level lexeme
  | .operator factor => operatorMove place.outer place.level factor lexeme

end Place

/-! ### The moves that let a token go -/

namespace Place

/-- The sum of a level whose last factor is `factor`. -/
def total (level : Level) (factor : Expr) : Expr :=
  Level.combine level.sum (Level.combine level.product factor)

/-- A token that is let go, with the places before and after it. -/
inductive Shifts (limit : Int) : Place → Lexeme → Place → Prop
  | number {outer level} (value : Float) :
      Shifts limit ⟨outer, level, .operand⟩ (.number value)
        ⟨outer, level, .operator (.number value)⟩
  | reference {outer level} (name : String) :
      Shifts limit ⟨outer, level, .operand⟩ (.identifier name)
        ⟨outer, level, .operator (.reference name)⟩
  | enter {outer level} (room : outer.length < limit.toNat) :
      Shifts limit ⟨outer, level, .operand⟩ (.symbol .leftParen) (opened outer level)
  | multiply {outer level factor} {op : Operator} (binds : op.level = .term) :
      Shifts limit ⟨outer, level, .operator factor⟩ op.lexeme
        ⟨outer, ⟨level.sum, some (Level.combine level.product factor, op)⟩, .operand⟩
  | add {outer level factor} {op : Operator} (binds : op.level = .expression) :
      Shifts limit ⟨outer, level, .operator factor⟩ op.lexeme
        ⟨outer, ⟨some (total level factor, op), none⟩, .operand⟩
  | leave {outer level factor} (around : Level) :
      Shifts limit ⟨around :: outer, level, .operator factor⟩ (.symbol .rightParen)
        ⟨outer, around, .operator (total level factor)⟩

theorem lt_toNat_iff {limit : Int} {depth : Nat} : depth < limit.toNat ↔ ¬ limit ≤ depth := by
  omega

/-- A token that a product takes up is an operator of products. -/
theorem multiplicative_iff {lexeme : Lexeme} {op : Operator} :
    lexeme.symbol?.bind Symbol.multiplicative? = some op ↔ lexeme = op.lexeme ∧ op.level = .term := by
  match lexeme with
  | .number _ | .identifier _ | .endOfInput =>
    exact iff_of_false (fun found => nomatch found) (fun found => nomatch found.1)
  | .symbol which =>
    cases which <;> cases op <;> simp [Lexeme.symbol?, Symbol.multiplicative?, Operator.lexeme,
      Operator.symbol, Operator.level]

/-- A token that a sum takes up is an operator of sums. -/
theorem additive_iff {lexeme : Lexeme} {op : Operator} :
    lexeme.symbol?.bind Symbol.additive? = some op ↔
      lexeme = op.lexeme ∧ op.level = .expression := by
  match lexeme with
  | .number _ | .identifier _ | .endOfInput =>
    exact iff_of_false (fun found => nomatch found) (fun found => nomatch found.1)
  | .symbol which =>
    cases which <;> cases op <;> simp [Lexeme.symbol?, Symbol.additive?, Operator.lexeme,
      Operator.symbol, Operator.level]

theorem shifts_of_operandMove {limit : Int} {outer : List Level} {level : Level} {lexeme : Lexeme}
    {next : Place} (shifted : operandMove limit outer level lexeme = .shift next) :
    Shifts limit ⟨outer, level, .operand⟩ lexeme next := by
  unfold operandMove at shifted
  split at shifted
  · cases shifted
    exact .number _
  · cases shifted
    exact .reference _
  · split at shifted
    · cases shifted
    · next room =>
      cases shifted
      exact .enter (lt_toNat_iff.mpr room)
  · cases shifted

theorem shifts_of_operatorMove {limit : Int} {outer : List Level} {level : Level} {factor : Expr}
    {lexeme : Lexeme} {next : Place}
    (shifted : operatorMove outer level factor lexeme = .shift next) :
    Shifts limit ⟨outer, level, .operator factor⟩ lexeme next := by
  unfold operatorMove at shifted
  dsimp only at shifted
  split at shifted
  · next found =>
    cases shifted
    obtain ⟨rfl, binds⟩ := multiplicative_iff.mp found
    exact .multiply binds
  · split at shifted
    · next found =>
      cases shifted
      obtain ⟨rfl, binds⟩ := additive_iff.mp found
      exact .add binds
    · unfold closeMove at shifted
      split at shifted
      · cases shifted
      · split at shifted
        · next close =>
          cases shifted
          subst close
          exact .leave _
        · cases shifted

theorem operatorMove_multiply {outer : List Level} {level : Level} {factor : Expr} {op : Operator}
    (binds : op.level = .term) :
    operatorMove outer level factor op.lexeme =
      .shift ⟨outer, ⟨level.sum, some (Level.combine level.product factor, op)⟩, .operand⟩ := by
  unfold operatorMove
  rw [multiplicative_iff.mpr ⟨rfl, binds⟩]

theorem operatorMove_add {outer : List Level} {level : Level} {factor : Expr} {op : Operator}
    (binds : op.level = .expression) :
    operatorMove outer level factor op.lexeme =
      .shift ⟨outer, ⟨some (total level factor, op), none⟩, .operand⟩ := by
  have single : op.lexeme.symbol?.bind Symbol.multiplicative? = none := by
    cases op <;> first | rfl | cases binds
  unfold operatorMove
  rw [single, additive_iff.mpr ⟨rfl, binds⟩]
  rfl

theorem move_eq_shift_iff {limit : Int} {place next : Place} {lexeme : Lexeme} :
    place.move limit lexeme = .shift next ↔ Shifts limit place lexeme next := by
  constructor
  · intro shifted
    obtain ⟨outer, level, phase⟩ := place
    cases phase with
    | operand => exact shifts_of_operandMove shifted
    | operator factor => exact shifts_of_operatorMove shifted
  · intro shifts
    cases shifts with
    | number | reference | leave => rfl
    | enter room => exact if_neg (lt_toNat_iff.mp room)
    | multiply binds => exact operatorMove_multiply binds
    | add binds => exact operatorMove_add binds

/-- A reading ends behind a factor and outside all parentheses. -/
theorem eq_of_move_stop {limit : Int} {place : Place} {lexeme : Lexeme} {value : Expr}
    (stopped : place.move limit lexeme = .stop value) :
    ∃ level factor, place = ⟨[], level, .operator factor⟩ ∧ value = total level factor := by
  obtain ⟨outer, level, phase⟩ := place
  cases phase with
  | operand =>
    rw [move] at stopped
    unfold operandMove at stopped
    dsimp only at stopped
    split at stopped
    · cases stopped
    · cases stopped
    · split at stopped <;> cases stopped
    · cases stopped
  | operator factor =>
    rw [move] at stopped
    unfold operatorMove at stopped
    dsimp only at stopped
    split at stopped
    · cases stopped
    · split at stopped
      · cases stopped
      · unfold closeMove at stopped
        split at stopped
        · cases stopped
          exact ⟨level, factor, rfl, rfl⟩
        · split at stopped <;> cases stopped

end Place

/-! ### Steps are moves -/

namespace Configuration

/-- The configuration without its window. -/
def place (c : Configuration) : Place := ⟨c.outer, c.level, c.phase⟩

/-- A move carried out on a configuration. -/
def carry (c : Configuration) : Move Place Expr → Turn
  | .shift next => c.proceed next.outer next.level next.phase
  | .stop value => .stop (.done value c.window)
  | .refuse expected depthLimit =>
    .stop (.failed
      (.syntactic ⟨expected, c.window.current.kind, c.window.current.position, depthLimit⟩)
      (.ready c.window))

theorem symbol?_eq (c : Configuration) : c.symbol? = c.window.current.lexeme.symbol? := rfl

theorem operandStep_eq (limit : Int) (c : Configuration) :
    c.operandStep limit =
      c.carry (Place.operandMove limit c.outer c.level c.window.current.lexeme) := by
  unfold operandStep depth
  generalize c.window.current.lexeme = lexeme
  match lexeme with
  | .number _ | .identifier _ | .endOfInput => rfl
  | .symbol which =>
    cases which with
    | leftParen =>
      dsimp only [Place.operandMove]
      split <;> rfl
    | _ => rfl

theorem closeStep_eq (total : Expr) (c : Configuration) :
    c.closeStep total = c.carry (Place.closeMove c.outer total c.window.current.lexeme) := by
  unfold closeStep
  cases c.outer with
  | nil => rfl
  | cons level outer =>
    have same : c.window.current.kind = .symbol .rightParen ↔
        c.window.current.lexeme = .symbol .rightParen := by
      rw [Token.kind]
      cases c.window.current.lexeme <;> simp [Lexeme.kind]
    simp only [same, Place.closeMove]
    split <;> rfl

theorem operatorStep_eq (factor : Expr) (c : Configuration) :
    c.operatorStep .expression factor =
      c.carry (Place.operatorMove c.outer c.level factor c.window.current.lexeme) := by
  unfold operatorStep Place.operatorMove
  rw [if_neg (fun both => nomatch both.1), symbol?_eq]
  dsimp only
  cases c.window.current.lexeme.symbol?.bind Symbol.multiplicative? with
  | some op => rfl
  | none =>
    dsimp only
    unfold sumStep
    rw [if_neg (fun both => nomatch both.1), symbol?_eq]
    dsimp only
    cases c.window.current.lexeme.symbol?.bind Symbol.additive? with
    | some op => rfl
    | none => exact closeStep_eq ..

/-- **A step is the move of the place, carried out on the window.** -/
theorem step_eq (limit : Int) (c : Configuration) :
    c.step limit .expression = c.carry (c.place.move limit c.window.current.lexeme) := by
  unfold step place Place.move
  dsimp only
  cases c.phase with
  | operand => exact operandStep_eq ..
  | operator factor => exact operatorStep_eq ..

end Configuration
end Calculator
