/-
**Names carry no meaning.**

* `Renaming.course`: how far a reading has come, with the names replaced.
* `Renaming.move_course`: a renamed token does to the renamed course what the token does to the course.
* `Renaming.ReadRenamed`: two texts are parsed to a program and the renamed program, or to the same refusal
  of the tokens at one index, or they cannot be scanned for the same reason.
* `Renaming.meaningless`: **renaming commutes with parsing and with running.**

A reading asks of a token which sort it is and which symbol, and never which name, so here different names
need not even stay different.
-/

import Calculator.Proofs.Evaluation.Renaming
import Calculator.Proofs.Reading.Verdict

namespace Calculator

/-- The move with the state and the value replaced. -/
def Move.map {σ τ α β : Type} (state : σ → τ) (value : α → β) : Move σ α → Move τ β
  | .shift next => .shift (state next)
  | .stop result => .stop (value result)
  | .refuse expected depthLimit => .refuse expected depthLimit

namespace Renaming

variable (r : Renaming)

/-! ### Readings with new names -/

/-- A waiting operand with its names replaced. -/
def waiting (operand : Expr × Operator) : Expr × Operator := (r.expr operand.1, operand.2)

/-- A level with its names replaced. -/
def level (level : Level) : Level := ⟨level.sum.map r.waiting, level.product.map r.waiting⟩

/-- A phase with its names replaced. -/
def phase : Phase → Phase
  | .operand => .operand
  | .operator factor => .operator (r.expr factor)

/-- A place with its names replaced. -/
def place (place : Place) : Place := ⟨place.outer.map r.level, r.level place.level, r.phase place.phase⟩

/-- A course with its names replaced. -/
def course : Course → Course
  | .between done => .between (done.map r.statement)
  | .named done name => .named (done.map r.statement) (r.name name)
  | .inside done target place => .inside (done.map r.statement) (target.map r.name) (r.place place)

theorem combine_waiting (operand : Option (Expr × Operator)) (right : Expr) :
    Level.combine (operand.map r.waiting) (r.expr right) = r.expr (Level.combine operand right) := by
  cases operand <;> rfl

theorem ofTarget_map (target : Option String) (value : Expr) :
    Statement.ofTarget (target.map r.name) (r.expr value) = r.statement (Statement.ofTarget target value) := by
  cases target <;> rfl

theorem symbol?_lexeme (lexeme : Lexeme) : (r.lexeme lexeme).symbol? = lexeme.symbol? := by
  cases lexeme <;> rfl

theorem lexeme_eq_symbol_iff {lexeme : Lexeme} {which : Symbol} :
    r.lexeme lexeme = .symbol which ↔ lexeme = .symbol which := by
  cases lexeme <;> simp [Renaming.lexeme]

/-! ### Moves -/

theorem operandMove_map (limit : Int) (outer : List Level) (here : Level) (lexeme : Lexeme) :
    Place.operandMove limit (outer.map r.level) (r.level here) (r.lexeme lexeme) =
      (Place.operandMove limit outer here lexeme).map r.place r.expr := by
  match lexeme with
  | .number _ | .identifier _ | .endOfInput => rfl
  | .symbol which =>
    cases which with
    | leftParen =>
      show (if limit ≤ (outer.map r.level).length then _ else _) = Move.map _ _ (if _ then _ else _)
      rw [List.length_map]
      split <;> rfl
    | _ => rfl

theorem closeMove_map (outer : List Level) (total : Expr) (lexeme : Lexeme) :
    Place.closeMove (outer.map r.level) (r.expr total) (r.lexeme lexeme) =
      (Place.closeMove outer total lexeme).map r.place r.expr := by
  cases outer with
  | nil => rfl
  | cons around outer =>
    rw [List.map_cons, Place.closeMove, Place.closeMove]
    simp only [r.lexeme_eq_symbol_iff]
    split <;> rfl

theorem operatorMove_map (outer : List Level) (here : Level) (factor : Expr) (lexeme : Lexeme) :
    Place.operatorMove (outer.map r.level) (r.level here) (r.expr factor) (r.lexeme lexeme) =
      (Place.operatorMove outer here factor lexeme).map r.place r.expr := by
  unfold Place.operatorMove
  dsimp only [Renaming.level]
  rw [r.symbol?_lexeme, combine_waiting, combine_waiting]
  cases lexeme.symbol?.bind Symbol.multiplicative? with
  | some op => rfl
  | none =>
    cases lexeme.symbol?.bind Symbol.additive? with
    | some op => rfl
    | none => exact r.closeMove_map outer _ lexeme

theorem move_place (limit : Int) (place : Place) (lexeme : Lexeme) :
    (r.place place).move limit (r.lexeme lexeme) = (place.move limit lexeme).map r.place r.expr := by
  obtain ⟨outer, here, phase⟩ := place
  cases phase with
  | operand => exact r.operandMove_map limit outer here lexeme
  | operator factor => exact r.operatorMove_map outer here factor lexeme

theorem endMove_map (done : List Statement) (lexeme : Lexeme) :
    Course.endMove (done.map r.statement) (r.lexeme lexeme) =
      (Course.endMove done lexeme).map r.course r.program := by
  have stopped : (Move.stop ⟨(done.map r.statement).reverse⟩ : Move Course Program) =
      .stop (r.program ⟨done.reverse⟩) := by rw [program, List.map_reverse]
  match lexeme with
  | .number _ | .identifier _ => rfl
  | .endOfInput => exact stopped
  | .symbol which => cases which <;> rfl

theorem insideMove_map (limit : Int) (done : List Statement) (target : Option String) (place : Place)
    (lexeme : Lexeme) :
    Course.insideMove limit (done.map r.statement) (target.map r.name) (r.place place) (r.lexeme lexeme) =
      (Course.insideMove limit done target place lexeme).map r.course r.program := by
  unfold Course.insideMove
  rw [move_place]
  cases place.move limit lexeme with
  | shift | refuse => rfl
  | stop value =>
    have ended := r.endMove_map (Statement.ofTarget target value :: done) lexeme
    rw [List.map_cons, ← ofTarget_map] at ended
    exact ended

/-- **A renamed token does to the renamed course what the token does to the course.** -/
theorem move_course (limit : Int) (course : Course) (lexeme : Lexeme) :
    (r.course course).move limit (r.lexeme lexeme) =
      (course.move limit lexeme).map r.course r.program := by
  cases course with
  | inside done target place => exact r.insideMove_map limit done target place lexeme
  | named done name =>
    rw [Renaming.course, Course.move, Course.move]
    simp only [r.lexeme_eq_symbol_iff]
    split
    · rfl
    · exact r.insideMove_map limit done none (.named name) lexeme
  | between done =>
    cases lexeme with
    | identifier name => rfl
    | number value => exact r.insideMove_map limit done none .start (.number value)
    | symbol which => exact r.insideMove_map limit done none .start (.symbol which)
    | endOfInput => exact r.endMove_map done .endOfInput

/-! ### Parsing -/

/-- The first result is a program and the second the renamed one, or both are the same refusal of the
tokens at one index, each reported where the token stands, or both are the same failure to scan. -/
inductive ReadRenamed (tokens tokens' : List Token) :
    Except ReadError Program → Except ReadError Program → Prop
  | accepted (program : Program) : ReadRenamed tokens tokens' (.ok program) (.ok (r.program program))
  | refused {index : Nat} {token token' : Token} (here : tokens[index]? = some token)
      (here' : tokens'[index]? = some token') (expected : Expectation) (actual : Kind)
      (depthLimit : Option Int) :
      ReadRenamed tokens tokens'
        (.error (.syntactic ⟨expected, actual, token.position, depthLimit⟩))
        (.error (.syntactic ⟨expected, actual, token'.position, depthLimit⟩))
  | unscanned {e e' : ScanError} (same : SameFault e e') :
      ReadRenamed tokens tokens' (.error (.lexical e)) (.error (.lexical e'))

variable {r}

/-- Tokens in front move the index, and nothing else. -/
theorem ReadRenamed.cons {tokens tokens' : List Token} {result result' : Except ReadError Program}
    (renamed : r.ReadRenamed tokens tokens' result result') (token token' : Token) :
    r.ReadRenamed (token :: tokens) (token' :: tokens') result result' := by
  cases renamed with
  | accepted program => exact .accepted program
  | @refused index _ _ here here' expected actual depthLimit =>
    have behind : (token :: tokens)[index + 1]? = some _ := here
    have behind' : (token' :: tokens')[index + 1]? = some _ := here'
    exact .refused behind behind' expected actual depthLimit
  | unscanned same => exact .unscanned same

/-- **Renamed tokens come to the renamed program, or to the same refusal.** -/
theorem verdict_course {limit : Int} {failure failure' : Option ScanError}
    (faults : Option.Rel SameFault failure failure') (course : Course) {tokens tokens' : List Token}
    (same : tokens'.map Token.lexeme = (tokens.map Token.lexeme).map r.lexeme) :
    Option.Rel (r.ReadRenamed tokens tokens') (course.verdict limit failure tokens)
      ((r.course course).verdict limit failure' tokens') := by
  induction tokens generalizing course tokens' with
  | nil =>
    obtain rfl := List.map_eq_nil_iff.mp same
    cases faults with
    | none => exact .none
    | some fault => exact .some (.unscanned fault)
  | cons token rest ih =>
    obtain ⟨token', rest', rfl, lexeme, others⟩ := List.map_eq_cons_iff.mp same
    rw [Course.verdict, Course.verdict, lexeme, r.move_course]
    cases course.move limit token.lexeme with
    | shift next =>
      show Option.Rel _ (next.verdict limit failure rest) ((r.course next).verdict limit failure' rest')
      have behind := ih next others
      generalize next.verdict limit failure rest = result at *
      generalize (r.course next).verdict limit failure' rest' = result' at *
      cases behind with
      | none => exact .none
      | some renamed => exact .some (renamed.cons token token')
    | stop program => exact .some (.accepted program)
    | refuse expected depthLimit =>
      have here : (token :: rest)[0]? = some token := rfl
      have here' : (token' :: rest')[0]? = some token' := rfl
      have kind : token'.kind = token.kind := (congrArg Lexeme.kind lexeme).trans (r.kind_lexeme _)
      dsimp only [Move.map]
      rw [kind]
      exact .some (.refused here here' expected token.kind depthLimit)

variable (r)

theorem parse_renamed (limit : Int) (source : String) :
    r.ReadRenamed (Scanner.ofText source).run.tokens (Scanner.ofText (r.text source)).run.tokens
      (Program.parse limit source) (Program.parse limit (r.text source)) := by
  obtain ⟨tokens, faults⟩ := r.run_text source
  have start : r.course (.between []) = .between [] := rfl
  have renamed := @verdict_course r limit _ _ faults (.between []) _ _ tokens
  rw [start, ← Program.parse_eq_verdict, ← Program.parse_eq_verdict] at renamed
  cases renamed with
  | some renamed => exact renamed

/-- **Names carry no meaning.** A renamed program, run on renamed bindings, yields the same value with the
same count of visits and leaves the renamed bindings, in the same order, or it fails for the same reason
with the name replaced. A text with its names replaced is scanned to the renamed tokens, and it is parsed
to the renamed program, or it is refused at the same token, which was expected to be the same and is of the
same kind. -/
theorem meaningless :
    (∀ (rules : Rules) (program : Program) (start last : Bindings) (visits count : Nat)
      (result : Except RuntimeError Float),
      program.run rules ⟨start, visits⟩ = (result, ⟨last, count⟩) →
        (r.program program).run rules ⟨r.bindings start, visits⟩ =
          (result.mapError r.error, ⟨r.bindings last, count⟩)) ∧
    ∀ (limit : Int) (source : String),
      let tokens := (Scanner.ofText source).run.tokens
      let tokens' := (Scanner.ofText (r.text source)).run.tokens
      tokens'.map Token.lexeme = (tokens.map Token.lexeme).map r.lexeme ∧
        r.ReadRenamed tokens tokens' (Program.parse limit source)
          (Program.parse limit (r.text source)) := by
  refine ⟨fun rules program start last visits count result ran => ?_, fun limit source => ?_⟩
  · have renamed := r.run_program rules program ⟨start, visits⟩
    rw [ran] at renamed
    exact renamed
  · exact ⟨(r.run_text source).1, r.parse_renamed limit source⟩

/-- With two names exchanged, a run fails for the other name, and a text is parsed to the other program. -/
theorem meaningless_swap :
    let r := swap ⟨"x", by decide⟩ ⟨"total", by decide⟩
    (Program.mk [.assignment "total" (.number 1), .expression (.reference "x")]).run ⟨.ieee, none⟩
        ⟨.empty, 0⟩ = (.error (.undefinedVariable "x"), ⟨Bindings.empty.assign "total" 1, 3⟩) ∧
      r.text "xs = x/total" = "xs = total/x" ∧
      Program.parse 1 "xs = total/x" =
        .ok ⟨[.assignment "xs" (.binary .divide (.reference "total") (.reference "x"))]⟩ := by
  intro r
  obtain ⟨runs, parses⟩ := r.meaningless
  have text : r.text "xs = x/total" = "xs = total/x" := by decide +kernel
  refine ⟨?_, text, ?_⟩
  · let program : Program := ⟨[.assignment "x" (.number 1), .expression (.reference "total")]⟩
    have ran : program.run ⟨.ieee, none⟩ ⟨.empty, 0⟩ =
        (.error (.undefinedVariable "total"), ⟨Bindings.empty.assign "x" 1, 3⟩) := by
      rw [Program.run_eq (List.cons_ne_nil _ _)]
      simp only [runStatements_cons]
      rfl
    have renamed := runs _ program _ _ _ _ _ ran
    have start : r.bindings .empty = .empty := by decide +kernel
    have last : r.bindings (Bindings.empty.assign "x" 1) = Bindings.empty.assign "total" 1 := by
      decide +kernel
    have same : r.program program = ⟨[.assignment "total" (.number 1), .expression (.reference "x")]⟩ := by
      decide +kernel
    have error : r.error (.undefinedVariable "total") = .undefinedVariable "x" := by decide +kernel
    rw [start, last, same, Except.mapError, error] at renamed
    exact renamed
  · have scanned : scanText "xs = x/total" = .ok [⟨.identifier "xs", 0⟩, ⟨.symbol .assign, 3⟩,
        ⟨.identifier "x", 5⟩, ⟨.symbol .slash, 6⟩, ⟨.identifier "total", 7⟩, ⟨.endOfInput, 12⟩] :=
      scanText_eq_ok_iff.mpr ⟨by decide +kernel, by decide +kernel⟩
    have parsed : Program.parse 1 "xs = x/total" =
        .ok ⟨[.assignment "xs" (.binary .divide (.reference "x") (.reference "total"))]⟩ :=
      Program.parse_of_verdict scanned rfl
    obtain ⟨-, renamed⟩ := parses 1 "xs = x/total"
    rw [text, parsed] at renamed
    generalize Program.parse 1 "xs = total/x" = result at renamed
    cases renamed with
    | accepted =>
      have same : r.program ⟨[.assignment "xs" (.binary .divide (.reference "x") (.reference "total"))]⟩ =
          ⟨[.assignment "xs" (.binary .divide (.reference "total") (.reference "x"))]⟩ := by decide +kernel
      exact congrArg Except.ok same

end Renaming

end Calculator
