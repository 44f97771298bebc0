/-
**Requests to a reader, with a counter of the open parentheses.**

* `Routine`: a request, or the loop that reads the rest of a program; `Routine.reading`: what it comes to.
* `Operation`: a routine that is carried out on a window, call by call, with its events.
* `Operation.restored`, `Operation.bounded`: the counter, as for a `Descent`.
* `Operation.reading_eq`, `exists_operation`: every routine is carried out, and comes to its reading.

An operation sets out each call that a routine makes and what it does when the call fails, so that whatever
holds for one token let go or looked at holds for whole requests by induction on it.
-/

import Calculator.Proofs.Reading.Levels

namespace Calculator

open Reader (Answer Request)

/-! ### Routines -/

/-- What is carried out on a window. -/
inductive Routine where
  | request (request : Request)
  /-- The statements from here on are read, behind those in `done`, the latest of which comes first. -/
  | statements (done : List Statement)

/-- What a routine comes to. -/
def Routine.reading (limit : Int) (w : Window) : Routine → Reading Answer
  | .request .current => .done (.token w.current) w
  | .request .lookAhead =>
    match w.lookAhead with
    | (.ok token, w) => .done (.token token) w
    | (.error e, w) => .failed (.lexical e) (.ready w)
  | .request .shift => w.shift.map .token
  | .request (.expect kind) => (w.expect kind).map .token
  | .request (.read goal) => (w.read limit goal).map .expression
  | .request .statement => (w.statement limit).map .statement
  | .request .assignment => (w.assignment limit).map .statement
  | .request .program => (w.program limit).map .program
  | .statements done => (w.statements limit done).map .program

theorem Reading.map_map {α β γ : Type} (g : β → γ) (f : α → β) (reading : Reading α) :
    (reading.map f).map g = reading.map (g ∘ f) := by
  cases reading <;> rfl

theorem Reading.eq_done_of_map {α β : Type} {f : α → β} (injective : ∀ x y, f x = f y → x = y)
    {reading : Reading α} {value : α} {w : Window} (read : .done (f value) w = reading.map f) :
    reading = .done value w := by
  cases reading with
  | done value₁ w₁ =>
    obtain ⟨same, rfl⟩ := Reading.done.inj read
    rw [injective _ _ same]
  | failed error reader => cases read

theorem Reading.eq_failed_of_map {α β : Type} {f : α → β} {reading : Reading α} {error : ReadError}
    {reader : Reader} (read : .failed error reader = reading.map f) : reading = .failed error reader := by
  cases reading with
  | done value w => cases read
  | failed error reader => cases read; rfl

/-- **A request to a reader with a current token is the routine.** -/
theorem Reader.perform_ready (limit : Int) (request : Request) (w : Window) :
    perform limit request (.ready w) = answer id ((Routine.request request).reading limit w) := by
  have answer_map {α : Type} (wrap : α → Answer) (reading : Reading α) :
      answer wrap reading = answer id (reading.map wrap) := by
    cases reading <;> rfl
  cases request with
  | current => rfl
  | lookAhead =>
    rw [perform, Routine.reading]
    cases w.lookAhead with
    | mk result w₁ => cases result <;> rfl
  | shift | expect | read | statement | assignment | program => exact answer_map ..

/-! ### Operations -/

/-- A routine that is carried out on a window with the counter at the first number. It comes to the reading
with the counter at the second, and the list has the events in between. -/
inductive Operation (limit : Int) : Routine → Int → Window → List Event → Reading Answer → Int → Prop
  | current {depth : Int} {w : Window} :
      Operation limit (.request .current) depth w [] (.done (.token w.current) w) depth
  | lookAhead {depth : Int} {w w₁ : Window} {token : Token} (looked : w.lookAhead = (.ok token, w₁)) :
      Operation limit (.request .lookAhead) depth w w.pulls (.done (.token token) w₁) depth
  | unseen {depth : Int} {w w₁ : Window} {e : ScanError} (looked : w.lookAhead = (.error e, w₁)) :
      Operation limit (.request .lookAhead) depth w w.pulls (.failed (.lexical e) (.ready w₁)) depth
  | shift {depth : Int} {w : Window} :
      Operation limit (.request .shift) depth w w.pulls (w.shift.map .token) depth
  | unfit {depth : Int} {w : Window} {kind : Kind} (other : w.current.kind ≠ kind) :
      Operation limit (.request (.expect kind)) depth w []
        (.failed (w.current.refusal (.one kind)) (.ready w)) depth
  | expect {depth : Int} {w : Window} {kind : Kind} (here : w.current.kind = kind) :
      Operation limit (.request (.expect kind)) depth w w.pulls (w.shift.map .token) depth
  | read {depth depth₁ : Int} {w : Window} {goal : Goal} {events : List Event} {reading : Reading Expr}
      (descent : Descent limit (.start goal) depth w events reading depth₁) :
      Operation limit (.request (.read goal)) depth w events (reading.map .expression) depth₁
  | nameFailed {depth depth₁ : Int} {w : Window} {events : List Event} {error : ReadError}
      {reader : Reader} (name : Operation limit (.request (.expect .identifier)) depth w events
        (.failed error reader) depth₁) :
      Operation limit (.request .assignment) depth w events (.failed error reader) depth₁
  | equalsFailed {depth depth₁ depth₂ : Int} {w w₁ : Window} {events events₁ : List Event}
      {token : Token} {error : ReadError} {reader : Reader}
      (name : Operation limit (.request (.expect .identifier)) depth w events
        (.done (.token token) w₁) depth₁)
      (equals : Operation limit (.request (.expect (.symbol .assign))) depth₁ w₁ events₁
        (.failed error reader) depth₂) :
      Operation limit (.request .assignment) depth w (events ++ events₁) (.failed error reader) depth₂
  | assignment {depth depth₁ depth₂ depth₃ : Int} {w w₁ w₂ : Window}
      {events events₁ events₂ : List Event} {token equalsToken : Token} {target : String}
      {reading : Reading Expr}
      (name : Operation limit (.request (.expect .identifier)) depth w events
        (.done (.token token) w₁) depth₁)
      (text : token.lexeme = .identifier target)
      (equals : Operation limit (.request (.expect (.symbol .assign))) depth₁ w₁ events₁
        (.done (.token equalsToken) w₂) depth₂)
      (value : Descent limit (.start .expression) depth₂ w₂ events₂ reading depth₃) :
      Operation limit (.request .assignment) depth w (events ++ (events₁ ++ events₂))
        (reading.map fun value => .statement (.assignment target value)) depth₃
  | nameUnseen {depth depth₁ : Int} {w : Window} {events : List Event} {error : ReadError}
      {reader : Reader} (named : w.current.kind = .identifier)
      (look : Operation limit (.request .lookAhead) depth w events (.failed error reader) depth₁) :
      Operation limit (.request .statement) depth w events (.failed error reader) depth₁
  | assigned {depth depth₁ depth₂ : Int} {w w₁ : Window} {events events₁ : List Event}
      {second : Token} {reading : Reading Answer} (named : w.current.kind = .identifier)
      (look : Operation limit (.request .lookAhead) depth w events (.done (.token second) w₁) depth₁)
      (equals : second.kind = .symbol .assign)
      (rest : Operation limit (.request .assignment) depth₁ w₁ events₁ reading depth₂) :
      Operation limit (.request .statement) depth w (events ++ events₁) reading depth₂
  | named {depth depth₁ depth₂ : Int} {w w₁ : Window} {events events₁ : List Event}
      {second : Token} {reading : Reading Expr} (named : w.current.kind = .identifier)
      (look : Operation limit (.request .lookAhead) depth w events (.done (.token second) w₁) depth₁)
      (other : second.kind ≠ .symbol .assign)
      (value : Descent limit (.start .expression) depth₁ w₁ events₁ reading depth₂) :
      Operation limit (.request .statement) depth w (events ++ events₁)
        (reading.map (.statement ∘ .expression)) depth₂
  | unnamed {depth depth₁ : Int} {w : Window} {events : List Event} {reading : Reading Expr}
      (noName : w.current.kind ≠ .identifier)
      (value : Descent limit (.start .expression) depth w events reading depth₁) :
      Operation limit (.request .statement) depth w events
        (reading.map (.statement ∘ .expression)) depth₁
  | empty {depth : Int} {w : Window} (last : w.current.kind = .endOfInput) :
      Operation limit (.request .program) depth w [] (.done (.program ⟨[]⟩) w) depth
  | program {depth depth₁ : Int} {w : Window} {events : List Event} {reading : Reading Answer}
      (more : w.current.kind ≠ .endOfInput)
      (statements : Operation limit (.statements []) depth w events reading depth₁) :
      Operation limit (.request .program) depth w events reading depth₁
  | statementFailed {depth depth₁ : Int} {w : Window} {done : List Statement} {events : List Event}
      {error : ReadError} {reader : Reader}
      (first : Operation limit (.request .statement) depth w events (.failed error reader) depth₁) :
      Operation limit (.statements done) depth w events (.failed error reader) depth₁
  | stuck {depth depth₁ : Int} {w w₁ : Window} {done : List Statement} {events : List Event}
      {statement : Statement} {error : ReadError} {reader : Reader}
      (first : Operation limit (.request .statement) depth w events
        (.done (.statement statement) w₁) depth₁)
      (separated : w₁.current.kind = .symbol .semicolon) (gone : w₁.shift = .failed error reader) :
      Operation limit (.statements done) depth w (events ++ w₁.pulls) (.failed error reader) depth₁
  | trailing {depth depth₁ : Int} {w w₁ w₂ : Window} {done : List Statement} {events : List Event}
      {statement : Statement} {token : Token}
      (first : Operation limit (.request .statement) depth w events
        (.done (.statement statement) w₁) depth₁)
      (separated : w₁.current.kind = .symbol .semicolon) (gone : w₁.shift = .done token w₂)
      (last : w₂.current.kind = .endOfInput) :
      Operation limit (.statements done) depth w (events ++ w₁.pulls)
        (.done (.program ⟨(statement :: done).reverse⟩) w₂) depth₁
  | further {depth depth₁ depth₂ : Int} {w w₁ w₂ : Window} {done : List Statement}
      {events events₁ : List Event} {statement : Statement} {token : Token} {reading : Reading Answer}
      (first : Operation limit (.request .statement) depth w events
        (.done (.statement statement) w₁) depth₁)
      (separated : w₁.current.kind = .symbol .semicolon) (gone : w₁.shift = .done token w₂)
      (more : w₂.current.kind ≠ .endOfInput)
      (rest : Operation limit (.statements (statement :: done)) depth₁ w₂ events₁ reading depth₂) :
      Operation limit (.statements done) depth w (events ++ (w₁.pulls ++ events₁)) reading depth₂
  | ended {depth depth₁ : Int} {w w₁ : Window} {done : List Statement} {events : List Event}
      {statement : Statement}
      (first : Operation limit (.request .statement) depth w events
        (.done (.statement statement) w₁) depth₁)
      (last : w₁.current.kind = .endOfInput) :
      Operation limit (.statements done) depth w events
        (.done (.program ⟨(statement :: done).reverse⟩) w₁) depth₁
  | unended {depth depth₁ : Int} {w w₁ : Window} {done : List Statement} {events : List Event}
      {statement : Statement}
      (first : Operation limit (.request .statement) depth w events
        (.done (.statement statement) w₁) depth₁)
      (unseparated : w₁.current.kind ≠ .symbol .semicolon) (more : w₁.current.kind ≠ .endOfInput) :
      Operation limit (.statements done) depth w events
        (.failed (w₁.current.refusal .statementEnd) (.ready w₁)) depth₁

namespace Operation

variable {limit depth depth' : Int} {routine : Routine} {w : Window} {events : List Event}
  {reading : Reading Answer}

/-! ### The counter -/

/-- **However a routine ends, it leaves the counter as it found it.** -/
theorem restored (operation : Operation limit routine depth w events reading depth') :
    depth' = depth := by
  induction operation with
  | current | lookAhead | unseen | shift | unfit | expect | empty => rfl
  | read descent => exact descent.restored
  | nameFailed name ih => exact ih
  | equalsFailed name equals ihName ihEquals => exact ihEquals.trans ihName
  | assignment name text equals value ihName ihEquals =>
    exact value.restored.trans (ihEquals.trans ihName)
  | nameUnseen named look ih => exact ih
  | assigned named look equals rest ihLook ihRest => exact ihRest.trans ihLook
  | named named look other value ih => exact value.restored.trans ih
  | unnamed noName value => exact value.restored
  | program more statements ih => exact ih
  | statementFailed first ih | stuck first _ _ ih | trailing first _ _ _ ih | ended first _ ih
  | unended first _ _ ih => exact ih
  | further first separated gone more rest ihFirst ihRest => exact ihRest.trans ihFirst

/-- **The counter stays within the limit.** -/
theorem bounded (operation : Operation limit routine depth w events reading depth')
    (start : depth ≤ max limit 0) : Event.Within limit events := by
  induction operation with
  | current | unfit | empty => exact .nil
  | lookAhead | unseen | shift | expect => exact .pulls _
  | read descent => exact descent.bounded start
  | nameFailed name ih => exact ih start
  | equalsFailed name equals ihName ihEquals =>
    exact .append (ihName start) (ihEquals (name.restored ▸ start))
  | assignment name text equals value ihName ihEquals =>
    have second : _ ≤ max limit 0 := name.restored ▸ start
    have third : _ ≤ max limit 0 := equals.restored ▸ second
    exact .append (ihName start) (.append (ihEquals second) (value.bounded third))
  | nameUnseen named look ih => exact ih start
  | assigned named look equals rest ihLook ihRest =>
    exact .append (ihLook start) (ihRest (look.restored ▸ start))
  | named named look other value ih =>
    exact .append (ih start) (value.bounded (look.restored ▸ start))
  | unnamed noName value => exact value.bounded start
  | program more statements ih => exact ih start
  | statementFailed first ih | ended first _ ih | unended first _ _ ih => exact ih start
  | stuck first separated gone ih | trailing first separated gone last ih =>
    exact .append (ih start) (.pulls _)
  | further first separated gone more rest ihFirst ihRest =>
    exact .append (ihFirst start) (.append (.pulls _) (ihRest (first.restored ▸ start)))

end Operation

/-! ### Agreement -/

namespace Window

variable {limit : Int} {w w₁ : Window} {token : Token}

/-- A name that the grammar asks for has a text, and is the token that is let go. -/
theorem exists_name (found : w.expect .identifier = .done token w₁) :
    ∃ target, token.lexeme = .identifier target ∧ w.current = token ∧ w.shift = .done token w₁ := by
  unfold expect at found
  split at found
  · next isName =>
    obtain ⟨rfl, -⟩ := exists_of_shift found
    rw [Token.kind] at isName
    cases here : w.current.lexeme with
    | identifier target => exact ⟨target, rfl, rfl, found⟩
    | number | symbol | endOfInput => rw [here] at isName; cases isName
  · cases found

/-- Behind its name an assignment goes on with an equals sign. -/
theorem assignment_of_name {target : String} (found : w.expect .identifier = .done token w₁)
    (text : token.lexeme = .identifier target) :
    w.assignment limit =
      match w₁.expect (.symbol .assign) with
      | .failed error reader => .failed error reader
      | .done _ w₂ => (w₂.read limit .expression).map (.assignment target) := by
  obtain ⟨_, _, rfl, gone⟩ := exists_name found
  unfold assignment
  rw [text]
  cases equals : w₁.expect (.symbol .assign) <;> simp only [gone, equals]

theorem assignment_of_failed {error : ReadError} {reader : Reader}
    (failed : w.expect .identifier = .failed error reader) :
    w.assignment limit = .failed error reader := by
  unfold expect at failed
  unfold assignment
  split <;> split at failed
  · rw [failed]
  · next here notName => exact absurd (congrArg Lexeme.kind here) notName
  · next noName isName =>
    rw [Token.kind] at isName
    cases here : w.current.lexeme with
    | identifier name => exact absurd here (noName name)
    | number | symbol | endOfInput => rw [here] at isName; cases isName
  · cases failed
    rfl

/-- The loop, one statement at a time. -/
theorem statements_eq (limit : Int) (done : List Statement) (w : Window) :
    w.statements limit done =
      match w.statement limit with
      | .failed error reader => .failed error reader
      | .done statement w₁ =>
        if w₁.current.kind = .symbol .semicolon then
          match w₁.shift with
          | .failed error reader => .failed error reader
          | .done _ w₂ =>
            if w₂.current.kind = .endOfInput then .done ⟨(statement :: done).reverse⟩ w₂
            else w₂.statements limit (statement :: done)
        else if w₁.current.kind = .endOfInput then .done ⟨(statement :: done).reverse⟩ w₁
        else .failed (w₁.current.refusal .statementEnd) (.ready w₁) := by
  rw [statements]
  split
  · next read => simp only [read]
  · next statement w₁ read =>
    simp only [read]
    split
    · split <;> next gone => simp only [gone]
    · rfl

end Window

namespace Routine

variable {limit : Int} {w w₁ : Window}

theorem expect_of_reading {kind : Kind} {token : Token}
    (read : .done (.token token) w₁ = (request (.expect kind)).reading limit w) :
    w.expect kind = .done token w₁ :=
  Reading.eq_done_of_map (fun _ _ => Answer.token.inj) read

theorem statement_of_reading {statement : Statement}
    (read : .done (.statement statement) w₁ = (request .statement).reading limit w) :
    w.statement limit = .done statement w₁ :=
  Reading.eq_done_of_map (fun _ _ => Answer.statement.inj) read

theorem lookAhead_of_reading {token : Token}
    (read : .done (.token token) w₁ = (request .lookAhead).reading limit w) :
    w.lookAhead = (.ok token, w₁) := by
  rw [reading] at read
  split at read
  · next looked => cases read; exact looked
  · cases read

theorem lookAhead_of_reading_failed {error : ReadError} {reader : Reader}
    (read : .failed error reader = (request .lookAhead).reading limit w) :
    ∃ e w₁, w.lookAhead = (.error e, w₁) ∧ error = .lexical e ∧ reader = .ready w₁ := by
  rw [reading] at read
  split at read
  · cases read
  · next e w₁ looked => cases read; exact ⟨e, w₁, looked, rfl, rfl⟩

end Routine

open Routine in
/-- **An operation comes to the reading of its routine.** -/
theorem Operation.reading_eq {limit depth depth' : Int} {routine : Routine} {w : Window}
    {events : List Event} {reading : Reading Answer}
    (operation : Operation limit routine depth w events reading depth') (start : depth = 0) :
    reading = routine.reading limit w := by
  -- Each later call finds the counter restored by the one before it, so that it starts at zero again.
  induction operation with
  | current | shift => rfl
  | lookAhead looked | unseen looked => rw [Routine.reading, looked]
  | unfit other => rw [Routine.reading, Window.expect, if_neg other]; rfl
  | expect here => rw [Routine.reading, Window.expect, if_pos here]
  | read descent => rw [descent.read_eq start]; rfl
  | nameFailed name ih =>
    rw [Routine.reading, Window.assignment_of_failed (Reading.eq_failed_of_map (ih start))]
    rfl
  | equalsFailed name equals ihName ihEquals =>
    have found := expect_of_reading (ihName start)
    obtain ⟨target, text, -⟩ := Window.exists_name found
    have failed := Reading.eq_failed_of_map (ihEquals (name.restored.trans start))
    rw [Routine.reading, Window.assignment_of_name found text, failed]
    rfl
  | assignment name text equals value ihName ihEquals =>
    have second := name.restored.trans start
    have found := expect_of_reading (ihName start)
    have equalsFound := expect_of_reading (ihEquals second)
    rw [Routine.reading, Window.assignment_of_name found text, equalsFound,
      value.read_eq (equals.restored.trans second)]
    exact (Reading.map_map ..).symm
  | nameUnseen named look ih =>
    obtain ⟨e, w₁, looked, rfl, rfl⟩ := lookAhead_of_reading_failed (ih start)
    rw [Routine.reading, Window.statement, if_pos named, looked]
    rfl
  | assigned named look equals rest ihLook ihRest =>
    have looked := lookAhead_of_reading (ihLook start)
    rw [ihRest (look.restored.trans start), Routine.reading, Routine.reading, Window.statement,
      if_pos named, looked]
    dsimp only
    rw [if_pos equals]
  | named named look other value ih =>
    have looked := lookAhead_of_reading (ih start)
    rw [Routine.reading, Window.statement, if_pos named, looked]
    dsimp only
    rw [if_neg other, value.read_eq (look.restored.trans start), Reading.map_map]
  | unnamed noName value =>
    rw [Routine.reading, Window.statement, if_neg noName, value.read_eq start, Reading.map_map]
  | empty last => rw [Routine.reading, Window.program, if_pos last]; rfl
  | program more statements ih => rw [ih start, Routine.reading, Routine.reading, Window.program, if_neg more]
  | statementFailed first ih =>
    rw [Routine.reading, Window.statements_eq, Reading.eq_failed_of_map (ih start)]
    rfl
  | stuck first separated gone ih =>
    rw [Routine.reading, Window.statements_eq, statement_of_reading (ih start)]
    dsimp only
    rw [if_pos separated, gone]
    rfl
  | trailing first separated gone last ih =>
    rw [Routine.reading, Window.statements_eq, statement_of_reading (ih start)]
    dsimp only
    rw [if_pos separated, gone]
    dsimp only
    rw [if_pos last]
    rfl
  | @further _ _ _ w _ _ done _ _ _ _ _ first separated gone more rest ihFirst ihRest =>
    rw [ihRest (first.restored.trans start), Routine.reading, Routine.reading,
      Window.statements_eq limit done w, statement_of_reading (ihFirst start)]
    dsimp only
    rw [if_pos separated, gone]
    dsimp only
    rw [if_neg more]
  | ended first last ih =>
    have unseparated : _ ≠ Kind.symbol .semicolon :=
      fun separated => Kind.noConfusion (separated.symm.trans last)
    rw [Routine.reading, Window.statements_eq, statement_of_reading (ih start)]
    dsimp only
    rw [if_neg unseparated, if_pos last]
    rfl
  | unended first unseparated more ih =>
    rw [Routine.reading, Window.statements_eq, statement_of_reading (ih start)]
    dsimp only
    rw [if_neg unseparated, if_neg more]
    rfl

/-! ### Existence -/

/-- The routine is carried out on the window, and comes to its reading. -/
def Routine.Works (limit : Int) (w : Window) (routine : Routine) : Prop :=
  ∃ events, Operation limit routine 0 w events (routine.reading limit w) 0

namespace Routine.Works

variable {limit : Int} {w : Window}

theorem of_operation {routine : Routine} {depth' : Int} {events : List Event} {reading : Reading Answer}
    (operation : Operation limit routine 0 w events reading depth') : routine.Works limit w := by
  obtain rfl := operation.restored
  obtain rfl := operation.reading_eq rfl
  exact ⟨events, operation⟩

theorem lookAhead (limit : Int) (w : Window) : (request .lookAhead).Works limit w := by
  cases looked : w.lookAhead with
  | mk result w₁ =>
    cases result with
    | ok token => exact of_operation (.lookAhead looked)
    | error e => exact of_operation (.unseen looked)

theorem expect (limit : Int) (kind : Kind) (w : Window) : (request (.expect kind)).Works limit w := by
  by_cases here : w.current.kind = kind
  · exact of_operation (.expect here)
  · exact of_operation (.unfit here)

theorem assignment (limit : Int) (w : Window) : (request .assignment).Works limit w := by
  obtain ⟨events, name⟩ := expect limit .identifier w
  rw [reading] at name
  cases found : w.expect .identifier with
  | failed error reader =>
    rw [found] at name
    exact of_operation (.nameFailed name)
  | done token w₁ =>
    rw [found] at name
    obtain ⟨target, text, -⟩ := Window.exists_name found
    obtain ⟨events₁, equals⟩ := expect limit (.symbol .assign) w₁
    rw [reading] at equals
    cases assigned : w₁.expect (.symbol .assign) with
    | failed error reader =>
      rw [assigned] at equals
      exact of_operation (.equalsFailed name equals)
    | done equalsToken w₂ =>
      rw [assigned] at equals
      obtain ⟨events₂, value, depth', descent⟩ := exists_descent limit (.start .expression) 0 w₂
      exact of_operation (.assignment name text equals descent)

theorem statement (limit : Int) (w : Window) : (request .statement).Works limit w := by
  by_cases named : w.current.kind = .identifier
  · obtain ⟨events, look⟩ := lookAhead limit w
    rw [reading] at look
    cases looked : w.lookAhead with
    | mk result w₁ =>
      rw [looked] at look
      cases result with
      | error e => exact of_operation (.nameUnseen named look)
      | ok second =>
        by_cases equals : second.kind = .symbol .assign
        · obtain ⟨events₁, rest⟩ := assignment limit w₁
          exact of_operation (.assigned named look equals rest)
        · obtain ⟨events₁, value, depth', descent⟩ := exists_descent limit (.start .expression) 0 w₁
          exact of_operation (.named named look equals descent)
  · obtain ⟨events, value, depth', descent⟩ := exists_descent limit (.start .expression) 0 w
    exact of_operation (.unnamed named descent)

theorem of_statement {value : Statement} {w₁ : Window} (read : w.statement limit = .done value w₁) :
    ∃ events, Operation limit (.request .statement) 0 w events (.done (.statement value) w₁) 0 := by
  have works := statement limit w
  rwa [Works, reading, read] at works

theorem statements (limit : Int) (done : List Statement) (w : Window) :
    (statements done).Works limit w := by
  fun_induction Window.statements limit done w with
  | case1 done w error reader failed =>
    obtain ⟨events, first⟩ := statement limit w
    rw [reading, failed] at first
    exact of_operation (.statementFailed first)
  | case2 done w value after read separated error reader gone =>
    obtain ⟨events, first⟩ := of_statement read
    exact of_operation (.stuck first separated gone)
  | case3 done w value after read all separated token next gone last =>
    obtain ⟨events, first⟩ := of_statement read
    exact of_operation (.trailing first separated gone last)
  | case4 done w value after read all separated token next gone more _ _ ih =>
    obtain ⟨events, first⟩ := of_statement read
    obtain ⟨events₁, rest⟩ := ih
    exact of_operation (.further first separated gone more rest)
  | case5 done w value after read all separated last =>
    obtain ⟨events, first⟩ := of_statement read
    exact of_operation (.ended first last)
  | case6 done w value after read separated last =>
    obtain ⟨events, first⟩ := of_statement read
    exact of_operation (.unended first separated last)

end Routine.Works

/-- **Every routine is carried out on every window.** -/
theorem exists_operation (limit : Int) (routine : Routine) (w : Window) : routine.Works limit w := by
  cases routine with
  | statements done => exact .statements limit done w
  | request request =>
    cases request with
    | current => exact .of_operation .current
    | lookAhead => exact .lookAhead limit w
    | shift => exact .of_operation .shift
    | expect kind => exact .expect limit kind w
    | read goal =>
      obtain ⟨events, reading, depth', descent⟩ := exists_descent limit (.start goal) 0 w
      exact .of_operation (.read descent)
    | statement => exact .statement limit w
    | assignment => exact .assignment limit w
    | program =>
      by_cases last : w.current.kind = .endOfInput
      · exact .of_operation (.empty last)
      · obtain ⟨events, statements⟩ := Routine.Works.statements limit [] w
        exact .of_operation (.program last statements)

end Calculator
