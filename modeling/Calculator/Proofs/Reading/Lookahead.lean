/-
**Looking ahead loses no token, repeats none and moves none.**

* `Parser`: a reader in use, with its counter and the log of its events.
* `Parser.Step`, `Parser.Reached`: one request, and the parsers that requests lead to.
* `Parser.Step.performed`: a request is answered as the reader performs it.
* `Parser.Faithful`, `Parser.lookahead_faithful`: what holds of a parser after any requests.

A parser that was left without a token in view answers nothing until it is asked to look ahead.
-/

import Calculator.Proofs.Reading.Conservation

namespace Calculator

open Reader (Answer Request)

/-! ### Parsers -/

/-- A reader in use, with the counter of open parentheses and the log of all events. -/
structure Parser where
  reader : Reader
  depth : Int
  log : List Event

namespace Parser

/-- A request to a parser, what it answers, and the parser after it. Without a current token nothing is
answered, but a parser that is asked to look ahead asks the scanner for a token. -/
inductive Step (limit : Int) : Parser → Request → Except Reader.Refusal Answer → Parser → Prop
  | ready {depth depth' : Int} {w : Window} {log events : List Event} {request : Request}
      {reading : Reading Answer}
      (operation : Operation limit (.request request) depth w events reading depth') :
      Step limit ⟨.ready w, depth, log⟩ request (Reader.answer id reading).1
        ⟨(Reader.answer id reading).2, depth', log ++ events⟩
  | refused {depth : Int} {taken : List Token} {s : Scanner} {log : List Event} {request : Request}
      (other : request ≠ .lookAhead) :
      Step limit ⟨.stranded taken s, depth, log⟩ request (.error .noToken)
        ⟨.stranded taken s, depth, log⟩
  | refilled {depth : Int} {taken : List Token} {s after : Scanner} {log : List Event} {token : Token}
      (read : s.next = (.ok token, after)) :
      Step limit ⟨.stranded taken s, depth, log⟩ .lookAhead (.error .noToken)
        ⟨.ready ⟨taken, token, none, after⟩, depth, log ++ [.pull (.ok token)]⟩
  | unfilled {depth : Int} {taken : List Token} {s after : Scanner} {log : List Event} {e : ScanError}
      (read : s.next = (.error e, after)) :
      Step limit ⟨.stranded taken s, depth, log⟩ .lookAhead (.error (.unread (.lexical e)))
        ⟨.stranded taken after, depth, log ++ [.pull (.error e)]⟩

/-- The parser of a source after some requests. It starts with the first token, if there is one. -/
inductive Reached (limit : Int) (source : String) : List Request → Parser → Prop
  | start {w : Window} (started : Window.start (Scanner.ofText source) = .ok w) :
      Reached limit source [] ⟨.ready w, 0, [.pull (.ok w.current)]⟩
  | step {requests : List Request} {request : Request} {p p' : Parser}
      {answer : Except Reader.Refusal Answer} (reached : Reached limit source requests p)
      (step : Step limit p request answer p') :
      Reached limit source (requests ++ [request]) p'

/-! ### One request -/

section Step

variable {limit : Int} {p p' : Parser} {request : Request} {answer : Except Reader.Refusal Answer}

theorem Step.depth_eq (step : Step limit p request answer p') : p'.depth = p.depth := by
  cases step with
  | ready operation => exact operation.restored
  | refused | refilled | unfilled => rfl

theorem Step.bounded (step : Step limit p request answer p') (start : p.depth ≤ max limit 0)
    (within : Event.Within limit p.log) : Event.Within limit p'.log := by
  cases step with
  | ready operation => exact within.append (operation.bounded start)
  | refused => exact within
  | refilled | unfilled => exact within.append fun _ found => nomatch List.mem_singleton.mp found

/-- **A request keeps every token.** -/
theorem Step.follows (step : Step limit p request answer p') :
    ∃ events, p'.log = p.log ++ events ∧ p.reader.Follows events p'.reader := by
  cases step with
  | @ready _ _ _ _ events _ reading operation =>
    refine ⟨events, rfl, ?_⟩
    cases operation.proper with
    | done follows | failed follows => exact follows
  | refused => exact ⟨[], (List.append_nil _).symm, .refl _⟩
  | refilled read =>
    refine ⟨_, rfl, ?_, .single read, List.prefix_rfl⟩
    exact congrArg (· ++ _) (List.append_nil _).symm
  | unfilled read =>
    exact ⟨_, rfl, (List.append_nil _).symm, .single read, List.prefix_rfl⟩

/-- **A request is answered as the reader performs it.** -/
theorem Step.performed (step : Step limit p request answer p') (closed : p.depth = 0) :
    p.reader.perform limit request = (answer, p'.reader) := by
  cases step with
  | ready operation =>
    rw [Reader.perform_ready, operation.reading_eq closed]
  | @refused _ _ _ _ request other =>
    cases request with
    | lookAhead => exact absurd rfl other
    | current | shift | expect | read | statement | assignment | program => rfl
  | refilled read | unfilled read => rw [Reader.perform, read]

/-- **Looking ahead does not change a current token.** -/
theorem Step.current_eq (step : Step limit p .lookAhead answer p') {token : Token}
    (current : p.reader.buffer.head? = some token) : p'.reader.buffer.head? = some token := by
  cases step with
  | ready operation =>
    cases operation with
    | lookAhead looked | unseen looked =>
      exact (congrArg some (Window.lookAhead_current looked)).trans current
  | refused | refilled | unfilled => cases current

/-- **A token that does not fit is left current.** -/
theorem Step.offending {e : SyntaxError}
    (step : Step limit p request (.error (.unread (.syntactic e))) p') :
    ∃ token, p'.reader.buffer.head? = some token ∧ e.actual = token.kind ∧
      e.position = token.position := by
  generalize failure : Except.error (Reader.Refusal.unread (.syntactic e)) = answer at step
  cases step with
  | ready operation =>
    cases operation.proper with
    | done => cases failure
    | failed follows fails =>
      cases failure
      cases fails with
      | syntactic actual position => exact ⟨_, rfl, actual, position⟩
  | refused | refilled | unfilled => cases failure

/-- The parser has let its current token go, and the scanner has given none in its place. -/
structure Stranded (p p' : Parser) (e : ScanError) (w : Window) (path : List Event) : Prop where
  /-- The window was reached. -/
  follows : p.reader.Follows path (.ready w)
  /-- There was no other token in view. -/
  alone : w.ahead = none
  /-- The current token was let go, and the scanner failed. -/
  shift : w.shift = .failed (.lexical e) p'.reader
  /-- The token has been let go, although it was not answered. -/
  consumed : p'.reader.consumed = w.taken.reverse ++ [w.current]
  /-- The failure is the last that the scanner gave. -/
  last : Event.results p'.log = Event.results (p.log ++ path) ++ [.error e]

/-- **Only a token that is let go and not replaced leaves no token in view.** -/
theorem Step.stranded (step : Step limit p request answer p') (before : p.reader.buffer ≠ [])
    (after : p'.reader.buffer = []) :
    ∃ e w path, answer = .error (.unread (.lexical e)) ∧ p.Stranded p' e w path := by
  cases step with
  | ready operation =>
    cases operation.proper with
    | done => cases after
    | failed follows fails =>
      cases fails with
      | syntactic | unseen => cases after
      | @unfilled e w s path reached alone stuck last =>
        refine ⟨e, w, path, rfl, reached, alone, w.shift_of_error alone stuck, List.reverse_cons, ?_⟩
        rw [Event.results_append, Event.results_append, last, List.append_assoc]
  | refused | refilled | unfilled => exact absurd rfl before

/-- **Without a token in view nothing is answered**, and nothing changes but for a look ahead. -/
theorem Step.eq_of_empty (step : Step limit p request answer p') (before : p.reader.buffer = [])
    (other : request ≠ .lookAhead) : answer = .error .noToken ∧ p' = p := by
  cases step with
  | ready => cases before
  | refused => exact ⟨rfl, rfl⟩
  | refilled | unfilled => exact absurd rfl other

/-- **A look ahead puts a token in view**, if the scanner gives one. -/
theorem Step.lookAhead_of_empty (step : Step limit p .lookAhead answer p')
    (before : p.reader.buffer = []) :
    p'.reader.consumed = p.reader.consumed ∧
      match p.reader.scanner.next.1 with
      | .ok token => answer = .error .noToken ∧ p'.reader.buffer = [token]
      | .error e => answer = .error (.unread (.lexical e)) ∧ p'.reader.buffer = [] := by
  cases step with
  | ready => cases before
  | refused other => exact absurd rfl other
  | refilled read | unfilled read =>
    rw [Reader.scanner, read]
    exact ⟨rfl, rfl, rfl⟩

theorem exists_step (limit : Int) (p : Parser) (closed : p.depth = 0) (request : Request) :
    ∃ answer p', Step limit p request answer p' := by
  obtain ⟨reader, depth, log⟩ := p
  obtain rfl : depth = 0 := closed
  cases reader with
  | ready w =>
    obtain ⟨events, operation⟩ := exists_operation limit (.request request) w
    exact ⟨_, _, .ready operation⟩
  | stranded taken s =>
    by_cases ahead : request = .lookAhead
    · subst ahead
      cases read : s.next with
      | mk result after =>
        cases result with
        | ok token => exact ⟨_, _, .refilled read⟩
        | error e => exact ⟨_, _, .unfilled read⟩
    · exact ⟨_, _, .refused ahead⟩

end Step

/-! ### The main result -/

/-- What one more request does. -/
structure Keeps (limit : Int) (p : Parser) (request : Request) (answer : Except Reader.Refusal Answer)
    (p' : Parser) : Prop where
  /-- It is answered as the reader performs it. -/
  performed : p.reader.perform limit request = (answer, p'.reader)
  /-- It takes back nothing that has been let go or pulled. -/
  grown : p.reader.consumed <+: p'.reader.consumed ∧ p.log <+: p'.log
  /-- Looking ahead does not change a current token. -/
  current : request = .lookAhead → ∀ token, p.reader.buffer.head? = some token →
    p'.reader.buffer.head? = some token
  /-- A token that does not fit is left current. -/
  offending : ∀ e, answer = .error (.unread (.syntactic e)) →
    ∃ token, p'.reader.buffer.head? = some token ∧ e.actual = token.kind ∧ e.position = token.position
  /-- No token is left in view only where one was let go and the scanner gave none in its place. -/
  emptied : p.reader.buffer ≠ [] → p'.reader.buffer = [] →
    ∃ e w path, answer = .error (.unread (.lexical e)) ∧ p.Stranded p' e w path
  /-- Without a token in view nothing is answered and nothing changes, but for a look ahead. -/
  empty : p.reader.buffer = [] → request ≠ .lookAhead → answer = .error .noToken ∧ p' = p
  /-- A look ahead puts a token in view again, if the scanner gives one. -/
  refilled : p.reader.buffer = [] → request = .lookAhead →
    p'.reader.consumed = p.reader.consumed ∧
      match p.reader.scanner.next.1 with
      | .ok token => answer = .error .noToken ∧ p'.reader.buffer = [token]
      | .error e => answer = .error (.unread (.lexical e)) ∧ p'.reader.buffer = []

/-- What a parser of a source has at its start, and every request preserves. -/
structure Invariant (limit : Int) (source : String) (p : Parser) : Prop where
  /-- No parenthesis is counted as open. -/
  closed : p.depth = 0
  /-- The counter has never been set beyond the limit. -/
  limited : ∀ value, .count value ∈ p.log → value ≤ max limit 0
  /-- The tokens let go and those in view are those that the scanner has given, in order. -/
  kept : p.reader.consumed ++ p.reader.buffer = Event.tokens p.log
  /-- What the scanner has given is what it gives for the source, asked for one token after the other. -/
  gives : (Scanner.ofText source).Gives (Event.results p.log) p.reader.scanner
  /-- If no token is in view, the scanner has failed last. -/
  last : p.reader.buffer = [] → ∃ e, (Event.results p.log).getLast? = some (.error e)

/-- **A parser that loses no token, repeats none and moves none**, whatever it is asked for next. -/
structure Faithful (limit : Int) (source : String) (p : Parser) : Prop extends
    Invariant limit source p where
  /-- At most two tokens are in view. -/
  short : p.reader.buffer.length ≤ 2
  /-- Any request can be carried out. -/
  next : ∀ request, ∃ answer p', Step limit p request answer p'
  /-- However it is carried out, it keeps to this. -/
  keeps : ∀ request answer p', Step limit p request answer p' → p.Keeps limit request answer p'

section Faithful

variable {limit : Int} {source : String} {requests : List Request} {p p' : Parser} {w : Window}
  {request : Request} {answer : Except Reader.Refusal Answer}

theorem Invariant.start (started : Window.start (Scanner.ofText source) = .ok w) :
    Invariant limit source ⟨.ready w, 0, [.pull (.ok w.current)]⟩ := by
  unfold Window.start at started
  split at started
  · next token s read =>
    cases started
    exact {
      closed := rfl
      limited := fun _ found => nomatch List.mem_singleton.mp found
      kept := rfl
      gives := .single read
      last := fun empty => nomatch empty }
  · cases started

/-- **Every request preserves the invariant.** -/
theorem Step.invariant (step : Step limit p request answer p') (inv : Invariant limit source p) :
    Invariant limit source p' := by
  obtain ⟨events, log, follows⟩ := step.follows
  exact {
    closed := step.depth_eq.trans inv.closed
    limited := step.bounded (inv.closed ▸ Int.le_max_right ..) inv.limited
    kept := by rw [follows.kept, inv.kept, log, Event.tokens_append]
    gives := by
      rw [log, Event.results_append]
      exact inv.gives.append follows.gives
    last := by
      intro after
      by_cases before : p.reader.buffer = []
      · by_cases ahead : request = .lookAhead
        · subst ahead
          cases step with
          | ready => cases before
          | refused other => exact absurd rfl other
          | refilled => cases after
          | unfilled =>
            rw [Event.results_append]
            exact ⟨_, List.getLast?_concat⟩
        · obtain ⟨-, rfl⟩ := step.eq_of_empty before ahead
          exact inv.last before
      · obtain ⟨e, w, path, -, stranded⟩ := step.stranded before after
        exact ⟨e, stranded.last ▸ List.getLast?_concat⟩ }

theorem Reached.invariant (reached : Reached limit source requests p) : Invariant limit source p := by
  induction reached with
  | start started => exact .start started
  | step reached step ih => exact step.invariant ih

/-- Requests lead on from any parser that is reached. -/
theorem Reached.exists_append (reached : Reached limit source requests p) (later : List Request) :
    ∃ p', Reached limit source (requests ++ later) p' := by
  induction later generalizing requests p with
  | nil => exact ⟨p, (List.append_nil _).symm ▸ reached⟩
  | cons request later ih =>
    obtain ⟨answer, p', step⟩ := exists_step limit p reached.invariant.closed request
    rw [List.append_cons]
    exact ih (reached.step step)

theorem Step.keeps (step : Step limit p request answer p') (closed : p.depth = 0) :
    p.Keeps limit request answer p' where
  performed := step.performed closed
  grown := by
    obtain ⟨events, log, follows⟩ := step.follows
    exact ⟨follows.grown, log ▸ List.prefix_append ..⟩
  current := by
    rintro rfl token
    exact step.current_eq
  offending := by
    rintro e rfl
    exact step.offending
  emptied := step.stranded
  empty := step.eq_of_empty
  refilled := by
    rintro before rfl
    exact step.lookAhead_of_empty before

theorem Reached.faithful (reached : Reached limit source requests p) : Faithful limit source p where
  toInvariant := reached.invariant
  short := by
    cases p.reader with
    | stranded => exact Nat.zero_le _
    | ready w => exact Nat.succ_le_succ (Option.length_toList_le ..)
  next := exists_step limit p reached.invariant.closed
  keeps := fun _ _ _ step => step.keeps reached.invariant.closed

/-- **Any requests to a parser of a source can be carried out, and leave it faithful.** -/
theorem lookahead_faithful (limit : Int) (started : Window.start (Scanner.ofText source) = .ok w)
    (requests : List Request) :
    (∃ p, Reached limit source requests p) ∧ ∀ p, Reached limit source requests p → Faithful limit source p :=
  ⟨Reached.exists_append (.start started) requests, fun _ reached => reached.faithful⟩

/-- A name with a stray character behind it: the name is let go, and no token is left in view. -/
theorem lookahead_faithful_stray :
    ∃ p, Reached 0 "a@" [.shift] p ∧ p.reader.buffer = [] ∧ Faithful 0 "a@" p := by
  have started : Window.start (Scanner.ofText "a@") =
      .ok ⟨[], ⟨.identifier "a", 0⟩, none, ⟨1, ['@']⟩⟩ := rfl
  have reached : Reached 0 "a@" [.shift] _ := .step (.start started) (.ready .shift)
  exact ⟨_, reached, rfl, (lookahead_faithful 0 started [.shift]).2 _ reached⟩

end Faithful

end Parser

end Calculator
