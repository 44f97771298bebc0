/-
**Reading keeps every token.**

* `Event.results`, `Event.tokens`: what the scanner gave while something was read.
* `Reader.Follows`: what has been let go and what is in view is what the scanner gave, in order.
* `Reader.Fails`: how a stretch of reading fails, and what it leaves behind.
* `Descent.proper`, `Operation.proper`: this is so whatever is read.

A token that is let go is gone before the next one is scanned, so that a reader may be left with no token
in view, and a token that does not fit is not let go.
-/

import Calculator.Proofs.Reading.Operation
import Calculator.Proofs.Token.Cursor

namespace Calculator

open Reader (Answer Request)

/-! ### What the scanner gives -/

/-- What the scanner gave when it was asked for a token. -/
def Event.result? : Event → Option (Except ScanError Token)
  | .count _ => none
  | .pull result => some result

namespace Event

variable {events events₁ : List Event}

/-- All that the scanner gave, in order. -/
def results (events : List Event) : List (Except ScanError Token) := events.filterMap result?

/-- The tokens that the scanner gave, in order. -/
def tokens (events : List Event) : List Token := (results events).filterMap Except.toOption

theorem results_append (events events₁ : List Event) :
    results (events ++ events₁) = results events ++ results events₁ := List.filterMap_append ..

theorem tokens_append (events events₁ : List Event) :
    tokens (events ++ events₁) = tokens events ++ tokens events₁ := by
  rw [tokens, results_append, List.filterMap_append, tokens, tokens]

theorem results_count (value : Int) (events : List Event) :
    results (.count value :: events) = results events := rfl

end Event

/-- One token asked for after the other, the scanner gives the results, and ends at the second place. -/
def Scanner.Gives (s : Scanner) (results : List (Except ScanError Token)) (s' : Scanner) : Prop :=
  s.performAll (List.replicate results.length .next) = (results.map .read, s')

namespace Scanner.Gives

variable {s s₁ s₂ : Scanner} {results results₁ : List (Except ScanError Token)}

theorem nil (s : Scanner) : s.Gives [] s := rfl

theorem single {result : Except ScanError Token} (read : s.next = (result, s₁)) : s.Gives [result] s₁ := by
  rw [Gives, List.length_singleton, List.replicate_one, performAll, perform, read]
  rfl

theorem append (first : s.Gives results s₁) (second : s₁.Gives results₁ s₂) :
    s.Gives (results ++ results₁) s₂ := by
  rw [Gives, List.length_append, ← List.replicate_append_replicate, performAll_append, first, second,
    List.map_append]

end Scanner.Gives

/-! ### Stretches of reading -/

/-- **A stretch of reading keeps every token.** What has been let go at its end, and what is in view then, is
what was before, with the tokens that the scanner gave behind it. -/
structure Reader.Follows (before : Reader) (events : List Event) (after : Reader) : Prop where
  kept : after.consumed ++ after.buffer = before.consumed ++ before.buffer ++ Event.tokens events
  gives : before.scanner.Gives (Event.results events) after.scanner
  grown : before.consumed <+: after.consumed

namespace Reader.Follows

variable {before middle after : Reader} {events events₁ : List Event}

theorem refl (reader : Reader) : reader.Follows [] reader where
  kept := (List.append_nil _).symm
  gives := .nil _
  grown := List.prefix_rfl

theorem trans (first : before.Follows events middle) (second : middle.Follows events₁ after) :
    before.Follows (events ++ events₁) after where
  kept := by rw [second.kept, first.kept, Event.tokens_append, List.append_assoc]
  gives := Event.results_append .. ▸ first.gives.append second.gives
  grown := first.grown.trans second.grown

/-- Only what is pulled matters. -/
theorem of_results (follows : before.Follows events after)
    (same : Event.results events₁ = Event.results events) : before.Follows events₁ after where
  kept := by rw [follows.kept, Event.tokens, Event.tokens, same]
  gives := same ▸ follows.gives
  grown := follows.grown

end Reader.Follows

namespace Window

variable {w w₁ : Window}

theorem pulls_of_seen {token : Token} (seen : w.ahead = some token) : w.pulls = [] := by
  rw [pulls, seen]

theorem pulls_of_unseen {result : Except ScanError Token} {s : Scanner} (unseen : w.ahead = none)
    (read : w.scanner.next = (result, s)) : w.pulls = [.pull result] := by
  rw [pulls, unseen, read]

theorem lookAhead_follows {result : Except ScanError Token} (looked : w.lookAhead = (result, w₁)) :
    (Reader.ready w).Follows w.pulls (.ready w₁) := by
  unfold lookAhead at looked
  split at looked
  · next token seen =>
    cases looked
    exact pulls_of_seen seen ▸ .refl _
  · next unseen =>
    split at looked
    · next read =>
      cases looked
      rw [pulls_of_unseen unseen read]
      refine ⟨?_, .single read, List.prefix_rfl⟩
      rw [Reader.buffer, Reader.buffer, unseen]
      exact (List.append_assoc w.taken.reverse [w.current] [_]).symm
    · next read =>
      cases looked
      rw [pulls_of_unseen unseen read]
      exact ⟨(List.append_nil _).symm, .single read, List.prefix_rfl⟩

/-- **The current token is let go before the next one is scanned**, which may fail. -/
theorem shift_follows (w : Window) :
    (∃ w₁, w.shift = .done w.current w₁ ∧ (Reader.ready w).Follows w.pulls (.ready w₁)) ∨
    ∃ e s, w.ahead = none ∧ w.scanner.next = (.error e, s) ∧
      w.shift = .failed (.lexical e) (.stranded (w.current :: w.taken) s) ∧
      (Reader.ready w).Follows w.pulls (.stranded (w.current :: w.taken) s) := by
  have grown : w.taken.reverse <+: (w.current :: w.taken).reverse :=
    List.reverse_cons ▸ List.prefix_append ..
  have kept (behind : List Token) : (w.current :: w.taken).reverse ++ behind =
      w.taken.reverse ++ (w.current :: behind) := by
    rw [List.reverse_cons, List.append_assoc, List.singleton_append]
  cases seen : w.ahead with
  | some token =>
    rw [pulls_of_seen seen]
    refine .inl ⟨_, shift_of_seen seen, ?_, .nil _, grown⟩
    rw [Reader.buffer, Reader.buffer, seen]
    exact (kept [token]).trans (List.append_nil _).symm
  | none =>
    cases read : w.scanner.next with
    | mk result s =>
      rw [pulls_of_unseen seen read]
      cases result with
      | ok token =>
        refine .inl ⟨_, shift_of_ok seen read, ?_, .single read, grown⟩
        rw [Reader.buffer, Reader.buffer, seen]
        exact (kept [token]).trans (List.append_assoc _ [w.current] [token]).symm
      | error e =>
        refine .inr ⟨e, s, rfl, rfl, shift_of_error seen read, ?_, .single read, grown⟩
        rw [Reader.buffer, Reader.buffer, seen]
        exact (kept []).trans (List.append_nil _).symm

end Window

/-- How a stretch of reading fails, and what it leaves behind. -/
inductive Reader.Fails (before : Reader) (events : List Event) : ReadError → Reader → Prop
  /-- A token that does not fit is still the current one. -/
  | syntactic {e : SyntaxError} {w : Window} (actual : e.actual = w.current.kind)
      (position : e.position = w.current.position) : Fails before events (.syntactic e) (.ready w)
  /-- The token after the current one could not be looked at. -/
  | unseen {e : ScanError} {w : Window} : Fails before events (.lexical e) (.ready w)
  /-- The current token was let go, and the scanner gave none in its place. -/
  | unfilled {e : ScanError} {w : Window} {s : Scanner} {path : List Event}
      (follows : before.Follows path (.ready w)) (alone : w.ahead = none)
      (stuck : w.scanner.next = (.error e, s))
      (last : Event.results events = Event.results path ++ [.error e]) :
      Fails before events (.lexical e) (.stranded (w.current :: w.taken) s)

/-- What a reading has done to the tokens, and how it failed if it did. -/
inductive Reading.Proper {α : Type} (before : Reader) (events : List Event) : Reading α → Prop
  | done {value : α} {w : Window} (follows : before.Follows events (.ready w)) :
      Proper before events (.done value w)
  | failed {error : ReadError} {reader : Reader} (follows : before.Follows events reader)
      (fails : before.Fails events error reader) : Proper before events (.failed error reader)

namespace Reading.Proper

variable {α β : Type} {before middle : Reader} {events events₁ : List Event} {reading : Reading α}
  {w : Window} {value : α}

theorem map (proper : reading.Proper before events) (f : α → β) : (reading.map f).Proper before events := by
  cases proper with
  | done follows => exact .done follows
  | failed follows fails => exact .failed follows fails

theorem shift {reading : Reading Token} (gone : w.shift = reading) :
    reading.Proper (.ready w) w.pulls := by
  subst gone
  obtain ⟨w₁, gone, follows⟩ | ⟨e, s, alone, stuck, gone, follows⟩ := w.shift_follows
  · exact gone ▸ .done follows
  · refine gone ▸ .failed follows (.unfilled (.refl _) alone stuck ?_)
    rw [Window.pulls_of_unseen alone stuck]
    rfl

/-- What is read behind a value. -/
theorem andThen (first : (Reading.done value w).Proper before events) {next : Reading β}
    (second : next.Proper (.ready w) events₁) : next.Proper before (events ++ events₁) := by
  cases first with
  | done earlier =>
    cases second with
    | done follows => exact .done (earlier.trans follows)
    | failed follows fails =>
      refine .failed (earlier.trans follows) ?_
      cases fails with
      | syntactic actual position => exact .syntactic actual position
      | unseen => exact .unseen
      | unfilled path alone stuck last =>
        refine .unfilled (earlier.trans path) alone stuck ?_
        rw [Event.results_append, Event.results_append, last, List.append_assoc]

/-- A current token that does not fit ends a reading. -/
theorem refuse (first : (Reading.done value w).Proper before events) {e : SyntaxError}
    (actual : e.actual = w.current.kind) (position : e.position = w.current.position) :
    (.failed (.syntactic e) (.ready w) : Reading β).Proper before events := by
  cases first with
  | done follows => exact .failed follows (.syntactic actual position)

/-- A failure is one whatever was to be read. -/
theorem of_failed {error : ReadError} {reader : Reader}
    (proper : (.failed error reader : Reading α).Proper before events) :
    (.failed error reader : Reading β).Proper before events := by
  cases proper with
  | failed follows fails => exact .failed follows fails

/-- What the counter is set to does not matter. -/
theorem of_results (proper : reading.Proper before events)
    (same : Event.results events₁ = Event.results events) : reading.Proper before events₁ := by
  cases proper with
  | done follows => exact .done (follows.of_results same)
  | failed follows fails =>
    refine .failed (follows.of_results same) ?_
    cases fails with
    | syntactic actual position => exact .syntactic actual position
    | unseen => exact .unseen
    | unfilled path alone stuck last => exact .unfilled path alone stuck (same.trans last)

/-- What the counter is set to around an expression between parentheses does not matter. -/
theorem counted (proper : reading.Proper before events) (opened closed : Int) :
    reading.Proper before (.count opened :: (events ++ [.count closed])) := by
  refine proper.of_results ?_
  rw [Event.results_count, Event.results_append]
  exact List.append_nil _

/-- A reading where the current token does not fit. -/
theorem unfit {e : SyntaxError} (actual : e.actual = w.current.kind)
    (position : e.position = w.current.position) :
    (.failed (.syntactic e) (.ready w) : Reading β).Proper (.ready w) [] :=
  .failed (.refl _) (.syntactic actual position)

end Reading.Proper

/-- **Applying a rule keeps every token.** -/
theorem Descent.proper {limit depth depth' : Int} {rule : Production} {w : Window} {events : List Event}
    {reading : Reading Expr} (descent : Descent limit rule depth w events reading depth') :
    reading.Proper (.ready w) events := by
  induction descent with
  | number | reference => exact (Reading.Proper.shift rfl).map _
  | tooDeep | unfit => exact .unfit rfl rfl
  | unopened here room gone | stuck here gone => exact (Reading.Proper.shift gone).of_failed
  | insideFailed here room gone inside ih => exact (Reading.Proper.shift gone).andThen (ih.counted ..)
  | unclosed here room gone inside notClosed ih =>
    exact (Reading.Proper.shift gone).andThen ((ih.counted ..).refuse rfl rfl)
  | @group depth depth₁ w w₁ w₂ token events value here room gone inside closed ih =>
    have behind := ih.andThen ((Reading.Proper.shift rfl).map fun _ => value)
    -- The counter goes down between the expression and the token that closes the group.
    refine (Reading.Proper.shift gone).andThen (behind.of_results ?_)
    rw [Event.results_count, Event.results_append, Event.results_append, Event.results_count]
  | operandFailed operands first ih => exact ih
  | operand operands first rest ihFirst ihRest => exact ihFirst.andThen ihRest
  | ended => exact .done (.refl _)
  | rightFailed here gone operands right ih => exact (Reading.Proper.shift gone).andThen ih
  | more here gone operands right rest ihRight ihRest =>
    exact (Reading.Proper.shift gone).andThen (ihRight.andThen ihRest)

/-- **Carrying out a routine keeps every token.** -/
theorem Operation.proper {limit depth depth' : Int} {routine : Routine} {w : Window}
    {events : List Event} {reading : Reading Answer}
    (operation : Operation limit routine depth w events reading depth') :
    reading.Proper (.ready w) events := by
  induction operation with
  | current | empty => exact .done (.refl _)
  | lookAhead looked => exact .done (Window.lookAhead_follows looked)
  | unseen looked => exact .failed (Window.lookAhead_follows looked) .unseen
  | shift | expect => exact (Reading.Proper.shift rfl).map _
  | unfit => exact .unfit rfl rfl
  | read descent => exact descent.proper.map _
  | nameFailed name ih | nameUnseen named look ih => exact ih
  | equalsFailed name equals ihName ihEquals => exact ihName.andThen ihEquals
  | assignment name text equals value ihName ihEquals =>
    exact ihName.andThen (ihEquals.andThen (value.proper.map _))
  | assigned named look equals rest ihLook ihRest => exact ihLook.andThen ihRest
  | named named look other value ih => exact ih.andThen (value.proper.map _)
  | unnamed noName value => exact value.proper.map _
  | program more statements ih | statementFailed first ih => exact ih
  | stuck first separated gone ih => exact ih.andThen (Reading.Proper.shift gone).of_failed
  | trailing first separated gone last ih =>
    cases ih.andThen (.shift gone) with
    | done follows => exact .done follows
  | further first separated gone more rest ihFirst ihRest =>
    exact ihFirst.andThen ((Reading.Proper.shift gone).andThen ihRest)
  | ended first last ih =>
    cases ih with
    | done follows => exact .done follows
  | unended first unseparated more ih => exact ih.refuse rfl rfl

end Calculator
