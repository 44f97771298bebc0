/-
**The tokens in view while a program is read.**

* `Window`: the current token, the one after it once it has been looked at, and the scanner behind
  both.
* `Window.lookAhead`, `Window.shift`: look one token further, or let the current one go.
* `Reader`: a window, or what is left when a token was let go and the scanner could not replace it.
* `Window.exists_of_shift`: the window after a token that was let go.
* `Window.shift_remaining_lt`: letting go a token that is not the end of input is progress.

Tokens are scanned as late as possible, so a failure further right is never met before it matters.
-/

import Calculator.Token.Scanner

namespace Calculator

/-! ### Failures -/

/-- What the grammar asks for at a place. -/
inductive Expectation where
  | one (kind : Kind)
  /-- The start of a factor. -/
  | operand
  /-- The end of a statement. -/
  | statementEnd
  deriving DecidableEq, Repr

/-- The name of an expectation in messages. -/
def Expectation.label : Expectation → String
  | .one kind => kind.label
  | .operand => "NUMBER, IDENTIFIER or LPAREN"
  | .statementEnd => "SEMICOLON or END_OF_INPUT"

/-- A token that the grammar does not allow where it stands. `depthLimit` is there when the token
opens a parenthesis that would nest too deep. -/
structure SyntaxError where
  expected : Expectation
  actual : Kind
  position : Nat
  depthLimit : Option Int
  deriving DecidableEq, Repr

/-- The failure in words. -/
def SyntaxError.diagnostic (e : SyntaxError) : Diagnostic :=
  .syntactic e.expected.label e.actual.label (some e.position) <|
    e.depthLimit.map fun limit => s!"nesting too deep (limit {limit})"

/-- Why a text could not be read. -/
inductive ReadError where
  | lexical (error : ScanError)
  | syntactic (error : SyntaxError)
  deriving DecidableEq, Repr

/-- The failure in words. -/
def ReadError.diagnostic : ReadError → Diagnostic
  | .lexical error => error.diagnostic
  | .syntactic error => error.diagnostic

/-- The token is not what the grammar asks for. -/
def Token.refusal (token : Token) (expected : Expectation) : ReadError :=
  .syntactic ⟨expected, token.kind, token.position, none⟩

/-! ### Windows -/

/-- The tokens in view. `taken` holds the tokens let go so far, the latest first. -/
structure Window where
  taken : List Token
  current : Token
  ahead : Option Token
  scanner : Scanner
  deriving DecidableEq

/-- A window, or the scanner alone, after a token was let go and none could follow it. -/
inductive Reader where
  | ready (window : Window)
  | stranded (taken : List Token) (scanner : Scanner)
  deriving DecidableEq

/-- A value that was read, with the window after it, or a failure and what it left behind. -/
inductive Reading (α : Type) where
  | done (value : α) (window : Window)
  | failed (error : ReadError) (reader : Reader)

/-- The reading of something made from what was read. -/
def Reading.map {α β : Type} (f : α → β) : Reading α → Reading β
  | .done value window => .done (f value) window
  | .failed error reader => .failed error reader

namespace Window

/-- A window on the first token of a scanner. -/
def start (s : Scanner) : Except ScanError Window :=
  match s.next with
  | (.ok token, after) => .ok ⟨[], token, none, after⟩
  | (.error e, _) => .error e

/-- The token after the current one, which is scanned the first time. -/
def lookAhead (w : Window) : Except ScanError Token × Window :=
  match w.ahead with
  | some token => (.ok token, w)
  | none =>
    match w.scanner.next with
    | (.ok token, after) => (.ok token, { w with ahead := some token, scanner := after })
    | (.error e, after) => (.error e, { w with scanner := after })

/-- The window after the current token, which is the value. -/
def shift (w : Window) : Reading Token :=
  let taken := w.current :: w.taken
  match w.ahead with
  | some token => .done w.current ⟨taken, token, none, w.scanner⟩
  | none =>
    match w.scanner.next with
    | (.ok token, after) => .done w.current ⟨taken, token, none, after⟩
    | (.error e, after) => .failed (.lexical e) (.stranded taken after)

/-- Lets the current token go if it is of this class. -/
def expect (w : Window) (kind : Kind) : Reading Token :=
  if w.current.kind = kind then w.shift
  else .failed (w.current.refusal (.one kind)) (.ready w)

/-! ### Letting a token go -/

section Shift

variable {w : Window} {next : Token} {s : Scanner}

theorem shift_of_seen (seen : w.ahead = some next) :
    w.shift = .done w.current ⟨w.current :: w.taken, next, none, w.scanner⟩ := by
  rw [shift, seen]

theorem shift_of_ok (unseen : w.ahead = none) (read : w.scanner.next = (.ok next, s)) :
    w.shift = .done w.current ⟨w.current :: w.taken, next, none, s⟩ := by
  rw [shift, unseen, read]

theorem shift_of_error {e : ScanError} (unseen : w.ahead = none)
    (read : w.scanner.next = (.error e, s)) :
    w.shift = .failed (.lexical e) (.stranded (w.current :: w.taken) s) := by
  rw [shift, unseen, read]

/-- The token that is let go was current, and the one after it is current then. -/
theorem exists_of_shift {w' : Window} {token : Token} (gone : w.shift = .done token w') :
    token = w.current ∧ ∃ next s, w' = ⟨w.current :: w.taken, next, none, s⟩ ∧
      (w.ahead = some next ∧ s = w.scanner ∨ w.ahead = none ∧ w.scanner.next = (.ok next, s)) := by
  cases seen : w.ahead with
  | some next =>
    rw [shift_of_seen seen] at gone
    cases gone
    exact ⟨rfl, next, _, rfl, .inl ⟨rfl, rfl⟩⟩
  | none =>
    cases read : w.scanner.next with
    | mk result s =>
      cases result with
      | ok next =>
        rw [shift_of_ok seen read] at gone
        cases gone
        exact ⟨rfl, next, s, rfl, .inr ⟨rfl, rfl⟩⟩
      | error e =>
        rw [shift_of_error seen read] at gone
        cases gone

end Shift

/-! ### Progress -/

/-- What a token counts for while something is left to read: the end of input counts for nothing. -/
def weight (token : Token) : Nat := if token.kind = .endOfInput then 0 else 1

/-- What is left to read: the tokens in view and the characters behind them. -/
def remaining (w : Window) : Nat :=
  weight w.current + (w.ahead.map weight).getD 0 + w.scanner.rest.length

theorem weight_add_length_le {s after : Scanner} {token : Token}
    (read : s.next = (.ok token, after)) :
    weight token + after.rest.length ≤ s.rest.length := by
  unfold weight
  split
  · have shorter := s.next_length_le
    rw [read] at shorter
    exact (Nat.zero_add _).symm ▸ shorter
  · next notEnd =>
    have shorter := Scanner.next_length_lt read notEnd
    omega

theorem lookAhead_remaining_le {w w' : Window} {result : Except ScanError Token}
    (looked : w.lookAhead = (result, w')) : w'.remaining ≤ w.remaining := by
  unfold lookAhead at looked
  split at looked
  · cases looked
    exact Nat.le_refl _
  · next unseen =>
    split at looked
    · next token after read =>
      cases looked
      have bound := weight_add_length_le read
      simp only [remaining, unseen, Option.map_some, Option.map_none, Option.getD_some,
        Option.getD_none]
      omega
    · next e after read =>
      cases looked
      have bound := w.scanner.next_length_le
      rw [read] at bound
      dsimp only at bound
      simp only [remaining, unseen]
      omega

theorem shift_remaining_le {w w' : Window} {token : Token} (gone : w.shift = .done token w') :
    weight w.current + w'.remaining ≤ w.remaining := by
  obtain ⟨-, next, s, rfl, ⟨seen, rfl⟩ | ⟨unseen, read⟩⟩ := exists_of_shift gone
  · simp only [remaining, seen, Option.map_some, Option.map_none, Option.getD_some,
      Option.getD_none]
    omega
  · have bound := weight_add_length_le read
    simp only [remaining, unseen, Option.map_none, Option.getD_none]
    omega

theorem shift_remaining_lt {w w' : Window} {token : Token} (gone : w.shift = .done token w')
    (notEnd : w.current.kind ≠ .endOfInput) : w'.remaining < w.remaining := by
  have bound := shift_remaining_le gone
  rw [weight, if_neg notEnd] at bound
  omega

theorem expect_remaining_le {w w' : Window} {kind : Kind} {token : Token}
    (found : w.expect kind = .done token w') : w'.remaining ≤ w.remaining := by
  unfold expect at found
  split at found
  · have bound := shift_remaining_le found
    omega
  · cases found

end Window

end Calculator
