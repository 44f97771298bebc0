/-
**Scanning: from characters to tokens.**

* `Scanner`: a cursor over a text, the offset reached and the characters not yet read.
* `Scanner.next`: the next token, by the longest match, or the reason why there is none.
* `Scanner.run`: all tokens from the cursor on; `scanText`: all tokens of a text.
* `Scanner.next_length_lt`: a token that is not the end of input takes at least one character, so a
  run ends.

Numbers are runs of ASCII digits; a run too large for a finite number is refused. Names start with
an ASCII letter and go on with letters, digits and underscores. Blanks of any script part tokens.
-/

import Calculator.Binary64.Notation
import Calculator.Diagnostic
import Calculator.Text.Basic
import Calculator.Token.Basic

namespace Calculator

open Text (isBlank)

/-! ### Failures -/

/-- Why no token could be read. -/
inductive ScanFault where
  /-- No token starts with the character. -/
  | strayCharacter
  /-- The number has so many digits that no finite number is near it. -/
  | numberTooLarge (digits : Nat)
  deriving DecidableEq, Repr

/-- A place where no token could be read, with the character that stands there. -/
structure ScanError where
  character : Char
  position : Nat
  fault : ScanFault
  deriving DecidableEq, Repr

/-- The failure in words. -/
def ScanError.diagnostic (e : ScanError) : Diagnostic :=
  .lexical (String.singleton e.character) (some e.position) <|
    match e.fault with
    | .strayCharacter => none
    | .numberTooLarge digits => some s!"number literal too large ({digits} digits)"

/-! ### The cursor -/

/-- A cursor over a text. -/
structure Scanner where
  offset : Nat
  rest : List Char
  deriving DecidableEq, Repr

namespace Scanner

/-- A cursor at the start of a text. -/
def ofText (text : String) : Scanner := ⟨0, text.toList⟩

/-- The character under the cursor, unless the text ends there. -/
def current? (s : Scanner) : Option Char := s.rest.head?

/-- The cursor after the characters that satisfy `p`. -/
def pass (s : Scanner) (p : Char → Bool) : Scanner :=
  ⟨s.offset + (s.rest.takeWhile p).length, s.rest.dropWhile p⟩

/-- A character that a name may hold after its first. -/
def isNameChar (c : Char) : Bool := c.isAlphanum || c = '_'

/-- The number whose digits start under the cursor, `c` being the first of them. -/
def number (s : Scanner) (c : Char) : Except ScanError Token :=
  let digits := s.rest.takeWhile Char.isDigit
  (Binary64.ofNatural? (Binary64.naturalOf digits)).elim
    (.error ⟨c, s.offset, .numberTooLarge digits.length⟩) fun value =>
    .ok ⟨.number value, s.offset⟩

/-- The name that starts under the cursor. -/
def identifier (s : Scanner) : Token :=
  ⟨.identifier (String.ofList (s.rest.takeWhile isNameChar)), s.offset⟩

/-- The token that starts under the cursor, `c` being the character there, and the cursor after it.
A number too large is passed over, a stray character is not. -/
def scan (s : Scanner) (c : Char) : Except ScanError Token × Scanner :=
  if c.isDigit then (s.number c, s.pass Char.isDigit)
  else if c.isAlpha then (.ok s.identifier, s.pass isNameChar)
  else
    match Symbol.ofChar? c with
    | some symbol => (.ok ⟨.symbol symbol, s.offset⟩, ⟨s.offset + 1, s.rest.tail⟩)
    | none => (.error ⟨c, s.offset, .strayCharacter⟩, s)

/-- The next token after the blanks, and the cursor after it. -/
def next (s : Scanner) : Except ScanError Token × Scanner :=
  let s := s.pass isBlank
  match s.rest with
  | [] => (.ok ⟨.endOfInput, s.offset⟩, s)
  | c :: _ => s.scan c

/-! ### Progress -/

theorem pass_length_le (s : Scanner) (p : Char → Bool) :
    (s.pass p).rest.length ≤ s.rest.length :=
  (List.dropWhile_sublist p).length_le

theorem pass_length_lt {s : Scanner} {p : Char → Bool} {c : Char} {more : List Char}
    (here : s.rest = c :: more) (holds : p c = true) :
    (s.pass p).rest.length < s.rest.length := by
  have shorter : (more.dropWhile p).length ≤ more.length :=
    (List.dropWhile_sublist p).length_le
  rw [pass, here, List.dropWhile_cons_of_pos holds, List.length_cons]
  exact Nat.lt_succ_of_le shorter

theorem isNameChar_of_isAlpha {c : Char} (letter : c.isAlpha = true) : isNameChar c = true := by
  rw [isNameChar, Char.isAlphanum, letter]
  rfl

theorem scan_length_le {s : Scanner} {c : Char} {more : List Char} (here : s.rest = c :: more) :
    (s.scan c).2.rest.length ≤ s.rest.length := by
  unfold scan
  split
  · exact pass_length_le ..
  · split
    · exact pass_length_le ..
    · split
      · rw [here]
        exact Nat.le_succ _
      · exact Nat.le_refl _

theorem scan_length_lt {s : Scanner} {c : Char} {more : List Char} (here : s.rest = c :: more)
    {token : Token} (read : (s.scan c).1 = .ok token) :
    (s.scan c).2.rest.length < s.rest.length := by
  revert read
  unfold scan
  split
  · next digit => exact fun _ => pass_length_lt here digit
  · split
    · next letter => exact fun _ => pass_length_lt here (isNameChar_of_isAlpha letter)
    · split
      · rw [here]
        exact fun _ => Nat.lt_succ_self _
      · exact fun failed => nomatch failed

theorem next_length_le (s : Scanner) : s.next.2.rest.length ≤ s.rest.length := by
  have passed := s.pass_length_le isBlank
  unfold next
  dsimp only
  split
  · exact passed
  · next here => exact Nat.le_trans (scan_length_le here) passed

theorem next_length_lt {s after : Scanner} {token : Token} (read : s.next = (.ok token, after))
    (notEnd : token.kind ≠ .endOfInput) : after.rest.length < s.rest.length := by
  have passed := s.pass_length_le isBlank
  unfold next at read
  dsimp only at read
  split at read
  · cases read
    exact absurd rfl notEnd
  · next here =>
    have shorter := scan_length_lt here (congrArg Prod.fst read)
    rw [read] at shorter
    exact Nat.lt_of_lt_of_le shorter passed

/-! ### Runs -/

/-- What a run over the rest of a text yields: its tokens, the failure that stopped it short of the
end of input, and the cursor after it. -/
structure Run where
  tokens : List Token
  failure : Option ScanError
  scanner : Scanner

/-- The tokens from the cursor on, up to the end of input or the first failure. -/
def run (s : Scanner) : Run :=
  match read : s.next with
  | (.error e, after) => ⟨[], some e, after⟩
  | (.ok token, after) =>
    if notEnd : token.kind ≠ .endOfInput then
      have := next_length_lt read notEnd
      let more := after.run
      ⟨token :: more.tokens, more.failure, more.scanner⟩
    else ⟨[token], none, after⟩
termination_by s.rest.length

end Scanner

/-- All tokens of a text, the end of input included. -/
def scanText (text : String) : Except ScanError (List Token) :=
  let run := (Scanner.ofText text).run
  match run.failure with
  | none => .ok run.tokens
  | some e => .error e

end Calculator
