/-
**TOML: strings and keys.**

* `basicBody`, `literalBody`: a string on one line, after its opening quote.
* `longBasicBody`, `longLiteralBody`: a string over several lines, after its opening quotes.
* `quotedText`: any string, and `key`: a dotted key.

A basic string knows escapes, a literal one does not. Control characters stand in neither.
-/

import Calculator.Toml.Basic

namespace Calculator.Toml

/-! ### Escapes -/

/-- The character that a letter stands for behind a backslash. -/
def escape? : Char → Option Char
  | 'b' => some '\x08'
  | 't' => some '\t'
  | 'n' => some '\n'
  | 'f' => some '\x0c'
  | 'r' => some '\r'
  | '"' => some '"'
  | '\\' => some '\\'
  | _ => none

/-- The value of a hexadecimal digit. -/
def hexDigit? (c : Char) : Option Nat :=
  if c.isDigit then some (c.toNat - '0'.toNat)
  else if 'a' ≤ c ∧ c ≤ 'f' then some (c.toNat - 'a'.toNat + 10)
  else if 'A' ≤ c ∧ c ≤ 'F' then some (c.toNat - 'A'.toNat + 10)
  else none

/-- The number that hexadecimal digits spell. -/
def hexNumber? (digits : List Char) : Option Nat := do
  let values ← digits.mapM hexDigit?
  return values.foldl (fun value digit => 16 * value + digit) 0

/-- The character with the code point that hexadecimal digits spell. -/
def codePoint (digits : List Char) : Except Fault Char :=
  match hexNumber? digits with
  | some number => if number.isValidChar then .ok (Char.ofNat number) else .error .malformed
  | none => .error .malformed

/-! ### Strings on one line -/

/-- Puts a character in front of what was read. -/
def prepend (c : Char) (parsed : Except Fault (List Char × List Char)) :
    Except Fault (List Char × List Char) :=
  parsed.map fun (text, rest) => (c :: text, rest)

/-- The rest of a basic string. -/
def basicBody : List Char → Except Fault (List Char × List Char)
  | [] => .error .malformed
  | '"' :: rest => .ok ([], rest)
  | '\\' :: 'u' :: c₁ :: c₂ :: c₃ :: c₄ :: rest => do
    prepend (← codePoint [c₁, c₂, c₃, c₄]) (basicBody rest)
  | '\\' :: 'U' :: c₁ :: c₂ :: c₃ :: c₄ :: c₅ :: c₆ :: c₇ :: c₈ :: rest => do
    prepend (← codePoint [c₁, c₂, c₃, c₄, c₅, c₆, c₇, c₈]) (basicBody rest)
  | '\\' :: c :: rest =>
    match escape? c with
    | some c => prepend c (basicBody rest)
    | none => .error .malformed
  | c :: rest => if isControl c then .error .malformed else prepend c (basicBody rest)

/-- The rest of a literal string. -/
def literalBody : List Char → Except Fault (List Char × List Char)
  | [] => .error .malformed
  | '\'' :: rest => .ok ([], rest)
  | c :: rest => if isControl c then .error .malformed else prepend c (literalBody rest)

/-! ### Strings over several lines -/

/-- The text after a line end that follows the opening quotes. -/
def skipFirstLineEnd : List Char → List Char
  | '\n' :: rest => rest
  | text => text

/-- Up to two quotes that stand before the closing ones belong to the string. -/
def closingQuotes (quote : Char) : List Char → List Char × List Char
  | c₁ :: c₂ :: rest =>
    if c₁ = quote ∧ c₂ = quote then ([quote, quote], rest)
    else if c₁ = quote then ([quote], c₂ :: rest)
    else ([], c₁ :: c₂ :: rest)
  | [c] => if c = quote then ([quote], []) else ([], [c])
  | [] => ([], [])

/-- The text after a backslash at the end of a line: blanks and line ends are left out. -/
def skipContinuation (text : List Char) : Option (List Char) :=
  match skipBlanks text with
  | '\n' :: rest => some (rest.dropWhile fun c => isBlank c || c = '\n')
  | _ => none

theorem length_skipContinuation_lt {text rest : List Char}
    (skipped : skipContinuation text = some rest) : rest.length < text.length := by
  unfold skipContinuation at skipped
  split at skipped
  · next more found =>
    cases skipped
    have shorter : (skipBlanks text).length ≤ text.length :=
      (List.dropWhile_sublist isBlank).length_le
    rw [found, List.length_cons] at shorter
    exact Nat.lt_of_le_of_lt (List.dropWhile_sublist _).length_le shorter
  · cases skipped

/-- The rest of a basic string over several lines. -/
def longBasicBody : List Char → Except Fault (List Char × List Char)
  | [] => .error .malformed
  | '"' :: '"' :: '"' :: rest => .ok (closingQuotes '"' rest)
  | '\\' :: 'u' :: c₁ :: c₂ :: c₃ :: c₄ :: rest => do
    prepend (← codePoint [c₁, c₂, c₃, c₄]) (longBasicBody rest)
  | '\\' :: 'U' :: c₁ :: c₂ :: c₃ :: c₄ :: c₅ :: c₆ :: c₇ :: c₈ :: rest => do
    prepend (← codePoint [c₁, c₂, c₃, c₄, c₅, c₆, c₇, c₈]) (longBasicBody rest)
  | '\\' :: c :: rest =>
    match escape? c with
    | some c => prepend c (longBasicBody rest)
    | none =>
      match skipped : skipContinuation (c :: rest) with
      | some after =>
        have := length_skipContinuation_lt skipped
        longBasicBody after
      | none => .error .malformed
  | c :: rest =>
    if isControl c && c != '\n' then .error .malformed else prepend c (longBasicBody rest)
termination_by text => text.length
decreasing_by all_goals simp only [List.length_cons] at *; omega

/-- The rest of a literal string over several lines. -/
def longLiteralBody : List Char → Except Fault (List Char × List Char)
  | [] => .error .malformed
  | '\'' :: '\'' :: '\'' :: rest => .ok (closingQuotes '\'' rest)
  | c :: rest =>
    if isControl c && c != '\n' then .error .malformed else prepend c (longLiteralBody rest)

/-- A string on one line. -/
def shortText : List Char → Except Fault (List Char × List Char)
  | '"' :: rest => basicBody rest
  | '\'' :: rest => literalBody rest
  | _ => .error .malformed

/-- A string of any sort. -/
def quotedText : List Char → Except Fault (List Char × List Char)
  | '"' :: '"' :: '"' :: rest => longBasicBody (skipFirstLineEnd rest)
  | '\'' :: '\'' :: '\'' :: rest => longLiteralBody (skipFirstLineEnd rest)
  | text => shortText text

/-! ### Keys -/

/-- A character of a key without quotes. -/
def isKeyChar (c : Char) : Bool := c.isAlphanum || c = '-' || c = '_'

/-- One part of a dotted key, and the text after the blanks behind it. -/
def keyPart (text : List Char) : Except Fault (String × List Char) :=
  match text.takeWhile isKeyChar with
  | [] => do
    let (part, rest) ← shortText text
    return (String.ofList part, skipBlanks rest)
  | part => .ok (String.ofList part, skipBlanks (text.dropWhile isKeyChar))

/-- A dotted key, and the text after the blanks behind it. -/
def key (text : List Char) : Except Fault (List String × List Char) := do
  let (part, rest) ← keyPart text
  match rest with
  | '.' :: rest =>
    let next := skipBlanks rest
    if _shorter : next.length < text.length then
      let (parts, rest) ← key next
      return (part :: parts, rest)
    else .error .malformed
  | _ => return ([part], rest)
termination_by text.length

end Calculator.Toml
