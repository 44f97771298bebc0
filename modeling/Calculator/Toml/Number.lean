/-
**TOML: numbers.**

* `digitRun`: digits with single underscores between them, read as far as they go.
* `unsigned`: a decimal integer, a number with a point or an exponent, an infinity or NaN.
* `number`: any number, with a sign or in base sixteen, eight or two.

A decimal integer has no leading zeros. One with more digits than a text may spell is a fault of its
own, since it is well formed.
-/

import Calculator.Data.Value
import Calculator.Text.Integer
import Calculator.Toml.Text

namespace Calculator.Toml

/-! ### Runs of digits -/

/-- Digits, each with at most one underscore in front. -/
def moreDigits (isDigit : Char → Bool) : List Char → List Char × List Char
  | '_' :: c :: rest =>
    if isDigit c then
      let (digits, after) := moreDigits isDigit rest
      (c :: digits, after)
    else ([], '_' :: c :: rest)
  | c :: rest =>
    if isDigit c then
      let (digits, after) := moreDigits isDigit rest
      (c :: digits, after)
    else ([], c :: rest)
  | [] => ([], [])

/-- Digits with single underscores between them, and the text after them. -/
def digitRun (isDigit : Char → Bool) : List Char → List Char × List Char
  | [] => ([], [])
  | c :: rest =>
    if isDigit c then
      let (digits, after) := moreDigits isDigit rest
      (c :: digits, after)
    else ([], c :: rest)

/-- The base that a letter behind a zero stands for. -/
def base? : Char → Option Nat
  | 'x' => some 16
  | 'o' => some 8
  | 'b' => some 2
  | _ => none

/-- The character is a digit of a base up to sixteen. -/
def isDigitOf (base : Nat) (c : Char) : Bool := (hexDigit? c).any (· < base)

/-- The number that digits of a base spell. -/
def numeral (base : Nat) (digits : List Char) : Nat :=
  digits.foldl (fun value c => base * value + (hexDigit? c).getD 0) 0

/-! ### Decimal numbers -/

/-- The digits before the point: a zero alone, or digits that do not start with one. -/
def wholePart : List Char → List Char × List Char
  | '0' :: rest => (['0'], rest)
  | text => digitRun Char.isDigit text

/-- The digits behind a point, if there is one with digits behind it. -/
def fractionPart : List Char → Option (List Char × List Char)
  | '.' :: rest =>
    match digitRun Char.isDigit rest with
    | ([], _) => none
    | found => some found
  | _ => none

/-- The exponent behind its letter, if there is one with digits behind it. -/
def exponentPart : List Char → Option (Int × List Char)
  | mark :: rest =>
    if mark = 'e' ∨ mark = 'E' then
      let (negative, text) := match rest with
        | '-' :: text => (true, text)
        | '+' :: text => (false, text)
        | text => (false, text)
      match digitRun Char.isDigit text with
      | ([], _) => none
      | (digits, after) =>
        let size : Int := numeral 10 digits
        some (if negative then -size else size, after)
    else none
  | [] => none

/-- The decimal number with this sign and these digits before the point, `text` following them. -/
def decimal (negative : Bool) (whole text : List Char) : Except Fault (Value × List Char) :=
  match fractionPart text, exponentPart text with
  | none, none =>
    if Text.digitLimit < whole.length then .error .integerTooLong
    else
      let size : Int := numeral 10 whole
      .ok (.integer (if negative then -size else size), text)
  | some (fraction, text), _ =>
    let (exponent, text) := (exponentPart text).getD (0, text)
    .ok (.float (Binary64.ofDecimal
      ⟨negative, numeral 10 (whole ++ fraction), exponent - fraction.length⟩), text)
  | none, some (exponent, text) =>
    .ok (.float (Binary64.ofDecimal ⟨negative, numeral 10 whole, exponent⟩), text)

/-- The number that follows a sign, if there is one. -/
def unsigned (negative : Bool) (text : List Char) : Except Fault (Value × List Char) :=
  match text with
  | 'i' :: 'n' :: 'f' :: rest =>
    .ok (.float (Binary64.ofRank negative Binary64.infinityRank), rest)
  | 'n' :: 'a' :: 'n' :: rest => .ok (.float Binary64.nan, rest)
  | _ =>
    match wholePart text with
    | ([], _) => .error .malformed
    | (whole, rest) => decimal negative whole rest

/-! ### Numbers -/

/-- A number. -/
def number (text : List Char) : Except Fault (Value × List Char) :=
  match text with
  | '-' :: rest => unsigned true rest
  | '+' :: rest => unsigned false rest
  | '0' :: mark :: rest =>
    match base? mark with
    | none => unsigned false text
    | some base =>
      match digitRun (isDigitOf base) rest with
      | ([], _) => .error .malformed
      | (digits, after) => .ok (.integer (numeral base digits), after)
  | _ => unsigned false text

end Calculator.Toml
