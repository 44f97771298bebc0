/-
**Numbers as text.**

* `text`: a number in the fewest digits that read back, `inf`, `-inf` or `nan`.
* `literalText`: the same, but an integral number in all its digits and without a sign on zero.
* `truncatedText`: the integer part of a number.
* `readNumber`: the number that a decimal text spells.

Written plainly, a number has at least one digit on both sides of the point; from 10 ^ 16 on and
below 10 ^ -4 it has an exponent, with its sign and at least two digits.
-/

import Calculator.Binary64.Shortest

namespace Calculator.Binary64

/-! ### Layout -/

/-- The decimal digits of a number, highest first. -/
def digitChars (number : Nat) : List Char := Nat.toDigits 10 number

/-- The exponents of the leading digit that are written plainly. -/
def isPlain (leading : Int) : Bool := -4 ≤ leading ∧ leading < 16

/-- The exponent behind the letter e, with its sign and two digits at least. -/
def exponentText (leading : Int) : List Char :=
  let size := digitChars leading.natAbs
  (if leading < 0 then '-' else '+') :: (List.replicate (2 - size.length) '0' ++ size)

/-- The digits with their point, or with their exponent. -/
def layout (decimal : Digits) : List Char :=
  let chars := digitChars decimal.digits
  let leading : Int := chars.length - 1 + decimal.exponent
  if isPlain leading then
    if 0 ≤ decimal.exponent then
      chars ++ List.replicate decimal.exponent.toNat '0' ++ ['.', '0']
    else if 0 ≤ leading then
      chars.take (leading.toNat + 1) ++ '.' :: chars.drop (leading.toNat + 1)
    else
      '0' :: '.' :: (List.replicate (-leading - 1).toNat '0' ++ chars)
  else
    let fraction := if chars.length = 1 then [] else '.' :: chars.drop 1
    chars.take 1 ++ fraction ++ 'e' :: exponentText leading

/-! ### Writing -/

/-- The sign that is written, before the magnitude. -/
def signed (negative : Bool) (magnitude : List Char) : String :=
  String.ofList (if negative then '-' :: magnitude else magnitude)

/-- The number in the fewest digits that read back. -/
def text (x : Float) : String :=
  match shape x with
  | .notANumber => "nan"
  | .infinite negative => signed negative ['i', 'n', 'f']
  | .finite negative rank =>
    signed negative (if rank = 0 then ['0', '.', '0'] else layout (shortest rank))

/-- The integer with this sign and magnitude; zero has no sign. -/
def integerText (negative : Bool) (magnitude : Nat) : String :=
  signed (negative && magnitude != 0) (digitChars magnitude)

/-- The number as a literal is written: an integral one exactly, in all its digits. -/
def literalText (x : Float) : String :=
  match shape x with
  | .finite negative rank =>
    if units rank % unitsPerOne = 0 then integerText negative (units rank / unitsPerOne)
    else text x
  | _ => text x

/-- Why a number has no integer part. -/
inductive NoInteger where
  | infinite
  | notANumber
  deriving DecidableEq, Repr

/-- The number without its fraction, written out. -/
def truncatedText (x : Float) : Except NoInteger String :=
  match shape x with
  | .notANumber => .error .notANumber
  | .infinite _ => .error .infinite
  | .finite negative rank => .ok (integerText negative (units rank / unitsPerOne))

/-! ### Reading -/

/-- The value of an ASCII digit. -/
def digitValue (c : Char) : Nat := c.toNat - '0'.toNat

/-- The number that a run of ASCII digits spells. -/
def naturalOf (digits : List Char) : Nat :=
  digits.foldl (fun value c => 10 * value + digitValue c) 0

/-- The exponent that a text spells, `e` and an optional sign before its digits. -/
def readExponent : List Char → Option Int
  | [] => some 0
  | mark :: rest =>
    let (negative, digits) := match rest with
      | '-' :: digits => (true, digits)
      | '+' :: digits => (false, digits)
      | digits => (false, digits)
    if (mark = 'e' ∨ mark = 'E') ∧ digits ≠ [] ∧ digits.all Char.isDigit then
      some (if negative then -(naturalOf digits : Int) else naturalOf digits)
    else none

/-- The decimal that an unsigned text spells, with an optional point and an optional exponent. -/
def readDecimal (negative : Bool) (text : List Char) : Option Decimal :=
  let whole := text.takeWhile Char.isDigit
  let afterWhole := text.dropWhile Char.isDigit
  let (fraction, afterFraction) := match afterWhole with
    | '.' :: rest => (rest.takeWhile Char.isDigit, rest.dropWhile Char.isDigit)
    | rest => ([], rest)
  if whole = [] ∧ fraction = [] then none
  else (readExponent afterFraction).map fun exponent =>
    ⟨negative, naturalOf (whole ++ fraction), exponent - fraction.length⟩

/-- The names of infinity. -/
def infinityNames : List (List Char) :=
  [['i', 'n', 'f'], ['i', 'n', 'f', 'i', 'n', 'i', 't', 'y']]

/-- The number that an unsigned text spells. -/
def readMagnitude (negative : Bool) (text : List Char) : Option Float :=
  let name := text.map Char.toLower
  if name ∈ infinityNames then some (ofRank negative infinityRank)
  else if name = ['n', 'a', 'n'] then some (0 / 0)
  else (readDecimal negative text).map ofDecimal

/-- The number that a text spells: a decimal, infinity or NaN by name, with an optional sign. -/
def readNumber : List Char → Option Float
  | '-' :: rest => readMagnitude true rest
  | '+' :: rest => readMagnitude false rest
  | rest => readMagnitude false rest

end Calculator.Binary64
