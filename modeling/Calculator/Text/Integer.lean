/-
**Integers in decimal.**

* `decimalDigit?`: the value of a decimal digit, in any script that has ten of them (Unicode 14.0,
  general category Nd).
* `readInteger`: the integer that a text spells.
* `isSpellable`: whether an integer is written at all.

Every range of the table holds whole runs of ten digits in ascending order, so the value of a digit is
the distance from the start of the range, modulo ten.

The spelling is a run of decimal digits of any script, single underscores between them allowed, with
an optional sign in front and blanks around it. The information separators are no blanks here. A run
of more than `digitLimit` digits is refused, whatever its value, and an integer that takes more is
not written.
-/

import Calculator.Text.Basic

namespace Calculator.Text

/-! ### Digits -/

/-- The decimal digits, in runs of ten from zero to nine. -/
def decimalDigits : CodePoints where
  ranges := [
   (0x0030, 0x0039), (0x0660, 0x0669), (0x06F0, 0x06F9), (0x07C0, 0x07C9), (0x0966, 0x096F),
   (0x09E6, 0x09EF), (0x0A66, 0x0A6F), (0x0AE6, 0x0AEF), (0x0B66, 0x0B6F), (0x0BE6, 0x0BEF),
   (0x0C66, 0x0C6F), (0x0CE6, 0x0CEF), (0x0D66, 0x0D6F), (0x0DE6, 0x0DEF), (0x0E50, 0x0E59),
   (0x0ED0, 0x0ED9), (0x0F20, 0x0F29), (0x1040, 0x1049), (0x1090, 0x1099), (0x17E0, 0x17E9),
   (0x1810, 0x1819), (0x1946, 0x194F), (0x19D0, 0x19D9), (0x1A80, 0x1A89), (0x1A90, 0x1A99),
   (0x1B50, 0x1B59), (0x1BB0, 0x1BB9), (0x1C40, 0x1C49), (0x1C50, 0x1C59), (0xA620, 0xA629),
   (0xA8D0, 0xA8D9), (0xA900, 0xA909), (0xA9D0, 0xA9D9), (0xA9F0, 0xA9F9), (0xAA50, 0xAA59),
   (0xABF0, 0xABF9), (0xFF10, 0xFF19), (0x104A0, 0x104A9), (0x10D30, 0x10D39), (0x11066, 0x1106F),
   (0x110F0, 0x110F9), (0x11136, 0x1113F), (0x111D0, 0x111D9), (0x112F0, 0x112F9),
   (0x11450, 0x11459), (0x114D0, 0x114D9), (0x11650, 0x11659), (0x116C0, 0x116C9),
   (0x11730, 0x11739), (0x118E0, 0x118E9), (0x11950, 0x11959), (0x11C50, 0x11C59),
   (0x11D50, 0x11D59), (0x11DA0, 0x11DA9), (0x16A60, 0x16A69), (0x16AC0, 0x16AC9),
   (0x16B50, 0x16B59), (0x1D7CE, 0x1D7FF), (0x1E140, 0x1E149), (0x1E2F0, 0x1E2F9),
   (0x1E950, 0x1E959), (0x1FBF0, 0x1FBF9)]

/-- The value of a decimal digit. -/
def decimalDigit? (c : Char) : Option Nat :=
  (decimalDigits.rangeOf? c).map fun range => (c.toNat - range.1) % 10

/-! ### Spellings -/

/-- The longest run of digits that is read or written. -/
def digitLimit : Nat := 4300

/-- The blanks that may surround an integer. -/
def isPadding (c : Char) : Bool := isBlank c && !(0x1C ≤ c.toNat && c.toNat ≤ 0x1F)

/-- The values of digits that single underscores may part; `some` holds one digit at least. -/
def digitRun : List Char → Option (List Nat)
  | [] => none
  | [c] => (decimalDigit? c).map ([·])
  | c :: '_' :: rest => do return (← decimalDigit? c) :: (← digitRun rest)
  | c :: rest => do return (← decimalDigit? c) :: (← digitRun rest)

/-- The number that digits spell, the first of them being the highest. -/
def ofDigits (digits : List Nat) : Nat := digits.foldl (fun value digit => 10 * value + digit) 0

/-- The natural number that an unsigned spelling stands for. -/
def readNatural (text : List Char) : Option Nat := do
  let digits ← digitRun text
  if digits.length ≤ digitLimit then some (ofDigits digits) else none

/-- The integer that a text spells. -/
def readInteger (text : List Char) : Option Int :=
  match trimBy isPadding text with
  | '-' :: rest => (readNatural rest).map fun value => -(value : Int)
  | '+' :: rest => (readNatural rest).map fun value => (value : Int)
  | unsigned => (readNatural unsigned).map fun value => (value : Int)

/-- The integer takes few enough digits to be written. -/
def isSpellable (number : Int) : Bool := number.natAbs < Nat.pow 10 digitLimit

end Calculator.Text
