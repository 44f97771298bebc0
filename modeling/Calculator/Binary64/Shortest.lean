/-
**The fewest digits that name a number.**

* `readsBack`: whether a decimal lies among the reals that round to the number of a rank.
* `shortest`: the decimal with the fewest digits that reads back, the nearest of these to the
  number, and of two equally near ones the even one.

The reals that round to a number reach half way to its two neighbours, and the ends belong to them
if and only if the rank is even. All comparisons are of natural numbers, in half units.
-/

import Calculator.Binary64.Nearest

namespace Calculator.Binary64

/-- A positive decimal value, `digits` · 10 ^ `exponent`. -/
structure Digits where
  digits : Nat
  exponent : Int
  deriving DecidableEq, Repr

/-- Twice the decimal in units, compared with a number of half units. -/
def Digits.compareHalfUnits (decimal : Digits) (halfUnits : Nat) : Ordering :=
  compare (decimal.digits * Nat.pow 10 decimal.exponent.toNat * (2 * unitsPerOne))
    (halfUnits * Nat.pow 10 (-decimal.exponent).toNat)

/-- The decimal rounds to the number of this rank. -/
def readsBack (rank : Nat) (decimal : Digits) : Bool :=
  let low := decimal.compareHalfUnits (units (rank - 1) + units rank)
  let high := decimal.compareHalfUnits (units rank + units (rank + 1))
  let closed := rank % 2 = 0
  (low = .gt ∨ (closed ∧ low = .eq)) ∧ (high = .lt ∨ (closed ∧ high = .eq))

/-- The exponent `k` with 10 ^ (`k` - 1) ≤ value < 10 ^ `k`, for the value of a positive rank. The
factor 10 ^ 324 makes every positive value at least one. -/
def decimalTop (rank : Nat) : Int :=
  digitCount (units rank * Nat.pow 10 324 / unitsPerOne) - 324

/-- The largest multiple of 10 ^ `exponent` that does not exceed the value of the rank. -/
def floorAt (rank : Nat) (exponent : Int) : Digits :=
  ⟨units rank * Nat.pow 10 (-exponent).toNat / (unitsPerOne * Nat.pow 10 exponent.toNat), exponent⟩

/-- Of the value's two neighbours with this exponent, the one to write: one that reads back, the
nearer of two, the even one of two equally near. -/
def candidateAt? (rank : Nat) (exponent : Int) : Option Digits :=
  let below := floorAt rank exponent
  let above : Digits := ⟨below.digits + 1, exponent⟩
  match readsBack rank below, readsBack rank above with
  | true, true =>
    let middle := Digits.compareHalfUnits ⟨2 * below.digits + 1, exponent⟩ (4 * units rank)
    if middle = .gt ∨ (middle = .eq ∧ below.digits % 2 = 0) then some below else some above
  | true, false => some below
  | false, true => some above
  | false, false => none

/-- The first candidate among those with `top - exponent` from `count` digits on, for `more` steps;
where there is none, the exact value. -/
def searchFrom (rank : Nat) (top : Int) (count : Nat) : Nat → Digits
  | 0 => ⟨units rank * Nat.pow 5 1074, -1074⟩
  | more + 1 =>
    match candidateAt? rank (top - count) with
    | some found => found
    | none => searchFrom rank top (count + 1) more

/-- The decimal without trailing zeros; the fuel bounds how many are dropped. -/
def Digits.strip (decimal : Digits) : Nat → Digits
  | 0 => decimal
  | fuel + 1 =>
    if decimal.digits % 10 = 0 then strip ⟨decimal.digits / 10, decimal.exponent + 1⟩ fuel
    else decimal

/-- The decimal that is written for the number of a positive rank; 17 digits are always enough. -/
def shortest (rank : Nat) : Digits :=
  let found := searchFrom rank (decimalTop rank) 1 17
  found.strip (digitCount found.digits)

end Calculator.Binary64
