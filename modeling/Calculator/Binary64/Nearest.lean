/-
**Rounding to the nearest binary64 number.**

* `roundHalfEven`: a quotient to the nearest integer, a half to the even neighbour.
* `nearestRank`: the rank of the number nearest to a ratio, a half to the even rank.
* `roundHalfEven_near`: the rounded quotient is within half a unit of the exact one.
* `roundHalfEven_even`: of two neighbours equally near it is the even one.

Numbers of a binade are as far apart as a power of two units, so the rank is the number of binades
below, times the size of a binade, plus the rounded multiple of that power. A ratio that rounds up
to the next binade carries into its rank by itself, and one past the largest finite number gets a
rank from infinity's on.
-/

import Calculator.Binary64.Rank

namespace Calculator.Binary64

/-- The integer nearest to `numerator / denominator`; a half goes to the even neighbour. -/
def roundHalfEven (numerator denominator : Nat) : Nat :=
  let quotient := numerator / denominator
  let twice := 2 * (numerator % denominator)
  if twice < denominator ∨ (twice = denominator ∧ quotient % 2 = 0) then quotient
  else quotient + 1

theorem roundHalfEven_near {numerator denominator : Nat} (positive : 0 < denominator) :
    2 * (roundHalfEven numerator denominator * denominator) ≤ 2 * numerator + denominator ∧
      2 * numerator ≤ 2 * (roundHalfEven numerator denominator * denominator) + denominator := by
  have parts : denominator * (numerator / denominator) + numerator % denominator = numerator :=
    Nat.div_add_mod ..
  have small : numerator % denominator < denominator := Nat.mod_lt _ positive
  simp only [roundHalfEven]
  split
  · rw [Nat.mul_comm (numerator / denominator)]
    omega
  · rw [Nat.add_mul, Nat.mul_comm (numerator / denominator), Nat.one_mul]
    omega

theorem roundHalfEven_even {numerator denominator : Nat}
    (half : 2 * (numerator % denominator) = denominator) :
    roundHalfEven numerator denominator % 2 = 0 := by
  simp only [roundHalfEven, half, Nat.lt_irrefl, false_or, true_and]
  generalize numerator / denominator = quotient
  split <;> omega

/-- The rank of the number nearest to `numerator / denominator`. -/
def nearestRank (numerator denominator : Nat) : Nat :=
  let scaled := numerator * unitsPerOne
  let binade := (scaled / denominator).log2 - 52
  binade * binadeSize + roundHalfEven scaled (denominator * Nat.pow 2 binade)

/-- The number nearest to a natural number, or nothing where that is infinity. -/
def ofNatural? (value : Nat) : Option Float :=
  let rank := nearestRank value 1
  if rank < infinityRank then some (ofRank false rank) else none

/-! ### Decimals -/

/-- The value ± `digits` · 10 ^ `exponent`. -/
structure Decimal where
  negative : Bool
  digits : Nat
  exponent : Int
  deriving DecidableEq, Repr

/-- How many decimal digits a number has; zero has none. -/
def digitCount (number : Nat) : Nat :=
  if number = 0 then 0 else digitCount (number / 10) + 1

/-- The rank nearest to `digits` · 10 ^ `exponent`. The value lies below 10 ^ `top` and not below a
tenth of that, so that the two outer cases need no powers of ten. -/
def decimalRank (digits : Nat) (exponent : Int) : Nat :=
  let top : Int := digitCount digits + exponent
  if digits = 0 ∨ top < -330 then 0
  else if 310 < top then infinityRank
  else nearestRank (digits * Nat.pow 10 exponent.toNat) (Nat.pow 10 (-exponent).toNat)

/-- The number nearest to a decimal; one too large for the finite numbers gives infinity. -/
def ofDecimal (decimal : Decimal) : Float :=
  ofRank decimal.negative (decimalRank decimal.digits decimal.exponent)

end Calculator.Binary64
