/-
**Numbers that are integers, and their digits.**

* `units_binade`: the magnitude at a rank, by its binade and its significand.
* `nearestRank_units`: a natural number that the format holds is nearest to itself.
* `unitsPerOne_dvd_units_nearestRank`: the number nearest to a natural number is one.
* `naturalOf_digitChars`: the digits of a natural number spell it; `literalText_ofRank`: the literal of an
  integer is its digits.
-/

import Mathlib.Algebra.Group.Nat.Defs
import Calculator.Binary64.Notation

namespace Calculator.Binary64

/-! ### Quotients without remainder -/

theorem roundHalfEven_mul (quotient : Nat) {denominator : Nat} (positive : 0 < denominator) :
    roundHalfEven (quotient * denominator) denominator = quotient := by
  unfold roundHalfEven
  rw [Nat.mul_div_cancel _ positive, Nat.mul_mod_left]
  exact if_pos (.inl positive)

/-! ### Binades and significands -/

theorem two_pow_52 : 2 ^ 52 = binadeSize := rfl

/-- One is a power of two of units, and a normal number. -/
theorem exists_unitsPerOne_eq : ∃ scale, unitsPerOne = 2 ^ scale ∧ 52 ≤ scale := by
  have normal : 52 ≤ 1074 := by decide
  unfold unitsPerOne
  generalize 1074 = scale at *
  exact ⟨scale, Nat.pow_eq, normal⟩

/-- The magnitude at a rank, by its binade and its significand; a significand that carries into the
next binade is allowed. -/
theorem units_binade {binade significand : Nat} (low : binade = 0 ∨ binadeSize ≤ significand)
    (high : significand ≤ 2 * binadeSize) :
    units (binade * binadeSize + significand) = significand * 2 ^ binade := by
  unfold units binadeSize at *
  by_cases small : binade * 4503599627370496 + significand < 4503599627370496
  · rw [if_pos small]
    have zero : binade = 0 := by omega
    subst zero
    omega
  · rw [if_neg small]
    by_cases carry : significand = 2 * 4503599627370496
    · have quotient : (binade * 4503599627370496 + significand) / 4503599627370496 - 1 =
          binade + 1 := by omega
      have remainder : (binade * 4503599627370496 + significand) % 4503599627370496 = 0 := by omega
      rw [quotient, remainder, Nat.add_zero, carry]
      show 4503599627370496 * 2 ^ (binade + 1) = _
      rw [Nat.pow_succ, Nat.mul_comm (2 ^ binade) 2, ← Nat.mul_assoc,
        Nat.mul_comm 4503599627370496 2]
    · have quotient : (binade * 4503599627370496 + significand) / 4503599627370496 - 1 =
          binade := by omega
      have remainder : 4503599627370496 +
          (binade * 4503599627370496 + significand) % 4503599627370496 = significand := by omega
      rw [quotient, remainder]
      rfl

theorem exists_binade (rank : Nat) :
    ∃ binade significand, rank = binade * binadeSize + significand ∧
      (binade = 0 ∨ binadeSize ≤ significand) ∧ significand < 2 * binadeSize := by
  unfold binadeSize
  by_cases small : rank < 4503599627370496
  · exact ⟨0, rank, by omega, .inl rfl, by omega⟩
  · refine ⟨rank / 4503599627370496 - 1, 4503599627370496 + rank % 4503599627370496, ?_, ?_, ?_⟩ <;>
      omega

/-- The binade can be read off the magnitude. -/
theorem log2_sub {binade significand : Nat} (low : binade = 0 ∨ binadeSize ≤ significand)
    (high : significand < 2 * binadeSize) : (significand * 2 ^ binade).log2 - 52 = binade := by
  rw [← two_pow_52] at low high
  have power : 0 < 2 ^ binade := Nat.two_pow_pos binade
  by_cases zero : significand = 0
  · subst zero
    rcases low with rfl | impossible
    · rfl
    · exact absurd impossible (by decide)
  · have nonzero : significand * 2 ^ binade ≠ 0 :=
      Nat.mul_ne_zero zero (Nat.ne_of_gt power)
    have above : (significand * 2 ^ binade).log2 < 53 + binade := by
      rw [Nat.log2_lt nonzero, Nat.pow_add]
      exact Nat.mul_lt_mul_of_pos_right high power
    rcases low with rfl | low
    · omega
    · have below : 52 + binade ≤ (significand * 2 ^ binade).log2 := by
        rw [Nat.le_log2 nonzero, Nat.pow_add]
        exact Nat.mul_le_mul_right _ low
      omega

/-! ### Natural numbers -/

theorem nearestRank_one (number : Nat) :
    nearestRank number 1 = ((number * unitsPerOne).log2 - 52) * binadeSize +
      roundHalfEven (number * unitsPerOne) (2 ^ ((number * unitsPerOne).log2 - 52)) := by
  unfold nearestRank
  dsimp only
  rw [Nat.div_one, Nat.one_mul, Nat.pow_eq]

/-- **A natural number that the format holds is nearest to itself.** -/
theorem nearestRank_units {number rank : Nat} (exact : number * unitsPerOne = units rank) :
    nearestRank number 1 = rank := by
  obtain ⟨binade, significand, rfl, low, high⟩ := exists_binade rank
  rw [units_binade low (Nat.le_of_lt high)] at exact
  rw [nearestRank_one, exact, log2_sub low high, roundHalfEven_mul _ (Nat.two_pow_pos binade)]

/-- The significand that a magnitude is rounded to lies in its binade, or carries into the next. -/
theorem roundHalfEven_binade {scaled binade : Nat} (low : 2 ^ (52 + binade) ≤ scaled)
    (high : scaled < 2 ^ (53 + binade)) :
    binadeSize ≤ roundHalfEven scaled (2 ^ binade) ∧
      roundHalfEven scaled (2 ^ binade) ≤ 2 * binadeSize := by
  obtain ⟨below, above⟩ := @roundHalfEven_near scaled _ (Nat.two_pow_pos binade)
  rw [Nat.pow_add] at low high
  unfold binadeSize
  generalize roundHalfEven scaled (2 ^ binade) = significand at *
  have positive : 0 < 2 ^ binade := Nat.two_pow_pos binade
  generalize 2 ^ binade = power at *
  constructor
  · have scaledLow : 2 * (2 ^ 52 * power) ≤ (2 * significand + 1) * power := by
      rw [Nat.add_mul, Nat.mul_assoc, Nat.one_mul]
      omega
    rw [← Nat.mul_assoc] at scaledLow
    have := Nat.le_of_mul_le_mul_right scaledLow positive
    omega
  · have scaledHigh : (2 * significand) * power < (2 * 2 ^ 53 + 1) * power := by
      rw [Nat.add_mul, Nat.mul_assoc, Nat.mul_assoc, Nat.one_mul]
      omega
    have := Nat.lt_of_mul_lt_mul_right scaledHigh
    omega

/-- **The number nearest to a natural number is one.** -/
theorem unitsPerOne_dvd_units_nearestRank (number : Nat) :
    unitsPerOne ∣ units (nearestRank number 1) := by
  by_cases zero : number = 0
  · subst zero
    have nothing : 0 * unitsPerOne = units 0 := Nat.zero_mul _
    rw [nearestRank_units nothing]
    exact Nat.dvd_zero _
  · rw [nearestRank_one]
    obtain ⟨scale, power, normal⟩ := exists_unitsPerOne_eq
    rw [power]
    have nonzero : number * 2 ^ scale ≠ 0 :=
      Nat.mul_ne_zero zero (Nat.ne_of_gt (Nat.two_pow_pos scale))
    have large : scale ≤ (number * 2 ^ scale).log2 := by
      rw [Nat.le_log2 nonzero]
      exact Nat.le_mul_of_pos_left _ (Nat.pos_of_ne_zero zero)
    obtain ⟨binade, log⟩ := Nat.exists_eq_add_of_le (Nat.le_trans normal large)
    obtain ⟨low, high⟩ := (Nat.log2_eq_iff nonzero).mp log
    obtain ⟨significandLow, significandHigh⟩ :=
      roundHalfEven_binade low (by rwa [Nat.add_right_comm] at high)
    rw [log, Nat.add_sub_cancel_left, units_binade (.inr significandLow) significandHigh]
    by_cases wide : scale ≤ binade
    · exact Nat.dvd_mul_left_of_dvd (Nat.pow_dvd_pow 2 wide) _
    · have exact : number * 2 ^ scale = number * 2 ^ (scale - binade) * 2 ^ binade := by
        rw [Nat.mul_assoc, ← Nat.pow_add, Nat.sub_add_cancel (Nat.le_of_not_le wide)]
      rw [exact, roundHalfEven_mul _ (Nat.two_pow_pos binade), ← exact]
      exact Nat.dvd_mul_left ..

/-! ### Digits -/

theorem naturalOf_digitChars (number : Nat) : naturalOf (digitChars number) = number :=
  Nat.ofDigitChars_ten_toDigits

theorem isDigit_of_mem_digitChars {number : Nat} {c : Char} (member : c ∈ digitChars number) :
    c.isDigit = true :=
  Nat.isDigit_of_mem_toDigits (by decide) (by decide) member

theorem digitChars_ne_nil (number : Nat) : digitChars number ≠ [] :=
  Nat.toDigits_ne_nil

theorem integerText_false (magnitude : Nat) :
    integerText false magnitude = String.ofList (digitChars magnitude) := rfl

/-- **The literal of an integer is its digits.** -/
theorem literalText_ofRank {rank : Nat} (finite : rank < infinityRank)
    (integral : unitsPerOne ∣ units rank) :
    literalText (ofRank false rank) = String.ofList (digitChars (units rank / unitsPerOne)) := by
  rw [literalText, shape_ofRank finite]
  dsimp only
  rw [if_pos (Nat.mod_eq_zero_of_dvd integral), integerText_false]

end Calculator.Binary64
