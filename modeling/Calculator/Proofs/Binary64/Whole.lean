/-
**Numbers that are natural numbers.**

* `eq_ofRank_of_shape`: a finite number is the one of its sign and rank.
* `IsWhole`: the number is a natural number, with the sign of one.
* `isWhole_iff`: these are the numbers that digits spell.
* `IsWhole.exists_digits`: such a number is written in digits that spell it.
-/

import Calculator.Proofs.Binary64.Exact
import Mathlib

namespace Calculator.Binary64

/-- **A finite number is the one of its sign and rank.** -/
theorem eq_ofRank_of_shape {x : Float} {negative : Bool} {rank : Nat}
    (finite : shape x = .finite negative rank) : rank < infinityRank ∧ x = ofRank negative rank := by
  have bound : x.toBits.toNat < 2 * signWeight := x.toBits.toNat_lt
  unfold shape at finite
  dsimp only at finite
  split at finite
  · cases finite
  split at finite
  · cases finite
  · next notBehind notThere =>
    obtain ⟨rfl, rfl⟩ := Shape.finite.inj finite
    have low : x.toBits.toNat % signWeight < infinityRank := by omega
    refine ⟨low, Float.toBits_inj.mp (UInt64.toNat_inj.mp ?_)⟩
    show x.toBits.toNat = (bitsOf _ _).toNat
    rw [toNat_bitsOf, Nat.min_eq_left (Nat.le_of_lt low), isNegative]
    by_cases negative : signWeight ≤ x.toBits.toNat
    · rw [if_pos (decide_eq_true negative), Nat.mod_eq_sub_mod negative, Nat.mod_eq_of_lt (by omega)]
      omega
    · rw [if_neg (by rwa [decide_eq_true_eq]), Nat.mod_eq_of_lt (Nat.lt_of_not_le negative), Nat.zero_add]

theorem ofNatural?_eq_some_iff {number : Nat} {x : Float} :
    ofNatural? number = some x ↔
      nearestRank number 1 < infinityRank ∧ ofRank false (nearestRank number 1) = x := by
  unfold ofNatural?
  dsimp only
  split
  · next finite => rw [Option.some.injEq, and_iff_right finite]
  · next infinite => exact iff_of_false (fun none => nomatch none) (fun both => infinite both.1)

/-- The number is a natural number, and not the negative zero. -/
def IsWhole (x : Float) : Prop := ∃ rank, shape x = .finite false rank ∧ unitsPerOne ∣ units rank

/-- **A natural number is written in digits that spell it**, as a literal and as the integer part of a
number. -/
theorem IsWhole.exists_digits {x : Float} (whole : IsWhole x) :
    ∃ number, truncatedText x = .ok (String.ofList (digitChars number)) ∧
      literalText x = String.ofList (digitChars number) ∧ ofNatural? number = some x := by
  obtain ⟨rank, finite, integral⟩ := whole
  obtain ⟨low, rfl⟩ := eq_ofRank_of_shape finite
  refine ⟨units rank / unitsPerOne, ?_, literalText_ofRank low integral, ?_⟩
  · rw [truncatedText, finite]
    dsimp only
    rw [integerText_false]
  · rw [ofNatural?_eq_some_iff, nearestRank_units (Nat.div_mul_cancel integral)]
    exact ⟨low, rfl⟩

/-- **The natural numbers of the format are the numbers that digits spell.** -/
theorem isWhole_iff {x : Float} : IsWhole x ↔ ∃ number, ofNatural? number = some x := by
  constructor
  · intro whole
    obtain ⟨number, -, -, read⟩ := whole.exists_digits
    exact ⟨number, read⟩
  · rintro ⟨number, read⟩
    obtain ⟨low, rfl⟩ := ofNatural?_eq_some_iff.mp read
    exact ⟨_, shape_ofRank low, unitsPerOne_dvd_units_nearestRank number⟩

end Calculator.Binary64
