/-
**Zeros and quotients by them.**

* `beq_zero_iff`: the numbers that compare equal to zero are the zero of either sign, and no other.
* `ofBitVec_unpackSign`: the sign of what a pattern stands for is its highest bit.
* `div_zero`: the quotient by a zero in the cases that `copySign` tells apart.

A quotient by a zero is never rounded, so it depends on what the dividend's pattern stands for and on
the two signs alone.
-/

import Calculator.Binary64.Rank
import Mathlib

namespace Calculator.Binary64

open Float.Model (UnpackedFloat Format)

/-- **What compares equal to zero is a zero of either sign.** -/
theorem beq_zero_iff (x : Float) : (x == 0) = true ↔ x = 0 ∨ x = -0 := by
  have number : (0 : Float) ≠ Float.nan := by decide
  rw [Float.beq_iff_ne_nan_and_eq]
  constructor
  · rintro ⟨-, -, positive | ⟨positive, -⟩ | ⟨negative, -⟩⟩
    · exact .inl positive
    · exact .inl positive
    · exact .inr negative
  · rintro (rfl | rfl)
    · exact ⟨number, number, .inl rfl⟩
    · exact ⟨by decide, number, .inr (.inr ⟨rfl, rfl⟩)⟩

/-! ### Quotients by a zero -/

/-- The sign of a number, in the form that patterns are unpacked to. -/
def signOf (x : Float) : UnpackedFloat.Sign := if isNegative x then .negative else .positive

/-- The sign of what a pattern stands for is its highest bit. -/
theorem ofBitVec_unpackSign (x : Float) :
    .ofBitVec (@UnpackedFloat.unpackSign Format.binary64 x.toModel.toBits.toBitVec) = signOf x := by
  have highest : @UnpackedFloat.unpackSign Format.binary64 x.toModel.toBits.toBitVec = 0#1 ↔
      ¬ signWeight ≤ x.toBits.toNat := by
    have bound := x.toBits.toBitVec.isLt
    rw [← BitVec.toNat_inj, UnpackedFloat.unpackSign, BitVec.toNat_cast,
      BitVec.extractLsb_toNat, Nat.shiftRight_eq_div_pow]
    show x.toBits.toNat / 2 ^ 63 % 2 = 0 ↔ _
    rw [UInt64.toNat_toBitVec] at bound
    rw [signWeight]
    omega
  rw [UnpackedFloat.Sign.ofBitVec, signOf, isNegative]
  by_cases negative : signWeight ≤ x.toBits.toNat
  · rw [if_neg (mt highest.mp (not_not_intro negative)), if_pos (decide_eq_true negative)]
  · rw [if_pos (highest.mpr negative), if_neg (mt of_decide_eq_true negative)]

/-- What is neither a zero nor a NaN has an infinite quotient by a zero. -/
theorem div_zero_eq_infinity {x : Float} (nonzero : ¬ (x == 0) = true) (number : x.isNaN = false)
    (sign : UnpackedFloat.Sign) :
    UnpackedFloat.div Format.binary64 x.toModel.unpack (.zero sign) = .infinity (signOf x / sign) := by
  change ¬ x.toModel.unpack.beq (.zero .positive) = true at nonzero
  change x.toModel.unpack.isNaN = false at number
  rw [← ofBitVec_unpackSign]
  rw [Float.Model.unpack] at nonzero number ⊢
  generalize x.toModel.toBits.toBitVec = bits at *
  revert nonzero number
  -- an infinity, a NaN, a zero, a subnormal and a normal number
  fun_cases UnpackedFloat.unpack Format.binary64 bits with
  | case2 => exact fun _ number => nomatch number
  | case3 => exact fun nonzero => absurd rfl nonzero
  | case1 | case4 | case5 => exact fun _ _ => rfl

/-- **The quotient by a zero.** It is NaN where a zero or a NaN is divided, and an infinity with the
signs of both otherwise. -/
theorem div_zero (x : Float) {y : Float} (zero : (y == 0) = true) :
    x / y = if x == 0 || x.isNaN then nan else copySign infinity x * copySign 1 y := by
  rw [beq_zero_iff] at zero
  by_cases undefined : (x == 0 || x.isNaN) = true
  · rw [if_pos undefined]
    rw [Bool.or_eq_true, beq_zero_iff, Float.isNaN_eq_decide_eq_nan, decide_eq_true_eq] at undefined
    rcases undefined with (rfl | rfl) | rfl <;> rcases zero with rfl | rfl <;> decide +kernel
  · rw [if_neg undefined]
    rw [Bool.or_eq_true, not_or, Bool.not_eq_true x.isNaN] at undefined
    have quotient (sign : UnpackedFloat.Sign) (here : y.toModel.unpack = .zero sign) :
        x / y = .ofModel (.pack (.infinity (signOf x / sign))) := by
      rw [← div_zero_eq_infinity undefined.1 undefined.2, ← here]
      rfl
    rcases zero with rfl | rfl
    · rw [quotient .positive rfl, signOf, copySign]
      cases isNegative x <;> decide +kernel
    · rw [quotient .negative rfl, signOf, copySign]
      cases isNegative x <;> decide +kernel

end Calculator.Binary64
