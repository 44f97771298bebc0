/-
**Binary64 numbers by rank.**

The non-negative numbers of the format, in ascending order, have the ranks 0, 1, 2, …; the rank is
the bit pattern below the sign. Every finite one is a multiple of the least positive one, 2^-1074.

* `units`: the multiple that stands at a rank.
* `ofRank`: the number with a given sign and rank; ranks past infinity give infinity.
* `copySign`: a magnitude under the sign of another number.
* `shape`: what a number is, with its sign and rank where it has them.
* `shape_ofRank`: the two agree.
-/

namespace Calculator.Binary64

/-! ### Ranks and magnitudes -/

/-- How many numbers lie between a power of two and the next one: 2^52. -/
def binadeSize : Nat := 4503599627370496

/-- The weight of the sign in a bit pattern: 2^63. -/
def signWeight : Nat := 9223372036854775808

/-- The rank of infinity: one more than that of the largest finite number. -/
def infinityRank : Nat := 2047 * binadeSize

/-- The magnitude at a rank, in multiples of 2^-1074: a subnormal number is its own rank, and the
normal ones of each binade are spaced by a power of two. -/
def units (rank : Nat) : Nat :=
  if rank < binadeSize then rank
  else (binadeSize + rank % binadeSize) * Nat.pow 2 (rank / binadeSize - 1)

/-- How many units make one. -/
def unitsPerOne : Nat := Nat.pow 2 1074

/-! ### Numbers -/

/-- The bit pattern of a sign and a rank. -/
def bitsOf (negative : Bool) (rank : Nat) : UInt64 :=
  UInt64.ofNat ((if negative then signWeight else 0) + min rank infinityRank)

theorem toNat_bitsOf (negative : Bool) (rank : Nat) :
    (bitsOf negative rank).toNat =
      (if negative then signWeight else 0) + min rank infinityRank := by
  rw [bitsOf, UInt64.toNat_ofNat', Nat.mod_eq_of_lt]
  have bound : min rank infinityRank ≤ infinityRank := Nat.min_le_right ..
  simp only [infinityRank, binadeSize, signWeight] at bound ⊢
  split <;> omega

/-- A pattern of a sign and a rank is never a NaN. -/
theorem valid_bitsOf (negative : Bool) (rank : Nat) :
    Float.Model.Format.binary64.Valid (bitsOf negative rank).toBitVec := by
  refine ⟨fun exponent mantissa => absurd ?_ mantissa⟩
  have value := toNat_bitsOf negative rank
  have bound : min rank infinityRank ≤ infinityRank := Nat.min_le_right ..
  rw [← UInt64.toNat_toBitVec] at value
  apply BitVec.eq_of_toNat_eq
  have high := congrArg BitVec.toNat exponent
  simp only [Float.Model.UnpackedFloat.unpackExponent, Float.Model.UnpackedFloat.unpackMantissa,
    BitVec.toNat_cast, BitVec.extractLsb_toNat, Nat.shiftRight_eq_div_pow] at high ⊢
  generalize (bitsOf negative rank).toBitVec.toNat = pattern at *
  generalize min rank infinityRank = capped at *
  simp only [infinityRank, binadeSize] at bound
  simp only [signWeight] at value
  simp at high ⊢
  split at value <;> omega

/-- The number with this sign and rank; past the finite ones, infinity. -/
def ofRank (negative : Bool) (rank : Nat) : Float :=
  .ofModel ⟨bitsOf negative rank, valid_bitsOf negative rank⟩

/-- Whether the sign is set, as it is on a negative zero too. -/
def isNegative (x : Float) : Bool := decide (signWeight ≤ x.toBits.toNat)

/-- What is not a number. -/
def nan : Float := 0 / 0

/-- Positive infinity. -/
def infinity : Float := ofRank false infinityRank

/-- The magnitude of one number under the sign of another. -/
def copySign (magnitude sign : Float) : Float :=
  if isNegative magnitude = isNegative sign then magnitude else -magnitude

/-- What a number is. -/
inductive Shape where
  | notANumber
  | infinite (negative : Bool)
  | finite (negative : Bool) (rank : Nat)
  deriving DecidableEq, Repr

/-- What the number is: its sign is the highest bit, its rank the bits below. -/
def shape (x : Float) : Shape :=
  let rank := x.toBits.toNat % signWeight
  if infinityRank < rank then .notANumber
  else if rank = infinityRank then .infinite (isNegative x)
  else .finite (isNegative x) rank

theorem shape_ofRank {negative : Bool} {rank : Nat} (finite : rank < infinityRank) :
    shape (ofRank negative rank) = .finite negative rank := by
  have bits : (ofRank negative rank).toBits.toNat =
      (if negative then signWeight else 0) + min rank infinityRank := toNat_bitsOf negative rank
  rw [Nat.min_eq_left (Nat.le_of_lt finite)] at bits
  have small : rank < signWeight := by
    simp only [infinityRank, binadeSize, signWeight] at finite ⊢
    omega
  simp only [shape, isNegative, bits]
  cases negative
  · simp only [Bool.false_eq_true, if_false, Nat.zero_add, Nat.mod_eq_of_lt small]
    rw [if_neg (by omega), if_neg (by omega)]
    simp only [Nat.not_le.mpr small, decide_false]
  · simp only [if_true, Nat.add_mod_left, Nat.mod_eq_of_lt small]
    rw [if_neg (by omega), if_neg (by omega)]
    simp only [Nat.le_add_right, decide_true]

end Calculator.Binary64
