/-
**Natural numbers are rounded to the nearest number of the format, a half to the even one.**

* `units_strictMono`: magnitudes grow with their ranks.
* `RoundsTo`: a magnitude lies within the half way points around a rank, and on one of them only if the
  rank is even; `RoundsTo.le`: ranks grow with the magnitudes that round to them.
* `roundsTo_nearestRank`: a natural number rounds to the rank nearest to it.
* `rational?`: the value of a finite number; `IsNearest`: no finite number is nearer.
* `ofNatural?_eq_some_iff_isNearest`: a natural number is read as the number nearest to it, if it lies
  below `overflow`, and not at all from there on.

A magnitude half way between two binades is compared with neighbours that are not equally far from their
common end, so the lower neighbour of a power of two has a case of its own.
-/

import Mathlib.Algebra.Order.Field.Rat
import Mathlib.Order.Monotone.Basic
import Mathlib.Tactic.Linarith
import Calculator.Proofs.Binary64.Whole

namespace Calculator.Binary64

/-! ### Magnitudes and their order -/

/-- Within a binade the next magnitude is a power of two further up. -/
theorem units_succ {binade significand : Nat} (low : binade = 0 ∨ binadeSize ≤ significand)
    (high : significand < 2 * binadeSize) :
    units (binade * binadeSize + significand + 1) =
      units (binade * binadeSize + significand) + 2 ^ binade := by
  have further : binade = 0 ∨ binadeSize ≤ significand + 1 := low.imp_right Nat.le_succ_of_le
  rw [Nat.add_assoc, units_binade further high, units_binade low (Nat.le_of_lt high), Nat.add_mul,
    Nat.one_mul]

/-- **Magnitudes grow with their ranks.** -/
theorem units_strictMono : StrictMono units := by
  refine strictMono_nat_of_lt_succ fun rank => ?_
  obtain ⟨binade, significand, rfl, low, high⟩ := exists_binade rank
  rw [units_succ low high]
  exact Nat.lt_add_of_pos_right (Nat.two_pow_pos binade)

/-! ### Half way points -/

/-- The magnitude lies within the half way points around the magnitude of the rank, and on one of them
only if the rank is even. -/
structure RoundsTo (scaled rank : Nat) : Prop where
  below : ∀ lower < rank, units lower + units rank ≤ 2 * scaled
  above : ∀ higher > rank, 2 * scaled ≤ units rank + units higher
  even : ∀ other ≠ rank, units rank + units other = 2 * scaled → rank % 2 = 0

namespace RoundsTo

variable {scaled scaled' rank rank' : Nat}

/-- The two neighbours of a rank tell whether a magnitude rounds to it. -/
theorem of_neighbours
    (below : ∀ lower, lower + 1 = rank → units lower + units rank ≤ 2 * scaled ∧
      (units lower + units rank = 2 * scaled → rank % 2 = 0))
    (above : 2 * scaled ≤ units rank + units (rank + 1) ∧
      (2 * scaled = units rank + units (rank + 1) → rank % 2 = 0)) :
    RoundsTo scaled rank := by
  have lowerCase (other : Nat) (less : other < rank) : ∃ lower, lower + 1 = rank ∧
      units other ≤ units lower :=
    ⟨rank - 1, by omega, units_strictMono.monotone (by omega)⟩
  have higherCase (other : Nat) (more : rank < other) : units (rank + 1) ≤ units other :=
    units_strictMono.monotone more
  constructor
  · intro other less
    obtain ⟨lower, next, bound⟩ := lowerCase other less
    have here := (below lower next).1
    omega
  · intro other more
    have bound := higherCase other more
    omega
  · intro other different tie
    rcases Nat.lt_or_gt_of_ne different with less | more
    · obtain ⟨lower, next, bound⟩ := lowerCase other less
      have here := (below lower next).1
      exact (below lower next).2 (by omega)
    · have bound := higherCase other more
      exact above.2 (by omega)

/-- **Ranks grow with the magnitudes that round to them.** -/
theorem le (first : RoundsTo scaled rank) (second : RoundsTo scaled' rank') (order : scaled ≤ scaled') :
    rank ≤ rank' := by
  refine Nat.le_of_not_lt fun less => ?_
  have low := first.below rank' less
  have high := second.above rank less
  have evenFirst := first.even rank' (Nat.ne_of_lt less) (by omega)
  have evenSecond := second.even rank (Nat.ne_of_gt less) (by omega)
  -- Both ranks are even, so another one lies between them, and the lower half way point is too low.
  have between := first.below (rank' + 1) (by omega)
  have grows := units_strictMono (Nat.lt_add_one rank')
  omega

theorem unique (first : RoundsTo scaled rank) (second : RoundsTo scaled rank') : rank = rank' :=
  Nat.le_antisymm (first.le second (Nat.le_refl _)) (second.le first (Nat.le_refl _))

end RoundsTo

/-! ### The nearest rank -/

/-- A quotient that is half way between two integers is rounded to the even one. -/
theorem roundHalfEven_mod_two {numerator denominator : Nat} (positive : 0 < denominator)
    (tie : 2 * numerator = 2 * (roundHalfEven numerator denominator * denominator) + denominator ∨
      2 * (roundHalfEven numerator denominator * denominator) = 2 * numerator + denominator) :
    roundHalfEven numerator denominator % 2 = 0 := by
  apply roundHalfEven_even
  have parts : denominator * (numerator / denominator) + numerator % denominator = numerator :=
    Nat.div_add_mod ..
  have small : numerator % denominator < denominator := Nat.mod_lt _ positive
  unfold roundHalfEven at tie
  dsimp only at tie
  generalize numerator / denominator = quotient at *
  rw [Nat.mul_comm] at parts
  split at tie
  · omega
  · rw [Nat.add_mul, Nat.one_mul] at tie
    omega

/-- A rank has the parity of its significand. -/
theorem rank_mod_two (binade significand : Nat) :
    (binade * binadeSize + significand) % 2 = significand % 2 := by
  unfold binadeSize
  omega

/-- What a magnitude is rounded to within its binade, and what is left. -/
structure InBinade (scaled binade significand : Nat) : Prop where
  low : binade = 0 ∨ (binadeSize ≤ significand ∧ binadeSize * 2 ^ binade ≤ scaled)
  high : significand ≤ 2 * binadeSize
  near : 2 * (significand * 2 ^ binade) ≤ 2 * scaled + 2 ^ binade ∧
    2 * scaled ≤ 2 * (significand * 2 ^ binade) + 2 ^ binade
  even : 2 * scaled = 2 * (significand * 2 ^ binade) + 2 ^ binade ∨
    2 * (significand * 2 ^ binade) = 2 * scaled + 2 ^ binade → significand % 2 = 0

theorem inBinade_round (scaled : Nat) :
    InBinade scaled (scaled.log2 - 52) (roundHalfEven scaled (2 ^ (scaled.log2 - 52))) := by
  have near := @roundHalfEven_near scaled _ (Nat.two_pow_pos (scaled.log2 - 52))
  have even := @roundHalfEven_mod_two scaled _ (Nat.two_pow_pos (scaled.log2 - 52))
  rcases Nat.lt_or_ge scaled (2 ^ 52) with small | large
  · have flat : scaled.log2 - 52 = 0 := by
      by_cases zero : scaled = 0
      · rw [zero]
        rfl
      · have := (Nat.log2_lt zero).mpr small
        omega
    have exact : roundHalfEven scaled (2 ^ (scaled.log2 - 52)) = scaled := by
      have whole := roundHalfEven_mul scaled Nat.one_pos
      rw [Nat.mul_one] at whole
      rw [flat]
      exact whole
    refine ⟨.inl flat, ?_, near, even⟩
    rw [exact]
    rw [two_pow_52] at small
    omega
  · have nonzero : scaled ≠ 0 := by
      rintro rfl
      exact absurd large (by decide)
    obtain ⟨binade, log⟩ := Nat.exists_eq_add_of_le ((Nat.le_log2 nonzero).mpr large)
    obtain ⟨low, high⟩ := (Nat.log2_eq_iff nonzero).mp log
    obtain ⟨significandLow, significandHigh⟩ :=
      roundHalfEven_binade low (by rwa [Nat.add_right_comm] at high)
    rw [Nat.pow_add, two_pow_52] at low
    rw [log, Nat.add_sub_cancel_left] at near even ⊢
    exact ⟨.inr ⟨significandLow, low⟩, significandHigh, near, even⟩

theorem InBinade.roundsTo {scaled binade significand : Nat}
    (inside : InBinade scaled binade significand) :
    RoundsTo scaled (binade * binadeSize + significand) := by
  obtain ⟨low, high, ⟨nearLow, nearHigh⟩, even⟩ := inside
  have lowHere : binade = 0 ∨ binadeSize ≤ significand := low.imp_right And.left
  have here := units_binade lowHere high
  have power := Nat.two_pow_pos binade
  rw [← rank_mod_two binade significand] at even
  refine .of_neighbours (fun lower next => ?_) ?_
  · by_cases inner : binade = 0 ∨ binadeSize < significand
    · have positive : 0 < significand := by
        rcases inner with rfl | more <;> omega
      have split : lower = binade * binadeSize + (significand - 1) := by omega
      have step := @units_succ binade (significand - 1) (inner.imp_right Nat.le_pred_of_lt) (by omega)
      rw [← split, next] at step
      omega
    · -- The lower neighbour of a power of two is nearer than the upper one, but the magnitude is no lower.
      have grows := units_strictMono (Nat.lt_add_one lower)
      have bottom : binadeSize * 2 ^ binade ≤ scaled := (low.resolve_left (inner ∘ .inl)).2
      have same : significand = binadeSize := by
        have := (low.resolve_left (inner ∘ .inl)).1
        omega
      rw [next, here, same] at grows
      rw [here, same]
      omega
  · by_cases room : significand < 2 * binadeSize
    · have step := units_succ lowHere room
      omega
    · have carried : binade * binadeSize + significand = (binade + 1) * binadeSize + binadeSize := by
        rw [Nat.add_mul]
        omega
      have step := @units_succ (binade + 1) binadeSize (.inr (Nat.le_refl _)) (by decide)
      rw [← carried, Nat.pow_succ] at step
      omega

/-- **A natural number rounds to the rank nearest to it.** -/
theorem roundsTo_nearestRank (number : Nat) :
    RoundsTo (number * unitsPerOne) (nearestRank number 1) := by
  rw [nearestRank_one]
  exact (inBinade_round _).roundsTo

/-! ### The largest numbers -/

theorem exists_unitsPerOne : ∃ scale, scale = 1074 ∧ unitsPerOne = 2 ^ scale := by
  unfold unitsPerOne
  refine ⟨1074, rfl, ?_⟩
  generalize 1074 = scale
  exact Nat.pow_eq

theorem unitsPerOne_pos : 0 < unitsPerOne := by
  obtain ⟨scale, -, power⟩ := exists_unitsPerOne
  rw [power]
  exact Nat.two_pow_pos scale

/-- The natural numbers from here on are rounded past the finite numbers. -/
def overflow : Nat := 2 ^ 1024 - 2 ^ 970

/-- The rank of the largest finite number. -/
def lastRank : Nat := infinityRank - 1

/-- The overflow is half way between the largest finite number and the magnitude behind it. -/
theorem units_lastRank_add : units lastRank + units infinityRank = 2 * (overflow * unitsPerOne) := by
  have last := @units_binade 2045 (2 * binadeSize - 1) (.inr (by decide)) (by decide)
  have behind := @units_binade 2045 (2 * binadeSize) (.inr (by decide)) (Nat.le_refl _)
  have lastIs : 2045 * binadeSize + (2 * binadeSize - 1) = lastRank := by decide
  have behindIs : 2045 * binadeSize + 2 * binadeSize = infinityRank := by decide
  rw [lastIs] at last
  rw [behindIs] at behind
  obtain ⟨scale, scaleIs, one⟩ := exists_unitsPerOne
  rw [last, behind, overflow, one, ← Nat.add_mul]
  -- The exponents are made variables, so that no power is computed.
  generalize lowIs : 970 = low
  have top : 1024 = low + 54 := by omega
  have binade : 2045 = low + scale + 1 := by omega
  rw [top, binade, Nat.pow_succ, Nat.pow_add, Nat.pow_add]
  generalize 2 ^ scale = one
  generalize 2 ^ low = step
  unfold binadeSize
  rw [Nat.mul_comm (step * one), ← Nat.mul_assoc, ← Nat.mul_assoc, ← Nat.mul_assoc]
  refine congrArg (· * one) ?_
  omega

/-- **A natural number is rounded to a finite number if and only if it lies below the overflow.** -/
theorem nearestRank_lt_iff {number : Nat} :
    nearestRank number 1 < infinityRank ↔ number < overflow := by
  have rounds := roundsTo_nearestRank number
  have half := units_lastRank_add
  have next : infinityRank = lastRank + 1 := by decide
  constructor
  · intro finite
    have above := rounds.above _ finite
    have bound : units (nearestRank number 1) ≤ units lastRank :=
      units_strictMono.monotone (by omega)
    refine Nat.lt_of_mul_lt_mul_right (a := unitsPerOne) (Nat.lt_of_le_of_ne (by omega) fun tie => ?_)
    -- On the half way point the largest finite number would have to be even.
    have even := rounds.even infinityRank (Nat.ne_of_gt finite) (by omega)
    have last : nearestRank number 1 = lastRank := units_strictMono.injective (by omega)
    rw [last] at even
    exact absurd even (by decide)
  · intro less
    refine Nat.lt_of_not_le fun infinite => ?_
    have below := rounds.below lastRank (by omega)
    have bound := units_strictMono.monotone infinite
    have scaled := Nat.mul_lt_mul_of_pos_right less unitsPerOne_pos
    omega

/-! ### Values -/

/-- The value at a rank. -/
def magnitude (rank : Nat) : ℚ := units rank / unitsPerOne

/-- The value of a finite number. -/
def rational? (x : Float) : Option ℚ :=
  match shape x with
  | .finite negative rank => some ((if negative then -1 else 1) * magnitude rank)
  | _ => none

theorem rational?_ofRank {negative : Bool} {rank : Nat} (finite : rank < infinityRank) :
    rational? (ofRank negative rank) = some ((if negative then -1 else 1) * magnitude rank) := by
  rw [rational?, shape_ofRank finite]

theorem rational?_eq_some_iff {x : Float} {value : ℚ} :
    rational? x = some value ↔ ∃ negative rank, rank < infinityRank ∧ x = ofRank negative rank ∧
      value = (if negative then -1 else 1) * magnitude rank := by
  constructor
  · intro found
    unfold rational? at found
    split at found
    · next negative rank finite =>
      obtain ⟨low, rfl⟩ := eq_ofRank_of_shape finite
      exact ⟨negative, rank, low, rfl, (Option.some.inj found).symm⟩
    · cases found
  · rintro ⟨negative, rank, finite, rfl, rfl⟩
    exact rational?_ofRank finite

theorem magnitude_strictMono : StrictMono magnitude := by
  intro first second less
  have positive : (0 : ℚ) < unitsPerOne := by exact_mod_cast unitsPerOne_pos
  exact div_lt_div_of_pos_right (by exact_mod_cast units_strictMono less) positive

theorem magnitude_zero : magnitude 0 = 0 := by
  have nothing : units 0 = 0 := rfl
  rw [magnitude, nothing, Nat.cast_zero, zero_div]

theorem magnitude_nonneg (rank : Nat) : 0 ≤ magnitude rank := by
  rw [← magnitude_zero]
  exact magnitude_strictMono.monotone (Nat.zero_le rank)

/-- Half way points in values and in magnitudes. -/
theorem two_mul_le_iff {number first second : Nat} :
    2 * (number : ℚ) ≤ magnitude first + magnitude second ↔
      2 * (number * unitsPerOne) ≤ units first + units second := by
  have positive : (0 : ℚ) < unitsPerOne := by exact_mod_cast unitsPerOne_pos
  rw [magnitude, magnitude, ← add_div, le_div_iff₀ positive, mul_assoc]
  exact_mod_cast Iff.rfl

theorem le_two_mul_iff {number first second : Nat} :
    magnitude first + magnitude second ≤ 2 * (number : ℚ) ↔
      units first + units second ≤ 2 * (number * unitsPerOne) := by
  have positive : (0 : ℚ) < unitsPerOne := by exact_mod_cast unitsPerOne_pos
  rw [magnitude, magnitude, ← add_div, div_le_iff₀ positive, mul_assoc]
  exact_mod_cast Iff.rfl

/-- Of two values the lower one is as near as the upper one up to their half way point. -/
theorem abs_sub_le_iff_of_lt {exact lower upper : ℚ} (less : lower < upper) :
    |exact - lower| ≤ |exact - upper| ↔ 2 * exact ≤ lower + upper := by
  rcases abs_cases (exact - lower) with ⟨first, _⟩ | ⟨first, _⟩ <;>
    rcases abs_cases (exact - upper) with ⟨second, _⟩ | ⟨second, _⟩ <;>
    rw [first, second] <;>
    constructor <;>
    intro near <;>
    linarith

theorem abs_sub_ge_iff_of_lt {exact lower upper : ℚ} (less : lower < upper) :
    |exact - upper| ≤ |exact - lower| ↔ lower + upper ≤ 2 * exact := by
  rcases abs_cases (exact - lower) with ⟨first, _⟩ | ⟨first, _⟩ <;>
    rcases abs_cases (exact - upper) with ⟨second, _⟩ | ⟨second, _⟩ <;>
    rw [first, second] <;>
    constructor <;>
    intro near <;>
    linarith

/-! ### The nearest number -/

/-- The number is finite and not below zero, no finite number is nearer to the exact value, and another
value is equally near only if the last bit of the number is clear. -/
structure IsNearest (exact : ℚ) (x : Float) : Prop where
  positive : x.toBits.toNat < signWeight
  nearest : ∃ value, rational? x = some value ∧ ∀ y other, rational? y = some other →
    |exact - value| ≤ |exact - other| ∧
      (other ≠ value → |exact - other| = |exact - value| → x.toBits.toNat % 2 = 0)

theorem toBits_ofRank {rank : Nat} (finite : rank < infinityRank) :
    (ofRank false rank).toBits.toNat = rank := by
  show (bitsOf false rank).toNat = rank
  rw [toNat_bitsOf, Nat.min_eq_left (Nat.le_of_lt finite)]
  exact Nat.zero_add rank

/-- The values of two ranks compared with a natural number. -/
theorem RoundsTo.near {number rank : Nat} (rounds : RoundsTo (number * unitsPerOne) rank) (other : Nat) :
    |(number : ℚ) - magnitude rank| ≤ |(number : ℚ) - magnitude other| ∧
      (magnitude other ≠ magnitude rank →
        |(number : ℚ) - magnitude other| = |(number : ℚ) - magnitude rank| → rank % 2 = 0) := by
  rcases Nat.lt_trichotomy other rank with less | rfl | more
  · have order := magnitude_strictMono less
    refine ⟨(abs_sub_ge_iff_of_lt order).mpr (le_two_mul_iff.mpr (rounds.below other less)), ?_⟩
    intro _ tie
    have half := two_mul_le_iff.mp ((abs_sub_le_iff_of_lt order).mp (le_of_eq tie))
    have below := rounds.below other less
    exact rounds.even other (Nat.ne_of_lt less) (by omega)
  · exact ⟨le_refl _, fun different => absurd rfl different⟩
  · have order := magnitude_strictMono more
    refine ⟨(abs_sub_le_iff_of_lt order).mpr (two_mul_le_iff.mpr (rounds.above other more)), ?_⟩
    intro _ tie
    have half := le_two_mul_iff.mp ((abs_sub_ge_iff_of_lt order).mp (le_of_eq tie))
    have above := rounds.above other more
    exact rounds.even other (Nat.ne_of_gt more) (by omega)

/-- A number that a natural number rounds to is nearest to it, also among the numbers below zero. -/
theorem RoundsTo.isNearest {number rank : Nat} (finite : rank < infinityRank)
    (rounds : RoundsTo (number * unitsPerOne) rank) : IsNearest number (ofRank false rank) := by
  refine ⟨?_, magnitude rank, ?_, fun y other valued => ?_⟩
  · rw [toBits_ofRank finite]
    exact Nat.lt_trans finite (by decide)
  · rw [rational?_ofRank finite, if_neg Bool.false_ne_true, one_mul]
  rw [toBits_ofRank finite]
  obtain ⟨negative, rank', -, -, rfl⟩ := rational?_eq_some_iff.mp valued
  cases negative with
  | false =>
    rw [if_neg Bool.false_ne_true, one_mul]
    exact rounds.near rank'
  | true =>
    -- A number below zero is no nearer than zero is, and as near only if it is zero itself.
    obtain ⟨near, even⟩ := rounds.near 0
    have below := magnitude_nonneg rank'
    have natural : (0 : ℚ) ≤ number := Nat.cast_nonneg number
    rw [magnitude_zero, sub_zero, abs_of_nonneg natural] at near even
    rw [if_pos rfl, neg_one_mul, sub_neg_eq_add, abs_of_nonneg (add_nonneg natural below)]
    refine ⟨by linarith, fun different tie => ?_⟩
    have zero : magnitude rank' = 0 := by linarith
    rw [zero, neg_zero] at different
    rw [zero, add_zero] at tie
    exact even different tie

/-- What is nearest to a natural number below the overflow is at the rank that the number rounds to. -/
theorem IsNearest.exists_rank {number : Nat} {x : Float} (nearest : IsNearest number x)
    (less : number < overflow) :
    ∃ rank, rank < infinityRank ∧ x = ofRank false rank ∧ RoundsTo (number * unitsPerOne) rank := by
  obtain ⟨positive, value, valued, nearest⟩ := nearest
  obtain ⟨negative, rank, finite, rfl, rfl⟩ := rational?_eq_some_iff.mp valued
  have plus : negative = false := by
    rw [ofRank] at positive
    change (bitsOf negative rank).toNat < signWeight at positive
    rw [toNat_bitsOf] at positive
    cases negative with
    | false => rfl
    | true =>
      rw [if_pos rfl] at positive
      exact absurd positive (Nat.not_lt.mpr (Nat.le_add_right _ _))
  subst plus
  rw [if_neg Bool.false_ne_true, one_mul, toBits_ofRank finite] at nearest
  have near {other : Nat} (low : other < infinityRank) := nearest (ofRank false other) (magnitude other)
    (by rw [rational?_ofRank low, if_neg Bool.false_ne_true, one_mul])
  refine ⟨rank, finite, rfl, .of_neighbours (fun lower next => ?_) ?_⟩
  · have order := magnitude_strictMono (show lower < rank by omega)
    obtain ⟨nearer, even⟩ := near (show lower < infinityRank by omega)
    have half := le_two_mul_iff.mp ((abs_sub_ge_iff_of_lt order).mp nearer)
    refine ⟨half, fun tie => even (ne_of_lt order) (le_antisymm ?_ nearer)⟩
    exact (abs_sub_le_iff_of_lt order).mpr (two_mul_le_iff.mpr (Nat.le_of_eq tie.symm))
  · by_cases last : rank + 1 < infinityRank
    · have order := magnitude_strictMono (Nat.lt_add_one rank)
      obtain ⟨nearer, even⟩ := near last
      have half := two_mul_le_iff.mp ((abs_sub_le_iff_of_lt order).mp nearer)
      refine ⟨half, fun tie => even (ne_of_gt order) (le_antisymm ?_ nearer)⟩
      exact (abs_sub_ge_iff_of_lt order).mpr (le_two_mul_iff.mpr (Nat.le_of_eq tie.symm))
    · -- Behind the largest finite number the half way point is the overflow.
      have half := units_lastRank_add
      have scaled := Nat.mul_lt_mul_of_pos_right less unitsPerOne_pos
      have next : infinityRank = lastRank + 1 := by decide
      have here : rank = lastRank := by omega
      rw [here, ← next]
      omega

/-- **A natural number below the overflow is read as the number nearest to it, and no other natural
number is read.** -/
theorem ofNatural?_eq_some_iff_isNearest {number : Nat} {x : Float} :
    ofNatural? number = some x ↔ number < overflow ∧ IsNearest number x := by
  rw [ofNatural?_eq_some_iff, nearestRank_lt_iff]
  have rounds := roundsTo_nearestRank number
  constructor
  · rintro ⟨less, rfl⟩
    exact ⟨less, rounds.isNearest (nearestRank_lt_iff.mpr less)⟩
  · rintro ⟨less, nearest⟩
    obtain ⟨rank, -, rfl, roundsHere⟩ := nearest.exists_rank less
    rw [rounds.unique roundsHere]
    exact ⟨less, rfl⟩

theorem ofNatural?_eq_none_iff {number : Nat} : ofNatural? number = none ↔ overflow ≤ number := by
  rw [← Nat.not_lt, ← nearestRank_lt_iff, Option.eq_none_iff_forall_ne_some]
  constructor
  · exact fun unread finite => unread _ (ofNatural?_eq_some_iff.mpr ⟨finite, rfl⟩)
  · exact fun infinite x read => infinite (ofNatural?_eq_some_iff.mp read).1

/-- Half way between two numbers the even one is read, be it the lower or the upper one. -/
example : ofNatural? 9007199254740993 = ofNatural? 9007199254740992 ∧
    ofNatural? 9007199254740995 = ofNatural? 9007199254740996 := by decide +kernel

/-- The last natural number before the overflow is read, far behind the largest finite number. -/
example : ofNatural? (overflow - 1) = some (ofRank false lastRank) ∧ ofNatural? overflow = none := by
  decide +kernel

/-- **A larger number is read as no lower value.** -/
theorem rational?_le_of_ofNatural? {number number' : Nat} {x y : Float} {value value' : ℚ}
    (order : number ≤ number') (first : ofNatural? number = some x) (second : ofNatural? number' = some y)
    (valued : rational? x = some value) (valued' : rational? y = some value') : value ≤ value' := by
  obtain ⟨finite, rfl⟩ := ofNatural?_eq_some_iff.mp first
  obtain ⟨finite', rfl⟩ := ofNatural?_eq_some_iff.mp second
  rw [rational?_ofRank finite, if_neg Bool.false_ne_true, one_mul, Option.some.injEq] at valued
  rw [rational?_ofRank finite', if_neg Bool.false_ne_true, one_mul, Option.some.injEq] at valued'
  rw [← valued, ← valued']
  exact magnitude_strictMono.monotone ((roundsTo_nearestRank number).le (roundsTo_nearestRank number')
    (Nat.mul_le_mul_right _ order))

/-! ### Numbers that are read exactly -/

/-- A natural number of at most 53 bits, or the next one, is a magnitude of the format. -/
theorem exists_units_eq {number : Nat} (small : number ≤ 2 ^ 53) :
    ∃ rank, rank < infinityRank ∧ number * unitsPerOne = units rank := by
  obtain ⟨scale, scaleIs, one⟩ := exists_unitsPerOne
  rw [one]
  obtain rfl | positive := Nat.eq_zero_or_pos number
  · exact ⟨0, by decide, Nat.zero_mul _⟩
  have nonzero := Nat.ne_of_gt positive
  obtain rfl | less := Nat.eq_or_lt_of_le small
  · refine ⟨scale * binadeSize + 2 * binadeSize, ?_, ?_⟩
    · unfold infinityRank binadeSize
      omega
    · rw [units_binade (.inr (by decide)) (Nat.le_refl _)]
      rfl
  · have log : number.log2 ≤ 52 := Nat.le_of_lt_succ ((Nat.log2_lt nonzero).mpr less)
    obtain ⟨lowNumber, highNumber⟩ := (Nat.log2_eq_iff nonzero).mp rfl
    generalize number.log2 = bits at *
    have split : 2 ^ 52 = 2 ^ bits * 2 ^ (52 - bits) := by
      rw [← Nat.pow_add, Nat.add_sub_of_le log]
    have low : binadeSize ≤ number * 2 ^ (52 - bits) := by
      rw [← two_pow_52, split]
      exact Nat.mul_le_mul_right _ lowNumber
    have high : number * 2 ^ (52 - bits) ≤ 2 * binadeSize := by
      rw [← two_pow_52, split, ← Nat.mul_assoc, ← Nat.pow_succ']
      exact Nat.mul_le_mul_right _ (Nat.le_of_lt highNumber)
    refine ⟨(scale - (52 - bits)) * binadeSize + number * 2 ^ (52 - bits), ?_, ?_⟩
    · unfold infinityRank
      unfold binadeSize at *
      omega
    · rw [units_binade (.inr low) high, Nat.mul_assoc, ← Nat.pow_add, Nat.add_sub_of_le (by omega)]

/-- **A natural number up to 2^53 is read exactly.** -/
theorem ofNatural?_of_le {number : Nat} (small : number ≤ 2 ^ 53) :
    ∃ x, ofNatural? number = some x ∧ rational? x = some (number : ℚ) := by
  obtain ⟨rank, finite, exact⟩ := exists_units_eq small
  have positive : (unitsPerOne : ℚ) ≠ 0 := by exact_mod_cast Nat.ne_of_gt unitsPerOne_pos
  refine ⟨ofRank false rank, ?_, ?_⟩
  · rw [ofNatural?_eq_some_iff, nearestRank_units exact]
    exact ⟨finite, rfl⟩
  · rw [rational?_ofRank finite, if_neg Bool.false_ne_true, one_mul, magnitude, ← exact, Nat.cast_mul,
      mul_div_cancel_right₀ _ positive]

/-- The value of a natural number of the format is spelled by the digits that it is written in. -/
theorem IsWhole.exists_value {x : Float} (whole : IsWhole x) :
    ∃ number : Nat, rational? x = some (number : ℚ) ∧ literalText x = String.ofList (digitChars number) ∧
      ofNatural? number = some x := by
  obtain ⟨rank, finite, number, integral⟩ := whole
  obtain ⟨low, rfl⟩ := eq_ofRank_of_shape finite
  have positive : (unitsPerOne : ℚ) ≠ 0 := by exact_mod_cast Nat.ne_of_gt unitsPerOne_pos
  rw [Nat.mul_comm] at integral
  refine ⟨number, ?_, ?_, ?_⟩
  · rw [rational?_ofRank low, if_neg Bool.false_ne_true, one_mul, magnitude, integral, Nat.cast_mul,
      mul_div_cancel_right₀ _ positive]
  · rw [literalText_ofRank low (integral ▸ Nat.dvd_mul_left _ _), integral,
      Nat.mul_div_cancel _ unitsPerOne_pos]
  · rw [ofNatural?_eq_some_iff, nearestRank_units integral.symm]
    exact ⟨low, rfl⟩

end Calculator.Binary64
