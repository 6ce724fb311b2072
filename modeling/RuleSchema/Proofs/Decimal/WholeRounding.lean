import Mathlib.Tactic.SplitIfs
import RuleSchema.Decimal.Rounding

/-!
# Rounding to fifty-three digits

A float has fifty-three binary digits of a whole number.  One of more digits is rounded to
the nearest number with zeros in the places behind them, a tie going to the even digit.  A
size up to `2 ^ 53` stays as it is, rounding keeps the order, and a word is moved by at most
`512`.
-/

namespace RuleSchema.Decimal.Rounding

/-! ## Quotients -/

theorem divideToEven_bounds (numerator denominator : Nat) :
    numerator / denominator ≤ divideToEven numerator denominator ∧
      divideToEven numerator denominator ≤ numerator / denominator + 1 := by
  unfold divideToEven
  dsimp only
  split_ifs <;> omega

/-- A quotient is rounded by no more than a half. -/
theorem divideToEven_near (numerator : Nat) {denominator : Nat} (positive : 0 < denominator) :
    2 * (divideToEven numerator denominator * denominator) ≤ 2 * numerator + denominator ∧
      2 * numerator ≤ 2 * (divideToEven numerator denominator * denominator) + denominator := by
  have parts := Nat.div_add_mod' numerator denominator
  have below := Nat.mod_lt numerator positive
  unfold divideToEven
  dsimp only
  split_ifs <;> simp only [Nat.succ_mul] <;> omega

/-- A larger number has no smaller quotient. -/
theorem divideToEven_mono {first second denominator : Nat} (inOrder : first ≤ second) :
    divideToEven first denominator ≤ divideToEven second denominator := by
  have quotients : first / denominator ≤ second / denominator := Nat.div_le_div_right inOrder
  rcases Nat.lt_or_eq_of_le quotients with smaller | same
  · have upper := (divideToEven_bounds first denominator).2
    have lower := (divideToEven_bounds second denominator).1
    omega
  · have firstParts := Nat.div_add_mod first denominator
    have secondParts := Nat.div_add_mod second denominator
    rw [same] at firstParts
    have remainders : first % denominator ≤ second % denominator := by omega
    unfold divideToEven
    dsimp only
    rw [same]
    split_ifs <;> omega

/-! ## Sizes -/

theorem log2_le_of_small {size : Nat} (positive : 0 < size) (small : size ≤ 2 ^ 53) :
    size.log2 ≤ 53 := by
  apply Classical.byContradiction
  intro large
  have reached : 2 ^ 54 ≤ 2 ^ size.log2 := Nat.pow_le_pow_right (by decide) (by omega)
  have lower := Nat.log2_self_le (Nat.ne_of_gt positive)
  omega

/--
A size in fifty-three binary digits: the nearest number that has no more of them before its
last zeros, a tie going to the one whose last digit is even.
-/
def roundedSize (size : Nat) : Nat :=
  divideToEven size (2 ^ (size.log2 - 52)) * 2 ^ (size.log2 - 52)

/-- Numbers of up to fifty-three digits stay as they are. -/
theorem roundedSize_of_small {size : Nat} (small : size ≤ 2 ^ 53) : roundedSize size = size := by
  rcases Nat.eq_zero_or_pos size with rfl | positive
  · rfl
  have divides : 2 ^ (size.log2 - 52) ∣ size := by
    rcases Nat.lt_or_eq_of_le (log2_le_of_small positive small) with below | greatest
    · have unit : size.log2 - 52 = 0 := by omega
      rw [unit]
      exact Nat.one_dvd size
    · have lower := Nat.log2_self_le (Nat.ne_of_gt positive)
      rw [greatest] at lower ⊢
      omega
  have unitPositive : 0 < 2 ^ (size.log2 - 52) := Nat.two_pow_pos _
  have parts := Nat.div_mul_cancel divides
  have exact := divideToEven_exact (size / 2 ^ (size.log2 - 52)) _ unitPositive
  rw [parts] at exact
  rw [roundedSize, exact, parts]

/-- The quotient by the place of the last digit has fifty-three digits. -/
theorem quotient_bounds {size : Nat} (large : 52 ≤ size.log2) :
    2 ^ 52 ≤ size / 2 ^ (size.log2 - 52) ∧ size / 2 ^ (size.log2 - 52) < 2 ^ 53 := by
  have notZero : size ≠ 0 := by
    rintro rfl
    cases large
  have lower := Nat.log2_self_le notZero
  have upper : size < 2 ^ (size.log2 + 1) := Nat.lt_log2_self
  have lowExponent : size.log2 = 52 + (size.log2 - 52) := by omega
  have highExponent : size.log2 + 1 = 53 + (size.log2 - 52) := by omega
  constructor
  · rw [Nat.le_div_iff_mul_le (Nat.two_pow_pos _), ← Nat.pow_add, ← lowExponent]
    exact lower
  · rw [Nat.div_lt_iff_lt_mul (Nat.two_pow_pos _), ← Nat.pow_add, ← highExponent]
    exact upper

/-- Rounding does not lower the greatest power of two in a size, nor pass the next one. -/
theorem roundedSize_bounds {size : Nat} (positive : 0 < size) :
    2 ^ size.log2 ≤ roundedSize size ∧ roundedSize size ≤ 2 ^ (size.log2 + 1) := by
  have lower := Nat.log2_self_le (Nat.ne_of_gt positive)
  have upper : size < 2 ^ (size.log2 + 1) := Nat.lt_log2_self
  by_cases large : 52 ≤ size.log2
  · have quotient := quotient_bounds large
    have rounding := divideToEven_bounds size (2 ^ (size.log2 - 52))
    have lowExponent : size.log2 = 52 + (size.log2 - 52) := by omega
    have highExponent : size.log2 + 1 = 53 + (size.log2 - 52) := by omega
    constructor
    · conv => lhs; rw [lowExponent, Nat.pow_add]
      exact Nat.mul_le_mul_right _ (by omega)
    · conv => rhs; rw [highExponent, Nat.pow_add]
      exact Nat.mul_le_mul_right _ (by omega)
  · have small : size ≤ 2 ^ 53 := by
      have bound : 2 ^ (size.log2 + 1) ≤ 2 ^ 53 := Nat.pow_le_pow_right (by decide) (by omega)
      omega
    rw [roundedSize_of_small small]
    exact ⟨lower, Nat.le_of_lt upper⟩

/-- Rounding keeps the order of sizes. -/
theorem roundedSize_mono {first second : Nat} (inOrder : first ≤ second) :
    roundedSize first ≤ roundedSize second := by
  rcases Nat.eq_zero_or_pos first with rfl | firstPositive
  · exact Nat.zero_le _
  have secondPositive : 0 < second := by omega
  have logs : first.log2 ≤ second.log2 := by
    rw [Nat.le_log2 (Nat.ne_of_gt secondPositive)]
    exact Nat.le_trans (Nat.log2_self_le (Nat.ne_of_gt firstPositive)) inOrder
  rcases Nat.lt_or_eq_of_le logs with below | same
  · calc
      roundedSize first ≤ 2 ^ (first.log2 + 1) := (roundedSize_bounds firstPositive).2
      _ ≤ 2 ^ second.log2 := Nat.pow_le_pow_right (by decide) below
      _ ≤ roundedSize second := (roundedSize_bounds secondPositive).1
  · rw [roundedSize, roundedSize, same]
    exact Nat.mul_le_mul_right _ (divideToEven_mono inOrder)

/-! ## Signed numbers -/

/-- The whole number that is left of one in fifty-three binary digits. -/
def rounded (value : Int) : Int :=
  if value < 0 then -(roundedSize value.natAbs : Int) else roundedSize value.natAbs

theorem rounded_of_small {value : Int} (small : value.natAbs ≤ 2 ^ 53) : rounded value = value := by
  rw [rounded, roundedSize_of_small small]
  split <;> omega

theorem rounded_mono {first second : Int} (inOrder : first ≤ second) :
    rounded first ≤ rounded second := by
  rw [rounded, rounded]
  split <;> split
  · have sizes := roundedSize_mono (show second.natAbs ≤ first.natAbs by omega)
    omega
  · omega
  · omega
  · have sizes := roundedSize_mono (show first.natAbs ≤ second.natAbs by omega)
    omega

/-- A word is rounded by no more than a half of the greatest place of a last digit. -/
theorem rounded_near (word : Int64) :
    rounded word.toInt ≤ word.toInt + 512 ∧ word.toInt ≤ rounded word.toInt + 512 := by
  have low := word.le_toInt
  have high := word.toInt_lt
  by_cases least : word.toInt = -2 ^ 63
  · have exact : rounded (-2 ^ 63) = -2 ^ 63 := by decide
    rw [least, exact]
    omega
  have bounded : word.toInt.natAbs < 2 ^ 63 := by omega
  have unit : 2 ^ (word.toInt.natAbs.log2 - 52) ≤ 2 ^ 10 := by
    apply Nat.pow_le_pow_right (by decide)
    by_cases isZero : word.toInt.natAbs = 0
    · rw [isZero]
      decide
    · have logBound := (Nat.log2_lt isZero).mpr bounded
      omega
  have near := divideToEven_near word.toInt.natAbs (Nat.two_pow_pos (word.toInt.natAbs.log2 - 52))
  rw [rounded, roundedSize]
  split <;> omega

/-- Words of which the same is left are not far apart, and are equal if they are small. -/
theorem near_of_rounded_eq {left right : Int64} (same : rounded left.toInt = rounded right.toInt) :
    left.toInt ≤ right.toInt + 1024 ∧
      (left.toInt.natAbs ≤ 2 ^ 53 → right.toInt.natAbs ≤ 2 ^ 53 → left = right) := by
  have leftNear := rounded_near left
  have rightNear := rounded_near right
  refine ⟨by omega, fun leftSmall rightSmall => ?_⟩
  rw [rounded_of_small leftSmall, rounded_of_small rightSmall] at same
  exact Int64.toInt_inj.mp same

end RuleSchema.Decimal.Rounding
