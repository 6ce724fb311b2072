import Mathlib
import RuleSchema.Decimal.Rounding
import RuleSchema.Decimal.Shortest

/-!
# Shortest digits tell floats apart

The digits found for a float lie in its interval.  Some grid always has a hit: the grid of
seventeen digits is finer than the interval is wide, because `2 ^ 53 < 10 ^ 16`.

The intervals of two floats have at most an end in common, where one float is next to the
other.  Then only one of their significands is even, so that only one interval has its ends.
Therefore different floats have digits of different values.
-/

namespace RuleSchema.Decimal.Shortest

theorem toNat_div_toNat {base : ℚ} (nonzero : base ≠ 0) (exponent : ℤ) :
    base ^ exponent.toNat / base ^ (-exponent).toNat = base ^ exponent := by
  rw [← zpow_natCast, ← zpow_natCast, ← zpow_sub₀ nonzero]
  congr 1
  omega

/-! ## Intervals -/

/-- The rational that the digits stand for. -/
def Digits.value (decimal : Digits) : ℚ := decimal.digits * 10 ^ decimal.exponent

namespace Interval

/-- The lower end of an interval. -/
def lowEnd (interval : Interval) : ℚ := interval.low / interval.denominator

/-- The value that an interval is about. -/
def middle (interval : Interval) : ℚ := interval.value / interval.denominator

/-- The upper end of an interval. -/
def highEnd (interval : Interval) : ℚ := interval.high / interval.denominator

/-- Whether a rational rounds to the float of the interval. -/
def Contains (interval : Interval) (number : ℚ) : Prop :=
  if interval.closed then interval.lowEnd ≤ number ∧ number ≤ interval.highEnd
  else interval.lowEnd < number ∧ number < interval.highEnd

theorem Contains.bounds {interval : Interval} {number : ℚ} (contained : interval.Contains number) :
    interval.lowEnd ≤ number ∧ number ≤ interval.highEnd := by
  rw [Contains] at contained
  split at contained
  · exact contained
  · exact ⟨contained.1.le, contained.2.le⟩

theorem contains_of_lt {interval : Interval} {number : ℚ} (above : interval.lowEnd < number)
    (below : number < interval.highEnd) : interval.Contains number := by
  rw [Contains]
  split
  · exact ⟨above.le, below.le⟩
  · exact ⟨above, below⟩

variable {interval : Interval} (positive : 0 < interval.denominator)

include positive

theorem holds_iff {numerator denominator : Nat} (nonzero : 0 < denominator) :
    interval.holds numerator denominator = true ↔
      interval.Contains ((numerator : ℚ) / denominator) := by
  have scale : (0 : ℚ) < interval.denominator := Nat.cast_pos.mpr positive
  have unit : (0 : ℚ) < denominator := Nat.cast_pos.mpr nonzero
  rw [holds, Contains, lowEnd, highEnd]
  split
  · rw [div_le_div_iff₀ scale unit, div_le_div_iff₀ unit scale, Bool.and_eq_true,
      decide_eq_true_eq, decide_eq_true_eq]
    norm_cast
  · rw [div_lt_div_iff₀ scale unit, div_lt_div_iff₀ unit scale, Bool.and_eq_true,
      decide_eq_true_eq, decide_eq_true_eq]
    norm_cast

theorem holds_onGrid_iff (digits : Nat) (place : ℤ) :
    interval.holds (digits * 10 ^ place.toNat) (10 ^ (-place).toNat) = true ↔
      interval.Contains (digits * 10 ^ place) := by
  have unit : 0 < 10 ^ (-place).toNat := Nat.pos_of_ne_zero (by simp)
  rw [holds_iff positive unit, ← toNat_div_toNat (by norm_num) place, ← mul_div_assoc]
  push_cast
  rfl

/-- What is found on a grid lies in the interval. -/
theorem contains_of_onGrid? {place : ℤ} {digits : Nat}
    (found : interval.onGrid? place = some digits) :
    0 < digits ∧ interval.Contains (digits * 10 ^ place) := by
  have hit {count : Nat} (hits : (decide (count > 0) &&
      interval.holds (count * 10 ^ place.toNat) (10 ^ (-place).toNat)) = true) :
      0 < count ∧ interval.Contains (count * 10 ^ place) := by
    rw [Bool.and_eq_true, decide_eq_true_eq, holds_onGrid_iff positive] at hits
    exact hits
  rw [onGrid?] at found
  dsimp only at found
  split at found
  · next lower upper =>
    split_ifs at found
    · exact Option.some.inj found ▸ hit lower
    · exact Option.some.inj found ▸ hit upper
    · exact Option.some.inj found ▸ hit lower
    · exact Option.some.inj found ▸ hit upper
  · next lower _ => exact Option.some.inj found ▸ hit lower
  · next _ upper => exact Option.some.inj found ▸ hit upper
  · cases found

omit positive in
/-- The lower neighbour is the whole part of the value in steps of the grid. -/
theorem lower_eq_floor (place : ℤ) :
    interval.value * 10 ^ (-place).toNat / (interval.denominator * 10 ^ place.toNat) =
      ⌊interval.middle / 10 ^ place⌋₊ := by
  have inSteps : interval.middle / 10 ^ place =
      ((interval.value * 10 ^ (-place).toNat : ℕ) : ℚ) /
        ((interval.denominator * 10 ^ place.toNat : ℕ) : ℚ) := by
    rw [middle, ← toNat_div_toNat (by norm_num) place]
    push_cast
    field_simp
  rw [inSteps, Nat.floor_div_eq_div]

/-- A grid that is finer than the interval has a hit. -/
theorem exists_onGrid? {place : ℤ} (fits : 10 ^ place ≤ interval.middle)
    (below : interval.lowEnd + 10 ^ place / 2 < interval.middle)
    (above : interval.middle + 10 ^ place / 2 < interval.highEnd) :
    ∃ digits, interval.onGrid? place = some digits := by
  have step : (0 : ℚ) < 10 ^ place := by positivity
  have whole : 0 ≤ interval.middle := step.le.trans fits
  obtain ⟨lower, lowerFloor⟩ : ∃ lower, lower = ⌊interval.middle / 10 ^ place⌋₊ := ⟨_, rfl⟩
  have lowerPositive : 0 < lower := by
    rw [lowerFloor, Nat.floor_pos, le_div_iff₀ step, one_mul]
    exact fits
  have atLeast : (lower : ℚ) * 10 ^ place ≤ interval.middle := by
    rw [← le_div_iff₀ step, lowerFloor]
    exact Nat.floor_le (div_nonneg whole step.le)
  have atMost : interval.middle < ((lower + 1 : ℕ) : ℚ) * 10 ^ place := by
    rw [← div_lt_iff₀ step, lowerFloor, Nat.cast_add_one]
    exact Nat.lt_floor_add_one _
  have nearest : interval.Contains (lower * 10 ^ place) ∨
      interval.Contains ((lower + 1 : ℕ) * 10 ^ place) := by
    rcases le_or_gt (interval.middle - lower * 10 ^ place) (10 ^ place / 2) with near | far
    · exact .inl (contains_of_lt (by linarith) (by linarith))
    · refine .inr (contains_of_lt (by linarith) ?_)
      rw [Nat.cast_add_one, add_mul, one_mul]
      linarith
  rw [← holds_onGrid_iff positive, ← holds_onGrid_iff positive] at nearest
  rw [onGrid?]
  dsimp only
  rw [lower_eq_floor, ← lowerFloor]
  split
  · split_ifs <;> exact ⟨_, rfl⟩
  · exact ⟨_, rfl⟩
  · exact ⟨_, rfl⟩
  · next noLower noUpper =>
    rw [decide_eq_true lowerPositive, Bool.true_and] at noLower
    rw [decide_eq_true (Nat.succ_pos lower), Bool.true_and] at noUpper
    rw [noLower, noUpper] at nearest
    rcases nearest with hit | hit <;> cases hit

/-! ## Search -/

/-- What the search finds lies in the interval. -/
theorem contains_of_search {log : ℤ} {count width : Nat} {decimal : Digits}
    (found : interval.search log count width = some decimal) :
    0 < decimal.digits ∧ interval.Contains decimal.value := by
  induction count generalizing width with
  | zero => cases found
  | succ count ih =>
      rw [search] at found
      split at found
      · next digits onGrid =>
        rw [← Option.some.inj found]
        exact contains_of_onGrid? positive onGrid
      · exact ih found

omit positive in
/-- A search that reaches a grid with a hit finds something. -/
theorem exists_search {log : ℤ} {width : Nat}
    (hit : ∃ digits, interval.onGrid? (log + 1 - width) = some digits) {count start : Nat}
    (started : start ≤ width) (reached : width < start + count) :
    ∃ decimal, interval.search log count start = some decimal := by
  induction count generalizing start with
  | zero => omega
  | succ count ih =>
      rw [search]
      split
      · exact ⟨_, rfl⟩
      · next missed =>
        have later : start ≠ width := by
          rintro rfl
          rcases hit with ⟨digits, found⟩
          rw [found] at missed
          cases missed
        exact ih (by omega) (by omega)

end Interval

theorem Digits.value_strip (count : Nat) (decimal : Digits) :
    (decimal.strip count).value = decimal.value := by
  induction count generalizing decimal with
  | zero => rfl
  | succ count ih =>
      rw [strip]
      split
      · next trailing =>
        have split : decimal.digits = 10 * (decimal.digits / 10) := by omega
        rw [ih, value, value, zpow_add_one₀ (by norm_num)]
        conv_rhs => rw [split]
        push_cast
        ring
      · rfl

/-! ## The decimal logarithm -/

/-- Powers are compared by a fraction that approximates the logarithm of two. -/
theorem ten_zpow_le_two_zpow {power exponent : ℤ} (tens twos : ℕ) (nonzero : tens ≠ 0)
    (approximated : ((10 : ℚ) ^ tens) ^ power ≤ (2 ^ twos) ^ power)
    (scaled : twos * power ≤ tens * exponent) : (10 : ℚ) ^ power ≤ 2 ^ exponent := by
  have raised : ((10 : ℚ) ^ power) ^ tens ≤ (2 ^ exponent) ^ tens :=
    calc ((10 : ℚ) ^ power) ^ tens
      _ = (10 ^ tens) ^ power := by rw [← zpow_natCast, ← zpow_natCast, zpow_comm]
      _ ≤ (2 ^ twos) ^ power := approximated
      _ = 2 ^ (twos * power) := by rw [zpow_mul, zpow_natCast]
      _ ≤ 2 ^ (tens * exponent) := zpow_le_zpow_right₀ (by norm_num) scaled
      _ = (2 ^ exponent) ^ tens := by rw [mul_comm, zpow_mul, zpow_natCast]
  exact (pow_le_pow_iff_left₀ (by positivity) (by positivity) nonzero).mp raised

/-- The power of ten that is estimated from a power of two is at most one place too high. -/
theorem ten_zpow_estimate_le {exponent : ℤ} (low : -1100 ≤ exponent) (high : exponent ≤ 1100) :
    (10 : ℚ) ^ (exponent * 30103 / 100000 - 1) ≤ 2 ^ exponent := by
  -- The logarithm of two is a little more than 59 / 196 and a little less than 28 / 93.
  rcases le_total 0 (exponent * 30103 / 100000 - 1) with nonnegative | nonpositive
  · have below : (10 : ℚ) ^ 59 ≤ 2 ^ 196 := by norm_num
    exact ten_zpow_le_two_zpow 59 196 (by decide)
      (zpow_le_zpow_left₀ nonnegative (by positivity) below) (by omega)
  · have above : (2 : ℚ) ^ 93 ≤ 10 ^ 28 := by norm_num
    have reversed := zpow_le_zpow_left₀ (neg_nonneg.mpr nonpositive) (by positivity) above
    rw [zpow_neg, zpow_neg, inv_le_inv₀ (by positivity) (by positivity)] at reversed
    exact ten_zpow_le_two_zpow 28 93 (by decide) reversed (by omega)

namespace Interval

variable {interval : Interval} {place : Nat} (whole : interval.denominator = 2 ^ place)
  (nonzero : interval.value ≠ 0)

include whole nonzero

theorem two_zpow_le_middle :
    (2 : ℚ) ^ ((interval.value.log2 : ℤ) - (interval.denominator.log2 : ℤ)) ≤ interval.middle := by
  rw [middle, whole, Nat.log2_two_pow, zpow_sub₀ (by norm_num), zpow_natCast, zpow_natCast,
    Nat.cast_pow, Nat.cast_ofNat]
  gcongr
  exact_mod_cast Nat.log2_self_le nonzero

/-- The power of ten at the decimal logarithm does not exceed the value. -/
theorem ten_zpow_decimalLog_le
    (low : -1100 ≤ (interval.value.log2 : ℤ) - (interval.denominator.log2 : ℤ))
    (high : (interval.value.log2 : ℤ) - (interval.denominator.log2 : ℤ) ≤ 1100) :
    10 ^ interval.decimalLog ≤ interval.middle := by
  have fits {power : ℤ} (checked : decide (interval.denominator * 10 ^ power.toNat ≤
      interval.value * 10 ^ (-power).toNat) = true) : 10 ^ power ≤ interval.middle := by
    have scale : (0 : ℚ) < interval.denominator := by
      rw [whole]
      positivity
    rw [decide_eq_true_eq] at checked
    rw [middle, ← toNat_div_toNat (by norm_num) power, div_le_div_iff₀ (by positivity) scale,
      mul_comm]
    exact_mod_cast checked
  rw [decimalLog]
  dsimp only
  split
  · next checked => exact fits checked
  · split
    · next checked => exact fits checked
    · rw [show ∀ estimate : ℤ, estimate + 1 - 2 = estimate - 1 by omega]
      exact (ten_zpow_estimate_le low high).trans (two_zpow_le_middle whole nonzero)

end Interval

/-! ## Floats -/

/-- The interval of finite nonzero bits. -/
abbrev intervalOf (bits : Nat) : Interval := .ofMagnitude (.ofBits bits)

/-- The ends of an interval by the significand, with the gap below in quarters of a unit. -/
theorem ends_ofMagnitude {magnitude : Magnitude} (positive : 0 < magnitude.significand) :
    (Interval.ofMagnitude magnitude).lowEnd =
        (4 * magnitude.significand - if magnitude.unevenGap then 1 else 2) *
          2 ^ (magnitude.exponent - 2) ∧
      (Interval.ofMagnitude magnitude).middle =
        4 * magnitude.significand * 2 ^ (magnitude.exponent - 2) ∧
      (Interval.ofMagnitude magnitude).highEnd =
        (4 * magnitude.significand + 2) * 2 ^ (magnitude.exponent - 2) := by
  have scale : (2 : ℚ) ^ (magnitude.exponent - 2).toNat / 2 ^ (2 - magnitude.exponent).toNat =
      2 ^ (magnitude.exponent - 2) := by
    rw [← toNat_div_toNat (by norm_num) (magnitude.exponent - 2), neg_sub]
  have enough : (if magnitude.unevenGap then 1 else 2) ≤ 4 * magnitude.significand := by
    split <;> omega
  refine ⟨?_, ?_, ?_⟩
  · rw [Interval.lowEnd, Interval.ofMagnitude, ← scale, ← mul_div_assoc]
    dsimp only
    rw [Nat.cast_mul, Nat.cast_sub enough]
    push_cast
    rfl
  · rw [Interval.middle, Interval.ofMagnitude, ← scale, ← mul_div_assoc]
    push_cast
    rfl
  · rw [Interval.highEnd, Interval.ofMagnitude, ← scale, ← mul_div_assoc]
    push_cast
    rfl

/-- The next float has the next significand, or the least one of the next exponent. -/
theorem ofBits_succ (bits : Nat) :
    Magnitude.ofBits (bits + 1) =
        ⟨(Magnitude.ofBits bits).significand + 1, (Magnitude.ofBits bits).exponent, false⟩ ∨
      (Magnitude.ofBits bits).significand = 2 ^ 53 - 1 ∧
        Magnitude.ofBits (bits + 1) = ⟨2 ^ 52, (Magnitude.ofBits bits).exponent + 1, true⟩ := by
  simp only [Magnitude.ofBits]
  by_cases carries : bits % 2 ^ 52 = 2 ^ 52 - 1
  · have nextField : (bits + 1) / 2 ^ 52 = bits / 2 ^ 52 + 1 := by omega
    have nextFraction : (bits + 1) % 2 ^ 52 = 0 := by omega
    by_cases subnormal : bits / 2 ^ 52 = 0
    · left
      simp [subnormal, carries, nextField, nextFraction]
    · right
      simp [subnormal, carries, nextField, nextFraction]
      omega
  · left
    have nextField : (bits + 1) / 2 ^ 52 = bits / 2 ^ 52 := by omega
    have nextFraction : (bits + 1) % 2 ^ 52 = bits % 2 ^ 52 + 1 := by omega
    by_cases subnormal : bits / 2 ^ 52 = 0
    · simp [subnormal, nextField, nextFraction]
    · simp [subnormal, nextField, nextFraction, Nat.add_right_comm]

section Finite

variable {bits : Nat} (positive : 0 < bits)

include positive

theorem significand_pos : 0 < (Magnitude.ofBits bits).significand := by
  rw [Magnitude.ofBits]
  split <;> · dsimp only; omega

/-- The interval of one float ends where the one of the next begins. -/
theorem highEnd_eq_lowEnd_succ : (intervalOf bits).highEnd = (intervalOf (bits + 1)).lowEnd := by
  rw [(ends_ofMagnitude (significand_pos positive)).2.2,
    (ends_ofMagnitude (significand_pos bits.succ_pos)).1]
  rcases ofBits_succ bits with next | ⟨last, next⟩
  · rw [next]
    push_cast
    ring
  · have doubled : (2 : ℚ) ^ ((Magnitude.ofBits bits).exponent + 1 - 2) =
        2 ^ ((Magnitude.ofBits bits).exponent - 2) * 2 := by
      rw [← zpow_add_one₀ (by norm_num)]
      congr 1
      omega
    rw [next, last]
    dsimp only
    rw [doubled, if_pos rfl]
    push_cast
    ring

theorem lowEnd_lt_highEnd : (intervalOf bits).lowEnd < (intervalOf bits).highEnd := by
  rw [(ends_ofMagnitude (significand_pos positive)).1,
    (ends_ofMagnitude (significand_pos positive)).2.2]
  gcongr
  split <;> linarith

theorem highEnd_le_lowEnd {other : Nat} (less : bits < other) :
    (intervalOf bits).highEnd ≤ (intervalOf other).lowEnd := by
  induction other, Nat.succ_le_of_lt less using Nat.le_induction with
  | base => exact (highEnd_eq_lowEnd_succ positive).le
  | succ other further ih =>
      have otherPositive : 0 < other := positive.trans further
      calc (intervalOf bits).highEnd
        _ ≤ (intervalOf other).lowEnd := ih further
        _ ≤ (intervalOf other).highEnd := (lowEnd_lt_highEnd otherPositive).le
        _ = (intervalOf (other + 1)).lowEnd := highEnd_eq_lowEnd_succ otherPositive

end Finite

/-- An interval has its ends exactly if the bits are even. -/
theorem closed_intervalOf (bits : Nat) : (intervalOf bits).closed = decide (bits % 2 = 0) := by
  change decide ((Magnitude.ofBits bits).significand % 2 = 0) = _
  rw [decide_eq_decide, Magnitude.ofBits]
  split <;> · dsimp only; omega

theorem not_contains_of_lt {bits other : Nat} (positive : 0 < bits) (less : bits < other)
    {number : ℚ} (contained : (intervalOf bits).Contains number) :
    ¬(intervalOf other).Contains number := by
  intro otherContained
  have apart := highEnd_le_lowEnd positive less
  have atHigh : number = (intervalOf bits).highEnd :=
    contained.bounds.2.antisymm (apart.trans otherContained.bounds.1)
  have atLow : number = (intervalOf other).lowEnd :=
    (contained.bounds.2.trans apart).antisymm otherContained.bounds.1
  have even : bits % 2 = 0 := by
    by_contra odd
    rw [Interval.Contains, closed_intervalOf, decide_eq_false odd] at contained
    exact contained.2.ne atHigh
  have otherEven : other % 2 = 0 := by
    by_contra odd
    rw [Interval.Contains, closed_intervalOf, decide_eq_false odd] at otherContained
    exact otherContained.1.ne' atLow
  -- Two even floats are not neighbours, and the whole interval of another one is between them.
  have between : bits + 1 < other := by omega
  have gap := highEnd_le_lowEnd bits.succ_pos between
  have wide := lowEnd_lt_highEnd bits.succ_pos
  rw [← highEnd_eq_lowEnd_succ positive, ← atHigh] at wide
  rw [← atLow] at gap
  exact (wide.trans_le gap).false

/-- A rational rounds to one float only. -/
theorem eq_of_contains {bits other : Nat} (positive : 0 < bits) (otherPositive : 0 < other)
    {number : ℚ} (contained : (intervalOf bits).Contains number)
    (otherContained : (intervalOf other).Contains number) : bits = other := by
  rcases Nat.lt_trichotomy bits other with less | same | greater
  · exact absurd otherContained (not_contains_of_lt positive less contained)
  · exact same
  · exact absurd contained (not_contains_of_lt otherPositive greater otherContained)

/-! ## Digits of a float -/

/-- Half a step of the seventeenth grid is less than the gap below a float. -/
theorem twice_significand_lt (bits : Nat) :
    2 * (Magnitude.ofBits bits).significand <
      10 ^ 16 * if (Magnitude.ofBits bits).unevenGap then 1 else 2 := by
  rw [Magnitude.ofBits]
  split
  · rw [if_neg (by simp)]
    dsimp only
    omega
  · by_cases uneven : bits % 2 ^ 52 = 0 ∧ 1 < bits / 2 ^ 52
    · rw [if_pos (decide_eq_true uneven)]
      dsimp only
      omega
    · rw [if_neg (by rw [decide_eq_true_eq]; exact uneven)]
      dsimp only
      omega

section Range

variable {bits : Nat} (positive : 0 < bits) (finite : bits < Rounding.infinityBits)

include positive finite

theorem log2_range :
    -1100 ≤ ((intervalOf bits).value.log2 : ℤ) - ((intervalOf bits).denominator.log2 : ℤ) ∧
      ((intervalOf bits).value.log2 : ℤ) - ((intervalOf bits).denominator.log2 : ℤ) ≤ 1100 := by
  have range : -1074 ≤ (Magnitude.ofBits bits).exponent ∧
      (Magnitude.ofBits bits).exponent ≤ 971 ∧ (Magnitude.ofBits bits).significand < 2 ^ 53 := by
    rw [Rounding.infinityBits] at finite
    rw [Magnitude.ofBits]
    split <;> · dsimp only; omega
  have denominator : (intervalOf bits).denominator.log2 =
      (2 - (Magnitude.ofBits bits).exponent).toNat := Nat.log2_two_pow
  have value : (intervalOf bits).value.log2 < 1024 := by
    have nonzero := significand_pos positive
    have whole : (intervalOf bits).value = 4 * (Magnitude.ofBits bits).significand *
      2 ^ ((Magnitude.ofBits bits).exponent - 2).toNat := rfl
    rw [Nat.log2_lt (by rw [whole]; positivity), whole]
    calc 4 * (Magnitude.ofBits bits).significand * 2 ^ ((Magnitude.ofBits bits).exponent - 2).toNat
      _ < 2 ^ 55 * 2 ^ ((Magnitude.ofBits bits).exponent - 2).toNat := by
        gcongr
        omega
      _ = 2 ^ (55 + ((Magnitude.ofBits bits).exponent - 2).toNat) := (Nat.pow_add _ _ _).symm
      _ ≤ 2 ^ 1024 := Nat.pow_le_pow_right (by decide) (by omega)
  omega

/-- Half a step of the seventeenth grid is less than the gap below the float. -/
theorem half_step_lt :
    (10 : ℚ) ^ ((intervalOf bits).decimalLog + 1 - (17 : ℕ)) / 2 <
      (if (Magnitude.ofBits bits).unevenGap then 1 else 2) *
        2 ^ ((Magnitude.ofBits bits).exponent - 2) := by
  rcases log2_range positive finite with ⟨low, high⟩
  have nonzero : (intervalOf bits).value ≠ 0 :=
    (Nat.mul_pos (Nat.mul_pos (by decide) (significand_pos positive)) (Nat.two_pow_pos _)).ne'
  have fits := Interval.ten_zpow_decimalLog_le rfl nonzero low high
  have step : (10 : ℚ) ^ ((intervalOf bits).decimalLog + 1 - (17 : ℕ)) * 10 ^ 16 =
      10 ^ (intervalOf bits).decimalLog := by
    rw [← zpow_natCast, ← zpow_add₀ (by norm_num)]
    congr 1
    omega
  have unit : (0 : ℚ) < 2 ^ ((Magnitude.ofBits bits).exponent - 2) := by positivity
  have fine : 2 * ((Magnitude.ofBits bits).significand : ℚ) <
      10 ^ 16 * if (Magnitude.ofBits bits).unevenGap then 1 else 2 := by
    exact_mod_cast twice_significand_lt bits
  rw [← step, (ends_ofMagnitude (significand_pos positive)).2.1,
    ← le_div_iff₀ (by norm_num)] at fits
  calc (10 : ℚ) ^ ((intervalOf bits).decimalLog + 1 - (17 : ℕ)) / 2
    _ ≤ 4 * (Magnitude.ofBits bits).significand * 2 ^ ((Magnitude.ofBits bits).exponent - 2) /
          10 ^ 16 / 2 := by gcongr
    _ = 2 * (Magnitude.ofBits bits).significand / 10 ^ 16 *
          2 ^ ((Magnitude.ofBits bits).exponent - 2) := by ring
    _ < _ := mul_lt_mul_of_pos_right ((div_lt_iff₀' (by norm_num)).mpr fine) unit

/-- The seventeenth grid has a hit. -/
theorem exists_onGrid?_finest :
    ∃ digits, (intervalOf bits).onGrid? ((intervalOf bits).decimalLog + 1 - (17 : ℕ)) =
      some digits := by
  rcases ends_ofMagnitude (significand_pos positive) with ⟨lowEnd, middle, highEnd⟩
  have half := half_step_lt positive finite
  have narrow : (if (Magnitude.ofBits bits).unevenGap then 1 else 2) *
      (2 : ℚ) ^ ((Magnitude.ofBits bits).exponent - 2) ≤
        2 * 2 ^ ((Magnitude.ofBits bits).exponent - 2) := by
    gcongr
    split <;> norm_num
  have fits : (10 : ℚ) ^ ((intervalOf bits).decimalLog + 1 - (17 : ℕ)) ≤
      (intervalOf bits).middle := by
    have atLeast : (1 : ℚ) ≤ (Magnitude.ofBits bits).significand := by
      exact_mod_cast significand_pos positive
    have whole := (div_lt_iff₀ (by norm_num)).mp (half.trans_le narrow)
    calc (10 : ℚ) ^ ((intervalOf bits).decimalLog + 1 - (17 : ℕ))
      _ ≤ 2 * 2 ^ ((Magnitude.ofBits bits).exponent - 2) * 2 := whole.le
      _ = 4 * 1 * 2 ^ ((Magnitude.ofBits bits).exponent - 2) := by ring
      _ ≤ 4 * (Magnitude.ofBits bits).significand * 2 ^ ((Magnitude.ofBits bits).exponent - 2) := by
        gcongr
      _ = (intervalOf bits).middle := middle.symm
  apply Interval.exists_onGrid? (Nat.two_pow_pos _) fits
  · rw [lowEnd, middle, sub_mul]
    linarith
  · rw [highEnd, middle, add_mul]
    linarith

/-- The digits of a finite float round to it. -/
theorem contains_ofBits : (intervalOf bits).Contains (ofBits bits).value := by
  rcases Interval.exists_search (exists_onGrid?_finest positive finite) (by decide : 1 ≤ 17)
    (by decide : 17 < 1 + 17) with ⟨decimal, found⟩
  have scale : 0 < (intervalOf bits).denominator := Nat.two_pow_pos _
  simp only [ofBits, found, Digits.value_strip]
  exact (Interval.contains_of_search scale found).2

theorem value_ofBits_pos : 0 < (ofBits bits).value := by
  apply lt_of_lt_of_le _ (contains_ofBits positive finite).bounds.1
  have unit : (0 : ℚ) < 2 ^ ((Magnitude.ofBits bits).exponent - 2) := by positivity
  have atLeast : (1 : ℚ) ≤ (Magnitude.ofBits bits).significand := by
    exact_mod_cast significand_pos positive
  rw [(ends_ofMagnitude (significand_pos positive)).1]
  apply mul_pos _ unit
  split <;> linarith

/-- Different floats have digits of different values. -/
theorem value_ofBits_inj {other : Nat} (otherPositive : 0 < other)
    (otherFinite : other < Rounding.infinityBits) :
    (ofBits bits).value = (ofBits other).value ↔ bits = other := by
  constructor
  · intro same
    have contained := contains_ofBits positive finite
    rw [same] at contained
    exact eq_of_contains positive otherPositive contained
      (contains_ofBits otherPositive otherFinite)
  · intro same
    rw [same]

end Range

end RuleSchema.Decimal.Shortest
