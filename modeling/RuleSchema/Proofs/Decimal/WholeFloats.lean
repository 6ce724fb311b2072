import Mathlib
import RuleSchema.Proofs.Decimal.WholeRounding

/-!
# Whole numbers as floats

A whole number of a size up to `2 ^ 53` is a float without rounding: its significand is the
number shifted to fifty-three bits, and its exponent tells by how much.  Of a larger one the
float has what rounding leaves of it.

Floats are compared by exponent and then by significand, so that whole numbers are ordered as
floats as what is left of them is.  Their own order is kept, but numbers beyond `2 ^ 53` can
become equal.
-/

namespace RuleSchema.Decimal.Rounding

open Float.Model Float.Model.UnpackedFloat

/-! ## Bit patterns -/

theorem toNat_packComponents (sign : Sign) (exponent : BitVec 11) (mantissa : BitVec 52) :
    (packComponents Format.binary64 sign exponent mantissa).toNat =
      sign.toBitVec.toNat * 2 ^ 63 + exponent.toNat * 2 ^ 52 + mantissa.toNat := by
  rw [packComponents, BitVec.toNat_append, BitVec.toNat_append,
    ← Nat.shiftLeft_add_eq_or_of_lt mantissa.isLt, ← Nat.shiftLeft_add_eq_or_of_lt exponent.isLt]
  simp only [Nat.shiftLeft_eq]
  omega

theorem unpackSign_packComponents (sign : Sign) (exponent : BitVec 11) (mantissa : BitVec 52) :
    Sign.ofBitVec (unpackSign (packComponents Format.binary64 sign exponent mantissa)) = sign := by
  have same : unpackSign (packComponents Format.binary64 sign exponent mantissa) =
      sign.toBitVec := by
    apply BitVec.eq_of_toNat_eq
    have lowExponent := exponent.isLt
    have lowMantissa := mantissa.isLt
    have lowSign := sign.toBitVec.isLt
    simp only [unpackSign, BitVec.extractLsb, BitVec.toNat_cast, BitVec.extractLsb'_toNat,
      toNat_packComponents, Nat.shiftRight_eq_div_pow]
    omega
  rw [same]
  cases sign <;> rfl

section Normal

variable {sign : Sign} {exponent significand : Nat} (normal : 1 ≤ exponent)
  (finite : exponent < 2047) (low : 2 ^ 52 ≤ significand) (high : significand < 2 ^ 53)

include normal finite low high

/-- A pattern of a normal number gives back its significand and its exponent. -/
theorem unpack_packComponents :
    UnpackedFloat.unpack Format.binary64 (packComponents Format.binary64 sign
        (BitVec.ofNat 11 exponent) (BitVec.ofNat 52 significand)) =
      .finite sign significand (exponent - 1075) (by omega) := by
  have exponentWord : (BitVec.ofNat 11 exponent).toNat = exponent := by
    rw [BitVec.toNat_ofNat, Nat.mod_eq_of_lt (by omega)]
  have notSpecial : BitVec.ofNat 11 exponent ≠ -1#11 := by
    intro same
    have equal := congrArg BitVec.toNat same
    rw [exponentWord] at equal
    simp at equal
    omega
  have notSubnormal : BitVec.ofNat 11 exponent ≠ 0#11 := by
    intro same
    have equal := congrArg BitVec.toNat same
    rw [exponentWord] at equal
    simp at equal
    omega
  have withImplicit : (1#1 ++ BitVec.ofNat 52 significand).toNat = significand := by
    rw [BitVec.toNat_append, ← Nat.shiftLeft_add_eq_or_of_lt (BitVec.isLt _),
      BitVec.toNat_ofNat, Nat.shiftLeft_eq]
    simp
    omega
  unfold UnpackedFloat.unpack
  simp only [unpackMantissa_packComponents, unpackExponent_packComponents,
    unpackSign_packComponents]
  rw [if_neg notSpecial, if_neg notSubnormal]
  simp only [withImplicit, exponentWord]
  congr 1

theorem pack_finite :
    UnpackedFloat.pack Format.binary64 (.finite sign significand (exponent - 1075) (by omega)) =
      packComponents Format.binary64 sign (BitVec.ofNat 11 exponent)
        (BitVec.ofNat 52 significand) := by
  have bits : significand.log2 + 1 = Format.binary64.mantissaBits := by
    have exact : significand.log2 = 52 := (Nat.log2_eq_iff (by omega)).mpr ⟨low, high⟩
    rw [exact]
    rfl
  have biased : ((exponent : Int) - 1075 + (Format.binary64.exponentBias : Int) +
      (Format.binary64.mantissaBitsWithoutImplicit : Int)).toNat = exponent := by
    have bias : (Format.binary64.exponentBias : Int) = 1023 := rfl
    have width : (Format.binary64.mantissaBitsWithoutImplicit : Int) = 52 := rfl
    rw [bias, width]
    omega
  simp only [UnpackedFloat.pack, biased]
  have noOverflow : ¬2 ^ Format.binary64.exponentBits ≤ exponent + 1 := by
    change ¬2 ^ 11 ≤ exponent + 1
    omega
  rw [if_neg noOverflow, if_pos bits]

theorem toBitVec_ofNat {negative : Bool} :
    (UInt64.ofNat (if negative then (exponent - 1) * 2 ^ 52 + significand + 2 ^ 63
      else (exponent - 1) * 2 ^ 52 + significand)).toBitVec =
      packComponents Format.binary64 (if negative then .negative else .positive)
        (BitVec.ofNat 11 exponent) (BitVec.ofNat 52 significand) := by
  apply BitVec.eq_of_toNat_eq
  rw [toNat_packComponents, BitVec.toNat_ofNat, BitVec.toNat_ofNat, UInt64.toNat_toBitVec,
    UInt64.toNat_ofNat']
  cases negative with
  | false =>
      have signBit : (Sign.toBitVec .positive).toNat = 0 := rfl
      simp only [Bool.false_eq_true, if_false, signBit]
      omega
  | true =>
      have signBit : (Sign.toBitVec .negative).toNat = 1 := rfl
      simp only [if_true, signBit]
      omega

/-- The float of a pattern of a normal number has its significand and its exponent. -/
theorem unpack_withSign {negative : Bool} :
    (withSign negative ((exponent - 1) * 2 ^ 52 + significand)).toModel.unpack =
      .finite (if negative then .negative else .positive) significand (exponent - 1075)
        (by omega) := by
  have unfolded (word : UInt64) : (Float.ofBits word).toModel.unpack =
      UnpackedFloat.unpack Format.binary64 (UnpackedFloat.pack Format.binary64
        (UnpackedFloat.unpack Format.binary64 word.toBitVec)) := rfl
  rw [withSign, unfolded, toBitVec_ofNat normal finite low high,
    unpack_packComponents normal finite low high, pack_finite normal finite low high,
    unpack_packComponents normal finite low high]

end Normal

/-! ## Whole numbers -/

/-- The significand of a whole number, which has fifty-three bits. -/
def significand (size : Nat) : Nat := size * 2 ^ (53 - size.log2) / 2

/-- Twice the significand is the whole number shifted to fifty-four bits. -/
theorem twice_significand {size : Nat} (positive : 0 < size) (small : size ≤ 2 ^ 53) :
    2 * significand size = size * 2 ^ (53 - size.log2) := by
  have bound := log2_le_of_small positive small
  have even : 2 ∣ size * 2 ^ (53 - size.log2) := by
    by_cases greatest : size.log2 = 53
    · have lower := Nat.log2_self_le (Nat.ne_of_gt positive)
      rw [greatest] at lower
      have divides : 2 ∣ size := by omega
      exact Nat.dvd_mul_right_of_dvd divides _
    · have shifts : 2 ^ 1 ∣ 2 ^ (53 - size.log2) := Nat.pow_dvd_pow 2 (by omega)
      exact Nat.dvd_mul_left_of_dvd shifts size
  exact Nat.mul_div_cancel' even

theorem significand_bounds {size : Nat} (positive : 0 < size) (small : size ≤ 2 ^ 53) :
    2 ^ 52 ≤ significand size ∧ significand size < 2 ^ 53 := by
  have bound := log2_le_of_small positive small
  have twice := twice_significand positive small
  have lower := Nat.mul_le_mul_right (2 ^ (53 - size.log2))
    (Nat.log2_self_le (Nat.ne_of_gt positive))
  have above : size < 2 ^ (size.log2 + 1) := Nat.lt_log2_self
  have upper := Nat.mul_lt_mul_of_pos_right above (Nat.two_pow_pos (53 - size.log2))
  rw [← Nat.pow_add] at lower upper
  have lowExponent : size.log2 + (53 - size.log2) = 53 := by omega
  have highExponent : size.log2 + 1 + (53 - size.log2) = 54 := by omega
  rw [lowExponent] at lower
  rw [highExponent] at upper
  omega

theorem ratioLog_one {size : Nat} (positive : 0 < size) : ratioLog size 1 = size.log2 := by
  have lower := Nat.log2_self_le (Nat.ne_of_gt positive)
  have unit : Nat.log2 1 = 0 := by decide
  simp [ratioLog, unit, lower]

/-- Whole numbers of small size are not rounded. -/
theorem nearestBits_whole {size : Nat} (positive : 0 < size) (small : size ≤ 2 ^ 53) :
    nearestBits size 1 = (size.log2 + 1023 - 1) * 2 ^ 52 + significand size := by
  have bound := log2_le_of_small positive small
  have bounds := significand_bounds positive small
  have twice := twice_significand positive small
  have place : max ((size.log2 : Int) - 52) (-1074) = (size.log2 : Int) - 52 := by omega
  have rounded :
      (if (size.log2 : Int) - 52 ≥ 0 then
        divideToEven size (1 * 2 ^ ((size.log2 : Int) - 52).toNat)
      else divideToEven (size * 2 ^ (-((size.log2 : Int) - 52)).toNat) 1) = significand size := by
    split
    · next large =>
      have whole : size = significand size * (1 * 2 ^ ((size.log2 : Int) - 52).toNat) := by
        rcases Nat.lt_or_eq_of_le bound with below | greatest
        · have middle : size.log2 = 52 := by omega
          rw [middle] at twice ⊢
          simp
          omega
        · rw [greatest] at twice ⊢
          simp
          omega
      have cancelled := divideToEven_exact (significand size)
        (1 * 2 ^ ((size.log2 : Int) - 52).toNat) (Nat.mul_pos Nat.one_pos (Nat.two_pow_pos _))
      rw [← whole] at cancelled
      exact cancelled
    · next little =>
      have shift : (-((size.log2 : Int) - 52)).toNat + 1 = 53 - size.log2 := by omega
      have whole : size * 2 ^ (-((size.log2 : Int) - 52)).toNat = significand size * 1 := by
        rw [← shift, Nat.pow_succ, ← Nat.mul_assoc] at twice
        omega
      rw [whole]
      exact divideToEven_exact (significand size) 1 (by decide)
  rw [nearestBits, if_neg (by omega), ratioLog_one positive]
  simp only [place, rounded]
  have exponent : ((size.log2 : Int) - 52 + 1074).toNat = size.log2 + 1023 - 1 := by omega
  rw [exponent, Nat.min_eq_left]
  rw [infinityBits]
  omega

/-! ## Floats of whole numbers -/

/--
The float nearest to a positive size has this binary place and this significand, which is
its exact value.
-/
structure Encodes (size place significand : Nat) : Prop where
  bounded : place ≤ 64
  low : 2 ^ 52 ≤ significand
  high : significand < 2 ^ 53
  bits : nearestBits size 1 = (place + 1023 - 1) * 2 ^ 52 + significand
  value : significand * 2 ^ place = roundedSize size * 2 ^ 52

theorem encodes_small {size : Nat} (positive : 0 < size) (small : size ≤ 2 ^ 53) :
    Encodes size size.log2 (significand size) := by
  have bound := log2_le_of_small positive small
  have bounds := significand_bounds positive small
  refine ⟨by omega, bounds.1, bounds.2, nearestBits_whole positive small, ?_⟩
  have twice := twice_significand positive small
  have shift : 53 - size.log2 + size.log2 = 1 + 52 := by omega
  apply Nat.eq_of_mul_eq_mul_left (show 0 < 2 by decide)
  rw [roundedSize_of_small small]
  calc
    2 * (significand size * 2 ^ size.log2) = size * (2 ^ (53 - size.log2) * 2 ^ size.log2) := by
      rw [← Nat.mul_assoc, twice, Nat.mul_assoc]
    _ = size * (2 ^ 1 * 2 ^ 52) := by rw [← Nat.pow_add, shift, Nat.pow_add]
    _ = 2 * (size * 2 ^ 52) := by rw [Nat.pow_one, Nat.mul_left_comm]

/-- A larger size is divided by the place of its last digit, which may carry. -/
theorem nearestBits_large {size : Nat} (large : 52 ≤ size.log2) (bounded : size < 2 ^ 64) :
    nearestBits size 1 =
      (size.log2 - 52 + 1074) * 2 ^ 52 + divideToEven size (2 ^ (size.log2 - 52)) := by
  have notZero : size ≠ 0 := by
    rintro rfl
    cases large
  have logBound : size.log2 < 64 := (Nat.log2_lt notZero).mpr bounded
  have place : max ((size.log2 : Int) - 52) (-1074) = ((size.log2 - 52 : Nat) : Int) := by omega
  have quotient := quotient_bounds large
  have rounding := divideToEven_bounds size (2 ^ (size.log2 - 52))
  have exponent : (((size.log2 - 52 : Nat) : Int) + 1074).toNat = size.log2 - 52 + 1074 := by omega
  rw [nearestBits, if_neg (by omega), ratioLog_one (Nat.pos_of_ne_zero notZero)]
  dsimp only
  rw [place, if_pos (by omega), exponent, Int.toNat_natCast, Nat.one_mul, Nat.min_eq_left]
  rw [infinityBits]
  omega

theorem exists_encodes {size : Nat} (positive : 0 < size) (bounded : size < 2 ^ 64) :
    ∃ place significand, Encodes size place significand := by
  by_cases small : size ≤ 2 ^ 53
  · exact ⟨_, _, encodes_small positive small⟩
  have large : 53 ≤ size.log2 := by
    rw [Nat.le_log2 (Nat.ne_of_gt positive)]
    omega
  have logBound : size.log2 < 64 := (Nat.log2_lt (Nat.ne_of_gt positive)).mpr bounded
  have quotient := quotient_bounds (show 52 ≤ size.log2 by omega)
  have rounding := divideToEven_bounds size (2 ^ (size.log2 - 52))
  by_cases carries : divideToEven size (2 ^ (size.log2 - 52)) = 2 ^ 53
  · have bits := nearestBits_large (by omega) bounded
    have carried : (size.log2 - 52 + 1074) * 2 ^ 52 + 2 ^ 53 =
        (size.log2 + 1 + 1023 - 1) * 2 ^ 52 + 2 ^ 52 := by omega
    have shift : 52 + (size.log2 + 1) = 53 + (size.log2 - 52) + 52 := by omega
    rw [carries, carried] at bits
    refine ⟨size.log2 + 1, 2 ^ 52, by omega, by decide, by decide, bits, ?_⟩
    rw [roundedSize, carries, ← Nat.pow_add, ← Nat.pow_add, ← Nat.pow_add, shift]
  · have bits := nearestBits_large (by omega) bounded
    have exponent : size.log2 - 52 + 1074 = size.log2 + 1023 - 1 := by omega
    have shift : size.log2 - 52 + 52 = size.log2 := by omega
    rw [exponent] at bits
    refine ⟨size.log2, _, by omega, by omega, by omega, bits, ?_⟩
    rw [roundedSize, Nat.mul_assoc, ← Nat.pow_add, shift]

/-- Of two encoded sizes, the one of the higher place is larger. -/
theorem Encodes.lt_of_place_lt {first second place other significand next : Nat}
    (firstEncoded : Encodes first place significand) (secondEncoded : Encodes second other next)
    (below : place < other) : roundedSize first < roundedSize second := by
  apply Nat.lt_of_mul_lt_mul_right (a := 2 ^ 52)
  rw [← firstEncoded.value, ← secondEncoded.value]
  calc
    significand * 2 ^ place < 2 ^ 53 * 2 ^ place :=
      Nat.mul_lt_mul_of_pos_right firstEncoded.high (Nat.two_pow_pos place)
    _ = 2 ^ 52 * 2 ^ (place + 1) := by rw [← Nat.pow_add, ← Nat.pow_add]; congr 1; omega
    _ ≤ 2 ^ 52 * 2 ^ other := Nat.mul_le_mul_left _ (Nat.pow_le_pow_right (by decide) below)
    _ ≤ next * 2 ^ other := Nat.mul_le_mul_right _ secondEncoded.low

/-- Encoded sizes are in the order of their places, or of their significands at one place. -/
theorem Encodes.compare_eq {first second place other significand next : Nat}
    (firstEncoded : Encodes first place significand)
    (secondEncoded : Encodes second other next) :
    (compare ((place : Int) - 52) ((other : Int) - 52)).then (compare significand next) =
      compare (roundedSize first) (roundedSize second) := by
  rcases Nat.lt_trichotomy place other with below | same | above
  · rw [Int.compare_eq_lt.mpr (by omega),
      Nat.compare_eq_lt.mpr (firstEncoded.lt_of_place_lt secondEncoded below)]
    rfl
  · subst same
    have firstValue := firstEncoded.value
    have secondValue := secondEncoded.value
    rw [Int.compare_eq_eq.mpr rfl, Ordering.eq_then]
    have scale : 0 < 2 ^ place := Nat.two_pow_pos place
    rcases Nat.lt_trichotomy significand next with less | equal | more
    · have products := Nat.mul_lt_mul_of_pos_right less scale
      rw [Nat.compare_eq_lt.mpr less, Nat.compare_eq_lt.mpr (by omega)]
    · subst equal
      rw [Nat.compare_eq_eq.mpr rfl, Nat.compare_eq_eq.mpr (by omega)]
    · have products := Nat.mul_lt_mul_of_pos_right more scale
      rw [Nat.compare_eq_gt.mpr more, Nat.compare_eq_gt.mpr (by omega)]
  · rw [Int.compare_eq_gt.mpr (by omega),
      Nat.compare_eq_gt.mpr (secondEncoded.lt_of_place_lt firstEncoded above)]
    rfl

theorem unpack_ofInt {value : Int} {place significand : Nat}
    (encodes : Encodes value.natAbs place significand) :
    ∃ positive, (ofInt value).toModel.unpack =
      .finite (if value < 0 then .negative else .positive) significand ((place : Int) - 52)
        positive := by
  have low := encodes.low
  have bounded := encodes.bounded
  have shifted : ((place + 1023 : Nat) : Int) - 1075 = (place : Int) - 52 := by omega
  refine ⟨by omega, ?_⟩
  rw [ofInt, encodes.bits, unpack_withSign (by omega) (by omega) low encodes.high]
  simp only [shifted, decide_eq_true_eq]

/-! ## Order -/

/-- What a whole number becomes as a float, and what is left of it, by its sign. -/
inductive Unpacks (value : Int) : UnpackedFloat → Int → Prop where
  | zero (isZero : value = 0) : Unpacks value (.zero .positive) 0
  | positive {place significand : Nat} (isPositive : 0 < value)
      (encodes : Encodes value.natAbs place significand) (notZero : 0 < significand) :
      Unpacks value (.finite .positive significand ((place : Int) - 52) notZero)
        (roundedSize value.natAbs)
  | negative {place significand : Nat} (isNegative : value < 0)
      (encodes : Encodes value.natAbs place significand) (notZero : 0 < significand) :
      Unpacks value (.finite .negative significand ((place : Int) - 52) notZero)
        (-(roundedSize value.natAbs : Int))

theorem unpacks_ofInt {value : Int} (bounded : value.natAbs < 2 ^ 64) :
    Unpacks value (ofInt value).toModel.unpack (rounded value) := by
  by_cases isZero : value = 0
  · rw [isZero]
    exact .zero rfl
  rcases exists_encodes (Int.natAbs_pos.mpr isZero) bounded with ⟨place, significand, encodes⟩
  rcases unpack_ofInt encodes with ⟨notZero, unpacked⟩
  rw [unpacked, rounded]
  split
  · next isNegative => exact .negative isNegative encodes notZero
  · next notNegative => exact .positive (by omega) encodes notZero

theorem Encodes.pos {size place significand : Nat} (encodes : Encodes size place significand) :
    0 < roundedSize size := by
  have scaled : 0 < significand * 2 ^ place :=
    Nat.mul_pos (by have low := encodes.low; omega) (Nat.two_pow_pos place)
  rw [encodes.value] at scaled
  exact Nat.pos_of_mul_pos_right scaled

/-- Integers compare as natural numbers that are in the same order do. -/
theorem compare_congr {first second : Nat} {left right : Int} (less : first < second ↔ left < right)
    (more : second < first ↔ right < left) : compare first second = compare left right := by
  rcases Nat.lt_trichotomy first second with below | same | above
  · rw [Nat.compare_eq_lt.mpr below, Int.compare_eq_lt.mpr (less.mp below)]
  · rw [Nat.compare_eq_eq.mpr same, Int.compare_eq_eq.mpr (by omega)]
  · rw [Nat.compare_eq_gt.mpr above, Int.compare_eq_gt.mpr (more.mp above)]

/-- Whole numbers compare as floats as what is left of them does. -/
theorem compare_ofInt {left right : Int} (leftBounded : left.natAbs < 2 ^ 64)
    (rightBounded : right.natAbs < 2 ^ 64) :
    (ofInt left).toModel.unpack.compare (ofInt right).toModel.unpack =
      some (compare (rounded left) (rounded right)) := by
  have leftUnpacks := unpacks_ofInt leftBounded
  have rightUnpacks := unpacks_ofInt rightBounded
  generalize (ofInt left).toModel.unpack = leftFloat at leftUnpacks ⊢
  generalize (ofInt right).toModel.unpack = rightFloat at rightUnpacks ⊢
  generalize rounded left = leftRest at leftUnpacks ⊢
  generalize rounded right = rightRest at rightUnpacks ⊢
  cases leftUnpacks with
  | zero isZero =>
      cases rightUnpacks with
      | zero isZero => rfl
      | positive isPositive encodes notZero =>
          have rest := encodes.pos
          rw [Int.compare_eq_lt.mpr (by omega)]
          rfl
      | negative isNegative encodes notZero =>
          have rest := encodes.pos
          rw [Int.compare_eq_gt.mpr (by omega)]
          rfl
  | positive isPositive leftEncodes leftNotZero =>
      have leftPositive := leftEncodes.pos
      cases rightUnpacks with
      | zero isZero =>
          rw [Int.compare_eq_gt.mpr (by omega)]
          rfl
      | positive isPositive encodes notZero =>
          rw [UnpackedFloat.compare, leftEncodes.compare_eq encodes]
          exact congrArg some (compare_congr (by omega) (by omega))
      | negative isNegative encodes notZero =>
          have rest := encodes.pos
          rw [Int.compare_eq_gt.mpr (by omega)]
          rfl
  | negative isNegative leftEncodes leftNotZero =>
      have leftPositive := leftEncodes.pos
      cases rightUnpacks with
      | zero isZero =>
          rw [Int.compare_eq_lt.mpr (by omega)]
          rfl
      | positive isPositive encodes notZero =>
          have rest := encodes.pos
          rw [Int.compare_eq_lt.mpr (by omega)]
          rfl
      | negative isNegative encodes notZero =>
          rw [UnpackedFloat.compare, leftEncodes.compare_eq encodes, Nat.compare_swap]
          exact congrArg some (compare_congr (by omega) (by omega))

theorem lt_iff_compare {left right : Float} :
    left < right ↔ left.toModel.unpack.compare right.toModel.unpack = some .lt := by
  have unfolded : left < right ↔ decide (left.toModel < right.toModel) = true := Iff.rfl
  have ofModel : left.toModel < right.toModel ↔
      (left.toModel.unpack.compare right.toModel.unpack == some .lt) = true := Iff.rfl
  rw [unfolded, decide_eq_true_eq, ofModel, beq_iff_eq]

theorem beq_iff_compare {left right : Float} :
    (left == right) = true ↔ left.toModel.unpack.compare right.toModel.unpack = some .eq := by
  have ofModel : (left == right) = true ↔
      (left.toModel.unpack.compare right.toModel.unpack == some .eq) = true := Iff.rfl
  rw [ofModel, beq_iff_eq]

/-- Whole numbers are ordered as floats as what is left of them is. -/
theorem ofInt_lt_ofInt_iff {left right : Int} (leftBounded : left.natAbs < 2 ^ 64)
    (rightBounded : right.natAbs < 2 ^ 64) :
    ofInt left < ofInt right ↔ rounded left < rounded right := by
  rw [lt_iff_compare, compare_ofInt leftBounded rightBounded, Option.some.injEq,
    Int.compare_eq_lt]

/-- Whole numbers are one float exactly if the same is left of them. -/
theorem ofInt_beq_ofInt_iff {left right : Int} (leftBounded : left.natAbs < 2 ^ 64)
    (rightBounded : right.natAbs < 2 ^ 64) :
    (ofInt left == ofInt right) = true ↔ rounded left = rounded right := by
  rw [beq_iff_compare, compare_ofInt leftBounded rightBounded, Option.some.injEq,
    Int.compare_eq_eq]

/-- Whole numbers of small size are ordered as floats as they are as integers. -/
theorem ofInt_lt_ofInt {left right : Int} (leftSmall : left.natAbs ≤ 2 ^ 53)
    (rightSmall : right.natAbs ≤ 2 ^ 53) (less : left < right) : ofInt left < ofInt right := by
  rw [ofInt_lt_ofInt_iff (by omega) (by omega), rounded_of_small leftSmall,
    rounded_of_small rightSmall]
  exact less

/--
As floats, a whole number is greater than another exactly if it is as an integer and more
digits than fifty-three do not hide it.
-/
theorem not_ofInt_lt_ofInt_iff {left right : Int} (leftBounded : left.natAbs < 2 ^ 64)
    (rightBounded : right.natAbs < 2 ^ 64) :
    ¬ofInt left < ofInt right ↔ right ≤ left ∨ rounded right = rounded left := by
  rw [ofInt_lt_ofInt_iff leftBounded rightBounded, Int.not_lt]
  constructor
  · intro inOrder
    rcases Int.le_total right left with below | above
    · exact .inl below
    · exact .inr (Int.le_antisymm inOrder (rounded_mono above))
  · rintro (below | same)
    · exact rounded_mono below
    · exact Int.le_of_eq same

end RuleSchema.Decimal.Rounding
