import RuleSchema.Decimal.Reading
import RuleSchema.Proofs.Decimal.WholeFloats

/-!
# The order of floats

Floats other than NaN are in a linear order, in which the two zeros are equal; a comparison
with NaN is false.  NaN is no number that rounding gives: a decimal text is NaN only by name.
-/

namespace RuleSchema.Decimal

open Rounding
open Float.Model Float.Model.UnpackedFloat

/-! ## Comparisons -/

theorem compare_eq_none_iff {left right : UnpackedFloat} :
    left.compare right = none ↔ left = .notANumber ∨ right = .notANumber := by
  rcases left with (_ | _) | _ | _ | ⟨_ | _, _, _, _⟩ <;>
    rcases right with (_ | _) | _ | _ | ⟨_ | _, _, _, _⟩ <;>
      simp [UnpackedFloat.compare]

theorem compare_swap (left right : UnpackedFloat) :
    right.compare left = (left.compare right).map Ordering.swap := by
  rcases left with (_ | _) | _ | _ | ⟨_ | _, leftSignificand, leftExponent, _⟩ <;>
    rcases right with (_ | _) | _ | _ | ⟨_ | _, rightSignificand, rightExponent, _⟩ <;>
      first
      | rfl
      | simp [UnpackedFloat.compare, Ordering.swap_then, Int.compare_swap, Nat.compare_swap]

theorem le_iff_compare {left right : Float} :
    left ≤ right ↔
      left.toModel.unpack.compare right.toModel.unpack = some .lt ∨
        left.toModel.unpack.compare right.toModel.unpack = some .eq := by
  have unfolded : left ≤ right ↔ decide (left.toModel ≤ right.toModel) = true := Iff.rfl
  have ofModel : left.toModel ≤ right.toModel ↔
      (left.toModel.unpack.compare right.toModel.unpack).any Ordering.isLE = true := Iff.rfl
  rw [unfolded, decide_eq_true_eq, ofModel]
  rcases left.toModel.unpack.compare right.toModel.unpack with _ | (_ | _ | _) <;> decide

theorem isNaN_iff_unpack {value : Float} :
    value.isNaN = true ↔ value.toModel.unpack = .notANumber :=
  UnpackedFloat.isNaN_iff

/-- Of two floats that are not NaN, one is below the other, or they are equal. -/
theorem exists_compare {left right : Float} (leftNumber : left.isNaN = false)
    (rightNumber : right.isNaN = false) :
    ∃ order, left.toModel.unpack.compare right.toModel.unpack = some order := by
  apply Option.ne_none_iff_exists'.mp
  intro incomparable
  rcases compare_eq_none_iff.mp incomparable with isNaN | isNaN
  · exact Bool.false_ne_true (leftNumber.symm.trans (isNaN_iff_unpack.mpr isNaN))
  · exact Bool.false_ne_true (rightNumber.symm.trans (isNaN_iff_unpack.mpr isNaN))

section Linear

variable {left right : Float} (leftNumber : left.isNaN = false)
  (rightNumber : right.isNaN = false)

include leftNumber rightNumber

theorem not_le_iff_lt : ¬left ≤ right ↔ right < left := by
  rcases exists_compare leftNumber rightNumber with ⟨order, compared⟩
  rw [le_iff_compare, lt_iff_compare, compare_swap left.toModel.unpack, compared]
  cases order <;> decide

theorem not_lt_iff_le : ¬left < right ↔ right ≤ left := by
  rcases exists_compare leftNumber rightNumber with ⟨order, compared⟩
  rw [lt_iff_compare, le_iff_compare, compare_swap left.toModel.unpack, compared]
  cases order <;> decide

end Linear

/-- Floats that are compared are no NaN. -/
theorem isNaN_eq_false_of_le {left right : Float} (inOrder : left ≤ right) :
    left.isNaN = false ∧ right.isNaN = false := by
  have compared : left.toModel.unpack.compare right.toModel.unpack ≠ none := by
    intro incomparable
    rw [le_iff_compare, incomparable] at inOrder
    rcases inOrder with less | equal
    · cases less
    · cases equal
  rw [Ne, compare_eq_none_iff, not_or, ← isNaN_iff_unpack, ← isNaN_iff_unpack,
    Bool.not_eq_true, Bool.not_eq_true] at compared
  exact compared

theorem isNaN_eq_false_of_lt {left right : Float} (less : left < right) :
    left.isNaN = false ∧ right.isNaN = false :=
  isNaN_eq_false_of_le (le_iff_compare.mpr (.inl (lt_iff_compare.mp less)))

/-! ## Bit patterns -/

theorem toNat_unpackExponent (bits : BitVec Format.binary64.numBits) :
    (unpackExponent bits).toNat = bits.toNat % 2 ^ 63 / 2 ^ 52 := by
  simp only [unpackExponent, BitVec.extractLsb, BitVec.toNat_cast, BitVec.extractLsb'_toNat,
    Nat.shiftRight_eq_div_pow]
  change bits.toNat / 2 ^ 52 % 2 ^ 11 = _
  omega

theorem toNat_unpackMantissa (bits : BitVec Format.binary64.numBits) :
    (unpackMantissa bits).toNat = bits.toNat % 2 ^ 52 := by
  simp only [unpackMantissa, BitVec.extractLsb, BitVec.toNat_cast, BitVec.extractLsb'_toNat,
    Nat.shiftRight_eq_div_pow]
  change bits.toNat / 2 ^ 0 % 2 ^ 52 = _
  omega

/-- The patterns of NaN are those beyond infinity, the sign removed. -/
theorem isNaNBits_iff (bits : BitVec Format.binary64.numBits) :
    isNaNBits bits = true ↔ infinityBits < bits.toNat % 2 ^ 63 := by
  have exponent : unpackExponent bits = -1#11 ↔
      bits.toNat % 2 ^ 63 / 2 ^ 52 = 2047 := by
    rw [← BitVec.toNat_inj, toNat_unpackExponent]
    rfl
  have mantissa : unpackMantissa bits = 0#52 ↔
      bits.toNat % 2 ^ 52 = 0 := by
    rw [← BitVec.toNat_inj, toNat_unpackMantissa]
    rfl
  rw [isNaNBits, decide_eq_true_eq, Ne, exponent, mantissa, infinityBits]
  omega

/-- A float has the bits that it was made of, unless they are a pattern of NaN. -/
theorem toBits_ofBits {word : UInt64} (number : word.toNat % 2 ^ 63 ≤ infinityBits) :
    (Float.ofBits word).toBits = word := by
  have notNaN : ¬@isNaNBits Format.binary64 word.toBitVec = true := by
    rw [isNaNBits_iff]
    exact Nat.not_lt.mpr number
  have packed := @UnpackedFloat.pack_unpack Format.binary64 word.toBitVec (by decide)
  rw [if_neg notNaN] at packed
  exact UInt64.toBitVec_inj.mp packed

theorem isNaN_iff_toBits {value : Float} :
    value.isNaN = true ↔ infinityBits < value.toBits.toNat % 2 ^ 63 := by
  have valid := value.toModel.valid
  have pattern : value.isNaN = true ↔ value.toBits.toBitVec = packedNaN Format.binary64 :=
    isNaN_unpack_iff_of_valid valid (by decide)
  rw [pattern, ← UInt64.toNat_toBitVec, ← isNaNBits_iff]
  constructor
  · intro packed
    rw [packed]
    exact isNaNBits_packedNaN
  · intro isNaN
    rcases of_decide_eq_true isNaN with ⟨exponent, mantissa⟩
    exact valid.eq_packedNaN exponent mantissa

/-- A pattern is one of a finite float if it is below infinity, the sign removed. -/
theorem isFinite_unpack_iff (bits : BitVec Format.binary64.numBits) :
    (UnpackedFloat.unpack Format.binary64 bits).isFinite = true ↔
      bits.toNat % 2 ^ 63 < infinityBits := by
  have exponent : unpackExponent bits = -1#11 ↔ infinityBits ≤ bits.toNat % 2 ^ 63 := by
    rw [← BitVec.toNat_inj, toNat_unpackExponent, infinityBits]
    change _ = 2047 ↔ _
    omega
  rw [← Nat.not_le, ← exponent]
  unfold UnpackedFloat.unpack
  dsimp only
  split_ifs with special _ _ _
  · exact iff_of_false Bool.false_ne_true (not_not_intro special)
  · exact iff_of_false Bool.false_ne_true (not_not_intro special)
  · exact iff_of_true rfl special
  · exact iff_of_true rfl special
  · exact iff_of_true rfl special

theorem isFinite_iff_toBits {value : Float} :
    value.isFinite = true ↔ value.toBits.toNat % 2 ^ 63 < infinityBits :=
  isFinite_unpack_iff value.toBits.toBitVec

/-! ## Decimal texts -/

theorem nearestBits_le (numerator denominator : Nat) :
    nearestBits numerator denominator ≤ infinityBits := by
  unfold nearestBits
  split
  · exact Nat.zero_le _
  · exact Nat.min_le_right _ _

theorem decimalBits_le (digits : Nat) (exponent : Int) :
    decimalBits digits exponent ≤ infinityBits := by
  unfold decimalBits
  dsimp only
  split_ifs
  · exact Nat.zero_le _
  · exact Nat.le_refl _
  · exact Nat.zero_le _
  · exact nearestBits_le _ _
  · exact nearestBits_le _ _

theorem toBits_withSign (negative : Bool) {bits : Nat} (number : bits ≤ infinityBits) :
    (withSign negative bits).toBits =
      UInt64.ofNat (if negative then bits + 2 ^ 63 else bits) := by
  rw [withSign, toBits_ofBits]
  rw [UInt64.toNat_ofNat', infinityBits] at *
  split <;> omega

theorem isNaN_withSign (negative : Bool) {bits : Nat} (number : bits ≤ infinityBits) :
    (withSign negative bits).isNaN = false := by
  rw [← Bool.not_eq_true, isNaN_iff_toBits, toBits_withSign negative number]
  rw [UInt64.toNat_ofNat', infinityBits] at *
  split <;> omega

/-- Whether a text is a name of NaN, in any case and with any sign. -/
def namesNaN (text : String) : Bool :=
  String.ofList ((Reading.splitSign text.toList).2.map Char.toLower) == "nan"

/-- A text is read as NaN exactly if it names it. -/
theorem Reading.isNaN_parse? {text : String} {value : Float} (read : parse? text = some value) :
    value.isNaN = namesNaN text := by
  rw [parse?] at read
  rw [namesNaN]
  dsimp only at read
  generalize (splitSign text.toList).1 = negative at read
  generalize (splitSign text.toList).2 = rest at read ⊢
  rw [named?] at read
  generalize String.ofList (rest.map Char.toLower) = name at read ⊢
  by_cases infinite : name = "inf" ∨ name = "infinity"
  · rw [if_pos infinite] at read
    have other : (name == "nan") = false := by rcases infinite with rfl | rfl <;> decide
    rw [← Option.some.inj read, isNaN_withSign negative (Nat.le_refl _), other]
  · by_cases isName : name = "nan"
    · rw [if_neg infinite, if_pos isName] at read
      rw [← Option.some.inj read, isName]
      cases negative <;> decide
    · rw [if_neg infinite, if_neg isName] at read
      dsimp only at read
      split at read
      · next digits exponent _ =>
        rw [← Option.some.inj read, ofDecimal, isNaN_withSign negative (decimalBits_le _ _)]
        exact (beq_eq_false_iff_ne.mpr isName).symm
      · cases read

theorem Reading.exists_parse?_of_namesNaN {text : String} (names : namesNaN text = true) :
    ∃ value, parse? text = some value := by
  have name : String.ofList ((splitSign text.toList).2.map Char.toLower) = "nan" :=
    eq_of_beq names
  have named : named? (splitSign text.toList).2 = some 0x7ff8000000000000 := by
    rw [named?, name]
    rfl
  exact ⟨withSign (splitSign text.toList).1 0x7ff8000000000000, by simp only [parse?, named]⟩

end RuleSchema.Decimal
