import RuleSchema.Decimal.Layout
import RuleSchema.Decimal.Reading

/-!
# Numbers of a document

A document number is a whole number that fits in sixty-four bits, signed or
unsigned, or a binary64 float.  Whole numbers and floats are never equal to each
other; among floats every NaN equals every NaN, and the two zeros are equal.
-/

namespace RuleSchema

/-- A whole number from `-2 ^ 63` up to, but not including, `2 ^ 64`. -/
structure Whole where
  value : Int
  inRange : -2 ^ 63 ≤ value ∧ value < 2 ^ 64
  deriving DecidableEq

namespace Whole

/-- A whole number, if it is in the range of signed and unsigned words. -/
def ofInt? (value : Int) : Option Whole :=
  if inRange : -2 ^ 63 ≤ value ∧ value < 2 ^ 64 then some ⟨value, inRange⟩ else none

/-- A signed word as a whole number. -/
def ofInt64 (word : Int64) : Whole :=
  ⟨word.toInt, by
    have low := word.minValue_le_toInt
    have high := word.toInt_lt
    simp only [Int64.toInt_minValue] at low
    omega⟩

/-- The signed word of a whole number below `2 ^ 63`. -/
def toInt64? (whole : Whole) : Option Int64 :=
  if whole.value < 2 ^ 63 then some (Int64.ofInt whole.value) else none

theorem toInt64?_ofInt64 (word : Int64) : (ofInt64 word).toInt64? = some word := by
  unfold toInt64? ofInt64
  rw [if_pos word.toInt_lt]
  simp

/-- A whole number that is not negative. -/
def toNat? (whole : Whole) : Option Nat :=
  if 0 ≤ whole.value then some whole.value.toNat else none

end Whole

/-- A number of a document: whole, or a float. -/
inductive Number where
  | whole (value : Whole)
  | float (value : Float)

namespace Number

/-- The bits of a float, with one pattern for all NaNs and one for both zeros. -/
def canonicalBits (value : Float) : Nat :=
  let bits := value.toBits.toNat
  let size := bits % 2 ^ 63
  if size > Decimal.Rounding.infinityBits then 0x7ff8000000000000
  else if size = 0 then 0
  else bits

/-- Equality of numbers; a whole number is no float, and what is not a number equals itself. -/
def beq : Number → Number → Bool
  | .whole left, .whole right => left == right
  | .float left, .float right => canonicalBits left == canonicalBits right
  | _, _ => false

instance : BEq Number := ⟨beq⟩

theorem beq_refl (number : Number) : number.beq number = true := by
  cases number <;> simp [beq]

/-- The number as a signed word, if it is whole and fits. -/
def toInt64? : Number → Option Int64
  | .whole value => value.toInt64?
  | .float _ => none

/-- The number as a natural number, if it is whole and not negative. -/
def toNat? : Number → Option Nat
  | .whole value => value.toNat?
  | .float _ => none

/-- The number as a float; a whole number is rounded. -/
def toFloat : Number → Float
  | .whole value => Decimal.Rounding.ofInt value.value
  | .float value => value

/-- The number as YAML writes it. -/
def text : Number → String
  | .whole value => toString value.value
  | .float value => Decimal.Layout.yaml.render value

end Number

end RuleSchema
