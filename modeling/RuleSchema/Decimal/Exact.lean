import RuleSchema.Decimal.Rounding
import RuleSchema.Decimal.Shortest

/-!
# Exact values of binary64 numbers

A finite binary64 number is a whole number times a power of two.  Questions about
divisibility are answered on that exact value, without rounding.
-/

namespace RuleSchema.Decimal.Exact

/-- A finite number `± significand * 2 ^ exponent`. -/
structure Parts where
  negative : Bool
  significand : Nat
  exponent : Int

/-- The exact value of a float, unless it is infinite or no number. -/
def parts? (value : Float) : Option Parts :=
  let bits := value.toBits.toNat
  let size := bits % 2 ^ 63
  if size ≥ Rounding.infinityBits then none
  else
    let magnitude := Shortest.Magnitude.ofBits size
    some ⟨bits ≥ 2 ^ 63, magnitude.significand, magnitude.exponent⟩

/-- The number that the parts stand for, if it is whole. -/
def Parts.whole? (parts : Parts) : Option Nat :=
  if parts.exponent ≥ 0 then some (parts.significand * 2 ^ parts.exponent.toNat)
  else
    let unit := 2 ^ (-parts.exponent).toNat
    if parts.significand % unit = 0 then some (parts.significand / unit) else none

/-- The whole number that a float is, if it is one. -/
def int? (value : Float) : Option Int :=
  match parts? value with
  | none => none
  | some parts => parts.whole?.map fun size => if parts.negative then -(size : Int) else size

/-- What is left of a finite number after removing its whole part, with its sign. -/
def fraction (value : Float) : Float :=
  match parts? value with
  | none => 0.0 / 0.0
  | some parts =>
      if parts.exponent ≥ 0 then Rounding.withSign parts.negative 0
      else
        let unit := 2 ^ (-parts.exponent).toNat
        Rounding.withSign parts.negative (Rounding.nearestBits (parts.significand % unit) unit)

/--
Whether a number is a whole multiple of a factor.  Only zero is a multiple of an
infinite factor, and nothing is one of zero.
-/
def isMultipleOf (value factor : Float) : Bool :=
  match parts? value, parts? factor with
  | some value, some factor =>
      let lowest := min value.exponent factor.exponent
      let scaledFactor := factor.significand * 2 ^ (factor.exponent - lowest).toNat
      let scaledValue := value.significand * 2 ^ (value.exponent - lowest).toNat
      scaledFactor != 0 && scaledValue % scaledFactor == 0
  | some value, none => !factor.isNaN && value.significand == 0
  | none, _ => false

end RuleSchema.Decimal.Exact
