/-!
# Rounding exact ratios to binary64

A decimal text denotes an exact rational.  This module finds the nearest
binary64 value of a ratio of natural numbers in exact arithmetic, ties going to
the neighbour with an even significand, and gives the result as a bit pattern.
Values beyond the largest finite number become infinity.
-/

-- Powers of numbers stay the core library's where another library has its own.
attribute [instance (high), default_instance 20000] instPowNat

namespace RuleSchema.Decimal.Rounding

/-- The bit pattern of positive infinity; larger patterns are no numbers. -/
def infinityBits : Nat := 0x7ff0000000000000

/-- The quotient rounded to the nearest whole number, a tie to the even one. -/
def divideToEven (numerator denominator : Nat) : Nat :=
  let quotient := numerator / denominator
  let remainder := numerator % denominator
  if 2 * remainder > denominator then quotient + 1
  else if 2 * remainder = denominator ∧ quotient % 2 = 1 then quotient + 1
  else quotient

theorem divideToEven_exact (quotient denominator : Nat)
    (positive : 0 < denominator) :
    divideToEven (quotient * denominator) denominator = quotient := by
  have noRemainder : quotient * denominator % denominator = 0 :=
    Nat.mul_mod_left quotient denominator
  simp only [divideToEven, noRemainder, Nat.mul_div_cancel _ positive]
  split
  · omega
  · split <;> omega

/-- The floor of the binary logarithm of a positive ratio. -/
def ratioLog (numerator denominator : Nat) : Int :=
  let estimate : Int := (numerator.log2 : Int) - (denominator.log2 : Int)
  let reached :=
    if estimate ≥ 0 then denominator * 2 ^ estimate.toNat ≤ numerator
    else denominator ≤ numerator * 2 ^ (-estimate).toNat
  if reached then estimate else estimate - 1

/--
The bits of the nonnegative binary64 number nearest to a ratio.

The unit of the last place is `2 ^ place`, never below `2 ^ -1074`.  Encoding
the rounded significand by addition carries into the exponent field.
-/
def nearestBits (numerator denominator : Nat) : Nat :=
  if numerator = 0 ∨ denominator = 0 then 0
  else
    let place := max (ratioLog numerator denominator - 52) (-1074)
    let significand :=
      if place ≥ 0 then divideToEven numerator (denominator * 2 ^ place.toNat)
      else divideToEven (numerator * 2 ^ (-place).toNat) denominator
    min ((place + 1074).toNat * 2 ^ 52 + significand) infinityBits

/-- The bits nearest to `digits * 10 ^ exponent`. -/
def decimalBits (digits : Nat) (exponent : Int) : Nat :=
  let width : Int := (Nat.toDigits 10 digits).length
  if digits = 0 then 0
  else if exponent > 310 then infinityBits
  else if exponent + width < -330 then 0
  else if exponent ≥ 0 then nearestBits (digits * 10 ^ exponent.toNat) 1
  else nearestBits digits (10 ^ (-exponent).toNat)

/-- Attach a sign to the bits of a nonnegative number. -/
def withSign (negative : Bool) (bits : Nat) : Float :=
  Float.ofBits (UInt64.ofNat (if negative then bits + 2 ^ 63 else bits))

/-- The float nearest to a signed decimal. -/
def ofDecimal (negative : Bool) (digits : Nat) (exponent : Int) : Float :=
  withSign negative (decimalBits digits exponent)

/-- The float nearest to a whole number. -/
def ofInt (value : Int) : Float :=
  withSign (value < 0) (nearestBits value.natAbs 1)

end RuleSchema.Decimal.Rounding
