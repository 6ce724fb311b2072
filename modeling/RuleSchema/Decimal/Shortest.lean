/-!
# Shortest decimal digits of a binary64 number

A finite nonzero number owns an interval of rationals that round to it.  The
shortest decimal inside that interval is found by walking the decimal grids of
one, two, … seventeen significant digits: on each grid only the two neighbours
of the value can be nearest, so testing those two in exact arithmetic suffices.
The first grid with a hit gives the digits, and of two hits the nearer one.
-/

namespace RuleSchema.Decimal.Shortest

/-- A positive binary64 magnitude `significand * 2 ^ exponent`. -/
structure Magnitude where
  significand : Nat
  exponent : Int
  /-- The gap below is half the gap above, as at a power of two. -/
  unevenGap : Bool

/-- Split finite nonzero bits, sign removed, into significand and exponent. -/
def Magnitude.ofBits (bits : Nat) : Magnitude :=
  let field : Nat := bits / 2 ^ 52
  let fraction : Nat := bits % 2 ^ 52
  if field = 0 then ⟨fraction, -1074, false⟩
  else ⟨fraction + 2 ^ 52, (field : Int) - 1075, fraction = 0 ∧ field > 1⟩

/-- A positive decimal `digits * 10 ^ exponent`. -/
structure Digits where
  digits : Nat
  exponent : Int
  deriving DecidableEq, Repr

/--
The interval of rationals that round to a magnitude, on one integer scale:
the value and both ends are the given naturals over `denominator`.
-/
structure Interval where
  low : Nat
  value : Nat
  high : Nat
  denominator : Nat
  /-- Both ends belong to the interval iff the significand is even. -/
  closed : Bool

/-- Scale the value by four, so that halves and quarters of its unit are whole. -/
def Interval.ofMagnitude (magnitude : Magnitude) : Interval :=
  let scaleUp := 2 ^ (magnitude.exponent - 2).toNat
  let scaleDown := 2 ^ (2 - magnitude.exponent).toNat
  let value := 4 * magnitude.significand
  { low := (value - (if magnitude.unevenGap then 1 else 2)) * scaleUp
    value := value * scaleUp
    high := (value + 2) * scaleUp
    denominator := scaleDown
    closed := magnitude.significand % 2 = 0 }

/-- Whether the ratio `numerator / denominator` lies in the interval. -/
def Interval.holds (interval : Interval) (numerator denominator : Nat) : Bool :=
  let left := numerator * interval.denominator
  let low := interval.low * denominator
  let high := interval.high * denominator
  if interval.closed then low ≤ left && left ≤ high
  else low < left && left < high

/-- The distance of `numerator / denominator` from the value, on a common scale. -/
def Interval.distance (interval : Interval) (numerator denominator : Nat) : Nat :=
  let left := numerator * interval.denominator
  let right := interval.value * denominator
  if left ≥ right then left - right else right - left

/--
The neighbour of the value on the grid of multiples of `10 ^ place` that lies
in the interval; of two the nearer, and of an exact tie the even one.
-/
def Interval.onGrid? (interval : Interval) (place : Int) : Option Nat :=
  let up := 10 ^ place.toNat
  let down := 10 ^ (-place).toNat
  let lower := interval.value * down / (interval.denominator * up)
  let upper := lower + 1
  let hits (count : Nat) : Bool := count > 0 && interval.holds (count * up) down
  match hits lower, hits upper with
  | true, true =>
      let lowerDistance := interval.distance (lower * up) down
      let upperDistance := interval.distance (upper * up) down
      if lowerDistance < upperDistance then some lower
      else if upperDistance < lowerDistance then some upper
      else if lower % 2 = 0 then some lower else some upper
  | true, false => some lower
  | false, true => some upper
  | false, false => none

/-- The floor of the decimal logarithm of the value, from an estimate one too high. -/
def Interval.decimalLog (interval : Interval) : Int :=
  let fits (power : Int) : Bool :=
    interval.denominator * 10 ^ power.toNat ≤ interval.value * 10 ^ (-power).toNat
  let estimate :=
    ((interval.value.log2 : Int) - (interval.denominator.log2 : Int)) * 30103 / 100000 + 1
  if fits estimate then estimate
  else if fits (estimate - 1) then estimate - 1
  else estimate - 2

/-- The first grid with a hit, trying `count` more grids from `width` digits on. -/
def Interval.search (interval : Interval) (log : Int) : Nat → Nat → Option Digits
  | 0, _ => none
  | count + 1, width =>
      let place := log + 1 - width
      match interval.onGrid? place with
      | some digits => some ⟨digits, place⟩
      | none => interval.search log count (width + 1)

/-- Drop trailing zeros of the digits, at most `count` of them. -/
def Digits.strip : Nat → Digits → Digits
  | 0, decimal => decimal
  | count + 1, decimal =>
      if decimal.digits ≠ 0 ∧ decimal.digits % 10 = 0 then
        Digits.strip count ⟨decimal.digits / 10, decimal.exponent + 1⟩
      else decimal

/-- The shortest digits of finite nonzero bits, sign removed. -/
def ofBits (bits : Nat) : Digits :=
  let interval := Interval.ofMagnitude (Magnitude.ofBits bits)
  let log := interval.decimalLog
  match interval.search log 17 1 with
  | some decimal => decimal.strip 17
  | none => ⟨0, 0⟩

end RuleSchema.Decimal.Shortest
