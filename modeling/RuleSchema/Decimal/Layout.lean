import RuleSchema.Decimal.Exact

/-!
# Decimal layouts

The digits of a number are the same in every text format; what differs is where
positional notation ends, how an exponent is written and what stands for the
values that have no digits.  Each of these decisions is a field of `Layout`, and
each format that prints numbers owns one such record.
-/

namespace RuleSchema.Decimal

/-- Decisions of one text format on printing binary64 numbers. -/
structure Layout where
  /-- Positional from this decimal point position on (a leading `0.000` counts down). -/
  lowestPoint : Int
  /-- Positional up to this decimal point position; `none` never uses an exponent. -/
  highestPoint : Option Nat
  /-- Written after a whole number in positional notation. -/
  wholeMark : String
  /-- Written before a nonnegative exponent. -/
  exponentPlus : String
  infinity : String
  negativeInfinity : String
  notANumber : String

namespace Layout

/-- Place the point among the digit text; `point` counts the digits before it. -/
def positional (wholeMark text : String) (point : Int) : String :=
  let width := text.length
  if point ≤ 0 then "0." ++ String.ofList (List.replicate (-point).toNat '0') ++ text
  else if (width : Int) ≤ point then
    text ++ String.ofList (List.replicate (point.toNat - width) '0') ++ wholeMark
  else (text.take point.toNat).toString ++ "." ++ (text.drop point.toNat).toString

/-- One digit before the point, the others after it, then the exponent. -/
def scientific (plus text : String) (point : Int) : String :=
  let exponent := point - 1
  let head :=
    if text.length ≤ 1 then text
    else (text.take 1).toString ++ "." ++ (text.drop 1).toString
  head ++ "e" ++ (if exponent < 0 then toString exponent else plus ++ toString exponent)

/-- Print finite nonzero bits, sign removed. -/
def magnitude (layout : Layout) (bits : Nat) : String :=
  let decimal := Shortest.ofBits bits
  let text := toString decimal.digits
  let point := decimal.exponent + text.length
  let fitsAbove :=
    match layout.highestPoint with
    | some highest => point ≤ (highest : Int)
    | none => true
  let fitsBelow := layout.highestPoint.isNone || layout.lowestPoint < point
  if fitsAbove && fitsBelow then positional layout.wholeMark text point
  else scientific layout.exponentPlus text point

/-- The text of a float in a layout, of the fewest digits that read back as the float. -/
def render (layout : Layout) (value : Float) : String :=
  let bits := value.toBits.toNat
  let negative := bits ≥ 2 ^ 63
  let size := bits % 2 ^ 63
  if size > 0x7ff0000000000000 then layout.notANumber
  else if size = 0x7ff0000000000000 then
    if negative then layout.negativeInfinity else layout.infinity
  else
    (if negative then "-" else "") ++
      (if size = 0 then "0" ++ layout.wholeMark else layout.magnitude size)

/-- Numbers in YAML text: `1e16` from seventeen digits on, `1e-6` below `0.00001`. -/
def yaml : Layout where
  lowestPoint := -5
  highestPoint := some 16
  wholeMark := ".0"
  exponentPlus := ""
  infinity := ".inf"
  negativeInfinity := "-.inf"
  notANumber := ".nan"

/-- Numbers in JSON text, which has no infinities: `1e+16`, otherwise as in YAML. -/
def json : Layout where
  lowestPoint := -5
  highestPoint := some 16
  wholeMark := ".0"
  exponentPlus := "+"
  infinity := "null"
  negativeInfinity := "null"
  notANumber := "null"

/-- Numbers in messages never take an exponent, and whole ones no point. -/
def message : Layout where
  lowestPoint := 0
  highestPoint := none
  wholeMark := ""
  exponentPlus := ""
  infinity := "inf"
  negativeInfinity := "-inf"
  notANumber := "NaN"

/-- Numbers as field values: whole ones with all their digits and one zero after the point. -/
def value (number : Float) : String :=
  match Exact.parts? number with
  | none => message.render number
  | some parts =>
      match parts.whole? with
      | some size => (if parts.negative then "-" else "") ++ toString size ++ ".0"
      | none => message.render number

end Layout

end RuleSchema.Decimal
