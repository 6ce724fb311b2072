import RuleSchema.Decimal.Rounding

/-!
# Reading decimal text

A decimal text is an optional sign, digits with at most one point and at least
one digit, and an optional exponent; or a name of infinity or of "not a number"
in any case.  Its value is the binary64 number nearest to the exact decimal.
-/

namespace RuleSchema.Decimal.Reading

/-- The value of a digit text. -/
def natOfDigits (digits : List Char) : Nat :=
  digits.foldl (fun total c => total * 10 + (c.toNat - 48)) 0

/-- Split off a sign, telling whether it is a minus. -/
def splitSign : List Char → Bool × List Char
  | '+' :: rest => (false, rest)
  | '-' :: rest => (true, rest)
  | rest => (false, rest)

/-- An exponent part, or nothing at all. -/
def exponent? : List Char → Option Int
  | [] => some 0
  | c :: rest =>
      if c = 'e' ∨ c = 'E' then
        let (negative, digits) := splitSign rest
        if digits.isEmpty || !digits.all Char.isDigit then none
        else
          let size : Int := natOfDigits digits
          some (if negative then -size else size)
      else none

/-- An unsigned decimal as digits and a power of ten. -/
def magnitude? (text : List Char) : Option (Nat × Int) :=
  let whole := text.takeWhile Char.isDigit
  let rest := text.dropWhile Char.isDigit
  let (fraction, rest) :=
    match rest with
    | '.' :: after => (after.takeWhile Char.isDigit, after.dropWhile Char.isDigit)
    | _ => ([], rest)
  if whole.isEmpty && fraction.isEmpty then none
  else
    match exponent? rest with
    | none => none
    | some exponent =>
        some (natOfDigits (whole ++ fraction), exponent - (fraction.length : Int))

/-- The names of the values that have no digits. -/
def named? (text : List Char) : Option Nat :=
  let name := String.ofList (text.map Char.toLower)
  if name = "inf" ∨ name = "infinity" then some Rounding.infinityBits
  else if name = "nan" then some 0x7ff8000000000000
  else none

/-- Read a decimal number, or a name of infinity or of what is not a number. -/
def parse? (text : String) : Option Float :=
  let (negative, rest) := splitSign text.toList
  match named? rest with
  | some bits => some (Rounding.withSign negative bits)
  | none =>
      match magnitude? rest with
      | some (digits, exponent) => some (Rounding.ofDecimal negative digits exponent)
      | none => none

/-- Read a whole number: an optional sign and at least one digit. -/
def parseInt? (text : String) : Option Int :=
  let (negative, digits) := splitSign text.toList
  if digits.isEmpty || !digits.all Char.isDigit then none
  else
    let size : Int := natOfDigits digits
    some (if negative then -size else size)

end RuleSchema.Decimal.Reading
