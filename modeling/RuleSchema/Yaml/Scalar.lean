import RuleSchema.Decimal.Reading

/-!
# Plain YAML scalars

A scalar without quotes and without a tag means null, a boolean, a whole number,
a float, or its own text.  Whole numbers may be written in four bases and are
recognised up to one hundred twenty-eight bits, so that what does not fit into a
document can be told from text.
-/

namespace RuleSchema.Yaml.Scalar

/-- What a plain scalar means. -/
inductive Meaning where
  | null
  | bool (value : Bool)
  | whole (value : Int)
  | float (value : Float)
  | text

/-- Whether a text is one of the spellings of null. -/
def isNull (text : String) : Bool :=
  ["null", "Null", "NULL", "~"].contains text

/-- The truth value that a text spells. -/
def bool? (text : String) : Option Bool :=
  if ["true", "True", "TRUE"].contains text then some true
  else if ["false", "False", "FALSE"].contains text then some false
  else none

/-- The value of a digit in a base of at most sixteen. -/
def digit? (base : Nat) (c : Char) : Option Nat :=
  let value :=
    if c.isDigit then c.toNat - 48
    else if 'a' ≤ c ∧ c ≤ 'f' then c.toNat - 87
    else if 'A' ≤ c ∧ c ≤ 'F' then c.toNat - 55
    else 16
  if value < base then some value else none

/-- The value of at least one digit in a base. -/
def natInBase? (base : Nat) (digits : List Char) : Option Nat :=
  if digits.isEmpty then none
  else
    digits.foldl
      (fun total c => do return (← total) * base + (← digit? base c))
      (some 0)

/-- A natural number after its sign: a base mark and digits, or decimal digits. -/
def natural? : List Char → Option Nat
  | '0' :: 'x' :: digits => natInBase? 16 digits
  | '0' :: 'o' :: digits => natInBase? 8 digits
  | '0' :: 'b' :: digits => natInBase? 2 digits
  | digits => natInBase? 10 digits

/--
Zeros before further digits make a text that only looks like a number, whatever
its sign.
-/
def isPaddedNumber (text : List Char) : Bool :=
  match (Decimal.Reading.splitSign text).2 with
  | '0' :: rest => !rest.isEmpty && rest.all Char.isDigit
  | _ => false

/-- A whole number of at most one hundred twenty-eight bits. -/
def whole? (text : List Char) : Option Int :=
  if isPaddedNumber text then none
  else
    let (negative, digits) := Decimal.Reading.splitSign text
    match natural? digits with
    | none => none
    | some size =>
        if negative then if size ≤ 2 ^ 127 then some (-(size : Int)) else none
        else if size < 2 ^ 128 then some (size : Int)
        else none

/-- A float: an infinity, "not a number", or a decimal with a finite value. -/
def float? (text : String) : Option Float :=
  if [".inf", ".Inf", ".INF", "+.inf", "+.Inf", "+.INF"].contains text then
    some (Decimal.Rounding.withSign false Decimal.Rounding.infinityBits)
  else if ["-.inf", "-.Inf", "-.INF"].contains text then
    some (Decimal.Rounding.withSign true Decimal.Rounding.infinityBits)
  else if [".nan", ".NaN", ".NAN"].contains text then
    some (Decimal.Rounding.withSign false 0x7ff8000000000000)
  else
    match Decimal.Reading.parse? text with
    | some value => if value.isFinite then some value else none
    | none => none

/-- What a plain scalar means: null, a truth value, a number, or else its text. -/
def meaning (text : String) : Meaning :=
  if text.isEmpty || isNull text then .null
  else
    match bool? text with
    | some value => .bool value
    | none =>
        match whole? text.toList with
        | some value => .whole value
        | none =>
            if isPaddedNumber text.toList then .text
            else
              match float? text with
              | some value => .float value
              | none => .text

/-- Whether a text, written plain, would be read or taken for something else. -/
def needsQuotes (text : String) : Bool :=
  match meaning text with
  | .text => isPaddedNumber text.toList
  | _ => true

end RuleSchema.Yaml.Scalar
