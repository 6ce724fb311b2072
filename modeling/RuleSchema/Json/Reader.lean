import RuleSchema.Document.Basic
import RuleSchema.Yaml.Scalar

/-!
# Reading JSON

The grammar is that of RFC 8259 with three limits: containers nest at most 127
deep, an object has no key twice, and a number is finite.  Whole numbers that fit
in a document stay whole; the others, and minus zero, become floats.

A float is the first digits that fit in sixty-four bits, times one power of ten,
each of the two steps rounded; what lies below the table of powers is first
divided by `10 ^ 308`.
-/

namespace RuleSchema.Json.Reader

/-- White space between the tokens of JSON. -/
def isBlank (c : Char) : Bool := c == ' ' || c == '\n' || c == '\t' || c == '\r'

/-- The text after the white space at its start. -/
def skipBlanks (text : List Char) : List Char := text.dropWhile isBlank

/-- The number of four hexadecimal digits and the text after them. -/
def hex4? : List Char → Option (Nat × List Char)
  | a :: b :: c :: d :: rest =>
      match Yaml.Scalar.natInBase? 16 [a, b, c, d] with
      | some code => some (code, rest)
      | none => none
  | _ => none

/-- The character of an escape, and the text after it; the backslash is already read. -/
def escape? : List Char → Option (Char × List Char)
  | '"' :: rest => some ('"', rest)
  | '\\' :: rest => some ('\\', rest)
  | '/' :: rest => some ('/', rest)
  | 'b' :: rest => some ('\x08', rest)
  | 'f' :: rest => some ('\x0c', rest)
  | 'n' :: rest => some ('\n', rest)
  | 'r' :: rest => some ('\r', rest)
  | 't' :: rest => some ('\t', rest)
  | 'u' :: rest =>
      match hex4? rest with
      | none => none
      | some (code, after) =>
          if 0xdc00 ≤ code ∧ code ≤ 0xdfff then none
          else if 0xd800 ≤ code ∧ code ≤ 0xdbff then
            match after with
            | '\\' :: 'u' :: second =>
                match hex4? second with
                | some (low, last) =>
                    if 0xdc00 ≤ low ∧ low ≤ 0xdfff then
                      some (Char.ofNat ((code - 0xd800) * 0x400 + (low - 0xdc00) + 0x10000), last)
                    else none
                | none => none
            | _ => none
          else some (Char.ofNat code, after)
  | _ => none

/-- The rest of a string up to its closing quote, characters read so far in reverse. -/
def string? : Nat → List Char → List Char → Option (String × List Char)
  | 0, _, _ => none
  | _ + 1, _, [] => none
  | fuel + 1, read, c :: rest =>
      if c = '"' then some (String.ofList read.reverse, rest)
      else if c = '\\' then
        match escape? rest with
        | some (character, after) => string? fuel (character :: read) after
        | none => none
      else if c.toNat < 32 then none
      else string? fuel (c :: read) rest

/-- A significand and a power of ten, from the digits that fit in sixty-four bits. -/
structure Parts where
  significand : Nat
  exponent : Int
  /-- Further digits no longer count. -/
  full : Bool

/-- Take in a digit before the point; one that does not fit only raises the exponent. -/
def Parts.wholeDigit (parts : Parts) (c : Char) : Parts :=
  let next := parts.significand * 10 + (c.toNat - 48)
  if parts.full || next ≥ 2 ^ 64 then
    { parts with exponent := parts.exponent + 1, full := true }
  else { parts with significand := next }

/-- Take in a digit after the point; `dropped` once a digit did not fit. -/
def Parts.fractionDigit (state : Parts × Bool) (c : Char) : Parts × Bool :=
  let (parts, dropped) := state
  let next := parts.significand * 10 + (c.toNat - 48)
  if dropped || next ≥ 2 ^ 64 then (parts, true)
  else ({ parts with significand := next, exponent := parts.exponent - 1 }, false)

/-- The float nearest to a power of ten. -/
def powerOfTen (exponent : Nat) : Float :=
  Decimal.Rounding.ofDecimal false 1 exponent

/-- Scale a float by a power of ten; `none` beyond the finite numbers. -/
def scale? (value : Float) (exponent : Int) : Nat → Option Float
  | 0 => some 0.0
  | fuel + 1 =>
      if exponent.natAbs ≤ 308 then
        if exponent ≥ 0 then
          let scaled := value * powerOfTen exponent.toNat
          if scaled.isFinite then some scaled else none
        else some (value / powerOfTen exponent.natAbs)
      else if value == 0.0 then some value
      else if exponent ≥ 0 then none
      else scale? (value / powerOfTen 308) (exponent + 308) fuel

/-- The float of a significand and a power of ten, each rounded before they are multiplied. -/
def float? (negative : Bool) (significand : Nat) (exponent : Int) : Option Float :=
  match scale? (Decimal.Rounding.ofInt significand) exponent 8 with
  | some value => some (if negative then -value else value)
  | none => none

/-- The number of parts without point and exponent: a float if it is no word, or minus zero. -/
def wholeNumber? (negative : Bool) (parts : Parts) : Option Number :=
  let value : Int := if negative then -(parts.significand : Int) else parts.significand
  if parts.full || (negative && value == 0) then
    (float? negative parts.significand parts.exponent).map .float
  else
    match Whole.ofInt? value with
    | some whole => some (.whole whole)
    | none => (float? negative parts.significand parts.exponent).map .float

/-- An exponent: a sign and at least one digit. -/
def exponent? (text : List Char) : Option (Int × List Char) :=
  let (negative, rest) := Decimal.Reading.splitSign text
  let digits := rest.takeWhile Char.isDigit
  if digits.isEmpty then none
  else
    let size : Int := Decimal.Reading.natOfDigits digits
    some (if negative then -size else size, rest.dropWhile Char.isDigit)

/-- The digits before the point: a single zero, or digits that do not start with one. -/
def wholePart? (text : List Char) : Option (List Char × List Char) :=
  let digits := text.takeWhile Char.isDigit
  match digits with
  | [] => none
  | '0' :: _ :: _ => none
  | _ => some (digits, text.dropWhile Char.isDigit)

/-- The digits after a point, at least one; nothing where there is no point. -/
def fractionPart? (text : List Char) : Option (Option (List Char) × List Char) :=
  match text with
  | '.' :: after =>
      let digits := after.takeWhile Char.isDigit
      if digits.isEmpty then none else some (some digits, after.dropWhile Char.isDigit)
  | _ => some (none, text)

/-- A number and the text after it. -/
def number? (text : List Char) : Option (Number × List Char) := do
  let (negative, unsigned) :=
    match text with
    | '-' :: rest => (true, rest)
    | _ => (false, text)
  let (digits, rest) ← wholePart? unsigned
  let (fraction, rest) ← fractionPart? rest
  let whole := digits.foldl Parts.wholeDigit ⟨0, 0, false⟩
  let parts :=
    match fraction with
    | some decimals => (decimals.foldl Parts.fractionDigit (whole, false)).1
    | none => whole
  match rest with
  | 'e' :: after | 'E' :: after =>
      let (exponent, last) ← exponent? after
      let value ← float? negative parts.significand (parts.exponent + exponent)
      return (.float value, last)
  | _ =>
      if fraction.isSome then
        let value ← float? negative parts.significand parts.exponent
        return (.float value, rest)
      else
        let value ← wholeNumber? negative parts
        return (value, rest)

/-- How deep sequences and mappings may be nested. -/
def depthLimit : Nat := 127

mutual

/-- A value and the text after it; `depth` containers may still be opened. -/
def value? (fuel depth : Nat) (text : List Char) : Option (Document × List Char) :=
  match fuel with
  | 0 => none
  | fuel + 1 =>
      match skipBlanks text with
      | 'n' :: 'u' :: 'l' :: 'l' :: rest => some (.null, rest)
      | 't' :: 'r' :: 'u' :: 'e' :: rest => some (.bool true, rest)
      | 'f' :: 'a' :: 'l' :: 's' :: 'e' :: rest => some (.bool false, rest)
      | '"' :: rest => (string? (rest.length + 1) [] rest).map fun (s, after) => (.string s, after)
      | '[' :: rest =>
          match depth with
          | 0 => none
          | depth + 1 =>
              match skipBlanks rest with
              | ']' :: after => some (.sequence [], after)
              | _ => (items? fuel depth rest []).map fun (items, after) => (.sequence items, after)
      | '\x7b' :: rest =>
          match depth with
          | 0 => none
          | depth + 1 =>
              match skipBlanks rest with
              | '\x7d' :: after => some (.mapping [], after)
              | _ =>
                  (members? fuel depth rest []).map fun (entries, after) =>
                    (.mapping entries, after)
      | c :: rest =>
          if c = '-' || c.isDigit then
            (number? (c :: rest)).map fun (number, after) => (.number number, after)
          else none
      | [] => none

/-- The items of an array up to its closing bracket. -/
def items? (fuel depth : Nat) (text : List Char) (read : List Document) :
    Option (List Document × List Char) :=
  match fuel with
  | 0 => none
  | fuel + 1 =>
      match value? fuel depth text with
      | none => none
      | some (item, rest) =>
          match skipBlanks rest with
          | ',' :: after => items? fuel depth after (item :: read)
          | ']' :: after => some ((item :: read).reverse, after)
          | _ => none

/-- The members of an object up to its closing brace. -/
def members? (fuel depth : Nat) (text : List Char) (read : Mapping) :
    Option (Mapping × List Char) :=
  match fuel with
  | 0 => none
  | fuel + 1 =>
      match skipBlanks text with
      | '"' :: rest =>
          match string? (rest.length + 1) [] rest with
          | none => none
          | some (name, rest) =>
              if Mapping.hasField read name then none
              else
                match skipBlanks rest with
                | ':' :: rest =>
                    match value? fuel depth rest with
                    | none => none
                    | some (value, rest) =>
                        let entries := (Document.string name, value) :: read
                        match skipBlanks rest with
                        | ',' :: after => members? fuel depth after entries
                        | '\x7d' :: after => some (entries.reverse, after)
                        | _ => none
                | _ => none
      | _ => none

end

/-- Read a JSON text as a document; nothing but white space may follow it. -/
def parse? (text : String) : Option Document :=
  let characters := text.toList
  match value? (2 * characters.length + 2) depthLimit characters with
  | some (document, rest) => if (skipBlanks rest).isEmpty then some document else none
  | none => none

end RuleSchema.Json.Reader
