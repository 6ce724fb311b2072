import RuleSchema.Decimal.Reading
import RuleSchema.Yaml.Scalar

/-!
# Scalars of TOML

Texts between quotes, and the words that are numbers, booleans, dates and times.  Each
reader takes what it can from the start of a text and gives back the rest.
-/

namespace RuleSchema.Toml.Scalar

/-- A character that may stand in a comment or between quotes. -/
def isPlain (c : Char) : Bool := c == '\t' || (c.toNat ≥ 32 && c.toNat != 127)

/-- White space within a line. -/
def isBlank (c : Char) : Bool := c == ' ' || c == '\t'

/-- A line end and the text after it. -/
def newline? : List Char → Option (List Char)
  | '\n' :: rest => some rest
  | '\r' :: '\n' :: rest => some rest
  | _ => none

/-- The character of a number of hexadecimal digits. -/
def hexEscape? (width : Nat) (rest : List Char) : Option (Char × List Char) :=
  let digits := rest.take width
  if digits.length = width then
    match Yaml.Scalar.natInBase? 16 digits with
    | some code =>
        if code < 0xd800 ∨ (0xdfff < code ∧ code < 0x110000) then
          some (Char.ofNat code, rest.drop width)
        else none
    | none => none
  else none

/-- The character of an escape; the backslash is already read. -/
def escape? : List Char → Option (Char × List Char)
  | 'b' :: rest => some ('\x08', rest)
  | 't' :: rest => some ('\t', rest)
  | 'n' :: rest => some ('\n', rest)
  | 'f' :: rest => some ('\x0c', rest)
  | 'r' :: rest => some ('\r', rest)
  | '"' :: rest => some ('"', rest)
  | '\\' :: rest => some ('\\', rest)
  | 'u' :: rest => hexEscape? 4 rest
  | 'U' :: rest => hexEscape? 8 rest
  | _ => none

/-- The rest of a text in double quotes; the characters so far are in reverse. -/
def basic? : Nat → List Char → List Char → Option (String × List Char)
  | 0, _, _ => none
  | _ + 1, _, [] => none
  | fuel + 1, read, c :: rest =>
      if c = '"' then some (String.ofList read.reverse, rest)
      else if c = '\\' then
        match escape? rest with
        | some (character, after) => basic? fuel (character :: read) after
        | none => none
      else if isPlain c then basic? fuel (c :: read) rest
      else none

/-- The rest of a text in single quotes. -/
def literal? (rest : List Char) : Option (String × List Char) :=
  let inner := rest.takeWhile (· != '\'')
  match rest.dropWhile (· != '\'') with
  | _ :: after => if inner.all isPlain then some (String.ofList inner, after) else none
  | [] => none

/-- Blanks and line ends. -/
def skipLines (rest : List Char) : List Char :=
  match rest with
  | ' ' :: after | '\t' :: after | '\n' :: after => skipLines after
  | '\r' :: '\n' :: after => skipLines after
  | _ => rest

/-- The text after a backslash that joins lines: only blanks may stand before the line end. -/
def joined? (rest : List Char) : Option (List Char) :=
  (newline? (rest.dropWhile isBlank)).map skipLines

/-- How many quotes of a kind a text starts with. -/
def quoteCount (quote : Char) (rest : List Char) : Nat := (rest.takeWhile (· == quote)).length

/--
The rest of a text over several lines.  Three quotes end it, and up to two quotes right
before those belong to it.
-/
def multiline? (quote : Char) : Nat → List Char → List Char → Option (String × List Char)
  | 0, _, _ => none
  | _ + 1, _, [] => none
  | fuel + 1, read, c :: rest =>
      if c = quote then
        let count := quoteCount quote (c :: rest)
        if count < 3 then multiline? quote fuel (c :: read) rest
        else if count ≤ 5 then
          some (String.ofList (read.reverse ++ List.replicate (count - 3) quote),
            (c :: rest).drop count)
        else none
      else if c = '\\' ∧ quote = '"' then
        match joined? rest with
        | some after => multiline? quote fuel read after
        | none =>
            match escape? rest with
            | some (character, after) => multiline? quote fuel (character :: read) after
            | none => none
      else
        match newline? (c :: rest) with
        | some after => multiline? quote fuel ('\n' :: read) after
        | none => if isPlain c then multiline? quote fuel (c :: read) rest else none

/-- A text in quotes of any kind. -/
def string? (text : List Char) : Option (String × List Char) :=
  let open? (quote : Char) (rest : List Char) : Option (String × List Char) :=
    multiline? quote (rest.length + 1) [] ((newline? rest).getD rest)
  match text with
  | '"' :: '"' :: '"' :: rest => open? '"' rest
  | '\'' :: '\'' :: '\'' :: rest => open? '\'' rest
  | '"' :: rest => basic? (rest.length + 1) [] rest
  | '\'' :: rest => literal? rest
  | _ => none

/-- The digits that go on a number; a single underscore may stand before each. -/
def moreDigits (isDigit : Char → Bool) : List Char → List Char × List Char
  | [] => ([], [])
  | '_' :: c :: rest =>
      if isDigit c then
        let (digits, after) := moreDigits isDigit rest
        (c :: digits, after)
      else ([], '_' :: c :: rest)
  | c :: rest =>
      if isDigit c then
        let (digits, after) := moreDigits isDigit rest
        (c :: digits, after)
      else ([], c :: rest)

/-- At least one digit, and those that follow it. -/
def digits? (isDigit : Char → Bool) : List Char → Option (List Char × List Char)
  | [] => none
  | c :: rest =>
      if isDigit c then
        let (digits, after) := moreDigits isDigit rest
        some (c :: digits, after)
      else none

/-- The sign of a number and the text after it. -/
def sign (text : List Char) : List Char × List Char :=
  match text with
  | '+' :: rest => (['+'], rest)
  | '-' :: rest => (['-'], rest)
  | _ => ([], text)

/-- Read a decimal whole number, in which a leading zero stands alone. -/
def decimal? (text : List Char) : Option (List Char × List Char) :=
  let (marks, rest) := sign text
  match rest with
  | '0' :: after => some (marks ++ ['0'], after)
  | _ => (digits? Char.isDigit rest).map fun (digits, after) => (marks ++ digits, after)

/-- A number in base sixteen, eight or two. -/
def based? (text : List Char) : Option (Nat × List Char) :=
  let read (base : Nat) (rest : List Char) : Option (Nat × List Char) :=
    match digits? (fun c => (Yaml.Scalar.natInBase? base [c]).isSome) rest with
    | some (digits, after) =>
        (Yaml.Scalar.natInBase? base digits).map fun value => (value, after)
    | none => none
  match text with
  | '0' :: 'x' :: rest => read 16 rest
  | '0' :: 'o' :: rest => read 8 rest
  | '0' :: 'b' :: rest => read 2 rest
  | _ => none

/-- A whole number, which must fit in a signed word. -/
def integer? (text : List Char) : Option (String × List Char) :=
  match based? text with
  | some (value, after) => if value < 2 ^ 63 then some (toString value, after) else none
  | none =>
      match decimal? text with
      | some (digits, after) =>
          match Decimal.Reading.parseInt? (String.ofList digits) with
          | some value =>
              if -2 ^ 63 ≤ value ∧ value < 2 ^ 63 then some (toString value, after) else none
          | none => none
      | none => none

/-- Read the point of a float and the digits after it. -/
def fraction? : List Char → Option (List Char × List Char)
  | '.' :: rest => (digits? Char.isDigit rest).map fun (digits, after) => ('.' :: digits, after)
  | _ => none

/-- Read the exponent of a float. -/
def exponent? : List Char → Option (List Char × List Char)
  | 'e' :: rest | 'E' :: rest =>
      let (marks, start) := sign rest
      (digits? Char.isDigit start).map fun (digits, after) => ('e' :: marks ++ digits, after)
  | _ => none

/-- A word at the start of a text. -/
def word? (word : String) (text : List Char) : Option (List Char) :=
  if word.toList.isPrefixOf text then some (text.drop word.length) else none

/-- A float; infinity must be written as such. -/
def float? (text : List Char) : Option (String × List Char) :=
  let (marks, rest) := sign text
  match word? "inf" rest, word? "nan" rest with
  | some after, _ => some (String.ofList marks ++ "inf", after)
  | _, some after => some (String.ofList marks ++ "nan", after)
  | none, none =>
      match decimal? text with
      | none => none
      | some (digits, after) =>
          let read : Option (List Char × List Char) :=
            match fraction? after with
            | some (fraction, behind) =>
                match exponent? behind with
                | some (exponent, last) => some (digits ++ fraction ++ exponent, last)
                | none => some (digits ++ fraction, behind)
            | none =>
                (exponent? after).map fun (exponent, last) => (digits ++ exponent, last)
          match read with
          | none => none
          | some (number, last) =>
              match Decimal.Reading.parse? (String.ofList number) with
              | some value =>
                  if value.isInf && value > 0.0 then none else some (String.ofList number, last)
              | none => none

/-- A number of a fixed count of digits within bounds. -/
def field? (width low high : Nat) (text : List Char) : Option (Nat × List Char) :=
  let digits := text.take width
  let value := Decimal.Reading.natOfDigits digits
  if digits.length = width ∧ digits.all Char.isDigit ∧ low ≤ value ∧ value ≤ high then
    some (value, text.drop width)
  else none

/-- A separator. -/
def mark? (mark : Char) : List Char → Option (List Char)
  | c :: rest => if c = mark then some rest else none
  | [] => none

/-- The days of a month. -/
def daysOf (year month : Nat) : Nat :=
  if month = 2 then
    if (year % 4 = 0 ∧ year % 100 ≠ 0) ∨ year % 400 = 0 then 29 else 28
  else if month = 4 ∨ month = 6 ∨ month = 9 ∨ month = 11 then 30
  else 31

/-- Skip a date whose month and day there are. -/
def date? (text : List Char) : Option (List Char) := do
  let (year, rest) ← field? 4 0 9999 text
  let rest ← mark? '-' rest
  let (month, rest) ← field? 2 1 12 rest
  let rest ← mark? '-' rest
  let (_, rest) ← field? 2 1 (daysOf year month) rest
  return rest

/-- A time of day, seconds included. -/
def time? (text : List Char) : Option (List Char) := do
  let (_, rest) ← field? 2 0 23 text
  let rest ← mark? ':' rest
  let (_, rest) ← field? 2 0 59 rest
  let rest ← mark? ':' rest
  let (_, rest) ← field? 2 0 60 rest
  match rest with
  | '.' :: after =>
      let digits := after.takeWhile Char.isDigit
      return if digits.isEmpty then rest else after.dropWhile Char.isDigit
  | _ => return rest

/-- The distance of a time zone, if one is given. -/
def zone (text : List Char) : List Char :=
  match text with
  | 'Z' :: rest | 'z' :: rest => rest
  | '+' :: rest | '-' :: rest =>
      let read : Option (List Char) := do
        let (_, rest) ← field? 2 0 23 rest
        let rest ← mark? ':' rest
        let (_, rest) ← field? 2 0 59 rest
        return rest
      read.getD text
  | _ => text

/-- A date, a time, or both. -/
def moment? (text : List Char) : Option (List Char) :=
  match date? text with
  | some rest =>
      match rest with
      | 'T' :: after | 't' :: after | ' ' :: after =>
          match time? after with
          | some last => some (zone last)
          | none => some rest
      | _ => some rest
  | none => time? text

/-- Read a truth value, as it is spelled. -/
def boolean? (text : List Char) : Option (String × List Char) :=
  match word? "true" text, word? "false" text with
  | some rest, _ => some ("true", rest)
  | _, some rest => some ("false", rest)
  | _, _ => none

/-- A scalar that is no text: its spelling, and the text after it. -/
def other? (text : List Char) : Option (String × List Char) :=
  match moment? text with
  | some rest => some (String.ofList (text.take (text.length - rest.length)), rest)
  | none =>
      match float? text with
      | some found => some found
      | none =>
          match integer? text with
          | some found => some found
          | none => boolean? text

end RuleSchema.Toml.Scalar
