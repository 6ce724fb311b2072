import RuleSchema.Document.Basic

/-!
# Writing JSON

A document is written compactly on one line, or with one item a line and two
columns of indentation.  Infinities and NaN become null; a tagged node becomes an
object with the tag as its only key.  Keys are strings, or booleans and finite
numbers as text; a document with any other key has no JSON form.
-/

namespace RuleSchema.Json.Writer

/-- Line layout of JSON text. -/
inductive Spacing where
  | compact
  | indented
  deriving DecidableEq

/-- Four lower-case hexadecimal digits of a code below 256. -/
def hexEscape (code : Nat) : String :=
  "\\u00" ++ String.ofList [Nat.digitChar (code / 16), Nat.digitChar (code % 16)]

/-- A character between double quotes, escaped where JSON demands it. -/
def escaped (c : Char) : String :=
  if c = '"' then "\\\""
  else if c = '\\' then "\\\\"
  else if c = '\n' then "\\n"
  else if c = '\t' then "\\t"
  else if c = '\r' then "\\r"
  else if c.toNat = 8 then "\\b"
  else if c.toNat = 12 then "\\f"
  else if c.toNat < 32 then hexEscape c.toNat
  else c.toString

/-- A text in double quotes. -/
def quoted (text : String) : String :=
  "\"" ++ String.join (text.toList.map escaped) ++ "\""

/-- The text of a number; a float has the fewest digits that read back. -/
def numberText : Number → String
  | .whole value => toString value.value
  | .float value => Decimal.Layout.json.render value

/-- The text of a mapping key, if it has one. -/
def keyText? : Document → Option String
  | .string text => some text
  | .bool value => some (if value then "true" else "false")
  | .number (.whole value) => some (toString value.value)
  | .number (.float value) =>
      if value.isFinite then some (Decimal.Layout.json.render value) else none
  | _ => none

/-- The start of a line at a depth, or nothing in compact text. -/
def lineStart (spacing : Spacing) (depth : Nat) : String :=
  match spacing with
  | .compact => ""
  | .indented => "\n" ++ String.ofList (List.replicate (2 * depth) ' ')

/-- What stands between a key and its value. -/
def colon : Spacing → String
  | .compact => ":"
  | .indented => ": "

mutual

/-- The text of a document at a depth; complex keys and tags have none. -/
def node? (spacing : Spacing) (depth : Nat) : Document → Option String
  | .null => some "null"
  | .bool value => some (if value then "true" else "false")
  | .number value => some (numberText value)
  | .string text => some (quoted text)
  | .sequence [] => some "[]"
  | .sequence (item :: rest) => do
      let first ← node? spacing (depth + 1) item
      let others ← items? spacing (depth + 1) rest
      return "[" ++ lineStart spacing (depth + 1) ++ first ++ others ++
        lineStart spacing depth ++ "]"
  | .mapping [] => some "\x7b\x7d"
  | .mapping ((key, value) :: rest) => do
      let name ← keyText? key
      let first ← node? spacing (depth + 1) value
      let others ← entries? spacing (depth + 1) rest
      return "\x7b" ++ lineStart spacing (depth + 1) ++ quoted name ++ colon spacing ++
        first ++ others ++ lineStart spacing depth ++ "\x7d"
  | .tagged name value => do
      let inner ← node? spacing (depth + 1) value
      return "\x7b" ++ lineStart spacing (depth + 1) ++ quoted ("!" ++ name) ++
        colon spacing ++ inner ++ lineStart spacing depth ++ "\x7d"

/-- The text of the items after the first. -/
def items? (spacing : Spacing) (depth : Nat) : List Document → Option String
  | [] => some ""
  | item :: rest => do
      let text ← node? spacing depth item
      let others ← items? spacing depth rest
      return "," ++ lineStart spacing depth ++ text ++ others

/-- The text of the entries after the first. -/
def entries? (spacing : Spacing) (depth : Nat) :
    List (Document × Document) → Option String
  | [] => some ""
  | (key, value) :: rest => do
      let name ← keyText? key
      let text ← node? spacing depth value
      let others ← entries? spacing depth rest
      return "," ++ lineStart spacing depth ++ quoted name ++ colon spacing ++ text ++ others

end

/-- The JSON text of a document, if it has one. -/
def render? (spacing : Spacing) (document : Document) : Option String :=
  node? spacing 0 document

end RuleSchema.Json.Writer
