import RuleSchema.Document.Basic

/-!
# Truth and description of documents

Flags of a rule may be any document: null, `false`, zero and everything empty are
false.  Messages that show a whole document describe it by its kind and contents.
-/

namespace RuleSchema.Document

/-- Whether a document counts as true: no null, false or zero, and nothing empty. -/
def isTrue : Document → Bool
  | .null => false
  | .bool value => value
  | .number value => value.toFloat != 0.0
  | .string text => !text.isEmpty
  | .sequence items => !items.isEmpty
  | .mapping entries => !entries.isEmpty
  | .tagged _ value => isTrue value

/-- A character between double quotes, escaped where it must be. -/
def describeChar (c : Char) : String :=
  if c = '"' then "\\\""
  else if c = '\\' then "\\\\"
  else if c = '\n' then "\\n"
  else if c = '\t' then "\\t"
  else if c = '\r' then "\\r"
  else if c.toNat = 0 then "\\0"
  else if c.toNat < 32 ∨ c.toNat = 127 then
    "\\u\x7b" ++ String.ofList (Nat.toDigits 16 c.toNat) ++ "\x7d"
  else c.toString

/-- A text in double quotes. -/
def describeText (text : String) : String :=
  "\"" ++ String.join (text.toList.map describeChar) ++ "\""

mutual

/-- A document as messages about unexpected documents show it. -/
def describe : Document → String
  | .null => "Null"
  | .bool value => "Bool(" ++ (if value then "true" else "false") ++ ")"
  | .number value => "Number(" ++ value.text ++ ")"
  | .string text => "String(" ++ describeText text ++ ")"
  | .sequence items => "Sequence [" ++ ", ".intercalate (describeItems items) ++ "]"
  | .mapping entries =>
      "Mapping \x7b" ++ ", ".intercalate (describeEntries entries) ++ "\x7d"
  | .tagged name value =>
      "TaggedValue \x7b tag: !" ++ name ++ ", value: " ++ describe value ++ " \x7d"

/-- The descriptions of the items of a sequence. -/
def describeItems : List Document → List String
  | [] => []
  | item :: rest => describe item :: describeItems rest

/-- Descriptions of entries; keys that are scalars stand without their kind. -/
def describeEntries : List (Document × Document) → List String
  | [] => []
  | (key, value) :: rest =>
      let name :=
        match key with
        | .bool flag => if flag then "true" else "false"
        | .number amount => amount.text
        | .string text => describeText text
        | other => describe other
      (name ++ ": " ++ describe value) :: describeEntries rest

end

end RuleSchema.Document
