import RuleSchema.Document.Path
import RuleSchema.Files.Name
import RuleSchema.NameMap

/-!
# Configuration values

The values of validated configurations.  Unlike a document, a value has no tags, its
maps have texts as keys, and it tells paths from texts and records from maps.

Every document has a value, and every value a document.
-/

namespace RuleSchema

/-- A typed value; the names of maps and of record fields come in order. -/
inductive Value where
  | null
  | bool (value : Bool)
  | int (value : Int64)
  | float (value : Float)
  | string (value : String)
  | path (value : String)
  | list (items : List Value)
  | map (entries : List (String × Value))
  | record (typeName : String) (fields : List (String × Value))
  deriving Inhabited

namespace Value

mutual

/-- The value of a document without a type; keys become texts, and tags are lost. -/
def ofDocument : Document → Value
  | .null => .null
  | .bool value => .bool value
  | .number value =>
      match value.toInt64? with
      | some word => .int word
      | none => .float value.toFloat
  | .string value => .string value
  | .sequence items => .list (ofItems items)
  | .mapping entries => .map (NameMap.ofEntries (ofMappingEntries entries))
  | .tagged _ value => ofDocument value

/-- The values of the items of a sequence. -/
def ofItems : List Document → List Value
  | [] => []
  | item :: rest => ofDocument item :: ofItems rest

/-- The values of the entries of a mapping, under the texts of their keys. -/
def ofMappingEntries : List (Document × Document) → List (String × Value)
  | [] => []
  | (key, value) :: rest => (key.keyText, ofDocument value) :: ofMappingEntries rest

end

mutual

/-- A value as a document; paths are strings there, and records are mappings. -/
def toDocument : Value → Document
  | .null => .null
  | .bool value => .bool value
  | .int value => .ofInt64 value
  | .float value => .ofFloat value
  | .string value => .string value
  | .path value => .string value
  | .list items => .sequence (toItems items)
  | .map entries => .mapping (toMapping entries)
  | .record _ fields => .mapping (toMapping fields)

/-- The documents of several values. -/
def toItems : List Value → List Document
  | [] => []
  | item :: rest => toDocument item :: toItems rest

/-- The mapping of named values, with strings as keys. -/
def toMapping : List (String × Value) → List (Document × Document)
  | [] => []
  | (name, value) :: rest => (.string name, toDocument value) :: toMapping rest

end

/-- The text of a value that is a key. -/
def keyText (value : Value) : String := value.toDocument.keyText

mutual

/-- The value as shown in messages. -/
def text : Value → String
  | .null => "None"
  | .bool value => if value then "True" else "False"
  | .int value => toString value.toInt
  | .float value => Decimal.Layout.value value
  | .string value => "'" ++ value ++ "'"
  | .path value => "'" ++ value ++ "'"
  | .list items => "[" ++ ", ".intercalate (itemTexts items) ++ "]"
  | .map entries => "\x7b" ++ ", ".intercalate (entryTexts entries) ++ "\x7d"
  | .record _ fields => "\x7b" ++ ", ".intercalate (entryTexts fields) ++ "\x7d"

/-- The texts of several values. -/
def itemTexts : List Value → List String
  | [] => []
  | item :: rest => text item :: itemTexts rest

/-- The texts of named values, each with its name in quotes. -/
def entryTexts : List (String × Value) → List String
  | [] => []
  | (name, value) :: rest => ("'" ++ name ++ "': " ++ text value) :: entryTexts rest

end

mutual

/--
Equality of values.  Floats are compared as numbers, paths by their steps, and maps
and records without regard to order.
-/
def beq : Value → Value → Bool
  | .null, .null => true
  | .bool left, .bool right => left == right
  | .int left, .int right => left == right
  | .float left, .float right => left == right
  | .string left, .string right => left == right
  | .path left, .path right => FileName.same left right
  | .list left, .list right => beqItems left right
  | .map left, .map right => left.length == right.length && beqEntries left right
  | .record leftType left, .record rightType right =>
      leftType == rightType && left.length == right.length && beqEntries left right
  | _, _ => false

/-- Equality of lists of values, one by one. -/
def beqItems : List Value → List Value → Bool
  | [], [] => true
  | left :: leftRest, right :: rightRest => beq left right && beqItems leftRest rightRest
  | _, _ => false

/-- Every entry on the left has an equal value under its name on the right. -/
def beqEntries : List (String × Value) → List (String × Value) → Bool
  | [], _ => true
  | (name, value) :: rest, other =>
      (match NameMap.get? other name with
        | some found => beq value found
        | none => false) && beqEntries rest other

end

instance : BEq Value := ⟨beq⟩

/-- Whether a value is null. -/
def isNull : Value → Bool
  | .null => true
  | _ => false

/-- The truth value that a value is. -/
def asBool? : Value → Option Bool
  | .bool value => some value
  | _ => none

/-- The word that a value is. -/
def asInt? : Value → Option Int64
  | .int value => some value
  | _ => none

/-- The number that a value is, as a float; words are rounded. -/
def asFloat? : Value → Option Float
  | .int value => some (Decimal.Rounding.ofInt value.toInt)
  | .float value => some value
  | _ => none

/-- The string that a value is; a path is none. -/
def asString? : Value → Option String
  | .string value => some value
  | _ => none

/-- The path that a value is. -/
def asPath? : Value → Option String
  | .path value => some value
  | _ => none

/-- The items of a list. -/
def asList? : Value → Option (List Value)
  | .list items => some items
  | _ => none

/-- The entries of a map; a record is none. -/
def asMap? : Value → Option (NameMap Value)
  | .map entries => some entries
  | _ => none

/-- The type name and the fields of a record. -/
def asRecord? : Value → Option (String × NameMap Value)
  | .record typeName fields => some (typeName, fields)
  | _ => none

/-- The value one step down: a field of a record, an entry of a map, an item of a list. -/
def step? : Value → PathKey → Option Value
  | .record _ fields, .key name => NameMap.get? fields name
  | .map entries, .key name => NameMap.get? entries name
  | .list items, .index position => items[position]?
  | _, _ => none

/-- The value at a path, through lists, maps and records. -/
def get? (value : Value) : DocPath → Option Value
  | [] => some value
  | key :: rest =>
      match value.step? key with
      | some inner => get? inner rest
      | none => none

end Value

/-- A scalar as shown in messages and type names; other documents as YAML. -/
def Document.scalarText : Document → String
  | .string text => "'" ++ text ++ "'"
  | .null => "None"
  | .bool value => if value then "True" else "False"
  | document => document.keyText

end RuleSchema
