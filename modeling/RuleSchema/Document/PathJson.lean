import RuleSchema.Document.Path
import RuleSchema.Json.Reader
import RuleSchema.Json.Writer

/-!
# Paths as JSON

A path is written as a JSON array of its steps: a key as a string, a position as a
number.
-/

namespace RuleSchema

/-- A step as a document: the text of a key, or the number of a position. -/
def PathKey.toDocument : PathKey → Document
  | .key text => .string text
  | .index position =>
      match Whole.ofInt? position with
      | some whole => .number (.whole whole)
      | none => .null

/-- The step that a document stands for. -/
def PathKey.ofStep? : Document → Option PathKey
  | .string text => some (.key text)
  | .number value => value.toNat?.map .index
  | _ => none

namespace DocPath

/-- A path as compact JSON text, a list of texts and positions. -/
def toJson (path : DocPath) : String :=
  (Json.Writer.render? .compact (.sequence (path.map PathKey.toDocument))).getD ""

/-- Read a path from JSON text. -/
def ofJson? (text : String) : Option DocPath :=
  match Json.Reader.parse? text with
  | some (.sequence items) => items.mapM PathKey.ofStep?
  | _ => none

end DocPath

end RuleSchema
