import RuleSchema.Document.Basic
import RuleSchema.Text.Blank
import RuleSchema.Yaml.Writer

/-!
# Document paths

A path leads from the root of a document through mapping keys and sequence
positions.  Keys of a mapping need not be strings; a path names such a key by its
YAML text, so the key `1` is reached as `"1"`.

Paths are ordered: positions come before keys, and a path comes right before the
paths below it.
-/

namespace RuleSchema

/-- One step of a path. -/
inductive PathKey where
  | index (position : Nat)
  | key (text : String)
  deriving DecidableEq, Repr, Inhabited

/-- A location in a document, from the root down. -/
abbrev DocPath := List PathKey

/-- The text by which a path names a mapping key. -/
def Document.keyText : Document → String
  | .string text => text
  | .number value => value.text
  | .bool value => if value then "true" else "false"
  | .null => "null"
  | document => Text.Blank.trimEnd ((Yaml.Writer.render? document).getD "")

namespace PathKey

/-- The step to the entry of a key. -/
def ofDocument (key : Document) : PathKey := .key key.keyText

/-- The text of a step that is a key. -/
def asText? : PathKey → Option String
  | .key text => some text
  | .index _ => none

/-- The text of a step, as messages show it. -/
def text : PathKey → String
  | .key text => text
  | .index position => toString position

/-- Positions come before keys. -/
def compare : PathKey → PathKey → Ordering
  | .index left, .index right => Ord.compare left right
  | .index _, .key _ => .lt
  | .key _, .index _ => .gt
  | .key left, .key right => Ord.compare left right

end PathKey

namespace DocPath

/-- A path as messages show it, its steps divided by points. -/
def display (path : DocPath) : String :=
  match path with
  | [] => "(root)"
  | keys => ".".intercalate (keys.map PathKey.text)

/-- The path one step further down. -/
def child (path : DocPath) (key : PathKey) : DocPath := path ++ [key]

/-- The path one step up; the root has none. -/
def parent? (path : DocPath) : Option DocPath :=
  match path with
  | [] => none
  | keys => some keys.dropLast

/-- Whether the other path is this one or lies below it. -/
def isPrefixOf (path other : DocPath) : Bool := List.isPrefixOf path other

/-- Whether the other path lies strictly below this one. -/
def isAncestorOf (path other : DocPath) : Bool :=
  path.length < other.length && path.isPrefixOf other

/-- Paths are ordered by their first different steps, and a prefix comes first. -/
def compare : DocPath → DocPath → Ordering
  | [], [] => .eq
  | [], _ :: _ => .lt
  | _ :: _, [] => .gt
  | left :: leftRest, right :: rightRest =>
      match left.compare right with
      | .eq => compare leftRest rightRest
      | order => order

/-- Insert a path into an ascending list without repetition. -/
def insertInto (path : DocPath) : List DocPath → List DocPath
  | [] => [path]
  | other :: rest =>
      match path.compare other with
      | .lt => path :: other :: rest
      | .eq => other :: rest
      | .gt => other :: insertInto path rest

/-- The paths of a list in ascending order, each once. -/
def sorted (paths : List DocPath) : List DocPath :=
  paths.foldl (fun built path => insertInto path built) []

end DocPath

end RuleSchema
