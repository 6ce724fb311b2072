import RuleSchema.Document.Basic
import RuleSchema.Text.Blank
import RuleSchema.Yaml.Node

/-!
# Reading YAML documents

A node tree becomes a document: aliases are followed, plain scalars take their
meaning, and local tags stay as tagged nodes.  A text holds one document; a text
of blanks alone is an empty mapping, one of comments alone is null.

Collections nest at most 128 deep and aliases are followed at most a hundred
times for each part of the text, so that no text expands without bound.
-/

namespace RuleSchema.Yaml.Reader

/-- A tag name without the exclamation mark in front, unless nothing else is left. -/
def tagName (text : String) : String :=
  match text.toList with
  | '!' :: c :: rest => String.ofList (c :: rest)
  | _ => text

/-- The name of a local tag; tags of other kinds only select the meaning of a scalar. -/
def localTag? (tag : Option String) : Option String :=
  match tag with
  | some text => if text.toList.head? == some '!' then some (tagName (tagName text)) else none
  | none => none

/-- A whole number as a document, if it is in range. -/
def whole? (value : Int) : Option Document :=
  (Whole.ofInt? value).map fun whole => .number (.whole whole)

/-- A plain scalar by its meaning; a whole number out of range is refused. -/
def plainScalar? (text : String) : Option Document :=
  match Scalar.meaning text with
  | .null => some .null
  | .bool value => some (.bool value)
  | .whole value => whole? value
  | .float value => some (.ofFloat value)
  | .text => some (.string text)

/-- A scalar: its core tag decides, then whether it is plain. -/
def scalar? (tag : Option String) (text : String) (isPlain : Bool) : Option Document :=
  match tag with
  | some "tag:yaml.org,2002:bool" => (Scalar.bool? text).map .bool
  | some "tag:yaml.org,2002:int" => (Scalar.whole? text.toList).bind whole?
  | some "tag:yaml.org,2002:float" => (Scalar.float? text).map .ofFloat
  | some "tag:yaml.org,2002:null" => if Scalar.isNull text then some .null else none
  | _ =>
      if isPlain && (tag.isNone || (localTag? tag).isSome) then plainScalar? text
      else some (.string text)

/-- A document under its local tag, if it has one. -/
def underTag (tag : Option String) (document : Document) : Document :=
  match localTag? tag with
  | some name => .tagged name document
  | none => document

/-- What aliases refer to and how often they may be followed. -/
structure Anchors where
  nodes : List (Nat × Node)
  limit : Nat

/-- Reading counts the aliases followed so far. -/
abbrev Reading := StateT Nat Option

/-- The node an alias stands for: the last one of its number. -/
def follow (anchors : Anchors) (node : Node) : Reading Node := do
  match node with
  | .alias number =>
      let count := (← get) + 1
      if count > anchors.limit then failure
      set count
      match anchors.nodes.reverse.lookup number with
      | some target => return target
      | none => failure
  | _ => return node

/-- Add an entry whose key must be new. -/
def addEntry (entries : Mapping) (key value : Document) : Reading Mapping :=
  if (entries.get? key).isSome then failure else return entries ++ [(key, value)]

/-- A node as a document, with at most `depth` further levels of collections. -/
def expand (anchors : Anchors) (depth : Nat) (node : Node) : Reading Document := do
  match depth, ← follow anchors node with
  | _, .scalar tag _ text isPlain =>
      match scalar? tag text isPlain with
      | some document => return underTag tag document
      | none => failure
  | depth + 1, .sequence tag _ items =>
      return underTag tag (.sequence (← items.mapM (expand anchors depth)))
  | depth + 1, .mapping tag _ entries =>
      let read ← entries.foldlM
        (fun read entry => do
          let key ← expand anchors depth entry.1
          addEntry read key (← expand anchors depth entry.2))
        ([] : Mapping)
      return underTag tag (.mapping read)
  | _, _ => failure

/-- How deep collections may be nested. -/
def depthLimit : Nat := 128

/-- The document of a root node, with a limit on the aliases that are followed. -/
def ofNode? (root : Node) : Option Document :=
  let anchors : Anchors := ⟨root.anchored, 100 * root.parts⟩
  ((expand anchors depthLimit root).run 0).map Prod.fst

/-- Read a YAML text as a document; a blank text is an empty mapping. -/
def parse? (text : String) : Option Document :=
  if (Text.Blank.trim text).isEmpty then some (.mapping [])
  else
    match Token.ofText? text with
    | none => none
    | some tokens =>
        match Node.ofTokens? tokens with
        | none => none
        | some none => some .null
        | some (some root) => ofNode? root

end RuleSchema.Yaml.Reader
