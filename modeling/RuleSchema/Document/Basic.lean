import RuleSchema.Document.Number

/-!
# Documents

A document is a tree of scalars, sequences, mappings and tagged nodes, the data
that rules and configurations are made of.  A mapping is a list of entries in
order; its operations keep keys distinct under document equality.

Equality ignores the order of mapping entries at every depth.  The accessors
look through tags, so that a tagged number still is a number; a `match` on the
constructors does not.
-/

namespace RuleSchema

/-- A node of rules or configuration data. -/
inductive Document where
  | null
  | bool (value : Bool)
  | number (value : Number)
  | string (value : String)
  | sequence (items : List Document)
  | mapping (entries : List (Document × Document))
  /-- A node under a tag; the name is written after an exclamation mark. -/
  | tagged (name : String) (value : Document)
  deriving Inhabited

/-- Entries of a mapping in order. -/
abbrev Mapping := List (Document × Document)

namespace Document

mutual

/-- Equality of documents; entries of a mapping may come in any order. -/
def beq : Document → Document → Bool
  | .null, .null => true
  | .bool left, .bool right => left == right
  | .number left, .number right => left.beq right
  | .string left, .string right => left == right
  | .sequence left, .sequence right => beqItems left right
  | .mapping left, .mapping right => left.length == right.length && beqEntries left right
  | .tagged leftName left, .tagged rightName right => leftName == rightName && beq left right
  | _, _ => false

/-- Equality of sequences, item by item. -/
def beqItems : List Document → List Document → Bool
  | [], [] => true
  | left :: leftRest, right :: rightRest => beq left right && beqItems leftRest rightRest
  | _, _ => false

/-- Every entry on the left has an equal entry on the right. -/
def beqEntries : List (Document × Document) → List (Document × Document) → Bool
  | [], _ => true
  | (key, value) :: rest, other =>
      (match other.find? (fun entry => beq key entry.1) with
        | some entry => beq value entry.2
        | none => false) && beqEntries rest other

end

instance : BEq Document := ⟨beq⟩

/-- The node below all tags. -/
def untagged : Document → Document
  | .tagged _ value => untagged value
  | document => document

@[simp]
theorem untagged_tagged (name : String) (value : Document) :
    untagged (.tagged name value) = untagged value := rfl

/-- The node below the outermost tag, if there is one. -/
def untagOnce : Document → Document
  | .tagged _ value => value
  | document => document

/-- A word as a document. -/
def ofInt64 (value : Int64) : Document := .number (.whole (.ofInt64 value))

/-- A float as a document. -/
def ofFloat (value : Float) : Document := .number (.float value)

/-- Whether a document is null, whatever its tags are. -/
def isNull (document : Document) : Bool :=
  match document.untagged with
  | .null => true
  | _ => false

/-- Whether a document is a mapping, whatever its tags are. -/
def isMapping (document : Document) : Bool :=
  match document.untagged with
  | .mapping _ => true
  | _ => false

/-- Whether a document is a string, whatever its tags are. -/
def isString (document : Document) : Bool :=
  match document.untagged with
  | .string _ => true
  | _ => false

/-- The truth value that a document is, through tags. -/
def asBool? (document : Document) : Option Bool :=
  match document.untagged with
  | .bool value => some value
  | _ => none

/-- The value of a whole number that fits in a signed word. -/
def asInt64? (document : Document) : Option Int64 :=
  match document.untagged with
  | .number value => value.toInt64?
  | _ => none

/-- The value of a whole number that is not negative. -/
def asNat? (document : Document) : Option Nat :=
  match document.untagged with
  | .number value => value.toNat?
  | _ => none

/-- The number that a document is as a float, through tags; whole numbers are rounded. -/
def asFloat? (document : Document) : Option Float :=
  match document.untagged with
  | .number value => some value.toFloat
  | _ => none

/-- The string that a document is, through tags. -/
def asString? (document : Document) : Option String :=
  match document.untagged with
  | .string value => some value
  | _ => none

/-- The items of a sequence, through tags. -/
def asSequence? (document : Document) : Option (List Document) :=
  match document.untagged with
  | .sequence items => some items
  | _ => none

/-- The entries of a mapping, through tags. -/
def asMapping? (document : Document) : Option Mapping :=
  match document.untagged with
  | .mapping entries => some entries
  | _ => none

end Document

namespace Mapping

/-- The value of the first entry with an equal key. -/
def get? (entries : Mapping) (key : Document) : Option Document :=
  (entries.find? (fun entry => key.beq entry.1)).map Prod.snd

/-- Whether a key is an untagged string of the given text. -/
def isField (name : String) : Document → Bool
  | .string text => text == name
  | _ => false

/-- The value under a string key, which must have no tag. -/
def field? (entries : Mapping) (name : String) : Option Document :=
  (entries.find? (fun entry => isField name entry.1)).map Prod.snd

/-- Whether there is a string key of the given text. -/
def hasField (entries : Mapping) (name : String) : Bool :=
  entries.any (fun entry => isField name entry.1)

/-- Replace the value of an entry in place, or append a new entry. -/
def insert (entries : Mapping) (key value : Document) : Mapping :=
  match entries with
  | [] => [(key, value)]
  | entry :: rest =>
      if key.beq entry.1 then (entry.1, value) :: rest else entry :: insert rest key value

/-- The mapping without the entry of a string key; the others keep their order. -/
def eraseField (entries : Mapping) (name : String) : Mapping :=
  entries.eraseP (fun entry => isField name entry.1)

/-- Insert a list of entries one after another; a repeated key keeps its place. -/
def ofEntries (entries : List (Document × Document)) : Mapping :=
  entries.foldl (fun built entry => built.insert entry.1 entry.2) []

end Mapping

/-- The value under a string key of a mapping, through the tags of the mapping. -/
def Document.field? (document : Document) (name : String) : Option Document :=
  match document.asMapping? with
  | some entries => entries.field? name
  | none => none

end RuleSchema
