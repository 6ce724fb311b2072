import RuleSchema.Document.Path

/-!
# Walking a document

Every location of a document in order, a container before its contents.  A tag is
no location: the contents of a tagged container are visited at its path.
-/

namespace RuleSchema

/-- A visited location: the path of its container, its step there, and its value. -/
structure Location where
  container : DocPath
  key : Option PathKey
  value : Document

namespace Location

/-- The path of a location: that of its container and the key in it. -/
def path (location : Location) : DocPath :=
  match location.key with
  | some key => location.container.child key
  | none => location.container

end Location

namespace Document

mutual

/-- The locations inside a document, each before what is inside it. -/
def inside (path : DocPath) : Document → List Location
  | .mapping entries => insideEntries path entries
  | .sequence items => insideItems path 0 items
  | .tagged _ value => inside path value
  | _ => []

/-- The locations of the entries of a mapping, and those inside them. -/
def insideEntries (path : DocPath) : List (Document × Document) → List Location
  | [] => []
  | (key, value) :: rest =>
      let step := PathKey.ofDocument key
      ⟨path, some step, value⟩ ::
        (inside (path.child step) value ++ insideEntries path rest)

/-- The locations of sequence items, the first at `position`, and below them. -/
def insideItems (path : DocPath) (position : Nat) : List Document → List Location
  | [] => []
  | item :: rest =>
      let step := PathKey.index position
      ⟨path, some step, item⟩ ::
        (inside (path.child step) item ++ insideItems path (position + 1) rest)

end

/-- All locations, the root first. -/
def walk (document : Document) : List Location :=
  ⟨[], none, document⟩ :: inside [] document

end Document

end RuleSchema
