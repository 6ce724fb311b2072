import RuleSchema.Compile.Error
import RuleSchema.NameMap

/-!
# Property declarations

A property is a named set of attribute values.  It may name one parent, whose values it
inherits.  Properties are composed in an order in which every parent comes before its
children: the search goes down from each property in turn, and each is put before those
that were finished earlier.
-/

namespace RuleSchema

/-- What is declared for a property: the one it inherits from, and values. -/
structure PropertyDeclaration where
  parent : Option String
  values : Document

/-- Declarations of properties by their names, in the order in which they come. -/
abbrev PropertyDeclarations := NameMap PropertyDeclaration

namespace PropertyDeclarations

/-- The declaration that an entry makes; null declares nothing. -/
def ofEntry (name : String) (document : Document) : Except CompileError PropertyDeclaration :=
  let entries : Except CompileError Mapping :=
    match document with
    | .null => .ok []
    | .mapping entries => .ok entries
    | _ => .error (.invalidTypeSpec [.key name] "a property declaration must be a mapping")
  entries.bind fun entries =>
    let values := Document.mapping (entries.eraseField "parent")
    match entries.field? "parent" with
    | none => .ok ⟨none, values⟩
    | some (.string parent) => .ok ⟨some parent, values⟩
    | some _ =>
        .error (.invalidTypeSpec [.key name, .key "parent"] "a parent must name a property")

/-- The declarations of entries, one after another. -/
def ofEntries (built : PropertyDeclarations) :
    List (Document × Document) → Except CompileError PropertyDeclarations
  | [] => .ok built
  | (key, document) :: rest =>
      match ofEntry key.keyText document with
      | .error error => .error error
      | .ok declaration => ofEntries (built.insert key.keyText declaration) rest

/-- The declarations of a document, which must be a mapping. -/
def ofDocument (document : Document) : Except CompileError PropertyDeclarations :=
  match document.asMapping? with
  | none => .error (.invalidTypeSpec [] "property declarations must be a mapping")
  | some entries => ofEntries [] entries

/-- The property from which a property inherits. -/
def parent? (declarations : PropertyDeclarations) (name : String) : Option String :=
  (declarations.get? name).bind PropertyDeclaration.parent

/-- The first parent that is not declared. -/
def missingParent? (declarations : PropertyDeclarations) : Option String :=
  declarations.findSome? fun entry =>
    entry.2.parent.filter fun parent => !declarations.has parent

/-- Whether a chain of parents of limited length leads from a property to another. -/
def reaches (declarations : PropertyDeclarations) (goal : String) : Nat → String → Bool
  | 0, _ => false
  | steps + 1, name =>
      match declarations.parent? name with
      | none => false
      | some parent => parent == goal || reaches declarations goal steps parent

/-- Whether a property is among its own ancestors. -/
def isCyclic (declarations : PropertyDeclarations) (name : String) : Bool :=
  declarations.reaches name declarations.length name

/-- The pairs of parent and child on a cycle, in the order of the children. -/
def cyclicEdges (declarations : PropertyDeclarations) : List (String × String) :=
  declarations.filterMap fun (name, declaration) =>
    match declaration.parent with
    | some parent =>
        if declarations.isCyclic parent && declarations.isCyclic name then some (parent, name)
        else none
    | none => none

/-- The properties that inherit from a property, in the order of their declarations. -/
def children (declarations : PropertyDeclarations) (name : String) : List String :=
  (declarations.filter fun entry => entry.2.parent == some name).map Prod.fst

/-- The properties that a search has met, and those that it has finished, the latest first. -/
structure Search where
  met : List String
  finished : List String

/-- Search from a property down, unless it was met before; `depth` limits the descent. -/
def search (declarations : PropertyDeclarations) : Nat → Search → String → Search
  | 0, state, _ => state
  | depth + 1, state, name =>
      if state.met.contains name then state
      else
        let below := (declarations.children name).foldl (search declarations depth)
          { state with met := name :: state.met }
        { below with finished := name :: below.finished }

/-- All properties, parents before their children. -/
def order (declarations : PropertyDeclarations) : List String :=
  (declarations.names.foldl (search declarations (declarations.length + 1)) ⟨[], []⟩).finished

end PropertyDeclarations

end RuleSchema
