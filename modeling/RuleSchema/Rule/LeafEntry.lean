import RuleSchema.Rule.Node

/-!
# Entries of leaves

Taking entries out of the leaves of a rule document, and leaving them out.  What is
taken out stands in the same place as in the rules.
-/

namespace RuleSchema.Rule

/-- The entries of the given names in a mapping, in the order of the names. -/
def picked (names : List String) (entries : Mapping) : Mapping :=
  Mapping.ofEntries (names.filterMap fun name =>
    (entries.field? name).map fun value => (Document.string name, value))

/-- Put the entries of the given names of one leaf into a document. -/
def pickLeaf (document : Document) (names : List String) (built : Document) (path : DocPath) :
    Document :=
  match (path.get? document).bind Document.asMapping? with
  | none => built
  | some entries =>
      let found := picked names entries
      if found.isEmpty then built else (path.assign (.mapping found) built).2

/-- The entries of the given names in all leaves. -/
def pick (names : List String) (document : Document) : Document :=
  (pathsWhere isLeaf document).foldl (pickLeaf document names) (.mapping [])

/-- Remove the entries of the given names from one leaf. -/
def dropLeaf (names : List String) (built : Document) (path : DocPath) : Document :=
  match path.get? built with
  | some (.mapping entries) =>
      (path.replace? (.mapping (names.foldl Mapping.eraseField entries)) built).getD built
  | _ => built

/-- The document without the entries of the given names in its leaves. -/
def drop (names : List String) (document : Document) : Document :=
  (pathsWhere isLeaf document).foldl (dropLeaf names) document

end RuleSchema.Rule
