import RuleSchema.Document.Edit
import RuleSchema.Document.Truth
import RuleSchema.Document.Walk

/-!
# Nodes of rules

A rule document describes the shape of a configuration.  Its nodes are the locations
whose paths hold no reserved key; a node that holds a mapping with a `type` is a leaf,
and describes one value.  The branches are the records above the leaves.
-/

namespace RuleSchema.Rule

/-- The keys of rules that describe a leaf or a branch and name no field. -/
def reservedKeys : List String :=
  ["type", "opts", "validator", "validator_opts", "validator_params", "root_validator",
    "default", "optional", "doc"]

/-- Whether a text is a key that names no field. -/
def isReservedText (text : String) : Bool := reservedKeys.contains text

/-- Whether a step is a key that names no field. -/
def isReserved (key : PathKey) : Bool := key.asText?.any isReservedText

/-- A location other than the root with no reserved key on its path. -/
def isNode (location : Location) : Bool :=
  match location.key with
  | none => false
  | some key => !isReserved key && !location.container.any isReserved

/-- A node with a mapping that has a `type`. -/
def isLeaf (location : Location) : Bool :=
  isNode location && location.value.asMapping?.any (·.hasField "type")

/-- Whether a leaf says that its value may be absent. -/
def saysOptional (value : Document) : Bool := (value.field? "optional").any Document.isTrue

/-- A leaf whose value may be absent. -/
def isOptional (location : Location) : Bool := isLeaf location && saysOptional location.value

/-- A leaf whose value must be present. -/
def isMandatory (location : Location) : Bool := isLeaf location && !saysOptional location.value

/-- The paths of the locations that pass a test, in document order. -/
def pathsWhere (test : Location → Bool) (document : Document) : List DocPath :=
  (document.walk.filter test).map Location.path

/-- The paths of all nodes of rules, in ascending order. -/
def nodes (document : Document) : List DocPath := DocPath.sorted (pathsWhere isNode document)

/-- The paths of all leaves of rules, in ascending order. -/
def leaves (document : Document) : List DocPath := DocPath.sorted (pathsWhere isLeaf document)

/-- Whether a path lies strictly below one of the leaves. -/
def hasLeafAncestor (leaves : List DocPath) (path : DocPath) : Bool :=
  leaves.any (fun leaf => leaf.isAncestorOf path)

/--
Whether a node is a branch: it is no leaf, does not lie below one, holds a mapping, and
has a leaf below it.
-/
def isBranch (document : Document) (leaves : List DocPath) (path : DocPath) : Bool :=
  !leaves.contains path && !hasLeafAncestor leaves path &&
    (path.get? document).any Document.isMapping &&
    leaves.any (fun leaf => path.isAncestorOf leaf)

/-- The paths of all branches of rules, in ascending order. -/
def branches (document : Document) : List DocPath :=
  (nodes document).filter (isBranch document (leaves document))

/--
The paths whose keys are not all among the keys of another path.

This looks at the sets of keys and not at their order, so that two paths with the same
keys hide each other.
-/
def deepest (paths : List DocPath) : List DocPath :=
  paths.filter fun path =>
    !paths.any fun other => path != other && path.all fun key => other.contains key

end RuleSchema.Rule
