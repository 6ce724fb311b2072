import RuleSchema.Rule.Node

/-!
# Optional rules

Rules may describe more than a configuration mentions.  Optional leaves that are not
mentioned are dropped before compiling, and with them the records left without a field.
-/

namespace RuleSchema.Rule

/-- Whether a record is left with reserved entries only. -/
def isEmptied (document : Document) (path : DocPath) : Bool :=
  ((path.get? document).bind Document.asMapping?).any fun entries =>
    entries.all fun entry => isReserved (PathKey.ofDocument entry.1)

/-- The document without what is at a path, if anything is. -/
def without (path : DocPath) (document : Document) : Document :=
  match path.remove? document with
  | some (_, rest) => rest
  | none => document

/-- Drop the emptied record at a path given from its last key up, and those above it. -/
def dropEmptied : List PathKey → Document → Document
  | [], document => document
  | key :: above, document =>
      let path := (key :: above).reverse
      if isEmptied document path then dropEmptied above (without path document) else document

/-- Drop a leaf, and the records that this empties. -/
def dropUnused (document : Document) (leaf : DocPath) : Document :=
  dropEmptied leaf.reverse.tail (without leaf document)

/-- The rules without the optional leaves that are no node of the configuration. -/
def resolveOptional (rules configuration : Document) : Document :=
  let mentioned := nodes configuration
  ((pathsWhere isOptional rules).filter fun leaf => !mentioned.contains leaf).foldl dropUnused rules

end RuleSchema.Rule
