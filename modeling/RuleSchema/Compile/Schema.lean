import RuleSchema.Document.Fingerprint
import RuleSchema.Level.Assembly

/-!
# Compiling rules

Rules become a record type from the inside out.  First the leaves are resolved.  Then
branches are assembled in rounds: a round takes the waiting branches whose inner branches
are all assembled, and what waits for the next round are the records above them and
every other branch that is ready by then.  Last comes the root, the type `config_t`.

Each round assembles at least one branch, so there are no more rounds than branches.
-/

namespace RuleSchema

/-- Compiled rules. -/
structure Schema where
  /-- The type of the whole configuration. -/
  type : RecordType
  warnings : List CompileWarning
  /-- The fingerprint of the rules. -/
  digest : String

namespace Schema

/-- Refuse a node that is no leaf and no branch and does not lie in a leaf. -/
def checkStructure (rules : Document) (leaves branches : List DocPath) :
    Except CompileError Unit :=
  match (Rule.pathsWhere Rule.isNode rules).find? fun node =>
      !(leaves.contains node || branches.contains node || Rule.hasLeafAncestor leaves node) with
  | some node => .error (.invalidTypeSpec node "expected a mapping with a 'type' key")
  | none => .ok ()

/-- The mapping at a path of the rules, through tags; without one the specification is invalid. -/
def mappingAt (rules : Document) (path : DocPath) : Except CompileError Mapping :=
  match (path.get? rules).bind Document.asMapping? with
  | some entries => .ok entries
  | none => .error (.invalidTypeSpec path "expected a mapping")

/-- The fields of some leaves, the last one in front, added to those resolved before. -/
def resolveLeaves (registry : Registry) (rules : Document) (resolved : ResolvedFields) :
    List DocPath → Warned ResolvedFields
  | [] => .silent (.ok resolved)
  | path :: rest =>
      (Warned.silent (mappingAt rules path)).andThen fun leaf =>
        (Level.ofLeaf registry path leaf).andThen fun field =>
          resolveLeaves registry rules ((path, field) :: resolved) rest

/-- Whether every branch below a path is assembled. -/
def isReady (branches : List DocPath) (resolved : ResolvedFields) (path : DocPath) : Bool :=
  (branches.filter fun branch => path.isAncestorOf branch).all resolved.has

/-- Assemble those of the waiting branches that are ready, one after another. -/
def assemble (registry : Registry) (rules : Document) (branches : List DocPath)
    (resolved : ResolvedFields) : List DocPath → Except CompileError ResolvedFields
  | [] => .ok resolved
  | path :: rest =>
      if resolved.has path || !isReady branches resolved path then
        assemble registry rules branches resolved rest
      else do
        let entries ← mappingAt rules path
        let field ← Level.ofBranch registry path entries resolved
        assemble registry rules branches ((path, field) :: resolved) rest

/-- The branches that wait after a round: the records above the last ones, and what is ready. -/
def waiting (branches : List DocPath) (resolved : ResolvedFields) (last : List DocPath) :
    List DocPath :=
  let above := DocPath.sorted ((last.filterMap DocPath.parent?).filter fun path => !path.isEmpty)
  let ready := branches.filter (isReady branches resolved)
  (DocPath.sorted (Rule.deepest above ++ ready)).filter fun path => !resolved.has path

/-- Assemble branches in rounds until none waits. -/
def rounds (registry : Registry) (rules : Document) (branches : List DocPath) :
    Nat → ResolvedFields → List DocPath → Except CompileError ResolvedFields
  | 0, resolved, _ => .ok resolved
  | count + 1, resolved, remaining =>
      if remaining.isEmpty then .ok resolved
      else do
        let next ← assemble registry rules branches resolved remaining
        rounds registry rules branches count next (waiting branches next remaining)

/-- The record type of the whole document, with the validators that the root itself names. -/
def closeRoot (registry : Registry) (entries : Mapping) (resolved : ResolvedFields) :
    Except CompileError RecordType := do
  let level ← Level.collect [] entries resolved
  let validators ← registry.resolveValidators [] none entries
  Level.close "config" { level with validators := validators } [] []

/-- The type of rules with the given entries at their root. -/
def typeOf (registry : Registry) (rules : Document) (entries : Mapping) : Warned RecordType :=
  let leaves := Rule.leaves rules
  let branches := Rule.branches rules
  (Warned.silent (checkStructure rules leaves branches)).andThen fun _ =>
    (resolveLeaves registry rules [] (Rule.pathsWhere Rule.isLeaf rules)).andThen fun fields =>
      .silent do
        let resolved ← rounds registry rules branches branches.length fields
          (Rule.deepest branches)
        closeRoot registry entries resolved

/-- Compile rules: the leaves first, then the branches from the deepest up, and the root at last. -/
def compile (registry : Registry) (rules : Document) : Except CompileError Schema :=
  match rules.asMapping? with
  | none => .error (.invalidTypeSpec [] "a rule document must be a mapping")
  | some entries =>
      if entries.hasField "type" then
        .error (.invalidTypeSpec [] "the document root cannot be a leaf")
      else
        let compiled := typeOf registry rules entries
        compiled.result.map fun type => ⟨type, compiled.warnings, rules.fingerprint⟩

end Schema

end RuleSchema
