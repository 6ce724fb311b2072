import RuleSchema.Level.Basic
import RuleSchema.Reference.TypeReference
import RuleSchema.Reference.ValidatorReference

/-!
# From rules to levels

A leaf of the rules becomes a field once its references are resolved.  A branch becomes
a field with a record type once the fields below it are known.
-/

namespace RuleSchema

/-- The fields that are known by the path of their rules, the latest first. -/
abbrev ResolvedFields := List (DocPath × FieldSpec)

/-- The field that was resolved for a path. -/
def ResolvedFields.get? (resolved : ResolvedFields) (path : DocPath) : Option FieldSpec :=
  (resolved.find? fun entry => entry.1 == path).map Prod.snd

/-- Whether a field was resolved for a path. -/
def ResolvedFields.has (resolved : ResolvedFields) (path : DocPath) : Bool :=
  (ResolvedFields.get? resolved path).isSome

namespace Level

/-- The name of the field at a path, which is not the root. -/
def fieldName (path : DocPath) : Except CompileError String :=
  match path.getLast? with
  | some key => .ok key.text
  | none => .error (.invalidTypeSpec path "the document root cannot be a field")

/-- The description that rules give to a field. -/
def docText (entries : Mapping) : Option String :=
  (entries.field? "doc").bind Document.asString?

/-- The field of a leaf: its type, its validators, and what else the leaf states. -/
def ofLeaf (registry : Registry) (path : DocPath) (leaf : Mapping) : Warned FieldSpec :=
  (Warned.silent (fieldName path)).andThen fun name =>
    (registry.resolveType path leaf).andThen fun type =>
      .silent <| (registry.resolveValidators path (some name) leaf).map fun validators =>
        { type := type
          validators := validators
          default := leaf.field? "default"
          optional := (leaf.field? "optional").any Document.isTrue
          doc := docText leaf }

/-- The fields of the keys of a mapping that are not reserved, in order. -/
def fieldsOf (path : DocPath) (resolved : ResolvedFields) :
    List (Document × Document) → Except CompileError (List (String × FieldSpec))
  | [] => .ok []
  | (key, _) :: rest =>
      if Rule.isReservedText key.keyText then fieldsOf path resolved rest
      else
        let inside := path.child (PathKey.ofDocument key)
        match resolved.get? inside with
        | none => .error (.invalidTypeSpec inside "expected a mapping with a 'type' key")
        | some field => (fieldsOf path resolved rest).map ((key.keyText, field) :: ·)

/-- The level of the mapping at a path, without validators of its own. -/
def collect (path : DocPath) (entries : Mapping) (resolved : ResolvedFields) :
    Except CompileError Level :=
  (fieldsOf path resolved entries).map fun fields => ⟨fields, []⟩

/-- The field of the branch at a path; the fields below it are known. -/
def ofBranch (registry : Registry) (path : DocPath) (entries : Mapping)
    (resolved : ResolvedFields) : Except CompileError FieldSpec := do
  let name ← fieldName path
  let validators ← registry.resolveValidators path (some name) entries
  let level ← collect path entries resolved
  let type ← close name { level with validators := validators.filter BoundValidator.isRecord } []
    path
  return {
    type := .record type
    validators := validators.filter fun validator => !validator.isRecord
    default := none
    optional := false
    doc := docText entries }

end Level

end RuleSchema
