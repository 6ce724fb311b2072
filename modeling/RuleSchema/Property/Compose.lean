import RuleSchema.Property.Attribute
import RuleSchema.Property.Declaration
import RuleSchema.Value.Instance

/-!
# Composing properties

Every property gets a record type of its own, which extends that of its parent or the
type of the attributes that must be present.  Its values are those of the parent, then
defaults for what is still missing, and over both what it declares itself.
-/

namespace RuleSchema

/-- Composed properties by their names. -/
structure PropertySet where
  /-- The type of the attributes that must be present. -/
  base : RecordType
  properties : NameMap Instance

namespace PropertySet

/-- Check the names of properties, up to the first that is no identifier or reserved. -/
def checkNames : List String → Except CompileError Unit
  | [] => .ok ()
  | name :: rest =>
      match Level.checkName "properties" name with
      | .error error => .error error
      | .ok () => checkNames rest

/-- Defaults for fields that have no value yet. -/
def withDefaults (defaults : NameMap Document) (fields : List Field) (values : Mapping) :
    Mapping :=
  fields.foldl
    (fun values field =>
      match defaults.get? field.name with
      | none => values
      | some default =>
          if values.hasField field.name then values
          else values.insert (.string field.name) default)
    values

/-- The values of a property: inherited, by default, and declared. -/
def valuesOf (defaults : NameMap Document) (parent : Option Instance) (fields : List Field)
    (declared : List (String × Document)) : Mapping :=
  let inherited : Mapping :=
    match parent with
    | some record => Mapping.ofEntries (Value.toMapping record.values)
    | none => []
  declared.foldl (fun values entry => values.insert (.string entry.1) entry.2)
    (withDefaults defaults fields inherited)

/-- Compose one property; its parent is already composed. -/
def composeOne (store : FileStore) (set : AttributeSet) (defaults : NameMap Document)
    (composed : NameMap Instance) (name : String) (declaration : PropertyDeclaration) :
    Except CompileError Instance := do
  let declared ← set.selectValues declaration.values
  let parent := declaration.parent.bind composed.get?
  let base :=
    match parent with
    | some record => record.type
    | none => set.base
  let type ← Level.close name (set.levelFor (declared.map Prod.fst)) [base] [.key name]
  match type.validate store (.mapping (valuesOf defaults parent type.fields declared)) with
  | .error rejection => .error (.propertyValidation name rejection)
  | .ok record => .ok record

/-- Compose properties in the given order. -/
def composeAll (store : FileStore) (set : AttributeSet) (defaults : NameMap Document)
    (declarations : PropertyDeclarations) (composed : NameMap Instance) :
    List String → Except CompileError (NameMap Instance)
  | [] => .ok composed
  | name :: rest =>
      match declarations.get? name with
      | none => composeAll store set defaults declarations composed rest
      | some declaration =>
          match composeOne store set defaults composed name declaration with
          | .error error => .error error
          | .ok record =>
              composeAll store set defaults declarations (composed.insert name record) rest

/-- Compose the properties of a document of declarations. -/
def compose (store : FileStore) (set : AttributeSet) (defaults : NameMap Document)
    (document : Document) : Except CompileError PropertySet := do
  let declarations ← PropertyDeclarations.ofDocument document
  checkNames declarations.names
  match declarations.missingParent? with
  | some parent => .error (.undefinedReference "property" parent)
  | none =>
      if declarations.names.any declarations.isCyclic then
        .error (.cyclicPropertyDependency declarations.cyclicEdges)
      else
        let properties ←
          composeAll store set defaults declarations [] declarations.order
        return ⟨set.base, properties⟩

end PropertySet

end RuleSchema
