import RuleSchema.Compile.Schema
import RuleSchema.Rule.LeafEntry

/-!
# Attributes

Attributes are leaves of rules that describe the values an element of a network may
carry.  They are known by the last key of their paths, which therefore must be unique.
-/

namespace RuleSchema

/-- An attribute of properties: where its rules are, and what they say. -/
structure Attribute where
  /-- The place of its leaf in the attribute rules. -/
  path : DocPath
  spec : FieldSpec

/-- The default of a leaf, under the last key of its path. -/
def Attribute.default? (rules : Document) (path : DocPath) : Option (String × Document) :=
  match (path.get? rules).bind (·.field? "default"), path.getLast? with
  | some default, some key => some (key.text, default)
  | _, _ => none

/-- The defaults of all leaves of attribute rules, under the last keys of their paths. -/
def Attribute.defaults (rules : Document) : NameMap Document :=
  NameMap.ofEntries ((Rule.pathsWhere Rule.isLeaf rules).filterMap (default? rules))

/-- Attribute rules without defaults and presentation. -/
def Attribute.stripped (rules : Document) : Document :=
  Rule.drop ["default", "doc", "scaling_label"] rules

/-- Attributes by the last keys of their paths. -/
structure AttributeSet where
  attributes : NameMap Attribute
  /-- The type of the attributes that must be present. -/
  base : RecordType
  warnings : List CompileWarning

namespace AttributeSet

/-- Compile the leaves at paths, one after another. -/
def compileLeaves (registry : Registry) (rules : Document) (built : NameMap Attribute) :
    List DocPath → Warned (NameMap Attribute)
  | [] => .silent (.ok built)
  | path :: rest =>
      match (path.get? rules).bind Document.asMapping? with
      | none => compileLeaves registry rules built rest
      | some leaf =>
          (Level.ofLeaf registry path leaf).andThen fun spec =>
            let key := (path.getLast?.map PathKey.text).getD ""
            if built.has key then
              .silent (.error (.duplicateFieldName "attributes" key))
            else compileLeaves registry rules (built ++ [(key, ⟨path, spec⟩)]) rest

/-- The level of the attributes that must be present. -/
def mandatory (attributes : NameMap Attribute) : Level where
  fields := (attributes.filter fun entry => !entry.2.spec.optional).map fun (key, found) =>
    (key, found.spec)
  validators := []

/-- Compile attribute rules: one attribute for each leaf, under distinct keys. -/
def compile (registry : Registry) (rules : Document) : Except CompileError AttributeSet :=
  if !rules.isMapping then .error (.invalidTypeSpec [] "attribute rules must be a mapping")
  else
    let compiled := compileLeaves registry rules [] (Rule.pathsWhere Rule.isLeaf rules)
    match compiled.result with
    | .error error => .error error
    | .ok attributes =>
        (Level.close "baseprop" (mandatory attributes) [] []).map fun base =>
          ⟨attributes, base, compiled.warnings⟩

/-- The paths at which attributes have their leaves. -/
def leafPaths (set : AttributeSet) : List DocPath :=
  set.attributes.values.map Attribute.path

/-- The key of the attribute whose leaf is at a path. -/
def keyAt? (set : AttributeSet) (path : DocPath) : Option String :=
  (set.attributes.find? fun entry => entry.2.path == path).map Prod.fst

/-- Whether a place lies above an attribute or below one. -/
def groups (set : AttributeSet) (path : DocPath) : Bool :=
  set.leafPaths.any (fun leaf => path.isAncestorOf leaf) ||
    Rule.hasLeafAncestor set.leafPaths path

/-- The attribute values at places of a declaration. -/
def valuesAt (set : AttributeSet) (declaration : Document) :
    List DocPath → Except CompileError (List (String × Document))
  | [] => .ok []
  | path :: rest =>
      match set.keyAt? path with
      | some key =>
          (valuesAt set declaration rest).map fun others =>
            match path.get? declaration with
            | some value => (key, value) :: others
            | none => others
      | none =>
          if set.groups path then valuesAt set declaration rest
          else .error (.undefinedReference "attribute" path.display)

/--
The attribute values of a declaration, in its order.

Groups above the attributes and values inside them are accepted; anything else is no
attribute.
-/
def selectValues (set : AttributeSet) (declaration : Document) :
    Except CompileError (List (String × Document)) :=
  set.valuesAt declaration (Rule.pathsWhere Rule.isNode declaration)

/-- The level of the attributes under the given names. -/
def levelFor (set : AttributeSet) (keys : List String) : Level where
  fields := keys.filterMap fun key =>
    (set.attributes.get? key).map fun found => (key, found.spec)
  validators := []

end AttributeSet

end RuleSchema
