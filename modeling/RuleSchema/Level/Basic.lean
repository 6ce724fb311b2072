import RuleSchema.Compile.Error
import RuleSchema.Types.Basic

/-!
# Levels of rules

One nesting level of rules has fields in the order of declaration and validators of its
own.  Closing a level gives a record type: it takes over the fields and validators of
the types it extends, replaces those that it declares itself, and puts fields with a
default behind the others.
-/

namespace RuleSchema

/-- A resolved field of a level. -/
structure FieldSpec where
  type : ValueType
  /-- The validators declared at the field, those of the record around it included. -/
  validators : List BoundValidator
  default : Option Document
  optional : Bool
  doc : Option String

namespace FieldSpec

/-- A required field of a type, with nothing else to it. -/
def plain (type : ValueType) : FieldSpec := ⟨type, [], none, false, none⟩

/-- Equality of lists of validators, one by one. -/
def sameValidators : List BoundValidator → List BoundValidator → Bool
  | [], [] => true
  | left :: leftRest, right :: rightRest => left.same right && sameValidators leftRest rightRest
  | _, _ => false

/-- Equality of defaults; none is equal to none. -/
def sameDefault : Option Document → Option Document → Bool
  | none, none => true
  | some left, some right => left.beq right
  | _, _ => false

/-- Equality of field specifications in all that they state. -/
def same (left right : FieldSpec) : Bool :=
  left.type.same right.type && sameValidators left.validators right.validators &&
    sameDefault left.default right.default && left.optional == right.optional &&
    left.doc == right.doc

/-- The field of the specification under a name. -/
def named (spec : FieldSpec) (name : String) : Field :=
  ⟨name, spec.type, spec.default, spec.optional, spec.doc⟩

end FieldSpec

/-- The fields of a nesting level, and the validators of the level itself. -/
structure Level where
  fields : List (String × FieldSpec)
  validators : List BoundValidator

namespace Level

/-- The words that no field may have as its name. -/
def reservedNames : List String :=
  ["as", "async", "await", "break", "const", "continue", "crate", "dyn", "else", "enum",
    "extern", "false", "fn", "for", "if", "impl", "in", "let", "loop", "match", "mod", "move",
    "mut", "pub", "ref", "return", "self", "Self", "static", "struct", "super", "trait", "true",
    "type", "unsafe", "use", "where", "while", "abstract", "become", "box", "do", "final",
    "macro", "override", "priv", "try", "typeof", "unsized", "virtual", "yield", "_"]

/-- A letter of ASCII or an underscore. -/
def isNameStart (c : Char) : Bool := c.isAlpha || c == '_'

/-- Whether a name is a letter or underscore, and then letters, digits and underscores. -/
def isIdentifier (name : String) : Bool :=
  match name.toList with
  | [] => false
  | first :: rest => isNameStart first && rest.all fun c => isNameStart c || c.isDigit

/-- A field has to have an identifier for its name, and none that is reserved. -/
def checkName (typeName field : String) : Except CompileError Unit :=
  if !isIdentifier field then .error (.invalidFieldName typeName field)
  else if reservedNames.contains field then .error (.reservedFieldName typeName field)
  else .ok ()

/-- Refuse names that no field may have, and names that come twice. -/
def checkNames (typeName : String) (seen : List String) :
    List String → Except CompileError Unit
  | [] => .ok ()
  | name :: rest =>
      match checkName typeName name with
      | .error error => .error error
      | .ok () =>
          if seen.contains name then .error (.duplicateFieldName typeName name)
          else checkNames typeName (name :: seen) rest

/-- All validators of a level: its own, then those of its fields. -/
def declared (level : Level) : List BoundValidator :=
  level.validators ++ level.fields.flatMap fun field => field.2.validators

/-- Refuse two validators with one target and one name. -/
def checkValidators (path : DocPath) (seen : List BoundValidator) :
    List BoundValidator → Except CompileError Unit
  | [] => .ok ()
  | validator :: rest =>
      if seen.any validator.sameKey then
        .error (.duplicateValidator validator.name validator.target.text path)
      else checkValidators path (validator :: seen) rest

/-- Replace a field of the same name in place, or append it. -/
def putField (fields : List Field) (field : Field) : List Field :=
  match fields with
  | [] => [field]
  | other :: rest =>
      if other.name == field.name then field :: rest else other :: putField rest field

/-- Replace a validator of the same target and name in place, or append it. -/
def putValidator (validators : List BoundValidator) (validator : BoundValidator) :
    List BoundValidator :=
  match validators with
  | [] => [validator]
  | other :: rest =>
      if other.sameKey validator then validator :: rest
      else other :: putValidator rest validator

/-- Fields without a default, then those with one. -/
def requiredFirst (fields : List Field) : List Field :=
  fields.filter (fun field => field.default.isNone) ++
    fields.filter (fun field => field.default.isSome)

/-- Close a level to the record type of a name; `path` is for messages. -/
def close (hint : String) (level : Level) (bases : List RecordType) (path : DocPath) :
    Except CompileError RecordType :=
  let name := hint ++ "_t"
  match checkNames name [] (level.fields.map Prod.fst) with
  | .error error => .error error
  | .ok () =>
      match checkValidators path [] level.declared with
      | .error error => .error error
      | .ok () =>
          let inherited := bases.flatMap fun base => base.fields
          let own := level.fields.map fun (field, spec) => spec.named field
          let validators := bases.flatMap (fun base => base.validators) ++ level.declared
          .ok
            { name := name
              fields := requiredFirst ((inherited ++ own).foldl putField [])
              validators := validators.foldl putValidator []
              bases := bases }

end Level

end RuleSchema
