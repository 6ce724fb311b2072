import RuleSchema.Types.Constraints
import RuleSchema.Validation.Validator

/-!
# Types of values

The type of a field is a scalar with constraints, a container, a choice of types, or
a record type with fields and validators of its own.  A record type holds the fields
and validators of the types it extends; the list of those is kept beside them.
-/

namespace RuleSchema

/-- What a path must point at. -/
inductive PathKind where
  | any
  | file
  | directory
  deriving DecidableEq, Repr

/-- A type with a coercion of its own. -/
structure CustomType where
  name : String
  coerce : Document → Except String Value

mutual

/-- The type of a value; what a type refers to is in the type. -/
inductive ValueType where
  | any
  | bool (strict : Bool)
  | int (constraints : IntConstraints)
  | float (constraints : FloatConstraints)
  | text (constraints : TextConstraints)
  | path (kind : PathKind)
  | literal (options : List Document)
  | list (item : ValueType)
  | dict (key value : ValueType)
  | tuple (items : List ValueType)
  | optional (inner : ValueType)
  | union (choices : List ValueType)
  /-- A number labelled with a unit. -/
  | unit (label : String) (base : ValueType)
  | record (type : RecordType)
  | custom (type : CustomType)

/-- A record type: its fields in their order, and the validators of fields and of the record. -/
structure RecordType where
  name : String
  fields : List Field
  validators : List BoundValidator
  /-- The types whose fields and validators this one started from. -/
  bases : List RecordType

/-- A field of a record type. -/
structure Field where
  name : String
  type : ValueType
  default : Option Document
  /-- Whether the field may be absent. -/
  optional : Bool
  doc : Option String

end

namespace ValueType

mutual

/-- The name of a type as shown in messages. -/
def name : ValueType → String
  | any => "Any"
  | bool strict => if strict then "StrictBool" else "bool"
  | int constraints => constraints.typeName .int "int" "StrictInt" "conint"
  | float constraints => constraints.typeName .float "float" "StrictFloat" "confloat"
  | text constraints => constraints.typeName
  | path .any => "Path"
  | path .file => "FilePath"
  | path .directory => "DirectoryPath"
  | literal options =>
      "Literal[" ++ ", ".intercalate (options.map Document.scalarText) ++ "]"
  | list item => "List[" ++ item.name ++ "]"
  | dict key value => "Dict[" ++ key.name ++ ", " ++ value.name ++ "]"
  | tuple items => "Tuple[" ++ ", ".intercalate (names items) ++ "]"
  | optional inner => "Optional[" ++ inner.name ++ "]"
  | union choices => "Union[" ++ ", ".intercalate (names choices) ++ "]"
  | unit label base => base.name ++ " [" ++ label ++ "]"
  | record type => type.name
  | custom type => type.name

/-- The names of several types, as messages show them. -/
def names : List ValueType → List String
  | [] => []
  | type :: rest => type.name :: names rest

end

/-- The unit of a number, also of one that may be null. -/
def unit? : ValueType → Option String
  | unit label _ => some label
  | optional inner => inner.unit?
  | _ => none

mutual

/-- Whether null is a value of the type. -/
def acceptsNull : ValueType → Bool
  | any => true
  | optional _ => true
  | union choices => anyAcceptsNull choices
  | _ => false

/-- Whether null is a value of one of the types. -/
def anyAcceptsNull : List ValueType → Bool
  | [] => false
  | type :: rest => type.acceptsNull || anyAcceptsNull rest

end

/-- The record type of a field that holds records. -/
def asRecord? : ValueType → Option RecordType
  | record type => some type
  | _ => none

mutual

/-- Equality of types; record types and custom types are known by their names. -/
def same : ValueType → ValueType → Bool
  | any, any => true
  | bool left, bool right => left == right
  | int left, int right => left.same .int right
  | float left, float right => left.same .float right
  | text left, text right => left.same right
  | path left, path right => left == right
  | literal left, literal right => Document.beqItems left right
  | list left, list right => same left right
  | dict leftKey leftValue, dict rightKey rightValue =>
      same leftKey rightKey && same leftValue rightValue
  | tuple left, tuple right => sameAll left right
  | optional left, optional right => same left right
  | union left, union right => sameAll left right
  | unit leftLabel left, unit rightLabel right => leftLabel == rightLabel && same left right
  | record left, record right => left.name == right.name
  | custom left, custom right => left.name == right.name
  | _, _ => false

/-- Equality of lists of types, one by one. -/
def sameAll : List ValueType → List ValueType → Bool
  | [], [] => true
  | left :: leftRest, right :: rightRest => same left right && sameAll leftRest rightRest
  | _, _ => false

end

end ValueType

namespace RecordType

/-- The field of a name. -/
def field? (type : RecordType) (name : String) : Option Field :=
  type.fields.find? (fun field => field.name == name)

/-- The validators of one field, in their order. -/
def fieldValidators (type : RecordType) (field : String) : List BoundValidator :=
  type.validators.filter (BoundValidator.checks field)

/-- The validators of the whole record, in their order. -/
def recordValidators (type : RecordType) : List BoundValidator :=
  type.validators.filter BoundValidator.isRecord

mutual

/-- Whether a name is that of the type or of one it extends. -/
def descendsFrom (name : String) : RecordType → Bool
  | ⟨own, _, _, bases⟩ => own == name || anyDescendsFrom name bases

/-- Whether a name is that of one of the types or of one they extend. -/
def anyDescendsFrom (name : String) : List RecordType → Bool
  | [] => false
  | type :: rest => descendsFrom name type || anyDescendsFrom name rest

end

end RecordType

end RuleSchema
