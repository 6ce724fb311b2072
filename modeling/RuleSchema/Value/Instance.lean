import RuleSchema.Types.Coercion

/-!
# Instances

A validated record together with its type.
-/

namespace RuleSchema

/-- A record that its type accepted: the values of fields, in the order of the fields. -/
structure Instance where
  type : RecordType
  values : NameMap Value

namespace Instance

/-- The instance as a value: a record under the name of its type. -/
def toValue (record : Instance) : Value := .record record.type.name record.values

/-- The instance as a document. -/
def toDocument (record : Instance) : Document := record.toValue.toDocument

/-- The value of a field. -/
def get? (record : Instance) (field : String) : Option Value := record.values.get? field

/-- The value at a path that is not the root. -/
def getPath? (record : Instance) (path : DocPath) : Option Value :=
  match path with
  | [] => none
  | path => record.toValue.get? path

/-- Equality of instances: of the names of their types, and of their values. -/
def beq (left right : Instance) : Bool := left.toValue.beq right.toValue

/-- Equality of values alone. -/
def sameValues (left right : Instance) : Bool :=
  (Value.map left.values).beq (.map right.values)

end Instance

namespace RecordType

/-- Validate a document as a record: an instance, or all that is wrong with the document. -/
def validate (store : FileStore) (type : RecordType) (document : Document) :
    Except Rejection Instance :=
  let outcome := type.instantiate store document []
  if outcome.overflow then .error ⟨type.name, outcome.violations, true⟩
  else
    match outcome.value, outcome.violations with
    | some values, [] => .ok ⟨type, values⟩
    | _, violations => .error ⟨type.name, violations, false⟩

/-- Validate values that are already typed. -/
def construct (store : FileStore) (type : RecordType) (values : NameMap Value) :
    Except Rejection Instance :=
  type.validate store (.mapping (Value.toMapping (NameMap.ofEntries values)))

end RecordType

end RuleSchema
