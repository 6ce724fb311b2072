import RuleSchema.Types.Basic

/-!
# Named types

Under a name stands a type, or a factory that makes one: from a list of arguments, as
`List` does, or from a mapping of constraints, as `conint` does.
-/

namespace RuleSchema

/-- An argument of a generic type: the document, and the type that it names if it does. -/
structure TypeArgument where
  document : Document
  type : Option ValueType

/-- The argument as a type. -/
def TypeArgument.asType (argument : TypeArgument) : Except String ValueType :=
  match argument.type with
  | some type => .ok type
  | none => .error (argument.document.scalarText ++ " is not a registered type")

/-- What a name of a type stands for: a type, or a factory of types. -/
inductive TypeEntry where
  | ready (type : ValueType)
  | generic (factory : List TypeArgument → Except String ValueType)
  | constrained (factory : Mapping → Except String ValueType)

namespace TypeEntry

/-- The type of an entry without arguments and options. -/
def plain : TypeEntry → Except String ValueType
  | ready type => .ok type
  | generic factory => factory []
  | constrained factory => factory []

/-- The kind of entry as shown in messages. -/
def kindName : TypeEntry → String
  | ready _ => "type"
  | generic _ => "generic type"
  | constrained _ => "constrained type factory"

end TypeEntry

end RuleSchema
