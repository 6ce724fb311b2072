import RuleSchema.Registry.SourceModule

/-!
# Built-in types

Scalars, containers and choices of types, constrained scalars with their factories, and
constrained numbers with a unit.
-/

namespace RuleSchema.Builtin

/-- Complain of a wrong number of type arguments. -/
def arity {α : Type} (name expected : String) (count : Nat) : Except String α :=
  .error (name ++ " expects " ++ expected ++ " type argument(s), got " ++ toString count)

/-- The types that arguments name, up to the first that names none. -/
def allTypes : List TypeArgument → Except String (List ValueType)
  | [] => .ok []
  | argument :: rest =>
      match argument.asType with
      | .error message => .error message
      | .ok type => (allTypes rest).map (type :: ·)

/-- The module of plain scalars. -/
def scalars : SourceModule :=
  .ofTypes "builtins"
    [ ("bool", .ready (.bool false)),
      ("int", .ready (.int {})),
      ("float", .ready (.float {})),
      ("str", .ready (.text {})),
      ("Path", .ready (.path .any)),
      ("Any", .ready .any) ]

/-- The type of lists, of one type of items or of any. -/
def list : List TypeArgument → Except String ValueType
  | [] => .ok (.list .any)
  | [item] => item.asType.map .list
  | arguments => arity "List" "1" arguments.length

/-- Maps from keys of one type to values of another, or from texts to anything. -/
def dict : List TypeArgument → Except String ValueType
  | [] => .ok (.dict (.text {}) .any)
  | [key, value] =>
      match key.asType with
      | .error message => .error message
      | .ok key => value.asType.map (.dict key)
  | arguments => arity "Dict" "2" arguments.length

/-- Lists of fixed length with a type for every place. -/
def tuple : List TypeArgument → Except String ValueType
  | [] => arity "Tuple" "at least 1" 0
  | arguments => (allTypes arguments).map .tuple

/-- A type or null. -/
def optional : List TypeArgument → Except String ValueType
  | [item] => item.asType.map .optional
  | arguments => arity "Optional" "1" arguments.length

/-- A choice of types. -/
def union : List TypeArgument → Except String ValueType
  | [] => arity "Union" "at least 1" 0
  | [item] => item.asType
  | arguments => (allTypes arguments).map .union

/-- The scalars among literal options. -/
def scalarOptions : List TypeArgument → Except String (List Document)
  | [] => .ok []
  | argument :: rest =>
      match argument.document with
      | .sequence _ | .mapping _ => .error "Literal values must be scalars"
      | document => (scalarOptions rest).map (document :: ·)

/-- One of the given scalars. -/
def literal : List TypeArgument → Except String ValueType
  | [] => arity "Literal" "at least 1" 0
  | arguments => (scalarOptions arguments).map .literal

/-- Containers and choices of types. -/
def containers : SourceModule :=
  .ofTypes "typing"
    [ ("Any", .ready .any),
      ("List", .generic list),
      ("Dict", .generic dict),
      ("Tuple", .generic tuple),
      ("Optional", .generic optional),
      ("Union", .generic union),
      ("Literal", .generic literal) ]

/-- An integer type with the constraints of a mapping. -/
def constrainedInt (options : Mapping) : Except String ValueType :=
  (NumberConstraints.ofOptions .int options).map .int

/-- A float type with the constraints of a mapping. -/
def constrainedFloat (options : Mapping) : Except String ValueType :=
  (NumberConstraints.ofOptions .float options).map .float

/-- A text type with the constraints of a mapping. -/
def constrainedText (options : Mapping) : Except String ValueType :=
  (TextConstraints.ofOptions options).map .text

/-- Constrained scalars and their factories. -/
def constrainedScalars : SourceModule :=
  .ofTypes "constrained"
    [ ("PositiveInt", .ready (.int { above := some 0 })),
      ("NegativeInt", .ready (.int { below := some 0 })),
      ("NonNegativeInt", .ready (.int { atLeast := some 0 })),
      ("NonPositiveInt", .ready (.int { atMost := some 0 })),
      ("PositiveFloat", .ready (.float { above := some 0.0 })),
      ("NegativeFloat", .ready (.float { below := some 0.0 })),
      ("NonNegativeFloat", .ready (.float { atLeast := some 0.0 })),
      ("NonPositiveFloat", .ready (.float { atMost := some 0.0 })),
      ("StrictInt", .ready (.int { strict := true })),
      ("StrictStr", .ready (.text { strict := true })),
      ("StrictBool", .ready (.bool true)),
      ("FilePath", .ready (.path .file)),
      ("DirectoryPath", .ready (.path .directory)),
      ("conint", .constrained constrainedInt),
      ("confloat", .constrained constrainedFloat),
      ("constr", .constrained constrainedText) ]

/-- A number type with a unit: the unit is one option, the others are constraints. -/
def withUnit (base : Mapping → Except String ValueType) (options : Mapping) :
    Except String ValueType :=
  match options.field? "unit" with
  | none => .error "missing required argument 'unit'"
  | some document =>
      match document.asString? with
      | none => .error "argument 'unit' must be a string"
      | some label => (base (options.eraseField "unit")).map (.unit label)

/-- Constrained numbers with a unit. -/
def units : SourceModule :=
  .ofTypes "units"
    [ ("unitint", .constrained (withUnit constrainedInt)),
      ("unitfloat", .constrained (withUnit constrainedFloat)) ]

end RuleSchema.Builtin
