import RuleSchema.Compile.Error
import RuleSchema.Registry.Basic
import RuleSchema.Rule.Node

/-!
# References to types

A leaf names its type under `type` and gives options for it under `opts`: a sequence of
arguments for a generic type, or a mapping of constraints for a factory.  Options of any
other form are ignored with a warning.
-/

namespace RuleSchema

/-- A finding that does not stop a compilation. -/
inductive CompileWarning where
  /-- The options of a type had neither of the forms that options have. -/
  | ambiguousOptions (path : DocPath) (options : Document)

/-- The text of a warning. -/
def CompileWarning.text : CompileWarning → String
  | .ambiguousOptions path options =>
      "ambiguous option ignored at " ++ path.display ++ ": " ++ options.scalarText

/-- A result together with the warnings that arose on the way. -/
structure Warned (α : Type) where
  result : Except CompileError α
  warnings : List CompileWarning

namespace Warned

variable {α β : Type}

/-- A result without warnings. -/
def silent (result : Except CompileError α) : Warned α := ⟨result, []⟩

/-- Go on with the result, if there is one; the warnings add up. -/
def andThen (first : Warned α) (next : α → Warned β) : Warned β :=
  match first.result with
  | .error error => ⟨.error error, first.warnings⟩
  | .ok value =>
      let following := next value
      ⟨following.result, first.warnings ++ following.warnings⟩

end Warned

namespace Registry

/-- A refusal of a type or its options, at a path. -/
def specified {α : Type} (path : DocPath) : Except String α → Except CompileError α
  | .ok value => .ok value
  | .error reason => .error (.invalidTypeSpec path reason)

/-- An argument of a type: the document, and the entry that it names, if it names one. -/
def typeArgument (registry : Registry) (document : Document) :
    Except CompileError TypeArgument :=
  match document.asString? with
  | none => .ok ⟨document, none⟩
  | some name =>
      match registry.lookupType name with
      | .error error => .error (.registry error)
      | .ok entry => .ok ⟨document, entry.bind fun found => found.plain.toOption⟩

/-- The arguments of a type, up to the first that cannot be looked up. -/
def typeArguments (registry : Registry) : List Document → Except CompileError (List TypeArgument)
  | [] => .ok []
  | document :: rest =>
      match registry.typeArgument document with
      | .error error => .error error
      | .ok argument => (typeArguments registry rest).map (argument :: ·)

/-- The type that an entry makes of a list or a mapping of options; others are only warned of. -/
def typeOf (registry : Registry) (path : DocPath) (name : String) (entry : TypeEntry)
    (options : Option Document) : Warned ValueType :=
  match options, entry with
  | some (.sequence arguments), .generic factory =>
      .silent <|
        match registry.typeArguments arguments with
        | .error error => .error error
        | .ok arguments => specified path (factory arguments)
  | some (.sequence _), entry =>
      .silent <| .error <| .invalidTypeSpec path
        (name ++ " is a " ++ entry.kindName ++ " and takes no type arguments")
  | some (.mapping options), .constrained factory => .silent (specified path (factory options))
  | some (.mapping _), entry =>
      .silent <| .error <| .invalidTypeSpec path
        (name ++ " is a " ++ entry.kindName ++ " and takes no keyword options")
  | some other, entry => ⟨specified path entry.plain, [.ambiguousOptions path other]⟩
  | none, entry => .silent (specified path entry.plain)

/-- The type that the leaf at a path refers to. -/
def resolveType (registry : Registry) (path : DocPath) (leaf : Mapping) : Warned ValueType :=
  match leaf.field? "type" with
  | none => .silent (.error (.invalidTypeSpec path "missing 'type'"))
  | some document =>
      match document.asString? with
      | none => .silent (.error (.invalidTypeSpec path "'type' must be a type name"))
      | some name =>
          match registry.lookupType name with
          | .error error => .silent (.error (.registry error))
          | .ok none => .silent (.error (.unknownTypeName name path))
          | .ok (some entry) =>
              registry.typeOf path name entry ((leaf.field? "opts").filter Document.isTrue)

end Registry

end RuleSchema
