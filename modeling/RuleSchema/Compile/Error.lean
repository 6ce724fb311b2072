import RuleSchema.Document.Error
import RuleSchema.Registry.Error
import RuleSchema.Validation.Violation

/-!
# Failures of compiling rules
-/

namespace RuleSchema

/-- Why rules could not be compiled, or properties not be composed. -/
inductive CompileError where
  | unknownTypeName (name : String) (path : DocPath)
  | unknownValidatorName (name : String) (path : DocPath)
  | invalidTypeSpec (path : DocPath) (reason : String)
  | invalidValidatorSpec (path : DocPath) (reason : String)
  | duplicateValidator (name target : String) (path : DocPath)
  | cyclicPropertyDependency (edges : List (String × String))
  | undefinedReference (kind name : String)
  | duplicateFieldName (typeName field : String)
  | reservedFieldName (typeName field : String)
  | invalidFieldName (typeName field : String)
  | propertyValidation (property : String) (rejection : Rejection)
  | registry (error : RegistryError)
  | document (error : DocumentError)

namespace CompileError

/-- Dependency edges as shown in messages. -/
def edgesText (edges : List (String × String)) : String :=
  ", ".intercalate (edges.map (fun (source, target) => source ++ " -> " ++ target))

/-- The text of an error, with the place in the rules to which it belongs. -/
def message : CompileError → String
  | .unknownTypeName name path => "unknown type name '" ++ name ++ "' at " ++ path.display
  | .unknownValidatorName name path =>
      "unknown validator name '" ++ name ++ "' at " ++ path.display
  | .invalidTypeSpec path reason => "invalid type spec at " ++ path.display ++ ": " ++ reason
  | .invalidValidatorSpec path reason =>
      "invalid validator spec at " ++ path.display ++ ": " ++ reason
  | .duplicateValidator name target path =>
      "duplicate validator '" ++ name ++ "' for " ++ target ++ " at " ++ path.display
  | .cyclicPropertyDependency edges => "cyclic property dependency: " ++ edgesText edges
  | .undefinedReference kind name =>
      "undefined reference: " ++ kind ++ " '" ++ name ++ "' is not defined"
  | .duplicateFieldName typeName field =>
      "duplicate field name '" ++ field ++ "' in " ++ typeName
  | .reservedFieldName typeName field => "reserved field name '" ++ field ++ "' in " ++ typeName
  | .invalidFieldName typeName field =>
      "invalid field name '" ++ field ++ "' in " ++ typeName ++ ": not an identifier"
  | .propertyValidation property rejection =>
      "property '" ++ property ++ "' failed validation: " ++ rejection.message
  | .registry error => "registry error: " ++ error.message
  | .document error => "document error: " ++ error.message

end CompileError

end RuleSchema
