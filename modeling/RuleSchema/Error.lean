import RuleSchema.Compile.Error

/-!
# Failures of the whole pipeline
-/

namespace RuleSchema

/-- Any failure between reading rules and having a validated configuration. -/
inductive Error where
  | document (error : DocumentError)
  | registry (error : RegistryError)
  | compile (error : CompileError)
  | validation (rejection : Rejection)

/-- The text of an error, with the stage in which it arose. -/
def Error.message : Error → String
  | .document error => "Document error: " ++ error.message
  | .registry error => "Registry error: " ++ error.message
  | .compile error => "Compile error: " ++ error.message
  | .validation rejection => "Validation error: " ++ rejection.message

end RuleSchema
