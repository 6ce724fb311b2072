/-!
# Failures of populating a registry
-/

namespace RuleSchema

/-- What can go wrong with the modules of a registry. -/
inductive RegistryError where
  | unregisteredModule (name : String)
  | nonConformantSource (name reason : String)
  | unknownModuleKind (kind : String)
  deriving DecidableEq, Repr

/-- The text of an error of a registry. -/
def RegistryError.message : RegistryError → String
  | .unregisteredModule name => "Module not registered: " ++ name
  | .nonConformantSource name reason =>
      "Module " ++ name ++ " is not a conformant source: " ++ reason
  | .unknownModuleKind kind =>
      "Unknown module kind: " ++ kind ++ " (expected 'type' or 'validator')"

end RuleSchema
