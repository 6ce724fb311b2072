import RuleSchema.Text.Blank

/-!
# Configuration of a registry

The modules that a registry imports, in order.  Variables of the environment may name
further ones, separated by commas.
-/

namespace RuleSchema

/-- Which modules a registry imports, by default the built-in ones. -/
structure RegistryConfig where
  typeModules : List String := ["builtins", "typing", "constrained", "units"]
  validatorModules : List String := ["validators"]
  deriving DecidableEq, Repr

namespace RegistryConfig

/-- The names in a list with commas; blanks around a name and empty names do not count. -/
def listed (text : Option String) : List String :=
  match text with
  | none => []
  | some text => ((text.splitOn ",").map Text.Blank.trim).filter (fun name => !name.isEmpty)

/-- The configuration with the modules that the environment adds. -/
def withEnvironment (config : RegistryConfig) (types validators : Option String) :
    RegistryConfig where
  typeModules := config.typeModules ++ listed types
  validatorModules := config.validatorModules ++ listed validators

end RegistryConfig

end RuleSchema
