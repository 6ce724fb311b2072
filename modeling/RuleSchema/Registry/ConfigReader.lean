import RuleSchema.Document.Error
import RuleSchema.Files.Store
import RuleSchema.Registry.Config
import RuleSchema.Toml.Reader

/-!
# Reading the configuration of a registry

The configuration is a TOML document with the lists `type_modules` and
`validator_modules`; a missing list stays as it is by default, and other entries are
ignored.
-/

namespace RuleSchema.RegistryConfig

/-- The names in an array of strings. -/
def names? : Toml.Value → Option (List String)
  | .array items =>
      items.mapM fun item =>
        match item with
        | .string text => some text
        | _ => none
  | _ => none

/-- A list of names, or the default where the document has none. -/
def namesOr? (default : List String) (entry : Option Toml.Value) : Option (List String) :=
  match entry with
  | none => some default
  | some value => names? value

/-- The configuration that a table states; what it does not state is by default. -/
def ofEntries? (entries : NameMap Toml.Value) : Option RegistryConfig := do
  let standard : RegistryConfig := {}
  let types ← namesOr? standard.typeModules (entries.get? "type_modules")
  let validators ← namesOr? standard.validatorModules (entries.get? "validator_modules")
  return ⟨types, validators⟩

/-- Read a configuration from TOML text. -/
def ofToml (text : String) : Except DocumentError RegistryConfig :=
  match (Toml.Reader.parse? text).bind ofEntries? with
  | some config => .ok config
  | none => .error (.toml "malformed configuration")

/-- Read a configuration from a TOML file. -/
def ofFile (store : FileStore) (path : String) : Except DocumentError RegistryConfig :=
  match store.read path with
  | .error fault => .error (.io path fault.reason)
  | .ok text => ofToml text

end RuleSchema.RegistryConfig
