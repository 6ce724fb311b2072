import RuleSchema.Registry.Entry
import RuleSchema.Registry.Error

/-!
# Modules of types and validators

A module defines types and validators under names and exports some of the names.  A
module without a list of exports, or with an exported name that it does not define,
cannot be imported.
-/

namespace RuleSchema

/-- A named source of types and validators. -/
structure SourceModule where
  name : String
  /-- The exported names, if the module lists any. -/
  exports : Option (List String)
  types : NameMap TypeEntry
  validators : NameMap Validator

namespace SourceModule

/-- A module that defines and exports nothing. -/
def empty (name : String) : SourceModule := ⟨name, some [], [], []⟩

/-- A module without a list of exports. -/
def withoutManifest (name : String) : SourceModule := ⟨name, none, [], []⟩

/-- Add a name to the exports, if there is a list of them. -/
def exporting (source : SourceModule) (name : String) : SourceModule :=
  { source with
    exports := source.exports.map fun names =>
      if names.contains name then names else names ++ [name] }

/-- Define a type and export its name. -/
def exportType (source : SourceModule) (name : String) (entry : TypeEntry) : SourceModule :=
  { source.exporting name with types := source.types.insert name entry }

/-- Define a validator and export its name. -/
def exportValidator (source : SourceModule) (name : String) (validator : Validator) :
    SourceModule :=
  { source.exporting name with validators := source.validators.insert name validator }

/-- Define a type without exporting its name. -/
def defineType (source : SourceModule) (name : String) (entry : TypeEntry) : SourceModule :=
  { source with types := source.types.insert name entry }

/-- Replace the list of exports. -/
def withExports (source : SourceModule) (names : List String) : SourceModule :=
  { source with exports := some names }

/-- A module of types, all of them exported. -/
def ofTypes (name : String) (types : List (String × TypeEntry)) : SourceModule :=
  types.foldl (fun built entry => built.exportType entry.1 entry.2) (empty name)

/-- Whether a module defines a type or a validator of a name. -/
def defines (source : SourceModule) (name : String) : Bool :=
  source.types.has name || source.validators.has name

/-- The exported names, all of them defined. -/
def manifest (source : SourceModule) : Except RegistryError (List String) :=
  match source.exports with
  | none => .error (.nonConformantSource source.name "no export manifest")
  | some names =>
      match names.find? (fun name => !source.defines name) with
      | some name =>
          .error (.nonConformantSource source.name
            ("exports '" ++ name ++ "' which it does not define"))
      | none => .ok names

end SourceModule

end RuleSchema
