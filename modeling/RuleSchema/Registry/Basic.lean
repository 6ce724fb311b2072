import RuleSchema.Registry.BuiltinTypes
import RuleSchema.Registry.BuiltinValidators
import RuleSchema.Registry.Config

/-!
# Registries

A registry knows modules and two lists of those it imports: one for types and one for
validators.  Later modules shadow earlier ones, and what is registered with the registry
itself shadows them all.

Importing is done once and remembered, until something changes; `types` and
`validators` read what is remembered or import afresh; `rememberTypes` and
`rememberValidators` are the registry after such a reading.
-/

namespace RuleSchema

/-- The two kinds of definitions that modules are imported for. -/
inductive ModuleKind where
  | type
  | validator
  deriving DecidableEq, Repr

/-- The kind that a text names, in singular or plural. -/
def ModuleKind.ofText (text : String) : Except RegistryError ModuleKind :=
  match text with
  | "type" | "types" => .ok .type
  | "validator" | "validators" => .ok .validator
  | _ => .error (.unknownModuleKind text)

/-- Named types and validators from modules and from registrations. -/
structure Registry where
  catalog : NameMap SourceModule
  typeModules : List String
  validatorModules : List String
  /-- What is registered with the registry itself. -/
  own : SourceModule
  knownTypes : Option (NameMap TypeEntry)
  knownValidators : Option (NameMap Validator)

namespace Registry

/-- The registry that knows no module. -/
def empty : Registry := ⟨[], [], [], .empty "local", none, none⟩

/-- A registry that knows the built-in modules and imports those of a configuration. -/
def ofConfig (config : RegistryConfig) : Registry :=
  { empty with
    catalog :=
      NameMap.ofEntries
        ([Builtin.scalars, Builtin.containers, Builtin.constrainedScalars, Builtin.units,
          Builtin.validators].map fun source => (source.name, source))
    typeModules := config.typeModules
    validatorModules := config.validatorModules }

/-- A registry that imports the built-in modules. -/
def standard : Registry := ofConfig {}

/-- Forget what was imported. -/
def reset (registry : Registry) : Registry :=
  { registry with knownTypes := none, knownValidators := none }

/-- Make a module known; it is imported only when a list names it. -/
def addModule (registry : Registry) (source : SourceModule) : Registry :=
  { registry with catalog := registry.catalog.insert source.name source }.reset

/-- Add names to the end of the list of a kind. -/
def addModules (registry : Registry) (kind : String) (names : List String) :
    Except RegistryError Registry :=
  match ModuleKind.ofText kind with
  | .error error => .error error
  | .ok .type =>
      .ok { registry with typeModules := registry.typeModules ++ names }.reset
  | .ok .validator =>
      .ok { registry with validatorModules := registry.validatorModules ++ names }.reset

/-- Register a type with the registry itself, over all types of that name. -/
def registerType (registry : Registry) (name : String) (entry : TypeEntry) : Registry :=
  { registry with own := registry.own.exportType name entry }.reset

/-- Register a validator with the registry itself, over all validators of that name. -/
def registerValidator (registry : Registry) (name : String) (validator : Validator) :
    Registry :=
  { registry with own := registry.own.exportValidator name validator }.reset

/-- The modules of some names, up to the first that is not known. -/
def modules (registry : Registry) : List String → Except RegistryError (List SourceModule)
  | [] => .ok []
  | name :: rest =>
      match registry.catalog.get? name with
      | none => .error (.unregisteredModule name)
      | some source => (modules registry rest).map (source :: ·)

/-- The exported definitions of modules, later ones shadowing earlier ones. -/
def imported {α : Type} (definitions : SourceModule → NameMap α) (built : NameMap α) :
    List SourceModule → Except RegistryError (NameMap α)
  | [] => .ok built
  | source :: rest =>
      match source.manifest with
      | .error error => .error error
      | .ok names =>
          let exported := names.filterMap fun name =>
            ((definitions source).get? name).map fun entry => (name, entry)
          imported definitions (built.insertAll exported) rest

/-- Import the definitions of listed modules, and add those of the registry itself. -/
def gather {α : Type} (registry : Registry) (definitions : SourceModule → NameMap α)
    (names : List String) : Except RegistryError (NameMap α) :=
  match registry.modules names with
  | .error error => .error error
  | .ok sources =>
      (imported definitions [] sources).map fun built => built.insertAll (definitions registry.own)

/-- The types by their names: those remembered, or else imported afresh. -/
def types (registry : Registry) : Except RegistryError (NameMap TypeEntry) :=
  match registry.knownTypes with
  | some known => .ok known
  | none => registry.gather SourceModule.types registry.typeModules

/-- The validators by their names: those remembered, or else imported afresh. -/
def validators (registry : Registry) : Except RegistryError (NameMap Validator) :=
  match registry.knownValidators with
  | some known => .ok known
  | none => registry.gather SourceModule.validators registry.validatorModules

/-- The type under a name; importing may fail before it is looked up. -/
def lookupType (registry : Registry) (name : String) :
    Except RegistryError (Option TypeEntry) :=
  registry.types.map (NameMap.get? · name)

/-- The validator under a name; importing may fail before it is looked up. -/
def lookupValidator (registry : Registry) (name : String) :
    Except RegistryError (Option Validator) :=
  registry.validators.map (NameMap.get? · name)

/-- The registry after its types have been read. -/
def rememberTypes (registry : Registry) : Registry :=
  match registry.types with
  | .ok known => { registry with knownTypes := some known }
  | .error _ => registry

/-- The registry after its validators have been read. -/
def rememberValidators (registry : Registry) : Registry :=
  match registry.validators with
  | .ok known => { registry with knownValidators := some known }
  | .error _ => registry

end Registry

end RuleSchema
