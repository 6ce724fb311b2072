import RuleSchema.Compile.Error
import RuleSchema.Registry.Basic
import RuleSchema.Document.Truth

/-!
# References to validators

A leaf or record names its validators under `validator`, gives each its parameters under
`validator_params`, and all of them their options under `validator_opts`.  They check
the field they stand at, or with `root_validator` the record around it.
-/

namespace RuleSchema.Registry

/-- A refusal of validators, at a path. -/
def refused {α : Type} (path : DocPath) (reason : String) : Except CompileError α :=
  .error (.invalidValidatorSpec path reason)

/-- The names in a list of validators, all of which must be strings. -/
def validatorNames (path : DocPath) : List Document → Except CompileError (List String)
  | [] => .ok []
  | item :: rest =>
      match item.asString? with
      | none => refused path "validator names must be strings"
      | some name => (validatorNames path rest).map (name :: ·)

/-- The validators that are named: one name, or a list of names. -/
def namedValidators (path : DocPath) : Document → Except CompileError (List String)
  | .string name => .ok [name]
  | .sequence items => validatorNames path items
  | _ => refused path "'validator' must be a name or a list of names"

/-- Parameters are a mapping, or null for none. -/
def parameterSet (path : DocPath) : Document → Except CompileError Mapping
  | .null => .ok []
  | .mapping entries => .ok entries
  | _ => refused path "validator parameters must be mappings"

/-- The parameters of several validators, one mapping for each. -/
def parameterSets (path : DocPath) : List Document → Except CompileError (List Mapping)
  | [] => .ok []
  | item :: rest =>
      match parameterSet path item with
      | .error error => .error error
      | .ok parameters => (parameterSets path rest).map (parameters :: ·)

/-- The stated parameter sets; a mapping that stands alone is for the one validator there is. -/
def statedParameters (path : DocPath) (count : Nat) (stated : Option Document) :
    Except CompileError (List Mapping) :=
  match stated with
  | none => .ok []
  | some (.sequence items) =>
      if items.length > count then
        refused path
          (toString items.length ++ " parameter sets for " ++ toString count ++ " validator(s)")
      else parameterSets path items
  | some document =>
      let alone := count == 1 &&
        match document with
        | .mapping _ | .null => true
        | _ => false
      if alone then (parameterSet path document).map fun parameters => [parameters]
      else
        refused path
          "'validator_params' must be a mapping, or a list with one mapping per validator"

/-- One parameter set for every validator; missing ones at the end are empty. -/
def boundParameters (path : DocPath) (count : Nat) (stated : Option Document) :
    Except CompileError (List Mapping) :=
  (statedParameters path count stated).map fun sets =>
    sets ++ List.replicate (count - sets.length) []

/-- The options that are stated for all validators of a place. -/
def validatorOptions (path : DocPath) (stated : Option Document) :
    Except CompileError ValidatorOptions :=
  match stated with
  | none | some .null => .ok {}
  | some (.mapping entries) =>
      match ValidatorOptions.ofOptions entries with
      | .ok options => .ok options
      | .error reason => refused path reason
  | some _ => refused path "'validator_opts' must be a mapping"

/-- What validators at a place check; at the document root there is no field. -/
def validatorTarget (path : DocPath) (field : Option String) (isRecord : Bool) :
    Except CompileError ValidatorTarget :=
  match isRecord, field with
  | true, _ => .ok .record
  | false, some name => .ok (.field name)
  | false, none => refused path "validators at the document root need 'root_validator: true'"

/-- Bind names to parameters, one after another. -/
def bindValidators (registry : Registry) (path : DocPath) (target : ValidatorTarget)
    (options : ValidatorOptions) :
    List (String × Mapping) → Except CompileError (List BoundValidator)
  | [] => .ok []
  | (name, parameters) :: rest =>
      match registry.lookupValidator name with
      | .error error => .error (.registry error)
      | .ok none => .error (.unknownValidatorName name path)
      | .ok (some validator) =>
          (bindValidators registry path target options rest).map
            (⟨name, validator, target, parameters, options⟩ :: ·)

/-- The validators of a place, each bound to its parameters; without any, nothing else is read. -/
def resolveValidators (registry : Registry) (path : DocPath) (field : Option String)
    (entries : Mapping) : Except CompileError (List BoundValidator) :=
  match entries.field? "validator" with
  | none => .ok []
  | some stated => do
      let names ← namedValidators path stated
      let parameters ← boundParameters path names.length (entries.field? "validator_params")
      let options ← validatorOptions path (entries.field? "validator_opts")
      let isRecord := (entries.field? "root_validator").any Document.isTrue
      let target ← validatorTarget path field isRecord
      registry.bindValidators path target options (names.zip parameters)

end RuleSchema.Registry
