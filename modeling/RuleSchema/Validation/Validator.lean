import RuleSchema.Validation.Outcome
import RuleSchema.Value.Basic

/-!
# Validators

A validator judges one field, seen together with the fields checked before it, or a
whole record.  Rules bind it by name to a target, to parameters and to options that
say when it runs.
-/

namespace RuleSchema

/-- What a validator is called with. -/
structure ValidatorCall where
  /-- The checked value; none for a whole record. -/
  value : Option Value
  /-- The checked field; none for a whole record. -/
  field : Option String
  /-- The values of the record that are known so far. -/
  values : NameMap Value
  params : Mapping

namespace ValidatorCall

/-- A parameter of the validator, which must be there. -/
def param (call : ValidatorCall) (name : String) : Except String Document :=
  match call.params.field? name with
  | some document => .ok document
  | none => .error ("missing validator parameter '" ++ name ++ "'")

/-- The value of the field, which a validator of a record has not. -/
def fieldValue (call : ValidatorCall) : Except String Value :=
  match call.value with
  | some value => .ok value
  | none => .error "validator needs a field value"

end ValidatorCall

/-- A named check of values. -/
abbrev Validator := ValidatorCall → Verdict

/-- What a bound validator checks: one field, or the whole record. -/
inductive ValidatorTarget where
  | field (name : String)
  | record
  deriving DecidableEq, Repr

/-- The text of a target. -/
def ValidatorTarget.text : ValidatorTarget → String
  | .field name => "field '" ++ name ++ "'"
  | .record => "the record"

/-- When a bound validator runs. -/
structure ValidatorOptions where
  /-- On the raw value, before it is coerced. -/
  pre : Bool := false
  /-- Also on a default. -/
  always : Bool := false
  /-- On every element of a list or map. -/
  eachItem : Bool := false
  deriving DecidableEq, Repr

namespace ValidatorOptions

/-- Take in an option. -/
def withOption (options : ValidatorOptions) (key value : Document) :
    Except String ValidatorOptions :=
  match key.asString? with
  | none => .error "validator option names must be strings"
  | some name =>
      match value.asBool? with
      | none => .error ("validator option '" ++ name ++ "' must be a boolean")
      | some flag =>
          match name with
          | "pre" => .ok { options with pre := flag }
          | "always" => .ok { options with always := flag }
          | "each_item" => .ok { options with eachItem := flag }
          | _ => .error ("unknown validator option '" ++ name ++ "'")

/-- Add several options, up to the first that is refused. -/
def withOptions : ValidatorOptions → List (Document × Document) → Except String ValidatorOptions
  | options, [] => .ok options
  | options, (key, value) :: rest =>
      match withOption options key value with
      | .error message => .error message
      | .ok next => withOptions next rest

/-- The options that a mapping states. -/
def ofOptions (entries : Mapping) : Except String ValidatorOptions := withOptions {} entries

end ValidatorOptions

/-- A validator bound to its target, parameters and options. -/
structure BoundValidator where
  name : String
  run : Validator
  target : ValidatorTarget
  params : Mapping
  options : ValidatorOptions

namespace BoundValidator

/-- Whether the validator checks the whole record. -/
def isRecord (validator : BoundValidator) : Bool := validator.target == .record

/-- Whether the validator checks the field of the given name. -/
def checks (field : String) (validator : BoundValidator) : Bool :=
  validator.target == .field field

/-- Whether two validators have one target and one name. -/
def sameKey (left right : BoundValidator) : Bool :=
  left.target == right.target && left.name == right.name

/-- Equality of bound validators, which have one function under one name. -/
def same (left right : BoundValidator) : Bool :=
  left.sameKey right && Document.beq (.mapping left.params) (.mapping right.params) &&
    left.options == right.options

/-- Ask a bound validator, with the field that it checks and its parameters. -/
def call (validator : BoundValidator) (value : Option Value) (values : NameMap Value) : Verdict :=
  let field :=
    match validator.target with
    | .field name => some name
    | .record => none
  validator.run ⟨value, field, values, validator.params⟩

end BoundValidator

end RuleSchema
