import RuleSchema.Types.Coercion

/-!
# Fields of records, one at a time

Coercion of the fields of a record goes through the fields in order.  What it does at one
field is set apart here from how the outcomes of the fields are put together.
-/

namespace RuleSchema

variable (store : FileStore) (validators : List BoundValidator) (input : NameMap Document)
  (path : DocPath)

namespace Field

/-- The outcome of one field, given the values of the fields before it. -/
def outcome (values : NameMap Value) (field : Field) : Outcome Value :=
  let inside := path.child (.key field.name)
  let own := validators.filter (BoundValidator.checks field.name)
  match input.get? field.name, field.default with
  | some document, _ =>
      checked own (fun raw => field.type.coerce store raw inside) values inside document
  | none, some document =>
      checked (own.filter fun validator => validator.options.always)
        (fun raw => field.type.coerce store raw inside) values inside document
  | none, none =>
      if field.optional then ⟨none, [], false⟩
      else .violated ⟨inside, .missingField, none, "field required"⟩

variable {store validators input path}

theorem outcome_of_present {values : NameMap Value} {field : Field} {document : Document}
    (present : input.get? field.name = some document) :
    outcome store validators input path values field =
      checked (validators.filter (BoundValidator.checks field.name))
        (fun raw => field.type.coerce store raw (path.child (.key field.name))) values
        (path.child (.key field.name)) document := by
  rw [outcome, present]

theorem outcome_of_default {values : NameMap Value} {field : Field} {document : Document}
    (absent : input.get? field.name = none) (stated : field.default = some document) :
    outcome store validators input path values field =
      checked ((validators.filter (BoundValidator.checks field.name)).filter
          fun validator => validator.options.always)
        (fun raw => field.type.coerce store raw (path.child (.key field.name))) values
        (path.child (.key field.name)) document := by
  rw [outcome, absent, stated]

theorem outcome_of_absent {values : NameMap Value} {field : Field}
    (absent : input.get? field.name = none) (noDefault : field.default = none) :
    outcome store validators input path values field =
      if field.optional then ⟨none, [], false⟩
      else .violated ⟨path.child (.key field.name), .missingField, none, "field required"⟩ := by
  rw [outcome, absent, noDefault]

/-- The outcome of a field comes before the outcomes of the others, which see its value. -/
theorem coerceFields_cons (field : Field) (rest : List Field) (values : NameMap Value) :
    coerceFields store validators input path (field :: rest) values =
      let here := outcome store validators input path values field
      let others := coerceFields store validators input path rest
        (values.extend field.name here.value)
      ⟨others.value, here.violations ++ others.violations, here.overflow || others.overflow⟩ := by
  cases field
  rfl

/-- Coercion of fields always gives the values of those that have one. -/
theorem value_coerceFields (fields : List Field) (values : NameMap Value) :
    ∃ known, (coerceFields store validators input path fields values).value = some known := by
  induction fields generalizing values with
  | nil => exact ⟨values, rfl⟩
  | cons field rest ih =>
      rw [coerceFields_cons]
      exact ih _

end Field

/-- The values of the keys of a mapping before coercion. -/
def NameMap.raw (input : NameMap Document) : NameMap Value :=
  input.map fun (name, document) => (name, .ofDocument document)

/-- A mapping is interpreted as a record once its keys and raw values are checked. -/
theorem RecordType.instantiate_of_asMapping? {type : RecordType} {document : Document}
    {entries : Mapping} (mapping : document.untagOnce.asMapping? = some entries) :
    type.instantiate store document path =
      let before := BoundValidator.runRecordAll
        (type.recordValidators.filter fun validator => validator.options.pre)
        entries.byText.raw path
      let opened : Outcome Unit :=
        ⟨before.value, type.unexpected path entries.byText ++ before.violations, before.overflow⟩
      RecordType.closed type.recordValidators path
        (opened.andThen fun _ =>
          Field.coerceFields store type.validators entries.byText path type.fields []) := by
  cases type
  rw [RecordType.instantiate, mapping]
  rfl

theorem RecordType.instantiate_of_not_mapping {type : RecordType} {document : Document}
    (noMapping : document.untagOnce.asMapping? = none) :
    type.instantiate store document path =
      .mismatch path document.untagOnce "value is not a valid dict" := by
  cases type
  rw [RecordType.instantiate, noMapping]

end RuleSchema
