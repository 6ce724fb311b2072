import RuleSchema.Proofs.Types.Rereading

/-!
# The values of an accepted record

A record that was accepted has for each field the value that its type makes of what the
input says, or else of the default.
-/

namespace RuleSchema

variable {store : FileStore}

namespace Outcome

variable {α β : Type}

theorem eq_found_iff {outcome : Outcome α} {value : α} :
    outcome = found value ↔ outcome.Gives value ∧ outcome.violations = [] := by
  constructor
  · rintro rfl
    exact ⟨gives_found.mpr rfl, rfl⟩
  · rintro ⟨⟨given, quiet⟩, clean⟩
    rcases outcome with ⟨_, violations, overflow⟩
    subst given quiet clean
    rfl

theorem andThen_eq_found {outcome : Outcome α} {next : α → Outcome β} {result : β} :
    outcome.andThen next = found result ↔
      ∃ value, outcome = found value ∧ next value = found result := by
  simp only [eq_found_iff, gives_andThen]
  constructor
  · rintro ⟨⟨value, given, following⟩, clean⟩
    rw [andThen_of_value given.1] at clean
    rcases List.append_eq_nil_iff.mp clean with ⟨here, later⟩
    exact ⟨value, ⟨given, here⟩, following, later⟩
  · rintro ⟨value, ⟨given, here⟩, following, later⟩
    refine ⟨⟨value, given, following⟩, ?_⟩
    rw [andThen_of_value given.1]
    exact List.append_eq_nil_iff.mpr ⟨here, later⟩

theorem map_eq_found {outcome : Outcome α} {function : α → β} {result : β} :
    outcome.map function = found result ↔
      ∃ value, outcome = found value ∧ function value = result := by
  simp only [eq_found_iff, gives_map]
  constructor
  · rintro ⟨⟨value, given, same⟩, clean⟩
    exact ⟨value, ⟨given, clean⟩, same⟩
  · rintro ⟨value, ⟨given, clean⟩, same⟩
    exact ⟨⟨value, given, same⟩, clean⟩

end Outcome

open Outcome

/-- The value that a type makes of a document at a path, or none where there is no document. -/
inductive ValueType.Reads (store : FileStore) (type : ValueType) (path : DocPath) :
    Option Document → Option Value → Prop where
  | nothing : Reads store type path none none
  | coerced {document : Document} {value : Value}
      (found : type.coerce store document path = .found value) :
      Reads store type path (some document) (some value)

/-- There is a value exactly where there is a document. -/
theorem ValueType.Reads.isSome_eq {type : ValueType} {path : DocPath} {source : Option Document}
    {found : Option Value} (reads : type.Reads store path source found) :
    found.isSome = source.isSome := by
  cases reads <;> rfl

namespace Field

variable {validators : List BoundValidator} {input : NameMap Document} {path : DocPath}
  {seen : NameMap Value} {field : Field}

/-- Validators of a field pass its value on as it is. -/
theorem coerce_of_checked {coerce : Document → Outcome Value} {document : Document}
    {value : Value} (passed : checked validators coerce seen path document = .found value) :
    coerce document = .found value := by
  rcases andThen_eq_found.mp passed with ⟨⟨⟩, -, passed⟩
  rcases andThen_eq_found.mp passed with ⟨own, coerced, after⟩
  rcases map_eq_found.mp after with ⟨⟨⟩, -, rfl⟩
  exact coerced

theorem reads_of_outcome (clean : (outcome store validators input path seen field).violations = [])
    (quiet : (outcome store validators input path seen field).overflow = false) :
    field.type.Reads store (path.child (.key field.name))
      ((input.get? field.name).or field.default)
      (outcome store validators input path seen field).value := by
  cases here : (outcome store validators input path seen field).value with
  | none =>
      rcases leftOut_of_outcome here clean quiet with ⟨absent, noDefault, -⟩
      rw [absent, noDefault]
      exact .nothing
  | some value =>
      have passed := eq_found_iff.mpr ⟨⟨here, quiet⟩, clean⟩
      cases present : input.get? field.name with
      | some document =>
          rw [outcome_of_present present] at passed
          exact .coerced (coerce_of_checked passed)
      | none =>
          cases stated : field.default with
          | some document =>
              rw [outcome_of_default present stated] at passed
              exact .coerced (coerce_of_checked passed)
          | none =>
              rw [outcome_of_absent present stated] at here
              split at here <;> cases here

end Field

namespace RecordType

variable {type : RecordType} {document : Document} {record : Instance}

theorem validate_eq_ok_iff {type : RecordType} {record : Instance} :
    type.validate store document = .ok record ↔
      record.type = type ∧ type.instantiate store document [] = .found record.values := by
  rw [validate]
  rcases type.instantiate store document [] with ⟨value, violations, overflow⟩
  cases overflow with
  | true => simp [Outcome.found]
  | false =>
      cases value with
      | none => simp [Outcome.found]
      | some values =>
          cases violations with
          | nil =>
              rcases record with ⟨own, found⟩
              simp [Outcome.found]
              grind
          | cons violation rest => simp [Outcome.found]

/-- What is known of each field of a record, whose keys all name fields. -/
theorem reads_of_instantiate {path : DocPath} {values : NameMap Value}
    (distinct : (type.fields.map Field.name).Nodup)
    (given : (type.instantiate store document path).Gives values) :
    ∃ entries, document.untagOnce.asMapping? = some entries ∧
      (∀ entry ∈ entries, ∃ field ∈ type.fields, field.name = entry.1.keyText) ∧
      ∀ field ∈ type.fields,
        field.type.Reads store (path.child (.key field.name))
            ((Mapping.byText entries).get? field.name |>.or field.default)
            (values.get? field.name) ∧
          (values.get? field.name = none → field.optional = true) := by
  rcases gives_instantiate given with ⟨entries, mapping, noneUnexpected, -, fields, clean, -⟩
  refine ⟨entries, mapping, exists_field_of_unexpected noneUnexpected, ?_⟩
  intro field member
  have noneSeen : NameMap.get? ([] : NameMap Value) field.name = none := rfl
  rcases Field.Visits.exists_of_mem member with ⟨view, visits⟩
  rcases visits.clean fields clean with ⟨cleanHere, quietHere⟩
  rw [visits.get?_eq distinct noneSeen fields]
  refine ⟨Field.reads_of_outcome cleanHere quietHere, fun missing => ?_⟩
  exact (Field.leftOut_of_outcome missing cleanHere quietHere).2.2

/-- What is known of each field of an accepted record. -/
theorem reads_of_validate (distinct : (type.fields.map Field.name).Nodup)
    (validated : type.validate store document = .ok record) :
    ∃ entries, document.untagOnce.asMapping? = some entries ∧
      ∀ field ∈ type.fields,
        field.type.Reads store [.key field.name]
            ((Mapping.byText entries).get? field.name |>.or field.default)
            (record.values.get? field.name) ∧
          (record.values.get? field.name = none → field.optional = true) := by
  rcases gives_of_validate validated with ⟨-, instantiated⟩
  rcases reads_of_instantiate distinct instantiated with ⟨entries, mapping, -, each⟩
  exact ⟨entries, mapping, each⟩

theorem nodup_names_of_validate (validated : type.validate store document = .ok record) :
    record.values.names.Nodup := by
  rcases gives_of_validate validated with ⟨-, instantiated⟩
  rcases gives_instantiate instantiated with ⟨entries, -, -, -, fields, -, -⟩
  have noneSeen : (NameMap.names ([] : NameMap Value)).Nodup := List.nodup_nil
  exact Field.nodup_names_of_coerceFields noneSeen fields

/-- An accepted record has values for fields only. -/
theorem get?_of_validate {name : String} (absent : name ∉ type.fields.map Field.name)
    (validated : type.validate store document = .ok record) : record.values.get? name = none := by
  rcases gives_of_validate validated with ⟨-, instantiated⟩
  rcases gives_instantiate instantiated with ⟨entries, -, -, -, fields, -, -⟩
  exact Field.get?_of_coerceFields absent fields

end RecordType

end RuleSchema
