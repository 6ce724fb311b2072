import RuleSchema.Level.Basic
import RuleSchema.Proofs.Types.Constraints
import RuleSchema.Proofs.Types.Induction
import RuleSchema.Proofs.Types.Records

/-!
# Values that types accept

Which values a type accepts for a document, said without checking anything in an order
and without reporting.  A record is accepted when every key of the document names a field,
each field has a value that it accepts or may go without one, and the validators of the
whole record accept the values.
-/

namespace RuleSchema

/-- The values that a validator sees in one value. -/
def BoundValidator.subjects (validator : BoundValidator) (value : Value) : List Value :=
  match validator.options.eachItem, value with
  | true, .list items => items
  | true, .map entries => entries.map Prod.snd
  | _, _ => [value]

/-- A validator of a field accepts the raw value, or unless it runs before, the checked one. -/
def BoundValidator.Passes (validator : BoundValidator) (seen : NameMap Value)
    (document : Document) (value : Value) : Prop :=
  let checked := if validator.options.pre then .ofDocument document else value
  ∀ subject ∈ validator.subjects checked, validator.call (some subject) seen = .accepted

/-- The values of some fields. -/
def NameMap.among (values : NameMap Value) (fields : List Field) : NameMap Value :=
  values.filter fun entry => (fields.map Field.name).contains entry.1

mutual

/-- The values that a type accepts for a document. -/
inductive ValueType.Accepts (store : FileStore) : ValueType → Document → Value → Prop where
  | any {document : Document} :
      ValueType.Accepts store .any document (.ofDocument document.untagOnce)
  | bool {strict flag : Bool} {document : Document}
      (read : Scalar.bool strict document.untagOnce = .ok flag) :
      ValueType.Accepts store (.bool strict) document (.bool flag)
  | int {constraints : IntConstraints} {document : Document} {word : Int64}
      (read : Scalar.int constraints.strict document.untagOnce = .ok word)
      (allowed : IntConstraints.Allows constraints word) :
      ValueType.Accepts store (.int constraints) document (.int word)
  | float {constraints : FloatConstraints} {document : Document} {number : Float}
      (read : Scalar.float constraints.strict document.untagOnce = .ok number)
      (allowed : constraints.check .float number = .accepted) :
      ValueType.Accepts store (.float constraints) document (.float number)
  | text {constraints : TextConstraints} {document : Document} {text : String}
      (read : Scalar.text constraints.strict document.untagOnce = .ok text)
      (allowed : constraints.Allows (constraints.normalize text)) :
      ValueType.Accepts store (.text constraints) document (.string (constraints.normalize text))
  | path {kind : PathKind} {document : Document} {place : String}
      (read : Scalar.path store kind document.untagOnce = .ok place) :
      ValueType.Accepts store (.path kind) document (.path place)
  | literal {options : List Document} {option document : Document} (member : option ∈ options)
      (chosen : Scalar.isOption document.untagOnce option = true) :
      ValueType.Accepts store (.literal options) document (.ofDocument document.untagOnce)
  | list {item : ValueType} {document : Document} {documents : List Document}
      {values : List Value} (sequence : document.untagOnce.asSequence? = some documents)
      (sameLength : values.length = documents.length)
      (each : ∀ (position : Nat) inner value, documents[position]? = some inner →
        values[position]? = some value → ValueType.Accepts store item inner value) :
      ValueType.Accepts store (.list item) document (.list values)
  | tuple {items : List ValueType} {document : Document} {documents : List Document}
      {values : List Value} (sequence : document.untagOnce.asSequence? = some documents)
      (oneForEach : documents.length = items.length)
      (sameLength : values.length = documents.length)
      (each : ∀ (position : Nat) item inner value, items[position]? = some item →
        documents[position]? = some inner → values[position]? = some value →
          ValueType.Accepts store item inner value) :
      ValueType.Accepts store (.tuple items) document (.list values)
  | dict {key value : ValueType} {document : Document} {entries : Mapping}
      {names values : List Value} (mapping : document.untagOnce.asMapping? = some entries)
      (sameNames : names.length = entries.length) (sameLength : values.length = entries.length)
      (eachName : ∀ (position : Nat) entry name, entries[position]? = some entry →
        names[position]? = some name → ValueType.Accepts store key entry.1 name)
      (each : ∀ (position : Nat) entry inner, entries[position]? = some entry →
        values[position]? = some inner → ValueType.Accepts store value entry.2 inner) :
      ValueType.Accepts store (.dict key value) document
        (.map (NameMap.ofEntries ((names.map Value.keyText).zip values)))
  | null {inner : ValueType} {document : Document}
      (absent : document.untagOnce.isNull = true) :
      ValueType.Accepts store (.optional inner) document .null
  | present {inner : ValueType} {document : Document} {value : Value}
      (fits : ValueType.Accepts store inner document.untagOnce value) :
      ValueType.Accepts store (.optional inner) document value
  | union {choices : List ValueType} {choice : ValueType} {document : Document} {value : Value}
      (member : choice ∈ choices)
      (fits : ValueType.Accepts store choice document.untagOnce value) :
      ValueType.Accepts store (.union choices) document value
  | unit {label : String} {base : ValueType} {document : Document} {value : Value}
      (fits : ValueType.Accepts store base document.untagOnce value) :
      ValueType.Accepts store (.unit label base) document value
  | record {type : RecordType} {document : Document} {values : NameMap Value}
      (fits : RecordType.Accepts store type document.untagOnce values) :
      ValueType.Accepts store (.record type) document (.record type.name values)
  | custom {type : CustomType} {document : Document} {value : Value}
      (read : type.coerce document.untagOnce = .ok value) :
      ValueType.Accepts store (.custom type) document value

/-- The values of fields, in their order, that a record type accepts for a document. -/
inductive RecordType.Accepts (store : FileStore) :
    RecordType → Document → NameMap Value → Prop where
  | intro {type : RecordType} {document : Document} {entries : Mapping}
      {values : NameMap Value} (mapping : document.untagOnce.asMapping? = some entries)
      (expected : ∀ entry ∈ entries, ∃ field ∈ type.fields, field.name = entry.1.keyText)
      (ordered : values.names.Sublist (type.fields.map Field.name))
      (fields : ∀ before field after, type.fields = before ++ field :: after →
        Field.Accepts store type.validators entries.byText (values.among before) field
          (values.get? field.name))
      (opened : ∀ validator ∈ type.recordValidators, validator.options.pre = true →
        validator.call none entries.byText.raw = .accepted)
      (closed : ∀ validator ∈ type.recordValidators, validator.options.pre = false →
        validator.call none values = .accepted) :
      RecordType.Accepts store type document values

/-- The value or absence that a field accepts, given the values of the fields before it. -/
inductive Field.Accepts (store : FileStore) :
    List BoundValidator → NameMap Document → NameMap Value → Field → Option Value → Prop where
  | given {validators : List BoundValidator} {input : NameMap Document} {seen : NameMap Value}
      {field : Field} {document : Document} {value : Value}
      (present : input.get? field.name = some document)
      (fits : ValueType.Accepts store field.type document value)
      (checked : ∀ validator ∈ validators, validator.checks field.name = true →
        validator.Passes seen document value) :
      Field.Accepts store validators input seen field (some value)
  | default {validators : List BoundValidator} {input : NameMap Document}
      {seen : NameMap Value} {field : Field} {document : Document} {value : Value}
      (absent : input.get? field.name = none) (stated : field.default = some document)
      (fits : ValueType.Accepts store field.type document value)
      (checked : ∀ validator ∈ validators, validator.checks field.name = true →
        validator.options.always = true → validator.Passes seen document value) :
      Field.Accepts store validators input seen field (some value)
  | leftOut {validators : List BoundValidator} {input : NameMap Document}
      {seen : NameMap Value} {field : Field} (absent : input.get? field.name = none)
      (noDefault : field.default = none) (optional : field.optional = true) :
      Field.Accepts store validators input seen field none

end

namespace ValueType

/-- Every record type in a type is what a level closes to. -/
inductive IsClosed : ValueType → Prop where
  | intro {type : ValueType}
      (own : ∀ record, type = .record record →
        ∃ hint level bases path, Level.close hint level bases path = .ok record)
      (inside : ∀ part ∈ type.parts, IsClosed part) : IsClosed type

theorem IsClosed.scalar {type : ValueType} (noRecord : type.asRecord? = none)
    (noParts : type.parts = []) : type.IsClosed := by
  refine .intro ?_ ?_
  · intro record same
    rw [same] at noRecord
    cases noRecord
  · intro part member
    rw [noParts] at member
    cases member

theorem IsClosed.record {hint : String} {level : Level} {bases : List RecordType}
    {path : DocPath} {type : RecordType} (closes : Level.close hint level bases path = .ok type)
    (fields : ∀ field ∈ type.fields, field.type.IsClosed) : (ValueType.record type).IsClosed := by
  refine .intro ?_ ?_
  · intro record same
    cases same
    exact ⟨hint, level, bases, path, closes⟩
  · intro part member
    rcases List.mem_map.mp member with ⟨field, isField, rfl⟩
    exact fields field isField

end ValueType

end RuleSchema
