import RuleSchema.Types.Scalar

/-!
# Coercion

A document is interpreted as a value of a type.  Containers check all their elements
and report every one that fails; a choice of types takes the first that fits and
reports nothing of those that do not.

For a record:

* keys that name no field are reported;
* the validators of the whole record that run before coercion see the raw values, and
  when one fails, nothing more is checked;
* each field in order is coerced and validated, with the fields before it in view; an
  absent one takes its default, or is left out if it is optional;
* when nothing was reported so far, the other validators of the whole record run.
-/

namespace RuleSchema

namespace BoundValidator

/-- The outcome of a verdict on a value at a path. -/
def report (path : DocPath) (value : Option Value) : Verdict → Outcome Unit
  | .accepted => .found ()
  | .rejected message =>
      .violated ⟨path, .validatorFailed, value.map Value.toDocument, message⟩
  | .overflow => .brokenOff

/-- Run a validator on one value of a field. -/
def runOn (validator : BoundValidator) (values : NameMap Value) (path : DocPath)
    (value : Value) : Outcome Unit :=
  report path (some value) (validator.call (some value) values)

/-- Run a validator of a field, on each element if it asks for that. -/
def runField (validator : BoundValidator) (values : NameMap Value) (path : DocPath)
    (value : Value) : Outcome Unit :=
  match validator.options.eachItem, value with
  | true, .list items =>
      (Outcome.collect (items.zipIdx.map fun (item, position) =>
        validator.runOn values (path.child (.index position)) item)).map fun _ => ()
  | true, .map entries =>
      (Outcome.collect (entries.map fun (name, item) =>
        validator.runOn values (path.child (.key name)) item)).map fun _ => ()
  | _, _ => validator.runOn values path value

/-- Run validators of a field one after another; all of them run. -/
def runFieldAll (validators : List BoundValidator) (values : NameMap Value) (path : DocPath)
    (value : Value) : Outcome Unit :=
  (Outcome.collect (validators.map fun validator =>
    validator.runField values path value)).map fun _ => ()

/-- Run validators of a whole record one after another; all of them run. -/
def runRecordAll (validators : List BoundValidator) (values : NameMap Value) (path : DocPath) :
    Outcome Unit :=
  (Outcome.collect (validators.map fun validator =>
    report path none (validator.call none values))).map fun _ => ()

end BoundValidator

namespace Outcome

variable {α β : Type}

/-- Go on with the value, if there is one; the violations add up. -/
def andThen (outcome : Outcome α) (next : α → Outcome β) : Outcome β :=
  match outcome.value with
  | none => ⟨none, outcome.violations, outcome.overflow⟩
  | some value =>
      let following := next value
      ⟨following.value, outcome.violations ++ following.violations,
        outcome.overflow || following.overflow⟩

/-- What a check gives, with its complaint as a mismatch at a place. -/
def ofExcept (path : DocPath) (document : Document) : Except String α → Outcome α
  | .ok value => found value
  | .error message => mismatch path document message

/-- A value that passed a check, or what the check found. -/
def ofVerdict (path : DocPath) (document : Document) (value : α) : Verdict → Outcome α
  | .accepted => found value
  | .rejected message => mismatch path document message
  | .overflow => brokenOff

end Outcome

/-- Interpret a field's value between its validators. -/
def Field.checked (validators : List BoundValidator) (coerce : Document → Outcome Value)
    (values : NameMap Value) (path : DocPath) (document : Document) : Outcome Value :=
  let before := validators.filter (fun validator => validator.options.pre)
  let after := validators.filter (fun validator => !validator.options.pre)
  (BoundValidator.runFieldAll before values path (.ofDocument document)).andThen fun _ =>
    (coerce document).andThen fun value =>
      (BoundValidator.runFieldAll after values path value).map fun _ => value

/-- The fields of a record so far, and what a further field adds to them. -/
def NameMap.extend (values : NameMap Value) (name : String) (value : Option Value) :
    NameMap Value :=
  match value with
  | some found => values.insert name found
  | none => values

/-- What is reported for keys that name no field. -/
def RecordType.unexpected (type : RecordType) (path : DocPath) (input : NameMap Document) :
    List Violation :=
  input.filterMap fun (name, document) =>
    if (type.field? name).isSome then none
    else
      some ⟨path.child (.key name), .unexpectedField, some document,
        "extra fields not permitted"⟩

/-- The entries of a mapping under the texts of their keys. -/
def Mapping.byText (entries : Mapping) : NameMap Document :=
  NameMap.ofEntries (entries.map fun (key, value) => (key.keyText, value))

/-- What remains of a record once its fields are known. -/
def RecordType.closed (validators : List BoundValidator) (path : DocPath)
    (fields : Outcome (NameMap Value)) : Outcome (NameMap Value) :=
  if fields.violations.isEmpty then
    fields.andThen fun values =>
      (BoundValidator.runRecordAll
        (validators.filter fun validator => !validator.options.pre) values path).map
        fun _ => values
  else ⟨none, fields.violations, fields.overflow⟩

mutual

/-- Interpret a document as a value of a type. -/
def ValueType.coerce (store : FileStore) (type : ValueType) (tagged : Document)
    (path : DocPath) : Outcome Value :=
  let document := tagged.untagOnce
  if document.isNull && !type.acceptsNull then
    .mismatch path document "none is not an allowed value"
  else
    match type with
    | .any => .found (.ofDocument document)
    | .bool strict => (Outcome.ofExcept path document (Scalar.bool strict document)).map .bool
    | .int constraints =>
        (Outcome.ofExcept path document (Scalar.int constraints.strict document)).andThen
          fun word => .ofVerdict path document (.int word) (constraints.check .int word)
    | .float constraints =>
        (Outcome.ofExcept path document (Scalar.float constraints.strict document)).andThen
          fun value => .ofVerdict path document (.float value) (constraints.check .float value)
    | .text constraints =>
        (Outcome.ofExcept path document (Scalar.text constraints.strict document)).andThen
          fun text =>
            let normal := constraints.normalize text
            .ofVerdict path document (.string normal) (constraints.check normal)
    | .path kind => (Outcome.ofExcept path document (Scalar.path store kind document)).map .path
    | .literal options =>
        if options.any (Scalar.isOption document) then .found (.ofDocument document)
        else
          .mismatch path document
            ("unexpected value; permitted: " ++
              ", ".intercalate (options.map Document.scalarText))
    | .list item =>
        match document.asSequence? with
        | none => .mismatch path document "value is not a valid list"
        | some documents =>
            (Outcome.collect (documents.zipIdx.map fun (inner, position) =>
              item.coerce store inner (path.child (.index position)))).map .list
    | .tuple items =>
        match document.asSequence? with
        | none => .mismatch path document "value is not a valid tuple"
        | some documents =>
            if documents.length = items.length then
              (ValueType.coerceEach store path 0 items documents).map .list
            else
              .mismatch path document
                ("wrong tuple length " ++ toString documents.length ++ ", expected " ++
                  toString items.length)
    | .dict key value =>
        match document.asMapping? with
        | none => .mismatch path document "value is not a valid dict"
        | some entries =>
            (Outcome.collect (entries.map fun entry =>
              let inside := path.child (PathKey.ofDocument entry.1)
              (Outcome.both (key.coerce store entry.1 inside)
                (value.coerce store entry.2 inside)).map
                  fun (name, found) => (name.keyText, found))).map
                    fun found => .map (NameMap.ofEntries found)
    | .optional inner =>
        if document.isNull then .found .null else inner.coerce store document path
    | .union choices =>
        let (found, overflow) := ValueType.coerceFirst store document path choices
        match found with
        | some value => ⟨some value, [], overflow⟩
        | none =>
            ⟨none, [⟨path, .typeMismatch, some document,
              "value does not match any of " ++ ", ".intercalate (ValueType.names choices)⟩],
              overflow⟩
    | .unit _ base => base.coerce store document path
    | .record type =>
        match document.asMapping? with
        | none => .mismatch path document "value is not a valid dict"
        | some _ => (type.instantiate store document path).map (.record type.name)
    | .custom type => .ofExcept path document (type.coerce document)

/-- Interpret the items of a tuple, each as a value of its own type. -/
def ValueType.coerceEach (store : FileStore) (path : DocPath) (position : Nat)
    (types : List ValueType) (documents : List Document) : Outcome (List Value) :=
  match types, documents with
  | type :: types, document :: documents =>
      (Outcome.both (type.coerce store document (path.child (.index position)))
        (ValueType.coerceEach store path (position + 1) types documents)).map
          fun (value, values) => value :: values
  | _, _ => .found []

/-- The value of the first type that fits, and whether an attempt was broken off. -/
def ValueType.coerceFirst (store : FileStore) (document : Document) (path : DocPath)
    (types : List ValueType) : Option Value × Bool :=
  match types with
  | [] => (none, false)
  | type :: rest =>
      let attempt := type.coerce store document path
      match attempt.value with
      | some value => (some value, attempt.overflow)
      | none =>
          let (found, overflow) := ValueType.coerceFirst store document path rest
          (found, attempt.overflow || overflow)

/-- Make the values of a record from a document: keys, validators before, fields, and the others. -/
def RecordType.instantiate (store : FileStore) (type : RecordType) (tagged : Document)
    (path : DocPath) : Outcome (NameMap Value) :=
  match type with
  | ⟨name, fields, validators, bases⟩ =>
      let document := tagged.untagOnce
      match document.asMapping? with
      | none => .mismatch path document "value is not a valid dict"
      | some entries =>
          let type : RecordType := ⟨name, fields, validators, bases⟩
          let input := entries.byText
          let unexpected := type.unexpected path input
          let raw : NameMap Value := input.map fun (name, document) => (name, .ofDocument document)
          let before := BoundValidator.runRecordAll
            (type.recordValidators.filter fun validator => validator.options.pre) raw path
          let opened : Outcome Unit :=
            ⟨before.value, unexpected ++ before.violations, before.overflow⟩
          RecordType.closed type.recordValidators path
            (opened.andThen fun _ => Field.coerceFields store validators input path fields [])

/-- Make the values of fields, one after another; validators see those made before. -/
def Field.coerceFields (store : FileStore) (validators : List BoundValidator)
    (input : NameMap Document) (path : DocPath) (fields : List Field) (values : NameMap Value) :
    Outcome (NameMap Value) :=
  match fields with
  | [] => .found values
  | ⟨name, type, default, optional, _⟩ :: rest =>
      let inside := path.child (.key name)
      let own := validators.filter (BoundValidator.checks name)
      let here : Outcome Value :=
        match input.get? name, default with
        | some document, _ =>
            Field.checked own (fun raw => type.coerce store raw inside) values inside document
        | none, some document =>
            Field.checked (own.filter fun validator => validator.options.always)
              (fun raw => type.coerce store raw inside) values inside document
        | none, none =>
            if optional then ⟨none, [], false⟩
            else .violated ⟨inside, .missingField, none, "field required"⟩
      let known := values.extend name here.value
      let others := Field.coerceFields store validators input path rest known
      ⟨others.value, here.violations ++ others.violations, here.overflow || others.overflow⟩

end

end RuleSchema
