import RuleSchema.Proofs.Types.Explained
import RuleSchema.Proofs.Types.Rereading
import RuleSchema.Proofs.Validation.Reporting

/-!
# Coercion with one list of violations

Coercion can hand one list along to which everything is reported as it is found.  Then whether
a record went wrong is seen from the length of the list before and after, and the attempts of a
choice of types report to lists of their own, which are thrown away.

This comes to the same as coercion, which has its violations apart: what it adds to a list and
what it gives do not depend on what the list held, and the list only grows.  Without a value
something is added, at or below the path, and with one nothing is.
-/

namespace RuleSchema

namespace BoundValidator

/-- Report what a verdict complains of. -/
def reportOnto (path : DocPath) (value : Option Value) : Verdict → Reporting Unit
  | .accepted => .found ()
  | .rejected message =>
      .push ⟨path, .validatorFailed, value.map Value.toDocument, message⟩
  | .overflow => .brokenOff

/-- Run a validator on a value, reporting its complaint. -/
def runOnto (validator : BoundValidator) (values : NameMap Value) (path : DocPath)
    (value : Value) : Reporting Unit :=
  reportOnto path (some value) (validator.call (some value) values)

/-- Run a validator of a field on its value, or on each item where it is so bound. -/
def runFieldOnto (validator : BoundValidator) (values : NameMap Value) (path : DocPath)
    (value : Value) : Reporting Unit :=
  match validator.options.eachItem, value with
  | true, .list items =>
      (Reporting.each (items.zipIdx.map fun (item, position) =>
        validator.runOnto values (path.child (.index position)) item)).map fun _ => ()
  | true, .map entries =>
      (Reporting.each (entries.map fun (name, item) =>
        validator.runOnto values (path.child (.key name)) item)).map fun _ => ()
  | _, _ => validator.runOnto values path value

/-- Run all validators of a field on its value, whatever the earlier ones report. -/
def runFieldAllOnto (validators : List BoundValidator) (values : NameMap Value)
    (path : DocPath) (value : Value) : Reporting Unit :=
  (Reporting.each (validators.map fun validator =>
    validator.runFieldOnto values path value)).map fun _ => ()

/-- Run all validators of a record, whatever the earlier ones report. -/
def runRecordAllOnto (validators : List BoundValidator) (values : NameMap Value)
    (path : DocPath) : Reporting Unit :=
  (Reporting.each (validators.map fun validator =>
    reportOnto path none (validator.call none values))).map fun _ => ()

end BoundValidator

/-- Coerce the value of a field, between the validators that run before and those that run after. -/
def Field.checkedOnto (validators : List BoundValidator) (coerce : Document → Reporting Value)
    (values : NameMap Value) (path : DocPath) (document : Document) : Reporting Value :=
  let before := validators.filter (fun validator => validator.options.pre)
  let after := validators.filter (fun validator => !validator.options.pre)
  (BoundValidator.runFieldAllOnto before values path (.ofDocument document)).andThen fun _ =>
    (coerce document).andThen fun value =>
      (BoundValidator.runFieldAllOnto after values path value).map fun _ => value

/--
What remains of a record once its fields are known, given how long the list was before.  A
validator that breaks off leaves no value.
-/
def RecordType.closedOnto (validators : List BoundValidator) (path : DocPath) (before : Nat)
    (fields : Outcome (NameMap Value)) : Outcome (NameMap Value) :=
  match fields.value with
  | none => ⟨none, fields.violations, fields.overflow⟩
  | some values =>
      if fields.violations.length > before then ⟨none, fields.violations, fields.overflow⟩
      else
        let closed := BoundValidator.runRecordAllOnto
          (validators.filter fun validator => !validator.options.pre) values path
          fields.violations
        ⟨if closed.violations.length > before then none else closed.value.map fun _ => values,
          closed.violations, fields.overflow || closed.overflow⟩

mutual

/-- Interpret a document as a value of a type, reporting to a list. -/
def ValueType.coerceOnto (store : FileStore) (type : ValueType) (tagged : Document)
    (path : DocPath) : Reporting Value :=
  let document := tagged.untagOnce
  if document.isNull && !type.acceptsNull then
    .mismatch path document "none is not an allowed value"
  else
    match type with
    | .any => .found (.ofDocument document)
    | .bool strict => (Reporting.ofExcept path document (Scalar.bool strict document)).map .bool
    | .int constraints =>
        (Reporting.ofExcept path document (Scalar.int constraints.strict document)).andThen
          fun word => .ofVerdict path document (.int word) (constraints.check .int word)
    | .float constraints =>
        (Reporting.ofExcept path document (Scalar.float constraints.strict document)).andThen
          fun value => .ofVerdict path document (.float value) (constraints.check .float value)
    | .text constraints =>
        (Reporting.ofExcept path document (Scalar.text constraints.strict document)).andThen
          fun text =>
            let normal := constraints.normalize text
            .ofVerdict path document (.string normal) (constraints.check normal)
    | .path kind =>
        (Reporting.ofExcept path document (Scalar.path store kind document)).map .path
    | .literal options =>
        if options.any (Scalar.isOption document) then .found (.ofDocument document)
        else
          .mismatch path document
            ("unexpected value; permitted: " ++
              ", ".intercalate (options.map Document.scalarText))
    | .list item =>
        match document.asSequence? with
        | none => .mismatch path document "value is not a valid list"
        | some documents =>
            (Reporting.each (documents.zipIdx.map fun (inner, position) =>
              item.coerceOnto store inner (path.child (.index position)))).map .list
    | .tuple items =>
        match document.asSequence? with
        | none => .mismatch path document "value is not a valid tuple"
        | some documents =>
            if documents.length = items.length then
              (ValueType.coerceEachOnto store path 0 items documents).map .list
            else
              .mismatch path document
                ("wrong tuple length " ++ toString documents.length ++ ", expected " ++
                  toString items.length)
    | .dict key value =>
        match document.asMapping? with
        | none => .mismatch path document "value is not a valid dict"
        | some entries =>
            (Reporting.each (entries.map fun entry =>
              let inside := path.child (PathKey.ofDocument entry.1)
              (Reporting.both (key.coerceOnto store entry.1 inside)
                (value.coerceOnto store entry.2 inside)).map
                  fun (name, found) => (name.keyText, found))).map
                    fun found => .map (NameMap.ofEntries found)
    | .optional inner =>
        if document.isNull then .found .null else inner.coerceOnto store document path
    | .union choices => fun reported =>
        let (found, overflow) := ValueType.coerceFirstOnto store document path choices
        match found with
        | some value => ⟨some value, reported, overflow⟩
        | none =>
            ⟨none, reported ++ [⟨path, .typeMismatch, some document,
              "value does not match any of " ++ ", ".intercalate (ValueType.names choices)⟩],
              overflow⟩
    | .unit _ base => base.coerceOnto store document path
    | .record type =>
        match document.asMapping? with
        | none => .mismatch path document "value is not a valid dict"
        | some _ => (type.instantiateOnto store document path).map (.record type.name)
    | .custom type => .ofExcept path document (type.coerce document)

/-- Coerce the items of a tuple, reporting each where it stands. -/
def ValueType.coerceEachOnto (store : FileStore) (path : DocPath) (position : Nat)
    (types : List ValueType) (documents : List Document) : Reporting (List Value) :=
  match types, documents with
  | type :: types, document :: documents =>
      (Reporting.both (type.coerceOnto store document (path.child (.index position)))
        (ValueType.coerceEachOnto store path (position + 1) types documents)).map
          fun (value, values) => value :: values
  | _, _ => .found []

/-- The value of the first type that fits; each attempt reports to a list of its own. -/
def ValueType.coerceFirstOnto (store : FileStore) (document : Document) (path : DocPath)
    (types : List ValueType) : Option Value × Bool :=
  match types with
  | [] => (none, false)
  | type :: rest =>
      let attempt := type.coerceOnto store document path []
      match attempt.value with
      | some value => (some value, attempt.overflow)
      | none =>
          let (found, overflow) := ValueType.coerceFirstOnto store document path rest
          (found, attempt.overflow || overflow)

/-- Interpret a document as a record; the length of the list tells whether it went wrong. -/
def RecordType.instantiateOnto (store : FileStore) (type : RecordType) (tagged : Document)
    (path : DocPath) : Reporting (NameMap Value) :=
  match type with
  | ⟨name, fields, validators, bases⟩ =>
      let document := tagged.untagOnce
      match document.asMapping? with
      | none => .mismatch path document "value is not a valid dict"
      | some entries => fun reported =>
          let type : RecordType := ⟨name, fields, validators, bases⟩
          let input := entries.byText
          let opening : Reporting Unit := fun reported =>
            BoundValidator.runRecordAllOnto
              (type.recordValidators.filter fun validator => validator.options.pre) input.raw
              path (reported ++ type.unexpected path input)
          RecordType.closedOnto type.recordValidators path reported.length
            (opening.andThen (fun _ =>
              Field.coerceFieldsOnto store validators input path fields []) reported)

/-- Coerce the fields of a record one after another, reporting each where it stands. -/
def Field.coerceFieldsOnto (store : FileStore) (validators : List BoundValidator)
    (input : NameMap Document) (path : DocPath) (fields : List Field) (values : NameMap Value) :
    Reporting (NameMap Value) :=
  match fields with
  | [] => .found values
  | ⟨name, type, default, optional, _⟩ :: rest => fun reported =>
      let inside := path.child (.key name)
      let own := validators.filter (BoundValidator.checks name)
      let check : Reporting Value :=
        match input.get? name, default with
        | some document, _ =>
            Field.checkedOnto own (fun raw => type.coerceOnto store raw inside) values inside
              document
        | none, some document =>
            Field.checkedOnto (own.filter fun validator => validator.options.always)
              (fun raw => type.coerceOnto store raw inside) values inside document
        | none, none =>
            if optional then fun reported => ⟨none, reported, false⟩
            else .push ⟨inside, .missingField, none, "field required"⟩
      let here := check reported
      let others := Field.coerceFieldsOnto store validators input path rest
        (values.extend name here.value) here.violations
      ⟨others.value, others.violations, here.overflow || others.overflow⟩

end

open Reporting

variable {store : FileStore}

/-! ## Validators -/

namespace BoundValidator

theorem inStep_reportOnto {path : DocPath} {value : Option Value} {verdict : Verdict} :
    InStep path (reportOnto path value verdict) (report path value verdict) := by
  cases verdict with
  | accepted => exact inStep_found ()
  | rejected message => exact inStep_push (List.prefix_refl path)
  | overflow => exact inStep_brokenOff

theorem inStep_runFieldOnto {validator : BoundValidator} {values : NameMap Value}
    {path : DocPath} {value : Value} :
    InStep path (validator.runFieldOnto values path value)
      (validator.runField values path value) := by
  unfold runFieldOnto runField
  cases validator.options.eachItem with
  | false => exact inStep_reportOnto
  | true =>
      cases value with
      | list items =>
          apply InStep.map
          apply inStep_each
          rintro ⟨item, position⟩ -
          exact inStep_reportOnto.of_child
      | map entries =>
          apply InStep.map
          apply inStep_each
          rintro ⟨name, item⟩ -
          exact inStep_reportOnto.of_child
      | _ => exact inStep_reportOnto

theorem inStep_runFieldAllOnto {validators : List BoundValidator} {values : NameMap Value}
    {path : DocPath} {value : Value} :
    InStep path (runFieldAllOnto validators values path value)
      (runFieldAll validators values path value) := by
  apply InStep.map
  apply inStep_each
  intro validator _
  exact inStep_runFieldOnto

theorem inStep_runRecordAllOnto {validators : List BoundValidator} {values : NameMap Value}
    {path : DocPath} :
    InStep path (runRecordAllOnto validators values path)
      (runRecordAll validators values path) := by
  apply InStep.map
  apply inStep_each
  intro validator _
  exact inStep_reportOnto

end BoundValidator

/-! ## Fields and records -/

namespace Field

theorem inStep_checkedOnto {validators : List BoundValidator} {check : Document → Reporting Value}
    {coerce : Document → Outcome Value} {values : NameMap Value} {path : DocPath}
    {document : Document} (inStep : InStep path (check document) (coerce document)) :
    InStep path (checkedOnto validators check values path document)
      (checked validators coerce values path document) := by
  apply BoundValidator.inStep_runFieldAllOnto.andThen
  intro _
  apply inStep.andThen
  intro value
  exact BoundValidator.inStep_runFieldAllOnto.map _

/-- The outcome of one field, with all of the list. -/
def outcomeOnto (store : FileStore) (validators : List BoundValidator) (input : NameMap Document)
    (path : DocPath) (values : NameMap Value) (field : Field) : Reporting Value :=
  let inside := path.child (.key field.name)
  let own := validators.filter (BoundValidator.checks field.name)
  match input.get? field.name, field.default with
  | some document, _ =>
      checkedOnto own (fun raw => field.type.coerceOnto store raw inside) values inside document
  | none, some document =>
      checkedOnto (own.filter fun validator => validator.options.always)
        (fun raw => field.type.coerceOnto store raw inside) values inside document
  | none, none =>
      if field.optional then fun reported => ⟨none, reported, false⟩
      else .push ⟨inside, .missingField, none, "field required"⟩

theorem coerceFieldsOnto_cons (validators : List BoundValidator) (input : NameMap Document)
    (path : DocPath) (field : Field) (rest : List Field) (values : NameMap Value)
    (reported : List Violation) :
    coerceFieldsOnto store validators input path (field :: rest) values reported =
      let here := outcomeOnto store validators input path values field reported
      let others := coerceFieldsOnto store validators input path rest
        (values.extend field.name here.value) here.violations
      ⟨others.value, others.violations, here.overflow || others.overflow⟩ := by
  cases field
  rfl

theorem inStep_outcomeOnto {validators : List BoundValidator} {input : NameMap Document}
    {path : DocPath} {values : NameMap Value} {field : Field}
    (inStep : ∀ document path,
      InStep path (field.type.coerceOnto store document path)
        (field.type.coerce store document path)) :
    InStep path (outcomeOnto store validators input path values field)
      (outcome store validators input path values field) := by
  cases present : input.get? field.name with
  | some document =>
      rw [outcome_of_present present, outcomeOnto, present]
      exact (inStep_checkedOnto (inStep document _)).of_child
  | none =>
      cases stated : field.default with
      | some document =>
          rw [outcome_of_default present stated, outcomeOnto, present, stated]
          exact (inStep_checkedOnto (inStep document _)).of_child
      | none =>
          rw [outcome_of_absent present stated, outcomeOnto, present, stated]
          dsimp only
          split
          · refine ⟨?_, by simp, fun _ none => nomatch none⟩
            intro reported
            rw [List.append_nil]
          · exact inStep_push (List.prefix_append path _)

/-- Fields one after another add what their outcomes have, below the path of the record. -/
theorem adds_coerceFieldsOnto {validators : List BoundValidator} {input : NameMap Document}
    {path : DocPath} {fields : List Field} {values : NameMap Value}
    (inStep : ∀ field ∈ fields, ∀ document path,
      InStep path (field.type.coerceOnto store document path)
        (field.type.coerce store document path)) :
    (∀ reported, coerceFieldsOnto store validators input path fields values reported =
        ⟨(coerceFields store validators input path fields values).value,
          reported ++ (coerceFields store validators input path fields values).violations,
          (coerceFields store validators input path fields values).overflow⟩) ∧
      ∀ violation ∈ (coerceFields store validators input path fields values).violations,
        path <+: violation.path := by
  induction fields generalizing values with
  | nil =>
      constructor
      · intro reported
        rw [coerceFieldsOnto, coerceFields, (@inStep_found (NameMap Value) path values).adds]
      · simp [coerceFields, Outcome.found]
  | cons field rest ih =>
      rw [coerceFields_cons]
      dsimp only
      generalize fieldIs : outcome store validators input path values field = here
      have others := @ih (values.extend field.name here.value)
        fun other member => inStep other (List.mem_cons_of_mem _ member)
      have own : InStep path (outcomeOnto store validators input path values field) here :=
        fieldIs ▸ inStep_outcomeOnto (inStep field List.mem_cons_self)
      constructor
      · intro reported
        rw [coerceFieldsOnto_cons, own.adds]
        dsimp only
        rw [others.1, List.append_assoc]
      · intro violation member
        rcases List.mem_append.mp member with first | second
        · exact own.located violation first
        · exact others.2 violation second

end Field

namespace RecordType

theorem located_unexpected {type : RecordType} {path : DocPath} {input : NameMap Document}
    {violation : Violation} (member : violation ∈ type.unexpected path input) :
    path <+: violation.path := by
  rcases List.mem_filterMap.mp member with ⟨⟨name, document⟩, -, found⟩
  dsimp only at found
  split at found
  · cases found
  · cases found
    exact List.prefix_append path _

theorem closedOnto_of_longer {validators : List BoundValidator} {path : DocPath} {before : Nat}
    {fields : Outcome (NameMap Value)} (longer : before < fields.violations.length) :
    closedOnto validators path before fields = ⟨none, fields.violations, fields.overflow⟩ := by
  rw [closedOnto]
  cases fields.value with
  | none => rfl
  | some values => exact if_pos longer

/-- With the fields of a record all found, its validators run; what they add closes it. -/
theorem closedOnto_of_found {validators : List BoundValidator} {path : DocPath}
    {values : NameMap Value} {overflow : Bool} (reported : List Violation) :
    closedOnto validators path reported.length ⟨some values, reported, overflow⟩ =
      let final := BoundValidator.runRecordAll
        (validators.filter fun validator => !validator.options.pre) values path
      ⟨final.value.map fun _ => values, reported ++ final.violations,
        overflow || final.overflow⟩ := by
  have checks := @BoundValidator.inStep_runRecordAllOnto
    (validators.filter fun validator => !validator.options.pre) values path
  refine (if_neg (Nat.lt_irrefl reported.length)).trans ?_
  rw [checks.adds]
  dsimp only
  generalize finalIs : BoundValidator.runRecordAll _ values path = final at checks ⊢
  congr 1
  cases added : final.violations with
  | nil => simp
  | cons violation rest =>
      have without : final.value = none :=
        Option.eq_none_iff_forall_ne_some.mpr fun value found => by
          cases added.symm.trans (checks.clean value found)
      simp [without]

/-- A record that is closed once its fields are known is in step with the list. -/
theorem inStep_closedOnto {validators : List BoundValidator} {path : DocPath}
    {check : Reporting (NameMap Value)} {fields : Outcome (NameMap Value)}
    (adds : check.Adds fields) (located : ∀ violation ∈ fields.violations, path <+: violation.path) :
    InStep path (fun reported => closedOnto validators path reported.length (check reported))
      (closed validators path fields) := by
  rcases fields with ⟨value, violations, overflow⟩
  cases violations with
  | cons violation rest =>
      refine ⟨?_, located, fun _ none => nomatch none⟩
      intro reported
      dsimp only
      rw [adds]
      exact closedOnto_of_longer (by simp)
  | nil =>
      have unchanged : ∀ reported, check reported = ⟨value, reported, overflow⟩ := by
        intro reported
        rw [adds, List.append_nil]
      cases value with
      | none =>
          refine ⟨?_, located, fun _ none => nomatch none⟩
          intro reported
          dsimp only
          rw [adds]
          rfl
      | some values =>
          have closing := (@BoundValidator.inStep_runRecordAllOnto
            (validators.filter fun validator => !validator.options.pre) values path).map
              fun _ => values
          refine ⟨?_, closing.located, closing.clean⟩
          intro reported
          dsimp only
          rw [unchanged]
          exact closedOnto_of_found reported

theorem instantiateOnto_of_asMapping? {type : RecordType} {document : Document}
    {path : DocPath} {entries : Mapping} (mapping : document.untagOnce.asMapping? = some entries)
    (reported : List Violation) :
    type.instantiateOnto store document path reported =
      let opening : Reporting Unit := fun reported =>
        BoundValidator.runRecordAllOnto
          (type.recordValidators.filter fun validator => validator.options.pre)
          entries.byText.raw path (reported ++ type.unexpected path entries.byText)
      closedOnto type.recordValidators path reported.length
        (opening.andThen (fun _ =>
          Field.coerceFieldsOnto store type.validators entries.byText path type.fields [])
            reported) := by
  cases type
  rw [instantiateOnto, mapping]

theorem inStep_instantiateOnto {type : RecordType} {document : Document} {path : DocPath}
    (inStep : ∀ field ∈ type.fields, ∀ document path,
      InStep path (field.type.coerceOnto store document path)
        (field.type.coerce store document path)) :
    InStep path (type.instantiateOnto store document path)
      (type.instantiate store document path) := by
  cases mapping : document.untagOnce.asMapping? with
  | none =>
      have refused : type.instantiateOnto store document path =
          .mismatch path document.untagOnce "value is not a valid dict" := by
        cases type
        rw [instantiateOnto, mapping]
      rw [refused, instantiate_of_not_mapping _ _ mapping]
      exact inStep_mismatch _ _
  | some entries =>
      rw [instantiate_of_asMapping? _ _ mapping]
      let opening : Reporting Unit := fun reported =>
        BoundValidator.runRecordAllOnto
          (type.recordValidators.filter fun validator => validator.options.pre)
          entries.byText.raw path (reported ++ type.unexpected path entries.byText)
      let filling := fun _ : Unit =>
        Field.coerceFieldsOnto store type.validators entries.byText path type.fields []
      have threaded : type.instantiateOnto store document path = fun reported =>
          closedOnto type.recordValidators path reported.length
            (opening.andThen filling reported) :=
        funext (instantiateOnto_of_asMapping? mapping)
      have before := @BoundValidator.inStep_runRecordAllOnto
        (type.recordValidators.filter fun validator => validator.options.pre)
        entries.byText.raw path
      have fields := @Field.adds_coerceFieldsOnto _ type.validators entries.byText path
        type.fields [] inStep
      rw [threaded]
      apply inStep_closedOnto
      · apply Adds.andThen
        · intro reported
          refine (before.adds _).trans ?_
          rw [List.append_assoc]
        · exact fun _ => fields.1
      · apply located_andThen
        · intro violation member
          rcases List.mem_append.mp member with unexpected | violated
          · exact located_unexpected unexpected
          · exact before.located violation violated
        · exact fun _ => fields.2

end RecordType

/-! ## Types -/

namespace ValueType

theorem inStep_coerceEachOnto {types : List ValueType} {path : DocPath} {position : Nat}
    {documents : List Document}
    (inStep : ∀ type ∈ types, ∀ document path,
      InStep path (type.coerceOnto store document path) (type.coerce store document path)) :
    InStep path (coerceEachOnto store path position types documents)
      (coerceEach store path position types documents) := by
  induction types generalizing position documents with
  | nil => exact inStep_found []
  | cons type rest ih =>
      cases documents with
      | nil => exact inStep_found []
      | cons document others =>
          have first := (inStep type List.mem_cons_self document
            (path.child (.index position))).of_child
          have later : InStep path (coerceEachOnto store path (position + 1) rest others)
              (coerceEach store path (position + 1) rest others) :=
            ih fun other member => inStep other (List.mem_cons_of_mem _ member)
          exact (first.both later).map _

theorem coerceFirstOnto_eq {types : List ValueType} {document : Document} {path : DocPath}
    (inStep : ∀ type ∈ types, ∀ document path,
      InStep path (type.coerceOnto store document path) (type.coerce store document path)) :
    coerceFirstOnto store document path types = coerceFirst store document path types := by
  induction types with
  | nil => rfl
  | cons type rest ih =>
      have others := ih fun other member => inStep other (List.mem_cons_of_mem _ member)
      have attempt := (inStep type List.mem_cons_self document path).adds []
      cases found : (type.coerce store document path).value <;>
        simp only [coerceFirstOnto, coerceFirst, attempt, found, others]

/-- A choice adds nothing if one of its types fits, and one violation otherwise. -/
theorem inStep_choice {path : DocPath} {violation : Violation} {first : Option Value × Bool}
    (located : path <+: violation.path) :
    InStep path
      (fun reported =>
        match first.1 with
        | some value => ⟨some value, reported, first.2⟩
        | none => ⟨none, reported ++ [violation], first.2⟩)
      (match first.1 with
        | some value => ⟨some value, [], first.2⟩
        | none => ⟨none, [violation], first.2⟩) := by
  rcases first with ⟨found, overflow⟩
  cases found with
  | some value =>
      refine ⟨?_, by simp, fun _ _ => rfl⟩
      intro reported
      rw [List.append_nil]
  | none =>
      refine ⟨fun _ => rfl, ?_, fun _ none => nomatch none⟩
      intro other member
      rw [List.mem_singleton.mp member]
      exact located

/-- What coercion adds to a list and what it gives is what it has apart from the list. -/
theorem inStep_coerceOnto (type : ValueType) (document : Document) (path : DocPath) :
    InStep path (type.coerceOnto store document path) (type.coerce store document path) := by
  induction type using partInduction generalizing document path with
  | step type ih =>
  rw [coerceOnto.eq_def, coerce.eq_def]
  dsimp only
  split
  · exact inStep_mismatch _ _
  cases type with
  | any => exact inStep_found _
  | bool strict => exact (inStep_ofExcept _ _).map _
  | int constraints => exact (inStep_ofExcept _ _).andThen fun _ => inStep_ofVerdict _ _ _
  | float constraints => exact (inStep_ofExcept _ _).andThen fun _ => inStep_ofVerdict _ _ _
  | text constraints => exact (inStep_ofExcept _ _).andThen fun _ => inStep_ofVerdict _ _ _
  | path kind => exact (inStep_ofExcept _ _).map _
  | literal options =>
      dsimp only
      split
      · exact inStep_found _
      · exact inStep_mismatch _ _
  | list item =>
      dsimp only
      cases document.untagOnce.asSequence? with
      | none => exact inStep_mismatch _ _
      | some documents =>
          apply InStep.map
          apply inStep_each
          rintro ⟨inner, position⟩ -
          exact (ih item List.mem_cons_self inner (path.child (.index position))).of_child
  | tuple items =>
      dsimp only
      cases document.untagOnce.asSequence? with
      | none => exact inStep_mismatch _ _
      | some documents =>
          dsimp only
          split
          · exact (inStep_coerceEachOnto ih).map _
          · exact inStep_mismatch _ _
  | dict key value =>
      dsimp only
      cases document.untagOnce.asMapping? with
      | none => exact inStep_mismatch _ _
      | some entries =>
          apply InStep.map
          apply inStep_each
          intro entry _
          have name := ih key List.mem_cons_self entry.1
          have inner := ih value (List.mem_cons_of_mem _ List.mem_cons_self) entry.2
          exact ((name _).both (inner _)).of_child.map _
  | optional inner =>
      dsimp only
      split
      · exact inStep_found _
      · exact ih inner List.mem_cons_self _ path
  | union choices =>
      have same : coerceFirstOnto store document.untagOnce path choices =
          coerceFirst store document.untagOnce path choices := coerceFirstOnto_eq ih
      dsimp only
      rw [same]
      exact inStep_choice (List.prefix_refl path)
  | unit label base => exact ih base List.mem_cons_self _ path
  | record type =>
      dsimp only
      cases document.untagOnce.asMapping? with
      | none => exact inStep_mismatch _ _
      | some entries =>
          apply InStep.map
          apply RecordType.inStep_instantiateOnto
          exact fun field member => ih field.type (List.mem_map_of_mem member)
  | custom type => exact inStep_ofExcept _ _

theorem acceptsNull_union {choices : List ValueType} {choice : ValueType}
    (member : choice ∈ choices) (accepts : choice.acceptsNull) :
    (union choices).acceptsNull := by
  change anyAcceptsNull choices
  induction choices with
  | nil => cases member
  | cons head rest ih =>
      rw [anyAcceptsNull, Bool.or_eq_true]
      rcases List.mem_cons.mp member with rfl | inRest
      · exact .inl accepts
      · exact .inr (ih inRest)

theorem acceptsNull_of_coerceOnto {type : ValueType} {document : Document} {path : DocPath}
    {reported : List Violation} {value : Value} (isNull : document.isNull)
    (found : (type.coerceOnto store document path reported).value = some value) :
    type.acceptsNull := by
  by_contra refuses
  have guarded : (document.untagOnce.isNull && !type.acceptsNull) = true := by
    rw [isNull_untagOnce, isNull, Bool.true_and, Bool.not_eq_true', Bool.eq_false_iff]
    exact refuses
  rw [coerceOnto.eq_def] at found
  dsimp only at found
  rw [if_pos guarded] at found
  cases found

theorem coerceFirstOnto_of_earlier {before after : List ValueType} {choice : ValueType}
    {document : Document} {path : DocPath} {value : Value}
    (earlier : ∀ other ∈ before, (other.coerceOnto store document path []).value = none)
    (found : (choice.coerceOnto store document path []).value = some value) :
    (coerceFirstOnto store document path (before ++ choice :: after)).1 = some value := by
  induction before with
  | nil => rw [List.nil_append, coerceFirstOnto, found]
  | cons other rest ih =>
      have later := ih fun another member => earlier another (List.mem_cons_of_mem _ member)
      rw [List.cons_append, coerceFirstOnto, earlier other List.mem_cons_self]
      exact later

/--
Types and record types report what coercion finds.  A choice one of whose types fits gives
the value of the first that does, and leaves the list as it was.
-/
theorem reports_coerce (store : FileStore) (document : Document) (path : DocPath) :
    (∀ type : ValueType, Reports path (type.coerceOnto store document path)
        (type.coerce store document path)) ∧
      (∀ type : RecordType, Reports path (type.instantiateOnto store document path)
        (type.instantiate store document path)) ∧
      ∀ (before after : List ValueType) (choice : ValueType) (value : Value),
        (∀ other ∈ before,
          (other.coerceOnto store document.untagOnce path []).value = none) →
        (choice.coerceOnto store document.untagOnce path []).value = some value →
        ∀ reported, ∃ overflow,
          (union (before ++ choice :: after)).coerceOnto store document path reported =
            ⟨some value, reported, overflow⟩ := by
  refine ⟨?_, ?_, ?_⟩
  · intro type
    exact (inStep_coerceOnto type document path).reports (explained_coerce type document path)
  · intro type
    have inStep : InStep path (type.instantiateOnto store document path)
        (type.instantiate store document path) :=
      RecordType.inStep_instantiateOnto fun field _ => inStep_coerceOnto field.type
    exact inStep.reports (RecordType.explained_instantiate type document path)
  · intro before after choice value earlier found reported
    have fits := @coerceFirstOnto_of_earlier _ _ after _ _ _ _ earlier found
    have solid : ¬(document.untagOnce.isNull && !(union (before ++ choice :: after)).acceptsNull) := by
      intro guarded
      rcases (Bool.and_eq_true _ _).mp guarded with ⟨isNull, refuses⟩
      have accepts : (union (before ++ choice :: after)).acceptsNull :=
        acceptsNull_union (List.mem_append_right _ List.mem_cons_self)
          (acceptsNull_of_coerceOnto isNull found)
      rw [accepts] at refuses
      cases refuses
    refine ⟨(coerceFirstOnto store document.untagOnce path (before ++ choice :: after)).2, ?_⟩
    rw [coerceOnto.eq_def]
    dsimp only
    rw [if_neg solid, fits]

/-- A text for a whole number or a text is taken, and nothing is left of the first attempt. -/
theorem reports_coerce_port :
    let absent : Violation := ⟨[.key "host"], .missingField, none, "field required"⟩
    let path : DocPath := [.key "port"]
    ((ValueType.int {}).coerceOnto FileStore.empty (.string "http") path []).value = none ∧
      ((ValueType.text {}).coerceOnto FileStore.empty (.string "http") path []).value =
        some (.string "http") ∧
      ∃ overflow, (union [.int {}, .text {}]).coerceOnto FileStore.empty (.string "http") path
        [absent] = ⟨some (.string "http"), [absent], overflow⟩ := by
  have number : ((ValueType.int {}).coerceOnto FileStore.empty (.string "http")
      [.key "port"] []).value = none := by rfl
  have text : ((ValueType.text {}).coerceOnto FileStore.empty (.string "http")
      [.key "port"] []).value = some (.string "http") := by rfl
  refine ⟨number, text, ?_⟩
  apply (reports_coerce FileStore.empty (.string "http") [.key "port"]).2.2 [.int {}] [] (.text {})
  · intro other member
    rw [List.mem_singleton.mp member]
    exact number
  · exact text

end ValueType

end RuleSchema
