import RuleSchema.Proofs.Text.Normalization
import RuleSchema.Proofs.Types.Visits
import RuleSchema.Proofs.Validation.Confirmation
import RuleSchema.Proofs.Value.Documents

/-!
# Coercing a value again

A value that a type gave is written as a document and coerced again.  For types without a
choice, without coercions of their own, and with free texts as keys of maps, the second
coercion gives nothing but that value; it may only fail, by a validator that did not run
before or saw something else, or since an option of a literal is no scalar.  Where that is
excluded as well, it succeeds.
-/

namespace RuleSchema

open Outcome

variable {store : FileStore} {mayFail : Prop}

/-! ## Conditions on types -/

namespace ValueType

/-- What holds of a type and of every type in it. -/
inductive Throughout (test : ValueType → Prop) : ValueType → Prop where
  | intro {type : ValueType} (own : test type)
      (inside : ∀ part ∈ type.parts, Throughout test part) : Throughout test type

theorem Throughout.imp {test other : ValueType → Prop} {type : ValueType}
    (weaker : ∀ part, test part → other part) (holds : type.Throughout test) :
    type.Throughout other := by
  induction holds with
  | intro own inside ih => exact .intro (weaker _ own) ih

theorem Throughout.and {test other : ValueType → Prop} {type : ValueType}
    (first : type.Throughout test) (second : type.Throughout other) :
    type.Throughout fun part => test part ∧ other part := by
  induction first with
  | intro own inside ih =>
      rcases second with ⟨otherOwn, otherInside⟩
      exact .intro ⟨own, otherOwn⟩ fun part member => ih part member (otherInside part member)

/-- Whether a test passes on a type and on every type in it, down to a depth. -/
def everyWithin (test : ValueType → Bool) : Nat → ValueType → Bool
  | 0, _ => false
  | depth + 1, type => test type && type.parts.all (everyWithin test depth)

theorem throughout_of_everyWithin {test : ValueType → Bool} {depth : Nat} {type : ValueType}
    (every : everyWithin test depth type = true) :
    type.Throughout fun part => test part = true := by
  induction depth generalizing type with
  | zero => cases every
  | succ depth ih =>
      rw [everyWithin, Bool.and_eq_true, List.all_eq_true] at every
      exact .intro every.1 fun part member => ih (every.2 part member)

/-- No choice of types, no coercion of its own, and only free texts as keys of maps. -/
def isPlain : ValueType → Bool
  | union _ => false
  | custom _ => false
  | dict (text constraints) _ => constraints.isFree
  | dict _ _ => false
  | _ => true

/-- A record type without two fields of one name, or another type. -/
def NamesDistinctly : ValueType → Prop
  | record type => (type.fields.map Field.name).Nodup
  | _ => True

instance : DecidablePred NamesDistinctly
  | record type => inferInstanceAs (Decidable (type.fields.map Field.name).Nodup)
  | any | bool _ | int _ | float _ | text _ | path _ | literal _ | list _ | dict _ _ | tuple _
  | optional _ | union _ | unit _ _ | custom _ => inferInstanceAs (Decidable True)

end ValueType

/--
No validator runs before coercion, and those of a field with a default always run.  So the
validators that judge a written value saw the same value before.
-/
def RecordType.RepeatsChecks (type : RecordType) : Prop :=
  ∀ validator ∈ type.validators, validator.options.pre = false ∧
    ∀ field ∈ type.fields, validator.checks field.name = true → field.default.isSome = true →
      validator.options.always = true

instance (type : RecordType) : Decidable type.RepeatsChecks :=
  inferInstanceAs (Decidable (∀ validator ∈ type.validators, validator.options.pre = false ∧
    ∀ field ∈ type.fields, validator.checks field.name = true → field.default.isSome = true →
      validator.options.always = true))

namespace ValueType

/-- A literal all of whose options are scalars, or another type. -/
def HasScalarOptions : ValueType → Prop
  | literal options => ∀ option ∈ options, option.isScalar = true
  | _ => True

/-- A record type that repeats its checks, or another type. -/
def RepeatsChecks : ValueType → Prop
  | record type => type.RepeatsChecks
  | _ => True

instance : DecidablePred HasScalarOptions
  | literal options => inferInstanceAs (Decidable (∀ option ∈ options, option.isScalar = true))
  | any | bool _ | int _ | float _ | text _ | path _ | record _ | list _ | dict _ _ | tuple _
  | optional _ | union _ | unit _ _ | custom _ => inferInstanceAs (Decidable True)

instance : DecidablePred RepeatsChecks
  | record type => inferInstanceAs (Decidable type.RepeatsChecks)
  | any | bool _ | int _ | float _ | text _ | path _ | literal _ | list _ | dict _ _ | tuple _
  | optional _ | union _ | unit _ _ | custom _ => inferInstanceAs (Decidable True)

/-- The condition on a type and the types in it, under which values are coerced again. -/
def IsRereadable (mayFail : Prop) (type : ValueType) : Prop :=
  type.Throughout fun part =>
    (part.isPlain = true ∧ part.NamesDistinctly) ∧
      (mayFail ∨ part.HasScalarOptions ∧ part.RepeatsChecks)

/-- A second coercion confirms what the first one gave. -/
def Rereads (store : FileStore) (mayFail : Prop) (type : ValueType) : Prop :=
  ∀ document path value, (type.coerce store document path).Gives value →
    ∀ again, (type.coerce store value.toDocument again).Confirms mayFail value

/-! ## Scalars -/

theorem coerce_any (document : Document) (path : DocPath) :
    any.coerce store document path = .found (.ofDocument document.untagOnce) := by
  rw [coerce, if_neg (by simp [acceptsNull])]

theorem coerce_bool (strict flag : Bool) (path : DocPath) :
    (bool strict).coerce store (Value.bool flag).toDocument path = .found (.bool flag) := rfl

theorem coerce_int {constraints : IntConstraints} {word : Int64} (path : DocPath)
    (accepted : constraints.check .int word = .accepted) :
    (int constraints).coerce store (Value.int word).toDocument path = .found (.int word) := by
  have fits : (Value.int word).toDocument.asInt64? = some word := Whole.toInt64?_ofInt64 word
  have read : Scalar.int constraints.strict (Value.int word).toDocument = .ok word := by
    rw [Scalar.int, fits]
  rw [coerce, Value.untagOnce_toDocument, if_neg (by simp [Value.isNull]), read, ofExcept_ok,
    found_andThen, accepted, ofVerdict_accepted]

theorem coerce_float {constraints : FloatConstraints} {number : Float} (path : DocPath)
    (accepted : constraints.check .float number = .accepted) :
    (float constraints).coerce store (Value.float number).toDocument path =
      .found (.float number) := by
  have read : Scalar.float constraints.strict (Value.float number).toDocument = .ok number := rfl
  rw [coerce, Value.untagOnce_toDocument, if_neg (by simp [Value.isNull]), read, ofExcept_ok,
    found_andThen, accepted, ofVerdict_accepted]

theorem coerce_text {constraints : TextConstraints} {text : String} (path : DocPath)
    (normal : constraints.normalize text = text) (accepted : constraints.check text = .accepted) :
    (ValueType.text constraints).coerce store (Value.string text).toDocument path =
      .found (.string text) := by
  have read : Scalar.text constraints.strict (Value.string text).toDocument = .ok text := rfl
  rw [coerce, Value.untagOnce_toDocument, if_neg (by simp [Value.isNull]), read, ofExcept_ok,
    found_andThen]
  simp only [normal, accepted, ofVerdict_accepted]

theorem coerce_path {kind : PathKind} {document : Document} {place : String} (path : DocPath)
    (read : Scalar.path store kind document = .ok place) :
    (ValueType.path kind).coerce store (Value.path place).toDocument path =
      .found (.path place) := by
  have same : document.asString? = some place := by
    rw [Scalar.path] at read
    cases isText : document.asString? with
    | none =>
        rw [isText] at read
        cases read
    | some text =>
        rw [isText] at read
        cases kind <;> dsimp only at read
        · cases read
          rfl
        · split_ifs at read
          cases read
          rfl
        · split_ifs at read
          cases read
          rfl
  have again : Scalar.path store kind (Value.path place).toDocument = .ok place := by
    rw [Scalar.path, same] at read
    exact read
  rw [coerce, Value.untagOnce_toDocument, if_neg (by simp [Value.isNull]), again, ofExcept_ok]
  rfl

/-- A text without constraints is a text whatever it says. -/
theorem coerce_text_of_isFree {constraints : TextConstraints} (free : constraints.isFree = true)
    (text : String) (path : DocPath) :
    (ValueType.text constraints).coerce store (.string text) path = .found (.string text) := by
  simp only [TextConstraints.isFree, Bool.and_eq_true, Option.isNone_iff_eq_none,
    Bool.not_eq_true'] at free
  rcases free with ⟨⟨⟨⟨noLeast, noMost⟩, noPattern⟩, notStripped⟩, notLower⟩
  apply coerce_text
  · simp [TextConstraints.normalize, notStripped, notLower]
  · simp [TextConstraints.check, noLeast, noMost, noPattern]

/-! ## Null -/

theorem isNull_untagOnce (document : Document) : document.untagOnce.isNull = document.isNull := by
  cases document <;> rfl

/-- Null comes from null alone. -/
theorem isNull_of_gives_null {type : ValueType}
    (plain : type.Throughout fun part => part.isPlain = true) {document : Document}
    {path : DocPath} (given : (type.coerce store document path).Gives .null) :
    document.isNull = true := by
  induction plain generalizing document path with
  | @intro type own inside ih =>
  rw [← isNull_untagOnce]
  rw [coerce.eq_def] at given
  dsimp only at given
  split at given
  · exact absurd given not_gives_mismatch
  cases type with
  | any =>
      rw [← Value.isNull_ofDocument, gives_found.mp given]
      rfl
  | literal options =>
      dsimp only at given
      split at given
      · rw [← Value.isNull_ofDocument, gives_found.mp given]
        rfl
      · exact absurd given not_gives_mismatch
  | optional inner =>
      dsimp only at given
      split at given
      · next absent => exact absent
      · exact ih inner List.mem_cons_self given
  | unit label base => exact ih base List.mem_cons_self given
  | union choices => cases own
  | custom type => cases own
  | bool strict =>
      rcases gives_map.mp given with ⟨_, -, other⟩
      cases other
  | int constraints =>
      rcases gives_andThen.mp given with ⟨_, -, checked⟩
      cases (gives_ofVerdict.mp checked).2
  | float constraints =>
      rcases gives_andThen.mp given with ⟨_, -, checked⟩
      cases (gives_ofVerdict.mp checked).2
  | text constraints =>
      rcases gives_andThen.mp given with ⟨_, -, checked⟩
      cases (gives_ofVerdict.mp checked).2
  | path kind =>
      rcases gives_map.mp given with ⟨_, -, other⟩
      cases other
  | list item =>
      dsimp only at given
      split at given
      · exact absurd given not_gives_mismatch
      · rcases gives_map.mp given with ⟨_, -, other⟩
        cases other
  | tuple items =>
      dsimp only at given
      split at given
      · exact absurd given not_gives_mismatch
      · split at given
        · rcases gives_map.mp given with ⟨_, -, other⟩
          cases other
        · exact absurd given not_gives_mismatch
  | dict key value =>
      dsimp only at given
      split at given
      · exact absurd given not_gives_mismatch
      · rcases gives_map.mp given with ⟨_, -, other⟩
        cases other
  | record type =>
      dsimp only at given
      split at given
      · exact absurd given not_gives_mismatch
      · rcases gives_map.mp given with ⟨_, -, other⟩
        cases other

/-! ## Literals, options and units -/

theorem coerce_literal {options : List Document} {value : Value} (notNull : value.isNull = false)
    (path : DocPath) :
    (literal options).coerce store value.toDocument path =
      if options.any (Scalar.isOption value.toDocument) then
        .found (.ofDocument value.toDocument)
      else
        .mismatch path value.toDocument
          ("unexpected value; permitted: " ++
            ", ".intercalate (options.map Document.scalarText)) := by
  rw [coerce, Value.untagOnce_toDocument, if_neg (by simp [notNull])]

theorem confirms_literal {options : List Document} {document : Document} {value : Value}
    (read : Value.ofDocument document = value) (notNull : value.isNull = false)
    (chosen : options.any (Scalar.isOption document) = true)
    (scalars : mayFail ∨ ∀ option ∈ options, option.isScalar = true) (path : DocPath) :
    ((literal options).coerce store value.toDocument path).Confirms mayFail value := by
  have readsBack : Value.ofDocument value.toDocument = value := by
    rw [← read]
    exact Value.readsBack_ofDocument document
  rw [coerce_literal notNull]
  split
  · exact .inl (congrArg found readsBack)
  · next refused =>
    rcases scalars with allowed | scalars
    · exact .inr ⟨allowed, .inl (by simp [mismatch, violated])⟩
    · rcases List.any_eq_true.mp chosen with ⟨option, member, own⟩
      apply absurd _ refused
      rw [← read]
      exact List.any_eq_true.mpr
        ⟨option, member, Scalar.isOption_toDocument (scalars option member) own⟩

theorem coerce_optional_null (inner : ValueType) (path : DocPath) :
    (optional inner).coerce store Value.null.toDocument path = .found .null := by
  rw [coerce]
  rfl

theorem coerce_optional {inner : ValueType} {value : Value} (notNull : value.isNull = false)
    (path : DocPath) :
    (optional inner).coerce store value.toDocument path =
      inner.coerce store value.toDocument path := by
  rw [coerce, Value.untagOnce_toDocument, if_neg (by simp [notNull]), if_neg (by simp [notNull])]

theorem coerce_unit {label : String} {base : ValueType} {value : Value}
    (notNull : value.isNull = false) (path : DocPath) :
    (unit label base).coerce store value.toDocument path =
      base.coerce store value.toDocument path := by
  rw [coerce, Value.untagOnce_toDocument, if_neg (by simp [notNull])]

theorem coerce_record (type : RecordType) (values : NameMap Value) (path : DocPath) :
    (record type).coerce store (Value.record type.name values).toDocument path =
      (type.instantiate store (.mapping (Value.toMapping values)) path).map
        (.record type.name) := by
  rw [coerce, Value.untagOnce_toDocument, if_neg (by simp [Value.isNull])]
  rfl

/-! ## Containers -/

theorem coerce_list (item : ValueType) (values : List Value) (path : DocPath) :
    (list item).coerce store (Value.list values).toDocument path =
      (collect (values.zipIdx.map fun (value, position) =>
        item.coerce store value.toDocument (path.child (.index position)))).map .list := by
  have items : (Value.list values).toDocument.asSequence? = some (values.map Value.toDocument) := by
    rw [← Value.toItems_eq_map]
    rfl
  rw [coerce, Value.untagOnce_toDocument, if_neg (by simp [Value.isNull]), items]
  simp only [List.zipIdx_map, List.map_map]
  rfl

theorem confirms_list {item : ValueType} {values : List Value}
    (each : ∀ value ∈ values, ∀ again,
      (item.coerce store value.toDocument again).Confirms mayFail value) (path : DocPath) :
    ((list item).coerce store (Value.list values).toDocument path).Confirms mayFail
      (.list values) := by
  rw [coerce_list]
  apply Confirms.map
  apply confirms_collect (by simp)
  intro position outcome value isOutcome isValue
  rw [List.getElem?_map, List.getElem?_zipIdx, isValue] at isOutcome
  cases isOutcome
  exact each value (List.mem_of_getElem? isValue) _

theorem confirms_coerceEach {types : List ValueType} {values : List Value}
    (sameLength : values.length = types.length)
    (each : ∀ (position : Nat) type value, types[position]? = some type →
      values[position]? = some value → ∀ again,
        (type.coerce store value.toDocument again).Confirms mayFail value)
    (path : DocPath) (start : Nat) :
    (coerceEach store path start types (values.map Value.toDocument)).Confirms mayFail values := by
  induction types generalizing values start with
  | nil =>
      rw [List.eq_nil_of_length_eq_zero sameLength]
      exact confirms_found
  | cons type rest ih =>
      cases values with
      | nil => cases sameLength
      | cons first others =>
          rw [List.map_cons, coerceEach]
          have here := each 0 type first rfl rfl (path.child (.index start))
          have later := ih (Nat.succ.inj sameLength) (fun position => each (position + 1))
            (start + 1)
          exact (here.both later).map fun both => both.1 :: both.2

theorem confirms_tuple {items : List ValueType} {values : List Value}
    (sameLength : values.length = items.length)
    (each : ∀ (position : Nat) item value, items[position]? = some item →
      values[position]? = some value → ∀ again,
        (item.coerce store value.toDocument again).Confirms mayFail value) (path : DocPath) :
    ((tuple items).coerce store (Value.list values).toDocument path).Confirms mayFail
      (.list values) := by
  have documents : (Value.list values).toDocument.asSequence? =
      some (values.map Value.toDocument) := by
    rw [← Value.toItems_eq_map]
    rfl
  rw [coerce, Value.untagOnce_toDocument, if_neg (by simp [Value.isNull]), documents]
  dsimp only
  rw [if_pos (by simpa using sameLength)]
  exact (confirms_coerceEach sameLength each path 0).map Value.list

theorem confirms_dict {constraints : TextConstraints} (free : constraints.isFree = true)
    {value : ValueType} {entries : NameMap Value} (distinct : entries.names.Nodup)
    (each : ∀ entry ∈ entries, ∀ again,
      (value.coerce store entry.2.toDocument again).Confirms mayFail entry.2) (path : DocPath) :
    ((dict (text constraints) value).coerce store (Value.map entries).toDocument path).Confirms
      mayFail (.map entries) := by
  have documents : (Value.map entries).toDocument.asMapping? =
      some (entries.map fun entry => (.string entry.1, entry.2.toDocument)) := by
    rw [← Value.toMapping_eq_map]
    rfl
  rw [coerce, Value.untagOnce_toDocument, if_neg (by simp [Value.isNull]), documents]
  dsimp only
  rw [List.map_map]
  have whole : Value.map entries = .map (NameMap.ofEntries (entries.map id)) := by
    rw [List.map_id, NameMap.ofEntries_of_nodup distinct]
  rw [whole]
  apply Confirms.map _ fun found => Value.map (NameMap.ofEntries found)
  apply confirms_collect_map
  rintro ⟨name, inner⟩ member
  have nameAgain : ((text constraints).coerce store (.string name)
      (path.child (PathKey.ofDocument (.string name)))).Confirms mayFail (.string name) :=
    .inl (coerce_text_of_isFree free name _)
  exact (nameAgain.both (each _ member _)).map fun both => (both.1.keyText, both.2)

end ValueType

/-! ## Records -/

namespace Field

variable {validators : List BoundValidator} {input again : NameMap Document}
  {path inside : DocPath} {fields : List Field} {seen final : NameMap Value}

theorem nodup_names_of_coerceFields (distinct : seen.names.Nodup)
    (given : (coerceFields store validators input path fields seen).Gives final) :
    final.names.Nodup := by
  induction fields generalizing seen with
  | nil => exact gives_found.mp given ▸ distinct
  | cons head rest ih =>
      refine ih ?_ (gives_coerceFields_cons.mp given).2
      cases (outcome store validators input path seen head).value with
      | none => exact distinct
      | some value => exact NameMap.nodup_names_insert distinct head.name value

theorem mem_names_of_coerceFields
    (given : (coerceFields store validators input path fields []).Gives final) {name : String}
    (known : name ∈ final.names) : name ∈ fields.map Field.name := by
  apply Classical.byContradiction
  intro absent
  rcases NameMap.mem_names_iff.mp known with ⟨value, found⟩
  rw [get?_of_coerceFields absent given] at found
  cases found

/-- What passed is confirmed by a document of the value. -/
theorem confirms_outcome {field : Field} {value : Value}
    (rereads : field.type.Rereads store mayFail)
    (repeats : mayFail ∨ ∀ validator ∈ validators, validator.options.pre = false ∧
      (validator.checks field.name = true → field.default.isSome = true →
        validator.options.always = true))
    (given : (outcome store validators input path seen field).Gives value)
    (written : again.get? field.name = some value.toDocument) :
    (outcome store validators again inside seen field).Confirms mayFail value := by
  rcases gives_outcome given with ⟨document, place, coerced, passed⟩
  rw [outcome_of_present written]
  apply confirms_checked
  · exact rereads document place value coerced _
  · refine repeats.imp_right fun repeats validator member => ?_
    rcases List.mem_filter.mp member with ⟨known, own⟩
    rcases repeats validator known with ⟨notPre, always⟩
    have passes : validator.Passes seen document value := by
      rcases passed with ⟨-, passed⟩ | ⟨-, stated, passed⟩
      · exact passed validator known own
      · exact passed validator known own (always own (by rw [stated]; rfl))
    simpa [BoundValidator.Passes, notPre] using passes

/--
The fields of a written record confirm its values.  The induction is on the fields that are
left; both coercions have seen the same values.
-/
theorem confirms_coerceFields
    (rereads : ∀ field ∈ fields, field.type.Rereads store mayFail)
    (repeats : mayFail ∨ ∀ validator ∈ validators, validator.options.pre = false ∧
      ∀ field ∈ fields, validator.checks field.name = true → field.default.isSome = true →
        validator.options.always = true)
    (distinct : (fields.map Field.name).Nodup)
    (fresh : ∀ field ∈ fields, seen.get? field.name = none)
    (given : (coerceFields store validators input path fields seen).Gives final)
    (clean : (coerceFields store validators input path fields seen).violations = [])
    (written : ∀ field ∈ fields,
      again.get? field.name = (final.get? field.name).map Value.toDocument) :
    (coerceFields store validators again inside fields seen).Confirms mayFail final := by
  induction fields generalizing seen with
  | nil => exact .inl (congrArg found (gives_found.mp given))
  | cons head rest ih =>
      rcases gives_coerceFields_cons.mp given with ⟨quietHere, givenLater⟩
      rcases clean_coerceFields_cons.mp clean with ⟨cleanHere, cleanLater⟩
      rcases List.nodup_cons.mp distinct with ⟨freshHead, restDistinct⟩
      have kept : final.get? head.name = (outcome store validators input path seen head).value :=
        Visits.get?_eq .here distinct (fresh head List.mem_cons_self) given
      have writtenHere := written head List.mem_cons_self
      rw [kept] at writtenHere
      have later : (coerceFields store validators again inside rest (seen.extend head.name
          (outcome store validators input path seen head).value)).Confirms mayFail final := by
        refine ih ?_ ?_ restDistinct ?_ givenLater cleanLater ?_
        · exact fun field member => rereads field (List.mem_cons_of_mem head member)
        · refine repeats.imp_right fun repeats validator known => ?_
          exact ⟨(repeats validator known).1, fun field member =>
            (repeats validator known).2 field (List.mem_cons_of_mem head member)⟩
        · intro field member
          rw [get?_extend_of_ne (name_ne_of_mem freshHead member)]
          exact fresh field (List.mem_cons_of_mem head member)
        · exact fun field member => written field (List.mem_cons_of_mem head member)
      cases here : (outcome store validators input path seen head).value with
      | some value =>
          rw [here] at writtenHere later
          refine confirms_coerceFields_cons ?_ later
          apply confirms_outcome (rereads head List.mem_cons_self) _ ⟨here, quietHere⟩ writtenHere
          exact repeats.imp_right fun repeats validator known =>
            ⟨(repeats validator known).1, (repeats validator known).2 head List.mem_cons_self⟩
      | none =>
          rw [here] at writtenHere later
          rcases leftOut_of_outcome here cleanHere quietHere with ⟨-, noDefault, optional⟩
          rw [coerceFields_cons, outcome_of_absent writtenHere noDefault, if_pos optional]
          exact later

end Field

namespace RecordType

theorem unexpected_eq_nil {type : RecordType} {path : DocPath} {input : NameMap Document}
    (named : ∀ name ∈ input.names, name ∈ type.fields.map Field.name) :
    type.unexpected path input = [] := by
  rw [unexpected, List.filterMap_eq_nil_iff]
  intro entry member
  rcases List.mem_map.mp (named entry.1 (List.mem_map_of_mem member)) with
    ⟨field, isField, same⟩
  have isNamed : (type.field? entry.1).isSome = true := by
    rw [field?, List.find?_isSome]
    exact ⟨field, isField, beq_of_eq same⟩
  exact if_pos isNamed

/-- The document of a record confirms the values of the record. -/
theorem confirms_instantiate {type : RecordType} {document : Document} {path : DocPath}
    {values : NameMap Value} (distinct : (type.fields.map Field.name).Nodup)
    (rereads : ∀ field ∈ type.fields, field.type.Rereads store mayFail)
    (repeats : mayFail ∨ type.RepeatsChecks)
    (given : (type.instantiate store document path).Gives values) (again : DocPath) :
    (type.instantiate store (.mapping (Value.toMapping values)) again).Confirms mayFail
      values := by
  rcases gives_instantiate given with ⟨entries, -, -, -, fields, clean, whole⟩
  have noneSeen : (NameMap.names ([] : NameMap Value)).Nodup := List.nodup_nil
  have namesDistinct := Field.nodup_names_of_coerceFields noneSeen fields
  have input := Mapping.byText_toMapping namesDistinct
  have noneUnexpected : type.unexpected again (Mapping.byText (Value.toMapping values)) = [] := by
    apply unexpected_eq_nil
    intro name known
    rw [input, NameMap.names_mapValues] at known
    exact Field.mem_names_of_coerceFields fields known
  have mapping : (Document.mapping (Value.toMapping values)).untagOnce.asMapping? =
      some (Value.toMapping values) := rfl
  have before : (BoundValidator.runRecordAll
      (type.recordValidators.filter fun validator => validator.options.pre)
      (Mapping.byText (Value.toMapping values)).raw again).Confirms mayFail () := by
    refine BoundValidator.confirms_runRecordAll again (repeats.imp_right ?_)
    intro repeats validator member
    rcases List.mem_filter.mp member with ⟨isRecord, pre⟩
    rw [(repeats validator (List.mem_filter.mp isRecord).1).1] at pre
    cases pre
  rw [instantiate_of_asMapping? _ _ mapping]
  apply confirms_closed
  · rw [noneUnexpected, List.nil_append]
    refine before.andThen ?_
    rw [input]
    refine Field.confirms_coerceFields rereads repeats distinct (fun _ _ => rfl) fields clean ?_
    intro field member
    rw [NameMap.get?_mapValues]
  · right
    intro validator member notPre
    exact BoundValidator.accepted_of_runRecordAll whole validator
      (List.mem_filter.mpr ⟨member, by simp [notPre]⟩)

end RecordType

/-! ## Types -/

namespace ValueType

/-- Types are reread, by induction on their parts. -/
theorem rereads_of_isRereadable {type : ValueType} (rereadable : type.IsRereadable mayFail) :
    type.Rereads store mayFail := by
  have plainThroughout {part : ValueType} (rereadable : part.IsRereadable mayFail) :
      part.Throughout fun part => part.isPlain = true :=
    rereadable.imp fun _ conditions => conditions.1.1
  induction rereadable with
  | @intro type own inside ih =>
  have plain := plainThroughout (.intro own inside)
  rcases own with ⟨⟨ownPlain, ownNames⟩, ownRepeats⟩
  intro document path value given again
  have notNull (isSolid : document.untagOnce.isNull = false) : value.isNull = false := by
    rw [Bool.eq_false_iff]
    intro isNull
    rw [Value.eq_null_of_isNull isNull] at given
    rw [isNull_untagOnce, isNull_of_gives_null plain given] at isSolid
    cases isSolid
  rw [coerce.eq_def] at given
  dsimp only at given
  split at given
  · exact absurd given not_gives_mismatch
  next solid =>
  cases type with
  | any =>
      rw [coerce_any, Value.untagOnce_toDocument, ← gives_found.mp given]
      exact .inl (congrArg found (Value.readsBack_ofDocument _))
  | bool strict =>
      rcases gives_map.mp given with ⟨flag, -, rfl⟩
      exact .inl (coerce_bool strict flag again)
  | int constraints =>
      rcases gives_andThen.mp given with ⟨word, -, checked⟩
      rcases gives_ofVerdict.mp checked with ⟨accepted, rfl⟩
      exact .inl (coerce_int again accepted)
  | float constraints =>
      rcases gives_andThen.mp given with ⟨number, -, checked⟩
      rcases gives_ofVerdict.mp checked with ⟨accepted, rfl⟩
      exact .inl (coerce_float again accepted)
  | text constraints =>
      rcases gives_andThen.mp given with ⟨text, -, checked⟩
      rcases gives_ofVerdict.mp checked with ⟨accepted, rfl⟩
      exact .inl (coerce_text again (constraints.normalize_normalize text) accepted)
  | path kind =>
      rcases gives_map.mp given with ⟨place, read, rfl⟩
      exact .inl (coerce_path again (gives_ofExcept.mp read))
  | literal options =>
      have isSolid : document.untagOnce.isNull = false := by simpa [acceptsNull] using solid
      dsimp only at given
      split at given
      · next chosen =>
        exact confirms_literal (gives_found.mp given) (notNull isSolid) chosen
          (ownRepeats.imp_right And.left) again
      · exact absurd given not_gives_mismatch
  | list item =>
      dsimp only at given
      split at given
      · exact absurd given not_gives_mismatch
      · rcases gives_map.mp given with ⟨values, collected, rfl⟩
        apply confirms_list
        intro value member
        rcases exists_gives_of_collected collected member with ⟨_, isOutcome, coerced⟩
        rcases List.mem_map.mp isOutcome with ⟨⟨inner, position⟩, -, rfl⟩
        exact ih item List.mem_cons_self inner _ value coerced
  | tuple items =>
      dsimp only at given
      split at given
      · exact absurd given not_gives_mismatch
      · split at given
        · next documents _ oneForEach =>
          rcases gives_map.mp given with ⟨values, collected, rfl⟩
          rcases gives_of_coerceEach oneForEach collected with ⟨sameLength, each⟩
          apply confirms_tuple (sameLength.trans oneForEach)
          intro position item value isItem isValue
          have isDocument := List.getElem?_eq_getElem
            (sameLength ▸ (List.getElem?_eq_some_iff.mp isValue).1)
          rcases each position item _ value isItem isDocument isValue with ⟨_, coerced⟩
          exact ih item (List.mem_of_getElem? isItem) _ _ value coerced
        · exact absurd given not_gives_mismatch
  | dict key value =>
      cases key with
      | text constraints =>
          dsimp only at given
          split at given
          · exact absurd given not_gives_mismatch
          · rcases gives_map.mp given with ⟨found, collected, rfl⟩
            apply confirms_dict ownPlain (NameMap.nodup_names_ofEntries found)
            intro entry member
            rcases exists_gives_of_collected collected (NameMap.mem_of_mem_ofEntries member) with
              ⟨_, isOutcome, coerced⟩
            rcases List.mem_map.mp isOutcome with ⟨original, -, rfl⟩
            rcases gives_map.mp coerced with ⟨⟨name, inner⟩, both, rfl⟩
            exact ih value (by simp [parts]) _ _ inner (gives_both.mp both).2
      | _ => cases ownPlain
  | optional inner =>
      dsimp only at given
      split at given
      · rw [← gives_found.mp given]
        exact .inl (coerce_optional_null inner again)
      · next present =>
        rw [coerce_optional (notNull (by simpa using present))]
        exact ih inner List.mem_cons_self _ path value given again
  | unit label base =>
      have isSolid : document.untagOnce.isNull = false := by simpa [acceptsNull] using solid
      rw [coerce_unit (notNull isSolid)]
      exact ih base List.mem_cons_self _ path value given again
  | record type =>
      dsimp only at given
      split at given
      · exact absurd given not_gives_mismatch
      · rcases gives_map.mp given with ⟨values, instantiated, rfl⟩
        rw [coerce_record]
        apply Confirms.map
        refine RecordType.confirms_instantiate ownNames ?_
          (ownRepeats.imp_right And.right) instantiated again
        exact fun field member => ih field.type (List.mem_map_of_mem member)
  | union choices => cases ownPlain
  | custom type => cases ownPlain

end ValueType

end RuleSchema
