import RuleSchema.Proofs.Chains
import RuleSchema.Proofs.Level.Closing
import RuleSchema.Proofs.NameMap
import RuleSchema.Proofs.Types.Conformance
import RuleSchema.Proofs.Types.Explained
import RuleSchema.Value.Instance

/-!
# What is accepted satisfies the rules

Coercion that gives a value gives one that the type accepts for the document.  Along the
fields of a record, the invariant is that the values so far are those of the fields before,
in their order; it needs that no two fields have one name, as in every level that closes.
-/

namespace RuleSchema

open Outcome

variable {store : FileStore}

/-- Whether a type accepts every value that coercion to it gives. -/
def ValueType.IsSound (store : FileStore) (type : ValueType) : Prop :=
  ∀ document path value, (type.coerce store document path).Gives value →
    type.Accepts store document value

/-! ## Validators -/

namespace BoundValidator

@[simp]
theorem gives_report {path : DocPath} {value : Option Value} {verdict : Verdict} :
    (report path value verdict).Gives () ↔ verdict = .accepted := by
  cases verdict <;> simp [report]

theorem accepted_of_runField {validator : BoundValidator} {values : NameMap Value}
    {path : DocPath} {value : Value}
    (given : (validator.runField values path value).Gives ()) :
    ∀ subject ∈ validator.subjects value, validator.call (some subject) values = .accepted := by
  intro subject member
  unfold runField at given
  unfold subjects at member
  split at given
  · next items each =>
    simp only [each] at member
    rcases gives_map.mp given with ⟨units, collected, -⟩
    rcases List.mem_iff_getElem?.mp member with ⟨position, here⟩
    have visited : (subject, position) ∈ items.zipIdx :=
      List.mk_mem_zipIdx_iff_getElem?.mpr here
    rcases exists_gives_of_mem collected (List.mem_map_of_mem visited) with ⟨_, accepted⟩
    exact gives_report.mp accepted
  · next entries each =>
    simp only [each] at member
    rcases gives_map.mp given with ⟨units, collected, -⟩
    rcases List.mem_map.mp member with ⟨entry, isEntry, rfl⟩
    rcases exists_gives_of_mem collected (List.mem_map_of_mem isEntry) with ⟨_, accepted⟩
    exact gives_report.mp accepted
  · next checked _ _ noList noMap =>
    have whole : subject = checked := by
      split at member
      · next items each => exact absurd rfl (noList items each)
      · next entries each => exact absurd rfl (noMap entries each)
      · exact List.mem_singleton.mp member
    rw [whole]
    exact gives_report.mp given

theorem accepted_of_runFieldAll {validators : List BoundValidator} {values : NameMap Value}
    {path : DocPath} {value : Value}
    (given : (runFieldAll validators values path value).Gives ()) :
    ∀ validator ∈ validators, ∀ subject ∈ validator.subjects value,
      validator.call (some subject) values = .accepted := by
  intro validator member
  rcases gives_map.mp given with ⟨units, collected, -⟩
  rcases exists_gives_of_mem collected (List.mem_map_of_mem member) with ⟨_, accepted⟩
  exact accepted_of_runField accepted

theorem accepted_of_runRecordAll {validators : List BoundValidator} {values : NameMap Value}
    {path : DocPath} (given : (runRecordAll validators values path).Gives ()) :
    ∀ validator ∈ validators, validator.call none values = .accepted := by
  intro validator member
  rcases gives_map.mp given with ⟨units, collected, -⟩
  rcases exists_gives_of_mem collected (List.mem_map_of_mem member) with ⟨_, accepted⟩
  exact gives_report.mp accepted

end BoundValidator

/-! ## Fields -/

namespace Field

/-- The value of a field is coerced, and every validator that runs passes. -/
theorem gives_checked {validators : List BoundValidator} {coerce : Document → Outcome Value}
    {values : NameMap Value} {path : DocPath} {document : Document} {value : Value}
    (given : (checked validators coerce values path document).Gives value) :
    (coerce document).Gives value ∧
      ∀ validator ∈ validators, validator.Passes values document value := by
  rcases gives_andThen.mp given with ⟨_, before, rest⟩
  rcases gives_andThen.mp rest with ⟨coerced, coercion, final⟩
  rcases gives_map.mp final with ⟨_, after, rfl⟩
  refine ⟨coercion, ?_⟩
  intro validator member
  cases pre : validator.options.pre with
  | true =>
      have early : validator ∈ validators.filter fun validator => validator.options.pre :=
        List.mem_filter.mpr ⟨member, pre⟩
      simpa [BoundValidator.Passes, pre] using
        BoundValidator.accepted_of_runFieldAll before validator early
  | false =>
      have late : validator ∈ validators.filter fun validator => !validator.options.pre :=
        List.mem_filter.mpr ⟨member, by simp [pre]⟩
      simpa [BoundValidator.Passes, pre] using
        BoundValidator.accepted_of_runFieldAll after validator late

/-- The value of a field comes from the input, or from the default where there is no input. -/
theorem gives_outcome {validators : List BoundValidator} {input : NameMap Document}
    {path : DocPath} {seen : NameMap Value} {field : Field} {value : Value}
    (given : (outcome store validators input path seen field).Gives value) :
    ∃ document inside, (field.type.coerce store document inside).Gives value ∧
      (input.get? field.name = some document ∧
          (∀ validator ∈ validators, validator.checks field.name = true →
            validator.Passes seen document value) ∨
        input.get? field.name = none ∧ field.default = some document ∧
          ∀ validator ∈ validators, validator.checks field.name = true →
            validator.options.always = true → validator.Passes seen document value) := by
  cases present : input.get? field.name with
  | some document =>
      rw [outcome_of_present present] at given
      rcases gives_checked given with ⟨coerced, passed⟩
      refine ⟨document, _, coerced, .inl ⟨rfl, ?_⟩⟩
      intro validator member own
      exact passed validator (List.mem_filter.mpr ⟨member, own⟩)
  | none =>
      cases stated : field.default with
      | some document =>
          rw [outcome_of_default present stated] at given
          rcases gives_checked given with ⟨coerced, passed⟩
          refine ⟨document, _, coerced, .inr ⟨rfl, rfl, ?_⟩⟩
          intro validator member own always
          exact passed validator
            (List.mem_filter.mpr ⟨List.mem_filter.mpr ⟨member, own⟩, always⟩)
      | none =>
          rw [outcome_of_absent present stated] at given
          split at given
          · cases given.1
          · exact absurd given not_gives_violated

/-- A field without a value, of which nothing is reported, may be left out. -/
theorem leftOut_of_outcome {validators : List BoundValidator} {input : NameMap Document}
    {path : DocPath} {seen : NameMap Value} {field : Field}
    (missing : (outcome store validators input path seen field).value = none)
    (clean : (outcome store validators input path seen field).violations = [])
    (quiet : (outcome store validators input path seen field).overflow = false) :
    input.get? field.name = none ∧ field.default = none ∧ field.optional = true := by
  have explained (own : List BoundValidator) (document : Document) :
      (checked own (fun raw => field.type.coerce store raw (path.child (.key field.name))) seen
        (path.child (.key field.name)) document).Explained :=
    explained_checked fun raw => ValueType.explained_coerce field.type raw _
  cases present : input.get? field.name with
  | some document =>
      rw [outcome_of_present present] at missing clean quiet
      rcases explained _ document clean quiet with ⟨value, found⟩
      rw [missing] at found
      cases found
  | none =>
      cases stated : field.default with
      | some document =>
          rw [outcome_of_default present stated] at missing clean quiet
          rcases explained _ document clean quiet with ⟨value, found⟩
          rw [missing] at found
          cases found
      | none =>
          rw [outcome_of_absent present stated] at clean
          split at clean
          · next optional => exact ⟨rfl, rfl, optional⟩
          · cases clean

/-- A field at which nothing is reported has a value that it accepts, or may go without. -/
theorem accepts_of_outcome {validators : List BoundValidator} {input : NameMap Document}
    {path : DocPath} {seen : NameMap Value} {field : Field}
    (sound : field.type.IsSound store)
    (clean : (outcome store validators input path seen field).violations = [])
    (quiet : (outcome store validators input path seen field).overflow = false) :
    Accepts store validators input seen field
      (outcome store validators input path seen field).value := by
  cases found : (outcome store validators input path seen field).value with
  | some value =>
      rcases gives_outcome ⟨found, quiet⟩ with
        ⟨document, inside, coerced, ⟨present, passed⟩ | ⟨absent, stated, passed⟩⟩
      · exact .given present (sound document inside value coerced) passed
      · exact .default absent stated (sound document inside value coerced) passed
  | none =>
      rcases leftOut_of_outcome found clean quiet with ⟨absent, noDefault, optional⟩
      exact .leftOut absent noDefault optional

theorem among_cons_of_fresh {values : NameMap Value} {head : Field} {fields : List Field}
    (fresh : head.name ∉ values.names) : values.among (head :: fields) = values.among fields := by
  apply List.filter_congr
  intro entry member
  have different : entry.1 ≠ head.name := by
    intro same
    exact fresh (same ▸ List.mem_map_of_mem member)
  simp [different]

/-- Fields accept the values that there are for them, which are in the order of the fields. -/
structure AcceptEach (store : FileStore) (validators : List BoundValidator)
    (input : NameMap Document) (seen : NameMap Value) (fields : List Field)
    (values : NameMap Value) : Prop where
  ordered : values.names.Sublist (fields.map Field.name)
  accepted : ∀ before field after, fields = before ++ field :: after →
    Accepts store validators input (seen ++ values.among before) field (values.get? field.name)

namespace AcceptEach

variable {validators : List BoundValidator} {input : NameMap Document}
  {seen values : NameMap Value} {head : Field} {rest : List Field} {value : Value}

theorem fresh (each : AcceptEach store validators input seen rest values)
    (distinct : head.name ∉ rest.map Field.name) : head.name ∉ values.names :=
  fun known => distinct (each.ordered.subset known)

/-- A field without a value comes before fields with theirs. -/
theorem leaveOut (each : AcceptEach store validators input seen rest values)
    (distinct : head.name ∉ rest.map Field.name)
    (here : Accepts store validators input seen head none) :
    AcceptEach store validators input seen (head :: rest) values := by
  refine ⟨each.ordered.cons head.name, ?_⟩
  intro before field after split
  cases before with
  | nil =>
      rcases List.cons.inj split with ⟨rfl, -⟩
      have noneBefore : values.among [] = [] := by simp [NameMap.among]
      rw [noneBefore, List.append_nil, NameMap.get?_eq_none (each.fresh distinct)]
      exact here
  | cons first before =>
      rcases List.cons.inj split with ⟨rfl, splitRest⟩
      rw [among_cons_of_fresh (each.fresh distinct)]
      exact each.accepted before field after splitRest

/-- A field with a value comes before fields that see this value. -/
theorem take (each : AcceptEach store validators input (seen ++ [(head.name, value)]) rest values)
    (distinct : head.name ∉ rest.map Field.name)
    (here : Accepts store validators input seen head (some value)) :
    AcceptEach store validators input seen (head :: rest) ((head.name, value) :: values) := by
  refine ⟨each.ordered.cons_cons head.name, ?_⟩
  intro before field after split
  cases before with
  | nil =>
      rcases List.cons.inj split with ⟨rfl, -⟩
      have noneBefore : NameMap.among ((head.name, value) :: values) [] = [] := by
        simp [NameMap.among]
      rw [noneBefore, List.append_nil, NameMap.get?_cons_self]
      exact here
  | cons first before =>
      rcases List.cons.inj split with ⟨rfl, splitRest⟩
      have inRest : field.name ∈ rest.map Field.name := by
        rw [splitRest]
        simp
      have different : head.name ≠ field.name := fun same => distinct (same ▸ inRest)
      have headBefore : NameMap.among ((head.name, value) :: values) (head :: before) =
          (head.name, value) :: values.among before := by
        rw [← among_cons_of_fresh (each.fresh distinct)]
        simp [NameMap.among]
      have later := each.accepted before field after splitRest
      rw [List.append_assoc] at later
      rw [headBefore, NameMap.get?_cons_of_ne different]
      exact later

end AcceptEach

theorem gives_coerceFields_cons {validators : List BoundValidator} {input : NameMap Document}
    {path : DocPath} {head : Field} {rest : List Field} {seen final : NameMap Value} :
    (coerceFields store validators input path (head :: rest) seen).Gives final ↔
      (outcome store validators input path seen head).overflow = false ∧
        (coerceFields store validators input path rest (seen.extend head.name
          (outcome store validators input path seen head).value)).Gives final := by
  rw [coerceFields_cons]
  simp only [Gives, Bool.or_eq_false_iff]
  exact and_left_comm

theorem clean_coerceFields_cons {validators : List BoundValidator} {input : NameMap Document}
    {path : DocPath} {head : Field} {rest : List Field} {seen : NameMap Value} :
    (coerceFields store validators input path (head :: rest) seen).violations = [] ↔
      (outcome store validators input path seen head).violations = [] ∧
        (coerceFields store validators input path rest (seen.extend head.name
          (outcome store validators input path seen head).value)).violations = [] := by
  rw [coerceFields_cons]
  exact List.append_eq_nil_iff

/--
Coercion of fields appends to the values seen so far those of the fields, each of which
accepts what there is for it.  The induction is on the fields that are left.
-/
theorem acceptEach_of_coerceFields {validators : List BoundValidator}
    {input : NameMap Document} {path : DocPath} {fields : List Field}
    {seen final : NameMap Value}
    (sound : ∀ field ∈ fields, field.type.IsSound store)
    (distinct : (seen.names ++ fields.map Field.name).Nodup)
    (given : (coerceFields store validators input path fields seen).Gives final)
    (clean : (coerceFields store validators input path fields seen).violations = []) :
    ∃ values, final = seen ++ values ∧
      AcceptEach store validators input seen fields values := by
  induction fields generalizing seen with
  | nil =>
      have none : seen = final := gives_found.mp given
      refine ⟨[], by rw [none, List.append_nil], .slnil, ?_⟩
      intro before field after split
      simp at split
  | cons head rest ih =>
      rcases gives_coerceFields_cons.mp given with ⟨quietHere, givenLater⟩
      rcases clean_coerceFields_cons.mp clean with ⟨cleanHere, cleanLater⟩
      have here := accepts_of_outcome (sound head List.mem_cons_self) cleanHere quietHere
      have soundLater := fun field member => sound field (List.mem_cons_of_mem head member)
      have shifted : seen.names ++ head.name :: rest.map Field.name =
          (seen.names ++ [head.name]) ++ rest.map Field.name := by simp
      have freshRest : head.name ∉ rest.map Field.name :=
        (List.nodup_cons.mp (List.nodup_append.mp distinct).2.1).1
      have freshSeen : head.name ∉ seen.names := by
        intro known
        exact (List.nodup_append.mp distinct).2.2 _ known _ List.mem_cons_self rfl
      cases found : (outcome store validators input path seen head).value with
      | none =>
          rw [found] at here givenLater cleanLater
          have distinctLater : (seen.names ++ rest.map Field.name).Nodup :=
            distinct.sublist ((List.sublist_cons_self _ _).append_left _)
          rcases ih soundLater distinctLater givenLater cleanLater with
            ⟨values, joined, each⟩
          exact ⟨values, joined, each.leaveOut freshRest here⟩
      | some value =>
          rw [found] at here givenLater cleanLater
          have extended : seen.extend head.name (some value) = seen ++ [(head.name, value)] :=
            NameMap.insert_of_fresh freshSeen
          rw [extended] at givenLater cleanLater
          have distinctLater :
              (NameMap.names (seen ++ [(head.name, value)]) ++ rest.map Field.name).Nodup := by
            rw [NameMap.names, List.map_append]
            exact shifted ▸ distinct
          rcases ih soundLater distinctLater givenLater cleanLater with
            ⟨values, joined, each⟩
          refine ⟨(head.name, value) :: values, ?_, each.take freshRest here⟩
          rw [joined, List.append_assoc]
          rfl

end Field

/-! ## Records -/

namespace RecordType

theorem gives_closed {validators : List BoundValidator} {path : DocPath}
    {fields : Outcome (NameMap Value)} {values : NameMap Value} :
    (closed validators path fields).Gives values ↔
      fields.violations = [] ∧ fields.Gives values ∧
        (BoundValidator.runRecordAll (validators.filter fun validator => !validator.options.pre)
          values path).Gives () := by
  rw [closed]
  split
  · next clean =>
    rw [List.isEmpty_iff] at clean
    rw [gives_andThen]
    constructor
    · rintro ⟨found, given, checked⟩
      rcases gives_map.mp checked with ⟨_, accepted, rfl⟩
      exact ⟨clean, given, accepted⟩
    · rintro ⟨-, given, accepted⟩
      exact ⟨values, given, gives_map.mpr ⟨(), accepted, rfl⟩⟩
  · next violated =>
    rw [List.isEmpty_iff] at violated
    simp [Gives, violated]

/-- Where no key is unexpected, every key names a field. -/
theorem exists_field_of_unexpected {type : RecordType} {path : DocPath} {entries : Mapping}
    (none : type.unexpected path entries.byText = []) :
    ∀ entry ∈ entries, ∃ field ∈ type.fields, field.name = entry.1.keyText := by
  intro entry member
  have known : entry.1.keyText ∈ NameMap.names entries.byText := by
    rw [Mapping.byText, NameMap.mem_names_ofEntries, NameMap.names, List.map_map, List.mem_map]
    exact ⟨entry, member, rfl⟩
  rcases NameMap.mem_names_iff.mp known with ⟨document, found⟩
  have silent := List.filterMap_eq_nil_iff.mp none _ (NameMap.mem_of_get? found)
  cases named : type.field? entry.1.keyText with
  | none => simp [named] at silent
  | some field =>
      rw [field?] at named
      have same := List.find?_some named
      exact ⟨field, List.mem_of_find?_eq_some named, eq_of_beq same⟩

/-- What instantiation went through when it gave values. -/
theorem gives_instantiate {type : RecordType} {document : Document} {path : DocPath}
    {values : NameMap Value} (given : (type.instantiate store document path).Gives values) :
    ∃ entries, document.untagOnce.asMapping? = some entries ∧
      type.unexpected path entries.byText = [] ∧
      (BoundValidator.runRecordAll
        (type.recordValidators.filter fun validator => validator.options.pre)
        entries.byText.raw path).Gives () ∧
      (Field.coerceFields store type.validators entries.byText path type.fields []).Gives values ∧
      (Field.coerceFields store type.validators entries.byText path type.fields []).violations =
        [] ∧
      (BoundValidator.runRecordAll
        (type.recordValidators.filter fun validator => !validator.options.pre)
        values path).Gives () := by
  cases mapping : document.untagOnce.asMapping? with
  | none =>
      rw [instantiate_of_not_mapping _ _ mapping] at given
      exact absurd given not_gives_mismatch
  | some entries =>
      rw [instantiate_of_asMapping? _ _ mapping] at given
      rcases gives_closed.mp given with ⟨clean, coerced, whole⟩
      rcases gives_andThen.mp coerced with ⟨⟨⟩, opened, fields⟩
      rw [andThen_of_value opened.1] at clean
      rcases List.append_eq_nil_iff.mp clean with ⟨openedClean, fieldsClean⟩
      rcases List.append_eq_nil_iff.mp openedClean with ⟨noneUnexpected, -⟩
      exact ⟨entries, rfl, noneUnexpected, opened, fields, fieldsClean, whole⟩

/-- Values that instantiation gives are accepted, if the values of the fields are. -/
theorem accepts_of_instantiate {type : RecordType} {document : Document} {path : DocPath}
    {values : NameMap Value} (distinct : (type.fields.map Field.name).Nodup)
    (sound : ∀ field ∈ type.fields, field.type.IsSound store)
    (given : (type.instantiate store document path).Gives values) :
    type.Accepts store document values := by
  rcases gives_instantiate given with
    ⟨entries, mapping, noneUnexpected, opened, fields, clean, whole⟩
  have noneSeen : (NameMap.names ([] : NameMap Value) ++ type.fields.map Field.name).Nodup :=
    distinct
  rcases Field.acceptEach_of_coerceFields sound noneSeen fields clean with ⟨own, rfl, each⟩
  refine .intro mapping (exists_field_of_unexpected noneUnexpected) each.ordered
    each.accepted ?_ ?_
  · intro validator member pre
    exact BoundValidator.accepted_of_runRecordAll opened validator
      (List.mem_filter.mpr ⟨member, pre⟩)
  · intro validator member notPre
    exact BoundValidator.accepted_of_runRecordAll whole validator
      (List.mem_filter.mpr ⟨member, by simp [notPre]⟩)

end RecordType

/-! ## Types -/

namespace ValueType

theorem gives_of_coerceEach {types : List ValueType} {path : DocPath} {start : Nat}
    {documents : List Document} {values : List Value} (sameLength : documents.length = types.length)
    (given : (coerceEach store path start types documents).Gives values) :
    values.length = documents.length ∧
      ∀ (position : Nat) type document value, types[position]? = some type →
        documents[position]? = some document → values[position]? = some value →
          ∃ inside, (type.coerce store document inside).Gives value := by
  induction types generalizing start documents values with
  | nil =>
      have noDocuments := List.eq_nil_of_length_eq_zero sameLength
      subst noDocuments
      have noValues : [] = values := gives_found.mp given
      subst noValues
      simp
  | cons type rest ih =>
      cases documents with
      | nil => cases sameLength
      | cons head others =>
          rw [coerceEach] at given
          rcases gives_map.mp given with ⟨⟨first, later⟩, both, rfl⟩
          rcases gives_both.mp both with ⟨here, givenLater⟩
          rcases ih (Nat.succ.inj sameLength) givenLater with ⟨lengthLater, each⟩
          constructor
          · rw [List.length_cons, List.length_cons, lengthLater]
          · intro position part document value isType isDocument isValue
            cases position with
            | zero =>
                rw [List.getElem?_cons_zero, Option.some.injEq] at isType isDocument isValue
                subst isType isDocument isValue
                exact ⟨_, here⟩
            | succ position =>
                rw [List.getElem?_cons_succ] at isType isDocument isValue
                exact each position part document value isType isDocument isValue

/-- The value of the first type that fits comes from one of the types. -/
theorem exists_gives_of_coerceFirst {document : Document} {path : DocPath}
    {types : List ValueType} {value : Value}
    (found : coerceFirst store document path types = (some value, false)) :
    ∃ type ∈ types, (type.coerce store document path).Gives value := by
  induction types with
  | nil => cases found
  | cons type rest ih =>
      rw [coerceFirst] at found
      cases attempt : (type.coerce store document path).value with
      | some first =>
          simp only [attempt, Prod.mk.injEq, Option.some.injEq] at found
          exact ⟨type, List.mem_cons_self, by rw [attempt, found.1], found.2⟩
      | none =>
          simp only [attempt, Prod.mk.injEq, Bool.or_eq_false_iff] at found
          rcases ih (Prod.ext found.1 found.2.2) with ⟨other, member, given⟩
          exact ⟨other, List.mem_cons_of_mem _ member, given⟩

theorem accepts_list {item : ValueType} (sound : item.IsSound store) {document : Document}
    {documents : List Document} {path : DocPath} {values : List Value}
    (sequence : document.untagOnce.asSequence? = some documents)
    (collected : (collect (documents.zipIdx.map fun (inner, position) =>
      item.coerce store inner (path.child (.index position)))).Gives values) :
    (ValueType.list item).Accepts store document (.list values) := by
  rcases gives_of_collect collected with ⟨sameLength, each⟩
  refine .list sequence (by simpa using sameLength) ?_
  intro position inner value isDocument isValue
  have coerced : (item.coerce store inner (path.child (.index position))).Gives value := by
    apply each position _ value _ isValue
    rw [List.getElem?_map, List.getElem?_zipIdx, isDocument, Nat.zero_add]
    rfl
  exact sound inner _ value coerced

theorem accepts_tuple {items : List ValueType} (sound : ∀ item ∈ items, item.IsSound store)
    {document : Document} {documents : List Document} {path : DocPath} {start : Nat}
    {values : List Value} (sequence : document.untagOnce.asSequence? = some documents)
    (oneForEach : documents.length = items.length)
    (collected : (coerceEach store path start items documents).Gives values) :
    (ValueType.tuple items).Accepts store document (.list values) := by
  rcases gives_of_coerceEach oneForEach collected with ⟨sameLength, each⟩
  refine .tuple sequence oneForEach sameLength ?_
  intro position item inner value isItem isDocument isValue
  rcases each position item inner value isItem isDocument isValue with ⟨_, coerced⟩
  exact sound item (List.mem_of_getElem? isItem) inner _ value coerced

theorem accepts_dict {key value : ValueType} (soundKey : key.IsSound store)
    (sound : value.IsSound store) {document : Document} {entries : Mapping} {path : DocPath}
    {found : List (String × Value)} (mapping : document.untagOnce.asMapping? = some entries)
    (collected : (collect (entries.map fun entry =>
      (both (key.coerce store entry.1 (path.child (PathKey.ofDocument entry.1)))
        (value.coerce store entry.2 (path.child (PathKey.ofDocument entry.1)))).map
          fun (name, inner) => (name.keyText, inner))).Gives found) :
    (ValueType.dict key value).Accepts store document (.map (NameMap.ofEntries found)) := by
  rcases gives_of_collect_both collected with ⟨names, values, rfl, givenNames, givenValues⟩
  rcases gives_of_collect givenNames with ⟨sameNames, eachName⟩
  rcases gives_of_collect givenValues with ⟨sameLength, each⟩
  have paired : (names.zip values).map (fun pair => (pair.1.keyText, pair.2)) =
      (names.map Value.keyText).zip values := by
    rw [List.zip_map_left]
    rfl
  rw [paired]
  refine .dict mapping (by simpa using sameNames) (by simpa using sameLength) ?_ ?_
  · intro position entry name isEntry isName
    have coerced : (key.coerce store entry.1
        (path.child (PathKey.ofDocument entry.1))).Gives name := by
      apply eachName position _ name _ isName
      rw [List.getElem?_map, isEntry, Option.map_some]
    exact soundKey entry.1 _ name coerced
  · intro position entry inner isEntry isInner
    have coerced : (value.coerce store entry.2
        (path.child (PathKey.ofDocument entry.1))).Gives inner := by
      apply each position _ inner _ isInner
      rw [List.getElem?_map, isEntry, Option.map_some]
    exact sound entry.2 _ inner coerced

/-- A value that coercion gives is accepted by the type, by induction on the parts of types. -/
theorem isSound_of_isClosed {type : ValueType} (closed : type.IsClosed) : type.IsSound store := by
  induction closed with
  | @intro type own inside ih =>
  intro document path value given
  rw [coerce.eq_def] at given
  dsimp only at given
  split at given
  · exact absurd given not_gives_mismatch
  cases type with
  | any =>
      rw [← gives_found.mp given]
      exact .any
  | bool strict =>
      rcases gives_map.mp given with ⟨flag, read, rfl⟩
      exact .bool (gives_ofExcept.mp read)
  | int constraints =>
      rcases gives_andThen.mp given with ⟨word, read, checked⟩
      rcases gives_ofVerdict.mp checked with ⟨accepted, rfl⟩
      exact .int (gives_ofExcept.mp read) (IntConstraints.allows_of_check accepted)
  | float constraints =>
      rcases gives_andThen.mp given with ⟨number, read, checked⟩
      rcases gives_ofVerdict.mp checked with ⟨accepted, rfl⟩
      exact .float (gives_ofExcept.mp read) accepted
  | text constraints =>
      rcases gives_andThen.mp given with ⟨text, read, checked⟩
      rcases gives_ofVerdict.mp checked with ⟨accepted, rfl⟩
      exact .text (gives_ofExcept.mp read) (TextConstraints.allows_of_check accepted)
  | path kind =>
      rcases gives_map.mp given with ⟨place, read, rfl⟩
      exact .path (gives_ofExcept.mp read)
  | literal options =>
      dsimp only at given
      split at given
      · next permitted =>
        rcases List.any_eq_true.mp permitted with ⟨option, member, chosen⟩
        rw [← gives_found.mp given]
        exact .literal member chosen
      · exact absurd given not_gives_mismatch
  | list item =>
      dsimp only at given
      split at given
      · exact absurd given not_gives_mismatch
      · next documents sequence =>
        rcases gives_map.mp given with ⟨values, collected, rfl⟩
        exact accepts_list (ih item List.mem_cons_self) sequence collected
  | tuple items =>
      dsimp only at given
      split at given
      · exact absurd given not_gives_mismatch
      · next documents sequence =>
        split at given
        · next oneForEach =>
          rcases gives_map.mp given with ⟨values, collected, rfl⟩
          exact accepts_tuple ih sequence oneForEach collected
        · exact absurd given not_gives_mismatch
  | dict key value =>
      dsimp only at given
      split at given
      · exact absurd given not_gives_mismatch
      · next entries mapping =>
        rcases gives_map.mp given with ⟨found, collected, rfl⟩
        exact
          accepts_dict (ih key List.mem_cons_self)
            (ih value (List.mem_cons_of_mem _ List.mem_cons_self)) mapping collected
  | optional inner =>
      dsimp only at given
      split at given
      · next absent =>
        rw [← gives_found.mp given]
        exact .null absent
      · exact .present (ih inner List.mem_cons_self _ path value given)
  | union choices =>
      dsimp only at given
      split at given
      · next first found =>
        rcases given with ⟨same, quiet⟩
        rw [Option.some.injEq] at same
        rw [same] at found
        rcases exists_gives_of_coerceFirst (Prod.ext found quiet) with ⟨choice, member, coerced⟩
        exact .union member (ih choice member _ path value coerced)
      · rcases given with ⟨none, -⟩
        cases none
  | unit label base => exact .unit (ih base List.mem_cons_self _ path value given)
  | record type =>
      dsimp only at given
      split at given
      · exact absurd given not_gives_mismatch
      · rcases gives_map.mp given with ⟨values, instantiated, rfl⟩
        rcases own type rfl with ⟨hint, level, bases, path, closed⟩
        have sound : ∀ field ∈ type.fields, field.type.IsSound store :=
          fun field member => ih field.type (List.mem_map_of_mem member)
        exact
          .record (RecordType.accepts_of_instantiate (Level.nodup_fields_of_close closed) sound
            instantiated)
  | custom type => exact .custom (gives_ofExcept.mp given)

end ValueType

/-! ## Validation -/

namespace RecordType

theorem gives_of_validate {type : RecordType} {document : Document} {record : Instance}
    (validated : type.validate store document = .ok record) :
    record.type = type ∧ (type.instantiate store document []).Gives record.values := by
  rw [validate] at validated
  split at validated
  · cases validated
  · next quiet =>
    rw [Bool.not_eq_true] at quiet
    split at validated
    · next values found _ =>
      cases validated
      exact ⟨rfl, found, quiet⟩
    · cases validated

/-- An accepted document has values that satisfy the rules at every depth. -/
theorem accepts_of_validate (store : FileStore) (type : RecordType) (document : Document)
    (record : Instance) (closed : (ValueType.record type).IsClosed)
    (validated : type.validate store document = .ok record) :
    record.type = type ∧ type.Accepts store document record.values := by
  rcases gives_of_validate validated with ⟨same, given⟩
  rcases closed with ⟨own, inside⟩
  rcases own type rfl with ⟨hint, level, bases, path, closes⟩
  have sound : ∀ field ∈ type.fields, field.type.IsSound store := by
    intro field member
    exact ValueType.isSound_of_isClosed (inside field.type (List.mem_map_of_mem member))
  exact ⟨same, accepts_of_instantiate (Level.nodup_fields_of_close closes) sound given⟩

/-- A range whose end has a default, which a validator checks against its start. -/
def rangeLevel : Level where
  fields :=
    [ ("least", .plain (.int { atLeast := some 0 })),
      ("most",
        { FieldSpec.plain (.int {}) with
          default := some (.ofInt64 9)
          validators :=
            [ { name := "after"
                run := fun call =>
                  if call.values.has "least" then .accepted else .rejected "no start"
                target := .field "most"
                params := []
                options := { always := true } } ] }) ]
  validators := []

/-- The record type of a range. -/
def rangeType : RecordType where
  name := "range_t"
  fields := rangeLevel.fields.map fun field => field.2.named field.1
  validators := rangeLevel.declared
  bases := []

/-- A name, which may be absent, and ranges. -/
def rangesLevel : Level where
  fields :=
    [ ("name", { FieldSpec.plain (.text { minLength := some 1 }) with optional := true }),
      ("ranges", .plain (.list (.record rangeType))) ]
  validators := []

/-- The record type of named ranges. -/
def rangesType : RecordType where
  name := "ranges_t"
  fields := rangesLevel.fields.map fun field => field.2.named field.1
  validators := []
  bases := []

theorem isClosed_rangesType : (ValueType.record rangesType).IsClosed := by
  have rangeCloses : Level.close "range" rangeLevel [] [] = .ok rangeType := rfl
  have rangesCloses : Level.close "ranges" rangesLevel [] [] = .ok rangesType := rfl
  have range : (ValueType.record rangeType).IsClosed := by
    apply ValueType.IsClosed.record rangeCloses
    intro field member
    simp only [rangeType, rangeLevel, List.map_cons, List.map_nil, List.mem_cons,
      List.not_mem_nil, or_false] at member
    rcases member with rfl | rfl
    · exact .scalar rfl rfl
    · exact .scalar rfl rfl
  apply ValueType.IsClosed.record rangesCloses
  intro field member
  simp only [rangesType, rangesLevel, List.map_cons, List.map_nil, List.mem_cons,
    List.not_mem_nil, or_false] at member
  rcases member with rfl | rfl
  · exact .scalar rfl rfl
  · refine .intro (fun _ same => nomatch same) ?_
    intro part isPart
    rw [List.mem_singleton.mp isPart]
    exact range

theorem accepts_of_validate_ranges :
    ∃ record,
      rangesType.validate .empty (.mapping [(.string "ranges",
        .sequence [.mapping [(.string "least", .ofInt64 3)]])]) = .ok record ∧
      record.type = rangesType ∧
      rangesType.Accepts .empty (.mapping [(.string "ranges",
        .sequence [.mapping [(.string "least", .ofInt64 3)]])]) record.values := by
  have valid : (rangesType.validate .empty (.mapping [(.string "ranges",
      .sequence [.mapping [(.string "least", .ofInt64 3)]])])).isOk = true := by
    decide +kernel
  rcases exists_of_isOk valid with ⟨record, validated⟩
  exact ⟨record, validated, accepts_of_validate _ _ _ record isClosed_rangesType validated⟩

end RecordType

end RuleSchema
