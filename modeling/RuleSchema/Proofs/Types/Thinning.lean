import RuleSchema.Proofs.Types.Values

/-!
# Records with fewer fields

A record type without validators gives the same values when it loses fields that are absent,
and when other fields change to such that have the same value.
-/

namespace RuleSchema

/-- A list that lost some elements, and of which others changed. -/
inductive Thinned {α : Type} (kept : α → α → Prop) (dropped : α → Prop) :
    List α → List α → Prop where
  | nil : Thinned kept dropped [] []
  | keep {first second : α} {rest others : List α} (here : kept first second)
      (later : Thinned kept dropped rest others) :
      Thinned kept dropped (first :: rest) (second :: others)
  | drop {first : α} {rest others : List α} (here : dropped first)
      (later : Thinned kept dropped rest others) : Thinned kept dropped (first :: rest) others

namespace Thinned

variable {α β : Type} {kept : α → α → Prop} {dropped : α → Prop}
  {first second third fourth : List α}

theorem append (before : Thinned kept dropped first second)
    (after : Thinned kept dropped third fourth) :
    Thinned kept dropped (first ++ third) (second ++ fourth) := by
  induction before with
  | nil => exact after
  | keep here _ ih => exact .keep here ih
  | drop here _ ih => exact .drop here ih

theorem filter {test : α → Bool} (thinned : Thinned kept dropped first second)
    (same : ∀ left right, kept left right → test right = test left) :
    Thinned kept dropped (first.filter test) (second.filter test) := by
  induction thinned with
  | nil => exact .nil
  | @keep left right _ _ here _ ih =>
      cases passes : test left with
      | true =>
          rw [List.filter_cons_of_pos passes,
            List.filter_cons_of_pos ((same left right here).trans passes)]
          exact .keep here ih
      | false =>
          rw [List.filter_cons_of_neg (by simp [passes]),
            List.filter_cons_of_neg (by simp [same left right here, passes])]
          exact ih
  | @drop left _ _ here _ ih =>
      cases passes : test left with
      | true =>
          rw [List.filter_cons_of_pos passes]
          exact .drop here ih
      | false =>
          rw [List.filter_cons_of_neg (by simp [passes])]
          exact ih

theorem map {function : α → β} {keptMapped : β → β → Prop} {droppedMapped : β → Prop}
    (thinned : Thinned kept dropped first second)
    (keeps : ∀ left right, kept left right → keptMapped (function left) (function right))
    (drops : ∀ left, dropped left → droppedMapped (function left)) :
    Thinned keptMapped droppedMapped (first.map function) (second.map function) := by
  induction thinned with
  | nil => exact .nil
  | keep here _ ih => exact .keep (keeps _ _ here) ih
  | drop here _ ih => exact .drop (drops _ here) ih

/-- An element of the first list is dropped, or stays. -/
theorem exists_of_mem (thinned : Thinned kept dropped first second) {element : α}
    (member : element ∈ first) :
    dropped element ∨ ∃ other ∈ second, kept element other := by
  induction thinned with
  | nil => cases member
  | @keep left right _ _ here _ ih =>
      rcases List.mem_cons.mp member with rfl | later
      · exact .inr ⟨right, List.mem_cons_self, here⟩
      · rcases ih later with gone | ⟨other, known, stays⟩
        · exact .inl gone
        · exact .inr ⟨other, List.mem_cons_of_mem _ known, stays⟩
  | drop here _ ih =>
      rcases List.mem_cons.mp member with rfl | later
      · exact .inl here
      · exact ih later

end Thinned

open Outcome

variable {store : FileStore} {input : NameMap Document} {path : DocPath}
  {fields others : List Field} {seen values : NameMap Value}

namespace Field

/-- Without validators, a field has the value that its type gives. -/
theorem checked_nil {coerce : Document → Outcome Value} {document : Document} :
    checked [] coerce seen path document = coerce document := by
  rcases given : coerce document with ⟨value, violations, overflow⟩
  cases value <;>
    simp [checked, BoundValidator.runFieldAll, collect, found, andThen, Outcome.map, given]

/-- Where nothing is reported of one field, the other one of its name has the same outcome. -/
def StaysAs (store : FileStore) (input : NameMap Document) (path : DocPath)
    (first second : Field) : Prop :=
  second.name = first.name ∧ second.default = first.default ∧
    ∀ seen, (outcome store [] input path seen first).violations = [] →
      (outcome store [] input path seen first).overflow = false →
        outcome store [] input path seen second = outcome store [] input path seen first

/-- A field stays as another one that coerces to the same values. -/
theorem StaysAs.of_coerce {first second : Field} (name : second.name = first.name)
    (default : second.default = first.default) (optional : second.optional = first.optional)
    (type : first.default = none ∨ second.type = first.type)
    (coerces : ∀ document value, input.get? first.name = some document →
      first.type.coerce store document (path.child (.key first.name)) = .found value →
        second.type.coerce store document (path.child (.key first.name)) = .found value) :
    StaysAs store input path first second := by
  refine ⟨name, default, fun seen clean quiet => ?_⟩
  cases present : input.get? first.name with
  | some document =>
      rw [outcome_of_present present, List.filter_nil, checked_nil] at clean quiet ⊢
      rw [outcome_of_present (name.symm ▸ present), List.filter_nil, checked_nil, name]
      rcases ValueType.explained_coerce _ _ _ clean quiet with ⟨value, given⟩
      have found := eq_found_iff.mpr ⟨⟨given, quiet⟩, clean⟩
      rw [coerces document value present found, found]
  | none =>
      have alsoAbsent : input.get? second.name = none := name.symm ▸ present
      cases stated : first.default with
      | some document =>
          rcases type with noDefault | sameType
          · rw [noDefault] at stated
            cases stated
          · rw [outcome_of_default present stated,
              outcome_of_default alsoAbsent (default.trans stated), name, sameType]
      | none =>
          rw [outcome_of_absent present stated,
            outcome_of_absent alsoAbsent (default.trans stated), name, optional]

/-- A field may be left out, and is. -/
def IsLeftOut (input : NameMap Document) (field : Field) : Prop :=
  input.get? field.name = none ∧ field.default = none ∧ field.optional = true

theorem coerceFields_cons_eq_found {field : Field} {rest : List Field} :
    coerceFields store [] input path (field :: rest) seen = .found values ↔
      (outcome store [] input path seen field).violations = [] ∧
        (outcome store [] input path seen field).overflow = false ∧
        coerceFields store [] input path rest
          (seen.extend field.name (outcome store [] input path seen field).value) =
            .found values := by
  rw [eq_found_iff, gives_coerceFields_cons, clean_coerceFields_cons, eq_found_iff]
  constructor
  · rintro ⟨⟨quiet, given⟩, clean, restClean⟩
    exact ⟨clean, quiet, given, restClean⟩
  · rintro ⟨clean, quiet, given, restClean⟩
    exact ⟨⟨quiet, given⟩, clean, restClean⟩

/-- Fields that lost some which are left out give the same values. -/
theorem coerceFields_of_thinned
    (thinned : Thinned (StaysAs store input path) (IsLeftOut input) fields others)
    (given : coerceFields store [] input path fields seen = .found values) :
    coerceFields store [] input path others seen = .found values := by
  induction thinned generalizing seen with
  | nil => exact given
  | keep here _ ih =>
      rcases coerceFields_cons_eq_found.mp given with ⟨clean, quiet, rest⟩
      have same := here.2.2 seen clean quiet
      rw [coerceFields_cons_eq_found, here.1, same]
      exact ⟨clean, quiet, ih rest⟩
  | drop here _ ih =>
      rcases here with ⟨absent, noDefault, optional⟩
      rcases coerceFields_cons_eq_found.mp given with ⟨-, -, rest⟩
      rw [outcome_of_absent absent noDefault, if_pos optional] at rest
      exact ih rest

end Field

theorem Mapping.exists_of_mem_byText {entries : Mapping} {name : String}
    (present : name ∈ NameMap.names entries.byText) :
    ∃ entry ∈ entries, entry.1.keyText = name := by
  rw [byText, NameMap.mem_names_ofEntries, NameMap.names, List.map_map, List.mem_map] at present
  exact present

namespace RecordType

variable {type other : RecordType} {document : Document}

/-- Without validators, the values of a record are those of its fields. -/
theorem instantiate_eq_found_iff (unchecked : type.validators = []) :
    type.instantiate store document path = .found values ↔
      ∃ entries, document.untagOnce.asMapping? = some entries ∧
        type.unexpected path entries.byText = [] ∧
        Field.coerceFields store [] entries.byText path type.fields [] = .found values := by
  have noneOfRecord : type.recordValidators = [] := by
    rw [recordValidators, unchecked, List.filter_nil]
  constructor
  · intro given
    rcases gives_instantiate (eq_found_iff.mp given).1 with
      ⟨entries, mapping, expected, -, fields, clean, -⟩
    rw [unchecked] at fields clean
    exact ⟨entries, mapping, expected, eq_found_iff.mpr ⟨fields, clean⟩⟩
  · rintro ⟨entries, mapping, expected, given⟩
    rw [instantiate_of_asMapping? _ _ mapping, noneOfRecord, unchecked, expected]
    have opened : (found ()).andThen (fun _ : Unit =>
        Field.coerceFields store [] entries.byText path type.fields []) = found values := by
      rw [found_andThen, given]
    have whole := congrArg (closed [] path) opened
    exact whole

/-- A record that loses fields which are left out keeps its values. -/
theorem instantiate_of_thinned (unchecked : type.validators = []) (others : other.validators = [])
    (thinned : ∀ entries, document.untagOnce.asMapping? = some entries →
      Thinned (Field.StaysAs store entries.byText path) (Field.IsLeftOut entries.byText)
        type.fields other.fields)
    (given : type.instantiate store document path = .found values) :
    other.instantiate store document path = .found values := by
  rcases (instantiate_eq_found_iff unchecked).mp given with ⟨entries, mapping, expected, fields⟩
  refine (instantiate_eq_found_iff others).mpr ⟨entries, mapping, ?_,
    Field.coerceFields_of_thinned (thinned entries mapping) fields⟩
  apply unexpected_eq_nil
  intro name present
  rcases Mapping.exists_of_mem_byText present with ⟨entry, isEntry, rfl⟩
  rcases exists_field_of_unexpected expected entry isEntry with ⟨field, member, same⟩
  rw [← same] at present ⊢
  rcases (thinned entries mapping).exists_of_mem member with leftOut | ⟨kept, known, stays⟩
  · rcases NameMap.mem_names_iff.mp present with ⟨value, found⟩
    rw [leftOut.1] at found
    cases found
  · rw [← stays.1]
    exact List.mem_map_of_mem known

end RecordType

theorem Document.asMapping?_untagOnce (document : Document) :
    document.untagOnce.asMapping? = document.asMapping? := by
  cases document <;> rfl

/-- A type of records gives the values of its record type. -/
theorem ValueType.coerce_record_eq_found {type : RecordType} {document : Document} {value : Value} :
    (record type).coerce store document path = .found value ↔
      ∃ values, type.instantiate store document.untagOnce path = .found values ∧
        Value.record type.name values = value := by
  have isMapping {values : NameMap Value}
      (given : type.instantiate store document.untagOnce path = .found values) :
      ∃ entries, document.untagOnce.asMapping? = some entries := by
    rcases RecordType.gives_instantiate (eq_found_iff.mp given).1 with ⟨entries, mapping, -⟩
    rw [Document.asMapping?_untagOnce] at mapping
    exact ⟨entries, mapping⟩
  rw [coerce]
  split
  · next absent =>
    constructor
    · intro given
      cases given
    · rintro ⟨values, given, -⟩
      rcases isMapping given with ⟨entries, mapping⟩
      rw [Bool.and_eq_true, Document.isNull] at absent
      rw [Document.asMapping?] at mapping
      split at mapping
      · next same =>
        rw [same] at absent
        cases absent.1
      · cases mapping
  · split
    · next noMapping =>
      constructor
      · intro given
        cases given
      · rintro ⟨values, given, -⟩
        rcases isMapping given with ⟨entries, mapping⟩
        rw [noMapping] at mapping
        cases mapping
    · rw [map_eq_found]

end RuleSchema
