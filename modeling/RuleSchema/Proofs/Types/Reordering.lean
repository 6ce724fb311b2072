import RuleSchema.Proofs.Types.Thinning
import RuleSchema.Proofs.Types.Induction
import RuleSchema.Proofs.Validation.Likeness

/-!
# Coercion of documents in another order

A type without validators and without a coercion of its own, whose maps have free texts as keys,
makes alike outcomes of documents that are the same up to the order of entries.
-/

namespace RuleSchema

variable {store : FileStore} {first second : Document} {path : DocPath}

/-! ## Conditions -/

/-- No tags, no two keys of a mapping with one text, and no two that are equal. -/
structure Document.IsClear (document : Document) : Prop where
  tagFree : document.isTagFree = true
  distinct : document.hasDistinctTexts = true
  proper : document.isProper = true

theorem Document.IsClear.item {items : List Document} (clear : IsClear (.sequence items)) :
    ∀ item ∈ items, item.IsClear :=
  fun item member =>
    { tagFree := isTagFree_sequence.mp clear.tagFree item member
      distinct := hasDistinctTexts_sequence.mp clear.distinct item member
      proper := isProper_sequence.mp clear.proper item member }

theorem Document.IsClear.forall₂ {items others : List Document} (clear : IsClear (.sequence items))
    (related : List.Forall₂ Reordered items others) :
    List.Forall₂ (fun document other => document.IsClear ∧ document.Reordered other) items others :=
  (List.forall₂_and_left _ _).mpr ⟨clear.item, related⟩

theorem Document.IsClear.value {entries : Mapping} (clear : IsClear (.mapping entries)) :
    ∀ entry ∈ entries, entry.2.IsClear :=
  fun entry member =>
    { tagFree := (isTagFree_mapping.mp clear.tagFree entry member).2
      distinct := (hasDistinctTexts_mapping.mp clear.distinct).2 entry member
      proper := ((isProper_mapping.mp clear.proper).2 entry member).2 }

namespace ValueType

/-- No validators and no coercion of its own, free texts as keys of maps, and proper options. -/
def isOrderless : ValueType → Bool
  | custom _ => false
  | dict (text constraints) _ => constraints.isFree
  | dict _ _ => false
  | record type => type.validators.isEmpty
  | literal options => options.all Document.isProper
  | _ => true

/-- Documents that are the same up to order have alike outcomes. -/
def IgnoresOrder (store : FileStore) (type : ValueType) : Prop :=
  ∀ first second path, first.IsClear → first.Reordered second →
    (type.coerce store first path).Alike Value.Reordered (type.coerce store second path)

end ValueType

open Outcome

/-! ## Scalars -/

/-- What is read alike from all containers has alike outcomes. -/
theorem alike_read {α : Type} {read : Document → Except String α}
    (reordered : first.Reordered second)
    (sequences : ∀ items others, read (.sequence items) = read (.sequence others))
    (mappings : ∀ entries others, read (.mapping entries) = read (.mapping others)) :
    (ofExcept path first (read first)).Alike Eq (ofExcept path second (read second)) := by
  rw [← reordered.read_eq sequences mappings]
  exact .ofExcept reordered fun _ => rfl

theorem Scalar.isOption_eq (reordered : first.Reordered second) (proper : first.isProper = true)
    {option : Document} (optionProper : option.isProper = true) :
    isOption first option = isOption second option := by
  have same := reordered.beq_eq proper optionProper
  rcases reordered.container with rfl | ⟨items, others, rfl, rfl, -⟩ |
    ⟨entries, others, rfl, rfl, -⟩
  · rfl
  · simpa [isOption] using same
  · simpa [isOption] using same

/-! ## Containers -/

theorem forall₂_zipIdx {α β : Type} {related : α → β → Prop} {items : List α} {others : List β}
    (each : List.Forall₂ related items others) (start : Nat) :
    List.Forall₂ (fun one two => related one.1 two.1 ∧ one.2 = two.2) (items.zipIdx start)
      (others.zipIdx start) := by
  induction each generalizing start with
  | nil => exact .nil
  | cons here _ ih => exact .cons ⟨here, rfl⟩ (ih (start + 1))

namespace ValueType

theorem coerceEach_alike {types : List ValueType} {documents others : List Document}
    (each : ∀ type ∈ types, type.IgnoresOrder store)
    (related : List.Forall₂ (fun document other => document.IsClear ∧ document.Reordered other)
      documents others) (position : Nat) :
    (coerceEach store path position types documents).Alike (List.Forall₂ Value.Reordered)
      (coerceEach store path position types others) := by
  induction types generalizing documents others position with
  | nil =>
      simp only [coerceEach]
      exact .found .nil
  | cons type rest ih =>
      rcases List.forall_mem_cons.mp each with ⟨first, later⟩
      cases related with
      | nil => exact .found .nil
      | cons here there =>
          rw [coerceEach, coerceEach]
          refine ((first _ _ _ here.1 here.2).both (ih later there (position + 1))).map ?_
          exact fun one two both => .cons both.1 both.2

/-- The first type that fits one document fits the other, and makes the same value of it. -/
theorem coerceFirst_alike (path : DocPath) {choices : List ValueType}
    (each : ∀ type ∈ choices, type.IgnoresOrder store) (clear : first.IsClear)
    (reordered : first.Reordered second) :
    Option.Rel Value.Reordered (coerceFirst store first path choices).1
        (coerceFirst store second path choices).1 ∧
      (coerceFirst store first path choices).2 = (coerceFirst store second path choices).2 := by
  induction choices with
  | nil =>
      rw [coerceFirst, coerceFirst]
      exact ⟨.none, rfl⟩
  | cons type rest ih =>
      rcases List.forall_mem_cons.mp each with ⟨own, later⟩
      rcases own first second path clear reordered with ⟨values, -, overflow⟩
      rw [coerceFirst, coerceFirst]
      cases made : (type.coerce store first path).value with
      | some one =>
          cases otherMade : (type.coerce store second path).value with
          | some two =>
              rw [made, otherMade] at values
              exact ⟨values, overflow⟩
          | none =>
              rw [made, otherMade] at values
              cases values
      | none =>
          cases otherMade : (type.coerce store second path).value with
          | some two =>
              rw [made, otherMade] at values
              cases values
          | none => exact ⟨(ih later).1, congrArg₂ or overflow (ih later).2⟩

/-- A value that is made as a text is the normalized text of the document. -/
theorem exists_of_coerce_text {constraints : TextConstraints} {document : Document} {value : Value}
    (made : ((text constraints).coerce store document path).value = some value) :
    ∃ read, Scalar.text constraints.strict document.untagOnce = .ok read ∧
      value = .string (constraints.normalize read) := by
  rw [coerce] at made
  split at made
  · cases made
  · cases scalar : Scalar.text constraints.strict document.untagOnce with
    | error message =>
        rw [scalar] at made
        cases made
    | ok read =>
        rw [scalar, ofExcept_ok, found_andThen] at made
        refine ⟨read, rfl, ?_⟩
        dsimp only at made
        cases accepted : constraints.check (constraints.normalize read) with
        | accepted =>
            rw [accepted] at made
            exact (Option.some.inj made).symm
        | _ =>
            rw [accepted] at made
            cases made

/-- A free text that is made of a key is the text of that key. -/
theorem keyText_of_coerce {constraints : TextConstraints} (free : constraints.isFree = true)
    {key : Document} (tagFree : key.isTagFree = true) {value : Value}
    (made : ((text constraints).coerce store key path).value = some value) :
    value.keyText = key.keyText := by
  simp only [TextConstraints.isFree, Bool.and_eq_true, Bool.not_eq_true'] at free
  rcases free with ⟨⟨-, notStripped⟩, notLower⟩
  have same (text : String) : constraints.normalize text = text := by
    simp [TextConstraints.normalize, notStripped, notLower]
  rcases exists_of_coerce_text made with ⟨read, scalar, rfl⟩
  rw [same]
  cases key with
  | string text =>
      cases scalar
      rfl
  | number number =>
      have plain : Document.untagOnce (.number number) = .number number := rfl
      rw [plain, Scalar.text] at scalar
      split at scalar
      · cases scalar
      · cases scalar
        rfl
  | tagged name inner => cases tagFree
  | _ => cases scalar

theorem alike_items {item : ValueType} (ignores : item.IgnoresOrder store)
    {items others : List Document}
    (related : List.Forall₂ (fun document other => document.IsClear ∧ document.Reordered other)
      items others) :
    ((collect (items.zipIdx.map fun (inner, position) =>
        item.coerce store inner (path.child (.index position)))).map .list).Alike Value.Reordered
      ((collect (others.zipIdx.map fun (inner, position) =>
        item.coerce store inner (path.child (.index position)))).map .list) := by
  refine (Alike.collect ?_).map fun one two each => Value.reordered_list.mpr each
  rw [List.forall₂_map_left_iff, List.forall₂_map_right_iff]
  refine (forall₂_zipIdx related 0).imp ?_
  rintro ⟨document, position⟩ ⟨other, _⟩ ⟨⟨clear, reordered⟩, rfl⟩
  exact ignores document other _ clear reordered

/-- The outcome of one entry of a map. -/
def entryOutcome (store : FileStore) (key value : ValueType) (path : DocPath)
    (entry : Document × Document) : Outcome (String × Value) :=
  let inside := path.child (PathKey.ofDocument entry.1)
  (Outcome.both (key.coerce store entry.1 inside) (value.coerce store entry.2 inside)).map
    fun (name, found) => (name.keyText, found)

/-- Maps of free texts have alike outcomes in any order of their entries. -/
theorem alike_entries {constraints : TextConstraints} (free : constraints.isFree = true)
    {value : ValueType} (ignores : value.IgnoresOrder store) {entries others : Mapping}
    (clear : (Document.mapping entries).IsClear)
    (related : Rearranged (OneKey Document.Reordered) entries others) :
    ((collect (entries.map (entryOutcome store (text constraints) value path))).map
        fun found => .map (NameMap.ofEntries found)).Alike Value.Reordered
      ((collect (others.map (entryOutcome store (text constraints) value path))).map
        fun found => .map (NameMap.ofEntries found)) := by
  have keysFree := Document.isTagFree_mapping.mp clear.tagFree
  have texts := (Document.hasDistinctTexts_mapping.mp clear.distinct).1
  have alike : Rearranged (Alike (OneKey Value.Reordered))
      (entries.map (entryOutcome store (text constraints) value path))
      (others.map (entryOutcome store (text constraints) value path)) := by
    refine (related.and_left clear.value).map ?_
    rintro ⟨key, inner⟩ ⟨_, other⟩ ⟨innerClear, rfl, sameInner⟩
    have sameKey : ((text constraints).coerce store key
        (path.child (PathKey.ofDocument key))).Alike Eq _ := .refl (fun _ => rfl) _
    refine (sameKey.both (ignores inner other _ innerClear sameInner)).map ?_
    rintro ⟨name, value⟩ ⟨_, otherValue⟩ ⟨rfl, sameValue⟩
    exact ⟨rfl, sameValue⟩
  have named (entry : Document × Document) (member : entry ∈ entries)
      (made : String × Value)
      (given : (entryOutcome store (text constraints) value path entry).value = some made) :
      made.1 = entry.1.keyText := by
    rcases Option.map_eq_some_iff.mp given with ⟨parts, both, rfl⟩
    exact keyText_of_coerce free (keysFree entry member).1 (value_both both).1
  refine ((Alike.collect_rearranged alike).and_left fun found collected =>
    map_value_collect named collected).map ?_
  rintro found otherFound ⟨names, rearranged⟩
  have distinct : (NameMap.names found).Nodup := by
    rw [NameMap.names, names]
    exact texts
  have otherDistinct : (NameMap.names otherFound).Nodup :=
    rearranged.perm_keys.nodup_iff.mp distinct
  rw [NameMap.ofEntries_of_nodup distinct, NameMap.ofEntries_of_nodup otherDistinct]
  exact Value.reordered_map.mpr rearranged

end ValueType

/-! ## Records -/

section Records

variable {input otherInput : NameMap Document} {seen otherSeen : NameMap Value}

/-- Where names are distinct, rearranged entries have corresponding values under each name. -/
theorem Rearranged.get?_rel {α : Type} {related : α → α → Prop} {entries others : NameMap α}
    (rearranged : Rearranged (OneKey related) entries others) (distinct : entries.names.Nodup)
    (name : String) : Option.Rel related (entries.get? name) (others.get? name) := by
  have otherDistinct : others.names.Nodup := rearranged.perm_keys.nodup_iff.mp distinct
  cases found : entries.get? name with
  | some value =>
      rcases rearranged.exists_of_mem_left (NameMap.mem_of_get? found) with
        ⟨⟨_, other⟩, member, rfl, here⟩
      rw [NameMap.get?_of_mem otherDistinct member]
      exact .some here
  | none =>
      have absent : name ∉ others.names := by
        intro known
        have also : name ∈ entries.names := rearranged.perm_keys.mem_iff.mpr known
        rcases NameMap.mem_names_iff.mp also with ⟨value, present⟩
        rw [found] at present
        cases present
      rw [NameMap.get?_eq_none absent]
      exact .none

theorem get?_rel_of_forall₂ (each : List.Forall₂ (OneKey Value.Reordered) seen otherSeen)
    (name : String) : Option.Rel Value.Reordered (seen.get? name) (otherSeen.get? name) := by
  induction each with
  | nil => exact .none
  | @cons entry other _ _ here _ ih =>
      rw [NameMap.get?, NameMap.get?, List.find?_cons, List.find?_cons, here.1]
      cases other.1 == name with
      | true => exact .some here.2
      | false => exact ih

theorem forall₂_insert {name : String} {value other : Value}
    (each : List.Forall₂ (OneKey Value.Reordered) seen otherSeen) (here : value.Reordered other) :
    List.Forall₂ (OneKey Value.Reordered) (seen.insert name value)
      (otherSeen.insert name other) := by
  induction each with
  | nil => exact .cons ⟨rfl, here⟩ .nil
  | @cons entry otherEntry rest others same later ih =>
      rw [NameMap.insert, NameMap.insert, same.1]
      split
      · exact .cons ⟨rfl, here⟩ later
      · exact .cons same ih

theorem forall₂_extend (name : String) {value other : Option Value}
    (each : List.Forall₂ (OneKey Value.Reordered) seen otherSeen)
    (values : Option.Rel Value.Reordered value other) :
    List.Forall₂ (OneKey Value.Reordered) (seen.extend name value)
      (otherSeen.extend name other) := by
  cases values with
  | none => exact each
  | some here => exact forall₂_insert each here

/-- Documents under the same names that are the same up to order. -/
def SameInput (input otherInput : NameMap Document) : Prop :=
  ∀ name, Option.Rel (fun document other => document.IsClear ∧ document.Reordered other)
    (input.get? name) (otherInput.get? name)

namespace Field

theorem outcome_alike {field : Field} (ignores : field.type.IgnoresOrder store)
    (same : SameInput input otherInput) :
    (outcome store [] input path seen field).Alike Value.Reordered
      (outcome store [] otherInput path otherSeen field) := by
  have related := same field.name
  cases present : input.get? field.name with
  | some document =>
      cases otherPresent : otherInput.get? field.name with
      | none =>
          rw [present, otherPresent] at related
          cases related
      | some other =>
          rw [present, otherPresent] at related
          cases related with
          | some here =>
              rw [outcome_of_present present, outcome_of_present otherPresent, List.filter_nil,
                checked_nil, checked_nil]
              exact ignores document other _ here.1 here.2
  | none =>
      cases otherPresent : otherInput.get? field.name with
      | some other =>
          rw [present, otherPresent] at related
          cases related
      | none =>
          cases stated : field.default with
          | some document =>
              rw [outcome_of_default present stated, outcome_of_default otherPresent stated,
                List.filter_nil, List.filter_nil, checked_nil, checked_nil]
              exact .refl Value.Reordered.refl _
          | none =>
              rw [outcome_of_absent present stated, outcome_of_absent otherPresent stated]
              exact .refl Value.Reordered.refl _

theorem coerceFields_alike {fields : List Field}
    (ignore : ∀ field ∈ fields, field.type.IgnoresOrder store)
    (same : SameInput input otherInput)
    (known : List.Forall₂ (OneKey Value.Reordered) seen otherSeen) :
    (coerceFields store [] input path fields seen).Alike
      (List.Forall₂ (OneKey Value.Reordered))
      (coerceFields store [] otherInput path fields otherSeen) := by
  induction fields generalizing seen otherSeen with
  | nil => exact .found known
  | cons field rest ih =>
      rcases List.forall_mem_cons.mp ignore with ⟨own, later⟩
      have here : (outcome store [] input path seen field).Alike Value.Reordered
        (outcome store [] otherInput path otherSeen field) := outcome_alike own same
      have others := ih later (forall₂_extend field.name known here.value)
      rw [coerceFields_cons, coerceFields_cons]
      exact ⟨others.value, here.violations.append others.violations,
        congrArg₂ or here.overflow others.overflow⟩

end Field

namespace RecordType

variable {type : RecordType} {entries others : Mapping}

theorem closed_alike {fields otherFields : Outcome (NameMap Value)}
    (alike : fields.Alike (List.Forall₂ (OneKey Value.Reordered)) otherFields) :
    (closed [] path fields).Alike (List.Forall₂ (OneKey Value.Reordered))
      (closed [] path otherFields) := by
  rw [closed, closed, alike.violations.isEmpty_eq]
  split
  · exact alike.andThen fun one two here => .found here
  · exact ⟨.none, alike.violations, alike.overflow⟩

/-- The entries of a mapping are known by the texts of their keys, where these are distinct. -/
theorem byText_of_distinct (distinct : (entries.map fun entry => entry.1.keyText).Nodup) :
    entries.byText = entries.map fun entry => (entry.1.keyText, entry.2) := by
  rw [Mapping.byText, NameMap.ofEntries_of_nodup]
  rw [NameMap.names, List.map_map]
  exact distinct

theorem unexpected_rearranged {related : Document → Document → Prop}
    (rearranged : Rearranged (OneKey related) input otherInput)
    (reordered : ∀ one two, related one two → one.Reordered two) :
    Rearranged Violation.Alike (type.unexpected path input) (type.unexpected path otherInput) := by
  refine rearranged.filterMap ?_
  rintro ⟨name, document⟩ ⟨_, other⟩ ⟨rfl, here⟩
  dsimp only
  split
  · exact .none
  · exact .some ⟨rfl, rfl, rfl, .some (reordered document other here)⟩

/-- A record without validators ignores the order of its entries. -/
theorem instantiate_alike (unchecked : type.validators = [])
    (ignore : ∀ field ∈ type.fields, field.type.IgnoresOrder store)
    (clear : first.IsClear) (reordered : first.Reordered second) :
    (type.instantiate store first path).Alike (List.Forall₂ (OneKey Value.Reordered))
      (type.instantiate store second path) := by
  have noneOfRecord : type.recordValidators = [] := by
    rw [recordValidators, unchecked, List.filter_nil]
  rcases reordered.container with rfl | ⟨items, others, rfl, rfl, -⟩ |
    ⟨entries, others, rfl, rfl, related⟩
  · exact .refl (fun values => List.forall₂_same.mpr fun entry _ =>
      ⟨rfl, Value.Reordered.refl entry.2⟩) _
  · have noMapping (items : List Document) :
        (Document.sequence items).untagOnce.asMapping? = none := rfl
    rw [instantiate_of_not_mapping _ _ (noMapping items),
      instantiate_of_not_mapping _ _ (noMapping others)]
    exact .mismatch reordered
  · have isMapping (entries : Mapping) :
        (Document.mapping entries).untagOnce.asMapping? = some entries := rfl
    have texts := (Document.hasDistinctTexts_mapping.mp clear.distinct).1
    have otherTexts := related.nodup_texts texts
    have inputs : Rearranged
        (OneKey fun document other : Document => document.IsClear ∧ document.Reordered other)
        (Mapping.byText entries) (Mapping.byText others) := by
      rw [byText_of_distinct texts, byText_of_distinct otherTexts]
      refine (related.and_left clear.value).map ?_
      rintro ⟨key, value⟩ ⟨_, other⟩ ⟨valueClear, rfl, sameValue⟩
      exact ⟨rfl, valueClear, sameValue⟩
    have same : SameInput (Mapping.byText entries) (Mapping.byText others) :=
      inputs.get?_rel (NameMap.nodup_names_ofEntries _)
    have reported : Rearranged Violation.Alike (type.unexpected path (Mapping.byText entries))
        (type.unexpected path (Mapping.byText others)) :=
      unexpected_rearranged inputs fun one two here => here.2
    rw [instantiate_of_asMapping? _ _ (isMapping entries),
      instantiate_of_asMapping? _ _ (isMapping others), noneOfRecord, unchecked]
    apply closed_alike
    have opened : Alike Eq
        (⟨some (), type.unexpected path (Mapping.byText entries) ++ [], false⟩ : Outcome Unit)
        ⟨some (), type.unexpected path (Mapping.byText others) ++ [], false⟩ :=
      ⟨.some rfl, reported.append (.of_forall₂ .nil), rfl⟩
    exact opened.andThen fun _ _ _ => Field.coerceFields_alike ignore same .nil

end RecordType

end Records

namespace ValueType

/-- Types without validators and coercions of their own ignore the order of entries. -/
theorem ignoresOrder {type : ValueType}
    (orderless : type.Throughout fun part => part.isOrderless = true) :
    type.IgnoresOrder store := by
  induction orderless with
  | @intro type own inside ih =>
  intro first second path clear reordered
  have plain : first.untagOnce = first ∧ second.untagOnce = second := by
    rcases reordered.container with rfl | ⟨items, others, rfl, rfl, -⟩ |
      ⟨entries, others, rfl, rfl, -⟩
    · cases first with
      | tagged name inner => cases clear.tagFree
      | _ => exact ⟨rfl, rfl⟩
    · exact ⟨rfl, rfl⟩
    · exact ⟨rfl, rfl⟩
  have null : first.isNull = second.isNull :=
    reordered.read_eq (fun _ _ => rfl) fun _ _ => rfl
  rw [coerce.eq_def, coerce.eq_def store type second, plain.1, plain.2]
  dsimp only
  rw [← null]
  split
  · exact .mismatch reordered
  cases type with
  | any => exact .found (Value.reordered_ofDocument reordered clear.distinct)
  | bool strict =>
      refine (alike_read reordered (fun _ _ => rfl) fun _ _ => rfl).map ?_
      rintro flag _ rfl
      exact Value.Reordered.refl _
  | int constraints =>
      refine (alike_read reordered (fun _ _ => rfl) fun _ _ => rfl).andThen ?_
      rintro word _ rfl
      exact .ofVerdict reordered Value.Reordered.refl
  | float constraints =>
      refine (alike_read reordered (fun _ _ => rfl) fun _ _ => rfl).andThen ?_
      rintro number _ rfl
      exact .ofVerdict reordered Value.Reordered.refl
  | text constraints =>
      refine (alike_read reordered (fun _ _ => rfl) fun _ _ => rfl).andThen ?_
      rintro read _ rfl
      exact .ofVerdict reordered Value.Reordered.refl
  | path kind =>
      refine (alike_read reordered (fun _ _ => rfl) fun _ _ => rfl).map ?_
      rintro place _ rfl
      exact Value.Reordered.refl _
  | literal options =>
      have proper : ∀ option ∈ options, option.isProper = true := List.all_eq_true.mp own
      have chosen : options.any (Scalar.isOption first) = options.any (Scalar.isOption second) := by
        rw [Bool.eq_iff_iff, List.any_eq_true, List.any_eq_true]
        exact exists_congr fun option => and_congr_right fun member => by
          rw [Scalar.isOption_eq reordered clear.proper (proper option member)]
      dsimp only
      rw [← chosen]
      split
      · exact .found (Value.reordered_ofDocument reordered clear.distinct)
      · exact .mismatch reordered
  | list item =>
      rcases reordered.container with rfl | ⟨items, others, rfl, rfl, related⟩ |
        ⟨entries, others, rfl, rfl, -⟩
      · exact .refl Value.Reordered.refl _
      · exact alike_items (ih item List.mem_cons_self) (clear.forall₂ related)
      · exact .mismatch reordered
  | tuple types =>
      rcases reordered.container with rfl | ⟨items, others, rfl, rfl, related⟩ |
        ⟨entries, others, rfl, rfl, -⟩
      · exact .refl Value.Reordered.refl _
      · have count := related.length_eq
        dsimp only [Document.asSequence?, Document.untagged]
        rw [← count]
        split
        · refine (coerceEach_alike ih (clear.forall₂ related) 0).map ?_
          exact fun one two each => Value.reordered_list.mpr each
        · exact .mismatch reordered
      · exact .mismatch reordered
  | dict key value =>
      cases key with
      | text constraints =>
          rcases reordered.container with rfl | ⟨items, others, rfl, rfl, -⟩ |
            ⟨entries, others, rfl, rfl, related⟩
          · exact .refl Value.Reordered.refl _
          · exact .mismatch reordered
          · exact alike_entries own (ih value (by simp [parts])) clear related
      | _ => cases own
  | optional inner =>
      dsimp only
      split
      · exact .found (Value.Reordered.refl .null)
      · exact ih inner List.mem_cons_self first second path clear reordered
  | union choices =>
      have each : ∀ type ∈ choices, type.IgnoresOrder store := ih
      have fit := coerceFirst_alike path each clear reordered
      dsimp only
      generalize coerceFirst store first path choices = one at fit ⊢
      generalize coerceFirst store second path choices = two at fit ⊢
      rcases one with ⟨found, overflow⟩
      rcases two with ⟨otherFound, otherOverflow⟩
      rcases fit with ⟨values, rfl⟩
      cases values with
      | some here => exact ⟨.some here, .of_forall₂ .nil, rfl⟩
      | none =>
          exact ⟨.none, .of_forall₂ (.cons ⟨rfl, rfl, rfl, .some reordered⟩ .nil), rfl⟩
  | unit label base => exact ih base List.mem_cons_self first second path clear reordered
  | record type =>
      rcases reordered.container with rfl | ⟨items, others, rfl, rfl, -⟩ |
        ⟨entries, others, rfl, rfl, -⟩
      · exact .refl Value.Reordered.refl _
      · exact .mismatch reordered
      · refine (RecordType.instantiate_alike (List.isEmpty_iff.mp own)
          (fun field member => ih field.type (List.mem_map_of_mem member)) clear
          reordered).map ?_
        exact fun one two each => Value.reordered_record.mpr ⟨rfl, each⟩
  | custom type => cases own

end ValueType

end RuleSchema
