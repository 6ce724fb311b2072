import RuleSchema.Property.Compose
import RuleSchema.Proofs.Value.Documents

/-!
# What a property is validated from

The document that a property is validated from says for each name what the declaration says,
else what the parent has, and else the default of a field.
-/

namespace RuleSchema

/-! ## Mappings with names as keys -/

namespace Mapping

/-- The mapping whose keys are names. -/
def ofNames (entries : NameMap Document) : Mapping :=
  entries.map fun entry => (.string entry.1, entry.2)

variable {entries : NameMap Document} {name : String} {value : Document}

theorem hasField_ofNames : (ofNames entries).hasField name = entries.has name := by
  rw [hasField, ofNames, List.any_map]
  rfl

theorem insert_ofNames :
    (ofNames entries).insert (.string name) value = ofNames (entries.insert name value) := by
  induction entries with
  | nil => rfl
  | cons entry rest ih =>
      have sameText : (Document.string name).beq (.string entry.1) = (entry.1 == name) := by
        rw [Document.beq, Bool.beq_comm]
      rw [ofNames, List.map_cons, insert, sameText, NameMap.insert]
      split
      · next same => rw [eq_of_beq same, ofNames, List.map_cons]
      · rw [← ofNames, ih]
        rfl

theorem insertAll_ofNames {added : NameMap Document} :
    added.foldl (fun built entry => built.insert (.string entry.1) entry.2) (ofNames entries) =
      ofNames (entries.insertAll added) := by
  induction added generalizing entries with
  | nil => rfl
  | cons entry rest ih =>
      rw [List.foldl_cons, insert_ofNames, ih]
      rfl

theorem ofEntries_ofNames (distinct : entries.names.Nodup) :
    ofEntries (ofNames entries) = ofNames entries := by
  have onNames : ofEntries (ofNames entries) = ofNames (NameMap.ofEntries entries) := by
    have fromNone : ofNames [] = [] := rfl
    rw [ofEntries, NameMap.ofEntries, ← insertAll_ofNames, fromNone, ofNames, List.foldl_map]
  rw [onNames, NameMap.ofEntries_of_nodup distinct]

theorem byText_ofNames (distinct : entries.names.Nodup) : byText (ofNames entries) = entries := by
  rw [byText, ofNames, List.map_map]
  exact (congrArg NameMap.ofEntries (List.map_id entries)).trans
    (NameMap.ofEntries_of_nodup distinct)

end Mapping

/-! ## Values by precedence -/

namespace PropertySet

variable {defaults given : NameMap Document} {fields : List Field}

/-- Defaults of fields that have no value yet, by names. -/
def filled (defaults : NameMap Document) (fields : List Field) (given : NameMap Document) :
    NameMap Document :=
  fields.foldl
    (fun given field =>
      match defaults.get? field.name with
      | none => given
      | some default => if given.has field.name then given else given.insert field.name default)
    given

theorem withDefaults_ofNames :
    withDefaults defaults fields (Mapping.ofNames given) =
      Mapping.ofNames (filled defaults fields given) := by
  rw [withDefaults, filled]
  induction fields generalizing given with
  | nil => rfl
  | cons field rest ih =>
      rw [List.foldl_cons, List.foldl_cons]
      cases defaults.get? field.name with
      | none => exact ih
      | some default =>
          dsimp only
          rw [Mapping.hasField_ofNames]
          split
          · exact ih
          · rw [Mapping.insert_ofNames]
            exact ih

theorem nodup_names_filled (distinct : given.names.Nodup) :
    (filled defaults fields given).names.Nodup := by
  rw [filled]
  induction fields generalizing given with
  | nil => exact distinct
  | cons field rest ih =>
      rw [List.foldl_cons]
      apply ih
      split
      · exact distinct
      · split
        · exact distinct
        · exact NameMap.nodup_names_insert distinct _ _

theorem filled_of_present (present : ∀ field ∈ fields, field.name ∈ given.names) :
    filled defaults fields given = given := by
  rw [filled]
  induction fields with
  | nil => rfl
  | cons field rest ih =>
      have known := NameMap.has_iff.mpr (present field List.mem_cons_self)
      rw [List.foldl_cons, known]
      have unchanged : (match defaults.get? field.name with
          | none => given
          | some default => if true = true then given else given.insert field.name default) =
          given := by
        cases defaults.get? field.name <;> rfl
      rw [unchanged]
      exact ih fun other member => present other (List.mem_cons_of_mem field member)

theorem get?_filled {name : String} :
    (filled defaults fields given).get? name =
      (given.get? name).or (if name ∈ fields.map Field.name then defaults.get? name else none) := by
  rw [filled]
  induction fields generalizing given with
  | nil => simp
  | cons field rest ih =>
      rw [List.foldl_cons, ih]
      simp only [List.map_cons, List.mem_cons]
      by_cases same : name = field.name
      · subst same
        cases stated : defaults.get? field.name with
        | none => simp
        | some default =>
            by_cases known : field.name ∈ given.names
            · rcases NameMap.mem_names_iff.mp known with ⟨own, found⟩
              simp [NameMap.has_iff.mpr known, found]
            · have unknown : given.has field.name = false := by
                rw [Bool.eq_false_iff]
                exact fun has => known (NameMap.has_iff.mp has)
              simp [unknown, NameMap.get?_eq_none known]
      · have unchanged : NameMap.get? (match defaults.get? field.name with
            | none => given
            | some default =>
                if given.has field.name then given else given.insert field.name default) name =
            given.get? name := by
          split
          · rfl
          · split
            · rfl
            · exact NameMap.get?_insert_of_ne given _ same
        rw [unchanged]
        simp [same]

/-- What a property has from its parent. -/
def inherited (parent : Option Instance) : NameMap Document :=
  match parent with
  | some record => record.values.map fun entry => (entry.1, entry.2.toDocument)
  | none => []

/-- The values of a property by names: inherited, by default, and declared. -/
def startOf (defaults : NameMap Document) (parent : Option Instance) (fields : List Field)
    (declared : NameMap Document) : NameMap Document :=
  (filled defaults fields (inherited parent)).insertAll declared

variable {parent : Option Instance} {declared : NameMap Document}

theorem valuesOf_eq_ofNames (distinct : (inherited parent).names.Nodup) :
    valuesOf defaults parent fields declared =
      Mapping.ofNames (startOf defaults parent fields declared) := by
  cases parent with
  | none =>
      have nothing : ([] : Mapping) = Mapping.ofNames (inherited none) := rfl
      rw [valuesOf, nothing, withDefaults_ofNames, Mapping.insertAll_ofNames, startOf]
  | some record =>
      have written : Value.toMapping record.values = Mapping.ofNames (inherited (some record)) := by
        rw [Value.toMapping_eq_map, Mapping.ofNames, inherited, List.map_map]
        rfl
      rw [valuesOf, written, Mapping.ofEntries_ofNames distinct, withDefaults_ofNames,
        Mapping.insertAll_ofNames, startOf]

theorem nodup_names_startOf (distinct : (inherited parent).names.Nodup) :
    (startOf defaults parent fields declared).names.Nodup :=
  NameMap.nodup_names_insertAll (nodup_names_filled distinct)

theorem get?_startOf (distinct : declared.names.Nodup) {name : String} :
    (startOf defaults parent fields declared).get? name =
      (declared.get? name).or (((inherited parent).get? name).or
        (if name ∈ fields.map Field.name then defaults.get? name else none)) := by
  rw [startOf, NameMap.get?_insertAll distinct, get?_filled]

end PropertySet

end RuleSchema
