import RuleSchema.Property.Attribute
import RuleSchema.Proofs.Compile.Types
import RuleSchema.Proofs.NameMap

/-!
# Attribute sets

The attributes of a set have distinct names, and those that are not optional are the fields
of the type that every property extends.  Extending a type whose fields are attributes by the
level of some more attributes gives a type whose fields are those of both.
-/

namespace RuleSchema.AttributeSet

variable {registry : Registry} {rules : Document} {set : AttributeSet}

/-! ## Compiled sets -/

theorem nodup_names_of_compileLeaves {paths : List DocPath} {built attributes : NameMap Attribute}
    (distinct : built.names.Nodup)
    (compiled : (compileLeaves registry rules built paths).result = .ok attributes) :
    attributes.names.Nodup := by
  induction paths generalizing built with
  | nil =>
      cases compiled
      exact distinct
  | cons path rest ih =>
      rw [compileLeaves] at compiled
      split at compiled
      · exact ih distinct compiled
      · rcases Warned.andThen_result_eq_ok.mp compiled with ⟨spec, -, compiled⟩
        dsimp only at compiled
        split at compiled
        · cases compiled
        · next unknown =>
          refine ih ?_ compiled
          rw [NameMap.names, List.map_append, List.nodup_append]
          refine ⟨distinct, by simp, ?_⟩
          rintro name known _ own rfl
          rw [List.map_singleton, List.mem_singleton] at own
          subst own
          rcases List.mem_map.mp known with ⟨entry, isEntry, same⟩
          exact unknown (List.any_eq_true.mpr ⟨entry, isEntry, beq_of_eq same⟩)

/-- The attributes of a set are the compiled leaves of its rules. -/
theorem leaves_of_compile (compiled : compile registry rules = .ok set) :
    (compileLeaves registry rules [] (Rule.pathsWhere Rule.isLeaf rules)).result =
        .ok set.attributes ∧
      Level.close "baseprop" (mandatory set.attributes) [] [] = .ok set.base := by
  rw [compile] at compiled
  split at compiled
  · cases compiled
  · dsimp only at compiled
    split at compiled
    · cases compiled
    · next attributes leaves =>
      rcases except_map_eq_ok.mp compiled with ⟨base, closed, rfl⟩
      exact ⟨leaves, closed⟩

theorem compile_eq_ok (compiled : compile registry rules = .ok set) :
    set.attributes.names.Nodup ∧
      Level.close "baseprop" (mandatory set.attributes) [] [] = .ok set.base := by
  rcases leaves_of_compile compiled with ⟨leaves, closed⟩
  have noneBuilt : (NameMap.names ([] : NameMap Attribute)).Nodup := List.nodup_nil
  exact ⟨nodup_names_of_compileLeaves noneBuilt leaves, closed⟩

/-! ## Fields that are attributes -/

/-- Each of the fields is the attribute of its name. -/
def Describes (set : AttributeSet) (fields : List Field) : Prop :=
  ∀ field ∈ fields, ∃ attr, set.attributes.get? field.name = some attr ∧
    attr.spec.named field.name = field

theorem Describes.field_eq {fields : List Field} (described : set.Describes fields)
    {field : Field} (member : field ∈ fields) {attr : Attribute}
    (known : set.attributes.get? field.name = some attr) :
    attr.spec.named field.name = field := by
  rcases described field member with ⟨other, found, same⟩
  rw [known, Option.some.injEq] at found
  rw [found]
  exact same

theorem mem_mandatory {name : String} {spec : FieldSpec} :
    (name, spec) ∈ (mandatory set.attributes).fields ↔
      ∃ attr, (name, attr) ∈ set.attributes ∧ attr.spec.optional = false ∧
        attr.spec = spec := by
  simp [mandatory]
  grind

theorem describes_base (compiled : compile registry rules = .ok set) :
    set.Describes set.base.fields := by
  rcases compile_eq_ok compiled with ⟨distinct, closed⟩
  intro field member
  rcases Level.exists_of_mem_fields closed member with ⟨⟨name, spec⟩, isMandatory, rfl⟩
  rcases mem_mandatory.mp isMandatory with ⟨attr, known, -, rfl⟩
  exact ⟨attr, NameMap.get?_of_mem distinct known, rfl⟩

/-- The attributes that must be present are those that are not optional. -/
theorem mem_names_base_iff (compiled : compile registry rules = .ok set) {name : String}
    {attr : Attribute} (known : set.attributes.get? name = some attr) :
    name ∈ set.base.fields.map Field.name ↔ attr.spec.optional = false := by
  rcases compile_eq_ok compiled with ⟨distinct, closed⟩
  constructor
  · intro member
    rcases List.mem_map.mp member with ⟨field, isField, rfl⟩
    rcases Level.exists_of_mem_fields closed isField with ⟨⟨name, spec⟩, isMandatory, rfl⟩
    rcases mem_mandatory.mp isMandatory with ⟨other, found, required, rfl⟩
    have same := (NameMap.get?_of_mem distinct found).symm.trans known
    exact Option.some.inj same ▸ required
  · intro required
    rw [Level.fields_of_close_nil closed]
    refine List.mem_map.mpr ⟨attr.spec.named name, ?_, rfl⟩
    refine (Level.requiredFirst_perm _).mem_iff.mpr ?_
    exact List.mem_map.mpr ⟨(name, attr.spec),
      mem_mandatory.mpr ⟨attr, NameMap.mem_of_get? known, required, rfl⟩, rfl⟩

theorem mem_levelFor {keys : List String} {name : String} {spec : FieldSpec} :
    (name, spec) ∈ (set.levelFor keys).fields ↔
      name ∈ keys ∧ ∃ attr, set.attributes.get? name = some attr ∧
        attr.spec = spec := by
  rw [levelFor, List.mem_filterMap]
  constructor
  · rintro ⟨key, asked, made⟩
    rcases Option.map_eq_some_iff.mp made with ⟨attr, found, same⟩
    cases same
    exact ⟨asked, attr, found, rfl⟩
  · rintro ⟨asked, attr, found, rfl⟩
    exact ⟨name, asked, Option.map_eq_some_iff.mpr ⟨attr, found, rfl⟩⟩

/-- The names of a level of attributes are the names that were asked for. -/
theorem names_levelFor {keys : List String} (known : ∀ key ∈ keys, key ∈ set.attributes.names) :
    (set.levelFor keys).fields.map Prod.fst = keys := by
  rw [levelFor]
  induction keys with
  | nil => rfl
  | cons key rest ih =>
      rcases NameMap.mem_names_iff.mp (known key List.mem_cons_self) with ⟨attr, found⟩
      simp only [List.filterMap_cons, found, Option.map_some, List.map_cons]
      rw [ih fun other member => known other (List.mem_cons_of_mem key member)]

variable {keys : List String} {hint : String} {base type : RecordType} {path : DocPath}

theorem Describes.close (described : set.Describes base.fields)
    (closed : Level.close hint (set.levelFor keys) [base] path = .ok type) :
    set.Describes type.fields := by
  intro field member
  rw [(Level.close_eq_ok closed).2.2.1, (Level.requiredFirst_perm _).mem_iff] at member
  have inEither := (Level.mem_of_mem_foldl_putField member).resolve_left List.not_mem_nil
  rcases List.mem_append.mp inEither with inherited | own
  · rw [List.flatMap_singleton] at inherited
    exact described field inherited
  · rcases List.mem_map.mp own with ⟨⟨name, spec⟩, inLevel, rfl⟩
    rcases mem_levelFor.mp inLevel with ⟨-, attr, found, rfl⟩
    exact ⟨attr, found, rfl⟩

theorem mem_names_close (known : ∀ key ∈ keys, key ∈ set.attributes.names)
    (closed : Level.close hint (set.levelFor keys) [base] path = .ok type) {name : String} :
    name ∈ type.fields.map Field.name ↔ name ∈ base.fields.map Field.name ∨ name ∈ keys := by
  have added : ((set.levelFor keys).fields.map fun field => field.2.named field.1).map Field.name =
      keys := by
    rw [List.map_map]
    exact names_levelFor known
  rw [(Level.close_eq_ok closed).2.2.1, ((Level.requiredFirst_perm _).map Field.name).mem_iff,
    Level.mem_names_foldl_putField, List.flatMap_singleton, List.map_append, List.mem_append, added]
  simp

/-! ## Values of a declaration -/

theorem mem_names_of_keyAt? {path : DocPath} {key : String} (known : set.keyAt? path = some key) :
    key ∈ set.attributes.names := by
  rcases Option.map_eq_some_iff.mp known with ⟨entry, hit, rfl⟩
  exact List.mem_map_of_mem (List.mem_of_find?_eq_some hit)

theorem mem_names_of_valuesAt {declaration : Document} {paths : List DocPath}
    {selected : List (String × Document)}
    (selects : set.valuesAt declaration paths = .ok selected) :
    ∀ name ∈ NameMap.names selected, name ∈ set.attributes.names := by
  induction paths generalizing selected with
  | nil =>
      cases selects
      intro name member
      cases member
  | cons path rest ih =>
      rw [valuesAt] at selects
      split at selects
      · next key known =>
        rcases except_map_eq_ok.mp selects with ⟨others, later, rfl⟩
        cases path.get? declaration with
        | none => exact ih later
        | some value =>
            intro name member
            rcases List.mem_cons.mp member with rfl | inOthers
            · exact mem_names_of_keyAt? known
            · exact ih later name inOthers
      · split at selects
        · exact ih selects
        · cases selects

/-- A declaration gives values to attributes only. -/
theorem mem_names_of_selectValues {declaration : Document} {selected : List (String × Document)}
    (selects : set.selectValues declaration = .ok selected) :
    ∀ name ∈ NameMap.names selected, name ∈ set.attributes.names :=
  mem_names_of_valuesAt selects

end RuleSchema.AttributeSet
