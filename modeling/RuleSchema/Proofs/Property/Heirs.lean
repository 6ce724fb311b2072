import RuleSchema.Proofs.Property.Inheritance

/-!
# Properties that only inherit

A declaration of a new property that only names its parent can be added to declarations that
were composed, without a change for the others.  The new property is validated from the
written values of its parent, against the fields of its parent.
-/

namespace RuleSchema

/-! ## One more declaration -/

namespace PropertyDeclarations

variable {declarations built : PropertyDeclarations} {name parent : String}

/-- Declarations with one more, or another one under a declared name. -/
def declare (declarations : PropertyDeclarations) (name : String)
    (declaration : PropertyDeclaration) : PropertyDeclarations :=
  declarations.insert name declaration

/-- The declaration of a property that only inherits. -/
def heirOf (parent : String) : PropertyDeclaration := ⟨some parent, .mapping []⟩

/-- How that declaration is written. -/
def heirDocument (parent : String) : Document :=
  .mapping [(.string "parent", .string parent)]

theorem ofEntry_heirDocument : ofEntry name (heirDocument parent) = .ok (heirOf parent) := by
  have erased : Mapping.eraseField [(.string "parent", .string parent)] "parent" = [] := by
    simp [Mapping.eraseField, Mapping.isField]
  have stated : Mapping.field? [(.string "parent", .string parent)] "parent" =
      some (.string parent) := by
    simp [Mapping.field?, Mapping.isField]
  simp only [ofEntry, heirDocument, Except.bind, erased, stated]
  rfl

theorem ofEntries_append_heir {entries : List (Document × Document)}
    (read : ofEntries built entries = .ok declarations) :
    ofEntries built (entries ++ [(.string name, heirDocument parent)]) =
      .ok (declarations.declare name (heirOf parent)) := by
  induction entries generalizing built with
  | nil =>
      cases read
      have sameName : (Document.string name).keyText = name := rfl
      rw [List.nil_append, ofEntries, ofEntry_heirDocument, sameName]
      rfl
  | cons entry rest ih =>
      rw [ofEntries] at read
      rw [List.cons_append, ofEntries]
      split at read
      · cases read
      · next declaration ofHead =>
        exact ih read

theorem mem_names_ofEntries {entries : List (Document × Document)}
    (read : ofEntries built entries = .ok declarations) (known : name ∈ declarations.names) :
    name ∈ built.names ∨ ∃ entry ∈ entries, entry.1.keyText = name := by
  induction entries generalizing built with
  | nil =>
      cases read
      exact .inl known
  | cons entry rest ih =>
      rw [ofEntries] at read
      split at read
      · cases read
      · rcases ih read with inserted | ⟨other, member, same⟩
        · rcases NameMap.mem_names_insert.mp inserted with rfl | old
          · exact .inr ⟨entry, List.mem_cons_self, rfl⟩
          · exact .inl old
        · exact .inr ⟨other, List.mem_cons_of_mem entry member, same⟩

theorem up_declare_of_ne {declaration : PropertyDeclaration} {other : String}
    (different : other ≠ name) :
    (declarations.declare name declaration).up (some other) = declarations.up (some other) := by
  simp only [up, Option.bind_some, parent?, declare, NameMap.get?_insert_of_ne _ _ different]

/-- Only parents are above a property, and all of them are declared. -/
theorem IsSound.mem_names_of_up (sound : declarations.IsSound) {place : Option String}
    (above : declarations.up place = some parent) : parent ∈ declarations.names := by
  rcases Option.bind_eq_some_iff.mp above with ⟨below, -, isParent⟩
  exact sound.mem_names_of_parent? isParent

/-- Nothing is below a new property, so the ways up from the others stay as they are. -/
theorem IsSound.up_iterate_declare (sound : declarations.IsSound)
    (fresh : name ∉ declarations.names) {declaration : PropertyDeclaration} {other : String}
    (different : other ≠ name) (steps : Nat) :
    (declarations.declare name declaration).up^[steps] (some other) =
      declarations.up^[steps] (some other) := by
  induction steps generalizing other with
  | zero => rfl
  | succ steps ih =>
      rw [Function.iterate_succ_apply, Function.iterate_succ_apply, up_declare_of_ne different]
      cases above : declarations.up (some other) with
      | none => rw [up_iterate_none, up_iterate_none]
      | some parent =>
          refine ih ?_
          rintro rfl
          exact fresh (sound.mem_names_of_up above)

theorem IsSound.isAcyclic_declare (sound : declarations.IsSound)
    (fresh : name ∉ declarations.names) {declaration : PropertyDeclaration}
    (declared : ∀ parent, declaration.parent = some parent → parent ∈ declarations.names) :
    (declarations.declare name declaration).IsAcyclic := by
  rintro other ⟨steps, around⟩
  by_cases same : other = name
  · -- The way up from the new property leads to declared ones only.
    subst same
    have first : (declarations.declare other declaration).up (some other) = declaration.parent := by
      simp only [up, Option.bind_some, parent?, declare, NameMap.get?_insert_self]
    rw [Function.iterate_succ_apply, first] at around
    cases isParent : declaration.parent with
    | none =>
        rw [isParent, up_iterate_none] at around
        cases around
    | some parent =>
        have known := declared parent isParent
        have different : parent ≠ other := by
          rintro rfl
          exact fresh known
        rw [isParent, sound.up_iterate_declare fresh different] at around
        cases steps with
        | zero => exact different (Option.some.inj around)
        | succ steps =>
            rw [Function.iterate_succ_apply'] at around
            exact fresh (sound.mem_names_of_up around)
  · rw [sound.up_iterate_declare fresh same] at around
    exact sound.acyclic other ⟨steps, around⟩

theorem checkNames_eq_ok_iff {names : List String} :
    PropertySet.checkNames names = .ok () ↔
      ∀ name ∈ names, Level.checkName "properties" name = .ok () := by
  induction names with
  | nil => simp [PropertySet.checkNames]
  | cons name rest ih =>
      rw [PropertySet.checkNames, List.forall_mem_cons, ← ih]
      cases Level.checkName "properties" name with
      | error error => simp
      | ok => simp

/-- A new property with a valid name and a declared parent, or none, can be added. -/
theorem IsSound.declare (sound : declarations.IsSound) (fresh : name ∉ declarations.names)
    (valid : Level.checkName "properties" name = .ok ()) {declaration : PropertyDeclaration}
    (declared : ∀ parent, declaration.parent = some parent → parent ∈ declarations.names) :
    (declarations.declare name declaration).IsSound where
  distinct := NameMap.nodup_names_insert sound.distinct name declaration
  namesValid := by
    refine checkNames_eq_ok_iff.mpr fun other known => ?_
    rcases NameMap.mem_names_insert.mp known with rfl | old
    · exact valid
    · exact checkNames_eq_ok_iff.mp sound.namesValid other old
  parentsDeclared := by
    refine missingParent?_eq_none_iff.mpr fun entry member parent isParent => ?_
    refine NameMap.mem_names_insert.mpr (.inr ?_)
    rcases NameMap.mem_of_mem_insert member with rfl | old
    · exact declared parent isParent
    · exact missingParent?_eq_none_iff.mp sound.parentsDeclared entry old parent isParent
  acyclic := sound.isAcyclic_declare fresh declared

end PropertyDeclarations

/-! ## Types with the same fields -/

namespace RecordType

variable {store : FileStore} {document : Document}

/-- What a type makes of a document depends on its fields and validators only. -/
theorem instantiate_congr {first second : RecordType} (fields : first.fields = second.fields)
    (validators : first.validators = second.validators) (path : DocPath) :
    first.instantiate store document path = second.instantiate store document path := by
  rcases first with ⟨name, ownFields, ownValidators, bases⟩
  rcases second with ⟨otherName, otherFields, otherValidators, otherBases⟩
  cases fields
  cases validators
  cases mapping : document.untagOnce.asMapping? with
  | none => rw [instantiate_of_not_mapping _ _ mapping, instantiate_of_not_mapping _ _ mapping]
  | some entries =>
      rw [instantiate_of_asMapping? _ _ mapping, instantiate_of_asMapping? _ _ mapping]
      rfl

end RecordType

namespace AttributeSet

variable {set : AttributeSet}

/-- No attribute has a validator. -/
def IsUnchecked (set : AttributeSet) : Prop :=
  ∀ entry ∈ set.attributes, entry.2.spec.validators = []

theorem IsUnchecked.declared_eq_nil (unchecked : set.IsUnchecked) {level : Level}
    (noOwn : level.validators = [])
    (attributes : ∀ field ∈ level.fields, ∃ entry ∈ set.attributes, entry.2.spec = field.2) :
    level.declared = [] := by
  apply Level.declared_eq_nil noOwn
  intro field member
  rcases attributes field member with ⟨entry, known, same⟩
  rw [← same, unchecked entry known]

end AttributeSet

/-! ## Properties that only inherit -/

namespace PropertySet

variable {store : FileStore} {registry : Registry} {rules : Document} {set : AttributeSet}
  {defaults : NameMap Document} {declarations : PropertyDeclarations}

theorem exists_close_of_composeFrom {parent : Option Instance} {name : String}
    {declaration : PropertyDeclaration} {record : Instance}
    (composes : composeFrom store set defaults parent name declaration = .ok record) :
    ∃ keys, Level.close name (set.levelFor keys) [baseOf set parent] [.key name] =
      .ok record.type := by
  rcases composeFrom_eq_ok.mp composes with ⟨selected, type, -, closed, validated⟩
  rcases RecordType.gives_of_validate validated with ⟨rfl, -⟩
  exact ⟨_, closed⟩

theorem validators_eq_nil_of_close (unchecked : set.IsUnchecked) {keys : List String}
    {hint : String} {base type : RecordType} {path : DocPath} (baseUnchecked : base.validators = [])
    (closed : Level.close hint (set.levelFor keys) [base] path = .ok type) :
    type.validators = [] := by
  have declaredNone : (set.levelFor keys).declared = [] := by
    refine unchecked.declared_eq_nil rfl ?_
    rintro ⟨name, spec⟩ member
    rcases AttributeSet.mem_levelFor.mp member with ⟨-, attr, known, same⟩
    exact ⟨(name, attr), NameMap.mem_of_get? known, same⟩
  rw [(Level.close_eq_ok closed).2.2.2, List.flatMap_singleton, baseUnchecked, declaredNone]
  rfl

theorem validators_base_eq_nil (unchecked : set.IsUnchecked)
    (compiled : AttributeSet.compile registry rules = .ok set) : set.base.validators = [] := by
  have declaredNone : (AttributeSet.mandatory set.attributes).declared = [] := by
    refine unchecked.declared_eq_nil rfl ?_
    rintro ⟨name, spec⟩ member
    rcases AttributeSet.mem_mandatory.mp member with ⟨attr, known, -, same⟩
    exact ⟨(name, attr), known, same⟩
  rw [(Level.close_eq_ok (AttributeSet.compile_eq_ok compiled).2).2.2.2, declaredNone]
  rfl

namespace Composed

variable {name : String} {record : Instance}

theorem exists_close (composed : Composed store set defaults declarations name record) :
    ∃ keys base, Level.close name (set.levelFor keys) [base] [.key name] = .ok record.type := by
  cases composed with
  | root known noParent composes =>
      rcases exists_close_of_composeFrom composes with ⟨keys, closed⟩
      exact ⟨keys, _, closed⟩
  | heir known hasParent inherited composes =>
      rcases exists_close_of_composeFrom composes with ⟨keys, closed⟩
      exact ⟨keys, _, closed⟩

theorem validators_eq_nil (composed : Composed store set defaults declarations name record)
    (unchecked : set.IsUnchecked) (compiled : AttributeSet.compile registry rules = .ok set) :
    record.type.validators = [] := by
  induction composed with
  | root known noParent composes =>
      rcases exists_close_of_composeFrom composes with ⟨keys, closed⟩
      exact validators_eq_nil_of_close unchecked (validators_base_eq_nil unchecked compiled) closed
  | heir known hasParent inherited composes ih =>
      rcases exists_close_of_composeFrom composes with ⟨keys, closed⟩
      exact validators_eq_nil_of_close unchecked ih closed

/-- A property that only inherits starts from the written values of its parent. -/
theorem valuesOf_eq (composed : Composed store set defaults declarations name record)
    (compiled : AttributeSet.compile registry rules = .ok set) :
    valuesOf defaults (some record) record.type.fields [] = Value.toMapping record.values := by
  have filled := composed.isFilled compiled
  have present : ∀ field ∈ record.type.fields, field.name ∈ (inherited (some record)).names := by
    intro field member
    rw [inherited, NameMap.names_mapValues]
    exact (filled.mem_names_iff field.name).mpr (List.mem_map_of_mem member)
  have unchanged : startOf defaults (some record) record.type.fields [] =
      inherited (some record) := by
    rw [startOf, filled_of_present present]
    rfl
  rw [valuesOf_eq_ofNames (isFilledParent_some filled).nodup_names, unchanged,
    Value.toMapping_eq_map, Mapping.ofNames, inherited, List.map_map]
  rfl

/-- A property that only inherits has the values of its parent, if these can be read again. -/
theorem composeFrom_heirOf_iff (composed : Composed store set defaults declarations name record)
    (unchecked : set.IsUnchecked) (compiled : AttributeSet.compile registry rules = .ok set)
    {parent heirName : String} :
    (∃ heir, composeFrom store set defaults (some record) heirName
        (PropertyDeclarations.heirOf parent) = .ok heir ∧ heir.values = record.values) ↔
      record.type.validate store record.toDocument = .ok record := by
  rcases composed.exists_close with ⟨keys, base, closed⟩
  have distinct := Level.nodup_fields_of_close closed
  have ordered : Level.requiredFirst record.type.fields = record.type.fields := by
    rw [(Level.close_eq_ok closed).2.2.1, Level.requiredFirst_idem]
  have noValidators := composed.validators_eq_nil unchecked compiled
  -- The type of the heir differs from that of the record in its name and bases.
  have sameType {type : RecordType} (heirClosed : Level.close heirName (set.levelFor [])
      [record.type] [.key heirName] = .ok type) :
      type.fields = record.type.fields ∧ ∀ document,
        type.instantiate store document [] = record.type.instantiate store document [] := by
    have fields := Level.fields_of_close_inheriting distinct ordered heirClosed
    have validators : type.validators = record.type.validators := by
      rw [noValidators]
      exact validators_eq_nil_of_close unchecked noValidators heirClosed
    exact ⟨fields, fun document => RecordType.instantiate_congr fields validators []⟩
  have written : record.toDocument = .mapping (Value.toMapping record.values) := rfl
  constructor
  · rintro ⟨heir, composes, same⟩
    rcases composeFrom_eq_ok.mp composes with ⟨selected, type, selects, heirClosed, validated⟩
    obtain rfl : [] = selected := Except.ok.inj selects
    rcases sameType heirClosed with ⟨fields, instantiates⟩
    rw [fields, composed.valuesOf_eq compiled] at validated
    rcases RecordType.validate_eq_ok_iff.mp validated with ⟨-, found⟩
    rw [RecordType.validate_eq_ok_iff, written, ← instantiates, found, same]
    exact ⟨rfl, rfl⟩
  · intro validated
    rcases RecordType.validate_eq_ok_iff.mp validated with ⟨-, found⟩
    have heirClosed : ∃ type, Level.close heirName (set.levelFor []) [record.type]
        [.key heirName] = .ok type := ⟨_, rfl⟩
    rcases heirClosed with ⟨type, heirClosed⟩
    rcases sameType heirClosed with ⟨fields, instantiates⟩
    refine ⟨⟨type, record.values⟩, composeFrom_eq_ok.mpr ⟨[], type, rfl, heirClosed, ?_⟩, rfl⟩
    rw [fields, composed.valuesOf_eq compiled, RecordType.validate_eq_ok_iff, instantiates]
    exact ⟨rfl, found⟩

end Composed

/-- Declarations compose, and a property among them has the given values. -/
def ComposesTo (store : FileStore) (set : AttributeSet) (defaults : NameMap Document)
    (document : Document) (name : String) (values : NameMap Value) : Prop :=
  ∃ result record, compose store set defaults document = .ok result ∧
    result.properties.get? name = some record ∧ record.values = values

variable {document more : Document} {entries : Mapping} {result : PropertySet}
  {name parent : String} {record : Instance}

/-- Declarations of a new heir, beside those of properties that compose. -/
theorem declarations_of_heir (mapping : document.asMapping? = some entries)
    (extended : more.asMapping? =
      some (entries ++ [(.string name, PropertyDeclarations.heirDocument parent)]))
    (fresh : ∀ entry ∈ entries, entry.1.keyText ≠ name)
    (read : PropertyDeclarations.ofDocument document = .ok declarations) :
    PropertyDeclarations.ofDocument more =
        .ok (declarations.declare name (PropertyDeclarations.heirOf parent)) ∧
      name ∉ declarations.names := by
  rw [PropertyDeclarations.ofDocument, mapping] at read
  rw [PropertyDeclarations.ofDocument, extended]
  refine ⟨PropertyDeclarations.ofEntries_append_heir read, ?_⟩
  intro known
  rcases PropertyDeclarations.mem_names_ofEntries read known with none | ⟨entry, member, same⟩
  · cases none
  · exact fresh entry member same

/-- A new heir composes just if its own record does. -/
theorem composesTo_heir_iff (composes : compose store set defaults document = .ok result)
    (mapping : document.asMapping? = some entries)
    (found : result.properties.get? parent = some record)
    (valid : Level.checkName "properties" name = .ok ())
    (fresh : ∀ entry ∈ entries, entry.1.keyText ≠ name)
    (extended : more.asMapping? =
      some (entries ++ [(.string name, PropertyDeclarations.heirDocument parent)]))
    {values : NameMap Value} :
    ComposesTo store set defaults more name values ↔
      ∃ heir, composeFrom store set defaults (some record) name
        (PropertyDeclarations.heirOf parent) = .ok heir ∧ heir.values = values := by
  rcases compose_eq_ok composes with ⟨declarations, read, sound, each, isFound⟩
  have composed := (isFound parent record).mp found
  rcases declarations_of_heir mapping extended fresh read with ⟨readMore, unknown⟩
  have kept : ∀ other declaration, declarations.get? other = some declaration →
      (declarations.declare name (PropertyDeclarations.heirOf parent)).get? other =
        some declaration := by
    intro other declaration known
    have different : other ≠ name := by
      rintro rfl
      exact unknown (NameMap.mem_names_iff.mpr ⟨declaration, known⟩)
    rw [PropertyDeclarations.declare, NameMap.get?_insert_of_ne _ _ different]
    exact known
  have own : (declarations.declare name (PropertyDeclarations.heirOf parent)).get? name =
      some (PropertyDeclarations.heirOf parent) := NameMap.get?_insert_self _ _ _
  constructor
  · rintro ⟨moreResult, heir, composesMore, heirFound, same⟩
    rcases compose_eq_ok composesMore with ⟨_, readAgain, -, -, isFoundMore⟩
    obtain rfl := Except.ok.inj (readMore.symm.trans readAgain)
    cases (isFoundMore name heir).mp heirFound with
    | root known noParent _ =>
        rw [own] at known
        cases known
        cases noParent
    | heir known hasParent inherited composesHeir =>
        rw [own] at known
        cases known
        cases hasParent
        rw [inherited.unique (composed.mono kept)] at composesHeir
        exact ⟨heir, composesHeir, same⟩
  · rintro ⟨heir, composesHeir, same⟩
    have heirComposed : Composed store set defaults
        (declarations.declare name (PropertyDeclarations.heirOf parent)) name heir :=
      .heir own rfl (composed.mono kept) composesHeir
    have soundMore : (declarations.declare name (PropertyDeclarations.heirOf parent)).IsSound := by
      refine sound.declare unknown valid ?_
      rintro _ ⟨⟩
      exact composed.mem_names
    have eachMore : ∀ other ∈
        (declarations.declare name (PropertyDeclarations.heirOf parent)).names,
        ∃ found, Composed store set defaults
          (declarations.declare name (PropertyDeclarations.heirOf parent)) other found := by
      intro other known
      rcases NameMap.mem_names_insert.mp known with rfl | old
      · exact ⟨heir, heirComposed⟩
      · rcases each other old with ⟨found, wasComposed⟩
        exact ⟨found, wasComposed.mono kept⟩
    rcases exists_compose readMore soundMore eachMore with ⟨moreResult, composesMore⟩
    rcases compose_eq_ok composesMore with ⟨_, readAgain, -, -, isFoundMore⟩
    obtain rfl := Except.ok.inj (readMore.symm.trans readAgain)
    exact ⟨moreResult, heir, composesMore, (isFoundMore name heir).mpr heirComposed, same⟩

/-- The written values of a property can be read again where those of its attributes can. -/
theorem Composed.validate_toDocument_of_isRereadable
    (composed : Composed store set defaults declarations name record)
    (unchecked : set.IsUnchecked) (compiled : AttributeSet.compile registry rules = .ok set)
    (rereadable : ∀ entry ∈ set.attributes, entry.2.spec.type.IsRereadable False) :
    record.type.validate store record.toDocument = .ok record := by
  have given : ∃ source, (record.type.instantiate store source []).Gives record.values := by
    cases composed with
    | root known noParent composes =>
        rcases composeFrom_eq_ok.mp composes with ⟨selected, type, -, -, validated⟩
        rcases RecordType.gives_of_validate validated with ⟨rfl, instantiated⟩
        exact ⟨_, instantiated⟩
    | heir known hasParent inherited composes =>
        rcases composeFrom_eq_ok.mp composes with ⟨selected, type, -, -, validated⟩
        rcases RecordType.gives_of_validate validated with ⟨rfl, instantiated⟩
        exact ⟨_, instantiated⟩
  rcases given with ⟨source, instantiated⟩
  rcases composed.exists_close with ⟨keys, base, closed⟩
  have rereads : ∀ field ∈ record.type.fields, field.type.Rereads store False := by
    intro field member
    rcases (composed.isFilled compiled).described field member with ⟨attr, known, same⟩
    have sameType : field.type = attr.spec.type := (congrArg Field.type same).symm
    rw [sameType]
    exact ValueType.rereads_of_isRereadable (rereadable _ (NameMap.mem_of_get? known))
  have repeats : record.type.RepeatsChecks := by
    intro validator member
    rw [composed.validators_eq_nil unchecked compiled] at member
    cases member
  have confirmed := RecordType.confirms_instantiate (Level.nodup_fields_of_close closed) rereads
    (.inr repeats) instantiated []
  exact RecordType.validate_eq_ok_iff.mpr ⟨rfl, confirmed.eq_found⟩

/--
A new property that only names its parent composes, with the values of the parent, just if
the type of the parent takes its own written values for what they were.  It does where the
types of the attributes have no choice, no coercion of their own and only free texts as keys.
-/
theorem compose_heir_iff (store : FileStore) (registry : Registry) (rules : Document)
    (set : AttributeSet) (defaults : NameMap Document) (document more : Document)
    (entries : Mapping) (result : PropertySet) (name parent : String) (record : Instance)
    (compiled : AttributeSet.compile registry rules = .ok set) (unchecked : set.IsUnchecked)
    (mapping : document.asMapping? = some entries)
    (composes : compose store set defaults document = .ok result)
    (found : result.properties.get? parent = some record)
    (valid : Level.checkName "properties" name = .ok ())
    (fresh : ∀ entry ∈ entries, entry.1.keyText ≠ name)
    (extended : more.asMapping? =
      some (entries ++ [(.string name, PropertyDeclarations.heirDocument parent)])) :
    (ComposesTo store set defaults more name record.values ↔
        record.type.validate store record.toDocument = .ok record) ∧
      ((∀ entry ∈ set.attributes, entry.2.spec.type.IsRereadable False) →
        ComposesTo store set defaults more name record.values) := by
  rcases compose_eq_ok composes with ⟨declarations, -, -, -, isFound⟩
  have composed := (isFound parent record).mp found
  have condition : ComposesTo store set defaults more name record.values ↔
      record.type.validate store record.toDocument = .ok record :=
    (composesTo_heir_iff composes mapping found valid fresh extended).trans
      (composed.composeFrom_heirOf_iff unchecked compiled)
  refine ⟨condition, fun rereadable => condition.mpr ?_⟩
  exact composed.validate_toDocument_of_isRereadable unchecked compiled rereadable

theorem compose_heir_iff_pipes :
    ∃ set result record,
      AttributeSet.compile .standard (Attribute.stripped pipeRules) = .ok set ∧
      set.IsUnchecked ∧
      compose .empty set (Attribute.defaults pipeRules) (.mapping pipeEntries) = .ok result ∧
      result.properties.get? "branch" = some record ∧
      record.type.validate .empty record.toDocument = .ok record ∧
      ComposesTo .empty set (Attribute.defaults pipeRules)
        (.mapping (pipeEntries ++ [(.string "spare", PropertyDeclarations.heirDocument "branch")]))
        "spare" record.values := by
  have checked : ((AttributeSet.compile .standard (Attribute.stripped pipeRules)).toOption.any
      fun set =>
        (set.attributes.all fun entry => entry.2.spec.validators.isEmpty &&
          entry.2.spec.type.everyWithin (fun part => part.isPlain &&
            decide (part.NamesDistinctly ∧ part.HasScalarOptions ∧ part.RepeatsChecks)) 3) &&
        ((compose .empty set (Attribute.defaults pipeRules) (.mapping pipeEntries)).toOption.any
          fun result => (result.properties.get? "branch").isSome)) = true := by
    decide +kernel
  cases compiled : AttributeSet.compile .standard (Attribute.stripped pipeRules) with
  | error error =>
      rw [compiled] at checked
      cases checked
  | ok set =>
      rw [compiled] at checked
      simp only [Except.toOption, Option.any_some, Bool.and_eq_true, List.all_eq_true] at checked
      rcases checked with ⟨conditions, composed⟩
      have unchecked : set.IsUnchecked :=
        fun entry member => List.isEmpty_iff.mp (conditions entry member).1
      cases composes : compose .empty set (Attribute.defaults pipeRules)
          (.mapping pipeEntries) with
      | error error =>
          rw [composes] at composed
          cases composed
      | ok result =>
          rw [composes] at composed
          rcases Option.isSome_iff_exists.mp composed with ⟨record, found⟩
          rcases compose_heir_iff .empty .standard (Attribute.stripped pipeRules) set
              (Attribute.defaults pipeRules) (.mapping pipeEntries)
              (.mapping (pipeEntries ++
                [(.string "spare", PropertyDeclarations.heirDocument "branch")]))
              pipeEntries result "spare" "branch" record compiled unchecked rfl composes found rfl
              (by decide) rfl with
            ⟨condition, sufficient⟩
          have inherits := sufficient fun entry member =>
            (ValueType.throughout_of_everyWithin (conditions entry member).2).imp fun part both => by
              rcases Bool.and_eq_true_iff.mp both with ⟨plain, others⟩
              rcases of_decide_eq_true others with ⟨names, scalars, repeats⟩
              exact ⟨⟨plain, names⟩, .inr ⟨scalars, repeats⟩⟩
          exact ⟨set, result, record, rfl, unchecked, composes, found, condition.mp inherits,
            inherits⟩

/-- Services by the numbers of their ports, which must be numbers. -/
def portRules : Document :=
  Rule.branchOf
    [ ("ports", .mapping
        [ (.string "type", .string "Dict"),
          (.string "opts", .sequence [.string "StrictInt", .string "str"]) ]) ]

/-- One property with a port that is no text. -/
def portEntries : Mapping :=
  [ (.string "base", .mapping
      [(.string "ports", .mapping [(.ofInt64 80, .string "http")])]) ]

/-- The number of a port is written as a text, which the type of the heir does not take. -/
theorem not_composesTo_heir_ports :
    ∃ set result record, AttributeSet.compile .standard portRules = .ok set ∧
      set.IsUnchecked ∧ compose .empty set [] (.mapping portEntries) = .ok result ∧
      result.properties.get? "base" = some record ∧
      Level.checkName "properties" "heir" = .ok () ∧
      (∀ entry ∈ portEntries, entry.1.keyText ≠ "heir") ∧
      ¬ComposesTo .empty set []
        (.mapping (portEntries ++ [(.string "heir", PropertyDeclarations.heirDocument "base")]))
        "heir" record.values := by
  have checked : ((AttributeSet.compile .standard portRules).toOption.any fun set =>
      (set.attributes.all fun entry => entry.2.spec.validators.isEmpty) &&
      ((compose .empty set [] (.mapping portEntries)).toOption.any fun result =>
        (result.properties.get? "base").isSome) &&
      !(compose .empty set [] (.mapping
        (portEntries ++ [(.string "heir", PropertyDeclarations.heirDocument "base")]))).isOk) =
      true := by
    decide +kernel
  cases compiled : AttributeSet.compile .standard portRules with
  | error error =>
      rw [compiled] at checked
      cases checked
  | ok set =>
      rw [compiled] at checked
      simp only [Except.toOption, Option.any_some, Bool.and_eq_true, List.all_eq_true] at checked
      rcases checked with ⟨⟨unchecked, composed⟩, refused⟩
      cases composes : compose .empty set [] (.mapping portEntries) with
      | error error =>
          rw [composes] at composed
          cases composed
      | ok result =>
          rw [composes] at composed
          rcases Option.isSome_iff_exists.mp composed with ⟨record, found⟩
          refine ⟨set, result, record, rfl, ?_, composes, found, rfl, by decide, ?_⟩
          · exact fun entry member => List.isEmpty_iff.mp (unchecked entry member)
          · rintro ⟨moreResult, heir, composesMore, -⟩
            rw [composesMore] at refused
            cases refused

end PropertySet

end RuleSchema
