import RuleSchema.Compile.Load
import RuleSchema.Proofs.Compile.Pruning
import RuleSchema.Proofs.Document.Merging

/-!
# Loading and validating

Loading a configuration drops the optional rules that it does not mention before the rules
are compiled.  Where rules and configuration alone give a record, loading gives the same one
if every record of the rules keeps a leaf; it fails if one does not.
-/

namespace RuleSchema

/-! ## Records that a configuration has -/

theorem Level.mem_fields_of_close {hint : String} {level : Level} {path : DocPath}
    {type : RecordType} (closed : close hint level [] path = .ok type)
    {field : String × FieldSpec} (member : field ∈ level.fields) :
    field.2.named field.1 ∈ type.fields := by
  rw [fields_of_close_nil closed]
  exact (requiredFirst_perm _).mem_iff.mpr (List.mem_map_of_mem member)

namespace Schema

open Rule Outcome

variable {store : FileStore} {registry : Registry} {gone : List DocPath} {path : DocPath}
  {entries : Mapping} {value : Document}

/-- A document is a record of the type that the entries of a mapping at a path close to. -/
def IsRecordOf (store : FileStore) (registry : Registry) (path : DocPath) (entries : Mapping)
    (document : Document) : Prop :=
  ∃ fields hint validators closing type place values,
    fieldsIn registry path entries = .ok fields ∧
      Level.close hint ⟨fields, validators⟩ [] closing = .ok type ∧
      type.instantiate store document place = .found values

variable {key document : Document}

/-- Every key of a record is the name of a field. -/
theorem IsRecordOf.exists_entry (isRecord : IsRecordOf store registry path entries document)
    {input : Mapping} (mapping : document.untagOnce.asMapping? = some input)
    {given : Document × Document} (member : given ∈ input) :
    ∃ entry ∈ entries, entry.1.keyText = given.1.keyText ∧
      isReservedText given.1.keyText = false := by
  rcases isRecord with
    ⟨fields, hint, validators, closing, type, place, values, built, closed, instantiated⟩
  rcases RecordType.reads_of_instantiate (Level.nodup_fields_of_close closed)
    (eq_found_iff.mp instantiated).1 with ⟨own, ownMapping, named, -⟩
  cases ownMapping.symm.trans mapping
  rcases named given member with ⟨field, isField, same⟩
  rcases Level.exists_of_mem_fields closed isField with ⟨spec, isSpec, rfl⟩
  have isName : given.1.keyText ∈ Level.fieldNames entries := by
    rw [← names_of_fieldsIn built, ← same]
    exact List.mem_map_of_mem isSpec
  rw [Level.fieldNames, List.mem_filter, List.mem_map] at isName
  rcases isName with ⟨⟨entry, known, sameText⟩, free⟩
  exact ⟨entry, known, sameText, by simpa using free⟩

/-- A record has a record at each of its fields that is one by the rules. -/
theorem IsRecordOf.exists_field (isRecord : IsRecordOf store registry path entries document)
    {inner : Mapping} (member : (key, .mapping inner) ∈ entries)
    (free : isReservedText key.keyText = false) (untyped : inner.hasField "type" = false) :
    ∃ input found, document.untagOnce.asMapping? = some input ∧
      (Mapping.byText input).get? key.keyText = some found ∧
      IsRecordOf store registry (path.child (PathKey.ofDocument key)) inner found.untagOnce := by
  rcases isRecord with
    ⟨fields, hint, validators, closing, type, place, values, built, closed, instantiated⟩
  rcases exists_fieldAt_of_mem built member free with ⟨field, fieldBuilt, isField⟩
  rcases fieldAt_record_eq_ok untyped fieldBuilt with
    ⟨_, _, innerFields, innerType, -, -, innerBuilt, innerClosed, rfl⟩
  rcases RecordType.reads_of_instantiate (Level.nodup_fields_of_close closed)
    (eq_found_iff.mp instantiated).1 with ⟨input, mapping, -, each⟩
  rcases each _ (Level.mem_fields_of_close closed isField) with ⟨reads, required⟩
  refine ⟨input, ?_⟩
  cases present : (Mapping.byText input).get? key.keyText with
  | none =>
      have missing := reads.isSome_eq
      simp only [FieldSpec.named, present] at missing
      have absent := Option.isNone_iff_eq_none.mp (Option.isSome_eq_false_iff.mp missing)
      cases required absent
  | some found =>
      refine ⟨found, mapping, rfl, ?_⟩
      simp only [FieldSpec.named, present, Option.some_or] at reads
      generalize values.get? key.keyText = result at reads
      cases reads with
      | coerced coerced =>
          rcases ValueType.coerce_record_eq_found.mp coerced with ⟨inside, innerGiven, -⟩
          exact ⟨_, _, _, _, _, _, _, innerBuilt, innerClosed, innerGiven⟩

/-- A record by the rules and by the pruned rules shows that none of its records is gone. -/
theorem spared_of_isRecordOf {below : DocPath} (leads : Leads (.mapping entries) below value)
    (tidy : IsTidy (.mapping entries)) (untyped : describesValue value = false)
    (whole : IsRecordOf store registry path entries document)
    (pruned : IsRecordOf store registry path (pruneEntries gone path entries) document) :
    Spared gone path below := by
  induction below generalizing path entries document with
  | nil => trivial
  | cons step rest ih =>
      rcases leads_cons_iff.mp leads with ⟨own, key, inner, same, noType, member, free, rfl, lower⟩
      cases same
      have isRecord : describesValue inner = false := by
        cases rest with
        | nil => rw [leads_nil_iff.mp lower, untyped]
        | cons next more =>
            rcases leads_cons_iff.mp lower with ⟨_, _, _, rfl, innerUntyped, -⟩
            exact innerUntyped
      rcases tidy.fields noType with ⟨distinct, each⟩
      have innerTidy := (each _ member free).2
      rcases innerTidy.eq_mapping isRecord with ⟨innerEntries, rfl, innerUntyped⟩
      rcases whole.exists_field member free innerUntyped with
        ⟨input, found, mapping, present, innerWhole⟩
      rcases Mapping.mem_of_get?_byText present with ⟨givenKey, given, sameText⟩
      rcases pruned.exists_entry mapping given with ⟨⟨otherKey, otherValue⟩, known, same, otherFree⟩
      have keyText : otherKey.keyText = key.keyText := same.trans sameText
      rcases field_of_mem_pruneEntries known (keyText ▸ free) with ⟨kept, original, isEntry, rfl⟩
      cases Level.eq_of_keyText_eq distinct isEntry member (keyText ▸ free) keyText
      rw [prune_record innerUntyped] at known
      rcases pruned.exists_field known free (hasField_pruneEntries.trans innerUntyped) with
        ⟨again, alsoFound, alsoMapping, alsoPresent, innerPruned⟩
      cases alsoMapping.symm.trans mapping
      cases alsoPresent.symm.trans present
      exact ⟨kept, ih lower innerTidy innerWhole innerPruned⟩

theorem isRecordOf_of_recordOf {type : RecordType} {values : NameMap Value} {place : DocPath}
    (recursive : recordOf registry entries = .ok type)
    (given : type.instantiate store document place = .found values) :
    IsRecordOf store registry [] entries document := by
  rcases except_bind_eq_ok.mp recursive with ⟨fields, built, recursive⟩
  rcases except_bind_eq_ok.mp recursive with ⟨validators, -, closed⟩
  exact ⟨fields, _, validators, _, type, place, values, built, closed, given⟩

/-! ## Records that keep a leaf -/

variable {rules configuration : Document}

/-- A record below the root is a branch, where the structure is accepted. -/
theorem mem_branches_of_record (tidy : IsTidy rules)
    (accepted : checkStructure rules (leaves rules) (branches rules) = .ok ())
    (leads : Leads rules path value) (notRoot : path ≠ [])
    (untyped : describesValue value = false) : path ∈ branches rules := by
  have node : path ∈ pathsWhere isNode rules :=
    mem_nodePaths_iff.mpr ⟨leads.isFree, value, leads.holds notRoot⟩
  have noLeaf (above below : DocPath) (parts : above ++ below = path) : above ∉ leaves rules :=
    tidy.not_leaf_of_leads (parts ▸ leads) untyped
  rcases checkStructure_eq_ok_iff.mp accepted path node with leaf | branch | below
  · exact absurd leaf (noLeaf path [] (List.append_nil path))
  · exact branch
  · rcases hasLeafAncestor_iff.mp below with ⟨above, isLeaf, isAbove⟩
    rcases DocPath.isAncestorOf_iff.mp isAbove with ⟨rest, -, rfl⟩
    exact absurd isLeaf (noLeaf above rest rfl)

/-- A leaf is at a path of fields just if it lies in no other leaf. -/
theorem leadsToLeaf_iff (tidy : IsTidy rules) (root : describesValue rules = false) :
    LeadsToLeaf rules path ↔ path ∈ leaves rules ∧ hasLeafAncestor (leaves rules) path = false := by
  constructor
  · rintro ⟨notRoot, leaf, leads, typed⟩
    refine ⟨leads.mem_leaves notRoot typed, ?_⟩
    rw [Bool.eq_false_iff]
    intro below
    rcases hasLeafAncestor_iff.mp below with ⟨above, isLeaf, isAbove⟩
    rcases DocPath.isAncestorOf_iff.mp isAbove with ⟨rest, further, rfl⟩
    rcases leads.split with ⟨record, upper, lower⟩
    rcases List.exists_cons_of_ne_nil further with ⟨step, more, rfl⟩
    rcases leads_cons_iff.mp lower with ⟨entries, _, _, rfl, untyped, -⟩
    have whole : Leads rules (above ++ []) (.mapping entries) := by simpa using upper
    exact tidy.not_leaf_of_leads whole untyped isLeaf
  · rintro ⟨isLeaf, notInLeaf⟩
    rcases mem_leafPaths_iff.mp (Rule.mem_leaves.mp isLeaf) with ⟨free, value, holds, typed⟩
    exact ⟨holds.ne_nil, value, tidy.leads_of_not_in_leaf root holds free notInLeaf, typed⟩

/-- A leaf stays for a configuration: it lies in no other leaf, and is required or mentioned. -/
def Stays (rules configuration : Document) (leaf : DocPath) : Prop :=
  hasLeafAncestor (leaves rules) leaf = false ∧
    (leaf ∉ pathsWhere isOptional rules ∨ leaf ∈ nodes configuration)

instance (rules configuration : Document) : DecidablePred (Stays rules configuration) :=
  fun _ => inferInstanceAs (Decidable (_ ∧ _))

theorem keepsRecords_iff (tidy : IsTidy rules) (root : describesValue rules = false)
    (accepted : checkStructure rules (leaves rules) (branches rules) = .ok ()) :
    KeepsRecords rules (unmentioned rules configuration) ↔
      ∀ branch ∈ branches rules, ∃ leaf ∈ leaves rules, branch.isAncestorOf leaf = true ∧
        Stays rules configuration leaf := by
  have stays (leaf : DocPath) : leaf ∈ leaves rules ∧ Stays rules configuration leaf ↔
      LeadsToLeaf rules leaf ∧ leaf ∉ unmentioned rules configuration := by
    rw [leadsToLeaf_iff tidy root, Stays, and_assoc, mem_unmentioned_iff, nodes,
      DocPath.mem_sorted, not_and_or, not_not]
  constructor
  · intro keeps branch isBranch
    rcases (tidy.mem_branches_iff root).mp isBranch with ⟨notRoot, ⟨value, leads, untyped⟩, -⟩
    rcases keeps branch value notRoot leads untyped with ⟨below, further, toLeaf, kept⟩
    rcases (stays _).mpr ⟨toLeaf, kept⟩ with ⟨isLeaf, stay⟩
    exact ⟨branch ++ below, isLeaf, DocPath.isAncestorOf_iff.mpr ⟨below, further, rfl⟩, stay⟩
  · intro each path value notRoot leads untyped
    rcases each path (mem_branches_of_record tidy accepted leads notRoot untyped) with
      ⟨leaf, isLeaf, isAbove, stay⟩
    rcases DocPath.isAncestorOf_iff.mp isAbove with ⟨below, further, rfl⟩
    exact ⟨below, further, (stays _).mp ⟨isLeaf, stay⟩⟩

/-! ## Loading -/

theorem compile_eq_ok_iff (untyped : entries.hasField "type" = false) {type : RecordType} :
    (∃ schema, compile registry (.mapping entries) = .ok schema ∧ schema.type = type) ↔
      HasType registry entries type := by
  have mapping : (Document.mapping entries).asMapping? = some entries := rfl
  rw [← typeOf_eq_ok_iff untyped, compile, mapping]
  simp only [if_neg (show ¬entries.hasField "type" = true by simp [untyped])]
  constructor
  · rintro ⟨schema, compiled, rfl⟩
    rcases except_map_eq_ok.mp compiled with ⟨type, typed, rfl⟩
    exact typed
  · intro typed
    exact ⟨_, except_map_eq_ok.mpr ⟨type, typed, rfl⟩, rfl⟩

theorem load_eq_ok_iff {input : Mapping} (rulesRegular : entries.IsRegular)
    (inputRegular : input.IsRegular) {rules configuration : Document}
    (rulesMapping : rules.asMapping? = some entries)
    (inputMapping : configuration.asMapping? = some input) {loaded : Instance} :
    load store registry [rules] [configuration] = .ok loaded ↔
      ∃ schema,
        compile registry (resolveOptional (.mapping entries) (.mapping input)) = .ok schema ∧
          schema.type.validate store (.mapping input) = .ok loaded := by
  rw [load, Document.merge_singleton rulesMapping rulesRegular,
    Document.merge_singleton inputMapping inputRegular]
  cases compiled : compile registry (resolveOptional (.mapping entries) (.mapping input)) with
  | error error => simp
  | ok schema => cases validated : schema.type.validate store (.mapping input) <;> simp [validated]

variable {type : RecordType} {values : NameMap Value}

theorem mayLose_of_unmentioned (tidy : IsTidy rules) (root : describesValue rules = false)
    (noDefaults : ∀ path leaf, Leads rules path leaf → describesValue leaf = true →
      saysOptional leaf = true → leaf.field? "default" = none)
    (notInLeaves : ∀ leaf ∈ unmentioned rules configuration,
      hasLeafAncestor (leaves rules) leaf = false)
    (unmentionedOnly : gone ⊆ unmentioned rules configuration) : MayLose gone [] rules := by
  intro below leaf _ leads isGone
  have optional := (mem_unmentioned_iff.mp (unmentionedOnly isGone)).1
  rcases tidy.leads_of_optional root optional (notInLeaves _ (unmentionedOnly isGone)) with
    ⟨-, value, toLeaf, typed, isOptional⟩
  obtain rfl := toLeaf.unique tidy leads
  exact ⟨typed, isOptional, noDefaults _ value toLeaf typed isOptional⟩

/-- A configuration has nothing at a path that it does not mention. -/
theorem lacks_of_unmentioned (unmentionedOnly : gone ⊆ unmentioned rules configuration) :
    configuration.Lacks gone [] := by
  intro below inner holds isGone
  rcases mem_unmentioned_iff.mp (unmentionedOnly isGone) with ⟨optional, notNode⟩
  rcases mem_optionalPaths_iff.mp optional with ⟨free, -⟩
  exact notNode (mem_nodePaths_iff.mpr ⟨free, inner, holds⟩)

/-- If every record keeps a leaf, the rules that are left give the same values. -/
theorem exists_validated_of_keeps (untyped : entries.hasField "type" = false)
    (typed : HasType registry entries type) (unchecked : NamesNoValidator (.mapping entries))
    (noDefaults : ∀ path leaf, Leads (.mapping entries) path leaf → describesValue leaf = true →
      saysOptional leaf = true → leaf.field? "default" = none)
    (notInLeaves : ∀ leaf ∈ unmentioned (.mapping entries) configuration,
      hasLeafAncestor (leaves (.mapping entries)) leaf = false)
    (given : type.instantiate store configuration [] = .found values)
    (keeps : KeepsRecords (.mapping entries) (unmentioned (.mapping entries) configuration)) :
    ∃ schema loaded, compile registry (resolveOptional (.mapping entries) configuration) =
        .ok schema ∧ schema.type.validate store configuration = .ok loaded ∧
      loaded.values = values := by
  have pruned : IsPruned _ _ _ (resolveOptional (.mapping entries) configuration) :=
    isPruned_resolveOptional typed.tidy untyped notInLeaves
  rcases pruned with ⟨all, left, -, only⟩
  have unmentionedOnly := only keeps (List.Subset.refl _)
  have leavesOnly : ∀ leaf ∈ all, LeadsToLeaf (.mapping entries) leaf := by
    intro leaf isGone
    have optional := (mem_unmentioned_iff.mp (unmentionedOnly isGone)).1
    have notInLeaf := notInLeaves leaf (unmentionedOnly isGone)
    rcases typed.tidy.leads_of_optional untyped optional notInLeaf with
      ⟨notRoot, value, toLeaf, isTyped, -⟩
    exact ⟨notRoot, value, toLeaf, isTyped⟩
  have stillKeeps : KeepsRecords (.mapping entries) all := by
    intro path value notRoot leads isRecord
    rcases keeps path value notRoot leads isRecord with ⟨below, further, toLeaf, kept⟩
    exact ⟨below, further, toLeaf, fun isGone => kept (unmentionedOnly isGone)⟩
  have mayLose := mayLose_of_unmentioned typed.tidy untyped noDefaults notInLeaves unmentionedOnly
  have stillTyped : ∃ other, HasType registry (pruneEntries all [] entries) other ∧
      ∀ document values, document.Lacks all [] →
        type.instantiate store document [] = .found values →
          other.instantiate store document [] = .found values :=
    typed.prune untyped unchecked mayLose leavesOnly stillKeeps
  rcases stillTyped with ⟨other, otherTyped, sameValues⟩
  rcases (compile_eq_ok_iff (hasField_pruneEntries.trans untyped)).mpr otherTyped with
    ⟨schema, compiled, rfl⟩
  have instantiated := sameValues configuration values (lacks_of_unmentioned unmentionedOnly) given
  rw [left, prune_record untyped]
  exact ⟨schema, ⟨schema.type, values⟩, compiled,
    RecordType.validate_eq_ok_iff.mpr ⟨rfl, instantiated⟩, rfl⟩

/-- If the rules that are left accept the configuration, every record keeps a leaf. -/
theorem keeps_of_validated (untyped : entries.hasField "type" = false)
    (typed : HasType registry entries type)
    (notInLeaves : ∀ leaf ∈ unmentioned (.mapping entries) configuration,
      hasLeafAncestor (leaves (.mapping entries)) leaf = false)
    (given : type.instantiate store configuration [] = .found values) {schema : Schema}
    {loaded : Instance}
    (compiled : compile registry (resolveOptional (.mapping entries) configuration) = .ok schema)
    (validated : schema.type.validate store configuration = .ok loaded) :
    KeepsRecords (.mapping entries) (unmentioned (.mapping entries) configuration) := by
  have pruned : IsPruned _ _ _ (resolveOptional (.mapping entries) configuration) :=
    isPruned_resolveOptional typed.tidy untyped notInLeaves
  rcases pruned with ⟨all, left, grows, -⟩
  rw [left, prune_record untyped] at compiled
  have prunedUntyped : Mapping.hasField (pruneEntries all [] entries) "type" = false :=
    hasField_pruneEntries.trans untyped
  have otherTyped := (compile_eq_ok_iff prunedUntyped).mp ⟨schema, compiled, rfl⟩
  have whole := isRecordOf_of_recordOf typed.recursive given
  have pruned := isRecordOf_of_recordOf otherTyped.recursive
    (RecordType.validate_eq_ok_iff.mp validated).2
  intro path value notRoot leads isRecord
  have spared := spared_of_isRecordOf leads typed.tidy isRecord whole pruned
  have stays := leads_prune_iff.mpr ⟨spared, value, leads, rfl⟩
  rw [prune_record untyped] at stays
  have branch := mem_branches_of_record otherTyped.tidy otherTyped.accepted stays notRoot
    (describesValue_prune.trans isRecord)
  rcases (otherTyped.tidy.mem_branches_iff prunedUntyped).mp branch with
    ⟨-, -, below, leaf, further, toLeaf, isLeaf⟩
  rw [← prune_record untyped] at toLeaf
  rcases leads_prune_iff.mp toLeaf with ⟨leafSpared, original, toOriginal, rfl⟩
  have notHere : path ++ below ≠ [] := by simp [notRoot]
  refine ⟨below, further, ⟨notHere, original, toOriginal, describesValue_prune.symm.trans isLeaf⟩,
    fun unmentioned => leafSpared.not_mem notHere (grows unmentioned)⟩

theorem instantiate_of_tags {input : Mapping} (mapping : document.asMapping? = some input) :
    type.instantiate store document path = type.instantiate store (.mapping input) path := by
  have below : document.untagOnce.asMapping? = some input := by
    rw [Document.asMapping?_untagOnce, mapping]
  have bare : (Document.mapping input).untagOnce.asMapping? = some input := rfl
  rw [RecordType.instantiate_of_asMapping? _ _ below, RecordType.instantiate_of_asMapping? _ _ bare]

/-- Rules without nodes have nothing to drop. -/
theorem exists_validated_of_noNodes (noNodes : pathsWhere isNode (.mapping entries) = [])
    (untyped : entries.hasField "type" = false) (typed : HasType registry entries type)
    (unchecked : entries.field? "validator" = none)
    (given : type.instantiate store configuration [] = .found values) :
    ∃ schema loaded, compile registry (resolveOptional (.mapping entries) configuration) =
        .ok schema ∧ schema.type.validate store configuration = .ok loaded ∧
      loaded.values = values := by
  have nowhere {path : DocPath} {value : Document} (free : IsFree path)
      (holds : Document.Holds (.mapping entries) path value) : False := by
    have node := mem_nodePaths_iff.mpr ⟨free, value, holds⟩
    rw [noNodes] at node
    cases node
  have atRoot {path : DocPath} {value : Document} (leads : Leads (.mapping entries) path value) :
      path = [] :=
    Classical.byContradiction fun notRoot => nowhere leads.isFree (leads.holds notRoot)
  refine exists_validated_of_keeps untyped typed ?_ ?_ ?_ given ?_
  · intro below value leads
    obtain rfl := atRoot leads
    rw [← leads_nil_iff.mp leads]
    exact unchecked
  · intro path leaf leads isTyped _
    exact absurd (atRoot leads) (leads.ne_nil_of_typed untyped isTyped)
  · intro path isGone
    rcases mem_optionalPaths_iff.mp (mem_unmentioned_iff.mp isGone).1 with ⟨free, value, holds, -⟩
    exact (nowhere free holds).elim
  · intro path value notRoot leads _
    exact absurd (atRoot leads) notRoot

/--
Where rules without validators compile and accept a configuration, loading gives a record of
the same values exactly when every branch keeps a leaf: one that is required or mentioned.
No leaf that is dropped may have a default, or lie in another leaf.
-/
theorem load_agrees_iff (store : FileStore) (registry : Registry)
    (rules configuration : Document) (root input : Mapping) (schema : Schema) (record : Instance)
    (rulesMapping : rules.asMapping? = some root)
    (inputMapping : configuration.asMapping? = some input) (rulesRegular : root.IsRegular)
    (inputRegular : input.IsRegular)
    (unchecked : ∀ path ∈ [] :: pathsWhere isNode rules,
      ((DocPath.get? path rules).bind fun value => value.field? "validator") = none)
    (noDefaults : ∀ leaf ∈ pathsWhere isOptional rules,
      ((DocPath.get? leaf rules).bind fun value => value.field? "default") = none)
    (notInLeaves : ∀ leaf ∈ unmentioned rules configuration,
      hasLeafAncestor (leaves rules) leaf = false)
    (compiled : compile registry rules = .ok schema)
    (validated : schema.type.validate store configuration = .ok record) :
    (∃ loaded, load store registry [rules] [configuration] = .ok loaded ∧
        loaded.values = record.values) ↔
      ∀ branch ∈ branches rules, ∃ leaf ∈ leaves rules, branch.isAncestorOf leaf = true ∧
        Stays rules configuration leaf := by
  rcases hasType_of_compile compiled rulesMapping with ⟨untyped, typed, shape⟩
  have given := (RecordType.validate_eq_ok_iff.mp validated).2
  rw [instantiate_of_tags inputMapping] at given
  simp only [load_eq_ok_iff rulesRegular inputRegular rulesMapping inputMapping]
  rcases shape with rfl | noNodes
  · have noValidator : NamesNoValidator (.mapping root) := by
      intro path value leads
      have known : path ∈ [] :: pathsWhere isNode (.mapping root) := by
        by_cases here : path = []
        · exact List.mem_cons.mpr (.inl here)
        · exact List.mem_cons_of_mem _
            (mem_nodePaths_iff.mpr ⟨leads.isFree, value, leads.holds here⟩)
      have noneThere := unchecked path known
      rw [leads.get?_eq typed.tidy] at noneThere
      exact noneThere
    have noLeafDefaults : ∀ path leaf, Leads (.mapping root) path leaf →
        describesValue leaf = true → saysOptional leaf = true → leaf.field? "default" = none := by
      intro path leaf leads isTyped optional
      have holds := leads.holds (leads.ne_nil_of_typed untyped isTyped)
      have noneThere := noDefaults path
        (mem_optionalPaths_iff.mpr ⟨leads.isFree, leaf, holds, isTyped, optional⟩)
      rw [leads.get?_eq typed.tidy] at noneThere
      exact noneThere
    have sameNodes : nodes configuration = nodes (.mapping input) := by
      rw [nodes, nodes, pathsWhere_of_asMapping? inputMapping fun _ node => node]
    have sameStays (leaf : DocPath) :
        Stays (.mapping root) configuration leaf ↔ Stays (.mapping root) (.mapping input) leaf := by
      rw [Stays, Stays, sameNodes]
    rw [unmentioned, sameNodes] at notInLeaves
    simp only [sameStays]
    rw [← keepsRecords_iff typed.tidy untyped typed.accepted]
    constructor
    · rintro ⟨loaded, ⟨other, otherCompiled, otherValidated⟩, -⟩
      exact keeps_of_validated untyped typed notInLeaves given otherCompiled otherValidated
    · intro keeps
      rcases exists_validated_of_keeps untyped typed noValidator noLeafDefaults notInLeaves given
        keeps with ⟨other, loaded, otherCompiled, otherValidated, same⟩
      exact ⟨loaded, ⟨other, otherCompiled, otherValidated⟩, same⟩
  · have noValidator : root.field? "validator" = none := by
      have atRoot : rules.field? "validator" = none := unchecked [] List.mem_cons_self
      rw [Document.field?, rulesMapping] at atRoot
      exact atRoot
    rcases exists_validated_of_noNodes noNodes untyped typed noValidator given with
      ⟨other, loaded, otherCompiled, otherValidated, same⟩
    constructor
    · intro _ branch isBranch
      have node := (Rule.mem_branches_iff.mp isBranch).1
      rw [pathsWhere_of_asMapping? rulesMapping fun _ isNode => isNode, noNodes] at node
      cases node
    · exact fun _ => ⟨loaded, ⟨other, otherCompiled, otherValidated⟩, same⟩

/-- A server with optional fields at two depths. -/
def serverEntries : Mapping :=
  [ (.string "name", Rule.leafOf "str"),
    (.string "server", Rule.branchOf
      [ ("port", .mapping [(.string "type", .string "int"), (.string "default", .ofInt64 80)]),
        ("note", .mapping [(.string "type", .string "str"), (.string "optional", .bool true)]),
        ("limits", Rule.branchOf
          [ ("retries", Rule.leafOf "int"),
            ("pause", .mapping
              [(.string "type", .string "float"), (.string "optional", .bool true)]) ]) ]),
    (.string "debug", .mapping
      [(.string "type", .string "bool"), (.string "optional", .bool true)]) ]

/-- A configuration that mentions one of the optional fields. -/
def serverInput : Mapping :=
  [ (.string "name", .string "one"),
    (.string "server", .mapping
      [ (.string "note", .string "spare"),
        (.string "limits", .mapping [(.string "retries", .ofInt64 3)]) ]) ]

theorem load_agrees_iff_server :
    ∃ schema record, compile .standard (.mapping serverEntries) = .ok schema ∧
      schema.type.validate .empty (.mapping serverInput) = .ok record ∧
      ∃ loaded, load .empty .standard [.mapping serverEntries] [.mapping serverInput] = .ok loaded ∧
        loaded.values = record.values := by
  have checked : ((compile .standard (.mapping serverEntries)).toOption.any fun schema =>
      (schema.type.validate .empty (.mapping serverInput)).isOk) = true := by
    decide +kernel
  cases compiled : compile .standard (.mapping serverEntries) with
  | error error =>
      rw [compiled] at checked
      cases checked
  | ok schema =>
      rw [compiled] at checked
      rcases exists_of_isOk checked with ⟨record, validated⟩
      refine ⟨schema, record, rfl, validated, ?_⟩
      have rulesRegular : serverEntries.IsRegular := by
        refine ⟨by decide, ?_⟩
        simp only [serverEntries, List.forall_mem_cons]
        exact ⟨rfl, rfl, rfl, by simp⟩
      have inputRegular : serverInput.IsRegular := by
        refine ⟨by decide, ?_⟩
        simp only [serverInput, List.forall_mem_cons]
        exact ⟨rfl, rfl, by simp⟩
      exact (load_agrees_iff .empty .standard (.mapping serverEntries) (.mapping serverInput)
        serverEntries serverInput schema record rfl rfl rulesRegular inputRegular (by decide)
        (by decide) (by decide) compiled validated).mpr (by decide)

/-- A record all of whose fields are optional. -/
def extrasEntries : Mapping :=
  [(.string "extras", Rule.branchOf
    [("note", .mapping [(.string "type", .string "str"), (.string "optional", .bool true)])])]

/-- A configuration that has the record, without its field. -/
def extrasInput : Mapping := [(.string "extras", .mapping [])]

/-- The record is dropped with its field, and then unexpected in the configuration. -/
theorem not_load_agrees_extras :
    (∀ path ∈ [] :: pathsWhere isNode (.mapping extrasEntries),
        ((DocPath.get? path (.mapping extrasEntries)).bind fun value =>
          value.field? "validator") = none) ∧
      (∀ leaf ∈ pathsWhere isOptional (.mapping extrasEntries),
        ((DocPath.get? leaf (.mapping extrasEntries)).bind fun value =>
          value.field? "default") = none) ∧
      (∀ leaf ∈ pathsWhere isOptional (.mapping extrasEntries),
        hasLeafAncestor (leaves (.mapping extrasEntries)) leaf = false) ∧
      ∃ schema record, compile .standard (.mapping extrasEntries) = .ok schema ∧
        schema.type.validate .empty (.mapping extrasInput) = .ok record ∧
        ¬∃ loaded, load .empty .standard [.mapping extrasEntries] [.mapping extrasInput] =
            .ok loaded ∧ loaded.values = record.values := by
  refine ⟨by decide, by decide, by decide, ?_⟩
  have checked : ((compile .standard (.mapping extrasEntries)).toOption.any fun schema =>
      (schema.type.validate .empty (.mapping extrasInput)).isOk) = true := by
    decide +kernel
  have refused : ((compile .standard (resolveOptional (.mapping extrasEntries)
      (.mapping extrasInput))).toOption.all fun schema =>
        !(schema.type.validate .empty (.mapping extrasInput)).isOk) = true := by
    decide +kernel
  cases compiled : compile .standard (.mapping extrasEntries) with
  | error error =>
      rw [compiled] at checked
      cases checked
  | ok schema =>
      rw [compiled] at checked
      rcases exists_of_isOk checked with ⟨record, validated⟩
      refine ⟨schema, record, rfl, validated, ?_⟩
      have rulesRegular : extrasEntries.IsRegular :=
        ⟨by decide, by simp only [extrasEntries, List.forall_mem_singleton]; rfl⟩
      have inputRegular : extrasInput.IsRegular :=
        ⟨by decide, by simp only [extrasInput, List.forall_mem_singleton]; rfl⟩
      rintro ⟨loaded, loads, -⟩
      rcases (load_eq_ok_iff rulesRegular inputRegular rfl rfl).mp loads with
        ⟨other, otherCompiled, otherValidated⟩
      rw [otherCompiled] at refused
      simp [Except.toOption, otherValidated, Except.isOk, Except.toBool] at refused

end Schema

end RuleSchema
