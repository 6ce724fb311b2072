import RuleSchema.Proofs.Compile.Success
import RuleSchema.Proofs.Compile.Types
import RuleSchema.Proofs.Rule.Optional
import RuleSchema.Proofs.Types.Thinning

/-!
# The type of pruned rules

Rules without validators that lose optional leaves have a type which gives the same values,
for every document that has nothing at the places of those leaves.
-/

namespace RuleSchema

/-! ## What a document lacks -/

/-- A document at a path has nothing at some paths. -/
def Document.Lacks (gone : List DocPath) (path : DocPath) (document : Document) : Prop :=
  ∀ below inner, document.Holds below inner → path ++ below ∉ gone

namespace Document.Lacks

variable {gone : List DocPath} {path : DocPath} {document inner : Document} {entries : Mapping}
  {key : Document}

theorem untagOnce (lacks : document.Lacks gone path) : document.untagOnce.Lacks gone path := by
  intro below inner holds
  cases document with
  | tagged name own => exact lacks below inner (.tag holds)
  | _ => exact lacks below inner holds

theorem not_mem (lacks : document.Lacks gone path) (mapping : document.asMapping? = some entries)
    (member : (key, inner) ∈ entries) : path.child (PathKey.ofDocument key) ∉ gone :=
  lacks _ inner (.of_asMapping? mapping member)

theorem entry (lacks : document.Lacks gone path) (mapping : document.asMapping? = some entries)
    (member : (key, inner) ∈ entries) :
    inner.Lacks gone (path.child (PathKey.ofDocument key)) := by
  intro below deeper holds
  have whole := lacks _ deeper ((Holds.of_asMapping? mapping member).trans holds)
  rw [DocPath.child, List.append_assoc]
  exact whole

end Document.Lacks

theorem Mapping.mem_of_get?_byText {entries : Mapping} {name : String} {document : Document}
    (found : entries.byText.get? name = some document) :
    ∃ key, (key, document) ∈ entries ∧ key.keyText = name := by
  rcases List.mem_map.mp (NameMap.mem_of_mem_ofEntries (NameMap.mem_of_get? found)) with
    ⟨entry, member, same⟩
  cases same
  exact ⟨entry.1, member, rfl⟩

/-! ## Levels -/

namespace Level

/-- A level without validators closes if a level with more fields does. -/
theorem exists_close_of_sublist {hint : String} {fields others : List (String × FieldSpec)}
    {path : DocPath} {type : RecordType} (closed : close hint ⟨fields, []⟩ [] path = .ok type)
    (names : (others.map Prod.fst).Sublist (fields.map Prod.fst))
    (unchecked : ∀ field ∈ others, field.2.validators = []) :
    ∃ other, close hint ⟨others, []⟩ [] path = .ok other := by
  rcases checkNames_eq_ok (close_eq_ok closed).1 with ⟨distinct, each⟩
  have accepted := checkNames_of_forall (distinct.sublist names) fun name member =>
    each name (names.subset member)
  rw [close, accepted, declared_eq_nil rfl unchecked]
  exact ⟨_, rfl⟩

theorem validators_of_close {hint : String} {fields : List (String × FieldSpec)}
    {path : DocPath} {type : RecordType} (closed : close hint ⟨fields, []⟩ [] path = .ok type)
    (unchecked : ∀ field ∈ fields, field.2.validators = []) : type.validators = [] := by
  rw [(close_eq_ok closed).2.2.2, declared_eq_nil rfl unchecked]
  rfl

end Level

namespace Schema

open Rule Outcome

variable {store : FileStore} {registry : Registry} {gone : List DocPath} {path : DocPath}
  {entries : Mapping} {key value : Document} {fields others : List (String × FieldSpec)}

/-! ## Fields that give the same values -/

/--
One field in the place of another at a path: it gives the same values for the documents that
have nothing at some paths.
-/
structure StandsIn (store : FileStore) (gone : List DocPath) (path : DocPath)
    (first second : FieldSpec) : Prop where
  unchecked : first.validators = [] ∧ second.validators = []
  default : second.default = first.default
  optional : second.optional = first.optional
  type : first.default = none ∨ second.type = first.type
  coerces : ∀ document place value, document.Lacks gone path →
    first.type.coerce store document place = .found value →
      second.type.coerce store document place = .found value

theorem StandsIn.refl {field : FieldSpec} (unchecked : field.validators = []) :
    StandsIn store gone path field field :=
  ⟨⟨unchecked, unchecked⟩, rfl, rfl, .inr rfl, fun _ _ _ _ given => given⟩

/-- A field at a path that may be left out. -/
structure MayGo (gone : List DocPath) (path : DocPath) (field : FieldSpec) : Prop where
  gone : path ∈ gone
  unchecked : field.validators = []
  default : field.default = none
  optional : field.optional = true

/-- Fields of a record at a path, of which some are gone and others stand in. -/
def ThinnedFields (store : FileStore) (gone : List DocPath) (path : DocPath) :
    List (String × FieldSpec) → List (String × FieldSpec) → Prop :=
  Thinned
    (fun first second => second.1 = first.1 ∧
      StandsIn store gone (path.child (.key first.1)) first.2 second.2)
    fun field => MayGo gone (path.child (.key field.1)) field.2

namespace ThinnedFields

theorem names (thinned : ThinnedFields store gone path fields others) :
    (others.map Prod.fst).Sublist (fields.map Prod.fst) := by
  induction thinned with
  | nil => exact .slnil
  | keep here _ ih =>
      rw [List.map_cons, List.map_cons, here.1]
      exact ih.cons_cons _
  | drop _ _ ih => exact ih.cons _

theorem unchecked (thinned : ThinnedFields store gone path fields others) :
    (∀ field ∈ fields, field.2.validators = []) ∧ ∀ field ∈ others, field.2.validators = [] := by
  induction thinned with
  | nil => exact ⟨fun _ none => absurd none List.not_mem_nil,
      fun _ none => absurd none List.not_mem_nil⟩
  | keep here _ ih =>
      exact ⟨List.forall_mem_cons.mpr ⟨here.2.unchecked.1, ih.1⟩,
        List.forall_mem_cons.mpr ⟨here.2.unchecked.2, ih.2⟩⟩
  | drop here _ ih => exact ⟨List.forall_mem_cons.mpr ⟨here.unchecked, ih.1⟩, ih.2⟩

/-- A level that loses fields closes, to a type that gives the same values. -/
theorem close {hint : String} {place : DocPath} {type : RecordType}
    (thinned : ThinnedFields store gone path fields others)
    (closed : Level.close hint ⟨fields, []⟩ [] place = .ok type) :
    ∃ other, Level.close hint ⟨others, []⟩ [] place = .ok other ∧ other.name = type.name ∧
      ∀ document place values, document.Lacks gone path →
        type.instantiate store document place = .found values →
          other.instantiate store document place = .found values := by
  rcases Level.exists_close_of_sublist closed thinned.names thinned.unchecked.2 with
    ⟨other, otherClosed⟩
  refine ⟨other, otherClosed, ?_, ?_⟩
  · rw [(Level.close_eq_ok closed).2.1, (Level.close_eq_ok otherClosed).2.1]
  · intro document place values lacks given
    refine RecordType.instantiate_of_thinned (Level.validators_of_close closed thinned.unchecked.1)
      (Level.validators_of_close otherClosed thinned.unchecked.2) ?_ given
    intro entries mapping
    rw [Document.asMapping?_untagOnce] at mapping
    have declared : Thinned (Field.StaysAs store entries.byText place)
        (Field.IsLeftOut entries.byText) (fields.map fun field => field.2.named field.1)
        (others.map fun field => field.2.named field.1) := by
      refine thinned.map ?_ ?_
      · rintro ⟨name, first⟩ ⟨_, second⟩ ⟨rfl, stands⟩
        refine .of_coerce rfl stands.default stands.optional stands.type ?_
        intro document value present
        rcases Mapping.mem_of_get?_byText present with ⟨key, member, rfl⟩
        exact stands.coerces document _ value (lacks.entry mapping member)
      · rintro ⟨name, field⟩ goes
        refine ⟨?_, goes.default, goes.optional⟩
        cases present : entries.byText.get? name with
        | none => exact present
        | some document =>
            rcases Mapping.mem_of_get?_byText present with ⟨key, member, rfl⟩
            exact absurd goes.gone (lacks.not_mem mapping member)
    rw [Level.fields_of_close_nil closed, Level.fields_of_close_nil otherClosed]
    refine (declared.filter ?_).append (declared.filter ?_)
    · exact fun _ _ stays => by rw [stays.2.1]
    · exact fun _ _ stays => by rw [stays.2.1]

end ThinnedFields

/-! ## The recursion over pruned rules -/

/-- No record and no leaf of rules names a validator. -/
def NamesNoValidator (rules : Document) : Prop :=
  ∀ below value, Leads rules below value → value.field? "validator" = none

/-- What is gone of rules at a path are leaves that are optional and have no default. -/
def MayLose (gone : List DocPath) (path : DocPath) (rules : Document) : Prop :=
  ∀ below leaf, below ≠ [] → Leads rules below leaf → path ++ below ∈ gone →
    describesValue leaf = true ∧ saysOptional leaf = true ∧ leaf.field? "default" = none

theorem NamesNoValidator.entry (unchecked : NamesNoValidator (.mapping entries))
    (untyped : entries.hasField "type" = false) (member : (key, value) ∈ entries)
    (free : isReservedText key.keyText = false) : NamesNoValidator value :=
  fun _ inner leads => unchecked _ inner (.field untyped member free leads)

theorem MayLose.entry (mayLose : MayLose gone path (.mapping entries))
    (untyped : entries.hasField "type" = false) (member : (key, value) ∈ entries)
    (free : isReservedText key.keyText = false) :
    MayLose gone (path.child (PathKey.ofDocument key)) value := by
  intro below leaf _ leads isGone
  refine mayLose _ leaf (List.cons_ne_nil _ _) (.field untyped member free leads) ?_
  rw [DocPath.child, List.append_assoc] at isGone
  exact isGone

theorem resolveValidators_of_none {field : Option String}
    (noneNamed : entries.field? "validator" = none) :
    registry.resolveValidators path field entries = .ok [] := by
  rw [Registry.resolveValidators, noneNamed]

/-- What the recursion makes of a leaf without validators. -/
theorem eq_of_fieldAt_leaf (typed : describesValue value = true)
    (unchecked : value.field? "validator" = none) {field : FieldSpec}
    (built : fieldAt registry path value = .ok field) :
    field.validators = [] ∧ field.default = value.field? "default" ∧
      field.optional = saysOptional value := by
  rcases (Option.any_eq_true _ _).mp typed with ⟨leaf, mapping, hasType⟩
  have fieldOf (name : String) : value.field? name = Mapping.field? leaf name := by
    rw [Document.field?, mapping]
  rw [fieldOf] at unchecked
  rw [fieldAt_of_asMapping? mapping, fieldAt, if_pos hasType, Level.ofLeaf,
    Warned.andThen_result_eq_ok] at built
  rcases built with ⟨name, -, built⟩
  rw [Warned.andThen_result_eq_ok] at built
  rcases built with ⟨type, -, built⟩
  rcases except_map_eq_ok.mp built with ⟨validators, bound, rfl⟩
  rw [resolveValidators_of_none unchecked] at bound
  rw [saysOptional, fieldOf, fieldOf]
  exact ⟨(Except.ok.inj bound).symm, rfl, rfl⟩

/-- The fields of a pruned record, where its entries stand in for themselves. -/
theorem exists_fieldsIn_pruneEntries
    (each : ∀ entry ∈ entries, isReservedText entry.1.keyText = false → ∀ field,
      fieldAt registry (path.child (PathKey.ofDocument entry.1)) entry.2 = .ok field →
        ∃ other, fieldAt registry (path.child (PathKey.ofDocument entry.1))
            (prune gone (path.child (PathKey.ofDocument entry.1)) entry.2) = .ok other ∧
          StandsIn store gone (path.child (PathKey.ofDocument entry.1)) field other)
    (goes : ∀ entry ∈ entries, isReservedText entry.1.keyText = false →
      path.child (PathKey.ofDocument entry.1) ∈ gone → ∀ field,
        fieldAt registry (path.child (PathKey.ofDocument entry.1)) entry.2 = .ok field →
          MayGo gone (path.child (PathKey.ofDocument entry.1)) field)
    (built : fieldsIn registry path entries = .ok fields) :
    ∃ others, fieldsIn registry path (pruneEntries gone path entries) = .ok others ∧
      ThinnedFields store gone path fields others := by
  induction entries generalizing fields with
  | nil =>
      cases built
      exact ⟨[], rfl, .nil⟩
  | cons entry rest ih =>
      rcases entry with ⟨key, value⟩
      rcases List.forall_mem_cons.mp each with ⟨here, later⟩
      rcases List.forall_mem_cons.mp goes with ⟨hereGoes, laterGo⟩
      rw [fieldsIn] at built
      rw [pruneEntries]
      by_cases reserved : isReservedText key.keyText = true
      · rw [if_pos reserved] at built ⊢
        rw [fieldsIn, if_pos reserved]
        exact ih later laterGo built
      · rw [if_neg reserved] at built ⊢
        rw [Bool.not_eq_true] at reserved
        rcases except_bind_eq_ok.mp built with ⟨field, fieldBuilt, built⟩
        rcases except_bind_eq_ok.mp built with ⟨restFields, restBuilt, made⟩
        cases made
        rcases ih later laterGo restBuilt with ⟨others, othersBuilt, thinned⟩
        split
        · next isGone =>
          have goes := hereGoes reserved isGone field fieldBuilt
          exact ⟨others, othersBuilt, .drop goes thinned⟩
        · rcases here reserved field fieldBuilt with ⟨other, otherBuilt, stands⟩
          refine ⟨(key.keyText, other) :: others, ?_, .keep ⟨rfl, stands⟩ thinned⟩
          rw [fieldsIn, if_neg (by simp [reserved])]
          exact except_bind_eq_ok.mpr ⟨other, otherBuilt,
            except_bind_eq_ok.mpr ⟨others, othersBuilt, rfl⟩⟩

/-- A field that is gone may be left out. -/
theorem MayLose.mayGo (mayLose : MayLose gone path (.mapping entries))
    (unchecked : NamesNoValidator (.mapping entries)) (untyped : entries.hasField "type" = false)
    (member : (key, value) ∈ entries) (free : isReservedText key.keyText = false)
    (isGone : path.child (PathKey.ofDocument key) ∈ gone) {field : FieldSpec}
    (built : fieldAt registry (path.child (PathKey.ofDocument key)) value = .ok field) :
    MayGo gone (path.child (PathKey.ofDocument key)) field := by
  have toLeaf : Leads (.mapping entries) [PathKey.ofDocument key] value :=
    .field untyped member free .here
  rcases mayLose _ value (List.cons_ne_nil _ _) toLeaf isGone with ⟨typed, optional, noDefault⟩
  rcases eq_of_fieldAt_leaf typed (unchecked _ value toLeaf) built with
    ⟨noValidators, default, stated⟩
  exact ⟨isGone, noValidators, default.trans noDefault, stated.trans optional⟩

/-- A pruned record has fields that stand in, if those of its entries do. -/
theorem exists_fieldsIn_of_entries (untyped : entries.hasField "type" = false)
    (unchecked : NamesNoValidator (.mapping entries))
    (mayLose : MayLose gone path (.mapping entries))
    (each : ∀ entry ∈ entries, isReservedText entry.1.keyText = false → ∀ field,
      fieldAt registry (path.child (PathKey.ofDocument entry.1)) entry.2 = .ok field →
        ∃ other, fieldAt registry (path.child (PathKey.ofDocument entry.1))
            (prune gone (path.child (PathKey.ofDocument entry.1)) entry.2) = .ok other ∧
          StandsIn store gone (path.child (PathKey.ofDocument entry.1)) field other)
    (built : fieldsIn registry path entries = .ok fields) :
    ∃ others, fieldsIn registry path (pruneEntries gone path entries) = .ok others ∧
      ThinnedFields store gone path fields others := by
  refine exists_fieldsIn_pruneEntries each ?_ built
  rintro ⟨key, value⟩ member free isGone field fieldBuilt
  exact mayLose.mayGo unchecked untyped member free isGone fieldBuilt

/-- The field of a pruned value stands in for the field of the value. -/
theorem exists_fieldAt_prune (tidy : IsTidy value) (unchecked : NamesNoValidator value)
    (mayLose : MayLose gone path value) {field : FieldSpec}
    (built : fieldAt registry path value = .ok field) :
    ∃ other, fieldAt registry path (prune gone path value) = .ok other ∧
      StandsIn store gone path field other := by
  induction tidy generalizing path field with
  | @leaf value typed =>
      rw [prune_of_typed typed]
      exact ⟨field, built, .refl (eq_of_fieldAt_leaf typed (unchecked _ _ .here) built).1⟩
  | @record entries untyped distinct addressable each ih =>
      rcases fieldAt_record_eq_ok untyped built with
        ⟨name, validators, fields, type, named, bound, gathered, closed, rfl⟩
      have noneNamed : Mapping.field? entries "validator" = none := unchecked _ _ .here
      have noneKept : Mapping.field? (pruneEntries gone path entries) "validator" = none :=
        (field?_pruneEntries (by decide)).trans noneNamed
      rw [resolveValidators_of_none noneNamed] at bound
      cases bound
      have each (entry) (member : entry ∈ entries) (free : isReservedText entry.1.keyText = false)
          (field) (built :
            fieldAt registry (path.child (PathKey.ofDocument entry.1)) entry.2 = .ok field) :=
        ih entry member free (unchecked.entry untyped member free)
          (mayLose.entry untyped member free) built
      rcases exists_fieldsIn_of_entries untyped unchecked mayLose each gathered with
        ⟨others, othersBuilt, thinned⟩
      rcases thinned.close closed with ⟨other, otherClosed, sameName, sameValues⟩
      rw [prune_record untyped, fieldAt, if_neg (by simp [hasField_pruneEntries, untyped])]
      refine ⟨⟨.record other, [], none, false, Level.docText (pruneEntries gone path entries)⟩,
        ?_, ?_⟩
      · refine except_bind_eq_ok.mpr ⟨name, named, ?_⟩
        refine except_bind_eq_ok.mpr ⟨[], resolveValidators_of_none noneKept, ?_⟩
        refine except_bind_eq_ok.mpr ⟨others, othersBuilt, ?_⟩
        exact except_bind_eq_ok.mpr ⟨other, otherClosed, rfl⟩
      · refine ⟨⟨rfl, rfl⟩, rfl, rfl, .inl rfl, fun document place value lacks given => ?_⟩
        rcases ValueType.coerce_record_eq_found.mp given with ⟨values, instantiated, rfl⟩
        refine ValueType.coerce_record_eq_found.mpr ⟨values, ?_, by rw [sameName]⟩
        exact sameValues _ place values lacks.untagOnce instantiated

/-- The type of pruned rules gives the same values. -/
theorem exists_recordOf_pruneEntries (tidy : IsTidy (.mapping entries))
    (untyped : entries.hasField "type" = false) (unchecked : NamesNoValidator (.mapping entries))
    (mayLose : MayLose gone [] (.mapping entries)) {type : RecordType}
    (recursive : recordOf registry entries = .ok type) :
    ∃ other, recordOf registry (pruneEntries gone [] entries) = .ok other ∧
      ∀ document values, document.Lacks gone [] →
        type.instantiate store document [] = .found values →
          other.instantiate store document [] = .found values := by
  rcases except_bind_eq_ok.mp recursive with ⟨fields, gathered, recursive⟩
  rcases except_bind_eq_ok.mp recursive with ⟨validators, bound, closed⟩
  have noneNamed : entries.field? "validator" = none := unchecked _ _ .here
  have noneKept : Mapping.field? (pruneEntries gone [] entries) "validator" = none :=
    (field?_pruneEntries (by decide)).trans noneNamed
  rw [resolveValidators_of_none noneNamed] at bound
  cases bound
  have each (entry) (member : entry ∈ entries) (free : isReservedText entry.1.keyText = false)
      (field) (built :
        fieldAt registry (DocPath.child [] (PathKey.ofDocument entry.1)) entry.2 = .ok field) :
      ∃ other, fieldAt registry (DocPath.child [] (PathKey.ofDocument entry.1))
          (prune gone (DocPath.child [] (PathKey.ofDocument entry.1)) entry.2) = .ok other ∧
        StandsIn store gone (DocPath.child [] (PathKey.ofDocument entry.1)) field other :=
    exists_fieldAt_prune ((tidy.fields untyped).2 entry member free).2
      (unchecked.entry untyped member free) (mayLose.entry untyped member free) built
  rcases exists_fieldsIn_of_entries untyped unchecked mayLose each gathered with
    ⟨others, othersBuilt, thinned⟩
  rcases thinned.close closed with ⟨other, otherClosed, -, sameValues⟩
  refine ⟨other, ?_, fun document values => sameValues document [] values⟩
  refine except_bind_eq_ok.mpr ⟨others, othersBuilt, ?_⟩
  exact except_bind_eq_ok.mpr ⟨[], resolveValidators_of_none noneKept, otherClosed⟩

/-! ## Pruned rules have a type -/

variable {rules : Document}

/-- Every record stays where some leaves are gone. -/
theorem leads_prune_of_record (tidy : IsTidy rules)
    (leavesOnly : ∀ leaf ∈ gone, LeadsToLeaf rules leaf)
    (leads : Leads rules path value) (untyped : describesValue value = false) :
    Leads (prune gone [] rules) path (prune gone path value) := by
  refine leads_prune_iff.mpr ⟨leads.spared tidy leavesOnly fun isGone => ?_, value, leads, rfl⟩
  rcases leavesOnly path isGone with ⟨-, leaf, toLeaf, typed⟩
  rw [← leads.unique tidy toLeaf, untyped] at typed
  cases typed

theorem leads_of_prune (leads : Leads (prune gone [] rules) path value) :
    ∃ whole, Leads rules path whole ∧ describesValue whole = describesValue value ∧
      (describesValue value = true → whole = value) := by
  rcases leads_prune_iff.mp leads with ⟨-, whole, toWhole, rfl⟩
  refine ⟨whole, toWhole, describesValue_prune.symm, fun typed => ?_⟩
  rw [describesValue_prune] at typed
  exact (prune_of_typed typed).symm

/-- A leaf that is not gone stays. -/
theorem leads_prune_of_leaf (tidy : IsTidy rules)
    (leavesOnly : ∀ leaf ∈ gone, LeadsToLeaf rules leaf)
    (toLeaf : LeadsToLeaf rules path) (kept : path ∉ gone) :
    LeadsToLeaf (prune gone [] rules) path := by
  rcases toLeaf with ⟨notRoot, leaf, leads, typed⟩
  have spared := leads.spared tidy leavesOnly kept
  exact ⟨notRoot, leaf, leads_prune_iff.mpr ⟨spared, leaf, leads, prune_of_typed typed⟩, typed⟩

/-- The branches stay where each of them keeps a leaf. -/
theorem mem_branches_prune (tidy : IsTidy rules) (root : describesValue rules = false)
    (leavesOnly : ∀ leaf ∈ gone, LeadsToLeaf rules leaf) (keeps : KeepsRecords rules gone) :
    path ∈ branches (prune gone [] rules) ↔ path ∈ branches rules := by
  have prunedRoot : describesValue (prune gone [] rules) = false := describesValue_prune.trans root
  rw [IsTidy.mem_branches_iff tidy.prune prunedRoot, IsTidy.mem_branches_iff tidy root]
  constructor
  · rintro ⟨notRoot, ⟨value, leads, untyped⟩, below, leaf, further, toLeaf, typed⟩
    rcases leads_of_prune leads with ⟨whole, toWhole, same, -⟩
    rcases leads_of_prune toLeaf with ⟨wholeLeaf, toWholeLeaf, sameLeaf, -⟩
    exact ⟨notRoot, ⟨whole, toWhole, same.trans untyped⟩, below, wholeLeaf, further, toWholeLeaf,
      sameLeaf.trans typed⟩
  · rintro ⟨notRoot, ⟨value, leads, untyped⟩, -⟩
    rcases keeps path value notRoot leads untyped with ⟨below, further, toLeaf, kept⟩
    rcases leads_prune_of_leaf tidy leavesOnly toLeaf kept with ⟨-, leaf, toKept, typed⟩
    exact ⟨notRoot, ⟨_, leads_prune_of_record tidy leavesOnly leads untyped,
      describesValue_prune.trans untyped⟩, below, leaf, further, toKept, typed⟩

theorem exposed_congr {paths others : List DocPath} (same : ∀ path, path ∈ others ↔ path ∈ paths)
    (exposed : Exposed paths) : Exposed others := by
  intro some
  rcases List.exists_mem_of_ne_nil _ some with ⟨path, member⟩
  rcases exposed (List.ne_nil_of_mem ((same path).mp member)) with ⟨first, isPath, alone⟩
  exact ⟨first, (same first).mpr isPath, fun other known => alone other ((same other).mp known)⟩

/-- A leaf of pruned rules is one of the rules, and a lookup finds the same there. -/
theorem mem_leaves_of_prune (tidy : IsTidy rules) (root : describesValue rules = false)
    (leaf : path ∈ leaves (prune gone [] rules)) :
    path ∈ leaves rules ∧ DocPath.get? path (prune gone [] rules) = DocPath.get? path rules := by
  rcases mem_leafPaths_iff.mp (Rule.mem_leaves.mp leaf) with ⟨free, value, holds, typed⟩
  have isLeaf (inRules : rules.Holds path value) : path ∈ leaves rules :=
    Rule.mem_leaves.mpr (mem_leafPaths_iff.mpr ⟨free, value, inRules, typed⟩)
  rcases tidy.prune.leads_of_holds holds free with
    leads | ⟨above, below, outer, rfl, further, toOuter, outerTyped, inside⟩
  · rcases leads_of_prune leads with ⟨whole, toWhole, -, same⟩
    obtain rfl := same typed
    exact ⟨isLeaf (toWhole.holds holds.ne_nil),
      (leads.get?_eq tidy.prune).trans (toWhole.get?_eq tidy).symm⟩
  · rcases leads_of_prune toOuter with ⟨whole, toWhole, -, same⟩
    obtain rfl := same outerTyped
    have notRoot := toWhole.ne_nil_of_typed root outerTyped
    refine ⟨isLeaf ((toWhole.holds notRoot).trans inside), ?_⟩
    rw [DocPath.get?_append, DocPath.get?_append, toOuter.get?_eq tidy.prune, toWhole.get?_eq tidy]

/-- Pruned rules have a type, if each record keeps a leaf, and it gives the same values. -/
theorem HasType.prune {type : RecordType} (typed : HasType registry entries type)
    (untyped : entries.hasField "type" = false) (unchecked : NamesNoValidator (.mapping entries))
    (mayLose : MayLose gone [] (.mapping entries))
    (leavesOnly : ∀ leaf ∈ gone, LeadsToLeaf (.mapping entries) leaf)
    (keeps : KeepsRecords (.mapping entries) gone) :
    ∃ other, HasType registry (pruneEntries gone [] entries) other ∧
      ∀ document values, document.Lacks gone [] →
        type.instantiate store document [] = .found values →
          other.instantiate store document [] = .found values := by
  rcases exists_recordOf_pruneEntries typed.tidy untyped unchecked mayLose typed.recursive with
    ⟨other, recursive, sameValues⟩
  have root : describesValue (.mapping entries) = false := untyped
  have pruned : Rule.prune gone [] (.mapping entries) = .mapping (pruneEntries gone [] entries) :=
    prune_record untyped
  have prunedRoot : describesValue (Rule.prune gone [] (.mapping entries)) = false :=
    describesValue_prune.trans root
  refine ⟨other, ?_, sameValues⟩
  constructor
  · rw [← pruned]
    exact typed.tidy.prune
  · rw [← pruned]
    refine typed.tidy.prune.checkStructure_eq_ok prunedRoot ?_
    intro path value notRoot leads isRecord
    rcases leads_of_prune leads with ⟨whole, toWhole, same, -⟩
    rcases keeps path whole notRoot toWhole (same.trans isRecord) with
      ⟨below, further, toLeaf, kept⟩
    rcases leads_prune_of_leaf typed.tidy leavesOnly toLeaf kept with ⟨-, leaf, toKept, isLeaf⟩
    exact ⟨below, leaf, further, toKept, isLeaf⟩
  · rw [← pruned]
    intro path leaf
    rcases mem_leaves_of_prune typed.tidy root leaf with ⟨isLeaf, sameLookup⟩
    rcases typed.leavesBuild path isLeaf with ⟨own, field, found, built⟩
    refine ⟨own, field, ?_, built⟩
    rw [mappingAt, sameLookup]
    exact found
  · rw [← pruned]
    exact exposed_congr (fun path => mem_branches_prune typed.tidy root leavesOnly keeps)
      typed.exposed
  · exact recursive

end Schema

end RuleSchema
