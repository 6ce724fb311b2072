import RuleSchema.Proofs.Compile.Loading
import RuleSchema.Proofs.Rule.Changes

/-!
# Annotations of leaves

A leaf may carry keys that are not reserved.  They do not matter to its own field, and the level
around it does not look at them.  What an annotation holds is walked like the rest of the rules,
though: a mapping with a `type` in it is a leaf, too, and must resolve, even if the field that it
gives is used nowhere.  So an annotation changes nothing except for the leaves inside it.
-/

namespace RuleSchema

/-- The path of the leaf that a warning is about. -/
def CompileWarning.place : CompileWarning → DocPath
  | .ambiguousOptions path _ => path

open Rule

variable {registry : Registry} {path place : DocPath}

/-! ## What a leaf refers to -/

section SameReserved

variable {entries others : Mapping} (same : SameReserved entries others)
include same

theorem Registry.resolveType_congr :
    registry.resolveType path entries = registry.resolveType path others := by
  rw [resolveType, resolveType, same "type" (by decide), same "opts" (by decide)]

theorem Registry.resolveValidators_congr {field : Option String} :
    registry.resolveValidators path field entries =
      registry.resolveValidators path field others := by
  rw [resolveValidators, resolveValidators, same "validator" (by decide),
    same "validator_params" (by decide), same "validator_opts" (by decide),
    same "root_validator" (by decide)]

theorem Level.docText_congr : docText entries = docText others := by
  rw [docText, docText, same "doc" (by decide)]

theorem Level.ofLeaf_congr : ofLeaf registry path entries = ofLeaf registry path others := by
  rw [ofLeaf, ofLeaf, Registry.resolveType_congr same, docText_congr same,
    same "default" (by decide), same "optional" (by decide)]
  simp only [Registry.resolveValidators_congr same]

end SameReserved

/-! ## Warnings -/

theorem Warned.mem_warnings_andThen {α β : Type} {first : Warned α} {next : α → Warned β}
    {warning : CompileWarning} (member : warning ∈ (first.andThen next).warnings) :
    warning ∈ first.warnings ∨ ∃ value, warning ∈ (next value).warnings := by
  rw [andThen] at member
  split at member
  · exact .inl member
  · next value given => exact (List.mem_append.mp member).imp_right fun later => ⟨value, later⟩

theorem Registry.place_of_mem_warnings {leaf : Mapping} {warning : CompileWarning}
    (member : warning ∈ (registry.resolveType path leaf).warnings) : warning.place = path := by
  rw [resolveType] at member
  split at member
  · cases member
  split at member
  · cases member
  split at member
  · cases member
  · cases member
  · rw [typeOf.eq_def] at member
    split at member
    any_goals exact absurd member List.not_mem_nil
    cases List.mem_singleton.mp member
    rfl

/-- A leaf warns of itself only. -/
theorem Level.place_of_mem_warnings {leaf : Mapping} {warning : CompileWarning}
    (member : warning ∈ (ofLeaf registry path leaf).warnings) : warning.place = path := by
  rcases Warned.mem_warnings_andThen member with none | ⟨name, member⟩
  · cases none
  rcases Warned.mem_warnings_andThen member with ofType | ⟨type, none⟩
  · exact Registry.place_of_mem_warnings ofType
  · cases none

namespace Schema

/-- The warnings for the leaf at a path. -/
def leafWarnings (registry : Registry) (rules : Document) (path : DocPath) : List CompileWarning :=
  match mappingAt rules path with
  | .ok leaf => (Level.ofLeaf registry path leaf).warnings
  | .error _ => []

theorem warnings_resolveLeaves {rules : Document} {before after : ResolvedFields}
    {paths : List DocPath}
    (resolved : (resolveLeaves registry rules before paths).result = .ok after) :
    (resolveLeaves registry rules before paths).warnings =
      paths.flatMap (leafWarnings registry rules) := by
  induction paths generalizing before with
  | nil => rfl
  | cons path rest ih =>
      rcases resolveLeaves_cons_eq_ok resolved with ⟨leaf, field, found, built, later⟩
      rw [resolveLeaves, List.flatMap_cons, leafWarnings, ← ih later]
      simp only [Warned.silent, Warned.andThen, found, built, List.nil_append]

theorem warnings_of_compile {rules : Document} {schema : Schema}
    (compiled : compile registry rules = .ok schema) :
    schema.warnings = (pathsWhere isLeaf rules).flatMap (leafWarnings registry rules) := by
  rw [compile] at compiled
  split at compiled
  · cases compiled
  next entries mapping =>
  split at compiled
  · cases compiled
  rcases except_map_eq_ok.mp compiled with ⟨type, typed, rfl⟩
  rcases typeOf_eq_ok typed with ⟨fields, resolved, accepted, leaves, run, closed⟩
  rw [← warnings_resolveLeaves leaves]
  dsimp only
  rw [typeOf]
  simp only [Warned.silent, Warned.andThen, accepted, leaves, List.nil_append, List.append_nil]

theorem filter_warnings {rules : Document} {paths : List DocPath} (test : DocPath → Bool) :
    (paths.flatMap (leafWarnings registry rules)).filter (fun warning => test warning.place) =
      (paths.filter test).flatMap (leafWarnings registry rules) := by
  induction paths with
  | nil => rfl
  | cons path rest ih =>
      have own : (leafWarnings registry rules path).filter (fun warning => test warning.place) =
          if test path then leafWarnings registry rules path else [] := by
        have ofPath : ∀ warning ∈ leafWarnings registry rules path, warning.place = path := by
          intro warning member
          rw [leafWarnings] at member
          split at member
          · exact Level.place_of_mem_warnings member
          · cases member
        split
        · next passes =>
          exact List.filter_eq_self.mpr fun warning member => by rw [ofPath warning member, passes]
        · next fails =>
          exact List.filter_eq_nil_iff.mpr fun warning member => by rwa [ofPath warning member]
      rw [List.flatMap_cons, List.filter_append, ih, own, List.filter_cons]
      split
      · rw [List.flatMap_cons]
      · rfl

/-! ## Rules with a leaf changed to a twin -/

/-- Every leaf strictly below a path resolves. -/
def InnerLeavesBuild (registry : Registry) (rules : Document) (path : DocPath) : Prop :=
  ∀ inner ∈ leaves rules, path.isAncestorOf inner = true →
    ∃ leaf field, mappingAt rules inner = .ok leaf ∧
      (Level.ofLeaf registry inner leaf).result = .ok field

theorem innerLeavesBuild_of_compile {rules : Document} {schema : Schema}
    (compiled : compile registry rules = .ok schema) : InnerLeavesBuild registry rules path := by
  rcases compile_eq_ok compiled with ⟨entries, -, typed⟩
  rcases typeOf_eq_ok typed with ⟨fields, resolved, -, leaves, -⟩
  exact fun inner isLeaf _ => leavesBuild_iff.mpr ⟨fields, leaves⟩ inner isLeaf

theorem fieldsIn_changed {front back : Mapping} {key before after : Document}
    (same : fieldAt registry (path.child (PathKey.ofDocument key)) before =
      fieldAt registry (path.child (PathKey.ofDocument key)) after) :
    fieldsIn registry path (front ++ (key, before) :: back) =
      fieldsIn registry path (front ++ (key, after) :: back) := by
  induction front with
  | nil => rw [List.nil_append, List.nil_append, fieldsIn, fieldsIn, same]
  | cons entry rest ih =>
      rcases entry with ⟨own, value⟩
      rw [List.cons_append, List.cons_append, fieldsIn, fieldsIn, ih]

section Changed

variable {old new before after : Document} (twins : AreTwins old new)
include twins

/-- Outside the changed leaf a leaf gives the same field and warnings. -/
theorem ofLeaf_changed (registry : Registry) (change : old.Changed new path before after)
    (free : IsFree path) (outside : path.isAncestorOf place = false) :
    mappingAt before place = mappingAt after place ∨
      ∃ entries others, mappingAt before place = .ok entries ∧
        mappingAt after place = .ok others ∧
          Level.ofLeaf registry place entries = Level.ofLeaf registry place others := by
  rcases change.get? outside with same | ⟨value, other, found, alsoFound, same | inside⟩
  · exact .inl (by rw [mappingAt, mappingAt, same])
  · exact .inl (by rw [mappingAt, mappingAt, found, alsoFound, same])
  · rcases inside with ⟨rest, rfl, below⟩
    rcases sameReserved_of_changed twins below free.of_append_right with
      ⟨first, second⟩ | ⟨entries, others, first, second, same⟩
    · refine .inl ?_
      rw [mappingAt, mappingAt, found, alsoFound, Option.bind_some, Option.bind_some, first, second]
    · exact .inr ⟨entries, others, mappingAt_eq_ok_iff.mpr ⟨value, found, first⟩,
        mappingAt_eq_ok_iff.mpr ⟨other, alsoFound, second⟩, Level.ofLeaf_congr same⟩

theorem fieldAt_changed (change : old.Changed new path before after) (free : IsFree path)
    (base : DocPath) : fieldAt registry base before = fieldAt registry base after := by
  induction change generalizing base with
  | here =>
      rcases twins with ⟨entries, others, first, second, same, typed⟩
      rw [fieldAt_of_asMapping? first, fieldAt_of_asMapping? second, fieldAt, fieldAt,
        if_pos typed, if_pos (same.hasField ▸ typed), Level.ofLeaf_congr same]
  | @entry front back key before after path below ih =>
      have same := sameReserved_changed front back before after (free _ List.mem_cons_self)
      have inner := ih free.of_cons (base.child (PathKey.ofDocument key))
      rw [fieldAt, fieldAt, same.hasField, Level.ofLeaf_congr same, Level.docText_congr same]
      simp only [Registry.resolveValidators_congr same, fieldsIn_changed inner]
  | item => rfl
  | tag below ih => exact ih free base

theorem recordOf_changed {root others : Mapping}
    (change : old.Changed new path (.mapping root) (.mapping others)) (free : IsFree path)
    (untyped : root.hasField "type" = false) :
    recordOf registry root = recordOf registry others := by
  cases change with
  | here =>
      have typed : root.hasField "type" = true := twins.typed
      rw [untyped] at typed
      cases typed
  | @entry front back key before after path below =>
      have same := sameReserved_changed front back before after (free _ List.mem_cons_self)
      have inner : fieldAt registry (DocPath.child [] (PathKey.ofDocument key)) before =
          fieldAt registry (DocPath.child [] (PathKey.ofDocument key)) after :=
        fieldAt_changed twins below free.of_cons _
      rw [recordOf, recordOf, fieldsIn_changed inner, Registry.resolveValidators_congr same]

theorem leavesBuild_changed (change : old.Changed new path before after) (free : IsFree path)
    (build : LeavesBuild registry before) (inner : InnerLeavesBuild registry after path) :
    LeavesBuild registry after := by
  intro place isLeaf
  cases below : path.isAncestorOf place with
  | true => exact inner place isLeaf below
  | false =>
      have wasLeaf := mem_leaves_changed twins.symm change.symm free isLeaf below
      rcases build place wasLeaf with ⟨leaf, field, found, built⟩
      rcases ofLeaf_changed twins registry change free below with
        same | ⟨entries, others, first, second, sameField⟩
      · exact ⟨leaf, field, same ▸ found, built⟩
      · cases first.symm.trans found
        exact ⟨others, field, second, sameField ▸ built⟩

/-- The changed rules have the same type if the leaves inside the changed leaf resolve. -/
theorem HasType.changed {root others : Mapping} {type : RecordType}
    (change : old.Changed new path (.mapping root) (.mapping others)) (free : IsFree path)
    (untyped : root.hasField "type" = false) (typed : HasType registry root type)
    (inner : InnerLeavesBuild registry (.mapping others) path) :
    HasType registry others type := by
  have tidy := isTidy_changed twins change free typed.tidy
  have stillUntyped : describesValue (.mapping others) = false :=
    (describesValue_changed twins change free).symm.trans untyped
  refine ⟨tidy, ?_, leavesBuild_changed twins change free typed.leavesBuild inner, ?_, ?_⟩
  · refine tidy.checkStructure_eq_ok stillUntyped fun place value notRoot leads isRecord => ?_
    rcases leads_changed twins.symm change.symm free leads with ⟨record, toRecord, same⟩
    have branch := mem_branches_of_record typed.tidy typed.accepted toRecord notRoot
      (same.symm.trans isRecord)
    rcases (typed.tidy.mem_branches_iff untyped).mp branch with
      ⟨-, -, below, leaf, further, toLeaf, isLeaf⟩
    rcases leads_changed twins change free toLeaf with ⟨other, toOther, sameLeaf⟩
    exact ⟨below, other, further, toOther, sameLeaf.symm.trans isLeaf⟩
  · refine exposed_congr (fun place => ?_) typed.exposed
    exact ⟨mem_branches_changed twins.symm change.symm free tidy stillUntyped,
      mem_branches_changed twins change free typed.tidy untyped⟩
  · rw [← recordOf_changed twins change free untyped]
    exact typed.recursive

/-- Where rules compile, the changed ones do if the leaves inside the changed leaf resolve. -/
theorem exists_compile_changed (change : old.Changed new path before after) (free : IsFree path)
    (notRoot : path ≠ []) {schema : Schema} (compiled : compile registry before = .ok schema)
    (inner : InnerLeavesBuild registry after path) :
    ∃ other, compile registry after = .ok other ∧ other.type = schema.type := by
  rcases compile_eq_ok compiled with ⟨root, mapping, -⟩
  rcases hasType_of_compile compiled mapping with ⟨untyped, typed, same | noNodes⟩
  · subst same
    cases change with
    | here => exact absurd rfl notRoot
    | @entry front back key value other path below =>
        have change : old.Changed new (PathKey.ofDocument key :: path)
            (.mapping (front ++ (key, value) :: back))
            (.mapping (front ++ (key, other) :: back)) := .entry below
        have stillTyped := typed.changed twins change free untyped inner
        have stillUntyped : Mapping.hasField (front ++ (key, other) :: back) "type" = false :=
          (describesValue_changed twins change free).symm.trans untyped
        exact (compile_eq_ok_iff stillUntyped).mpr stillTyped
  · rcases change.exists_holds notRoot with ⟨value, holds⟩
    have node : path ∈ pathsWhere isNode before := mem_nodePaths_iff.mpr ⟨free, value, holds⟩
    rw [pathsWhere_of_asMapping? mapping fun _ node => node, noNodes] at node
    cases node

theorem leafPaths_changed (change : old.Changed new path before after) (free : IsFree path) :
    (pathsWhere isLeaf before).filter (fun place => !path.isAncestorOf place) =
      (pathsWhere isLeaf after).filter (fun place => !path.isAncestorOf place) := by
  rw [pathsWhere_isLeaf, pathsWhere_isLeaf]
  exact leavesInside_changed twins change free []

/-- The warnings outside the changed leaf are the same. -/
theorem warnings_changed (change : old.Changed new path before after) (free : IsFree path)
    {schema other : Schema} (compiled : compile registry before = .ok schema)
    (alsoCompiled : compile registry after = .ok other) :
    schema.warnings.filter (fun warning => !path.isAncestorOf warning.place) =
      other.warnings.filter (fun warning => !path.isAncestorOf warning.place) := by
  rw [warnings_of_compile compiled, warnings_of_compile alsoCompiled,
    filter_warnings fun place => !path.isAncestorOf place,
    filter_warnings fun place => !path.isAncestorOf place, leafPaths_changed twins change free]
  refine List.flatMap_congr fun place member => ?_
  have outside : path.isAncestorOf place = false := by
    simpa using (List.mem_filter.mp member).2
  rw [leafWarnings, leafWarnings]
  rcases ofLeaf_changed twins registry change free outside with
    same | ⟨entries, others, first, second, sameField⟩
  · rw [same]
  · rw [first, second]
    exact congrArg Warned.warnings sameField

/-- Rules that compile before and after the change have one type and agree on other warnings. -/
theorem agree_outside (change : old.Changed new path before after) (free : IsFree path)
    (notRoot : path ≠ []) {schema other : Schema}
    (compiled : compile registry before = .ok schema)
    (alsoCompiled : compile registry after = .ok other) :
    other.type = schema.type ∧
      other.warnings.filter (fun warning => !path.isAncestorOf warning.place) =
        schema.warnings.filter fun warning => !path.isAncestorOf warning.place := by
  rcases exists_compile_changed twins change free notRoot compiled
    (innerLeavesBuild_of_compile alsoCompiled) with ⟨again, compiledAgain, sameType⟩
  cases compiledAgain.symm.trans alsoCompiled
  exact ⟨sameType, (warnings_changed twins change free compiled alsoCompiled).symm⟩

/-- Without leaves inside the changed leaf the rules compile to the same. -/
theorem compile_changed (change : old.Changed new path before after) (free : IsFree path)
    (notRoot : path ≠ [])
    (noneInside : ∀ inner ∈ leaves before ++ leaves after, path.isAncestorOf inner = false)
    {type : RecordType} {warnings : List CompileWarning} {digest : String}
    (compiled : compile registry before = .ok ⟨type, warnings, digest⟩) :
    ∃ digest, compile registry after = .ok ⟨type, warnings, digest⟩ := by
  have nothingToBuild : InnerLeavesBuild registry after path := by
    intro inner isLeaf inside
    rw [noneInside inner (List.mem_append_right _ isLeaf)] at inside
    cases inside
  rcases exists_compile_changed twins change free notRoot compiled nothingToBuild with
    ⟨other, alsoCompiled, -⟩
  have allOutside {rules : Document} {schema : Schema}
      (compiled : compile registry rules = .ok schema)
      (leavesOutside : ∀ inner ∈ leaves rules, path.isAncestorOf inner = false) :
      schema.warnings.filter (fun warning => !path.isAncestorOf warning.place) =
        schema.warnings := by
    rw [warnings_of_compile compiled, filter_warnings fun place => !path.isAncestorOf place]
    congr 1
    refine List.filter_eq_self.mpr fun inner isLeaf => ?_
    rw [leavesOutside inner (Rule.mem_leaves.mpr isLeaf)]
    rfl
  rcases agree_outside twins change free notRoot compiled alsoCompiled with ⟨sameType, agree⟩
  rw [allOutside alsoCompiled fun inner isLeaf =>
      noneInside inner (List.mem_append_right _ isLeaf),
    allOutside compiled fun inner isLeaf =>
      noneInside inner (List.mem_append_left _ isLeaf)] at agree
  rcases other with ⟨otherType, otherWarnings, otherDigest⟩
  dsimp only at sameType agree
  rw [sameType, agree] at alsoCompiled
  exact ⟨otherDigest, alsoCompiled⟩

end Changed

/--
An annotation changes nothing but what its own leaves make of the rules: with them resolved, the
rules compile just as before, to the same type, and warn of the same outside the leaf.  Where no
leaf lies in the leaf, nothing changes at all.
-/
theorem compile_annotated (registry : Registry) {rules annotated leaf key value : Document}
    {path : DocPath} (free : IsFree path) (notRoot : path ≠ [])
    (typed : describesValue leaf = true) (extra : isReservedText key.keyText = false)
    (change : leaf.Changed (leaf.setEntry key value) path rules annotated) :
    ((∃ schema, compile registry annotated = .ok schema) ∧
        InnerLeavesBuild registry rules path ↔
      (∃ schema, compile registry rules = .ok schema) ∧
        InnerLeavesBuild registry annotated path) ∧
    (∀ schema other, compile registry rules = .ok schema →
      compile registry annotated = .ok other → other.type = schema.type ∧
        other.warnings.filter (fun warning => !path.isAncestorOf warning.place) =
          schema.warnings.filter fun warning => !path.isAncestorOf warning.place) ∧
    ((∀ inner ∈ leaves rules ++ leaves annotated, path.isAncestorOf inner = false) →
      ∀ type warnings,
        (∃ digest, compile registry annotated = .ok ⟨type, warnings, digest⟩) ↔
          ∃ digest, compile registry rules = .ok ⟨type, warnings, digest⟩) := by
  have twins : AreTwins leaf (leaf.setEntry key value) := areTwins_setEntry typed extra
  have back := change.symm
  refine ⟨⟨?_, ?_⟩, fun _ _ => agree_outside twins change free notRoot, ?_⟩
  · rintro ⟨⟨other, compiled⟩, inner⟩
    rcases exists_compile_changed twins.symm back free notRoot compiled inner with
      ⟨schema, alsoCompiled, -⟩
    exact ⟨⟨schema, alsoCompiled⟩, innerLeavesBuild_of_compile compiled⟩
  · rintro ⟨⟨schema, compiled⟩, inner⟩
    rcases exists_compile_changed twins change free notRoot compiled inner with
      ⟨other, alsoCompiled, -⟩
    exact ⟨⟨other, alsoCompiled⟩, innerLeavesBuild_of_compile compiled⟩
  · intro noneInside type warnings
    have swapped : ∀ inner ∈ leaves annotated ++ leaves rules,
        path.isAncestorOf inner = false := fun inner member =>
      noneInside inner (List.perm_append_comm.subset member)
    constructor
    · rintro ⟨digest, compiled⟩
      exact compile_changed twins.symm back free notRoot swapped compiled
    · rintro ⟨digest, compiled⟩
      exact compile_changed twins change free notRoot noneInside compiled

/-- Rules with a single leaf, the cost. -/
def costRules (leaf : Document) : Document := .mapping [(.string "cost", leaf)]

/-- The leaf of the cost with a scale. -/
def scaled (scale : Document) : Document := (leafOf "float").setEntry (.string "scale") scale

theorem changed_costRules (old new : Document) :
    old.Changed new [.key "cost"] (costRules old) (costRules new) :=
  @Document.Changed.entry old new [] [] (.string "cost") old new [] .here

theorem compile_annotated_scaled :
    ∃ schema other, compile .standard (costRules (leafOf "float")) = .ok schema ∧
      compile .standard (costRules (scaled (leafOf "int"))) = .ok other ∧
      other.type = schema.type := by
  have plain : (compile .standard (costRules (leafOf "float"))).isOk = true := by decide +kernel
  have annotated : (compile .standard (costRules (scaled (leafOf "int")))).isOk = true := by
    decide +kernel
  rcases exists_of_isOk plain with ⟨schema, compiled⟩
  rcases exists_of_isOk annotated with ⟨other, alsoCompiled⟩
  have free : IsFree [.key "cost"] := by
    intro step member
    rw [List.mem_singleton.mp member]
    decide
  rcases compile_annotated .standard free (List.cons_ne_nil _ _) (by decide) (by decide)
    (changed_costRules (leafOf "float") (scaled (leafOf "int"))) with ⟨-, agree, -⟩
  exact ⟨schema, other, compiled, alsoCompiled, (agree schema other compiled alsoCompiled).1⟩

/-- A scale that is a leaf of an unknown type makes rules fail that compile without it. -/
theorem annotation_refused_scale :
    [.key "cost"] ∈ leaves (costRules (leafOf "float")) ∧
      hasLeafAncestor (leaves (costRules (leafOf "float"))) [.key "cost"] = false ∧
      isReservedText (Document.keyText (.string "scale")) = false ∧
      (leafOf "float").Changed (scaled (leafOf "nonsense")) [.key "cost"]
        (costRules (leafOf "float")) (costRules (scaled (leafOf "nonsense"))) ∧
      (compile .standard (costRules (leafOf "float"))).isOk = true ∧
      (compile .standard (costRules (scaled (leafOf "nonsense")))).isOk = false := by
  refine ⟨by decide, by decide, by decide, changed_costRules _ _, ?_, ?_⟩
  · decide +kernel
  · decide +kernel

end Schema

end RuleSchema
