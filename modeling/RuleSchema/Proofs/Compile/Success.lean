import RuleSchema.Proofs.Compile.Completeness
import RuleSchema.Proofs.Compile.Recursion
import RuleSchema.Proofs.Rule.Records

/-!
# When rules compile

Rules compile just when their structure is accepted, their leaves resolve, the recursion over
them gives a type and some branch is not hidden by another one.  What compiles is tidy.
-/

namespace RuleSchema

namespace Schema

open Rule

variable {registry : Registry} {rules : Document} {entries : Mapping} {path : DocPath}
  {fields : List (String × FieldSpec)}

/-! ## Fields of the recursion -/

/-- A list of fields by recursion has the field of each entry that stands for one. -/
theorem exists_fieldAt_of_mem (built : fieldsIn registry path entries = .ok fields)
    {key value : Document} (member : (key, value) ∈ entries)
    (free : isReservedText key.keyText = false) :
    ∃ field, fieldAt registry (path.child (PathKey.ofDocument key)) value = .ok field ∧
      (key.keyText, field) ∈ fields := by
  induction entries generalizing fields with
  | nil => cases member
  | cons entry rest ih =>
      rcases entry with ⟨headKey, headValue⟩
      rw [fieldsIn] at built
      by_cases reserved : isReservedText headKey.keyText = true
      · rw [if_pos reserved] at built
        rcases List.mem_cons.mp member with same | later
        · rw [(Prod.mk.inj same).1, reserved] at free
          cases free
        · exact ih built later
      · rw [if_neg reserved] at built
        rcases except_bind_eq_ok.mp built with ⟨field, headBuilt, built⟩
        rcases except_bind_eq_ok.mp built with ⟨others, restBuilt, made⟩
        cases made
        rcases List.mem_cons.mp member with same | later
        · cases same
          exact ⟨field, headBuilt, List.mem_cons_self⟩
        · rcases ih restBuilt later with ⟨found, builtLater, inOthers⟩
          exact ⟨found, builtLater, List.mem_cons_of_mem _ inOthers⟩

theorem names_of_fieldsIn (built : fieldsIn registry path entries = .ok fields) :
    fields.map Prod.fst = Level.fieldNames entries := by
  induction entries generalizing fields with
  | nil =>
      cases built
      rfl
  | cons entry rest ih =>
      rcases entry with ⟨key, value⟩
      rw [fieldsIn] at built
      by_cases reserved : isReservedText key.keyText = true
      · rw [if_pos reserved] at built
        simpa [Level.fieldNames, reserved] using ih built
      · rw [if_neg reserved] at built
        rcases except_bind_eq_ok.mp built with ⟨field, -, built⟩
        rcases except_bind_eq_ok.mp built with ⟨others, restBuilt, made⟩
        cases made
        have free : isReservedText key.keyText = false := by simpa using reserved
        simpa [Level.fieldNames, free] using ih restBuilt

/-- What the recursion goes through at a record. -/
theorem fieldAt_record_eq_ok (untyped : entries.hasField "type" = false) {field : FieldSpec}
    (built : fieldAt registry path (.mapping entries) = .ok field) :
    ∃ name validators fields type, Level.fieldName path = .ok name ∧
      registry.resolveValidators path (some name) entries = .ok validators ∧
      fieldsIn registry path entries = .ok fields ∧
      Level.close name ⟨fields, validators.filter BoundValidator.isRecord⟩ [] path = .ok type ∧
      field = ⟨.record type, validators.filter fun validator => !validator.isRecord, none, false,
        Level.docText entries⟩ := by
  rw [fieldAt, if_neg (by simp [untyped])] at built
  rcases except_bind_eq_ok.mp built with ⟨name, named, built⟩
  rcases except_bind_eq_ok.mp built with ⟨validators, bound, built⟩
  rcases except_bind_eq_ok.mp built with ⟨fields, gathered, built⟩
  rcases except_bind_eq_ok.mp built with ⟨type, closed, made⟩
  cases made
  exact ⟨name, validators, fields, type, named, bound, gathered, closed, rfl⟩

/-- The recursion gives a field at every path of fields. -/
theorem exists_fieldAt_of_leads {whole value : Document} {below : DocPath}
    (leads : Leads whole below value) (notHere : below ≠ [])
    (mapping : whole = .mapping entries) (built : fieldsIn registry path entries = .ok fields) :
    ∃ field, fieldAt registry (path ++ below) value = .ok field := by
  induction leads generalizing path entries fields with
  | here => exact absurd rfl notHere
  | @field own key inner value rest untyped member free leads ih =>
      cases mapping
      rcases exists_fieldAt_of_mem built member free with ⟨field, builtHere, -⟩
      by_cases last : rest = []
      · subst last
        cases leads
        exact ⟨field, builtHere⟩
      · cases leads with
        | here => exact absurd rfl last
        | field innerUntyped innerMember innerFree innerLeads =>
            rcases fieldAt_record_eq_ok innerUntyped builtHere with
              ⟨_, _, innerFields, _, _, _, gathered, _⟩
            rcases ih last rfl gathered with ⟨found, builtBelow⟩
            refine ⟨found, ?_⟩
            simpa [DocPath.child] using builtBelow

/-! ## Rules that compile are tidy -/

/-- Every leaf is found by a lookup and builds a field. -/
def LeavesBuild (registry : Registry) (rules : Document) : Prop :=
  ∀ path ∈ leaves rules, ∃ leaf field, mappingAt rules path = .ok leaf ∧
    (Level.ofLeaf registry path leaf).result = .ok field

theorem resolveLeaves_isOk_iff {before : ResolvedFields} {paths : List DocPath} :
    (∃ after, (resolveLeaves registry rules before paths).result = .ok after) ↔
      ∀ path ∈ paths, ∃ leaf field, mappingAt rules path = .ok leaf ∧
        (Level.ofLeaf registry path leaf).result = .ok field := by
  induction paths generalizing before with
  | nil => simp [resolveLeaves, Warned.silent]
  | cons path rest ih =>
      rw [List.forall_mem_cons]
      constructor
      · rintro ⟨after, resolved⟩
        rcases resolveLeaves_cons_eq_ok resolved with ⟨leaf, field, found, built, later⟩
        exact ⟨⟨leaf, field, found, built⟩, ih.mp ⟨after, later⟩⟩
      · rintro ⟨⟨leaf, field, found, built⟩, others⟩
        rcases ih.mpr others with ⟨after, later⟩
        refine ⟨after, ?_⟩
        rw [resolveLeaves, Warned.andThen_result_eq_ok]
        refine ⟨leaf, found, ?_⟩
        rw [Warned.andThen_result_eq_ok]
        exact ⟨field, built, later⟩

theorem leavesBuild_iff :
    LeavesBuild registry rules ↔
      ∃ resolved,
        (resolveLeaves registry rules [] (pathsWhere isLeaf rules)).result = .ok resolved := by
  rw [resolveLeaves_isOk_iff, LeavesBuild]
  exact forall_congr' fun path => by rw [Rule.mem_leaves]

theorem LeavesBuild.describesValue (build : LeavesBuild registry rules)
    (leaf : path ∈ leaves rules) :
    ∃ value, path.get? rules = some value ∧ describesValue value = true := by
  rcases build path leaf with ⟨entries, field, found, built⟩
  rcases mappingAt_eq_ok_iff.mp found with ⟨value, lookup, mapping⟩
  refine ⟨value, lookup, ?_⟩
  rw [Rule.describesValue, mapping]
  exact Level.hasType_of_ofLeaf built

/-- A branch that has a leaf which a lookup finds is a mapping without tags. -/
theorem eq_mapping_of_branch (build : LeavesBuild registry rules) {value : Document}
    (branch : path ∈ branches rules) (found : path.get? rules = some value) :
    ∃ entries, value = .mapping entries := by
  rcases Rule.mem_branches_iff.mp branch with
    ⟨-, -, -, ⟨other, lookup, mapping⟩, leaf, isLeaf, isAbove⟩
  obtain rfl := Option.some.inj (found.symm.trans lookup)
  rcases DocPath.isAncestorOf_iff.mp isAbove with ⟨below, some, rfl⟩
  rcases build.describesValue isLeaf with ⟨inner, deeper, -⟩
  rw [DocPath.get?_append, found, Option.bind_some] at deeper
  rcases List.exists_cons_of_ne_nil some with ⟨step, rest, rfl⟩
  cases value with
  | mapping entries => exact ⟨entries, rfl⟩
  | tagged name inner => cases step <;> cases deeper
  | _ => cases mapping

/-- A lookup finds what a record has at a key that stands for a field. -/
theorem get?_child_of_mem (build : LeavesBuild registry rules)
    (accepted : checkStructure rules (leaves rules) (branches rules) = .ok ())
    (distinct : (Level.fieldNames entries).Nodup)
    (found : path.get? rules = some (.mapping entries))
    (isRecord : path ≠ [] → path ∈ branches rules) {key value : Document}
    (member : (key, value) ∈ entries) (free : isReservedText key.keyText = false) :
    IsAddressable key ∧ DocPath.get? (path.child (PathKey.ofDocument key)) rules = some value := by
  have somewhere : ∃ other,
      DocPath.get? (path.child (PathKey.ofDocument key)) rules = some other := by
    rcases leaf_or_branch_of_child accepted found rfl isRecord member free with leaf | branch
    · rcases build.describesValue leaf with ⟨other, hit, -⟩
      exact ⟨other, hit⟩
    · rcases Rule.mem_branches_iff.mp branch with ⟨-, -, -, ⟨other, hit, -⟩, -⟩
      exact ⟨other, hit⟩
  rcases somewhere with ⟨other, hit⟩
  have atKey : Mapping.at? entries key.keyText = some other := by
    rw [DocPath.child, DocPath.get?_append, found, Option.bind_some, PathKey.ofDocument,
      DocPath.get?] at hit
    cases inner : Mapping.at? entries key.keyText with
    | none =>
        rw [inner] at hit
        cases hit
    | some value =>
        rw [inner] at hit
        exact hit
  rcases Option.map_eq_some_iff.mp atKey with ⟨entry, addressed, rfl⟩
  have known := List.mem_of_find?_eq_some addressed
  have isAddressed := List.find?_some addressed
  obtain rfl : (key, value) = entry :=
    Level.eq_of_keyText_eq distinct member known free
      (Document.keyText_of_addresses isAddressed).symm
  refine ⟨?_, hit⟩
  intro isString
  rw [Mapping.addresses] at isAddressed
  split at isAddressed
  · cases key with
    | string text => exact ⟨text, rfl⟩
    | _ => cases isAddressed
  · rw [isString] at isAddressed
    cases isAddressed

/-- By induction on the record; an entry that stands for a field is a leaf or a record again. -/
theorem isTidy_of_fieldsIn (build : LeavesBuild registry rules)
    (accepted : checkStructure rules (leaves rules) (branches rules) = .ok ())
    (untyped : entries.hasField "type" = false) (distinct : (Level.fieldNames entries).Nodup)
    (built : fieldsIn registry path entries = .ok fields)
    (found : path.get? rules = some (.mapping entries))
    (isRecord : path ≠ [] → path ∈ branches rules) :
    IsTidy (.mapping entries) := by
  suffices whole : ∀ value entries path fields, value = Document.mapping entries →
      Mapping.hasField entries "type" = false → (Level.fieldNames entries).Nodup →
      fieldsIn registry path entries = .ok fields →
      path.get? rules = some (.mapping entries) → (path ≠ [] → path ∈ branches rules) →
      IsTidy value from
    whole _ entries path fields rfl untyped distinct built found isRecord
  intro value
  induction value using Document.memberInduction with
  | mapping own each =>
      intro entries path fields same untyped distinct built found isRecord
      cases same
      have lookup {key value : Document} (member : (key, value) ∈ own)
          (free : isReservedText key.keyText = false) :=
        get?_child_of_mem build accepted distinct found isRecord member free
      refine .record untyped distinct (fun entry member free => (lookup member free).1) ?_
      rintro ⟨key, value⟩ member free
      have hit := (lookup member free).2
      cases typed : describesValue value with
      | true => exact .leaf typed
      | false =>
          rcases leaf_or_branch_of_child accepted found rfl isRecord member free with
            leaf | branch
          · rcases build.describesValue leaf with ⟨other, otherHit, otherTyped⟩
            rw [hit, Option.some.injEq] at otherHit
            rw [← otherHit, typed] at otherTyped
            cases otherTyped
          · rcases eq_mapping_of_branch build branch hit with ⟨inner, rfl⟩
            rcases exists_fieldAt_of_mem built member free with ⟨field, builtHere, -⟩
            rcases fieldAt_record_eq_ok typed builtHere with
              ⟨_, _, innerFields, _, -, -, gathered, closed, -⟩
            refine (each key _ member).2 inner _ innerFields rfl typed ?_ gathered hit
              (fun _ => branch)
            rw [← names_of_fieldsIn gathered]
            exact Level.nodup_of_close closed
  | _ => intro entries path fields same; cases same

/-! ## From the recursion to the rounds -/

variable {root : Mapping} {resolved : ResolvedFields}

section Rounds

variable (tidy : IsTidy (.mapping root)) (untyped : root.hasField "type" = false)
  (accepted : checkStructure (.mapping root) (leaves (.mapping root))
    (branches (.mapping root)) = .ok ())
  (built : fieldsIn registry [] root = .ok fields)
  (faithful : Faithful registry (.mapping root) resolved)
  (leavesKnown : ∀ leaf ∈ leaves (.mapping root), resolved.has leaf = true)

include tidy untyped accepted built faithful leavesKnown

/-- A branch that is ready can be assembled, since the recursion has a field for it. -/
theorem exists_ofBranch (branch : path ∈ branches (.mapping root))
    (ready : isReady (branches (.mapping root)) resolved path = true) :
    ∃ entries field, mappingAt (.mapping root) path = .ok entries ∧
      Level.ofBranch registry path entries resolved = .ok field := by
  rcases (tidy.mem_branches_iff untyped).mp branch with ⟨notRoot, ⟨value, leads, isRecord⟩, -⟩
  rcases (leads.isTidy tidy).eq_mapping isRecord with ⟨entries, rfl, noType⟩
  have lookup := leads.get?_eq tidy
  rcases exists_fieldAt_of_leads leads notRoot rfl built with ⟨field, ofPath⟩
  rw [List.nil_append] at ofPath
  rcases fieldAt_record_eq_ok noType ofPath with
    ⟨name, validators, inner, type, named, bound, gathered, closed, rfl⟩
  have atPath : mappingAt (.mapping root) path = .ok entries :=
    mappingAt_eq_ok_iff.mpr ⟨_, lookup, rfl⟩
  rcases exists_collect_of_ready accepted leavesKnown (fun _ => branch) ready atPath with
    ⟨level, collected⟩
  rcases except_map_eq_ok.mp collected with ⟨found, fieldsOf, rfl⟩
  have distinct : (Level.fieldNames entries).Nodup := by
    rw [← names_of_fieldsIn gathered]
    exact Level.nodup_of_close closed
  have recursive := faithful.fieldsIn_eq_ok lookup rfl distinct (List.Subset.refl _) fieldsOf
  obtain rfl : inner = found := Except.ok.inj (gathered.symm.trans recursive)
  have made : Level.ofBranch registry path entries resolved =
      .ok ⟨.record type, validators.filter fun validator => !validator.isRecord, none, false,
        Level.docText entries⟩ := by
    refine except_bind_eq_ok.mpr ⟨name, named, ?_⟩
    refine except_bind_eq_ok.mpr ⟨validators, bound, ?_⟩
    refine except_bind_eq_ok.mpr ⟨⟨inner, []⟩, collected, ?_⟩
    exact except_bind_eq_ok.mpr ⟨type, closed, rfl⟩
  exact ⟨entries, _, atPath, made⟩

theorem exists_assemble {remaining : List DocPath}
    (areBranches : ∀ path ∈ remaining, path ∈ branches (.mapping root)) :
    ∃ after, assemble registry (.mapping root) (branches (.mapping root)) resolved remaining =
      .ok after := by
  induction remaining generalizing resolved with
  | nil => exact ⟨resolved, rfl⟩
  | cons path rest ih =>
      rcases List.forall_mem_cons.mp areBranches with ⟨branch, others⟩
      rw [assemble]
      split
      · exact ih faithful leavesKnown others
      · next turn =>
        simp only [Bool.or_eq_true, Bool.not_eq_true', not_or, Bool.not_eq_true,
          Bool.not_eq_false] at turn
        rcases exists_ofBranch tidy untyped accepted built faithful leavesKnown branch turn.2 with
          ⟨entries, field, found, made⟩
        have stillKnown : ∀ leaf ∈ leaves (.mapping root),
            ResolvedFields.has ((path, field) :: resolved) leaf = true := by
          intro leaf isLeaf
          simp [leavesKnown leaf isLeaf]
        rcases ih (faithful.branch branch found made) stillKnown others with ⟨after, run⟩
        refine ⟨after, except_bind_eq_ok.mpr ⟨entries, found, ?_⟩⟩
        exact except_bind_eq_ok.mpr ⟨field, made, run⟩

theorem exists_rounds {count : Nat} {remaining : List DocPath}
    (areBranches : ∀ path ∈ remaining, path ∈ branches (.mapping root)) :
    ∃ after, rounds registry (.mapping root) (branches (.mapping root)) count resolved remaining =
      .ok after := by
  induction count generalizing resolved remaining with
  | zero => exact ⟨resolved, rfl⟩
  | succ count ih =>
      rw [rounds]
      split
      · exact ⟨resolved, rfl⟩
      · rcases exists_assemble tidy untyped accepted built faithful leavesKnown areBranches with
          ⟨next, round⟩
        have run := assembles_of_assemble areBranches round
        have stillKnown : ∀ leaf ∈ leaves (.mapping root), next.has leaf = true :=
          fun leaf isLeaf => run.has_mono (leavesKnown leaf isLeaf)
        rcases ih (faithful.assembles run) stillKnown
            (fun path => mem_branches_of_waiting accepted areBranches) with ⟨after, rest⟩
        exact ⟨after, except_bind_eq_ok.mpr ⟨next, round, rest⟩⟩

end Rounds

/-! ## The whole of compiling -/

theorem faithful_of_resolveLeaves {after : ResolvedFields}
    (leaves : (resolveLeaves registry rules [] (pathsWhere isLeaf rules)).result = .ok after) :
    Faithful registry rules after :=
  resolveLeaves_induction (fun _ _ _ _ _ found built faithful => faithful.leaf found built)
    (fun _ _ member => absurd member List.not_mem_nil) leaves

/-- The root closes to the type of the recursion, once the level at the root is collected. -/
theorem closeRoot_eq_recordOf (faithful : Faithful registry (.mapping root) resolved)
    (distinct : (Level.fieldNames root).Nodup) {level : Level}
    (collected : Level.collect [] root resolved = .ok level) :
    closeRoot registry root resolved = recordOf registry root := by
  rcases except_map_eq_ok.mp collected with ⟨gathered, fieldsOf, rfl⟩
  have atRoot : DocPath.get? [] (Document.mapping root) = some (.mapping root) := rfl
  have recursive := faithful.fieldsIn_eq_ok atRoot rfl distinct (List.Subset.refl _) fieldsOf
  rw [closeRoot, recordOf, collected, recursive]
  rfl

/-- Where the level at the root is collected, the rounds have begun. -/
theorem exposed_of_collect
    (accepted : checkStructure (.mapping root) (leaves (.mapping root))
      (branches (.mapping root)) = .ok ()) {leafFields : ResolvedFields}
    (leaves :
      (resolveLeaves registry (.mapping root) [] (pathsWhere isLeaf (.mapping root))).result =
        .ok leafFields)
    (run : rounds registry (.mapping root) (branches (.mapping root))
      (branches (.mapping root)).length leafFields (deepest (branches (.mapping root))) =
        .ok resolved) {level : Level} (collected : Level.collect [] root resolved = .ok level) :
    Exposed (branches (.mapping root)) := by
  rw [exposed_iff]
  intro some hidden
  have same : leafFields = resolved := by
    rw [hidden] at run
    cases count : (branches (.mapping root)).length <;> simpa [rounds, count] using run
  rcases exists_has_of_collect rfl accepted some collected with ⟨path, branch, known⟩
  rw [← same, has_eq_false_of_branch leaves branch] at known
  cases known

/-- What rules that have a type fulfil. -/
structure HasType (registry : Registry) (root : Mapping) (type : RecordType) : Prop where
  tidy : IsTidy (.mapping root)
  accepted : checkStructure (.mapping root) (leaves (.mapping root))
    (branches (.mapping root)) = .ok ()
  leavesBuild : LeavesBuild registry (.mapping root)
  exposed : Exposed (branches (.mapping root))
  recursive : recordOf registry root = .ok type

variable {type : RecordType}

theorem hasType_of_typeOf (untyped : root.hasField "type" = false)
    (typed : (typeOf registry (.mapping root) root).result = .ok type) :
    HasType registry root type := by
  rcases typeOf_eq_ok typed with ⟨leafFields, resolved, accepted, leaves, run, closed⟩
  have faithful := (faithful_of_resolveLeaves leaves).assembles
    (assembles_of_rounds accepted (fun _ => mem_branches_of_deepest) run)
  rcases except_bind_eq_ok.mp closed with ⟨level, collected, afterLevel⟩
  rcases except_map_eq_ok.mp collected with ⟨gathered, fieldsOf, rfl⟩
  rcases except_bind_eq_ok.mp afterLevel with ⟨validators, bound, made⟩
  have distinct : (Level.fieldNames root).Nodup := by
    rw [← Level.names_of_fieldsOf fieldsOf]
    exact Level.nodup_of_close made
  have recursive : recordOf registry root = .ok type := by
    rw [← closeRoot_eq_recordOf faithful distinct collected]
    exact closed
  rcases except_bind_eq_ok.mp recursive with ⟨fields, built, -⟩
  have build : LeavesBuild registry (.mapping root) := leavesBuild_iff.mpr ⟨leafFields, leaves⟩
  refine ⟨?_, accepted, build, ?_, recursive⟩
  · exact isTidy_of_fieldsIn build accepted untyped distinct built rfl
      (fun notRoot => absurd rfl notRoot)
  · exact exposed_of_collect accepted leaves run collected

theorem HasType.typeOf_eq_ok (typed : HasType registry root type)
    (untyped : root.hasField "type" = false) :
    (typeOf registry (.mapping root) root).result = .ok type := by
  rcases typed with ⟨tidy, accepted, build, exposed, recursive⟩
  rcases leavesBuild_iff.mp build with ⟨leafFields, leaves⟩
  rcases except_bind_eq_ok.mp recursive with ⟨fields, built, afterFields⟩
  rcases except_bind_eq_ok.mp afterFields with ⟨validators, -, made⟩
  have initially := faithful_of_resolveLeaves leaves
  have leavesKnown : ∀ leaf ∈ Rule.leaves (.mapping root), leafFields.has leaf = true :=
    fun _ isLeaf => has_of_leaf leaves isLeaf
  have someRounds : ∃ after, rounds registry (.mapping root) (branches (.mapping root))
      (branches (.mapping root)).length leafFields (deepest (branches (.mapping root))) =
        .ok after :=
    exists_rounds tidy untyped accepted built initially leavesKnown fun path =>
      mem_branches_of_deepest
  rcases someRounds with ⟨resolved, run⟩
  have assembled := assembles_of_rounds accepted (fun _ => mem_branches_of_deepest) run
  rcases exists_collect_of_complete rfl accepted leaves (fun _ known => assembled.has_mono known)
      ((missing_eq_nil_iff_exposed accepted leaves run).mpr exposed) with ⟨level, collected⟩
  have distinct : (Level.fieldNames root).Nodup := by
    rw [← names_of_fieldsIn built]
    exact Level.nodup_of_close made
  have closed : closeRoot registry root resolved = .ok type := by
    rw [closeRoot_eq_recordOf (initially.assembles assembled) distinct collected]
    exact recursive
  have accepts : (Warned.silent (checkStructure (.mapping root) (Rule.leaves (.mapping root))
      (branches (.mapping root)))).result = .ok () := accepted
  rw [typeOf, Warned.andThen_result_eq_ok]
  refine ⟨(), accepts, ?_⟩
  rw [Warned.andThen_result_eq_ok]
  exact ⟨leafFields, leaves, except_bind_eq_ok.mpr ⟨resolved, run, closed⟩⟩

/-- Rules have a type just when these conditions hold. -/
theorem typeOf_eq_ok_iff (untyped : root.hasField "type" = false) :
    (typeOf registry (.mapping root) root).result = .ok type ↔ HasType registry root type :=
  ⟨hasType_of_typeOf untyped, fun typed => typed.typeOf_eq_ok untyped⟩

/-! ## Tags around the rules -/

/-- Tags around rules do not matter to where their nodes are. -/
theorem pathsWhere_of_asMapping? (mapping : rules.asMapping? = some root) {test : Location → Bool}
    (nodesOnly : ∀ location, test location = true → isNode location = true) :
    pathsWhere test rules = pathsWhere test (.mapping root) := by
  have belowRoot (document : Document) :
      document.walk.filter test = (Document.inside [] document).filter test := by
    rw [Document.walk, List.filter_cons_of_neg]
    intro passes
    cases nodesOnly _ passes
  have sameInside : Document.inside [] rules = Document.inside [] (.mapping root) := by
    induction rules, mapping using Document.asMappingInduction with
    | bare => rfl
    | tagged name inner mapping ih => exact ih
  rw [pathsWhere, pathsWhere, belowRoot, belowRoot, sameInside]

theorem reserved_of_noNodes (noNodes : pathsWhere isNode (.mapping root) = []) :
    ∀ entry ∈ root, isReservedText entry.1.keyText = true := by
  rintro ⟨key, value⟩ member
  apply Classical.byContradiction
  intro free
  have node : [PathKey.ofDocument key] ∈ pathsWhere isNode (.mapping root) := by
    refine mem_nodePaths_iff.mpr ⟨?_, value, .entry member⟩
    intro step isStep
    rw [List.mem_singleton.mp isStep]
    exact Bool.not_eq_true _ |>.mp free
  rw [noNodes] at node
  cases node

/-- Rules without nodes have a type if their root closes without fields. -/
theorem hasType_of_noNodes (noNodes : pathsWhere isNode (.mapping root) = [])
    (untyped : root.hasField "type" = false) (closed : closeRoot registry root [] = .ok type) :
    HasType registry root type := by
  have reserved := reserved_of_noNodes noNodes
  have noNames : Level.fieldNames root = [] := by
    rw [Level.fieldNames, List.filter_eq_nil_iff]
    intro name member
    rcases List.mem_map.mp member with ⟨entry, known, rfl⟩
    simp [reserved entry known]
  have distinct : (Level.fieldNames root).Nodup := noNames ▸ List.nodup_nil
  have noLeaf (path : DocPath) : path ∉ leaves (.mapping root) := by
    intro leaf
    rcases mem_leafPaths_iff.mp (Rule.mem_leaves.mp leaf) with ⟨free, value, holds, -⟩
    have node := mem_nodePaths_iff.mpr ⟨free, value, holds⟩
    rw [noNodes] at node
    cases node
  have noField {entry : Document × Document} (member : entry ∈ root)
      (free : isReservedText entry.1.keyText = false) : False := by
    rw [reserved entry member] at free
    cases free
  constructor
  · exact .record untyped distinct (fun _ member free => (noField member free).elim)
      fun _ member free => (noField member free).elim
  · rw [checkStructure_eq_ok_iff, noNodes]
    exact fun _ none => absurd none List.not_mem_nil
  · exact fun path leaf => absurd leaf (noLeaf path)
  · intro some
    rcases List.exists_mem_of_ne_nil _ some with ⟨path, branch⟩
    rcases Rule.mem_branches_iff.mp branch with ⟨-, -, -, -, leaf, isLeaf, -⟩
    exact absurd isLeaf (noLeaf leaf)
  · rcases except_bind_eq_ok.mp closed with ⟨level, collected, -⟩
    have faithful : Faithful registry (.mapping root) [] :=
      fun _ _ member => absurd member List.not_mem_nil
    rw [← closeRoot_eq_recordOf faithful distinct collected]
    exact closed

/-- Rules with tags around them have no node if they are accepted: no lookup finds a leaf there. -/
theorem nothing_of_tagged {name : String} {inner : Document}
    (build : LeavesBuild registry (.tagged name inner))
    (accepted : checkStructure (.tagged name inner) (leaves (.tagged name inner))
      (branches (.tagged name inner)) = .ok ()) :
    leaves (.tagged name inner) = [] ∧ branches (.tagged name inner) = [] ∧
      pathsWhere isNode (.tagged name inner) = [] := by
  have noLeaves : leaves (.tagged name inner) = [] := by
    rw [List.eq_nil_iff_forall_not_mem]
    intro path leaf
    rcases build.describesValue leaf with ⟨value, found, -⟩
    rcases mem_leafPaths_iff.mp (Rule.mem_leaves.mp leaf) with ⟨-, _, holds, -⟩
    rcases List.exists_cons_of_ne_nil holds.ne_nil with ⟨step, rest, rfl⟩
    cases step <;> cases found
  have noBranches : branches (.tagged name inner) = [] := by
    rw [List.eq_nil_iff_forall_not_mem]
    intro path branch
    rcases Rule.mem_branches_iff.mp branch with ⟨-, -, -, -, leaf, isLeaf, -⟩
    rw [noLeaves] at isLeaf
    cases isLeaf
  refine ⟨noLeaves, noBranches, ?_⟩
  rw [List.eq_nil_iff_forall_not_mem]
  intro path node
  have placed := checkStructure_eq_ok_iff.mp accepted path node
  simp [noLeaves, noBranches, hasLeafAncestor] at placed

/-- Rules that compile fulfil the conditions; where their root has tags, they have no node. -/
theorem hasType_of_compile {schema : Schema} (compiled : compile registry rules = .ok schema)
    (mapping : rules.asMapping? = some root) :
    root.hasField "type" = false ∧ HasType registry root schema.type ∧
      (rules = .mapping root ∨ pathsWhere isNode (.mapping root) = []) := by
  have untyped : root.hasField "type" = false := by
    rw [Bool.eq_false_iff]
    intro typed
    rw [compile, mapping] at compiled
    simp only [if_pos typed] at compiled
    cases compiled
  rcases compile_eq_ok compiled with ⟨entries, sameMapping, typed⟩
  cases sameMapping.symm.trans mapping
  refine ⟨untyped, ?_⟩
  cases rules with
  | mapping own =>
      cases mapping
      exact ⟨(typeOf_eq_ok_iff untyped).mp typed, .inl rfl⟩
  | tagged name inner =>
      rcases typeOf_eq_ok typed with ⟨leafFields, resolved, accepted, resolvedLeaves, run, closed⟩
      rcases nothing_of_tagged (leavesBuild_iff.mpr ⟨leafFields, resolvedLeaves⟩) accepted with
        ⟨noLeaves, noBranches, noNodes⟩
      rw [pathsWhere_of_asMapping? mapping fun _ node => node] at noNodes
      have noLeafPaths : pathsWhere isLeaf (.tagged name inner) = [] := by
        rw [List.eq_nil_iff_forall_not_mem]
        intro path leaf
        rw [← Rule.mem_leaves, noLeaves] at leaf
        cases leaf
      rw [noLeafPaths] at resolvedLeaves
      obtain rfl : [] = leafFields := Except.ok.inj resolvedLeaves
      rw [noBranches] at run
      obtain rfl : [] = resolved := Except.ok.inj run
      exact ⟨hasType_of_noNodes noNodes untyped closed, .inr noNodes⟩
  | _ => cases mapping

end Schema

end RuleSchema
