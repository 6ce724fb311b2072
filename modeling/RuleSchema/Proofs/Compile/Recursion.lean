import RuleSchema.Proofs.Compile.Rounds
import RuleSchema.Proofs.Level.Closing
import RuleSchema.Proofs.Level.Collecting

/-!
# Compiling as recursion over the rules

Rules have a type by plain recursion: a mapping with a `type` is a leaf and gives the field
of that leaf, any other mapping gives a field whose type closes the fields of its entries.
Compiling does not recurse; it keeps resolved fields by their paths and assembles branches
in an order of its own.  Whatever that order is, each resolved field is the one that the
recursion gives at its path, so that rules that compile have the type of the recursion.
-/

namespace RuleSchema

namespace Schema

mutual

/-- The field of the value at a path, by recursion over the value. -/
def fieldAt (registry : Registry) (path : DocPath) : Document → Except CompileError FieldSpec
  | .mapping entries =>
      if Mapping.hasField entries "type" then (Level.ofLeaf registry path entries).result
      else do
        let name ← Level.fieldName path
        let validators ← registry.resolveValidators path (some name) entries
        let fields ← fieldsIn registry path entries
        let type ← Level.close name ⟨fields, validators.filter BoundValidator.isRecord⟩ [] path
        return {
          type := .record type
          validators := validators.filter fun validator => !validator.isRecord
          default := none
          optional := false
          doc := Level.docText entries }
  | .tagged _ value => fieldAt registry path value
  | _ => .error (.invalidTypeSpec path "expected a mapping with a 'type' key")

/-- The fields of the entries of a mapping whose keys are not reserved, in order. -/
def fieldsIn (registry : Registry) (path : DocPath) :
    List (Document × Document) → Except CompileError (List (String × FieldSpec))
  | [] => .ok []
  | (key, value) :: rest =>
      if Rule.isReservedText key.keyText then fieldsIn registry path rest
      else do
        let field ← fieldAt registry (path.child (PathKey.ofDocument key)) value
        let others ← fieldsIn registry path rest
        return (key.keyText, field) :: others

end

/-- The type of rules by recursion, given the entries at their root. -/
def recordOf (registry : Registry) (entries : Mapping) : Except CompileError RecordType := do
  let fields ← fieldsIn registry [] entries
  let validators ← registry.resolveValidators [] none entries
  Level.close "config" ⟨fields, validators⟩ [] []

/-- Tags around a mapping do not matter to its field. -/
theorem fieldAt_of_asMapping? {registry : Registry} {path : DocPath} {value : Document}
    {entries : Mapping} (mapping : value.asMapping? = some entries) :
    fieldAt registry path value = fieldAt registry path (.mapping entries) := by
  induction value, mapping using Document.asMappingInduction with
  | bare => rfl
  | tagged name inner mapping ih => exact ih

/-! ## Resolved fields -/

/-- A lookup one step below a mapping finds the value of an entry of the mapping. -/
theorem mem_of_get?_child {rules document value : Document} {path : DocPath}
    {entries : Mapping} {text : String} (found : path.get? rules = some document)
    (mapping : document.asMapping? = some entries)
    (below : (path.child (.key text)).get? rules = some value) :
    ∃ key, (key, value) ∈ entries ∧ key.keyText = text := by
  rw [DocPath.child, DocPath.get?_append, found] at below
  cases document with
  | mapping own =>
      obtain rfl : own = entries := by
        simpa [Document.asMapping?, Document.untagged] using mapping
      rw [Option.bind_some, DocPath.get?] at below
      split at below
      · next inner hit =>
        obtain rfl : inner = value := by simpa [DocPath.get?] using below
        exact Document.mem_of_at? hit
      · cases below
  | _ => simp [DocPath.get?] at below

/-- Each resolved field is the one that recursion gives at its path. -/
def Faithful (registry : Registry) (rules : Document) (resolved : ResolvedFields) : Prop :=
  ∀ path field, (path, field) ∈ resolved →
    ∃ value, path.get? rules = some value ∧ fieldAt registry path value = .ok field

variable {registry : Registry} {rules : Document} {resolved : ResolvedFields}

theorem Faithful.cons (faithful : Faithful registry rules resolved) {path : DocPath}
    {field : FieldSpec} {value : Document} (found : path.get? rules = some value)
    (built : fieldAt registry path value = .ok field) :
    Faithful registry rules ((path, field) :: resolved) := by
  intro other otherField member
  rcases List.mem_cons.mp member with head | old
  · rcases Prod.mk.inj head with ⟨rfl, rfl⟩
    exact ⟨value, found, built⟩
  · exact faithful other otherField old

/-- Where names are distinct, what is resolved for an entry is the field of its value. -/
theorem Faithful.fieldAt_of_get? (faithful : Faithful registry rules resolved)
    {path : DocPath} {document : Document} {entries : Mapping}
    (found : path.get? rules = some document) (mapping : document.asMapping? = some entries)
    (distinct : (Level.fieldNames entries).Nodup) {key value : Document} {field : FieldSpec}
    (member : (key, value) ∈ entries) (free : Rule.isReservedText key.keyText = false)
    (known : resolved.get? (path.child (PathKey.ofDocument key)) = some field) :
    fieldAt registry (path.child (PathKey.ofDocument key)) value = .ok field := by
  rcases faithful _ field (ResolvedFields.mem_of_get? known) with ⟨other, below, built⟩
  rcases mem_of_get?_child found mapping below with ⟨otherKey, otherMember, sameText⟩
  have same : (key, value) = (otherKey, other) :=
    Level.eq_of_keyText_eq distinct member otherMember free sameText.symm
  rw [(Prod.mk.inj same).2]
  exact built

/-- From faithful fields, a level whose names are distinct collects those of the recursion. -/
theorem Faithful.fieldsIn_eq_ok (faithful : Faithful registry rules resolved)
    {path : DocPath} {document : Document} {entries : Mapping}
    (found : path.get? rules = some document) (mapping : document.asMapping? = some entries)
    (distinct : (Level.fieldNames entries).Nodup) {part : Mapping} (inside : part ⊆ entries)
    {fields : List (String × FieldSpec)}
    (collected : Level.fieldsOf path resolved part = .ok fields) :
    fieldsIn registry path part = .ok fields := by
  induction part generalizing fields with
  | nil => simpa [Level.fieldsOf, fieldsIn] using collected
  | cons entry rest ih =>
      rcases entry with ⟨key, value⟩
      rcases List.cons_subset.mp inside with ⟨member, others⟩
      rw [fieldsIn]
      by_cases reserved : Rule.isReservedText key.keyText = true
      · rw [if_pos reserved]
        rw [Level.fieldsOf_cons_of_reserved reserved] at collected
        exact ih others collected
      · rw [if_neg reserved]
        have free : Rule.isReservedText key.keyText = false := by simpa using reserved
        rcases (Level.fieldsOf_cons_eq_ok_iff free).mp collected with
          ⟨field, later, known, gathered, rfl⟩
        have built := faithful.fieldAt_of_get? found mapping distinct member free known
        refine except_bind_eq_ok.mpr ⟨field, built, ?_⟩
        exact except_bind_eq_ok.mpr ⟨later, ih others gathered, rfl⟩

/-- A leaf adds the field of the recursion. -/
theorem Faithful.leaf (faithful : Faithful registry rules resolved) {path : DocPath}
    {leaf : Mapping} {field : FieldSpec} (found : mappingAt rules path = .ok leaf)
    (built : (Level.ofLeaf registry path leaf).result = .ok field) :
    Faithful registry rules ((path, field) :: resolved) := by
  rcases mappingAt_eq_ok_iff.mp found with ⟨value, lookup, mapping⟩
  refine faithful.cons lookup ?_
  rw [fieldAt_of_asMapping? mapping, fieldAt, if_pos (Level.hasType_of_ofLeaf built)]
  exact built

/-- A branch adds the field of the recursion. -/
theorem Faithful.branch (faithful : Faithful registry rules resolved) {path : DocPath}
    {entries : Mapping} {field : FieldSpec} (branch : path ∈ Rule.branches rules)
    (found : mappingAt rules path = .ok entries)
    (built : Level.ofBranch registry path entries resolved = .ok field) :
    Faithful registry rules ((path, field) :: resolved) := by
  rcases mappingAt_eq_ok_iff.mp found with ⟨value, lookup, mapping⟩
  refine faithful.cons lookup ?_
  -- A branch with a `type` would be a leaf, which the recursion treats differently.
  have untyped : entries.hasField "type" = false := by
    rw [Bool.eq_false_iff]
    intro typed
    have describes : Rule.describesValue value = true := by
      simpa [Rule.describesValue, mapping] using typed
    exact (Rule.mem_branches_iff.mp branch).2.1
      (Rule.mem_leaves_of_get? (.of_mem_branches branch)
        (Rule.ne_nil_of_mem_branches branch) lookup describes)
  rcases except_bind_eq_ok.mp built with ⟨name, named, afterName⟩
  rcases except_bind_eq_ok.mp afterName with ⟨validators, bound, afterValidators⟩
  rcases except_bind_eq_ok.mp afterValidators with ⟨level, collected, afterLevel⟩
  rcases except_map_eq_ok.mp collected with ⟨fields, gathered, rfl⟩
  rcases except_bind_eq_ok.mp afterLevel with ⟨type, closed, made⟩
  have distinct : (Level.fieldNames entries).Nodup := by
    rw [← Level.names_of_fieldsOf gathered]
    exact Level.nodup_of_close closed
  have recursive := faithful.fieldsIn_eq_ok lookup mapping distinct (List.Subset.refl _) gathered
  rw [fieldAt_of_asMapping? mapping, fieldAt, if_neg (by simp [untyped])]
  refine except_bind_eq_ok.mpr ⟨name, named, ?_⟩
  refine except_bind_eq_ok.mpr ⟨validators, bound, ?_⟩
  refine except_bind_eq_ok.mpr ⟨fields, recursive, ?_⟩
  exact except_bind_eq_ok.mpr ⟨type, closed, made⟩

/-- Assembling keeps resolved fields faithful, whatever the order of the branches. -/
theorem Faithful.assembles {final : ResolvedFields}
    (faithful : Faithful registry rules resolved)
    (run : Assembles registry rules (Rule.branches rules) resolved final) :
    Faithful registry rules final := by
  induction run with
  | done => exact faithful
  | step branch _ _ found built _ ih => exact ih (faithful.branch branch found built)

/-- Rules that compile have the type that recursion over them gives. -/
theorem compile_eq_recordOf (registry : Registry) (rules : Document) (schema : Schema)
    (compiled : compile registry rules = .ok schema) :
    ∃ entries, rules.asMapping? = some entries ∧
      recordOf registry entries = .ok schema.type := by
  rcases compile_eq_ok compiled with ⟨entries, mapping, typed⟩
  rcases typeOf_eq_ok typed with ⟨fields, resolved, accepted, leaves, run, closed⟩
  have initially : Faithful registry rules fields :=
    resolveLeaves_induction (fun _ _ _ _ _ found built faithful => faithful.leaf found built)
      (fun _ _ member => absurd member List.not_mem_nil) leaves
  have whole : Faithful registry rules resolved :=
    initially.assembles
      (assembles_of_rounds accepted (fun _ => mem_branches_of_deepest) run)
  rcases except_bind_eq_ok.mp closed with ⟨level, collected, afterLevel⟩
  rcases except_map_eq_ok.mp collected with ⟨gathered, fieldsOf, rfl⟩
  rcases except_bind_eq_ok.mp afterLevel with ⟨validators, bound, made⟩
  have distinct : (Level.fieldNames entries).Nodup := by
    rw [← Level.names_of_fieldsOf fieldsOf]
    exact Level.nodup_of_close made
  have atRoot : DocPath.get? [] rules = some rules := rfl
  have recursive := whole.fieldsIn_eq_ok atRoot mapping distinct (List.Subset.refl _) fieldsOf
  refine ⟨entries, mapping, ?_⟩
  refine except_bind_eq_ok.mpr ⟨gathered, recursive, ?_⟩
  exact except_bind_eq_ok.mpr ⟨validators, bound, made⟩

/--
A record in a record.  The outer one is checked as a whole, the inner one by the record
around it, and a leaf by a validator of its own.
-/
def nestedRules : Document :=
  Rule.branchOf
    [ ("server", Rule.branchOf
        [ ("validator", .string "zero_sum"),
          ("validator_params", .mapping [(.string "total", .ofInt64 0)]),
          ("root_validator", .bool true),
          ("limits", Rule.branchOf
            [ ("validator", .string "threshold"),
              ("validator_params", .mapping [(.string "threshold", .ofInt64 9)]),
              ("retries", Rule.leafOf "int") ]),
          ("port", .mapping
            [ (.string "type", .string "PositiveInt"), (.string "default", .ofInt64 80) ]) ]),
      ("name", Rule.leafOf "str") ]

theorem compile_eq_recordOf_nested :
    ∃ schema entries, compile .standard nestedRules = .ok schema ∧
      nestedRules.asMapping? = some entries ∧ recordOf .standard entries = .ok schema.type := by
  have compiles : (compile .standard nestedRules).isOk = true := by decide +kernel
  rcases exists_of_isOk compiles with ⟨schema, compiled⟩
  rcases compile_eq_recordOf .standard nestedRules schema compiled with ⟨entries, mapping, typed⟩
  exact ⟨schema, entries, compiled, mapping, typed⟩

end Schema

end RuleSchema
