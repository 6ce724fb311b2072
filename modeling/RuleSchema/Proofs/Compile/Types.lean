import RuleSchema.Proofs.Compile.Rounds
import RuleSchema.Proofs.Level.Closing
import RuleSchema.Proofs.Level.Collecting

/-!
# Types of compiled rules

The type of compiled rules is built of the types that the leaves refer to by closing levels.
A property of those types that closing a level keeps is one of the whole.
-/

namespace RuleSchema

theorem Level.resolveType_of_ofLeaf {registry : Registry} {path : DocPath} {leaf : Mapping}
    {field : FieldSpec} (built : (ofLeaf registry path leaf).result = .ok field) :
    (registry.resolveType path leaf).result = .ok field.type := by
  rw [ofLeaf, Warned.andThen_result_eq_ok] at built
  rcases built with ⟨name, -, built⟩
  rw [Warned.andThen_result_eq_ok] at built
  rcases built with ⟨type, typed, built⟩
  rcases except_map_eq_ok.mp built with ⟨validators, -, rfl⟩
  exact typed

theorem Level.mem_of_fieldsOf {path : DocPath} {resolved : ResolvedFields} {entries : Mapping}
    {fields : List (String × FieldSpec)} (gathered : fieldsOf path resolved entries = .ok fields)
    {field : String × FieldSpec} (member : field ∈ fields) :
    ∃ place, (place, field.2) ∈ resolved := by
  induction entries generalizing fields with
  | nil =>
      cases gathered
      cases member
  | cons entry rest ih =>
      rcases entry with ⟨key, value⟩
      by_cases reserved : Rule.isReservedText key.keyText = true
      · rw [fieldsOf_cons_of_reserved reserved] at gathered
        exact ih gathered member
      · have free : Rule.isReservedText key.keyText = false := by simpa using reserved
        rcases (fieldsOf_cons_eq_ok_iff free).mp gathered with ⟨found, others, known, later, rfl⟩
        rcases List.mem_cons.mp member with rfl | inOthers
        · exact ⟨_, ResolvedFields.mem_of_get? known⟩
        · exact ih later inOthers

/-- A field of a closed level that extends nothing is one of the level. -/
theorem Level.exists_of_mem_fields {hint : String} {level : Level} {path : DocPath}
    {type : RecordType} (closed : close hint level [] path = .ok type) {field : Field}
    (member : field ∈ type.fields) : ∃ own ∈ level.fields, own.2.named own.1 = field := by
  rw [fields_of_close_nil closed] at member
  exact List.mem_map.mp ((requiredFirst_perm _).mem_iff.mp member)

namespace Schema

variable {registry : Registry} {rules : Document} {holds : ValueType → Prop}

/-- The types of all resolved fields have a property. -/
def AllHold (holds : ValueType → Prop) (resolved : ResolvedFields) : Prop :=
  ∀ entry ∈ resolved, holds entry.2.type

theorem AllHold.cons {resolved : ResolvedFields} (all : AllHold holds resolved) {path : DocPath}
    {field : FieldSpec} (own : holds field.type) : AllHold holds ((path, field) :: resolved) :=
  List.forall_mem_cons.mpr ⟨own, all⟩

/-- A level of fields with a property closes to a record type with the property. -/
theorem AllHold.close {resolved : ResolvedFields} (all : AllHold holds resolved)
    (record : ∀ hint level path type, Level.close hint level [] path = .ok type →
      (∀ field ∈ type.fields, holds field.type) → holds (.record type))
    {hint : String} {entries : Mapping} {path place : DocPath} {level : Level}
    {validators : List BoundValidator} {type : RecordType}
    (collected : Level.collect path entries resolved = .ok level)
    (closed : Level.close hint { level with validators := validators } [] place = .ok type) :
    holds (.record type) := by
  rcases except_map_eq_ok.mp collected with ⟨fields, gathered, rfl⟩
  refine record hint _ place type closed fun field member => ?_
  rcases Level.exists_of_mem_fields closed member with ⟨own, isOwn, rfl⟩
  rcases Level.mem_of_fieldsOf gathered isOwn with ⟨below, known⟩
  exact all _ known

/--
What holds of the types that leaves refer to, and of a closed level whenever it holds of
its fields, holds of the type of the rules.
-/
theorem holds_of_compile {schema : Schema}
    (leaf : ∀ path leaf type, mappingAt rules path = .ok leaf →
      (registry.resolveType path leaf).result = .ok type → holds type)
    (record : ∀ hint level path type, Level.close hint level [] path = .ok type →
      (∀ field ∈ type.fields, holds field.type) → holds (.record type))
    (compiled : compile registry rules = .ok schema) : holds (.record schema.type) := by
  rcases compile_eq_ok compiled with ⟨entries, mapping, typed⟩
  rcases typeOf_eq_ok typed with ⟨fields, resolved, accepted, leaves, run, closed⟩
  have initially : AllHold holds fields :=
    resolveLeaves_induction
      (fun _ path own field _ found built all =>
        all.cons (leaf path own field.type found (Level.resolveType_of_ofLeaf built)))
      (fun _ member => absurd member List.not_mem_nil) leaves
  have assembled := assembles_of_rounds accepted (fun _ => mem_branches_of_deepest) run
  have whole : AllHold holds resolved := by
    clear run closed leaves
    induction assembled with
    | done => exact initially
    | step branch fresh ready found built rest ih =>
        apply ih
        rcases except_bind_eq_ok.mp built with ⟨name, -, built⟩
        rcases except_bind_eq_ok.mp built with ⟨validators, -, built⟩
        rcases except_bind_eq_ok.mp built with ⟨level, collected, built⟩
        rcases except_bind_eq_ok.mp built with ⟨type, closed, made⟩
        cases made
        exact initially.cons (initially.close record collected closed)
  rcases except_bind_eq_ok.mp closed with ⟨level, collected, closed⟩
  rcases except_bind_eq_ok.mp closed with ⟨validators, -, closed⟩
  exact whole.close record collected closed

end Schema

end RuleSchema
