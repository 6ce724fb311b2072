import Mathlib.Data.List.Nodup
import RuleSchema.Compile.Schema
import RuleSchema.Proofs.Chains
import RuleSchema.Proofs.Level.Collecting
import RuleSchema.Proofs.Rule.Structure
import RuleSchema.Proofs.Types.Visits
import RuleSchema.Proofs.Validation.Comparisons
import RuleSchema.Registry.BuiltinValidators

/-!
# Declaration order and what validators see

Fields are declared in the order of a mapping of rules, but a level that closes puts those
with a default behind the others, and coercion follows that order.  So a validator has an
earlier declared field in view unless that one has a default and its own field has none.
-/

namespace RuleSchema

namespace Level

variable {fields : List Field} {first second : Field}

/-- Two fields keep their order unless only the first of them has a default. -/
theorem sublist_requiredFirst (order : [first, second].Sublist fields)
    (keeps : first.default = none ∨ second.default.isSome = true) :
    [first, second].Sublist (requiredFirst fields) := by
  have firstMember : first ∈ fields := order.subset List.mem_cons_self
  have secondMember : second ∈ fields := order.subset (by simp)
  cases firstDefault : first.default with
  | none =>
      cases secondDefault : second.default with
      | none =>
          have both := order.filter fun field => field.default.isNone
          rw [List.filter_cons_of_pos (by simp [firstDefault]),
            List.filter_cons_of_pos (by simp [secondDefault]), List.filter_nil] at both
          exact both.trans (List.sublist_append_left _ _)
      | some document =>
          have required : first ∈ fields.filter fun field => field.default.isNone :=
            List.mem_filter.mpr ⟨firstMember, by simp [firstDefault]⟩
          have defaulted : second ∈ fields.filter fun field => field.default.isSome :=
            List.mem_filter.mpr ⟨secondMember, by simp [secondDefault]⟩
          exact (List.singleton_sublist.mpr required).append (List.singleton_sublist.mpr defaulted)
  | some document =>
      have secondDefault : second.default.isSome = true := by simpa [firstDefault] using keeps
      have both := order.filter fun field => field.default.isSome
      rw [List.filter_cons_of_pos (by simp [firstDefault]),
        List.filter_cons_of_pos (by simp [secondDefault]), List.filter_nil] at both
      exact both.trans (List.sublist_append_right _ _)

/-- A field with a default comes behind every field without one. -/
theorem sublist_requiredFirst_swapped (firstMember : first ∈ fields)
    (secondMember : second ∈ fields) (firstDefault : first.default.isSome = true)
    (secondDefault : second.default = none) :
    [second, first].Sublist (requiredFirst fields) := by
  have required : second ∈ fields.filter fun field => field.default.isNone :=
    List.mem_filter.mpr ⟨secondMember, by simp [secondDefault]⟩
  have defaulted : first ∈ fields.filter fun field => field.default.isSome :=
    List.mem_filter.mpr ⟨firstMember, firstDefault⟩
  exact (List.singleton_sublist.mpr required).append (List.singleton_sublist.mpr defaulted)

/-- Fields of distinct names are in the order of their names. -/
theorem sublist_of_names (distinct : (fields.map Field.name).Nodup) (firstMember : first ∈ fields)
    (secondMember : second ∈ fields)
    (order : [first.name, second.name].Sublist (fields.map Field.name)) :
    [first, second].Sublist fields := by
  rcases List.sublist_map_iff.mp order with ⟨pair, inOrder, names⟩
  have known : ∀ field ∈ fields, ∀ other ∈ pair, field.name = other.name → field = other := by
    intro field member other inPair same
    exact List.inj_on_of_nodup_map distinct member (inOrder.subset inPair) same
  rcases pair with _ | ⟨one, _ | ⟨two, _ | ⟨three, rest⟩⟩⟩
  · simp at names
  · simp at names
  · simp only [List.map_cons, List.map_nil, List.cons.injEq, and_true] at names
    rw [known first firstMember one (by simp) names.1,
      known second secondMember two (by simp) names.2]
    exact inOrder
  · simp at names

end Level

/-- Words that a range check accepts are in order, if they are floats without rounding. -/
theorem Builtin.le_of_rangeCheck {call : ValidatorCall} {least greatest : Int64} {name : String}
    (accepted : rangeCheck call = .accepted) (value : call.value = some (.int greatest))
    (key : call.params.field? "min_key" = some (.string name))
    (sibling : call.values.get? name = some (.int least))
    (leastSmall : least.toInt.natAbs ≤ 2 ^ 53) (greatestSmall : greatest.toInt.natAbs ≤ 2 ^ 53) :
    least.toInt ≤ greatest.toInt := by
  have valueOf : call.fieldValue = .ok (.int greatest) := by
    rw [ValidatorCall.fieldValue, value]
  have keyOf : call.param "min_key" = .ok (.string name) := by
    rw [ValidatorCall.param, key]
  have notLess := (rangeCheck_eq_accepted_iff valueOf keyOf rfl sibling rfl rfl).mp accepted
  apply Classical.byContradiction
  intro unordered
  exact notLess (Decimal.Rounding.ofInt_lt_ofInt greatestSmall leastSmall (by omega))

/-- A range check keeps fields of an accepted record in order, if the first is in view. -/
theorem RecordType.le_of_validate {store : FileStore} {type : RecordType} {first second : Field}
    {document : Document} {record : Instance} {validator : BoundValidator}
    {least greatest : Int64} (distinct : (type.fields.map Field.name).Nodup)
    (order : [first, second].Sublist type.fields)
    (validated : type.validate store document = .ok record)
    (member : validator ∈ type.validators) (runs : validator.run = Builtin.rangeCheck)
    (target : validator.target = .field second.name) (notPre : validator.options.pre = false)
    (key : validator.params.field? "min_key" = some (.string first.name))
    (invoked : validator.options.always = true ∨
      ∃ given, document.untagOnce.asMapping? = some given ∧
        second.name ∈ NameMap.names given.byText)
    (firstValue : record.get? first.name = some (.int least))
    (secondValue : record.get? second.name = some (.int greatest))
    (leastSmall : least.toInt.natAbs ≤ 2 ^ 53) (greatestSmall : greatest.toInt.natAbs ≤ 2 ^ 53) :
    least.toInt ≤ greatest.toInt := by
  rcases gives_of_validate validated with ⟨-, instantiated⟩
  rcases gives_instantiate instantiated with ⟨given, mapping, -, -, fields, clean, -⟩
  have firstMember : first ∈ type.fields := order.subset List.mem_cons_self
  have secondMember : second ∈ type.fields := order.subset (by simp)
  have visited : ∀ field ∈ type.fields,
      ∃ view, Field.Visits store type.validators given.byText [] [] type.fields field view :=
    fun _ isField => Field.Visits.exists_of_mem isField
  rcases visited first firstMember with ⟨firstView, visitsFirst⟩
  rcases visited second secondMember with ⟨view, visits⟩
  have inView : view.get? first.name = some (.int least) := by
    rw [Field.get?_of_sublist distinct order visitsFirst visits rfl,
      ← visitsFirst.get?_eq distinct rfl fields]
    exact firstValue
  have found := (visits.get?_eq distinct rfl fields).symm.trans secondValue
  have quiet := (visits.clean fields clean).2
  have present : validator.options.always = true ∨ second.name ∈ NameMap.names given.byText := by
    rcases invoked with always | ⟨other, sameMapping, named⟩
    · exact .inl always
    · rw [mapping, Option.some.injEq] at sameMapping
      exact .inr (sameMapping ▸ named)
  have own : validator.checks second.name = true := by
    rw [BoundValidator.checks, target]
    exact beq_self_eq_true _
  rcases Field.passes_of_outcome ⟨found, quiet⟩ member own present with ⟨raw, passes⟩
  -- A word has no items, so a validator of each item checks the word itself.
  have subject : Value.int greatest ∈ validator.subjects (.int greatest) := by
    cases each : validator.options.eachItem <;> simp [BoundValidator.subjects, each]
  have accepted : validator.call (some (.int greatest)) view = .accepted := by
    apply passes
    rw [notPre]
    exact subject
  rw [BoundValidator.call, runs] at accepted
  exact Builtin.le_of_rangeCheck accepted rfl key inView leastSmall greatestSmall

namespace Level

/-- Declared fields are in the type of a level in their order, or those with a default last. -/
theorem sublist_of_declared {hint : String} {path : DocPath} {entries : Mapping}
    {resolved : ResolvedFields} {level : Level} {declared : List BoundValidator}
    {type : RecordType} {first second : Field}
    (collected : collect path entries resolved = .ok level)
    (closed : close hint { level with validators := declared } [] path = .ok type)
    (order : [first.name, second.name].Sublist (fieldNames entries))
    (firstMember : first ∈ type.fields) (secondMember : second ∈ type.fields) :
    (first.default = none ∨ second.default.isSome = true →
        [first, second].Sublist type.fields) ∧
      (first.default.isSome = true → second.default = none →
        [second, first].Sublist type.fields) := by
  rcases except_map_eq_ok.mp collected with ⟨fields, gathered, rfl⟩
  have names := names_of_fieldsOf gathered
  have distinct := nodup_of_close closed
  rw [fields_of_close_nil closed] at firstMember secondMember ⊢
  have firstOwn := (requiredFirst_perm _).mem_iff.mp firstMember
  have secondOwn := (requiredFirst_perm _).mem_iff.mp secondMember
  have ownNames : (fields.map fun field => field.2.named field.1).map Field.name =
      fieldNames entries := by
    rw [← names, List.map_map]
    rfl
  have inOrder : [first, second].Sublist (fields.map fun field => field.2.named field.1) := by
    apply sublist_of_names _ firstOwn secondOwn
    · rw [ownNames]
      exact order
    · rw [ownNames, ← names]
      exact distinct
  exact ⟨sublist_requiredFirst inOrder, sublist_requiredFirst_swapped firstOwn secondOwn⟩

/--
A field is in view at one that is declared after it, once it has a value, unless it has a
default and the later one has none.  So a range check after coercion, where it runs, keeps
the two in order with that exception.
-/
theorem earlier_in_view_iff (store : FileStore) (hint : String) (path : DocPath)
    (entries : Mapping) (resolved : ResolvedFields) (level : Level)
    (declared : List BoundValidator) (type : RecordType) (first second : Field)
    (collected : collect path entries resolved = .ok level)
    (closed : close hint { level with validators := declared } [] path = .ok type)
    (order : [first.name, second.name].Sublist (fieldNames entries))
    (firstMember : first ∈ type.fields) (secondMember : second ∈ type.fields) :
    (∀ input inside firstView secondView,
      Field.Visits store type.validators input inside [] type.fields first firstView →
      Field.Visits store type.validators input inside [] type.fields second secondView →
      (Field.outcome store type.validators input inside firstView first).value.isSome = true →
        (first.name ∈ secondView.names ↔
          first.default = none ∨ second.default.isSome = true)) ∧
    ∀ document record validator (least greatest : Int64),
      type.validate store document = .ok record →
      validator ∈ type.validators → validator.run = Builtin.rangeCheck →
      validator.target = .field second.name → validator.options.pre = false →
      validator.params.field? "min_key" = some (.string first.name) →
      (validator.options.always = true ∨
        ∃ given, document.untagOnce.asMapping? = some given ∧
          second.name ∈ NameMap.names given.byText) →
      record.get? first.name = some (.int least) →
      record.get? second.name = some (.int greatest) →
      least.toInt.natAbs ≤ 2 ^ 53 → greatest.toInt.natAbs ≤ 2 ^ 53 →
      first.default = none ∨ second.default.isSome = true →
        least.toInt ≤ greatest.toInt := by
  rcases sublist_of_declared collected closed order firstMember secondMember with
    ⟨keeps, swaps⟩
  have distinct := nodup_fields_of_close closed
  constructor
  · intro input inside firstView secondView visitsFirst visitsSecond succeeded
    rw [NameMap.mem_names_iff]
    constructor
    · rintro ⟨value, found⟩
      cases firstDefault : first.default with
      | none => exact .inl rfl
      | some document =>
          cases secondDefault : second.default with
          | some other => exact .inr rfl
          | none =>
              have hidden := Field.get?_of_sublist_swapped distinct
                (swaps (by simp [firstDefault]) secondDefault) visitsSecond rfl
              rw [hidden] at found
              cases found
    · intro condition
      have inView := Field.get?_of_sublist distinct (keeps condition) visitsFirst visitsSecond rfl
      rcases Option.isSome_iff_exists.mp succeeded with ⟨value, found⟩
      exact ⟨value, inView.trans found⟩
  · intro document record validator least greatest validated member runs target notPre key
      invoked firstValue secondValue leastSmall greatestSmall condition
    exact RecordType.le_of_validate distinct (keeps condition) validated member runs target notPre
      key invoked firstValue secondValue leastSmall greatestSmall

/-- The bounds of a range, the upper one of which is checked. -/
def boundsLevel : Level where
  fields :=
    [ ("least", .plain (.int {})),
      ("most",
        { FieldSpec.plain (.int {}) with
          validators :=
            [ { name := "range_check"
                run := Builtin.rangeCheck
                target := .field "most"
                params := [(.string "min_key", .string "least")]
                options := {} } ] }) ]
  validators := []

/-- The record type of the bounds of a range. -/
def boundsType : RecordType where
  name := "bounds_t"
  fields := boundsLevel.fields.map fun field => field.2.named field.1
  validators := boundsLevel.declared
  bases := []

/-- Rules of which the bounds are the level. -/
def boundsEntries : Mapping :=
  [(.string "least", Rule.leafOf "int"), (.string "most", Rule.leafOf "int")]

/-- The fields of the bounds by the paths of their rules. -/
def boundsResolved : ResolvedFields :=
  boundsLevel.fields.map fun field => ([.key field.1], field.2)

theorem earlier_in_view_iff_bounds :
    collect [] boundsEntries boundsResolved = .ok boundsLevel ∧
      close "bounds" boundsLevel [] [] = .ok boundsType ∧
      ∃ record,
        boundsType.validate .empty
          (.mapping [(.string "least", .ofInt64 3), (.string "most", .ofInt64 9)]) = .ok record ∧
        record.get? "least" = some (.int 3) ∧ record.get? "most" = some (.int 9) ∧
        (3 : Int64).toInt ≤ (9 : Int64).toInt := by
  have inOrder : ["least", "most"].Sublist (fieldNames boundsEntries) := by decide
  have validated :
      ∃ record, boundsType.validate .empty
        (.mapping [(.string "least", .ofInt64 3), (.string "most", .ofInt64 9)]) = .ok record ∧
        record.get? "least" = some (.int 3) ∧ record.get? "most" = some (.int 9) :=
    ⟨_, rfl, rfl, rfl⟩
  rcases validated with ⟨record, accepted, least, most⟩
  refine ⟨rfl, rfl, record, accepted, least, most, ?_⟩
  have inView := earlier_in_view_iff .empty "bounds" [] boundsEntries boundsResolved boundsLevel []
    boundsType _ _ rfl rfl inOrder (.head _) (.tail _ (.head _))
  exact inView.2 _ record _ 3 9 accepted (.head _) rfl rfl rfl rfl
    (.inr ⟨_, rfl, by decide⟩) least most (by decide) (by decide) (.inl rfl)

/-- A lower bound with a default, and an upper one that is checked against it. -/
def looseRules : Document :=
  Rule.branchOf
    [ ("least", .mapping [(.string "type", .string "int"), (.string "default", .ofInt64 5)]),
      ("most", .mapping
        [ (.string "type", .string "int"),
          (.string "validator", .string "range_check"),
          (.string "validator_params", .mapping [(.string "min_key", .string "least")]) ]) ]

/-- Bounds that are not in order are accepted, since the lower one comes last. -/
theorem range_unchecked_loose :
    ∃ schema record, Schema.compile .standard looseRules = .ok schema ∧
      schema.type.validate .empty
        (.mapping [(.string "least", .ofInt64 10), (.string "most", .ofInt64 1)]) = .ok record ∧
      record.get? "least" = some (.int 10) ∧ record.get? "most" = some (.int 1) ∧
      ¬(10 : Int64).toInt ≤ (1 : Int64).toInt :=
  ⟨_, _, rfl, rfl, rfl, rfl, by decide⟩

end Level

end RuleSchema
