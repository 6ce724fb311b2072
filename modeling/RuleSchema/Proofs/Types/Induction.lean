import RuleSchema.Types.Basic

/-!
# Induction on types

A property of all types is shown for a type from its parts: the types of items, keys,
values and fields, and the types that one wraps or chooses from.
-/

namespace RuleSchema.ValueType

/-- The types of the parts of a value. -/
def parts : ValueType → List ValueType
  | list item => [item]
  | dict key value => [key, value]
  | tuple items => items
  | optional inner => [inner]
  | union choices => choices
  | unit _ base => [base]
  | record type => type.fields.map Field.type
  | _ => []

theorem sizeOf_part_lt {type part : ValueType} (member : part ∈ type.parts) :
    sizeOf part < sizeOf type := by
  cases type with
  | list item =>
      rw [List.mem_singleton.mp member, ValueType.list.sizeOf_spec]
      omega
  | dict key value =>
      rw [ValueType.dict.sizeOf_spec]
      simp only [parts, List.mem_cons, List.not_mem_nil, or_false] at member
      rcases member with rfl | rfl <;> omega
  | tuple items =>
      have isItem : part ∈ items := member
      have smaller := List.sizeOf_lt_of_mem isItem
      rw [ValueType.tuple.sizeOf_spec]
      omega
  | optional inner =>
      rw [List.mem_singleton.mp member, ValueType.optional.sizeOf_spec]
      omega
  | union choices =>
      have isChoice : part ∈ choices := member
      have smaller := List.sizeOf_lt_of_mem isChoice
      rw [ValueType.union.sizeOf_spec]
      omega
  | unit label base =>
      rw [List.mem_singleton.mp member, ValueType.unit.sizeOf_spec]
      omega
  | record type =>
      rcases type with ⟨name, fields, validators, bases⟩
      rcases List.mem_map.mp member with ⟨field, isField, rfl⟩
      have inFields : field ∈ fields := isField
      have smaller := List.sizeOf_lt_of_mem inFields
      have smallerType : sizeOf field.type < sizeOf field := by
        cases field
        simp only [Field.mk.sizeOf_spec]
        omega
      rw [ValueType.record.sizeOf_spec, RecordType.mk.sizeOf_spec]
      omega
  | any => cases member
  | bool strict => cases member
  | int constraints => cases member
  | float constraints => cases member
  | text constraints => cases member
  | path kind => cases member
  | literal options => cases member
  | custom type => cases member

/-- What holds of a type whenever it holds of its parts holds of every type. -/
@[elab_as_elim]
theorem partInduction {motive : ValueType → Prop}
    (step : ∀ type, (∀ part ∈ type.parts, motive part) → motive type) (type : ValueType) :
    motive type :=
  step type fun part member =>
    have := sizeOf_part_lt member
    partInduction step part
termination_by sizeOf type

end RuleSchema.ValueType
