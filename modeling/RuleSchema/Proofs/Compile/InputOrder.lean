import RuleSchema.Compile.Schema
import RuleSchema.Proofs.Chains
import RuleSchema.Proofs.Rule.Structure
import RuleSchema.Proofs.Types.Reordering

/-!
# The order of a configuration

Without validators and without coercions of their own, record types whose maps have free texts
as keys accept or reject a configuration in whatever order its entries come, and give the same
values or the same violations up to order.  Entries of a mapping that itself is a key are another
matter: the text of such a key, by which the entry is known, depends on their order.
-/

namespace RuleSchema

/--
Two configurations that are the same up to order are both accepted, with values that are the
same up to order, or both rejected, with the same violations in any order.
-/
theorem RecordType.validate_reordered (store : FileStore) (type : RecordType)
    (first second : Document)
    (orderless : (ValueType.record type).Throughout fun part => part.isOrderless = true)
    (tagFree : first.isTagFree = true) (distinct : first.hasDistinctTexts = true)
    (proper : first.isProper = true) (reordered : first.Reordered second) :
    (∃ one other,
      type.validate store first = .ok ⟨type, one⟩ ∧
      type.validate store second = .ok ⟨type, other⟩ ∧
      (Value.record type.name one).Reordered (.record type.name other)) ∨
    ∃ one other overflow,
      type.validate store first = .error ⟨type.name, one, overflow⟩ ∧
      type.validate store second = .error ⟨type.name, other, overflow⟩ ∧
      Rearranged Violation.Alike one other := by
  rcases orderless with ⟨unchecked, inside⟩
  have alike : (type.instantiate store first []).Alike (List.Forall₂ (OneKey Value.Reordered))
      (type.instantiate store second []) :=
    instantiate_alike (List.isEmpty_iff.mp unchecked)
      (fun field member => ValueType.ignoresOrder (inside field.type (List.mem_map_of_mem member)))
      ⟨tagFree, distinct, proper⟩ reordered
  rw [validate, validate]
  generalize type.instantiate store first [] = outcome at alike ⊢
  generalize type.instantiate store second [] = otherOutcome at alike ⊢
  rcases outcome with ⟨value, violations, overflow⟩
  rcases otherOutcome with ⟨otherValue, otherViolations, otherOverflow⟩
  rcases alike with ⟨values, reported, rfl⟩
  cases overflow with
  | true => exact .inr ⟨violations, otherViolations, true, rfl, rfl, reported⟩
  | false =>
      cases values with
      | none => exact .inr ⟨violations, otherViolations, false, rfl, rfl, reported⟩
      | some here =>
          have alsoClean : violations.isEmpty = otherViolations.isEmpty := reported.isEmpty_eq
          cases violations with
          | nil =>
              cases otherViolations with
              | nil => exact .inl ⟨_, _, rfl, rfl, Value.reordered_record.mpr ⟨rfl, here⟩⟩
              | cons violation rest => cases alsoClean
          | cons violation rest =>
              cases otherViolations with
              | nil => cases alsoClean
              | cons other others => exact .inr ⟨_, _, false, rfl, rfl, reported⟩

namespace Schema

/-- Ports by the names of services, and notes of any kind. -/
def servicesRules : Document :=
  Rule.branchOf
    [ ("ports", .mapping
        [ (.string "type", .string "Dict"),
          (.string "opts", .sequence [.string "str", .string "int"]) ]),
      ("notes", .mapping [(.string "type", .string "Any")]) ]

/-- Ports and notes under several keys each, one of which is no text. -/
def servicesDocument : Document :=
  .mapping
    [ (.string "ports", .mapping
        [(.string "http", .ofInt64 80), (.string "https", .ofInt64 443)]),
      (.string "notes", .mapping [(.string "owner", .null), (.ofInt64 1, .bool true)]) ]

/-- The same services, the entries of each mapping the other way round. -/
def reversedDocument : Document :=
  .mapping
    [ (.string "notes", .mapping [(.ofInt64 1, .bool true), (.string "owner", .null)]),
      (.string "ports", .mapping
        [(.string "https", .ofInt64 443), (.string "http", .ofInt64 80)]) ]

theorem reordered_services : servicesDocument.Reordered reversedDocument := by
  have swapped (one two : Document × Document) :
      (Document.mapping [one, two]).Reordered (.mapping [two, one]) :=
    Document.reordered_mapping.mpr
      ⟨[one, two], List.forall₂_same.mpr fun entry _ => ⟨rfl, .refl entry.2⟩, .swap two one []⟩
  refine Document.reordered_mapping.mpr ⟨_, ?_, .swap _ _ []⟩
  exact .cons ⟨rfl, swapped _ _⟩ (.cons ⟨rfl, swapped _ _⟩ .nil)

theorem validate_reordered_services :
    ∃ schema one other, compile .standard servicesRules = .ok schema ∧
      schema.type.validate .empty servicesDocument = .ok ⟨schema.type, one⟩ ∧
      schema.type.validate .empty reversedDocument = .ok ⟨schema.type, other⟩ ∧
      (Value.record schema.type.name one).Reordered (.record schema.type.name other) := by
  have checked : ((compile .standard servicesRules).toOption.any fun schema =>
      ValueType.everyWithin ValueType.isOrderless 4 (.record schema.type) &&
        (schema.type.validate .empty servicesDocument).isOk) = true := by
    decide +kernel
  cases compiled : compile .standard servicesRules with
  | error error =>
      rw [compiled] at checked
      cases checked
  | ok schema =>
      rw [compiled] at checked
      simp only [Except.toOption, Option.any_some, Bool.and_eq_true] at checked
      have orderless := ValueType.throughout_of_everyWithin checked.1
      rcases exists_of_isOk checked.2 with ⟨record, validated⟩
      rcases RecordType.validate_reordered .empty schema.type servicesDocument reversedDocument
        orderless (by decide) (by decide) (by decide) reordered_services with
        ⟨one, other, accepted, alsoAccepted, same⟩ | ⟨one, other, overflow, rejected, -⟩
      · exact ⟨schema, one, other, rfl, accepted, alsoAccepted, same⟩
      · rw [validated] at rejected
        cases rejected

/-- A configuration with one note, under a key that is a mapping. -/
def notedUnder (key : Mapping) : Document :=
  .mapping
    [ (.string "ports", .mapping []),
      (.string "notes", .mapping [(.mapping key, .bool true)]) ]

/-- A mapping that is a key in one order. -/
def hostAndPort : Mapping := [(.string "host", .string "a"), (.string "port", .ofInt64 80)]

/-- The same mapping in the other order. -/
def portAndHost : Mapping := [(.string "port", .ofInt64 80), (.string "host", .string "a")]

/-- The names of the notes of an instance. -/
def noteNames (record : Instance) : Option (List String) :=
  ((record.get? "notes").bind Value.asMap?).map NameMap.names

theorem exists_of_noteNames {record : Instance} {names : List String}
    (noted : noteNames record = some names) :
    ∃ entries : NameMap Value, record.get? "notes" = some (.map entries) ∧
      entries.names = names := by
  rcases Option.map_eq_some_iff.mp noted with ⟨entries, found, rfl⟩
  rcases Option.bind_eq_some_iff.mp found with ⟨value, present, isMap⟩
  cases value with
  | map own =>
      cases isMap
      exact ⟨entries, present, rfl⟩
  | _ => cases isMap

/-- Instances that are the same up to order have notes of the same names. -/
theorem perm_noteNames {one other : Instance} (reordered : one.toValue.Reordered other.toValue)
    {names otherNames : List String} (noted : noteNames one = some names)
    (otherNoted : noteNames other = some otherNames) : names.Perm otherNames := by
  rcases exists_of_noteNames noted with ⟨entries, found, rfl⟩
  rcases exists_of_noteNames otherNoted with ⟨others, otherFound, rfl⟩
  have related := get?_rel_of_forall₂ (Value.reordered_record.mp reordered).2 "notes"
  rw [Instance.get?] at found otherFound
  rw [found, otherFound] at related
  cases related with
  | some here => exact (Value.reordered_map.mp here).perm_keys

theorem validate_not_reordered_keys :
    ∃ schema one other, compile .standard servicesRules = .ok schema ∧
      ((ValueType.record schema.type).Throughout fun part => part.isOrderless = true) ∧
      hostAndPort.Perm portAndHost ∧
      (∀ key ∈ [hostAndPort, portAndHost], (notedUnder key).isTagFree = true ∧
        (notedUnder key).hasDistinctTexts = true ∧ (notedUnder key).isProper = true) ∧
      schema.type.validate .empty (notedUnder hostAndPort) = .ok one ∧
      schema.type.validate .empty (notedUnder portAndHost) = .ok other ∧
      ¬ one.toValue.Reordered other.toValue := by
  have checked : ((compile .standard servicesRules).toOption.any fun schema =>
      ValueType.everyWithin ValueType.isOrderless 4 (.record schema.type) &&
        ((schema.type.validate .empty (notedUnder hostAndPort)).toOption.bind noteNames ==
            some ["host: a\nport: 80"] &&
          (schema.type.validate .empty (notedUnder portAndHost)).toOption.bind noteNames ==
            some ["port: 80\nhost: a"])) = true := by
    decide +kernel
  cases compiled : compile .standard servicesRules with
  | error error =>
      rw [compiled] at checked
      cases checked
  | ok schema =>
      rw [compiled] at checked
      simp only [Except.toOption, Option.any_some, Bool.and_eq_true, beq_iff_eq] at checked
      rcases checked with ⟨conditions, noted, otherNoted⟩
      cases accepted : schema.type.validate .empty (notedUnder hostAndPort) with
      | error rejection =>
          rw [accepted] at noted
          cases noted
      | ok one =>
          cases otherAccepted : schema.type.validate .empty (notedUnder portAndHost) with
          | error rejection =>
              rw [otherAccepted] at otherNoted
              cases otherNoted
          | ok other =>
              rw [accepted] at noted
              rw [otherAccepted] at otherNoted
              refine ⟨schema, one, other, rfl, ValueType.throughout_of_everyWithin conditions,
                .swap _ _ _, by decide, accepted, otherAccepted, fun reordered => ?_⟩
              have moved := perm_noteNames reordered noted otherNoted
              simp at moved

end Schema

end RuleSchema
