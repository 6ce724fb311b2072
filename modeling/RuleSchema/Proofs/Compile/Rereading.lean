import RuleSchema.Proofs.Compile.Types
import RuleSchema.Proofs.Registry.Regular

/-!
# Validated configurations are valid

A validated configuration is written as a document and validated again, with the same
values as its result.
-/

namespace RuleSchema

theorem RecordType.validate_of_found {store : FileStore} {type : RecordType}
    {document : Document} {values : NameMap Value}
    (instantiated : type.instantiate store document [] = .found values) :
    type.validate store document = .ok ⟨type, values⟩ := by
  rw [validate, instantiated]
  rfl

namespace Schema

/-- Rules without tags compile to a regular type, in a regular registry. -/
theorem isRegular_of_compile {registry : Registry} {rules : Document} {schema : Schema}
    (regular : registry.IsRegular) (tagFree : rules.isTagFree = true)
    (compiled : compile registry rules = .ok schema) :
    (ValueType.record schema.type).IsRegular := by
  refine holds_of_compile ?_ ?_ compiled
  · intro path leaf type found resolved
    rcases mappingAt_eq_ok_iff.mp found with ⟨value, lookup, mapping⟩
    have valueTagFree := Document.isTagFree_of_get? tagFree lookup
    rw [Document.eq_mapping_of_isTagFree valueTagFree mapping] at valueTagFree
    exact regular.resolveType valueTagFree resolved
  · intro hint level path type closed fields
    refine .intro ⟨Level.nodup_fields_of_close closed, trivial⟩ fun part member => ?_
    rcases List.mem_map.mp member with ⟨field, isField, rfl⟩
    exact fields field isField

/--
What a schema makes of a document is what it makes of the document of that.

The types have no choice, no coercion of their own and only free texts as keys; the options of
their literals are scalars, and no record has two fields of one name.  No validator runs before
coercion, and those of fields with a default always run.
-/
theorem validate_toDocument (store : FileStore) (schema : Schema) (document : Document)
    (record : Instance) (regular : (ValueType.record schema.type).IsRegular)
    (plain : (ValueType.record schema.type).Throughout fun part => part.isPlain = true)
    (repeats : (ValueType.record schema.type).Throughout ValueType.RepeatsChecks)
    (validated : schema.type.validate store document = .ok record) :
    schema.type.validate store record.toDocument = .ok record := by
  have rereadable : (ValueType.record schema.type).IsRereadable False :=
    (plain.and (regular.and repeats)).imp fun part conditions =>
      ⟨⟨conditions.1, conditions.2.1.1⟩, .inr ⟨conditions.2.1.2, conditions.2.2⟩⟩
  rcases rereadable with ⟨⟨⟨-, distinct⟩, conditions⟩, inside⟩
  rcases RecordType.gives_of_validate validated with ⟨sameType, instantiated⟩
  have confirmed := RecordType.confirms_instantiate distinct
    (fun field member =>
      ValueType.rereads_of_isRereadable (inside field.type (List.mem_map_of_mem member)))
    (conditions.imp_right And.right) instantiated []
  have written : record.toDocument = .mapping (Value.toMapping record.values) := rfl
  rw [written, RecordType.validate_of_found confirmed.eq_found, ← sameType]

/-- A name in lower case, a mode, and limits: retries in threes, and weights. -/
def limitedRules : Document :=
  Rule.branchOf
    [ ("name", .mapping
        [ (.string "type", .string "constr"),
          (.string "opts", .mapping
            [ (.string "strip_whitespace", .bool true), (.string "to_lower", .bool true) ]) ]),
      ("mode", .mapping
        [ (.string "type", .string "Literal"),
          (.string "opts", .sequence [.string "fast", .string "slow"]) ]),
      ("limits", Rule.branchOf
        [ ("retries", .mapping
            [ (.string "type", .string "PositiveInt"),
              (.string "default", .ofInt64 6),
              (.string "validator", .string "mult_of"),
              (.string "validator_params", .mapping [(.string "factor", .ofInt64 3)]),
              (.string "validator_opts", .mapping [(.string "always", .bool true)]) ]),
          ("weights", .mapping
            [ (.string "type", .string "Dict"),
              (.string "opts", .sequence [.string "str", .string "int"]) ]) ]) ]

/-- A configuration in which every value is coerced to something else. -/
def limitedDocument : Document :=
  .mapping
    [ (.string "name", .string "  Server One "),
      (.string "mode", .tagged "chosen" (.string "fast")),
      (.string "limits", .mapping
        [ (.string "weights", .mapping
            [ (.ofInt64 1, .string "5"), (.string "two", .string " 7 ") ]) ]) ]

theorem validate_toDocument_limited :
    ∃ schema record, compile .standard limitedRules = .ok schema ∧
      schema.type.validate .empty limitedDocument = .ok record ∧
      schema.type.validate .empty record.toDocument = .ok record := by
  have checked : ((compile .standard limitedRules).toOption.any fun schema =>
      ValueType.everyWithin (fun part => part.isPlain && decide part.RepeatsChecks) 4
          (.record schema.type) &&
        (schema.type.validate .empty limitedDocument).isOk) = true := by
    decide +kernel
  rcases exists_of_any checked with ⟨schema, compiled, checked⟩
  rcases Bool.and_eq_true_iff.mp checked with ⟨every, accepted⟩
  have conditions := ValueType.throughout_of_everyWithin every
  rcases exists_of_isOk accepted with ⟨record, validated⟩
  refine ⟨schema, record, compiled, validated, ?_⟩
  have regular := isRegular_of_compile Registry.isRegular_standard (by decide) compiled
  refine validate_toDocument .empty schema limitedDocument record regular ?_ ?_ validated
  · exact conditions.imp fun part both => (Bool.and_eq_true_iff.mp both).1
  · exact conditions.imp fun part both => of_decide_eq_true (Bool.and_eq_true_iff.mp both).2

/-! ## Types made by hand -/

/-- A literal whose one option is a mapping, with a key that is no text. -/
def oddType : ValueType := .literal [.mapping [(.ofInt64 1, .string "a")]]

/-- A record with two fields of one name, of which only the last takes a text. -/
def twiceType : RecordType where
  name := "twice"
  fields :=
    [ ⟨"port", .int { strict := true }, none, false, none⟩,
      ⟨"port", .text {}, none, false, none⟩ ]
  validators := []
  bases := []

/-- The built-in registry with types that none of its factories makes. -/
def handmadeRegistry : Registry :=
  (Registry.standard.registerType "Odd" (.ready oddType)).registerType "Twice"
    (.ready (.record twiceType))

/-- Rules for one field of a type. -/
def ofFieldType (name : String) : Document :=
  Rule.branchOf [("field", .mapping [(.string "type", .string name)])]

/--
Rules of plain types, whose schema accepts a document and then refuses what it made of it.
-/
def RefusesOwnResult (registry : Registry) (rules document : Document) : Prop :=
  rules.isTagFree = true ∧ document.isTagFree = true ∧
    ∃ schema record, compile registry rules = .ok schema ∧
      ((ValueType.record schema.type).Throughout fun part => part.isPlain = true) ∧
      (ValueType.record schema.type).Throughout ValueType.RepeatsChecks ∧
      schema.type.validate .empty document = .ok record ∧
      (schema.type.validate .empty record.toDocument).isOk = false

theorem refusesOwnResult_of_any {registry : Registry} {rules document : Document} (depth : Nat)
    (tagFree : (rules.isTagFree && document.isTagFree) = true)
    (checked : ((compile registry rules).toOption.any fun schema =>
      ValueType.everyWithin (fun part => part.isPlain && decide part.RepeatsChecks) depth
          (.record schema.type) &&
        (schema.type.validate .empty document).toOption.any fun record =>
          !(schema.type.validate .empty record.toDocument).isOk) = true) :
    RefusesOwnResult registry rules document := by
  rcases Bool.and_eq_true_iff.mp tagFree with ⟨rulesTagFree, documentTagFree⟩
  rcases exists_of_any checked with ⟨schema, compiled, checked⟩
  rcases Bool.and_eq_true_iff.mp checked with ⟨every, checked⟩
  rcases exists_of_any checked with ⟨record, validated, refused⟩
  have conditions := ValueType.throughout_of_everyWithin every
  refine ⟨rulesTagFree, documentTagFree, schema, record, compiled, ?_, ?_, validated, ?_⟩
  · exact conditions.imp fun part both => (Bool.and_eq_true_iff.mp both).1
  · exact conditions.imp fun part both => of_decide_eq_true (Bool.and_eq_true_iff.mp both).2
  · simpa using refused

/-- Neither condition on regular types can be left out. -/
theorem not_validate_toDocument_handmade :
    RefusesOwnResult handmadeRegistry (ofFieldType "Odd")
        (.mapping [(.string "field", .mapping [(.ofInt64 1, .string "a")])]) ∧
      RefusesOwnResult handmadeRegistry (ofFieldType "Twice")
        (.mapping [(.string "field", .mapping [(.string "port", .ofInt64 5)])]) := by
  constructor
  · exact refusesOwnResult_of_any 3 (by decide) (by decide +kernel)
  · exact refusesOwnResult_of_any 3 (by decide) (by decide +kernel)

end Schema

end RuleSchema
