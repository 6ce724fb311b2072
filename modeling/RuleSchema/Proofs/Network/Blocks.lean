import RuleSchema.Network.Builder
import RuleSchema.Proofs.Chains
import RuleSchema.Proofs.Document.Merging
import RuleSchema.Proofs.Property.Values
import RuleSchema.Proofs.Types.Values

/-!
# Blocks of properties

Elements of a network refer to properties in a block, an edge also in the block of its source.
The block that is applied has to be a mapping, and the record of the element has the values of
each property it names.  The block of a source is merged below that of the edge, and overrides
are merged over the values of their property; what is no mapping takes part in no merge, so it
is neither applied nor refused in these two places.
-/

namespace RuleSchema.Network

variable {store : FileStore} {network : Network}

/-! ## Elements -/

/-- The property that a network has under a name. -/
def property? (network : Network) (name : String) : Option Instance :=
  network.properties.bind fun set => set.properties.get? name

/-- A record has the values of a property of the network under the overrides of a reference. -/
def Applies (store : FileStore) (network : Network) (record : Instance)
    (reference : String × Document) : Prop :=
  ∃ property value, network.property? reference.1 = some property ∧
    record.values.get? reference.1 = some value ∧
    (ValueType.record property.type).coerce store (overridden property reference.2)
      [.key reference.1] = .found value

/-- Overrides that are no mapping change nothing. -/
theorem overridden_of_not_mapping {property : Instance} {overrides : Document}
    (notMapping : overrides.isMapping = false) :
    overridden property overrides = property.toDocument := by
  rw [Document.isMapping_eq_isSome, Option.isSome_eq_false_iff, Option.isNone_iff_eq_none]
    at notMapping
  rw [overridden, notMapping]

/-- The attributes that a declaration states, by names. -/
def stated (declaration : Mapping) : NameMap Document :=
  (declaration.filter fun entry => entry.1.keyText != "properties").map fun entry =>
    (entry.1.keyText, entry.2)

theorem names_of_attributeFields {declaration : Mapping} {fields : List (String × FieldSpec)}
    (collected : network.attributeFields declaration = .ok fields) :
    fields.map Prod.fst = (stated declaration).names := by
  induction declaration generalizing fields with
  | nil =>
      cases collected
      rfl
  | cons entry rest ih =>
      rw [attributeFields] at collected
      rw [stated, NameMap.names, List.filter_cons]
      split at collected
      · next block =>
        rw [if_neg (by simpa using block)]
        exact ih collected
      · next own =>
        rw [if_pos (by simpa using own)]
        split at collected
        · cases collected
        · next attr known =>
          rcases except_map_eq_ok.mp collected with ⟨others, later, rfl⟩
          rw [List.map_cons, ih later]
          rfl

/-- Each reference names a property, and gives a field for it. -/
theorem mem_of_propertyFields {references : List (String × Document)}
    {records : List (String × FieldSpec × Document)}
    (collected : network.propertyFields references = .ok records) :
    ∀ reference ∈ references, ∃ property, network.property? reference.1 = some property ∧
      (reference.1, FieldSpec.plain (.record property.type), overridden property reference.2) ∈
        records := by
  induction references generalizing records with
  | nil => simp
  | cons head rest ih =>
      rw [propertyFields] at collected
      split at collected
      · cases collected
      · next property found =>
        rcases except_map_eq_ok.mp collected with ⟨others, later, rfl⟩
        intro reference member
        rcases List.mem_cons.mp member with rfl | inRest
        · exact ⟨property, found, List.mem_cons_self⟩
        · rcases ih later reference inRest with ⟨own, known, isRecord⟩
          exact ⟨own, known, List.mem_cons_of_mem _ isRecord⟩

theorem compiling_eq_ok {α : Type} {result : Except CompileError α} {value : α} :
    compiling result = .ok value ↔ result = .ok value := by
  cases result <;> simp [compiling]

/-- What an element is read from: its attributes, and the values of its properties, by names. -/
def input (declaration : Mapping) (records : List (String × FieldSpec × Document)) :
    NameMap Document :=
  stated declaration ++ records.map fun made => (made.1, made.2.2)

/-- Entries of distinct names are written as the names stand. -/
theorem ofEntries_input {declaration : Mapping} {records : List (String × FieldSpec × Document)}
    (distinct : (input declaration records).names.Nodup) :
    Mapping.ofEntries
      ((declaration.filter fun entry => entry.1.keyText != "properties").map
          (fun entry => (Document.string entry.1.keyText, entry.2)) ++
        records.map fun made => (Document.string made.1, made.2.2)) =
      Mapping.ofNames (input declaration records) := by
  rw [← Mapping.ofEntries_ofNames distinct, Mapping.ofNames, input, List.map_append, stated,
    List.map_map, List.map_map]
  rfl

/-- An element that is accepted is read by a type with a field for each of its properties. -/
theorem reads_of_validateElement {name : String} {path : DocPath} {declaration : Mapping}
    {block : Document} {record : Instance}
    (valid : network.validateElement store name path declaration block = .ok record) :
    ∃ references records, entriesOf path block = .ok references ∧
      network.propertyFields references = .ok records ∧
      (input declaration records).names.Nodup ∧
      ∀ made ∈ records, made.2.1.type.Reads store [.key made.1]
        (((input declaration records).get? made.1).or made.2.1.default)
        (record.values.get? made.1) := by
  rw [validateElement] at valid
  rcases except_bind_eq_ok.mp valid with ⟨attributes, attributesFound, valid⟩
  rcases except_bind_eq_ok.mp valid with ⟨references, read, valid⟩
  rcases except_bind_eq_ok.mp valid with ⟨records, recordsFound, valid⟩
  rcases except_bind_eq_ok.mp valid with ⟨type, compiled, valid⟩
  split at valid
  · cases valid
  next validated =>
  cases valid
  rw [compiling_eq_ok] at compiled
  have distinct : (input declaration records).names.Nodup := by
    have levelNames := Level.nodup_of_close compiled
    rw [List.map_append, names_of_attributeFields attributesFound, List.map_map] at levelNames
    rw [input, NameMap.names, List.map_append, List.map_map]
    exact levelNames
  have fromNames : type.validate store
      (.mapping (Mapping.ofNames (input declaration records))) = .ok record := by
    rw [← ofEntries_input distinct]
    exact validated
  rcases RecordType.reads_of_validate (Level.nodup_fields_of_close compiled) fromNames with
    ⟨entries, mapping, reads⟩
  cases mapping
  refine ⟨references, records, read, recordsFound, distinct, fun made isRecord => ?_⟩
  have isField : made.2.1.named made.1 ∈ type.fields := by
    rw [Level.fields_of_close_nil compiled, (Level.requiredFirst_perm _).mem_iff, List.map_append,
      List.map_map]
    exact List.mem_append_right _ (List.mem_map_of_mem isRecord)
  rw [← Mapping.byText_ofNames distinct]
  exact (reads _ isField).1

/-- An element that is accepted has a block that can be read, and each reference is applied. -/
theorem applies_of_validateElement {name : String} {path : DocPath} {declaration : Mapping}
    {block : Document} {record : Instance}
    (valid : network.validateElement store name path declaration block = .ok record) :
    ∃ references, entriesOf path block = .ok references ∧
      ∀ reference ∈ references, Applies store network record reference := by
  rcases reads_of_validateElement valid with
    ⟨references, records, read, recordsFound, distinct, reads⟩
  refine ⟨references, read, fun reference member => ?_⟩
  rcases mem_of_propertyFields recordsFound reference member with ⟨property, known, isRecord⟩
  have given : (input declaration records).get? reference.1 =
      some (overridden property reference.2) :=
    NameMap.get?_of_mem distinct (List.mem_append_right _ (List.mem_map_of_mem isRecord))
  have own : (ValueType.record property.type).Reads store [.key reference.1]
      (((input declaration records).get? reference.1).or none)
      (record.values.get? reference.1) :=
    reads _ isRecord
  rw [given, Option.some_or] at own
  generalize stored : record.values.get? reference.1 = found at own
  cases own with
  | coerced coerced => exact ⟨property, _, known, stored, coerced⟩

/-! ## Blocks of a source and of an edge -/

/-- The keys of a block are named by the entries that are read of it. -/
theorem mem_of_entriesOf {path : DocPath} {block : Document}
    {references : List (String × Document)} (read : entriesOf path block = .ok references)
    {key : Document} (member : key ∈ block.keysIn) :
    ∃ overrides, (key.keyText, overrides) ∈ references := by
  cases block with
  | mapping entries =>
      cases read
      rcases List.mem_map.mp member with ⟨entry, isEntry, rfl⟩
      exact ⟨entry.2, List.mem_map_of_mem isEntry⟩
  | null => cases member
  | _ => cases read

/-- What can be read is null or a mapping. -/
theorem null_or_mapping_of_entriesOf {path : DocPath} {block : Document}
    {references : List (String × Document)} (read : entriesOf path block = .ok references) :
    block = .null ∨ block.isMapping = true := by
  cases block with
  | null => exact .inl rfl
  | mapping entries => exact .inr rfl
  | _ => cases read

theorem isMapping_nonNull {block : Document} :
    (nonNull block).isMapping = true ↔ block = .null ∨ block.isMapping = true := by
  cases block with
  | null => simp [nonNull, Document.isMapping, Document.untagged]
  | _ => simp [nonNull]

theorem entriesOf_nonNull (path : DocPath) (block : Document) :
    entriesOf path (nonNull block) = entriesOf path block := by
  cases block <;> rfl

/--
A record has the values of the properties that its block refers to, merged of the block of a
source and that of an edge.  The block of the edge is null or a mapping.  The block of the source
has all its keys among the references if it is null or a mapping, and otherwise has no effect.
-/
structure AppliesBlocks (store : FileStore) (network : Network) (path : DocPath)
    (shared own : Document) (record : Instance) (references : List (String × Document)) :
    Prop where
  read : entriesOf path (Document.merge [nonNull shared, nonNull own]) = .ok references
  applied : ∀ reference ∈ references, Applies store network record reference
  ownMapping : own = .null ∨ own.isMapping = true
  merged : shared = .null ∨ shared.isMapping = true →
    ∀ key ∈ shared.keysIn ++ own.keysIn, ∃ other overrides,
      (other = key ∨ other.beq key = true) ∧ (other.keyText, overrides) ∈ references
  passedOver : ¬(shared = .null ∨ shared.isMapping = true) → entriesOf path own = .ok references

theorem appliesBlocks_of_validateElement {name : String} {path : DocPath} {declaration : Mapping}
    {shared own : Document} {record : Instance}
    (valid : network.validateElement store name path declaration
      (Document.merge [nonNull shared, nonNull own]) = .ok record) :
    ∃ references, AppliesBlocks store network path shared own record references := by
  rcases applies_of_validateElement valid with ⟨references, read, applied⟩
  have last {block : Document} (isBlock : block ∈ [nonNull shared, nonNull own])
      (notMapping : block.isMapping = false) :
      Document.merge [nonNull shared, nonNull own] = nonNull own :=
    Document.merge_eq_last isBlock notMapping (by simp)
  have ownMapping : (nonNull own).isMapping = true := by
    rw [← Bool.not_eq_false]
    intro notMapping
    rw [last (by simp) notMapping] at read
    rcases null_or_mapping_of_entriesOf read with none | mapping
    · cases own <;> cases none
    · rw [notMapping] at mapping
      cases mapping
  refine ⟨references, read, applied, isMapping_nonNull.mp ownMapping, ?_, ?_⟩
  · intro sharedMapping key member
    have mappings : ∀ block ∈ [nonNull shared, nonNull own], block.isMapping = true := by
      simpa [ownMapping] using isMapping_nonNull.mpr sharedMapping
    have keys : ∃ block ∈ [nonNull shared, nonNull own], key ∈ block.keysIn := by
      have nonNullKeys (block : Document) : (nonNull block).keysIn = block.keysIn := by
        cases block <;> rfl
      simpa [nonNullKeys] using member
    rcases keys with ⟨block, isBlock, isKey⟩
    rcases Document.exists_mem_keysOf isBlock isKey with ⟨other, among, alike⟩
    rw [← Document.keysIn_merge mappings] at among
    rcases mem_of_entriesOf read among with ⟨overrides, isReference⟩
    exact ⟨other, overrides, alike, isReference⟩
  · intro malformed
    rw [← isMapping_nonNull, Bool.not_eq_true] at malformed
    rw [last (by simp) malformed, entriesOf_nonNull] at read
    exact read

/-! ## Declarations -/

theorem mem_of_validateNodes {entries : List (String × Document)}
    {accepted : List (String × Instance)}
    (valid : network.validateNodes store entries = .ok accepted) :
    ∀ name document, (name, document) ∈ entries →
      ∃ declaration record, mappingOf [.key name] document = .ok declaration ∧
        (name, record) ∈ accepted ∧
        network.validateElement store name [.key name] declaration
          (statedProperties declaration) = .ok record := by
  induction entries generalizing accepted with
  | nil => simp
  | cons head rest ih =>
      rw [validateNodes] at valid
      rcases except_bind_eq_ok.mp valid with ⟨declaration, mapping, valid⟩
      rcases except_bind_eq_ok.mp valid with ⟨record, element, valid⟩
      rcases except_bind_eq_ok.mp valid with ⟨others, later, same⟩
      cases same
      intro name document member
      rcases List.mem_cons.mp member with rfl | inRest
      · exact ⟨declaration, record, mapping, List.mem_cons_self, element⟩
      · rcases ih later name document inRest with ⟨own, found, isMapping, isAccepted, valid⟩
        exact ⟨own, found, isMapping, List.mem_cons_of_mem _ isAccepted, valid⟩

theorem mem_of_validateTargets {source : String} {shared : Document}
    {targets : List (String × Document)} {accepted : List Edge}
    (valid : network.validateTargets store source shared targets = .ok accepted) :
    ∀ target document, (target, document) ∈ targets → target ≠ "properties" →
      ∃ declaration record, mappingOf [.key source, .key target] document = .ok declaration ∧
        ⟨source, target, record⟩ ∈ accepted ∧
        network.validateElement store (source ++ "_" ++ target) [.key source, .key target]
          declaration (Document.merge [nonNull shared, nonNull (statedProperties declaration)]) =
          .ok record := by
  induction targets generalizing accepted with
  | nil => simp
  | cons head rest ih =>
      intro target document member notBlock
      rw [validateTargets] at valid
      split at valid
      · next block =>
        rcases List.mem_cons.mp member with rfl | inRest
        · exact absurd (eq_of_beq block) notBlock
        · exact ih valid target document inRest notBlock
      · rcases except_bind_eq_ok.mp valid with ⟨declaration, mapping, valid⟩
        rcases except_bind_eq_ok.mp valid with ⟨record, element, valid⟩
        rcases except_bind_eq_ok.mp valid with ⟨others, later, same⟩
        cases same
        rcases List.mem_cons.mp member with rfl | inRest
        · exact ⟨declaration, record, mapping, List.mem_cons_self, element⟩
        · rcases ih later target document inRest notBlock with
            ⟨own, found, isMapping, isAccepted, valid⟩
          exact ⟨own, found, isMapping, List.mem_cons_of_mem _ isAccepted, valid⟩

theorem mem_of_validateSources {entries : List (String × Document)} {accepted : List Edge}
    (valid : network.validateSources store entries = .ok accepted) :
    ∀ source document, (source, document) ∈ entries →
      ∃ targets edges, entriesOf [.key source] document = .ok targets ∧ edges ⊆ accepted ∧
        network.validateTargets store source ((document.field? "properties").getD .null) targets =
          .ok edges := by
  induction entries generalizing accepted with
  | nil => simp
  | cons head rest ih =>
      rw [validateSources] at valid
      rcases except_bind_eq_ok.mp valid with ⟨targets, read, valid⟩
      rcases except_bind_eq_ok.mp valid with ⟨edges, here, valid⟩
      rcases except_bind_eq_ok.mp valid with ⟨others, later, same⟩
      cases same
      intro source document member
      rcases List.mem_cons.mp member with rfl | inRest
      · exact ⟨targets, edges, read, List.subset_append_left edges others, here⟩
      · rcases ih later source document inRest with ⟨own, found, isRead, isAccepted, valid⟩
        exact ⟨own, found, isRead, fun _ known => List.mem_append_right edges (isAccepted known),
          valid⟩

/--
Where nodes are added, each has a block that is null or a mapping, and all references are applied.
Where edges are added, so it is with the blocks of edges; the block of a source is merged below
them if it is null or a mapping, and has no effect if it is anything else.  In both, overrides that
are no mapping have no effect.
-/
theorem blocks_of_added (store : FileStore) (network : Network) (declarations : List Document) :
    (∀ added, network.addNodes store declarations = .ok added →
      ∃ entries accepted, entriesOf [] (Document.merge declarations) = .ok entries ∧
        added.nodes = network.nodes.insertAll (NameMap.ofEntries accepted) ∧
        ∀ name document, (name, document) ∈ entries →
          ∃ declaration references record, mappingOf [.key name] document = .ok declaration ∧
            (name, record) ∈ accepted ∧
            entriesOf [.key name] (statedProperties declaration) = .ok references ∧
            (statedProperties declaration = .null ∨
              (statedProperties declaration).isMapping = true) ∧
            ∀ reference ∈ references, Applies store network record reference) ∧
    (∀ added, network.addEdges store declarations = .ok added →
      ∃ entries accepted, entriesOf [] (Document.merge declarations) = .ok entries ∧
        added.edges = network.edges ++ accepted ∧
        ∀ source document, (source, document) ∈ entries →
          ∃ targets, entriesOf [.key source] document = .ok targets ∧
            ∀ target inner, (target, inner) ∈ targets → target ≠ "properties" →
              ∃ declaration references record,
                mappingOf [.key source, .key target] inner = .ok declaration ∧
                ⟨source, target, record⟩ ∈ accepted ∧
                AppliesBlocks store network [.key source, .key target]
                  ((document.field? "properties").getD .null) (statedProperties declaration)
                  record references) ∧
    ∀ property overrides, overrides.isMapping = false →
      overridden property overrides = property.toDocument := by
  refine ⟨?_, ?_, fun _ _ => overridden_of_not_mapping⟩
  · intro added succeeds
    rcases except_bind_eq_ok.mp succeeds with ⟨entries, read, succeeds⟩
    rcases except_bind_eq_ok.mp succeeds with ⟨accepted, valid, same⟩
    cases same
    refine ⟨entries, accepted, read, rfl, ?_⟩
    intro name document member
    rcases mem_of_validateNodes valid name document member with
      ⟨declaration, record, mapping, isAccepted, element⟩
    rcases applies_of_validateElement element with ⟨references, isRead, applied⟩
    exact ⟨declaration, references, record, mapping, isAccepted, isRead,
      null_or_mapping_of_entriesOf isRead, applied⟩
  · intro added succeeds
    rcases except_bind_eq_ok.mp succeeds with ⟨entries, read, succeeds⟩
    rcases except_bind_eq_ok.mp succeeds with ⟨accepted, valid, same⟩
    cases same
    refine ⟨entries, accepted, read, rfl, ?_⟩
    intro source document member
    rcases mem_of_validateSources valid source document member with
      ⟨targets, edges, isRead, areAccepted, validTargets⟩
    refine ⟨targets, isRead, ?_⟩
    intro target inner isTarget notBlock
    rcases mem_of_validateTargets validTargets target inner isTarget notBlock with
      ⟨declaration, record, mapping, isEdge, element⟩
    rcases appliesBlocks_of_validateElement element with ⟨references, applies⟩
    exact ⟨declaration, references, record, mapping, areAccepted isEdge, applies⟩

/-- Pipes have a pressure. -/
def pipeRules : Document :=
  .mapping [(.string "pressure", .mapping [(.string "type", .string "int")])]

/-- The pressure of a pump. -/
def pumpProperties : Document :=
  .mapping [(.string "pump", .mapping [(.string "pressure", .ofInt64 1)])]

/-- A station with a pump, of another pressure than pumps have. -/
def pumpedNodes : Document :=
  .mapping
    [ (.string "inlet", .mapping
        [ (.string "properties", .mapping
            [(.string "pump", .mapping [(.string "pressure", .ofInt64 3)])]) ]) ]

/-- A pipe to a tank, with the pump of its source. -/
def pumpedEdges : Document :=
  .mapping
    [ (.string "inlet", .mapping
        [ (.string "properties", .mapping [(.string "pump", .null)]),
          (.string "tank", .mapping [(.string "pressure", .ofInt64 2)]) ]) ]

theorem blocks_of_added_pumped :
    ∃ empty network station pipe withNodes withEdges,
      ofRules .standard [pipeRules] = .ok empty ∧
      empty.makeProperties .empty [pumpProperties] = .ok network ∧
      network.addNodes .empty [pumpedNodes] = .ok withNodes ∧
      network.addEdges .empty [pumpedEdges] = .ok withEdges ∧
      Applies .empty network station
        ("pump", .mapping [(.string "pressure", .ofInt64 3)]) ∧
      ⟨"inlet", "tank", pipe⟩ ∈ withEdges.edges ∧ (pipe.values.get? "pump").isSome = true := by
  have checked : ((ofRules .standard [pipeRules]).toOption.any fun empty =>
      (empty.makeProperties .empty [pumpProperties]).toOption.any fun network =>
        (network.addNodes .empty [pumpedNodes]).isOk &&
          (network.addEdges .empty [pumpedEdges]).isOk) = true := by
    decide +kernel
  rcases exists_of_any checked with ⟨empty, made, checked⟩
  rcases exists_of_any checked with ⟨network, composed, checked⟩
  rcases Bool.and_eq_true_iff.mp checked with ⟨nodesAdded, edgesAdded⟩
  rcases exists_of_isOk nodesAdded with ⟨withNodes, nodesAdded⟩
  rcases exists_of_isOk edgesAdded with ⟨withEdges, edgesAdded⟩
  rcases (blocks_of_added .empty network [pumpedNodes]).1 withNodes nodesAdded with
    ⟨entries, accepted, read, -, each⟩
  rw [Document.merge_singleton_of_isTagFree (by decide +kernel) (by decide +kernel)] at read
  cases read
  rcases each "inlet" _ List.mem_cons_self with
    ⟨declaration, references, station, mapping, -, isRead, -, applied⟩
  cases mapping
  cases isRead
  have ofStation := applied ("pump", _) List.mem_cons_self
  rcases (blocks_of_added .empty network [pumpedEdges]).2.1 withEdges edgesAdded with
    ⟨entries, accepted, read, edges, each⟩
  rw [Document.merge_singleton_of_isTagFree (by decide +kernel) (by decide +kernel)] at read
  cases read
  rcases each "inlet" _ List.mem_cons_self with ⟨targets, isRead, each⟩
  cases isRead
  rcases each "tank" _ (.tail _ List.mem_cons_self) (by decide) with
    ⟨declaration, references, pipe, -, isEdge, applies⟩
  rcases applies.merged (.inr rfl) (.string "pump") List.mem_cons_self with
    ⟨other, overrides, alike, isReference⟩
  have named : other.keyText = "pump" := by
    rcases alike with rfl | equal
    · rfl
    · cases other with
      | string text => exact eq_of_beq equal
      | _ => cases equal
  rcases applies.applied _ isReference with ⟨property, value, -, found, -⟩
  rw [named] at found
  refine ⟨empty, network, station, pipe, withNodes, withEdges, made, composed, nodesAdded,
    edgesAdded, ofStation, ?_, ?_⟩
  · rw [edges]
    exact List.mem_append_right _ isEdge
  · rw [found]
    rfl

/-- A number is the block of a source, and one stands for the overrides of a pump. -/
def looseEdges : Mapping :=
  [ (.string "properties", .ofInt64 5),
    (.string "outlet", .mapping [(.string "pressure", .ofInt64 2)]),
    (.string "tank", .mapping
      [ (.string "pressure", .ofInt64 1),
        (.string "properties", .mapping [(.string "pump", .ofInt64 7)]) ]) ]

/-- Neither number is refused, and the pump is as it was declared. -/
theorem added_of_loose :
    ∃ empty network added, ofRules .standard [pipeRules] = .ok empty ∧
      empty.makeProperties .empty [pumpProperties] = .ok network ∧
      network.addEdges .empty [.mapping [(.string "inlet", .mapping looseEdges)]] = .ok added ∧
      added.edges.map (fun edge => (edge.target, edge.values.values.names)) =
        [("outlet", ["pressure"]), ("tank", ["pressure", "pump"])] := by
  have checked : ((ofRules .standard [pipeRules]).toOption.any fun empty =>
      (empty.makeProperties .empty [pumpProperties]).toOption.any fun network =>
        (network.addEdges .empty
          [.mapping [(.string "inlet", .mapping looseEdges)]]).toOption.any fun added =>
            decide (added.edges.map (fun edge => (edge.target, edge.values.values.names)) =
              [("outlet", ["pressure"]), ("tank", ["pressure", "pump"])])) = true := by
    decide +kernel
  rcases exists_of_any checked with ⟨empty, made, checked⟩
  rcases exists_of_any checked with ⟨network, composed, checked⟩
  rcases exists_of_any checked with ⟨added, edgesAdded, checked⟩
  exact ⟨empty, network, added, made, composed, edgesAdded, of_decide_eq_true checked⟩

end RuleSchema.Network
