import RuleSchema.Proofs.Document.Editing
import RuleSchema.Proofs.Document.Merging
import RuleSchema.Proofs.Document.Paths
import RuleSchema.Proofs.Document.TextKeys
import RuleSchema.Proofs.FirstAppearances

/-!
# Lookups in merged documents

Along a path on which every document has mappings, as far as it has anything, a lookup in the
merged documents finds what the values found in each of them merge to, and nothing where none
of them has a value.  On the way the merged keys are those of the documents that go so far, in
order of first appearance.
-/

namespace RuleSchema

theorem DocPath.isAncestorOf_cons_iff {above rest : DocPath} {step : PathKey} :
    above.isAncestorOf (step :: rest) = true ↔
      above = [] ∨ ∃ inner : DocPath, above = step :: inner ∧ inner.isAncestorOf rest = true := by
  cases above with
  | nil => simp [isAncestorOf, isPrefixOf]
  | cons first inner =>
      simp [isAncestorOf, isPrefixOf, and_left_comm]

namespace Document

open DocPath

variable {document value : Document} {documents values keys : List Document} {entries : Mapping}
  {path rest : DocPath} {step : PathKey} {text : String}

/-- A document without tags whose keys are distinct texts, at any depth. -/
structure IsLayer (document : Document) : Prop where
  isTagFree : document.isTagFree = true
  isProper : document.isProper = true
  hasTextKeys : document.hasTextKeys = true

theorem IsLayer.of_value? {key : Document} (layer : document.IsLayer)
    (found : value? key document = some value) : value.IsLayer where
  isTagFree := isTagFree_of_value? layer.isTagFree found
  isProper := isProper_of_value? layer.isProper found
  hasTextKeys := by
    rw [value?] at found
    split at found
    · next entries mapping =>
      have texts := layer.hasTextKeys
      rw [eq_mapping_of_isTagFree layer.isTagFree mapping, hasTextKeys_mapping] at texts
      rcases Option.map_eq_some_iff.mp found with ⟨entry, hit, rfl⟩
      exact (texts entry (List.mem_of_find?_eq_some hit)).2
    · cases found

theorem IsLayer.isText_of_mem_keysIn {key : Document} (layer : document.IsLayer)
    (member : key ∈ document.keysIn) : key.isText = true := by
  rw [keysIn] at member
  cases mapping : document.asMapping? with
  | none => simp [mapping] at member
  | some entries =>
      rw [mapping] at member
      rcases List.mem_map.mp member with ⟨entry, isEntry, rfl⟩
      have texts := layer.hasTextKeys
      rw [eq_mapping_of_isTagFree layer.isTagFree mapping, hasTextKeys_mapping] at texts
      exact (texts entry isEntry).1

theorem get?_key_of_isText (texts : ∀ entry ∈ entries, entry.1.isText = true) :
    get? (.key text :: rest) (.mapping entries) =
      (value? (.string text) (.mapping entries)).bind (get? rest) := by
  rw [get?_cons, get?_key, Mapping.at?_eq_get? texts]
  rfl

/-- A key leads in a layer to the value under its text. -/
theorem IsLayer.get?_key (layer : document.IsLayer) :
    get? (.key text :: rest) document = (value? (.string text) document).bind (get? rest) := by
  have texts := layer.hasTextKeys
  cases document with
  | mapping entries =>
      rw [hasTextKeys_mapping] at texts
      exact get?_key_of_isText fun entry member => (texts entry member).1
  | tagged name inner => cases layer.isTagFree
  | _ => rfl

theorem IsLayer.eq_mapping (layer : document.IsLayer) (isMapping : document.isMapping = true) :
    ∃ entries, document = .mapping entries := by
  cases document with
  | mapping entries => exact ⟨entries, rfl⟩
  | tagged name inner => cases layer.isTagFree
  | _ => cases isMapping

/-- A key leads in merged layers to the merged values under its text. -/
theorem get?_key_merge (layers : ∀ document ∈ documents, document.IsLayer)
    (mappings : ∀ document ∈ documents, document.isMapping = true) :
    get? (.key text :: rest) (merge documents) =
      (value? (.string text) (merge documents)).bind (get? rest) := by
  rw [merge_eq_mapping mappings]
  apply get?_key_of_isText
  intro entry member
  rcases List.mem_map.mp member with ⟨key, isKey, rfl⟩
  rcases mem_keysOf isKey with ⟨document, isDocument, inDocument⟩
  exact (layers document isDocument).isText_of_mem_keysIn inDocument

/-- What is found in a layer is a layer. -/
theorem IsLayer.of_get? (layer : document.IsLayer) (found : get? path document = some value) :
    value.IsLayer := by
  induction path generalizing document with
  | nil => exact Option.some.inj found ▸ layer
  | cons step rest ih =>
      cases step with
      | key text =>
          rw [layer.get?_key] at found
          rcases Option.bind_eq_some_iff.mp found with ⟨inner, here, below⟩
          exact ih (layer.of_value? here) below
      | index position =>
          cases document with
          | sequence items =>
              rw [get?_cons, get?_index] at found
              rcases Option.bind_eq_some_iff.mp found with ⟨item, here, below⟩
              have member := List.mem_of_getElem? here
              refine ih ⟨?_, ?_, ?_⟩ below
              · exact isTagFree_sequence.mp layer.isTagFree item member
              · exact isProper_sequence.mp layer.isProper item member
              · exact hasTextKeys_sequence.mp layer.hasTextKeys item member
          | _ => cases found

/-- Wherever the path leads to a value before its end, that value is a mapping. -/
def LeadsThroughMappings (path : DocPath) (document : Document) : Prop :=
  ∀ (above : DocPath) (value : Document), above.isAncestorOf path = true →
    above.get? document = some value → value.isMapping = true

theorem leadsThroughMappings_nil : LeadsThroughMappings [] document := by
  intro above value isAbove
  simp [isAncestorOf] at isAbove

theorem leadsThroughMappings_cons :
    LeadsThroughMappings (step :: rest) document ↔
      document.isMapping = true ∧
        ∀ value, get? [step] document = some value → LeadsThroughMappings rest value := by
  constructor
  · intro through
    refine ⟨through [] document (isAncestorOf_cons_iff.mpr (.inl rfl)) rfl, ?_⟩
    intro value found above inner isAbove reached
    apply through (step :: above) inner (isAncestorOf_cons_iff.mpr (.inr ⟨above, rfl, isAbove⟩))
    rw [get?_cons, found]
    exact reached
  · rintro ⟨isMapping, below⟩ above inner isAbove reached
    rcases isAncestorOf_cons_iff.mp isAbove with rfl | ⟨above, rfl, isAboveRest⟩
    · exact Option.some.inj reached ▸ isMapping
    · rw [get?_cons] at reached
      rcases Option.bind_eq_some_iff.mp reached with ⟨value, found, onward⟩
      exact below value found above inner isAboveRest onward

/-- A lookup in merged documents finds what the values found in each of them merge to. -/
theorem get?_merge_eq (nonempty : documents ≠ [])
    (layers : ∀ document ∈ documents, document.IsLayer)
    (through : ∀ document ∈ documents, LeadsThroughMappings path document) :
    get? path (merge documents) =
      if (documents.filterMap (get? path)).isEmpty then none
      else some (merge (documents.filterMap (get? path))) := by
  induction path generalizing documents with
  | nil =>
      have all : documents.filterMap (get? []) = documents := List.filterMap_some
      rw [all, if_neg (by simpa using nonempty)]
      rfl
  | cons step rest ih =>
      have mappings : ∀ document ∈ documents, document.isMapping = true :=
        fun document member => (leadsThroughMappings_cons.mp (through document member)).1
      cases step with
      | index position =>
          have none : documents.filterMap (get? (.index position :: rest)) = [] := by
            rw [List.filterMap_eq_nil_iff]
            intro document member
            rcases (layers document member).eq_mapping (mappings document member) with
              ⟨entries, rfl⟩
            rfl
          rw [none, merge_eq_mapping mappings]
          rfl
      | key text =>
          have onward : documents.filterMap (get? (.key text :: rest)) =
              (valuesUnder (.string text) documents).filterMap (get? rest) := by
            rw [valuesUnder_eq, List.filterMap_filterMap]
            exact List.filterMap_congr fun document member => (layers document member).get?_key
          have valuesLayers : ∀ value ∈ valuesUnder (.string text) documents, value.IsLayer := by
            intro value member
            rcases mem_valuesUnder_iff.mp member with ⟨document, isDocument, found⟩
            exact (layers document isDocument).of_value? found
          rw [get?_key_merge layers mappings, onward,
            value?_merge mappings (fun document member => (layers document member).isProper) rfl]
          split
          · next empty =>
            rw [List.isEmpty_iff.mp empty]
            rfl
          · next nonempty =>
            have some : valuesUnder (.string text) documents ≠ [] := by simpa using nonempty
            rw [Option.bind_some, layered_eq_merge some fun value member =>
              ⟨(valuesLayers value member).isTagFree, (valuesLayers value member).isProper⟩]
            apply ih some valuesLayers
            intro value member
            rcases mem_valuesUnder_iff.mp member with ⟨document, isDocument, found⟩
            apply (leadsThroughMappings_cons.mp (through document isDocument)).2
            rw [(layers document isDocument).get?_key, found]
            rfl

/-! ## Keys on the way -/

/-- The texts of the keys of a mapping. -/
def keyTexts (document : Document) : List String := document.keysIn.map keyText

theorem foldl_addKey_texts (texts : List String) :
    (texts.map Document.string).foldl addKey [] = texts.eraseDups.map Document.string := by
  induction texts using List.reverseRecOn with
  | nil => rfl
  | append_singleton before last ih =>
      have known : (before.eraseDups.map Document.string).any
          (fun other => other.beq (.string last)) = decide (last ∈ before) := by
        rw [Bool.eq_iff_iff, List.any_map, List.any_eq_true, decide_eq_true_iff]
        simp [beq]
      rw [List.map_append, List.foldl_append, ih, List.map_singleton, List.foldl_cons,
        List.foldl_nil]
      by_cases member : last ∈ before
      · rw [addKey_of_known (known.trans (decide_eq_true member)), eraseDups_concat_of_mem member]
      · rw [addKey_of_unknown (known.trans (decide_eq_false member)),
          eraseDups_concat_of_not_mem member, List.map_append, List.map_singleton]

theorem IsLayer.keysIn_eq (layer : document.IsLayer) :
    document.keysIn = document.keyTexts.map Document.string := by
  rw [keyTexts, List.map_map]
  refine ((List.map_congr_left fun key member => ?_).trans (List.map_id _)).symm
  rcases isText_iff.mp (layer.isText_of_mem_keysIn member) with ⟨text, rfl⟩
  rfl

/-- The keys of merged layers are their keys in order of first appearance. -/
theorem keysOf_eq_keyTexts (layers : ∀ document ∈ documents, document.IsLayer) :
    keysOf documents = (documents.flatMap keyTexts).eraseDups.map Document.string := by
  have keys : documents.flatMap keysIn = (documents.flatMap keyTexts).map Document.string := by
    rw [List.map_flatMap]
    exact List.flatMap_congr fun document member => (layers document member).keysIn_eq
  rw [keysOf_eq_foldl, keys, foldl_addKey_texts]

/--
Along a path on which all documents have mappings, a lookup in the merged documents finds nothing
exactly where none of them has a value, and otherwise what their values merge to; on the way
the merged keys are the keys of the mappings found there, in order of first appearance.
-/
theorem get?_merge (documents : List Document) (path : DocPath) (nonempty : documents ≠ [])
    (layers : ∀ document ∈ documents, document.IsLayer)
    (through : ∀ document ∈ documents, LeadsThroughMappings path document) :
    (get? path (merge documents) = none ↔ ∀ document ∈ documents, get? path document = none) ∧
    (∀ values, documents.filterMap (get? path) = values → values ≠ [] →
      get? path (merge documents) = some (merge values)) ∧
    ∀ above values, isAncestorOf above path = true →
      documents.filterMap (get? above) = values → values ≠ [] →
        ∃ entries, get? above (merge documents) = some (.mapping entries) ∧
          entries.map Prod.fst = (values.flatMap keyTexts).eraseDups.map Document.string ∧
          (entries.map Prod.fst).Nodup := by
  have found (place : DocPath)
      (mappings : ∀ document ∈ documents, LeadsThroughMappings place document) :=
    get?_merge_eq nonempty layers mappings
  refine ⟨?_, fun values same some => ?_, fun above values isAbove same some => ?_⟩
  · rw [found path through, ← List.filterMap_eq_nil_iff, ← List.isEmpty_iff]
    split <;> simp [*]
  · rw [found path through, same, if_neg (by simpa using some)]
  · have mappings : ∀ document ∈ documents, LeadsThroughMappings above document :=
      fun document member higher value isHigher =>
        through document member higher value (isAncestorOf_trans isHigher isAbove)
    have each : ∀ value ∈ values, value.IsLayer ∧ value.isMapping = true := by
      intro value member
      rw [← same] at member
      rcases List.mem_filterMap.mp member with ⟨document, isDocument, reached⟩
      exact ⟨(layers document isDocument).of_get? reached,
        through document isDocument above value isAbove reached⟩
    have merged := merge_eq_mapping fun value member => (each value member).2
    have keys : ((keysOf values).map fun key => (key, layered (valuesUnder key values))).map
        Prod.fst = (values.flatMap keyTexts).eraseDups.map Document.string := by
      rw [← keysOf_eq_keyTexts fun value member => (each value member).1]
      exact List.map_map.trans (List.map_id _)
    refine ⟨_, ?_, keys, ?_⟩
    · rw [found above mappings, same, if_neg (by simpa using some), merged]
    · rw [keys]
      exact (nodup_eraseDups _).map fun one other equal => Document.string.inj equal

/-- A default configuration, and two that are laid over it. -/
def stackedDocuments : List Document :=
  [ .mapping
      [ (.string "server", .mapping [(.string "port", .ofInt64 80), (.string "host", .string "a")]),
        (.string "debug", .bool false) ],
    .mapping [(.string "debug", .null)],
    .mapping
      [ (.string "server", .mapping
          [ (.string "tls", .mapping [(.string "key", .string "k")]),
            (.string "host", .string "b") ]) ] ]

theorem get?_merge_stacked :
    stackedDocuments ≠ [] ∧ (∀ document ∈ stackedDocuments, document.IsLayer) ∧
    (∀ document ∈ stackedDocuments,
      LeadsThroughMappings [.key "server", .key "host"] document) ∧
    get? [.key "server", .key "host"] (merge stackedDocuments) =
      some (merge [.string "a", .string "b"]) ∧
    ∃ entries, get? [.key "server"] (merge stackedDocuments) = some (.mapping entries) ∧
      entries.map Prod.fst = [.string "port", .string "host", .string "tls"] := by
  have layers : ∀ document ∈ stackedDocuments, document.IsLayer := by
    have checked : ∀ document ∈ stackedDocuments, document.isTagFree = true ∧
        document.isProper = true ∧ document.hasTextKeys = true := by decide
    intro document member
    rcases checked document member with ⟨tagFree, proper, textKeys⟩
    exact ⟨tagFree, proper, textKeys⟩
  have through : ∀ document ∈ stackedDocuments,
      LeadsThroughMappings [.key "server", .key "host"] document := by
    intro document member
    have server : document.isMapping = true ∧
        ∀ value, get? [.key "server"] document = some value → value.isMapping = true := by
      simp only [stackedDocuments, List.mem_cons, List.not_mem_nil, or_false] at member
      rcases member with rfl | rfl | rfl
      · exact ⟨rfl, fun value found => Option.some.inj found ▸ rfl⟩
      · exact ⟨rfl, fun value found => by cases found⟩
      · exact ⟨rfl, fun value found => Option.some.inj found ▸ rfl⟩
    refine leadsThroughMappings_cons.mpr ⟨server.1, fun value found => ?_⟩
    exact leadsThroughMappings_cons.mpr
      ⟨server.2 value found, fun inner _ => leadsThroughMappings_nil⟩
  rcases get?_merge stackedDocuments [.key "server", .key "host"] (by simp [stackedDocuments])
    layers through with ⟨-, values, keys⟩
  rcases keys [.key "server"] _ (by rfl) rfl (List.cons_ne_nil _ _) with
    ⟨entries, found, inOrder, -⟩
  exact ⟨by simp [stackedDocuments], layers, through, values _ rfl (by simp),
    entries, found, inOrder⟩

end Document

end RuleSchema
