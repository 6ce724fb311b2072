import RuleSchema.Proofs.Document.MergedLookup
import RuleSchema.Proofs.Value.Documents

/-!
# Documents that values keep

A value tells whole numbers from floats, but holds whole numbers as signed words only; from
`2 ^ 63` on they become floats.  Of documents without tags whose keys are distinct texts,
nothing else is lost: entries and items come back as they were, in their order.
-/

namespace RuleSchema

namespace Document

mutual

/-- Whether every whole number is below `2 ^ 63`, at any depth of values. -/
def hasWords : Document → Bool
  | .number (.whole value) => value.value < 2 ^ 63
  | .sequence items => itemsHaveWords items
  | .mapping entries => entriesHaveWords entries
  | .tagged _ value => hasWords value
  | _ => true

/-- Whether every whole number in the items is below `2 ^ 63`. -/
def itemsHaveWords : List Document → Bool
  | [] => true
  | item :: rest => hasWords item && itemsHaveWords rest

/-- Whether every whole number in the values is below `2 ^ 63`. -/
def entriesHaveWords : List (Document × Document) → Bool
  | [] => true
  | (_, value) :: rest => hasWords value && entriesHaveWords rest

end

variable {items : List Document} {entries : Mapping} {document : Document}

theorem hasWords_sequence :
    hasWords (.sequence items) = true ↔ ∀ item ∈ items, item.hasWords = true := by
  rw [hasWords]
  induction items with
  | nil => simp [itemsHaveWords]
  | cons item rest ih => simp [itemsHaveWords, ih]

theorem hasWords_mapping :
    hasWords (.mapping entries) = true ↔ ∀ entry ∈ entries, entry.2.hasWords = true := by
  rw [hasWords]
  induction entries with
  | nil => simp [entriesHaveWords]
  | cons entry rest ih => simp [entriesHaveWords, ih]

/-- Changed items are compared with their own originals. -/
theorem beqItems_map (change : Document → Document) :
    beqItems (items.map change) items = items.all fun item => (change item).beq item := by
  induction items with
  | nil => rfl
  | cons item rest ih => rw [List.map_cons, beqItems, ih, List.all_cons]

namespace IsLayer

theorem item (layer : IsLayer (.sequence items)) {item : Document} (member : item ∈ items) :
    item.IsLayer where
  isTagFree := isTagFree_sequence.mp layer.isTagFree item member
  isProper := isProper_sequence.mp layer.isProper item member
  hasTextKeys := hasTextKeys_sequence.mp layer.hasTextKeys item member

theorem value (layer : IsLayer (.mapping entries)) {entry : Document × Document}
    (member : entry ∈ entries) : entry.2.IsLayer where
  isTagFree := (isTagFree_mapping.mp layer.isTagFree entry member).2
  isProper := ((isProper_mapping.mp layer.isProper).2 entry member).2
  hasTextKeys := (hasTextKeys_mapping.mp layer.hasTextKeys entry member).2

/-- A key of a layer is its own text. -/
theorem string_keyText (layer : IsLayer (.mapping entries)) {entry : Document × Document}
    (member : entry ∈ entries) : .string entry.1.keyText = entry.1 := by
  rcases isText_iff.mp (hasTextKeys_mapping.mp layer.hasTextKeys entry member).1 with ⟨text, key⟩
  rw [key]
  rfl

theorem nodup_keyTexts (layer : IsLayer (.mapping entries)) :
    (entries.map fun entry => entry.1.keyText).Nodup := by
  rw [List.Nodup, List.pairwise_map]
  refine (isProper_mapping.mp layer.isProper).1.imp_of_mem fun firstMember secondMember differ => ?_
  intro same
  rw [← layer.string_keyText firstMember, ← layer.string_keyText secondMember, same] at differ
  simp [beq] at differ

end IsLayer

end Document

namespace Value

open Document

variable {items : List Document} {entries : Mapping} {document : Document}

/-- What a document becomes as a value and as a document again. -/
def kept (document : Document) : Document := (ofDocument document).toDocument

theorem kept_sequence : kept (.sequence items) = .sequence (items.map kept) := by
  rw [kept, ofDocument, toDocument, ofItems_eq_map, toItems_eq_map, List.map_map]
  rfl

/-- Entries of a layer keep their keys and their order. -/
theorem kept_mapping (layer : IsLayer (.mapping entries)) :
    kept (.mapping entries) = .mapping (entries.map fun entry => (entry.1, kept entry.2)) := by
  have names : (NameMap.names (entries.map fun entry =>
      (entry.1.keyText, ofDocument entry.2))).Nodup := by
    rw [NameMap.names, List.map_map]
    exact layer.nodup_keyTexts
  rw [kept, ofDocument, toDocument, ofMappingEntries_eq_map, NameMap.ofEntries_of_nodup names,
    toMapping_eq_map, List.map_map]
  congr 1
  refine List.map_congr_left fun entry member => ?_
  exact Prod.ext (layer.string_keyText member) rfl

theorem kept_whole {whole : Whole} (small : whole.value < 2 ^ 63) :
    kept (.number (.whole whole)) = .number (.whole whole) := by
  have word : whole.toInt64? = some (Int64.ofInt whole.value) := by
    rw [Whole.toInt64?, if_pos small]
  rw [kept, ofDocument, Number.toInt64?, word]
  dsimp only
  rw [toDocument, Document.ofInt64, Whole.ofInt64_of_toInt64? word]

/-- A larger whole number is a float afterwards. -/
theorem kept_large {whole : Whole} (large : ¬whole.value < 2 ^ 63) :
    kept (.number (.whole whole)) = .ofFloat (Decimal.Rounding.ofInt whole.value) := by
  have notWord : (Number.whole whole).toInt64? = none := by
    rw [Number.toInt64?, Whole.toInt64?, if_neg large]
  rw [kept, ofDocument, notWord]
  rfl

theorem kept_eq_of_hasWords (layer : document.IsLayer) (words : document.hasWords = true) :
    kept document = document := by
  induction document using memberInduction with
  | null => rfl
  | bool value => rfl
  | number value =>
      cases value with
      | whole value => exact kept_whole (by simpa [hasWords] using words)
      | float value => rfl
  | string value => rfl
  | sequence items each =>
      rw [hasWords_sequence] at words
      rw [kept_sequence]
      congr 1
      refine (List.map_congr_left fun item member => ?_).trans (List.map_id items)
      exact each item member (layer.item member) (words item member)
  | mapping entries each =>
      rw [hasWords_mapping] at words
      rw [kept_mapping layer]
      congr 1
      refine (List.map_congr_left fun entry member => ?_).trans (List.map_id entries)
      exact Prod.ext rfl
        ((each entry.1 entry.2 member).2 (layer.value member) (words entry member))
  | tagged name inner ih => cases layer.isTagFree

/-- Equality of documents shows what is lost. -/
theorem hasWords_of_beq (layer : document.IsLayer) (same : (kept document).beq document = true) :
    document.hasWords = true := by
  induction document using memberInduction with
  | null => rfl
  | bool value => rfl
  | number value =>
      cases value with
      | whole value =>
          apply Classical.byContradiction
          intro large
          rw [kept_large (by simpa [hasWords] using large)] at same
          cases same
      | float value => rfl
  | string value => rfl
  | sequence items each =>
      rw [hasWords_sequence]
      rw [kept_sequence, Document.beq, beqItems_map, List.all_eq_true] at same
      exact fun item member => each item member (layer.item member) (same item member)
  | mapping entries each =>
      rw [hasWords_mapping]
      rw [kept_mapping layer, Document.beq, beqEntries_eq_all, Bool.and_eq_true,
        List.all_eq_true] at same
      intro entry member
      have isEntry := same.2 _ (List.mem_map_of_mem member)
      rw [isEntryOf] at isEntry
      dsimp only at isEntry
      rw [(areCoherent_of_isProper layer.isProper).find?_eq member] at isEntry
      exact (each entry.1 entry.2 member).2 (layer.value member) isEntry
  | tagged name inner ih => cases layer.isTagFree

/--
A document without tags whose keys are distinct texts comes back from its value, with its
entries in their order, exactly if its whole numbers are below `2 ^ 63`.  With a larger one
it is not even equal to what comes back.
-/
theorem toDocument_ofDocument_iff (layer : document.IsLayer) :
    ((ofDocument document).toDocument = document ↔ document.hasWords = true) ∧
      ((ofDocument document).toDocument.beq document = true ↔ document.hasWords = true) := by
  have returns : document.hasWords = true → (ofDocument document).toDocument = document :=
    kept_eq_of_hasWords layer
  have itself : document.beq document = true := (isCoherent_of_isProper layer.isProper).refl
  refine ⟨⟨fun same => hasWords_of_beq layer ?_, returns⟩,
    hasWords_of_beq layer, fun words => ?_⟩
  · rw [kept, same]
    exact itself
  · rw [returns words]
    exact itself

/-- Limits of words, and numbers that are none. -/
def limitsDocument : Document :=
  .mapping [(.string "most", .ofInt64 Int64.maxValue), (.string "least", .ofInt64 Int64.minValue),
    (.string "others", .sequence [.ofFloat 0.5, .null, .mapping [(.string "", .bool true)]])]

theorem toDocument_ofDocument_iff_limits :
    limitsDocument.IsLayer ∧ limitsDocument.hasWords = true ∧
      ((ofDocument limitsDocument).toDocument = limitsDocument ↔
        limitsDocument.hasWords = true) := by
  have layer : limitsDocument.IsLayer := ⟨rfl, by decide, rfl⟩
  exact ⟨layer, rfl, (toDocument_ofDocument_iff layer).1⟩

/-- The greatest whole number of a document. -/
def greatestWhole : Document := .number (.whole ⟨18446744073709551615, by decide⟩)

/-- It becomes the next power of two, as a float. -/
theorem greatestWhole_not_kept :
    (ofDocument greatestWhole).toDocument = .ofFloat 18446744073709551616.0 ∧
      (ofDocument greatestWhole).toDocument.beq greatestWhole = false := by
  exact ⟨rfl, rfl⟩

end Value

end RuleSchema
