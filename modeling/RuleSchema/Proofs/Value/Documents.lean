import RuleSchema.Proofs.Document.Induction
import RuleSchema.Proofs.NameMap
import RuleSchema.Types.Coercion

/-!
# Values written and read

The document of a value has no tags and only texts as keys.  What was read from a document
is what reading gives back once it is written: floats keep their bits, and whole numbers
that fit in a word stay words.
-/

namespace RuleSchema

/-- A whole number that fits in a word is the number of this word. -/
theorem Whole.ofInt64_of_toInt64? {whole : Whole} {word : Int64}
    (fits : whole.toInt64? = some word) : ofInt64 word = whole := by
  rw [toInt64?] at fits
  split at fits
  · next small =>
    rw [Option.some.injEq] at fits
    have sameNumber : word.toInt = whole.value := by
      rw [← fits]
      exact Int64.toInt_ofInt_of_le whole.inRange.1 small
    rcases whole with ⟨value, inRange⟩
    subst sameNumber
    rfl
  · cases fits

namespace Value

theorem ofItems_eq_map (items : List Document) : ofItems items = items.map ofDocument := by
  induction items with
  | nil => rfl
  | cons item rest ih => rw [ofItems, ih, List.map_cons]

theorem ofMappingEntries_eq_map (entries : Mapping) :
    ofMappingEntries entries = entries.map fun entry => (entry.1.keyText, ofDocument entry.2) := by
  induction entries with
  | nil => rfl
  | cons entry rest ih => rw [ofMappingEntries, ih, List.map_cons]

theorem toItems_eq_map (items : List Value) : toItems items = items.map toDocument := by
  induction items with
  | nil => rfl
  | cons item rest ih => rw [toItems, ih, List.map_cons]

theorem toMapping_eq_map (entries : NameMap Value) :
    toMapping entries = entries.map fun entry => (.string entry.1, entry.2.toDocument) := by
  induction entries with
  | nil => rfl
  | cons entry rest ih => rw [toMapping, ih, List.map_cons]

@[simp]
theorem untagOnce_toDocument (value : Value) : value.toDocument.untagOnce = value.toDocument := by
  cases value <;> rfl

@[simp]
theorem isNull_toDocument (value : Value) : value.toDocument.isNull = value.isNull := by
  cases value <;> rfl

theorem eq_null_of_isNull {value : Value} (isNull : value.isNull = true) : value = .null := by
  cases value <;> first | rfl | cases isNull

theorem isNull_ofDocument (document : Document) :
    (ofDocument document).isNull = document.isNull := by
  induction document using Document.untagged.induct with
  | case1 name inner ih => exact ih
  | case2 document noTag =>
      cases document with
      | tagged name inner => exact absurd rfl (noTag name inner)
      | number value =>
          rw [ofDocument]
          cases value.toInt64? <;> rfl
      | _ => rfl

@[simp]
theorem ofDocument_ofInt64 (word : Int64) : ofDocument (.ofInt64 word) = .int word := by
  rw [Document.ofInt64, ofDocument, Number.toInt64?, Whole.toInt64?_ofInt64]

/-- A value that is read from its own document. -/
def ReadsBack (value : Value) : Prop := ofDocument value.toDocument = value

theorem ReadsBack.list {items : List Value} (each : ∀ item ∈ items, item.ReadsBack) :
    ReadsBack (.list items) := by
  have same : (toItems items).map ofDocument = items := by
    rw [toItems_eq_map, List.map_map]
    exact (List.map_congr_left each).trans (List.map_id items)
  rw [ReadsBack, toDocument, ofDocument, ofItems_eq_map, same]

theorem ReadsBack.map {entries : NameMap Value} (distinct : entries.names.Nodup)
    (each : ∀ entry ∈ entries, entry.2.ReadsBack) : ReadsBack (.map entries) := by
  have same : (toMapping entries).map (fun entry => (entry.1.keyText, ofDocument entry.2)) =
      entries := by
    rw [toMapping_eq_map, List.map_map]
    refine Eq.trans (List.map_congr_left fun entry member => ?_) (List.map_id entries)
    exact Prod.ext rfl (each entry member)
  rw [ReadsBack, toDocument, ofDocument, ofMappingEntries_eq_map, same,
    NameMap.ofEntries_of_nodup distinct]

/-- What was read is read again from its document. -/
theorem readsBack_ofDocument (document : Document) : (ofDocument document).ReadsBack := by
  induction document using Document.memberInduction with
  | null => rfl
  | bool value => rfl
  | number value =>
      rw [ofDocument]
      cases value.toInt64? with
      | some word => exact ofDocument_ofInt64 word
      | none => rfl
  | string value => rfl
  | sequence items each =>
      rw [ofDocument, ofItems_eq_map]
      apply ReadsBack.list
      intro item member
      rcases List.mem_map.mp member with ⟨inner, isItem, rfl⟩
      exact each inner isItem
  | mapping entries each =>
      rw [ofDocument, ofMappingEntries_eq_map]
      apply ReadsBack.map (NameMap.nodup_names_ofEntries _)
      intro entry member
      rcases List.mem_map.mp (NameMap.mem_of_mem_ofEntries member) with
        ⟨⟨key, inner⟩, isEntry, rfl⟩
      exact (each key inner isEntry).2
  | tagged name inner ih => exact ih

end Value

/-- The entries of a written record, by the texts of their keys. -/
theorem Mapping.byText_toMapping {values : NameMap Value} (distinct : values.names.Nodup) :
    Mapping.byText (Value.toMapping values) =
      values.map fun entry => (entry.1, entry.2.toDocument) := by
  have same : (Value.toMapping values).map (fun entry => (entry.1.keyText, entry.2)) =
      values.map fun entry => (entry.1, entry.2.toDocument) := by
    rw [Value.toMapping_eq_map, List.map_map]
    rfl
  rw [byText, same, NameMap.ofEntries_of_nodup]
  rw [NameMap.names_mapValues]
  exact distinct

/-! ## Options of literals -/

/-- A scalar without tags. -/
def Document.isScalar : Document → Bool
  | .null => true
  | .bool _ => true
  | .number _ => true
  | .string _ => true
  | _ => false

/-- A scalar option still is the document's once this is written as the value it was read as. -/
theorem Scalar.isOption_toDocument {document option : Document} (scalar : option.isScalar = true)
    (chosen : isOption document option = true) :
    isOption (Value.ofDocument document).toDocument option = true := by
  cases option with
  | sequence items => cases scalar
  | mapping entries => cases scalar
  | tagged name inner => cases scalar
  | null => cases document <;> first | rfl | cases chosen
  | bool value => cases document <;> first | exact chosen | cases chosen
  | string value => cases document <;> first | exact chosen | cases chosen
  | number left =>
      cases document with
      | number right =>
          rw [Value.ofDocument]
          cases fits : right.toInt64? with
          | none => exact chosen
          | some word =>
              cases right with
              | float value => cases fits
              | whole value =>
                  rw [Value.toDocument, Document.ofInt64, Whole.ofInt64_of_toInt64? fits]
                  exact chosen
      | _ => cases chosen

end RuleSchema
