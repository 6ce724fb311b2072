import RuleSchema.Document.Edit

/-!
# Documents without tags

What is found in a document without tags has none either.
-/

namespace RuleSchema

namespace Document

mutual

/-- Whether there is no tag in a document, neither in keys nor in values. -/
def isTagFree : Document → Bool
  | .sequence items => itemsAreTagFree items
  | .mapping entries => entriesAreTagFree entries
  | .tagged _ _ => false
  | _ => true

/-- Whether there is no tag in any item. -/
def itemsAreTagFree : List Document → Bool
  | [] => true
  | item :: rest => isTagFree item && itemsAreTagFree rest

/-- Whether there is no tag in any key or value. -/
def entriesAreTagFree : List (Document × Document) → Bool
  | [] => true
  | (key, value) :: rest => isTagFree key && isTagFree value && entriesAreTagFree rest

end

theorem isTagFree_sequence {items : List Document} :
    isTagFree (.sequence items) = true ↔ ∀ item ∈ items, item.isTagFree = true := by
  rw [isTagFree]
  induction items with
  | nil => simp [itemsAreTagFree]
  | cons item rest ih => simp [itemsAreTagFree, ih]

theorem isTagFree_mapping {entries : Mapping} :
    isTagFree (.mapping entries) = true ↔
      ∀ entry ∈ entries, entry.1.isTagFree = true ∧ entry.2.isTagFree = true := by
  rw [isTagFree]
  induction entries with
  | nil => simp [entriesAreTagFree]
  | cons entry rest ih => simp [entriesAreTagFree, ih]

theorem eq_mapping_of_isTagFree {document : Document} {entries : Mapping}
    (tagFree : document.isTagFree = true) (mapping : document.asMapping? = some entries) :
    document = .mapping entries := by
  cases document with
  | mapping own => rw [Option.some.inj mapping]
  | tagged name inner => cases tagFree
  | _ => cases mapping

theorem isTagFree_of_field? {entries : Mapping} {name : String} {value : Document}
    (tagFree : isTagFree (.mapping entries) = true) (found : entries.field? name = some value) :
    value.isTagFree = true := by
  rcases Option.map_eq_some_iff.mp found with ⟨entry, hit, rfl⟩
  exact (isTagFree_mapping.mp tagFree entry (List.mem_of_find?_eq_some hit)).2

theorem isTagFree_of_get? {document value : Document} {path : DocPath}
    (tagFree : document.isTagFree = true) (found : path.get? document = some value) :
    value.isTagFree = true := by
  induction path generalizing document with
  | nil => exact Option.some.inj found ▸ tagFree
  | cons step rest ih =>
      cases step with
      | key text =>
          cases document with
          | mapping entries =>
              rw [DocPath.get?] at found
              split at found
              · next inner hit =>
                rcases Option.map_eq_some_iff.mp hit with ⟨entry, addressed, rfl⟩
                have member := List.mem_of_find?_eq_some addressed
                exact ih (isTagFree_mapping.mp tagFree entry member).2 found
              · cases found
          | _ => cases found
      | index position =>
          cases document with
          | sequence items =>
              rw [DocPath.get?] at found
              split at found
              · next inner hit =>
                exact ih (isTagFree_sequence.mp tagFree inner (List.mem_of_getElem? hit)) found
              · cases found
          | _ => cases found

end Document

end RuleSchema
