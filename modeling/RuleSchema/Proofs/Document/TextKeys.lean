import RuleSchema.Proofs.Document.KeySearch

/-!
# Documents whose keys are texts

Where every key of a mapping is a string, a step of a path finds what its text finds as a key.
-/

namespace RuleSchema

namespace Document

/-- Whether a document is a string without a tag. -/
def isText : Document → Bool
  | .string _ => true
  | _ => false

mutual

/-- Whether every key of a mapping is a string without tags, at any depth of values. -/
def hasTextKeys : Document → Bool
  | .sequence items => itemsHaveTextKeys items
  | .mapping entries => entriesHaveTextKeys entries
  | .tagged _ value => hasTextKeys value
  | _ => true

/-- Whether in every item all keys are strings. -/
def itemsHaveTextKeys : List Document → Bool
  | [] => true
  | item :: rest => hasTextKeys item && itemsHaveTextKeys rest

/-- Whether all keys are strings, and those in the values too. -/
def entriesHaveTextKeys : List (Document × Document) → Bool
  | [] => true
  | (key, value) :: rest => key.isText && hasTextKeys value && entriesHaveTextKeys rest

end

theorem isText_iff {key : Document} : key.isText = true ↔ ∃ text, key = .string text := by
  cases key <;> simp [isText]

theorem hasTextKeys_sequence {items : List Document} :
    hasTextKeys (.sequence items) = true ↔ ∀ item ∈ items, item.hasTextKeys = true := by
  rw [hasTextKeys]
  induction items with
  | nil => simp [itemsHaveTextKeys]
  | cons item rest ih => simp [itemsHaveTextKeys, ih]

theorem hasTextKeys_mapping {entries : Mapping} :
    hasTextKeys (.mapping entries) = true ↔
      ∀ entry ∈ entries, entry.1.isText = true ∧ entry.2.hasTextKeys = true := by
  rw [hasTextKeys]
  induction entries with
  | nil => simp [entriesHaveTextKeys]
  | cons entry rest ih => simp [entriesHaveTextKeys, ih]

end Document

/-- A text addresses the entry that it finds as a key. -/
theorem Mapping.at?_eq_get? {entries : Mapping}
    (texts : ∀ entry ∈ entries, entry.1.isText = true) (text : String) :
    entries.at? text = entries.get? (.string text) := by
  have others : entries.find? (fun entry => isRendered text entry.1) = none := by
    rw [List.find?_eq_none]
    intro entry member
    rcases Document.isText_iff.mp (texts entry member) with ⟨own, key⟩
    rw [key]
    exact Bool.false_ne_true
  rw [at?_eq_or, others]
  exact Option.or_none

end RuleSchema
