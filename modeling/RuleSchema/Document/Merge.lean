import RuleSchema.Document.Basic

/-!
# Merging documents

Documents are layered, later ones over earlier ones.  If any of them is no
mapping the last one stands alone.  Otherwise the result has every key in order
of first appearance; a key found once keeps its value, and the values of a key
found several times are merged in turn.
-/

namespace RuleSchema

namespace Document

mutual

/-- The number of documents in a document, keys included, by which merging ends. -/
def size : Document → Nat
  | .sequence items => sizeOfItems items + 1
  | .mapping entries => sizeOfEntries entries + 1
  | .tagged _ value => size value + 1
  | _ => 1

/-- The sizes of the items of a sequence together. -/
def sizeOfItems : List Document → Nat
  | [] => 0
  | item :: rest => size item + sizeOfItems rest

/-- The sizes of the keys and values of a mapping together. -/
def sizeOfEntries : List (Document × Document) → Nat
  | [] => 0
  | (key, value) :: rest => size key + size value + sizeOfEntries rest

end

theorem size_untagged_le (document : Document) : document.untagged.size ≤ document.size := by
  induction document using untagged.induct with
  | case1 name value hypothesis =>
      simp only [untagged_tagged, size]
      omega
  | case2 document different =>
      cases document <;> first | exact Nat.le_refl _ | exact absurd rfl (different _ _)

theorem size_le_of_mem (entries : Mapping) (entry : Document × Document)
    (member : entry ∈ entries) : entry.2.size ≤ sizeOfEntries entries := by
  induction entries with
  | nil => cases member
  | cons first rest hypothesis =>
      rcases List.mem_cons.mp member with rfl | later
      · simp only [sizeOfEntries]
        omega
      · have bound := hypothesis later
        simp only [sizeOfEntries]
        omega

theorem size_lt_of_get? (document : Document) (entries : Mapping) (key value : Document)
    (isMap : document.asMapping? = some entries) (found : entries.get? key = some value) :
    value.size < document.size := by
  have whole : sizeOfEntries entries < document.size := by
    have bound := size_untagged_le document
    unfold asMapping? at isMap
    split at isMap
    · rename_i same
      cases isMap
      rw [same] at bound
      simp only [size] at bound
      omega
    · cases isMap
  unfold Mapping.get? at found
  obtain ⟨entry, located, rfl⟩ := Option.map_eq_some_iff.mp found
  have bound := size_le_of_mem entries entry (List.mem_of_find?_eq_some located)
  omega

/-- What the mappings among some documents have under a key, in their order. -/
def valuesUnder (key : Document) (documents : List Document) : List Document :=
  documents.filterMap fun document =>
    match document.asMapping? with
    | some entries => entries.get? key
    | none => none

/-- The sizes of some documents together. -/
def totalSize : List Document → Nat
  | [] => 0
  | document :: rest => document.size + totalSize rest

theorem totalSize_valuesUnder_le (key : Document) (documents : List Document) :
    totalSize (valuesUnder key documents) + (valuesUnder key documents).length ≤
      totalSize documents := by
  induction documents with
  | nil => simp [valuesUnder, totalSize]
  | cons document rest hypothesis =>
      rw [valuesUnder] at *
      rw [List.filterMap_cons, totalSize]
      split
      · omega
      · rename_i value found
        have smaller : value.size < document.size := by
          split at found
          · rename_i entries isMap
            exact size_lt_of_get? document entries key value isMap found
          · cases found
        simp only [totalSize, List.length_cons]
        omega

/-- The keys of all documents in order of first appearance, each once. -/
def keysOf (documents : List Document) : List Document :=
  documents.foldl
    (fun keys document =>
      ((document.asMapping?).getD []).foldl
        (fun keys entry =>
          if keys.any (fun key => key.beq entry.1) then keys else keys ++ [entry.1])
        keys)
    []

/-- Merge documents, later ones taking precedence. -/
def merge (documents : List Document) : Document :=
  match documents.getLast? with
  | none => .mapping []
  | some last =>
      if documents.all isMapping then
        .mapping ((keysOf documents).map fun key =>
          match _found : valuesUnder key documents with
          | [] => (key, .null)
          | [value] => (key, value)
          | first :: second :: rest => (key, merge (first :: second :: rest)))
      else last
termination_by totalSize documents
decreasing_by
  have bound := totalSize_valuesUnder_le key documents
  rw [_found] at bound
  simp only [List.length_cons] at bound
  omega

end Document

end RuleSchema
