import Mathlib.Data.List.Perm.Subperm
import RuleSchema.NameMap

/-!
# Names of ordered maps

Inserting under a new name appends, and the names of a map of entries are the names of
the entries.  The names of such a map are distinct, and entries with distinct names are a map
already.  Entries of one name leave one entry, which holds the value of the last of them.
-/

namespace RuleSchema.NameMap

variable {α : Type} {entries : NameMap α} {name other : String} {value : α}

@[simp]
theorem get?_cons_self : get? ((name, value) :: entries) name = some value := by
  simp [get?]

theorem get?_cons_of_ne (different : name ≠ other) :
    get? ((name, value) :: entries) other = get? entries other := by
  simp [get?, different]

theorem get?_eq_none (absent : name ∉ names entries) : get? entries name = none := by
  rw [get?, Option.map_eq_none_iff, List.find?_eq_none]
  intro entry member same
  apply absent
  rw [← eq_of_beq same]
  exact List.mem_map_of_mem member

theorem mem_of_get? (found : get? entries name = some value) : (name, value) ∈ entries := by
  rcases Option.map_eq_some_iff.mp found with ⟨entry, hit, rfl⟩
  have same := List.find?_some hit
  rw [← eq_of_beq same]
  exact List.mem_of_find?_eq_some hit

theorem mem_names_of_mem (member : (name, value) ∈ entries) : name ∈ names entries :=
  List.mem_map_of_mem member

theorem mem_names_iff : name ∈ names entries ↔ ∃ value, get? entries name = some value := by
  constructor
  · intro member
    cases found : get? entries name with
    | some value => exact ⟨value, rfl⟩
    | none =>
        rcases List.mem_map.mp member with ⟨entry, known, same⟩
        rw [get?, Option.map_eq_none_iff, List.find?_eq_none] at found
        exact absurd (by simpa using same) (found entry known)
  · rintro ⟨value, found⟩
    exact mem_names_of_mem (mem_of_get? found)

theorem insert_of_fresh (fresh : name ∉ names entries) :
    insert entries name value = entries ++ [(name, value)] := by
  induction entries with
  | nil => rfl
  | cons entry rest ih =>
      simp only [names, List.map_cons, List.mem_cons, not_or] at fresh
      rw [insert, if_neg (by simpa using Ne.symm fresh.1), ih fresh.2]
      rfl

theorem mem_names_insert :
    other ∈ names (insert entries name value) ↔ other = name ∨ other ∈ names entries := by
  induction entries with
  | nil => simp [insert, names]
  | cons entry rest ih =>
      rw [insert]
      split
      · next same => simp [names, eq_of_beq same]
      · simp only [names, List.map_cons, List.mem_cons] at ih ⊢
        rw [ih, or_left_comm]

theorem mem_names_insertAll {added : NameMap α} :
    other ∈ names (insertAll entries added) ↔ other ∈ names entries ∨ other ∈ names added := by
  induction added generalizing entries with
  | nil => simp [insertAll, names]
  | cons entry rest ih =>
      have unfolded : insertAll entries (entry :: rest) =
          insertAll (insert entries entry.1 entry.2) rest := rfl
      have own : other ∈ names (entry :: rest) ↔ other = entry.1 ∨ other ∈ names rest := by
        simp [names]
      rw [unfolded, ih, mem_names_insert, own, or_assoc, or_left_comm]

theorem mem_names_ofEntries {added : NameMap α} :
    name ∈ names (ofEntries added) ↔ name ∈ names added := by
  rw [ofEntries, mem_names_insertAll]
  simp [names]

theorem mem_of_mem_insert {entry : String × α} (member : entry ∈ insert entries name value) :
    entry = (name, value) ∨ entry ∈ entries := by
  induction entries with
  | nil => exact .inl (List.mem_singleton.mp member)
  | cons head rest ih =>
      rw [insert] at member
      split at member
      · rcases List.mem_cons.mp member with new | old
        · exact .inl new
        · exact .inr (List.mem_cons_of_mem _ old)
      · rcases List.mem_cons.mp member with rfl | inRest
        · exact .inr List.mem_cons_self
        · exact (ih inRest).imp_right (List.mem_cons_of_mem _)

theorem mem_of_mem_insertAll {added : NameMap α} {entry : String × α}
    (member : entry ∈ insertAll entries added) : entry ∈ entries ∨ entry ∈ added := by
  induction added generalizing entries with
  | nil => exact .inl member
  | cons head rest ih =>
      rcases ih member with inserted | later
      · rcases mem_of_mem_insert inserted with rfl | old
        · exact .inr List.mem_cons_self
        · exact .inl old
      · exact .inr (List.mem_cons_of_mem _ later)

theorem mem_of_mem_ofEntries {added : NameMap α} {entry : String × α}
    (member : entry ∈ ofEntries added) : entry ∈ added :=
  (mem_of_mem_insertAll member).resolve_left List.not_mem_nil

theorem nodup_names_insert (distinct : (names entries).Nodup) (name : String) (value : α) :
    (names (insert entries name value)).Nodup := by
  induction entries with
  | nil => simp [insert, names]
  | cons entry rest ih =>
      rcases List.nodup_cons.mp distinct with ⟨fresh, restDistinct⟩
      rw [insert]
      split
      · next same =>
        rw [names, List.map_cons, ← eq_of_beq same]
        exact distinct
      · next different =>
        refine List.nodup_cons.mpr ⟨?_, ih restDistinct⟩
        intro known
        rcases mem_names_insert.mp known with same | old
        · exact different (beq_of_eq same)
        · exact fresh old

theorem nodup_names_insertAll {added : NameMap α} (distinct : (names entries).Nodup) :
    (names (insertAll entries added)).Nodup := by
  induction added generalizing entries with
  | nil => exact distinct
  | cons entry rest ih => exact ih (nodup_names_insert distinct entry.1 entry.2)

theorem nodup_names_ofEntries (added : NameMap α) : (names (ofEntries added)).Nodup :=
  nodup_names_insertAll List.nodup_nil

theorem insertAll_of_nodup {added : NameMap α} (distinct : (names (entries ++ added)).Nodup) :
    insertAll entries added = entries ++ added := by
  induction added generalizing entries with
  | nil => exact (List.append_nil entries).symm
  | cons entry rest ih =>
      have shifted : entries ++ entry :: rest = (entries ++ [entry]) ++ rest := by simp
      have fresh : entry.1 ∉ names entries := by
        intro known
        rw [names, List.map_append, List.nodup_append] at distinct
        exact distinct.2.2 _ known _ List.mem_cons_self rfl
      have unfolded : insertAll entries (entry :: rest) =
          insertAll (insert entries entry.1 entry.2) rest := rfl
      rw [unfolded, insert_of_fresh fresh, ih (shifted ▸ distinct), ← shifted]

/-- Entries with distinct names are a map already. -/
theorem ofEntries_of_nodup (distinct : (names entries).Nodup) : ofEntries entries = entries := by
  rw [ofEntries, insertAll_of_nodup (by simpa using distinct), List.nil_append]

/-- Where names are distinct, a look-up finds the entry of the name. -/
theorem get?_of_mem (distinct : (names entries).Nodup) (member : (name, value) ∈ entries) :
    get? entries name = some value := by
  induction entries with
  | nil => cases member
  | cons entry rest ih =>
      rcases entry with ⟨first, own⟩
      rcases List.nodup_cons.mp distinct with ⟨fresh, restDistinct⟩
      rcases List.mem_cons.mp member with same | inRest
      · cases same
        exact get?_cons_self
      · have different : first ≠ name := by
          rintro rfl
          exact fresh (mem_names_of_mem inRest)
        rw [get?_cons_of_ne different]
        exact ih restDistinct inRest

theorem names_mapValues {β : Type} (function : α → β) :
    names (entries.map fun entry => (entry.1, function entry.2)) = names entries := by
  rw [names, names, List.map_map]
  rfl

theorem get?_mapValues {β : Type} (function : α → β) :
    get? (entries.map fun entry => (entry.1, function entry.2)) name =
      (get? entries name).map function := by
  rw [get?, get?, List.find?_map, Option.map_map, Option.map_map]
  rfl

theorem has_iff : has entries name = true ↔ name ∈ names entries := by
  simp [has, names]

/-- Of entries with distinct names that are added, each replaces one of its name. -/
theorem get?_insertAll {added : NameMap α} (distinct : (names added).Nodup) :
    get? (insertAll entries added) name = (get? added name).or (get? entries name) := by
  induction added generalizing entries with
  | nil => rfl
  | cons entry rest ih =>
      rcases entry with ⟨first, own⟩
      rcases List.nodup_cons.mp distinct with ⟨fresh, restDistinct⟩
      have unfolded : insertAll entries ((first, own) :: rest) =
          insertAll (insert entries first own) rest := rfl
      rw [unfolded, ih restDistinct]
      by_cases same : first = name
      · subst same
        rw [get?_eq_none fresh, get?_cons_self, get?_insert_self]
        rfl
      · rw [get?_cons_of_ne same, get?_insert_of_ne entries own (Ne.symm same)]

theorem get?_append {added : NameMap α} :
    get? (entries ++ added) name = (get? entries name).or (get? added name) := by
  rw [get?, get?, get?, List.find?_append, Option.map_or]

/-- Of entries that are added, the last one of a name counts. -/
theorem get?_insertAll_reverse {added : NameMap α} :
    get? (insertAll entries added) name = (get? added.reverse name).or (get? entries name) := by
  induction added generalizing entries with
  | nil => rfl
  | cons entry rest ih =>
      rcases entry with ⟨first, value⟩
      have unfolded : insertAll entries ((first, value) :: rest) =
          insertAll (insert entries first value) rest := rfl
      rw [unfolded, ih, List.reverse_cons, get?_append, Option.or_assoc]
      congr 1
      by_cases same : first = name
      · subst same
        rw [get?_insert_self, get?_cons_self, Option.some_or]
      · rw [get?_insert_of_ne entries value (Ne.symm same), get?_cons_of_ne same]
        rfl

/-- A map of entries is as long as they are exactly if their names are distinct. -/
theorem length_ofEntries_iff {added : NameMap α} :
    (ofEntries added).length = added.length ↔ (names added).Nodup := by
  constructor
  · intro sameLength
    have inside : names (ofEntries added) ⊆ names added := fun _ => mem_names_ofEntries.mp
    have enough : (names added).length ≤ (names (ofEntries added)).length := by
      simp [names, sameLength]
    have rearranged : (names (ofEntries added)).Perm (names added) :=
      (List.subperm_of_subset (nodup_names_ofEntries added) inside).perm_of_length_le enough
    exact rearranged.nodup_iff.mp (nodup_names_ofEntries added)
  · intro distinct
    rw [ofEntries_of_nodup distinct]

end RuleSchema.NameMap
