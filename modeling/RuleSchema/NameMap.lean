/-!
# Ordered maps from names

Entries keep the order in which their names were first inserted; inserting under a
known name replaces the value in place.
-/

namespace RuleSchema

/-- Values under names, in order of first insertion. -/
abbrev NameMap (α : Type) := List (String × α)

namespace NameMap

variable {α : Type}

/-- The value under a name. -/
def get? (entries : NameMap α) (name : String) : Option α :=
  (entries.find? (fun entry => entry.1 == name)).map Prod.snd

/-- Whether there is an entry of a name. -/
def has (entries : NameMap α) (name : String) : Bool :=
  entries.any (fun entry => entry.1 == name)

/-- Replace the value of an entry in place, or append a new entry. -/
def insert (entries : NameMap α) (name : String) (value : α) : NameMap α :=
  match entries with
  | [] => [(name, value)]
  | entry :: rest =>
      if entry.1 == name then (name, value) :: rest else entry :: insert rest name value

/-- Insert entries one after another; a known name keeps its place. -/
def insertAll (entries added : NameMap α) : NameMap α :=
  added.foldl (fun built entry => insert built entry.1 entry.2) entries

/-- The map of a list of entries, a later value replacing an earlier one in place. -/
def ofEntries (entries : List (String × α)) : NameMap α := insertAll [] entries

/-- The names of the entries, in their order. -/
def names (entries : NameMap α) : List String := entries.map Prod.fst

/-- The values of the entries, in their order. -/
def values (entries : NameMap α) : List α := entries.map Prod.snd

@[simp]
theorem get?_insert_self (entries : NameMap α) (name : String) (value : α) :
    (insert entries name value).get? name = some value := by
  induction entries with
  | nil => simp [insert, get?]
  | cons entry rest step =>
      by_cases same : entry.1 = name
      · simp [insert, get?, same]
      · simpa [insert, get?, same] using step

theorem get?_insert_of_ne (entries : NameMap α) {name other : String} (value : α)
    (different : other ≠ name) :
    (insert entries name value).get? other = entries.get? other := by
  have reversed : (name == other) = false := by
    simpa using fun same => different (Eq.symm same)
  induction entries with
  | nil => simp [insert, get?, reversed]
  | cons entry rest step =>
      by_cases same : entry.1 = name
      · simp [insert, get?, same, reversed]
      · by_cases hit : entry.1 = other
        · simp [insert, get?, hit, different]
        · simpa [insert, get?, same, hit] using step

end NameMap

end RuleSchema
