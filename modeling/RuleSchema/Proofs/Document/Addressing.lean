import Mathlib.Data.List.Nodup
import RuleSchema.Proofs.Document.Reach
import RuleSchema.Proofs.Document.Tags

/-!
# What the walk visits and what lookups find

Where no two keys of a mapping have one text, the walk visits no path twice.  What a lookup
finds below the root is visited once, with the value that was found.  Conversely a lookup finds
every visited location exactly when the document is open: the walk looks through every tag,
while a lookup stops at a tagged container and never takes a key that is a text under a tag.
-/

namespace RuleSchema

namespace Document

mutual

/-- Whether no two keys of one mapping have one text, at any depth of values. -/
def hasDistinctTexts : Document → Bool
  | .sequence items => itemsHaveDistinctTexts items
  | .mapping entries =>
      decide (entries.map fun entry => entry.1.keyText).Nodup && valuesHaveDistinctTexts entries
  | .tagged _ value => hasDistinctTexts value
  | _ => true

/-- Whether in every item the keys of each mapping have distinct texts. -/
def itemsHaveDistinctTexts : List Document → Bool
  | [] => true
  | item :: rest => hasDistinctTexts item && itemsHaveDistinctTexts rest

/-- Whether in every value of a mapping the keys of each mapping have distinct texts. -/
def valuesHaveDistinctTexts : List (Document × Document) → Bool
  | [] => true
  | (_, value) :: rest => hasDistinctTexts value && valuesHaveDistinctTexts rest

end

/-- Whether a key is a text under a tag, which no step addresses. -/
def isTaggedText : Document → Bool
  | .tagged _ inner => inner.isString
  | _ => false

mutual

/-- Whether no tag stands around a container with contents, and no key is a text under a tag. -/
def isOpen : Document → Bool
  | .sequence items => itemsAreOpen items
  | .mapping entries => entriesAreOpen entries
  | .tagged _ value => (inside [] value).isEmpty
  | _ => true

/-- Whether every item is open. -/
def itemsAreOpen : List Document → Bool
  | [] => true
  | item :: rest => isOpen item && itemsAreOpen rest

/-- Whether no key is a text under a tag, and every value is open. -/
def entriesAreOpen : List (Document × Document) → Bool
  | [] => true
  | (key, value) :: rest => !key.isTaggedText && isOpen value && entriesAreOpen rest

end

variable {items : List Document} {entries : Mapping} {document value : Document} {path : DocPath}

theorem hasDistinctTexts_sequence :
    hasDistinctTexts (.sequence items) = true ↔ ∀ item ∈ items, item.hasDistinctTexts = true := by
  rw [hasDistinctTexts]
  induction items with
  | nil => simp [itemsHaveDistinctTexts]
  | cons item rest ih => simp [itemsHaveDistinctTexts, ih]

theorem hasDistinctTexts_mapping :
    hasDistinctTexts (.mapping entries) = true ↔
      (entries.map fun entry => entry.1.keyText).Nodup ∧
        ∀ entry ∈ entries, entry.2.hasDistinctTexts = true := by
  have values : valuesHaveDistinctTexts entries = true ↔
      ∀ entry ∈ entries, entry.2.hasDistinctTexts = true := by
    induction entries with
    | nil => simp [valuesHaveDistinctTexts]
    | cons entry rest ih => simp [valuesHaveDistinctTexts, ih]
  rw [hasDistinctTexts, Bool.and_eq_true, decide_eq_true_eq, values]

theorem isOpen_sequence :
    isOpen (.sequence items) = true ↔ ∀ item ∈ items, item.isOpen = true := by
  rw [isOpen]
  induction items with
  | nil => simp [itemsAreOpen]
  | cons item rest ih => simp [itemsAreOpen, ih]

theorem isOpen_mapping :
    isOpen (.mapping entries) = true ↔
      ∀ entry ∈ entries, entry.1.isTaggedText = false ∧ entry.2.isOpen = true := by
  rw [isOpen]
  induction entries with
  | nil => simp [entriesAreOpen]
  | cons entry rest ih => simp [entriesAreOpen, ih]

/-- Without tags, lookups are stopped nowhere. -/
theorem isOpen_of_isTagFree (tagFree : document.isTagFree = true) : document.isOpen = true := by
  induction document using memberInduction with
  | sequence items ih =>
      rw [isOpen_sequence]
      intro item member
      exact ih item member (isTagFree_sequence.mp tagFree item member)
  | mapping entries ih =>
      rw [isOpen_mapping]
      intro entry member
      rcases isTagFree_mapping.mp tagFree entry member with ⟨keyFree, valueFree⟩
      refine ⟨?_, (ih entry.1 entry.2 member).2 valueFree⟩
      cases key : entry.1 with
      | tagged name inner =>
          rw [key] at keyFree
          cases keyFree
      | _ => rfl
  | tagged name inner ih => cases tagFree
  | _ => rfl

/-! ## Entries of distinct texts -/

/-- Entries of one text are one entry. -/
theorem eq_of_keyText_eq (distinct : (entries.map fun entry => entry.1.keyText).Nodup)
    {left right : Document × Document} (leftMember : left ∈ entries)
    (rightMember : right ∈ entries) (same : left.1.keyText = right.1.keyText) : left = right :=
  List.inj_on_of_nodup_map distinct leftMember rightMember same

/-- A step addresses the entry of its text, unless the key is a text under a tag. -/
theorem addresses_keyText_iff (distinct : (entries.map fun entry => entry.1.keyText).Nodup)
    {entry : Document × Document} (member : entry ∈ entries) :
    entries.addresses entry.1.keyText entry.1 = true ↔ entry.1.isTaggedText = false := by
  rw [Mapping.addresses]
  split
  · next stringKey =>
    rcases List.any_eq_true.mp stringKey with ⟨⟨other, inner⟩, known, isField⟩
    cases other with
    | string text =>
        have sameText : entry.1.keyText = text := (eq_of_beq isField).symm
        rw [eq_of_keyText_eq distinct member known sameText]
        simp [Mapping.isField, isTaggedText, keyText]
    | _ => cases isField
  · next noStringKey =>
    have notField : Mapping.isField entry.1.keyText entry.1 = false := by
      rw [Bool.eq_false_iff]
      exact fun isField => noStringKey (List.any_eq_true.mpr ⟨entry, member, isField⟩)
    rcases entry with ⟨key, inner⟩
    cases key with
    | string text => simp [Mapping.isField, keyText] at notField
    | tagged name inner => simp [isTaggedText, isString]
    | _ => simp [isTaggedText, isString, untagged]

/-- A step finds the value of the entry of its text, unless the key is a text under a tag. -/
theorem at?_keyText_iff (distinct : (entries.map fun entry => entry.1.keyText).Nodup)
    {key : Document} (member : (key, value) ∈ entries) :
    entries.at? key.keyText = some value ↔ key.isTaggedText = false := by
  have own := addresses_keyText_iff distinct member
  constructor
  · intro found
    rcases Option.map_eq_some_iff.mp found with ⟨other, hit, -⟩
    have addressed := List.find?_some hit
    have same := eq_of_keyText_eq distinct (List.mem_of_find?_eq_some hit) member
      (keyText_of_addresses addressed)
    rw [same] at addressed
    exact own.mp addressed
  · intro plain
    cases found : entries.at? key.keyText with
    | none =>
        rw [Mapping.at?, Option.map_eq_none_iff, List.find?_eq_none] at found
        exact absurd (own.mpr plain) (found _ member)
    | some inner =>
        rcases mem_of_at? found with ⟨other, known, same⟩
        rw [(Prod.mk.inj (eq_of_keyText_eq distinct known member same)).2]

/-! ## Visited locations are found -/

/-- In an open document, a lookup finds what a path leads to. -/
theorem Holds.get?_eq (holds : document.Holds path value)
    (distinct : document.hasDistinctTexts = true) (isOpen : document.isOpen = true) :
    path.get? document = some value := by
  induction holds with
  | entry member =>
      have plain := (isOpen_mapping.mp isOpen _ member).1
      have found := (at?_keyText_iff (hasDistinctTexts_mapping.mp distinct).1 member).mpr plain
      rw [PathKey.ofDocument, DocPath.get?, found]
      rfl
  | item member =>
      rw [DocPath.get?, member]
      rfl
  | belowEntry member _ ih =>
      rcases hasDistinctTexts_mapping.mp distinct with ⟨texts, values⟩
      rcases isOpen_mapping.mp isOpen _ member with ⟨plain, inner⟩
      rw [PathKey.ofDocument, DocPath.get?, (at?_keyText_iff texts member).mpr plain]
      exact ih (values _ member) inner
  | belowItem member _ ih =>
      have known := List.mem_of_getElem? member
      rw [DocPath.get?, member]
      exact ih (hasDistinctTexts_sequence.mp distinct _ known) (isOpen_sequence.mp isOpen _ known)
  | tag below =>
      rcases below.mem_inside [] with ⟨above, step, -, visited⟩
      rw [Document.isOpen, List.isEmpty_iff] at isOpen
      rw [isOpen] at visited
      cases visited

/-- A document in which a lookup finds what any path leads to is open. -/
theorem isOpen_of_get?_eq (distinct : document.hasDistinctTexts = true)
    (found : ∀ path value, document.Holds path value → path.get? document = some value) :
    document.isOpen = true := by
  induction document using memberInduction with
  | sequence items ih =>
      rw [isOpen_sequence]
      intro item member
      refine ih item member (hasDistinctTexts_sequence.mp distinct item member) ?_
      intro path value holds
      rcases List.getElem?_of_mem member with ⟨position, known⟩
      have below := found _ _ (.belowItem known holds)
      rw [DocPath.get?, known] at below
      exact below
  | mapping entries ih =>
      rcases hasDistinctTexts_mapping.mp distinct with ⟨texts, values⟩
      rw [isOpen_mapping]
      rintro ⟨key, inner⟩ member
      have plain : key.isTaggedText = false := by
        have here := found _ _ (.entry member)
        rw [PathKey.ofDocument, DocPath.get?] at here
        split at here
        · next other hit =>
          obtain rfl : other = inner := by simpa [DocPath.get?] using here
          exact (at?_keyText_iff texts member).mp hit
        · cases here
      refine ⟨plain, (ih key inner member).2 (values _ member) ?_⟩
      intro path value holds
      have below := found _ _ (.belowEntry member holds)
      rw [PathKey.ofDocument, DocPath.get?, (at?_keyText_iff texts member).mpr plain] at below
      exact below
  | tagged name inner _ =>
      rw [isOpen, List.isEmpty_iff, List.eq_nil_iff_forall_not_mem]
      intro location visited
      rcases holds_of_mem_inside visited with ⟨above, step, -, -, holds⟩
      have below := found _ _ (.tag holds)
      rcases List.exists_cons_of_ne_nil holds.ne_nil with ⟨first, rest, parts⟩
      rw [parts] at below
      cases first <;> cases below
  | _ => rfl

/-! ## No path is visited twice -/

theorem exists_path_of_mem_inside {base : DocPath} {location : Location}
    (visited : location ∈ inside base document) :
    ∃ rest, rest ≠ [] ∧ location.path = base ++ rest := by
  rcases holds_of_mem_inside visited with ⟨above, step, container, last, -⟩
  refine ⟨above ++ [step], by simp, ?_⟩
  rw [Location.path, last, container]
  exact List.append_assoc base above [step]

/-- At an entry or item and in it, only paths through its step are visited. -/
theorem exists_path_of_mem_step {base : DocPath} {step : PathKey} {location : Location}
    (visited : location = ⟨base, some step, value⟩ ∨
      location ∈ inside (base.child step) value) :
    ∃ rest, location.path = base ++ step :: rest := by
  rcases visited with rfl | below
  · exact ⟨[], rfl⟩
  · rcases exists_path_of_mem_inside below with ⟨rest, -, path⟩
    exact ⟨rest, by rw [path, DocPath.child, List.append_assoc, List.singleton_append]⟩

/-- The paths of an entry or item at a step and of what lies in it, each once. -/
theorem nodup_paths_step {base : DocPath} {step : PathKey} {others : List Location}
    (within : ((inside (base.child step) value).map Location.path).Nodup)
    (later : (others.map Location.path).Nodup)
    (apart : ∀ location ∈ others, ∃ other rest, other ≠ step ∧
      location.path = base ++ other :: rest) :
    ((⟨base, some step, value⟩ :: (inside (base.child step) value ++ others)).map
      Location.path).Nodup := by
  have separate {location : Location} (member : location ∈ others) (rest : DocPath) :
      location.path ≠ base ++ step :: rest := by
    rcases apart location member with ⟨other, below, different, path⟩
    rw [path]
    intro same
    exact different (List.cons.inj (List.append_cancel_left same)).1
  have own : Location.path ⟨base, some step, value⟩ = base ++ [step] := rfl
  rw [List.map_cons, List.map_append, own, List.nodup_cons, List.nodup_append]
  refine ⟨?_, within, later, ?_⟩
  · rw [List.mem_append, not_or]
    constructor
    · intro member
      rcases List.mem_map.mp member with ⟨location, visited, same⟩
      rcases exists_path_of_mem_inside visited with ⟨rest, further, path⟩
      rw [path, DocPath.child] at same
      exact further (List.append_right_eq_self.mp same)
    · intro member
      rcases List.mem_map.mp member with ⟨location, visited, same⟩
      exact separate visited [] same
  · rintro _ inner _ other rfl
    rcases List.mem_map.mp inner with ⟨location, visited, path⟩
    rcases List.mem_map.mp other with ⟨later, member, same⟩
    rcases exists_path_of_mem_inside visited with ⟨rest, -, below⟩
    refine separate member rest ?_
    rw [same, ← path, below, DocPath.child, List.append_assoc, List.singleton_append]

theorem nodup_paths_insideEntries {base : DocPath}
    (distinct : (entries.map fun entry => entry.1.keyText).Nodup)
    (each : ∀ entry ∈ entries, ∀ base, ((inside base entry.2).map Location.path).Nodup) :
    ((insideEntries base entries).map Location.path).Nodup := by
  induction entries with
  | nil => exact List.nodup_nil
  | cons entry rest ih =>
      rcases entry with ⟨key, value⟩
      rcases List.nodup_cons.mp distinct with ⟨fresh, restDistinct⟩
      rw [insideEntries]
      refine nodup_paths_step (each _ List.mem_cons_self _)
        (ih restDistinct fun entry member => each entry (List.mem_cons_of_mem _ member)) ?_
      intro location visited
      rcases mem_insideEntries_iff.mp visited with ⟨other, inner, member, here⟩
      have different : PathKey.ofDocument other ≠ PathKey.ofDocument key := by
        intro same
        exact fresh (List.mem_map.mpr ⟨_, member, PathKey.key.inj same⟩)
      rcases exists_path_of_mem_step here with ⟨below, path⟩
      exact ⟨_, below, different, path⟩

theorem nodup_paths_insideItems {base : DocPath} {first : Nat}
    (each : ∀ item ∈ items, ∀ base, ((inside base item).map Location.path).Nodup) :
    ((insideItems base first items).map Location.path).Nodup := by
  induction items generalizing first with
  | nil => exact List.nodup_nil
  | cons item rest ih =>
      rw [insideItems]
      refine nodup_paths_step (each _ List.mem_cons_self _)
        (ih fun item member => each item (List.mem_cons_of_mem _ member)) ?_
      intro location visited
      rcases mem_insideItems_iff.mp visited with ⟨position, inner, -, here⟩
      have different : PathKey.index (first + 1 + position) ≠ PathKey.index first := by
        intro same
        have := PathKey.index.inj same
        omega
      rcases exists_path_of_mem_step here with ⟨below, path⟩
      exact ⟨_, below, different, path⟩

theorem nodup_paths_inside (distinct : document.hasDistinctTexts = true) (base : DocPath) :
    ((inside base document).map Location.path).Nodup := by
  induction document using memberInduction generalizing base with
  | sequence items ih =>
      exact nodup_paths_insideItems fun item member =>
        ih item member (hasDistinctTexts_sequence.mp distinct item member)
  | mapping entries ih =>
      rcases hasDistinctTexts_mapping.mp distinct with ⟨texts, values⟩
      exact nodup_paths_insideEntries texts fun entry member =>
        (ih entry.1 entry.2 member).2 (values entry member)
  | tagged name inner ih => exact ih distinct base
  | _ => exact List.nodup_nil

/-- The walk visits no path twice. -/
theorem nodup_paths_walk (distinct : document.hasDistinctTexts = true) :
    (document.walk.map Location.path).Nodup := by
  rw [walk, List.map_cons, List.nodup_cons]
  refine ⟨?_, nodup_paths_inside distinct []⟩
  intro member
  rcases List.mem_map.mp member with ⟨location, visited, root⟩
  rcases exists_path_of_mem_inside visited with ⟨rest, further, path⟩
  exact further (path.symm.trans root)

/-- A visited path is visited once. -/
theorem filter_walk_eq (distinct : document.hasDistinctTexts = true) {location : Location}
    (visited : location ∈ document.walk) :
    document.walk.filter (fun other => other.path == location.path) = [location] := by
  have paths := nodup_paths_walk distinct
  have each := (List.Nodup.of_map Location.path paths).filter
    fun other => other.path == location.path
  refine List.perm_singleton.mp
    ((List.perm_ext_iff_of_nodup each (List.nodup_singleton location)).mpr fun other => ?_)
  rw [List.mem_filter, List.mem_singleton]
  constructor
  · rintro ⟨member, same⟩
    exact List.inj_on_of_nodup_map paths member visited (eq_of_beq same)
  · rintro rfl
    exact ⟨visited, beq_self_eq_true _⟩

/-- A location below the root that a path leads to is visited. -/
theorem Holds.exists_mem_walk (holds : document.Holds path value) :
    ∃ location ∈ document.walk, location.path = path ∧ location.value = value := by
  rcases holds.mem_inside [] with ⟨above, step, parts, visited⟩
  exact ⟨_, List.mem_cons_of_mem _ visited, parts.symm, rfl⟩

/--
Lookups find every visited location exactly in an open document, and what a lookup finds below
the root is visited once, with the value that was found.
-/
theorem walk_found_iff_isOpen (document : Document)
    (distinct : document.hasDistinctTexts = true) :
    ((∀ location ∈ document.walk, ∀ step, location.key = some step →
        (location.container.child step).get? document = some location.value) ↔
      document.isOpen = true) ∧
    ∀ path value, path ≠ [] → DocPath.get? path document = some value →
      ∃ location,
        document.walk.filter (fun location => location.path == path) = [location] ∧
          location.value = value := by
  refine ⟨⟨fun found => ?_, fun isOpen location visited step last => ?_⟩, ?_⟩
  · refine isOpen_of_get?_eq distinct fun path value holds => ?_
    rcases holds.mem_inside [] with ⟨above, step, rfl, visited⟩
    exact found _ (List.mem_cons_of_mem _ visited) step rfl
  · rcases mem_walk_iff.mp visited with rfl | ⟨other, key, holds⟩
    · cases last
    · obtain rfl : other = step := Option.some.inj (key.symm.trans last)
      exact holds.get?_eq distinct isOpen
  · intro path value notRoot found
    rcases (holds_of_get? found notRoot).exists_mem_walk with ⟨location, visited, rfl, carried⟩
    exact ⟨location, filter_walk_eq distinct visited, carried⟩

/-- A mapping under a tag, beside keys that are no texts. -/
def labelledDocument : Document :=
  .mapping
    [ (.ofInt64 1, .sequence [.bool true, .mapping [(.null, .string "none")]]),
      (.string "sealed", .tagged "part" (.mapping [(.string "inner", .ofInt64 5)])) ]

theorem walk_found_iff_isOpen_labelled :
    labelledDocument.hasDistinctTexts = true ∧
    ((∀ location ∈ labelledDocument.walk, ∀ step, location.key = some step →
        (location.container.child step).get? labelledDocument = some location.value) ↔
      labelledDocument.isOpen = true) ∧
    ∃ location,
      labelledDocument.walk.filter (fun location =>
          location.path == [.key "1", .index 1, .key "null"]) = [location] ∧
        location.value = .string "none" := by
  have distinct : labelledDocument.hasDistinctTexts = true := by decide +kernel
  rcases walk_found_iff_isOpen labelledDocument distinct with ⟨found, visited⟩
  exact ⟨distinct, found, visited _ _ (by simp) (by rfl)⟩

/-- What a tagged mapping holds is visited, and no lookup finds it. -/
theorem walk_not_found_labelled :
    labelledDocument.hasDistinctTexts = true ∧
      (⟨[.key "sealed"], some (.key "inner"), .ofInt64 5⟩ : Location) ∈ labelledDocument.walk ∧
      DocPath.get? (DocPath.child [.key "sealed"] (.key "inner")) labelledDocument = none := by
  refine ⟨by decide +kernel, mem_walk_iff.mpr (.inr ⟨.key "inner", rfl, ?_⟩), rfl⟩
  exact .belowEntry (.tail _ (.head _)) (.tag (.entry (.head _)))

end Document

end RuleSchema
