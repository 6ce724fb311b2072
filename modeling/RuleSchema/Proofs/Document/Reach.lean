import RuleSchema.Document.Edit
import RuleSchema.Document.Walk
import RuleSchema.Proofs.Document.Induction

/-!
# What lies below a document

`Document.Holds document path value` says that a path leads from a document down to a
value, through any entry whose key has the text of the step and through tags.  The walk
visits exactly these locations, and what a lookup finds is one of them; a lookup finds
less, since it stops at tags and takes one entry among those of one text.
-/

namespace RuleSchema

namespace Document

/-- A path, which is not empty, leads from a document to a value. -/
inductive Holds : Document → DocPath → Document → Prop where
  | entry {entries : Mapping} {key value : Document} (member : (key, value) ∈ entries) :
      Holds (.mapping entries) [PathKey.ofDocument key] value
  | item {items : List Document} {position : Nat} {value : Document}
      (member : items[position]? = some value) :
      Holds (.sequence items) [.index position] value
  | belowEntry {entries : Mapping} {key inner value : Document} {path : DocPath}
      (member : (key, inner) ∈ entries) (below : Holds inner path value) :
      Holds (.mapping entries) (PathKey.ofDocument key :: path) value
  | belowItem {items : List Document} {position : Nat} {inner value : Document}
      {path : DocPath} (member : items[position]? = some inner)
      (below : Holds inner path value) :
      Holds (.sequence items) (.index position :: path) value
  | tag {name : String} {inner value : Document} {path : DocPath}
      (below : Holds inner path value) :
      Holds (.tagged name inner) path value

namespace Holds

theorem ne_nil {document value : Document} {path : DocPath}
    (holds : Holds document path value) : path ≠ [] := by
  induction holds with
  | tag below ih => exact ih
  | _ => simp

/-- A path that leads somewhere leads through a value at each of its proper prefixes. -/
theorem split {document value : Document} {path : DocPath}
    (holds : Holds document path value) (above below : DocPath)
    (parts : path = above ++ below) (notRoot : above ≠ []) (notWhole : below ≠ []) :
    ∃ middle, Holds document above middle ∧ Holds middle below value := by
  induction holds generalizing above with
  | entry member =>
      rcases List.cons_eq_append_iff.mp parts with ⟨top, -⟩ | ⟨rest, -, none⟩
      · exact absurd top notRoot
      · exact absurd (List.append_eq_nil_iff.mp none.symm).2 notWhole
  | item member =>
      rcases List.cons_eq_append_iff.mp parts with ⟨top, -⟩ | ⟨rest, -, none⟩
      · exact absurd top notRoot
      · exact absurd (List.append_eq_nil_iff.mp none.symm).2 notWhole
  | belowEntry member lower ih =>
      rcases List.cons_eq_append_iff.mp parts with ⟨top, -⟩ | ⟨rest, rfl, onward⟩
      · exact absurd top notRoot
      · by_cases here : rest = []
        · subst here
          rw [onward] at lower
          exact ⟨_, .entry member, lower⟩
        · rcases ih rest onward here with ⟨middle, upper, last⟩
          exact ⟨middle, .belowEntry member upper, last⟩
  | belowItem member lower ih =>
      rcases List.cons_eq_append_iff.mp parts with ⟨top, -⟩ | ⟨rest, rfl, onward⟩
      · exact absurd top notRoot
      · by_cases here : rest = []
        · subst here
          rw [onward] at lower
          exact ⟨_, .item member, lower⟩
        · rcases ih rest onward here with ⟨middle, upper, last⟩
          exact ⟨middle, .belowItem member upper, last⟩
  | tag _ ih =>
      rcases ih above parts notRoot with ⟨middle, upper, last⟩
      exact ⟨middle, .tag upper, last⟩

/-- A path that leads somewhere leads to a value at each of its prefixes but the root. -/
theorem exists_at_above {document value : Document} {path above : DocPath}
    (holds : Holds document path value) (upper : above <+: path) (notRoot : above ≠ []) :
    ∃ middle, Holds document above middle := by
  rcases upper with ⟨below, rfl⟩
  by_cases whole : below = []
  · subst whole
    exact ⟨value, List.append_nil above ▸ holds⟩
  · rcases holds.split above below rfl notRoot whole with ⟨middle, here, -⟩
    exact ⟨middle, here⟩

/-- A way down goes on from where it leads to. -/
theorem trans {document middle value : Document} {above below : DocPath}
    (upper : Holds document above middle) (lower : Holds middle below value) :
    Holds document (above ++ below) value := by
  induction upper with
  | entry member => exact .belowEntry member lower
  | item member => exact .belowItem member lower
  | belowEntry member _ ih => exact .belowEntry member (ih lower)
  | belowItem member _ ih => exact .belowItem member (ih lower)
  | tag _ ih => exact .tag (ih lower)

/-- A single step into a node that is a mapping below its tags is the key of an entry. -/
theorem entry_of_asMapping? {document value : Document} {entries : Mapping} {step : PathKey}
    (mapping : document.asMapping? = some entries) :
    Holds document [step] value →
      ∃ key, (key, value) ∈ entries ∧ step = PathKey.ofDocument key := by
  induction document, mapping using asMappingInduction with
  | bare =>
      intro holds
      cases holds with
      | entry member => exact ⟨_, member, rfl⟩
      | belowEntry _ below => exact absurd rfl below.ne_nil
  | tagged name inner mapping ih =>
      intro holds
      cases holds with
      | tag below => exact ih below

/-- An entry of a node that is a mapping below its tags is led to by its key. -/
theorem of_asMapping? {document : Document} {entries : Mapping} {key value : Document}
    (mapping : document.asMapping? = some entries) (member : (key, value) ∈ entries) :
    Holds document [PathKey.ofDocument key] value := by
  induction document, mapping using asMappingInduction with
  | bare => exact .entry member
  | tagged name inner mapping ih => exact .tag ih

end Holds

/-! ## Locations of the walk -/

theorem mem_insideEntries_iff {entries : List (Document × Document)} {base : DocPath}
    {location : Location} :
    location ∈ insideEntries base entries ↔
      ∃ key value, (key, value) ∈ entries ∧
        (location = ⟨base, some (PathKey.ofDocument key), value⟩ ∨
          location ∈ inside (base.child (PathKey.ofDocument key)) value) := by
  induction entries with
  | nil => simp [insideEntries]
  | cons entry rest ih =>
      rcases entry with ⟨key, value⟩
      simp only [insideEntries, List.mem_cons, List.mem_append, ih]
      constructor
      · rintro (here | below | ⟨otherKey, other, member, found⟩)
        · exact ⟨key, value, .inl rfl, .inl here⟩
        · exact ⟨key, value, .inl rfl, .inr below⟩
        · exact ⟨otherKey, other, .inr member, found⟩
      · rintro ⟨otherKey, other, same | member, found⟩
        · rcases Prod.mk.inj same with ⟨rfl, rfl⟩
          rcases found with here | below
          · exact .inl here
          · exact .inr (.inl below)
        · exact .inr (.inr ⟨otherKey, other, member, found⟩)

theorem mem_insideItems_iff {items : List Document} {base : DocPath} {first : Nat}
    {location : Location} :
    location ∈ insideItems base first items ↔
      ∃ position item, items[position]? = some item ∧
        (location = ⟨base, some (.index (first + position)), item⟩ ∨
          location ∈ inside (base.child (.index (first + position))) item) := by
  induction items generalizing first with
  | nil => simp [insideItems]
  | cons head rest ih =>
      simp only [insideItems, List.mem_cons, List.mem_append, ih]
      constructor
      · rintro (here | below | ⟨position, item, member, found⟩)
        · exact ⟨0, head, rfl, .inl here⟩
        · exact ⟨0, head, rfl, .inr below⟩
        · refine ⟨position + 1, item, member, ?_⟩
          rw [Nat.add_comm position 1, ← Nat.add_assoc]
          exact found
      · rintro ⟨position, item, member, found⟩
        cases position with
        | zero =>
            obtain rfl : head = item := by simpa using member
            rcases found with here | below
            · exact .inl here
            · exact .inr (.inl below)
        | succ position =>
            refine .inr (.inr ⟨position, item, member, ?_⟩)
            rw [Nat.add_assoc, Nat.add_comm 1 position]
            exact found

/-- Every location visited below a document is one that a path leads to. -/
theorem holds_of_mem_inside {document : Document} {base : DocPath} {location : Location}
    (visited : location ∈ inside base document) :
    ∃ above step, location.container = base ++ above ∧ location.key = some step ∧
      Holds document (above ++ [step]) location.value := by
  induction document using memberInduction generalizing base with
  | sequence items ih =>
      rw [inside, mem_insideItems_iff] at visited
      rcases visited with ⟨position, item, member, found⟩
      rw [Nat.zero_add] at found
      rcases found with rfl | below
      · exact ⟨[], .index position, by simp, rfl, .item member⟩
      · rcases ih item (List.mem_of_getElem? member) below with
          ⟨above, step, container, last, lower⟩
        refine ⟨.index position :: above, step, ?_, last, .belowItem member lower⟩
        simp [container, DocPath.child]
  | mapping entries ih =>
      rw [inside, mem_insideEntries_iff] at visited
      rcases visited with ⟨key, value, member, found⟩
      rcases found with rfl | below
      · exact ⟨[], PathKey.ofDocument key, by simp, rfl, .entry member⟩
      · rcases (ih key value member).2 below with ⟨above, step, container, last, lower⟩
        refine ⟨PathKey.ofDocument key :: above, step, ?_, last, .belowEntry member lower⟩
        simp [container, DocPath.child]
  | tagged name inner ih =>
      rcases ih visited with ⟨above, step, container, last, lower⟩
      exact ⟨above, step, container, last, .tag lower⟩
  | _ => simp [inside] at visited

/-- A location that a path leads to is visited below the document. -/
theorem Holds.mem_inside {document value : Document} {path : DocPath}
    (holds : Holds document path value) (base : DocPath) :
    ∃ above step, path = above ++ [step] ∧
      ⟨base ++ above, some step, value⟩ ∈ inside base document := by
  induction holds generalizing base with
  | @entry entries key value member =>
      refine ⟨[], PathKey.ofDocument key, rfl, ?_⟩
      rw [inside, mem_insideEntries_iff]
      exact ⟨key, value, member, .inl (by simp)⟩
  | @item items position value member =>
      refine ⟨[], .index position, rfl, ?_⟩
      rw [inside, mem_insideItems_iff]
      exact ⟨position, value, member, .inl (by simp)⟩
  | @belowEntry entries key inner value path member below ih =>
      rcases ih (base.child (PathKey.ofDocument key)) with ⟨above, step, parts, visited⟩
      refine ⟨PathKey.ofDocument key :: above, step, by simp [parts], ?_⟩
      rw [inside, mem_insideEntries_iff]
      exact ⟨key, inner, member, .inr (by simpa [DocPath.child] using visited)⟩
  | @belowItem items position inner value path member below ih =>
      rcases ih (base.child (.index position)) with ⟨above, step, parts, visited⟩
      refine ⟨.index position :: above, step, by simp [parts], ?_⟩
      rw [inside, mem_insideItems_iff]
      exact ⟨position, inner, member, .inr (by simpa [DocPath.child] using visited)⟩
  | tag _ ih => exact ih base

/-- The walk visits the root, and each location that a path leads to. -/
theorem mem_walk_iff {document : Document} {location : Location} :
    location ∈ document.walk ↔
      location = ⟨[], none, document⟩ ∨
        ∃ step, location.key = some step ∧
          Holds document (location.container.child step) location.value := by
  rw [walk, List.mem_cons]
  constructor
  · rintro (root | visited)
    · exact .inl root
    · rcases holds_of_mem_inside visited with ⟨above, step, container, last, holds⟩
      refine .inr ⟨step, last, ?_⟩
      rw [container]
      exact holds
  · rintro (root | ⟨step, last, holds⟩)
    · exact .inl root
    · rcases holds.mem_inside [] with ⟨above, other, parts, visited⟩
      rcases List.append_inj' parts rfl with ⟨container, key⟩
      rcases location with ⟨own, stepAt, value⟩
      simp only at container key last visited
      obtain rfl : step = other := by simpa using key
      subst container last
      exact .inr (by simpa using visited)

/-- The path of a visited location leads to its value, unless the location is the root. -/
theorem holds_of_mem_walk {document : Document} {location : Location}
    (visited : location ∈ document.walk) (notRoot : location.path ≠ []) :
    Holds document location.path location.value := by
  rcases mem_walk_iff.mp visited with rfl | ⟨step, last, holds⟩
  · exact absurd rfl notRoot
  · rw [Location.path, last]
    exact holds

/-! ## Lookups -/

/-- The entry that a step addresses has the text of the step. -/
theorem keyText_of_addresses {entries : Mapping} {text : String} {key : Document}
    (addressed : entries.addresses text key = true) : key.keyText = text := by
  unfold Mapping.addresses at addressed
  split at addressed
  · cases key with
    | string own => simpa [Mapping.isField, keyText] using addressed
    | _ => simp [Mapping.isField] at addressed
  · simp only [Bool.and_eq_true, beq_iff_eq] at addressed
    exact addressed.2

/-- What a step finds in a mapping is the value of an entry with the text of the step. -/
theorem mem_of_at? {entries : Mapping} {text : String} {value : Document}
    (found : entries.at? text = some value) :
    ∃ key, (key, value) ∈ entries ∧ key.keyText = text := by
  rcases Option.map_eq_some_iff.mp found with ⟨entry, hit, rfl⟩
  have addressed := List.find?_some hit
  exact ⟨entry.1, List.mem_of_find?_eq_some hit, keyText_of_addresses addressed⟩

/-- A lookup below the root finds what its path leads to. -/
theorem holds_of_get? {document value : Document} {path : DocPath}
    (found : path.get? document = some value) (notRoot : path ≠ []) :
    Holds document path value := by
  induction path generalizing document with
  | nil => exact absurd rfl notRoot
  | cons step rest ih =>
      cases step with
      | key text =>
          cases document with
          | mapping entries =>
              rw [DocPath.get?] at found
              split at found
              · next inner hit =>
                rcases mem_of_at? hit with ⟨key, member, rfl⟩
                cases rest with
                | nil =>
                    obtain rfl : inner = value := by simpa [DocPath.get?] using found
                    exact .entry member
                | cons next rest => exact .belowEntry member (ih found (by simp))
              · simp at found
          | _ => simp [DocPath.get?] at found
      | index position =>
          cases document with
          | sequence items =>
              rw [DocPath.get?] at found
              split at found
              · next inner hit =>
                cases rest with
                | nil =>
                    obtain rfl : inner = value := by simpa [DocPath.get?] using found
                    exact .item hit
                | cons next rest => exact .belowItem hit (ih found (by simp))
              · simp at found
          | _ => simp [DocPath.get?] at found

/-- One step below a mapping that a lookup finds, a path leads to the value of an entry. -/
theorem holds_child_of_get? {document node : Document} {path : DocPath} {entries : Mapping}
    {key value : Document} (found : path.get? document = some node)
    (mapping : node.asMapping? = some entries) (member : (key, value) ∈ entries) :
    Holds document (path.child (PathKey.ofDocument key)) value := by
  have here : Holds node [PathKey.ofDocument key] value := .of_asMapping? mapping member
  by_cases root : path = []
  · subst root
    obtain rfl : document = node := by simpa [DocPath.get?] using found
    exact here
  · exact (holds_of_get? found root).trans here

end Document

/-- A lookup goes on from what it found so far. -/
theorem DocPath.get?_append (above below : DocPath) (document : Document) :
    DocPath.get? (above ++ below) document =
      (DocPath.get? above document).bind (DocPath.get? below) := by
  induction above generalizing document with
  | nil => simp [get?]
  | cons step rest ih =>
      cases step <;> cases document <;> simp only [List.cons_append, get?, Option.bind_none]
      all_goals
        split
        · exact ih _
        · rfl

end RuleSchema
