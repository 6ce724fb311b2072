import RuleSchema.Proofs.Level.Collecting
import RuleSchema.Proofs.Rule.Structure

/-!
# Rules as records of records

Rules that compile are tidy: a mapping without a `type` is a record, whose fields have distinct
names, and a mapping with one is a leaf.  In tidy rules a path of fields leads to one value,
which a lookup finds; every node is at such a path or lies in a leaf.
-/

namespace RuleSchema.Rule

/-- A key that a lookup finds by its text: a string without tags, or no string. -/
def IsAddressable (key : Document) : Prop := key.isString = true → ∃ text, key = .string text

/-- Rules that are leaves, or records of such rules under distinct and addressable keys. -/
inductive IsTidy : Document → Prop where
  | leaf {value : Document} (typed : describesValue value = true) : IsTidy value
  | record {entries : Mapping} (untyped : entries.hasField "type" = false)
      (distinct : (Level.fieldNames entries).Nodup)
      (addressable : ∀ entry ∈ entries, isReservedText entry.1.keyText = false →
        IsAddressable entry.1)
      (each : ∀ entry ∈ entries, isReservedText entry.1.keyText = false → IsTidy entry.2) :
      IsTidy (.mapping entries)

/-- A path of fields leads from a value through records to another value. -/
inductive Leads : Document → DocPath → Document → Prop where
  | here {value : Document} : Leads value [] value
  | field {entries : Mapping} {key inner value : Document} {path : DocPath}
      (untyped : entries.hasField "type" = false) (member : (key, inner) ∈ entries)
      (free : isReservedText key.keyText = false) (below : Leads inner path value) :
      Leads (.mapping entries) (PathKey.ofDocument key :: path) value

variable {rules value other : Document} {entries : Mapping} {path above below : DocPath}

/-! ## Paths of fields -/

theorem describesValue_mapping : describesValue (.mapping entries) = entries.hasField "type" := rfl

theorem IsTidy.fields (tidy : IsTidy (.mapping entries))
    (untyped : entries.hasField "type" = false) :
    (Level.fieldNames entries).Nodup ∧
      ∀ entry ∈ entries, isReservedText entry.1.keyText = false →
        IsAddressable entry.1 ∧ IsTidy entry.2 := by
  cases tidy with
  | leaf typed =>
      rw [describesValue_mapping, untyped] at typed
      cases typed
  | record _ distinct addressable each =>
      exact ⟨distinct, fun entry member free => ⟨addressable entry member free,
        each entry member free⟩⟩

theorem IsTidy.eq_mapping (tidy : IsTidy value) (untyped : describesValue value = false) :
    ∃ entries, value = .mapping entries ∧ Mapping.hasField entries "type" = false := by
  cases tidy with
  | leaf typed =>
      rw [untyped] at typed
      cases typed
  | @record entries untyped _ _ _ => exact ⟨entries, rfl, untyped⟩

theorem leads_nil_iff : Leads rules [] value ↔ rules = value := by
  constructor
  · intro leads
    cases leads
    rfl
  · rintro rfl
    exact .here

/-- A path leads on from a record by way of one of its fields. -/
theorem leads_cons_iff {step : PathKey} :
    Leads rules (step :: path) value ↔
      ∃ entries key inner, rules = .mapping entries ∧ Mapping.hasField entries "type" = false ∧
        (key, inner) ∈ entries ∧ isReservedText key.keyText = false ∧
        step = PathKey.ofDocument key ∧ Leads inner path value := by
  constructor
  · intro leads
    cases leads with
    | field untyped member free below => exact ⟨_, _, _, rfl, untyped, member, free, rfl, below⟩
  · rintro ⟨entries, key, inner, rfl, untyped, member, free, rfl, below⟩
    exact .field untyped member free below

theorem Leads.isTidy (leads : Leads rules path value) (tidy : IsTidy rules) : IsTidy value := by
  induction leads with
  | here => exact tidy
  | field untyped member free _ ih => exact ih ((tidy.fields untyped).2 _ member free).2

theorem Leads.isFree (leads : Leads rules path value) : IsFree path := by
  induction leads with
  | here => exact fun step member => absurd member List.not_mem_nil
  | field _ _ free _ ih =>
      intro step member
      rcases List.mem_cons.mp member with rfl | later
      · exact free
      · exact ih step later

theorem Leads.holds (leads : Leads rules path value) (notRoot : path ≠ []) :
    rules.Holds path value := by
  induction leads with
  | here => exact absurd rfl notRoot
  | @field entries key inner value path _ member _ leads ih =>
      by_cases last : path = []
      · subst last
        cases leads
        exact .entry member
      · exact .belowEntry member (ih last)

theorem Leads.split (leads : Leads rules (above ++ below) other) :
    ∃ value, Leads rules above value ∧ Leads value below other := by
  induction above generalizing rules with
  | nil => exact ⟨rules, .here, leads⟩
  | cons step rest ih =>
      cases leads with
      | field untyped member free lower =>
          rcases ih lower with ⟨value, upper, last⟩
          exact ⟨value, .field untyped member free upper, last⟩

theorem Leads.append (leads : Leads rules above value) (onward : Leads value below other) :
    Leads rules (above ++ below) other := by
  induction leads with
  | here => exact onward
  | field untyped member free _ ih => exact .field untyped member free (ih onward)

/-- No path of fields goes on from a leaf. -/
theorem Leads.eq_nil_of_typed (leads : Leads rules path value)
    (typed : describesValue rules = true) : path = [] := by
  cases leads with
  | here => rfl
  | field untyped member free below =>
      rw [describesValue_mapping, untyped] at typed
      cases typed

/-- A text that is not reserved addresses the key that has it. -/
theorem addresses_eq (distinct : (Level.fieldNames entries).Nodup)
    (addressable : ∀ entry ∈ entries, isReservedText entry.1.keyText = false →
      IsAddressable entry.1) {text : String} (free : isReservedText text = false)
    {entry : Document × Document} (member : entry ∈ entries) :
    entries.addresses text entry.1 = (entry.1.keyText == text) := by
  rw [Bool.eq_iff_iff, beq_iff_eq]
  refine ⟨Document.keyText_of_addresses, fun same => ?_⟩
  have ownFree : isReservedText entry.1.keyText = false := same ▸ free
  rw [Mapping.addresses]
  split
  · next stringKey =>
    rcases List.any_eq_true.mp stringKey with ⟨⟨other, _⟩, known, isField⟩
    cases other with
    | string spelled =>
        have sameText : entry.1.keyText = spelled := same.trans (eq_of_beq isField).symm
        rw [Level.eq_of_keyText_eq distinct member known ownFree sameText]
        exact isField
    | _ => cases isField
  · next noStringKey =>
    have notString : entry.1.isString = false := by
      rw [Bool.eq_false_iff]
      intro isString
      rcases addressable entry member ownFree isString with ⟨spelled, isText⟩
      refine noStringKey (List.any_eq_true.mpr ⟨entry, member, ?_⟩)
      rw [isText] at same ⊢
      exact beq_of_eq same
    rw [notString, same]
    exact beq_self_eq_true text

/-- The addressed entry of a field is its only entry. -/
theorem at?_of_mem (distinct : (Level.fieldNames entries).Nodup)
    (addressable : ∀ entry ∈ entries, isReservedText entry.1.keyText = false →
      IsAddressable entry.1) {key : Document} (member : (key, value) ∈ entries)
    (free : isReservedText key.keyText = false) :
    entries.at? key.keyText = some value := by
  have addressed := addresses_eq distinct addressable free member
  cases found : entries.at? key.keyText with
  | none =>
      rw [Mapping.at?, Option.map_eq_none_iff, List.find?_eq_none] at found
      exact absurd (addressed.trans (beq_self_eq_true key.keyText)) (found _ member)
  | some inner =>
      rcases Document.mem_of_at? found with ⟨other, known, same⟩
      have only := Level.eq_of_keyText_eq distinct member known free same.symm
      rw [(Prod.mk.inj only).2]

/-- A lookup finds what a path of fields leads to. -/
theorem Leads.get?_eq (leads : Leads rules path value) (tidy : IsTidy rules) :
    path.get? rules = some value := by
  induction leads with
  | here => rfl
  | field untyped member free _ ih =>
      rcases tidy.fields untyped with ⟨distinct, each⟩
      have addressable := fun entry known free => (each entry known free).1
      have hit := at?_of_mem distinct addressable member free
      rw [PathKey.ofDocument, DocPath.get?, hit]
      exact ih (each _ member free).2

theorem Leads.unique (leads : Leads rules path value) (tidy : IsTidy rules)
    (again : Leads rules path other) : value = other := by
  have same := (leads.get?_eq tidy).symm.trans (again.get?_eq tidy)
  exact Option.some.inj same

/-- Every node of tidy rules is at a path of fields, or in a leaf at one. -/
theorem IsTidy.leads_of_holds (tidy : IsTidy rules) (holds : rules.Holds path value)
    (free : IsFree path) :
    Leads rules path value ∨
      ∃ above below leaf, path = above ++ below ∧ below ≠ [] ∧ Leads rules above leaf ∧
        describesValue leaf = true ∧ leaf.Holds below value := by
  induction tidy generalizing path with
  | @leaf whole typed => exact .inr ⟨[], path, whole, rfl, holds.ne_nil, .here, typed, holds⟩
  | record untyped distinct addressable each ih =>
      cases holds with
      | entry member => exact .inl (.field untyped member (free _ List.mem_cons_self) .here)
      | @belowEntry _ key inner _ path member lower =>
          have keyFree : isReservedText key.keyText = false := free _ List.mem_cons_self
          rcases ih _ member keyFree lower free.of_cons with leads |
            ⟨above, below, leaf, rfl, notEmpty, leads, typed, inLeaf⟩
          · exact .inl (.field untyped member keyFree leads)
          · exact .inr ⟨PathKey.ofDocument key :: above, below, leaf, rfl, notEmpty,
              .field untyped member keyFree leads, typed, inLeaf⟩

/-! ## Leaves and branches of tidy rules -/

theorem Leads.mem_leaves (leads : Leads rules path value) (notRoot : path ≠ [])
    (typed : describesValue value = true) : path ∈ leaves rules := by
  rw [Rule.mem_leaves, mem_leafPaths_iff]
  exact ⟨leads.isFree, value, leads.holds notRoot, typed⟩

theorem Leads.ne_nil_of_typed (leads : Leads rules path value) (root : describesValue rules = false)
    (typed : describesValue value = true) : path ≠ [] := by
  rintro rfl
  rw [leads_nil_iff.mp leads, typed] at root
  cases root

/-- What lies in a leaf has that leaf above it. -/
theorem Leads.hasLeafAncestor (leads : Leads rules above value)
    (root : describesValue rules = false) (typed : describesValue value = true)
    (further : below ≠ []) : hasLeafAncestor (leaves rules) (above ++ below) = true :=
  hasLeafAncestor_iff.mpr ⟨above, leads.mem_leaves (leads.ne_nil_of_typed root typed) typed,
    DocPath.isAncestorOf_iff.mpr ⟨below, further, rfl⟩⟩

/-- A node that lies in no leaf is at a path of fields. -/
theorem IsTidy.leads_of_not_in_leaf (tidy : IsTidy rules) (root : describesValue rules = false)
    (holds : rules.Holds path value) (free : IsFree path)
    (notInLeaf : Rule.hasLeafAncestor (leaves rules) path = false) : Leads rules path value := by
  rcases tidy.leads_of_holds holds free with
    leads | ⟨above, below, outer, rfl, further, toOuter, typed, -⟩
  · exact leads
  · rw [toOuter.hasLeafAncestor root typed further] at notInLeaf
    cases notInLeaf

/-- A leaf is at a path of fields, or in a leaf at one. -/
theorem IsTidy.leads_of_mem_leaves (tidy : IsTidy rules) (leaf : path ∈ leaves rules) :
    (∃ value, Leads rules path value ∧ describesValue value = true) ∨
      ∃ above below leaf, path = above ++ below ∧ below ≠ [] ∧ Leads rules above leaf ∧
        describesValue leaf = true := by
  rcases mem_leafPaths_iff.mp (Rule.mem_leaves.mp leaf) with ⟨free, value, holds, typed⟩
  rcases tidy.leads_of_holds holds free with
    leads | ⟨above, below, outer, parts, further, leads, isLeaf, -⟩
  · exact .inl ⟨value, leads, typed⟩
  · exact .inr ⟨above, below, outer, parts, further, leads, isLeaf⟩

/-- No leaf is at a record or above one. -/
theorem IsTidy.not_leaf_of_leads (tidy : IsTidy rules) (leads : Leads rules (above ++ below) value)
    (untyped : describesValue value = false) : above ∉ leaves rules := by
  have typedEnds {first rest : DocPath} {leaf : Document} (parts : above ++ below = first ++ rest)
      (toLeaf : Leads rules first leaf) (typed : describesValue leaf = true) : False := by
    rw [parts] at leads
    rcases leads.split with ⟨middle, upper, lower⟩
    rw [upper.unique tidy toLeaf] at lower
    obtain rfl := lower.eq_nil_of_typed typed
    cases lower
    rw [untyped] at typed
    cases typed
  intro leaf
  rcases tidy.leads_of_mem_leaves leaf with ⟨own, toLeaf, typed⟩ |
    ⟨first, rest, own, rfl, -, toLeaf, typed⟩
  · exact typedEnds rfl toLeaf typed
  · exact typedEnds (List.append_assoc first rest below) toLeaf typed

/-- Branches are the records below the root that have a leaf. -/
theorem IsTidy.mem_branches_iff (tidy : IsTidy rules) (root : describesValue rules = false) :
    path ∈ branches rules ↔
      path ≠ [] ∧ (∃ value, Leads rules path value ∧ describesValue value = false) ∧
        ∃ below leaf, below ≠ [] ∧ Leads rules (path ++ below) leaf ∧
          describesValue leaf = true := by
  rw [Rule.mem_branches_iff]
  constructor
  · rintro ⟨node, noLeaf, notBelow, -, leaf, isLeaf, isAbove⟩
    rcases mem_nodePaths_iff.mp node with ⟨free, value, holds⟩
    have leads := tidy.leads_of_not_in_leaf root holds free notBelow
    have untyped : describesValue value = false := by
      rw [Bool.eq_false_iff]
      exact fun typed => noLeaf (leads.mem_leaves holds.ne_nil typed)
    refine ⟨holds.ne_nil, ⟨value, leads, untyped⟩, ?_⟩
    rcases DocPath.isAncestorOf_iff.mp isAbove with ⟨below, further, rfl⟩
    rcases tidy.leads_of_mem_leaves isLeaf with
      ⟨own, toLeaf, typed⟩ | ⟨first, rest, outer, parts, -, toOuter, typed⟩
    · exact ⟨below, own, further, toLeaf, typed⟩
    · -- The leaf lies in another one, which is below the record, since it is not above it.
      rcases List.append_eq_append_iff.mp parts with ⟨between, rfl, -⟩ | ⟨between, rfl, -⟩
      · refine ⟨between, outer, ?_, toOuter, typed⟩
        rintro rfl
        rw [List.append_nil] at toOuter
        rw [leads.unique tidy toOuter, typed] at untyped
        cases untyped
      · have outerLeaf := toOuter.mem_leaves (toOuter.ne_nil_of_typed root typed) typed
        exact absurd outerLeaf (tidy.not_leaf_of_leads leads untyped)
  · rintro ⟨notRoot, ⟨value, leads, untyped⟩, below, leaf, further, toLeaf, typed⟩
    rcases (leads.isTidy tidy).eq_mapping untyped with ⟨entries, rfl, -⟩
    refine ⟨mem_nodePaths_iff.mpr ⟨leads.isFree, _, leads.holds notRoot⟩, ?_, ?_, ?_, ?_⟩
    · have whole : Leads rules (path ++ []) (.mapping entries) := by simpa using leads
      exact tidy.not_leaf_of_leads whole untyped
    · rw [Bool.eq_false_iff]
      intro higher
      rcases hasLeafAncestor_iff.mp higher with ⟨outer, isLeaf, isAbove⟩
      rcases DocPath.isAncestorOf_iff.mp isAbove with ⟨rest, -, rfl⟩
      exact tidy.not_leaf_of_leads leads untyped isLeaf
    · exact ⟨_, leads.get?_eq tidy, rfl⟩
    · exact ⟨path ++ below, toLeaf.mem_leaves (by simp [further]) typed,
        DocPath.isAncestorOf_iff.mpr ⟨below, further, rfl⟩⟩

/-- Tidy rules have an accepted structure if every record below the root has a leaf. -/
theorem IsTidy.checkStructure_eq_ok (tidy : IsTidy rules) (root : describesValue rules = false)
    (inhabited : ∀ path value, path ≠ [] → Leads rules path value →
      describesValue value = false →
        ∃ below leaf, below ≠ [] ∧ Leads rules (path ++ below) leaf ∧
          describesValue leaf = true) :
    Schema.checkStructure rules (leaves rules) (branches rules) = .ok () := by
  rw [Schema.checkStructure_eq_ok_iff]
  intro path node
  rcases mem_nodePaths_iff.mp node with ⟨free, value, holds⟩
  rcases tidy.leads_of_holds holds free with
    leads | ⟨above, below, outer, rfl, further, toOuter, typed, -⟩
  · cases typed : describesValue value with
    | true => exact .inl (leads.mem_leaves holds.ne_nil typed)
    | false =>
        refine .inr (.inl ((tidy.mem_branches_iff root).mpr ?_))
        exact ⟨holds.ne_nil, ⟨value, leads, typed⟩, inhabited path value holds.ne_nil leads typed⟩
  · exact .inr (.inr (toOuter.hasLeafAncestor root typed further))

end RuleSchema.Rule
