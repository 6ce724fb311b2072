import RuleSchema.Proofs.Document.Changes
import RuleSchema.Proofs.Rule.Pruning
import RuleSchema.Proofs.Rule.Records

/-!
# Rules with one leaf changed

Two leaves are twins if they have the same values under reserved keys; setting a key that is not
reserved makes a twin of a leaf.  Rules in which a leaf is changed to a twin have the same
records and the same leaves at the same paths, except for leaves inside the changed one.
-/

namespace RuleSchema

/-- The document with a value set under a key, below any tags. -/
def Document.setEntry : Document → Document → Document → Document
  | .mapping entries, key, value => .mapping (Mapping.insert entries key value)
  | .tagged name inner, key, value => .tagged name (setEntry inner key value)
  | document, _, _ => document

namespace Rule

/-! ## Twins -/

/-- Mappings that state the same under each reserved key. -/
def SameReserved (entries others : Mapping) : Prop :=
  ∀ name, isReservedText name = true → entries.field? name = others.field? name

/-- Two leaves with the same values under reserved keys. -/
def AreTwins (old new : Document) : Prop :=
  ∃ entries others, old.asMapping? = some entries ∧ new.asMapping? = some others ∧
    SameReserved entries others ∧ entries.hasField "type" = true

variable {old new before after value : Document} {entries others : Mapping}
  {path place : DocPath}

theorem SameReserved.hasField (same : SameReserved entries others) :
    entries.hasField "type" = others.hasField "type" := by
  rw [hasField_eq_isSome, hasField_eq_isSome, same "type" (by decide)]

theorem AreTwins.symm (twins : AreTwins old new) : AreTwins new old := by
  rcases twins with ⟨entries, others, first, second, same, typed⟩
  exact ⟨others, entries, second, first, fun name reserved => (same name reserved).symm,
    same.hasField ▸ typed⟩

theorem AreTwins.typed (twins : AreTwins old new) : describesValue old = true := by
  rcases twins with ⟨entries, _, mapping, _, _, typed⟩
  rw [describesValue, mapping]
  exact typed

theorem isField_of_reserved {name : String} {key : Document}
    (extra : isReservedText key.keyText = false) (reserved : isReservedText name = true) :
    Mapping.isField name key = false := by
  rw [Bool.eq_false_iff]
  intro isField
  rw [keyText_of_isField isField, reserved] at extra
  cases extra

theorem isField_of_beq {name : String} {key other : Document} (equal : key.beq other = true)
    (isField : Mapping.isField name other = true) : Mapping.isField name key = true := by
  cases other with
  | string text =>
      cases key with
      | string own => exact eq_of_beq equal ▸ isField
      | _ => cases equal
  | _ => cases isField

theorem field?_insert {name : String} {key : Document}
    (extra : isReservedText key.keyText = false) (reserved : isReservedText name = true) :
    (entries.insert key value).field? name = entries.field? name := by
  have own := isField_of_reserved extra reserved
  induction entries with
  | nil => simp [Mapping.insert, Mapping.field?, own]
  | cons entry rest ih =>
      rw [Mapping.insert]
      split
      · next equal =>
        have notHere : Mapping.isField name entry.1 = false := by
          rw [Bool.eq_false_iff] at own ⊢
          exact fun isField => own (isField_of_beq equal isField)
        simp [Mapping.field?, notHere]
      · rw [Mapping.field?, Mapping.field?, List.find?_cons, List.find?_cons]
        split
        · rfl
        · exact ih

theorem asMapping?_setEntry {leaf key : Document} (mapping : leaf.asMapping? = some entries) :
    (leaf.setEntry key value).asMapping? = some (entries.insert key value) := by
  induction leaf, mapping using Document.asMappingInduction with
  | bare => rfl
  | tagged name inner mapping ih => exact ih

theorem areTwins_setEntry {leaf key : Document} (typed : describesValue leaf = true)
    (extra : isReservedText key.keyText = false) : AreTwins leaf (leaf.setEntry key value) := by
  rw [describesValue] at typed
  cases mapping : leaf.asMapping? with
  | none =>
      rw [mapping] at typed
      cases typed
  | some entries =>
      rw [mapping] at typed
      exact ⟨entries, _, mapping, asMapping?_setEntry mapping,
        fun name reserved => (field?_insert extra reserved).symm, typed⟩

theorem sameReserved_changed (front back : Mapping) {key : Document} (before after : Document)
    (extra : isReservedText key.keyText = false) :
    SameReserved (front ++ (key, before) :: back) (front ++ (key, after) :: back) := by
  intro name reserved
  have notHere := isField_of_reserved extra reserved
  simp [Mapping.field?, List.find?_append, notHere]

/-! ## Changed rules -/

section Changed

variable (twins : AreTwins old new)
include twins

/-- What is changed to a twin, or inside of it, has the same values under reserved keys. -/
theorem sameReserved_of_changed (change : old.Changed new path before after)
    (free : IsFree path) :
    before.asMapping? = none ∧ after.asMapping? = none ∨
      ∃ entries others, before.asMapping? = some entries ∧ after.asMapping? = some others ∧
        SameReserved entries others := by
  induction change with
  | here =>
      rcases twins with ⟨entries, others, first, second, same, -⟩
      exact .inr ⟨entries, others, first, second, same⟩
  | entry =>
      exact .inr ⟨_, _, rfl, rfl, sameReserved_changed _ _ _ _ (free _ List.mem_cons_self)⟩
  | item => exact .inl ⟨rfl, rfl⟩
  | tag _ ih => exact ih free

theorem describesValue_changed (change : old.Changed new path before after) (free : IsFree path) :
    describesValue before = describesValue after := by
  rcases sameReserved_of_changed twins change free with
    ⟨first, second⟩ | ⟨entries, others, first, second, same⟩
  · rw [describesValue, describesValue, first, second]
  · rw [describesValue, describesValue, first, second]
    exact same.hasField

theorem describesValue_alike {other : Document}
    (alike : old.SameOrChanged new path place value other) (free : IsFree path) :
    describesValue value = describesValue other := by
  rcases alike with rfl | ⟨rest, rfl, change⟩
  · rfl
  · exact describesValue_changed twins change free.of_append_right

theorem isTidy_changed (change : old.Changed new path before after) (free : IsFree path)
    (tidy : IsTidy before) : IsTidy after := by
  have stillTyped {path : DocPath} {before after : Document}
      (change : old.Changed new path before after) (free : IsFree path)
      (typed : describesValue before = true) : IsTidy after :=
    .leaf ((describesValue_changed twins change free).symm.trans typed)
  induction change with
  | here => exact .leaf twins.symm.typed
  | @entry front back key before after path below ih =>
      have keyFree : isReservedText key.keyText = false := free _ List.mem_cons_self
      cases tidy with
      | leaf typed => exact stillTyped (.entry below) free typed
      | record untyped distinct addressable each =>
          have same := sameReserved_changed front back before after keyFree
          have here : (key, before) ∈ front ++ (key, before) :: back := List.mem_append_cons_self
          refine .record (same.hasField ▸ untyped) ?_ ?_ ?_
          · simpa [Level.fieldNames] using distinct
          · intro entry member entryFree
            rcases Document.mem_changed member with old | rfl
            · exact addressable entry old entryFree
            · exact addressable (key, before) here entryFree
          · intro entry member entryFree
            rcases Document.mem_changed member with old | rfl
            · exact each entry old entryFree
            · exact ih free.of_cons (each (key, before) here keyFree)
  | item below =>
      cases tidy with
      | leaf typed => exact stillTyped (.item below) free typed
  | tag below =>
      cases tidy with
      | leaf typed => exact stillTyped (.tag below) free typed

/-- Paths of fields lead to records in both rules, or to leaves. -/
theorem leads_changed (change : old.Changed new path before after) (free : IsFree path)
    (leads : Leads before place value) :
    ∃ other, Leads after place other ∧ describesValue value = describesValue other := by
  have whole {path : DocPath} {before after : Document}
      (change : old.Changed new path before after) (free : IsFree path) :
      ∃ other, Leads after [] other ∧ describesValue before = describesValue other :=
    ⟨after, .here, describesValue_changed twins change free⟩
  induction change generalizing place with
  | here =>
      cases leads.eq_nil_of_typed twins.typed
      cases leads
      exact whole .here free
  | @entry front back key before after path below ih =>
      cases leads with
      | here => exact whole (.entry below) free
      | @field _ known inner _ rest untyped member keyFree lower =>
          have same := sameReserved_changed front back before after (free _ List.mem_cons_self)
          have untyped := same.hasField ▸ untyped
          rcases Document.mem_changed member with kept | isChanged
          · exact ⟨value, .field untyped kept keyFree lower, rfl⟩
          · cases isChanged
            rcases ih free.of_cons lower with ⟨other, further, alike⟩
            exact ⟨other, .field untyped List.mem_append_cons_self keyFree further, alike⟩
  | item below =>
      cases leads with
      | here => exact whole (.item below) free
  | tag below =>
      cases leads with
      | here => exact whole (.tag below) free

theorem mem_leaves_changed (change : old.Changed new path before after) (free : IsFree path)
    (leaf : place ∈ leaves before) (outside : path.isAncestorOf place = false) :
    place ∈ leaves after := by
  rcases mem_leafPaths_iff.mp (Rule.mem_leaves.mp leaf) with ⟨placeFree, value, holds, typed⟩
  rcases change.holds holds outside with ⟨other, reached, alike⟩
  have typed := (describesValue_alike twins alike free).symm.trans typed
  exact Rule.mem_leaves.mpr (mem_leafPaths_iff.mpr ⟨placeFree, other, reached, typed⟩)

theorem mem_branches_changed (change : old.Changed new path before after) (free : IsFree path)
    (tidy : IsTidy before) (root : describesValue before = false)
    (branch : place ∈ branches before) : place ∈ branches after := by
  rw [(isTidy_changed twins change free tidy).mem_branches_iff
    ((describesValue_changed twins change free).symm.trans root)]
  rcases (tidy.mem_branches_iff root).mp branch with
    ⟨notRoot, ⟨value, leads, untyped⟩, below, leaf, further, toLeaf, typed⟩
  rcases leads_changed twins change free leads with ⟨other, toOther, same⟩
  rcases leads_changed twins change free toLeaf with ⟨otherLeaf, toOtherLeaf, sameLeaf⟩
  exact ⟨notRoot, ⟨other, toOther, same.symm.trans untyped⟩, below, otherLeaf, further,
    toOtherLeaf, sameLeaf.symm.trans typed⟩

/-! ## The order of leaves -/

/-- The leaves inside a document, in order, at paths that go on from the given one. -/
def leavesInside (base : DocPath) (document : Document) : List DocPath :=
  ((document.inside base).filter isLeaf).map Location.path

omit twins in
theorem pathsWhere_isLeaf (rules : Document) : pathsWhere isLeaf rules = leavesInside [] rules := by
  rw [pathsWhere, Document.walk, List.filter_cons_of_neg (by simp [isLeaf, isNode])]
  rfl

omit twins in
theorem isAncestorOf_of_mem_leavesInside {base : DocPath} {document : Document}
    (member : place ∈ leavesInside base document) : base.isAncestorOf place = true := by
  rcases List.mem_map.mp member with ⟨location, visited, rfl⟩
  rcases Document.holds_of_mem_inside (List.mem_filter.mp visited).1 with
    ⟨above, step, container, last, -⟩
  refine DocPath.isAncestorOf_iff.mpr ⟨above ++ [step], by simp, ?_⟩
  rw [path_of_key last, container, DocPath.child, List.append_assoc]

/-- The location at a step, if it is a leaf, and the leaves inside it. -/
def leavesAt (base : DocPath) (step : PathKey) (value : Document) : List DocPath :=
  (if isLeaf ⟨base, some step, value⟩ then [base.child step] else []) ++
    leavesInside (base.child step) value

omit twins in
theorem leavesInside_mapping (base : DocPath) (front back : Mapping) (key : Document) :
    ∃ start rest, ∀ value, leavesInside base (.mapping (front ++ (key, value) :: back)) =
      start ++ (leavesAt base (PathKey.ofDocument key) value ++ rest) := by
  refine ⟨leavesInside base (.mapping front), leavesInside base (.mapping back), fun value => ?_⟩
  have parts : Document.insideEntries base (front ++ (key, value) :: back) =
      Document.insideEntries base front ++ Document.insideEntries base ((key, value) :: back) := by
    induction front with
    | nil => rfl
    | cons entry rest ih =>
        rw [List.cons_append, Document.insideEntries, Document.insideEntries, ih]
        simp
  simp only [leavesInside, leavesAt, Document.inside, parts, Document.insideEntries,
    List.filter_append, List.filter_cons, List.map_append]
  split <;> simp [Location.path]

omit twins in
theorem leavesInside_sequence (base : DocPath) (front back : List Document) :
    ∃ start rest, ∀ value, leavesInside base (.sequence (front ++ value :: back)) =
      start ++ (leavesAt base (.index front.length) value ++ rest) := by
  refine ⟨leavesInside base (.sequence front), ((Document.insideItems base (front.length + 1)
    back).filter isLeaf).map Location.path, fun value => ?_⟩
  have parts (first : Nat) : Document.insideItems base first (front ++ value :: back) =
      Document.insideItems base first front ++
        Document.insideItems base (first + front.length) (value :: back) := by
    induction front generalizing first with
    | nil => rfl
    | cons item rest ih =>
        rw [List.cons_append, Document.insideItems, Document.insideItems, ih, List.length_cons]
        simp [Nat.add_assoc, Nat.add_comm 1]
  simp only [leavesInside, leavesAt, Document.inside, parts, Nat.zero_add, Document.insideItems,
    List.filter_append, List.filter_cons, List.map_append]
  split <;> simp [Location.path]

/-- The leaves that are not inside the changed one come in the same order. -/
theorem leavesInside_changed (change : old.Changed new path before after) (free : IsFree path)
    (base : DocPath) :
    (leavesInside base before).filter (fun place => !(base ++ path).isAncestorOf place) =
      (leavesInside base after).filter (fun place => !(base ++ path).isAncestorOf place) := by
  have atStep {path : DocPath} {before after : Document} {base : DocPath} {step : PathKey}
      (below : old.Changed new path before after) (free : IsFree path)
      (inner : (leavesInside (base.child step) before).filter
          (fun place => !(base.child step ++ path).isAncestorOf place) =
        (leavesInside (base.child step) after).filter
          (fun place => !(base.child step ++ path).isAncestorOf place)) :
      (leavesAt base step before).filter (fun place => !(base ++ step :: path).isAncestorOf place) =
        (leavesAt base step after).filter
          (fun place => !(base ++ step :: path).isAncestorOf place) := by
    have sameKind : isLeaf ⟨base, some step, before⟩ = isLeaf ⟨base, some step, after⟩ :=
      congrArg (isNode ⟨base, some step, before⟩ && ·) (describesValue_changed twins below free)
    rw [DocPath.child, List.append_assoc, List.singleton_append] at inner
    rw [leavesAt, leavesAt, List.filter_append, List.filter_append, sameKind, DocPath.child, inner]
  induction change generalizing base with
  | here =>
      have noneOutside (document : Document) : (leavesInside base document).filter
          (fun place => !(base ++ []).isAncestorOf place) = [] := by
        rw [List.filter_eq_nil_iff]
        intro place member
        rw [List.append_nil, isAncestorOf_of_mem_leavesInside member]
        simp
      rw [noneOutside, noneOutside]
  | @entry front back key before after path below ih =>
      rcases leavesInside_mapping base front back key with ⟨start, rest, parts⟩
      rw [parts, parts]
      simp only [List.filter_append]
      rw [atStep below free.of_cons (ih free.of_cons _)]
  | @item front back before after path below ih =>
      rcases leavesInside_sequence base front back with ⟨start, rest, parts⟩
      rw [parts, parts]
      simp only [List.filter_append]
      rw [atStep below free.of_cons (ih free.of_cons _)]
  | tag below ih => exact ih free base

end Changed

end Rule

end RuleSchema
