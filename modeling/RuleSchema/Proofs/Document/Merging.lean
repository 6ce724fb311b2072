import Mathlib.Data.List.Find
import Mathlib.Data.List.Induction
import RuleSchema.Document.Merge
import RuleSchema.Proofs.Document.Equality
import RuleSchema.Proofs.Document.Tags

/-!
# Merging level by level

The keys of merged mappings are their keys in order of first appearance.  Under each key stands
what the values found under it merge to, which is the value itself where there is one only.
A single mapping merges to itself.
-/

namespace RuleSchema

/-- Keys of a mapping are distinct, and each of them finds its own value. -/
def Mapping.IsRegular (entries : Mapping) : Prop :=
  entries.Pairwise (fun first second => first.1.beq second.1 = false) ∧
    ∀ entry ∈ entries, entries.get? entry.1 = some entry.2

namespace Document

variable {document value key other : Document}
  {documents values keys earlier later known : List Document} {entries : Mapping}

/-! ## Keys in order of first appearance -/

/-- Append a key unless an equal one is known. -/
def addKey (known : List Document) (key : Document) : List Document :=
  if known.any (fun other => other.beq key) then known else known ++ [key]

/-- The keys of a mapping, below any tags. -/
def keysIn (document : Document) : List Document := ((document.asMapping?).getD []).map Prod.fst

theorem keysOf_eq_foldl (documents : List Document) :
    keysOf documents = (documents.flatMap keysIn).foldl addKey [] := by
  rw [keysOf, List.foldl_flatMap]
  congr 1
  funext known document
  rw [keysIn, List.foldl_map]
  rfl

theorem addKey_of_known (isKnown : known.any (fun other => other.beq key) = true) :
    addKey known key = known := if_pos isKnown

theorem addKey_of_unknown (unknown : known.any (fun other => other.beq key) = false) :
    addKey known key = known ++ [key] := if_neg (by simp [unknown])

theorem mem_foldl_addKey (member : key ∈ keys.foldl addKey known) : key ∈ known ++ keys := by
  induction keys generalizing known with
  | nil => simpa using member
  | cons first rest ih =>
      have added := ih member
      rw [addKey] at added
      split at added
      · simp only [List.mem_append, List.mem_cons] at added ⊢
        tauto
      · simpa using added

theorem mem_keysOf (member : key ∈ keysOf documents) :
    ∃ document ∈ documents, key ∈ document.keysIn := by
  rw [keysOf_eq_foldl] at member
  exact List.mem_flatMap.mp (mem_foldl_addKey member)

/-- Keys that are known stay. -/
theorem mem_foldl_addKey_of_known (member : key ∈ known) : key ∈ keys.foldl addKey known := by
  induction keys generalizing known with
  | nil => exact member
  | cons first rest ih =>
      apply ih
      rw [addKey]
      split
      · exact member
      · exact List.mem_append_left [first] member

/-- Of the keys that are added, each is there in the end, or an equal one is. -/
theorem exists_mem_foldl_addKey (member : key ∈ keys) :
    ∃ other ∈ keys.foldl addKey known, other = key ∨ other.beq key = true := by
  induction keys generalizing known with
  | nil => cases member
  | cons first rest ih =>
      rw [List.foldl_cons]
      rcases List.mem_cons.mp member with rfl | later
      · cases isKnown : known.any fun other => other.beq key with
        | true =>
            rcases List.any_eq_true.mp isKnown with ⟨other, old, equal⟩
            rw [addKey_of_known isKnown]
            exact ⟨other, mem_foldl_addKey_of_known old, .inr equal⟩
        | false =>
            rw [addKey_of_unknown isKnown]
            exact ⟨key, mem_foldl_addKey_of_known (by simp), .inl rfl⟩
      · exact ih later

/-- A key of a document is among the keys of several, or an equal one is. -/
theorem exists_mem_keysOf (isDocument : document ∈ documents) (member : key ∈ document.keysIn) :
    ∃ other ∈ keysOf documents, other = key ∨ other.beq key = true := by
  rw [keysOf_eq_foldl]
  exact exists_mem_foldl_addKey (List.mem_flatMap.mpr ⟨document, isDocument, member⟩)

/-- Known keys add nothing. -/
theorem foldl_addKey_of_known
    (each : ∀ key ∈ keys, known.any (fun other => other.beq key) = true) :
    keys.foldl addKey known = known := by
  induction keys with
  | nil => rfl
  | cons first rest ih =>
      rcases List.forall_mem_cons.mp each with ⟨isKnown, later⟩
      rw [List.foldl_cons, addKey_of_known isKnown, ih later]

/-- Keys that differ from each other and from the known ones are all added. -/
theorem foldl_addKey_of_distinct
    (fresh : ∀ other ∈ known, ∀ key ∈ keys, other.beq key = false)
    (distinct : keys.Pairwise fun first second => first.beq second = false) :
    keys.foldl addKey known = known ++ keys := by
  induction keys generalizing known with
  | nil => simp
  | cons first rest ih =>
      rcases List.pairwise_cons.mp distinct with ⟨differs, others⟩
      have unknown : known.any (fun other => other.beq first) = false := by
        rw [List.any_eq_false]
        intro other member
        simp [fresh other member first List.mem_cons_self]
      rw [List.foldl_cons, addKey_of_unknown unknown, ih ?_ others]
      · simp
      · intro other member key later
        rcases List.mem_append.mp member with old | new
        · exact fresh other old key (List.mem_cons_of_mem _ later)
        · rw [List.mem_singleton.mp new]
          exact differs key later

/-- The keys that are known in the end are those that were known or have been added. -/
theorem any_foldl_addKey (proper : ∀ other ∈ known ++ keys, other.isProper = true)
    (keyProper : key.isProper = true) :
    (keys.foldl addKey known).any (fun other => other.beq key) =
      (known ++ keys).any fun other => other.beq key := by
  induction keys generalizing known with
  | nil => simp
  | cons first rest ih =>
      have properAppended : ∀ other ∈ known ++ [first] ++ rest, other.isProper = true := by
        simpa using proper
      rw [List.foldl_cons]
      cases isKnown : known.any fun other => other.beq first with
      | false =>
          rw [addKey_of_unknown isKnown, ih properAppended, List.append_assoc,
            List.singleton_append]
      | true =>
          have properRest : ∀ other ∈ known ++ rest, other.isProper = true := by
            intro other member
            apply proper
            simp only [List.mem_append, List.mem_cons] at member ⊢
            tauto
          rw [addKey_of_known isKnown, ih properRest, List.any_append, List.any_append,
            List.any_cons]
          cases same : first.beq key with
          | false => rw [Bool.false_or]
          | true =>
              rcases List.any_eq_true.mp isKnown with ⟨other, member, equal⟩
              have alsoEqual : known.any (fun other => other.beq key) = true :=
                List.any_eq_true.mpr ⟨other, member,
                  beq_trans (proper other (by simp [member])) (proper first (by simp)) keyProper
                    equal same⟩
              rw [alsoEqual, Bool.true_or, Bool.true_or]

/-- Keys are added in the same order when they have been put in order before. -/
theorem foldl_addKey_foldl (proper : ∀ other ∈ known ++ keys, other.isProper = true) :
    (keys.foldl addKey []).foldl addKey known = keys.foldl addKey known := by
  -- The last key comes in last, so the induction takes keys off the end.
  induction keys using List.reverseRecOn with
  | nil => rfl
  | append_singleton before last ih =>
      have properBefore : ∀ other ∈ known ++ before, other.isProper = true :=
        fun other member => proper other (by
          rw [← List.append_assoc]
          exact List.mem_append_left _ member)
      have lastProper : last.isProper = true := proper last (by simp)
      have inOrder : (before.foldl addKey []).any (fun other => other.beq last) =
          before.any fun other => other.beq last :=
        any_foldl_addKey (fun other member => properBefore other (List.mem_append_right _ member))
          lastProper
      rw [List.foldl_append, List.foldl_append, List.foldl_cons, List.foldl_cons, List.foldl_nil,
        List.foldl_nil]
      cases isKnown : before.any fun other => other.beq last with
      | false =>
          rw [addKey_of_unknown (inOrder.trans isKnown), List.foldl_append, ih properBefore]
          rfl
      | true =>
          have known' : (before.foldl addKey known).any (fun other => other.beq last) = true := by
            rw [any_foldl_addKey properBefore lastProper, List.any_append, isKnown, Bool.or_true]
          rw [addKey_of_known (inOrder.trans isKnown), ih properBefore, addKey_of_known known']

/-! ## Values under a key -/

/-- The value under a key of a mapping, below any tags. -/
def value? (key document : Document) : Option Document :=
  match document.asMapping? with
  | some entries => entries.get? key
  | none => none

theorem valuesUnder_eq (key : Document) (documents : List Document) :
    valuesUnder key documents = documents.filterMap (value? key) := rfl

theorem mem_valuesUnder_iff :
    value ∈ valuesUnder key documents ↔ ∃ document ∈ documents, value? key document = some value :=
  List.mem_filterMap

theorem isSome_value? :
    (value? key document).isSome = document.keysIn.any fun other => key.beq other := by
  rw [value?, keysIn]
  cases document.asMapping? with
  | none => rfl
  | some entries =>
      rw [Option.getD_some, List.any_map]
      exact Option.isSome_map.trans List.isSome_find?

theorem isEmpty_valuesUnder :
    (valuesUnder key documents).isEmpty =
      !(documents.flatMap keysIn).any fun other => key.beq other := by
  induction documents with
  | nil => rfl
  | cons document rest ih =>
      rw [valuesUnder_eq, List.filterMap_cons, List.flatMap_cons, List.any_append,
        ← isSome_value?]
      cases value? key document with
      | none => exact ih
      | some value => rfl

/-- A mapping is proper under tags exactly if it is so without them. -/
theorem isProper_of_asMapping? (proper : document.isProper = true)
    (mapping : document.asMapping? = some entries) :
    (Document.mapping entries).isProper = true := by
  induction document, mapping using asMappingInduction with
  | bare => exact proper
  | tagged name inner mapping ih => exact ih proper

theorem isProper_of_mem_keysIn (proper : document.isProper = true)
    (member : key ∈ keysIn document) : key.isProper = true := by
  rw [keysIn] at member
  cases mapping : document.asMapping? with
  | none => simp [mapping] at member
  | some entries =>
      rw [mapping] at member
      rcases List.mem_map.mp member with ⟨entry, isEntry, rfl⟩
      exact ((isProper_mapping.mp (isProper_of_asMapping? proper mapping)).2 entry isEntry).1

/-- Equal keys find the same value. -/
theorem value?_congr (proper : document.isProper = true) (keyProper : key.isProper = true)
    (otherProper : other.isProper = true) (same : key.beq other = true) :
    value? other document = value? key document := by
  rw [value?, value?]
  cases mapping : document.asMapping? with
  | none => rfl
  | some entries =>
      have members := (isProper_mapping.mp (isProper_of_asMapping? proper mapping)).2
      refine congrArg (Option.map Prod.snd) (List.find?_congr fun entry member => ?_)
      exact (isCoherent_of_isProper keyProper).congr other entry.1 otherProper
        (members entry member).1 same

theorem isProper_of_value? (proper : document.isProper = true)
    (found : value? key document = some value) : value.isProper = true := by
  rw [value?] at found
  split at found
  · next entries mapping =>
    rcases Option.map_eq_some_iff.mp found with ⟨entry, hit, rfl⟩
    exact ((isProper_mapping.mp (isProper_of_asMapping? proper mapping)).2 entry
      (List.mem_of_find?_eq_some hit)).2
  · cases found

theorem isTagFree_of_value? (tagFree : document.isTagFree = true)
    (found : value? key document = some value) : value.isTagFree = true := by
  rw [value?] at found
  split at found
  · next entries mapping =>
    have same := eq_mapping_of_isTagFree tagFree mapping
    subst same
    rcases Option.map_eq_some_iff.mp found with ⟨entry, hit, rfl⟩
    exact (isTagFree_mapping.mp tagFree entry (List.mem_of_find?_eq_some hit)).2
  · cases found

/-! ## The merged mapping -/

/-- What the values under one key make together: one value stays as it is. -/
def layered : List Document → Document
  | [] => .null
  | [value] => value
  | first :: second :: rest => merge (first :: second :: rest)

theorem merge_eq_mapping (mappings : ∀ document ∈ documents, document.isMapping = true) :
    merge documents =
      .mapping ((keysOf documents).map fun key => (key, layered (valuesUnder key documents))) := by
  rw [merge]
  split
  · next none =>
    rw [List.getLast?_eq_none_iff.mp none]
    rfl
  · rw [if_pos (List.all_eq_true.mpr mappings)]
    refine congrArg Document.mapping (List.map_congr_left fun key _ => ?_)
    split <;> simp only [layered, *]

theorem isMapping_eq_isSome : document.isMapping = document.asMapping?.isSome := by
  rw [isMapping, asMapping?]
  cases document.untagged <;> rfl

theorem isMapping_merge (mappings : ∀ document ∈ documents, document.isMapping = true) :
    (merge documents).isMapping = true := by
  rw [merge_eq_mapping mappings]
  rfl

/-- Where one of them is no mapping, the last document stands alone. -/
theorem merge_eq_last (others : document ∈ documents) (notMapping : document.isMapping = false)
    (nonempty : documents ≠ []) : merge documents = documents.getLast nonempty := by
  rw [merge, List.getLast?_eq_some_getLast nonempty]
  have notAll : documents.all isMapping = false := by
    rw [List.all_eq_false]
    exact ⟨document, others, by simp [notMapping]⟩
  simp [notAll]

theorem keysIn_merge (mappings : ∀ document ∈ documents, document.isMapping = true) :
    (merge documents).keysIn = keysOf documents := by
  rw [merge_eq_mapping mappings]
  exact List.map_map.trans (List.map_id _)

theorem isProper_of_mem_flatMap_keysIn (proper : ∀ document ∈ documents, document.isProper = true) :
    ∀ key ∈ documents.flatMap keysIn, key.isProper = true := by
  intro key member
  rcases List.mem_flatMap.mp member with ⟨document, isDocument, isKey⟩
  exact isProper_of_mem_keysIn (proper document isDocument) isKey

/-- A key is a key of merged documents exactly if a value is found under it. -/
theorem any_keysOf (proper : ∀ document ∈ documents, document.isProper = true)
    (keyProper : key.isProper = true) :
    (keysOf documents).any (fun other => key.beq other) = !(valuesUnder key documents).isEmpty := by
  have keysProper := isProper_of_mem_flatMap_keysIn proper
  have swapped (keys : List Document) (each : ∀ other ∈ keys, other.isProper = true) :
      keys.any (fun other => other.beq key) = keys.any fun other => key.beq other := by
    rw [← List.isSome_find?, ← List.isSome_find?]
    exact congrArg Option.isSome
      (List.find?_congr fun other member => beq_comm (each other member) keyProper)
  have orderedProper : ∀ other ∈ keysOf documents, other.isProper = true := by
    intro other member
    rw [keysOf_eq_foldl] at member
    exact keysProper other (mem_foldl_addKey member)
  rw [isEmpty_valuesUnder, Bool.not_not, ← swapped _ orderedProper, ← swapped _ keysProper,
    keysOf_eq_foldl]
  exact any_foldl_addKey keysProper keyProper

/-- A key finds in merged documents what the values under it make together. -/
theorem value?_merge (mappings : ∀ document ∈ documents, document.isMapping = true)
    (proper : ∀ document ∈ documents, document.isProper = true) (keyProper : key.isProper = true) :
    value? key (merge documents) =
      if (valuesUnder key documents).isEmpty then none
      else some (layered (valuesUnder key documents)) := by
  have found : value? key (merge documents) =
      ((keysOf documents).find? fun other => key.beq other).map fun other =>
        layered (valuesUnder other documents) := by
    rw [merge_eq_mapping mappings]
    show Option.map Prod.snd (List.find? _ (List.map _ _)) = _
    rw [List.find?_map, Option.map_map]
    rfl
  have known := any_keysOf proper keyProper
  rw [← List.isSome_find?] at known
  rw [found]
  cases hit : (keysOf documents).find? fun other => key.beq other with
  | none =>
      rw [hit, Option.isSome_none, eq_comm, Bool.not_eq_false'] at known
      rw [known]
      rfl
  | some other =>
      rw [hit, Option.isSome_some, eq_comm, Bool.not_eq_true'] at known
      have same : key.beq other = true := by simpa using List.find?_some hit
      rcases mem_keysOf (List.mem_of_find?_eq_some hit) with ⟨document, isDocument, isKey⟩
      have otherProper := isProper_of_mem_keysIn (proper document isDocument) isKey
      have sameValues : valuesUnder other documents = valuesUnder key documents :=
        List.filterMap_congr fun document isDocument =>
          value?_congr (proper document isDocument) keyProper otherProper same
      rw [known, Option.map_some, sameValues]
      rfl

/-! ## Single documents -/

theorem keysOf_singleton (mapping : document.asMapping? = some entries)
    (distinct : entries.Pairwise fun first second => first.1.beq second.1 = false) :
    keysOf [document] = entries.map Prod.fst := by
  have keys : document.keysIn = entries.map Prod.fst := by
    rw [keysIn, mapping]
    rfl
  rw [keysOf_eq_foldl, List.flatMap_singleton, keys, foldl_addKey_of_distinct (by simp)]
  · rfl
  · exact List.pairwise_map.mpr distinct

/-- A single mapping merges to itself, without the tags around it. -/
theorem merge_singleton (mapping : document.asMapping? = some entries)
    (regular : entries.IsRegular) : merge [document] = .mapping entries := by
  have isMapping : document.isMapping = true := by
    rw [isMapping_eq_isSome, mapping]
    rfl
  rw [merge_eq_mapping (by simpa using isMapping), keysOf_singleton mapping regular.1,
    List.map_map]
  refine congrArg Document.mapping
    ((List.map_congr_left fun entry member => ?_).trans (List.map_id entries))
  have own : valuesUnder entry.1 [document] = [entry.2] := by
    rw [valuesUnder, List.filterMap_cons, mapping]
    simp [regular.2 entry member]
  simp only [Function.comp_apply, own]
  rfl

/-- A document without tags merges to itself. -/
theorem merge_singleton_of_isTagFree (tagFree : document.isTagFree = true)
    (proper : document.isProper = true) : merge [document] = document := by
  cases document with
  | mapping entries =>
      have coherent := areCoherent_of_isProper proper
      refine merge_singleton rfl ⟨coherent.differ, fun entry member => ?_⟩
      rw [Mapping.get?, coherent.find?_eq member]
      rfl
  | tagged name inner => cases tagFree
  | _ => exact merge_eq_last List.mem_cons_self rfl (by simp)

/-- What the values under a key make together is what they merge to. -/
theorem layered_eq_merge (nonempty : values ≠ [])
    (plain : ∀ value ∈ values, value.isTagFree = true ∧ value.isProper = true) :
    layered values = merge values := by
  match values with
  | [] => exact absurd rfl nonempty
  | [value] =>
      rcases plain value List.mem_cons_self with ⟨tagFree, proper⟩
      rw [merge_singleton_of_isTagFree tagFree proper]
      rfl
  | _ :: _ :: _ => rfl

end Document

end RuleSchema
