import RuleSchema.Proofs.Document.Addressing
import RuleSchema.Proofs.Document.TextKeys
import RuleSchema.Proofs.Rule.Records

/-!
# Rule trees

A rule tree has a leaf under each of its fields, with no other leaf in it, or a rule tree that
has a leaf.  Its leaves are the values with a `type` at its paths of fields, and its branches
the other values there.

The root of a rule tree may have a `type` as well, since the root is no leaf.  Paths are
therefore followed from the entries of the root.
-/

namespace RuleSchema.Rule

mutual

/--
Whether rules are a mapping of fields, each a leaf without leaves below or a branch with some.
-/
def isRuleTree : Document → Bool
  | .mapping entries => fieldsAreTrees entries
  | _ => false

/--
Whether every field of a branch is a leaf, or a branch with a leaf below; the rest is reserved.
-/
def fieldsAreTrees : List (Document × Document) → Bool
  | [] => true
  | (key, value) :: rest =>
      (isReservedText key.keyText ||
        if describesValue value then (leaves value).isEmpty
        else isRuleTree value && !(leaves value).isEmpty) && fieldsAreTrees rest

end

/-- What a field of a rule tree has: a leaf without another one, or a rule tree with a leaf. -/
def IsTreeField (value : Document) : Prop :=
  if describesValue value = true then leaves value = []
  else isRuleTree value = true ∧ leaves value ≠ []

/-- A path of fields leads from the entries of a root to a value. -/
def Enters (entries : Mapping) (path : DocPath) (value : Document) : Prop :=
  ∃ key inner below, (key, inner) ∈ entries ∧ isReservedText key.keyText = false ∧
    path = PathKey.ofDocument key :: below ∧ Leads inner below value

/-- Fields with distinct names which address them, and with tidy values. -/
structure HasTidyFields (entries : Mapping) : Prop where
  distinct : (Level.fieldNames entries).Nodup
  addressable : ∀ entry ∈ entries, isReservedText entry.1.keyText = false → IsAddressable entry.1
  each : ∀ entry ∈ entries, isReservedText entry.1.keyText = false → IsTidy entry.2

/-- Tidy fields where no leaf lies in another one and every record below the root has a leaf. -/
structure IsTree (entries : Mapping) : Prop where
  tidy : HasTidyFields entries
  ends : ∀ path leaf, Enters entries path leaf → describesValue leaf = true → leaves leaf = []
  inhabited : ∀ path record, Enters entries path record → describesValue record = false →
    ∃ below leaf, Leads record below leaf ∧ describesValue leaf = true

variable {entries : Mapping} {value other inner : Document} {key : Document}
  {path above below : DocPath}

/-! ## Paths from the root -/

namespace Enters

theorem of_mem (member : (key, inner) ∈ entries) (free : isReservedText key.keyText = false)
    (leads : Leads inner below value) : Enters entries (PathKey.ofDocument key :: below) value :=
  ⟨key, inner, below, member, free, rfl, leads⟩

theorem ne_nil (enters : Enters entries path value) : path ≠ [] := by
  rcases enters with ⟨key, inner, below, -, -, rfl, -⟩
  exact List.cons_ne_nil _ _

theorem isFree (enters : Enters entries path value) : IsFree path := by
  rcases enters with ⟨key, inner, below, -, free, rfl, leads⟩
  intro step member
  rcases List.mem_cons.mp member with rfl | later
  · exact free
  · exact leads.isFree step later

theorem holds (enters : Enters entries path value) :
    Document.Holds (.mapping entries) path value := by
  rcases enters with ⟨key, inner, below, member, -, rfl, leads⟩
  by_cases last : below = []
  · subst last
    rw [leads_nil_iff] at leads
    subst leads
    exact .entry member
  · exact .belowEntry member (leads.holds last)

theorem mem_leaves (enters : Enters entries path value) (typed : describesValue value = true) :
    path ∈ leaves (.mapping entries) := by
  rw [Rule.mem_leaves, mem_leafPaths_iff]
  exact ⟨enters.isFree, value, enters.holds, typed⟩

theorem append (enters : Enters entries above value) (leads : Leads value below other) :
    Enters entries (above ++ below) other := by
  rcases enters with ⟨key, inner, rest, member, free, rfl, upper⟩
  exact .of_mem member free (upper.append leads)

theorem split (enters : Enters entries (above ++ below) other) (notRoot : above ≠ []) :
    ∃ value, Enters entries above value ∧ Leads value below other := by
  rcases List.exists_cons_of_ne_nil notRoot with ⟨step, rest, rfl⟩
  rcases enters with ⟨key, inner, whole, member, free, parts, leads⟩
  rcases List.cons.inj parts with ⟨rfl, rfl⟩
  rcases leads.split with ⟨value, upper, lower⟩
  exact ⟨value, .of_mem member free upper, lower⟩

end Enters

namespace HasTidyFields

variable (tidy : HasTidyFields entries)
include tidy

theorem isTidy_of_enters (enters : Enters entries path value) : IsTidy value := by
  rcases enters with ⟨key, inner, below, member, free, -, leads⟩
  exact leads.isTidy (tidy.each _ member free)

theorem get?_eq (enters : Enters entries path value) :
    path.get? (.mapping entries) = some value := by
  rcases enters with ⟨key, inner, below, member, free, rfl, leads⟩
  have hit := at?_of_mem tidy.distinct tidy.addressable member free
  rw [PathKey.ofDocument, DocPath.get?, hit]
  exact leads.get?_eq (tidy.each _ member free)

theorem unique (enters : Enters entries path value) (again : Enters entries path other) :
    value = other :=
  Option.some.inj ((tidy.get?_eq enters).symm.trans (tidy.get?_eq again))

/-- Every node is at a path of fields, or in a leaf at one. -/
theorem enters_of_holds (holds : Document.Holds (.mapping entries) path value)
    (free : IsFree path) :
    Enters entries path value ∨
      ∃ above below leaf, path = above ++ below ∧ below ≠ [] ∧ Enters entries above leaf ∧
        describesValue leaf = true ∧ leaf.Holds below value := by
  cases holds with
  | entry member => exact .inl (.of_mem member (free _ List.mem_cons_self) .here)
  | @belowEntry _ key inner _ path member lower =>
      have keyFree : isReservedText key.keyText = false := free _ List.mem_cons_self
      rcases (tidy.each _ member keyFree).leads_of_holds lower free.of_cons with
        leads | ⟨above, below, leaf, rfl, further, leads, typed, inLeaf⟩
      · exact .inl (.of_mem member keyFree leads)
      · exact .inr ⟨PathKey.ofDocument key :: above, below, leaf, rfl, further,
          .of_mem member keyFree leads, typed, inLeaf⟩

end HasTidyFields

/-! ## Leaves and branches -/

namespace IsTree

variable (tree : IsTree entries)
include tree

theorem mem_leaves_iff :
    path ∈ leaves (.mapping entries) ↔
      ∃ value, Enters entries path value ∧ describesValue value = true := by
  constructor
  · intro leaf
    rcases mem_leafPaths_iff.mp (Rule.mem_leaves.mp leaf) with ⟨free, value, holds, typed⟩
    rcases tree.tidy.enters_of_holds holds free with
      enters | ⟨above, below, outer, rfl, -, toOuter, outerTyped, inside⟩
    · exact ⟨value, enters, typed⟩
    · have inner : below ∈ leaves outer :=
        Rule.mem_leaves.mpr (mem_leafPaths_iff.mpr ⟨free.of_append_right, value, inside, typed⟩)
      rw [tree.ends above outer toOuter outerTyped] at inner
      cases inner
  · rintro ⟨value, enters, typed⟩
    exact enters.mem_leaves typed

/-- A path of fields that goes through a leaf ends there. -/
theorem eq_of_leaf_above (leaf : above ∈ leaves (.mapping entries))
    (enters : Enters entries path value) (upper : above <+: path) : path = above := by
  rcases upper with ⟨below, rfl⟩
  rcases tree.mem_leaves_iff.mp leaf with ⟨own, toOwn, typed⟩
  rcases enters.split toOwn.ne_nil with ⟨middle, toMiddle, lower⟩
  rw [tree.tidy.unique toMiddle toOwn] at lower
  rw [lower.eq_nil_of_typed typed, List.append_nil]

theorem exists_leaf_below (enters : Enters entries path value)
    (untyped : describesValue value = false) :
    ∃ leaf ∈ leaves (.mapping entries), path.isAncestorOf leaf = true := by
  rcases tree.inhabited path value enters untyped with ⟨below, leaf, leads, typed⟩
  have further : below ≠ [] := leads.ne_nil_of_typed untyped typed
  exact ⟨path ++ below, (enters.append leads).mem_leaves typed,
    DocPath.isAncestorOf_iff.mpr ⟨below, further, rfl⟩⟩

theorem mem_branches_iff :
    path ∈ branches (.mapping entries) ↔
      ∃ value, Enters entries path value ∧ describesValue value = false := by
  rw [Rule.mem_branches_iff]
  constructor
  · rintro ⟨node, noLeaf, notBelow, -⟩
    rcases mem_nodePaths_iff.mp node with ⟨free, value, holds⟩
    rcases tree.tidy.enters_of_holds holds free with
      enters | ⟨above, below, outer, rfl, further, toOuter, typed, -⟩
    · refine ⟨value, enters, ?_⟩
      rw [Bool.eq_false_iff]
      exact fun typed => noLeaf (enters.mem_leaves typed)
    · have inLeaf : hasLeafAncestor (leaves (.mapping entries)) (above ++ below) = true :=
        hasLeafAncestor_iff.mpr ⟨above, toOuter.mem_leaves typed,
          DocPath.isAncestorOf_iff.mpr ⟨below, further, rfl⟩⟩
      rw [inLeaf] at notBelow
      cases notBelow
  · rintro ⟨value, enters, untyped⟩
    have noLeaf : path ∉ leaves (.mapping entries) := by
      intro leaf
      rcases tree.mem_leaves_iff.mp leaf with ⟨own, toOwn, typed⟩
      rw [← tree.tidy.unique enters toOwn, untyped] at typed
      cases typed
    rcases (tree.tidy.isTidy_of_enters enters).eq_mapping untyped with ⟨record, rfl, -⟩
    refine ⟨mem_nodePaths_iff.mpr ⟨enters.isFree, _, enters.holds⟩, noLeaf, ?_,
      ⟨_, tree.tidy.get?_eq enters, rfl⟩, tree.exists_leaf_below enters untyped⟩
    rw [Bool.eq_false_iff]
    intro higher
    rcases hasLeafAncestor_iff.mp higher with ⟨outer, isLeaf, isAbove⟩
    rcases DocPath.isAncestorOf_iff.mp isAbove with ⟨rest, -, parts⟩
    rw [← tree.eq_of_leaf_above isLeaf enters ⟨rest, parts.symm⟩] at isLeaf
    exact noLeaf isLeaf

theorem mem_leaves_or_branches_iff :
    path ∈ leaves (.mapping entries) ∨ path ∈ branches (.mapping entries) ↔
      ∃ value, Enters entries path value := by
  rw [tree.mem_leaves_iff, tree.mem_branches_iff, ← exists_or]
  refine exists_congr fun value => ?_
  cases describesValue value <;> simp

/-- The structure of a rule tree is accepted. -/
theorem checkStructure_eq_ok :
    Schema.checkStructure (.mapping entries) (leaves (.mapping entries))
      (branches (.mapping entries)) = .ok () := by
  rw [Schema.checkStructure_eq_ok_iff]
  intro path node
  rcases mem_nodePaths_iff.mp node with ⟨free, value, holds⟩
  rcases tree.tidy.enters_of_holds holds free with
    enters | ⟨above, below, outer, rfl, further, toOuter, typed, -⟩
  · cases typed : describesValue value with
    | true => exact .inl (enters.mem_leaves typed)
    | false => exact .inr (.inl (tree.mem_branches_iff.mpr ⟨value, enters, typed⟩))
  · exact .inr (.inr (hasLeafAncestor_iff.mpr ⟨above, toOuter.mem_leaves typed,
      DocPath.isAncestorOf_iff.mpr ⟨below, further, rfl⟩⟩))

end IsTree

/-! ## Documents that are rule trees -/

theorem isRuleTree_mapping :
    isRuleTree (.mapping entries) = true ↔
      ∀ entry ∈ entries, isReservedText entry.1.keyText = false → IsTreeField entry.2 := by
  rw [isRuleTree]
  induction entries with
  | nil => simp [fieldsAreTrees]
  | cons entry rest ih =>
      rw [fieldsAreTrees, Bool.and_eq_true, ih, List.forall_mem_cons]
      refine and_congr_left fun _ => ?_
      cases isReservedText entry.1.keyText <;> cases typed : describesValue entry.2 <;>
        simp [IsTreeField, typed]

theorem IsTreeField.isTidy (field : IsTreeField value) (texts : value.hasTextKeys = true)
    (distinct : value.hasDistinctTexts = true) : IsTidy value := by
  induction value using Document.memberInduction with
  | mapping entries ih =>
      cases untyped : describesValue (.mapping entries) with
      | true => exact .leaf untyped
      | false =>
          rw [IsTreeField, if_neg (by simp [untyped])] at field
          rcases Document.hasDistinctTexts_mapping.mp distinct with ⟨keys, values⟩
          have texts := Document.hasTextKeys_mapping.mp texts
          refine .record untyped (keys.filter _) ?_ ?_
          · exact fun entry member _ _ => Document.isText_iff.mp (texts entry member).1
          · exact fun entry member free => (ih entry.1 entry.2 member).2
              (isRuleTree_mapping.mp field.1 entry member free) (texts entry member).2
              (values entry member)
  | _ =>
      rw [IsTreeField] at field
      split at field
      · next typed => exact .leaf typed
      · cases field.1

theorem Leads.isTreeField (leads : Leads value path other) (field : IsTreeField value) :
    IsTreeField other := by
  induction leads with
  | here => exact field
  | field untyped member free _ ih =>
      rw [IsTreeField, describesValue_mapping, if_neg (by simp [untyped])] at field
      exact ih (isRuleTree_mapping.mp field.1 _ member free)

/-- A rule tree whose keys are distinct texts has the entries of one. -/
theorem isTree_of_isRuleTree (texts : Document.hasTextKeys (.mapping entries) = true)
    (distinct : Document.hasDistinctTexts (.mapping entries) = true)
    (tree : isRuleTree (.mapping entries) = true) : IsTree entries := by
  rw [isRuleTree_mapping] at tree
  rw [Document.hasTextKeys_mapping] at texts
  rcases Document.hasDistinctTexts_mapping.mp distinct with ⟨keys, values⟩
  have tidy (entry) (member : entry ∈ entries) (free : isReservedText entry.1.keyText = false) :
      IsTidy entry.2 :=
    (tree entry member free).isTidy (texts entry member).2 (values entry member)
  have isField {path : DocPath} {value : Document} (enters : Enters entries path value) :
      IsTidy value ∧ IsTreeField value := by
    rcases enters with ⟨key, inner, below, member, free, -, leads⟩
    exact ⟨leads.isTidy (tidy _ member free), leads.isTreeField (tree _ member free)⟩
  refine ⟨⟨keys.filter _, fun entry member _ _ => Document.isText_iff.mp (texts entry member).1,
    tidy⟩, fun path leaf enters typed => ?_, fun path record enters untyped => ?_⟩
  · have field := (isField enters).2
    rwa [IsTreeField, if_pos typed] at field
  · rcases isField enters with ⟨ownTidy, field⟩
    rw [IsTreeField, if_neg (by simp [untyped])] at field
    rcases List.exists_mem_of_ne_nil _ field.2 with ⟨leaf, isLeaf⟩
    rcases ownTidy.leads_of_mem_leaves isLeaf with ⟨own, leads, typed⟩ |
      ⟨above, below, outer, -, -, leads, typed⟩
    · exact ⟨leaf, own, leads, typed⟩
    · exact ⟨above, outer, leads, typed⟩

end RuleSchema.Rule
