import RuleSchema.Proofs.Rule.Optional
import RuleSchema.Proofs.Rule.Trees

/-!
# What is left of a rule tree

The optional leaves that a configuration does not mention are dropped one after another.  In a
rule tree each of them takes with it exactly the records that it was the last leaf of.  So after
every step a path of fields is left if some leaf at it or below it has not been dropped.
-/

namespace RuleSchema.Rule

variable {entries own : Mapping} {value record other : Document} {key : Document}
  {path above low leaf : DocPath} {step : PathKey} {gone dropped : List DocPath}

/-! ## Pruned trees -/

/-- Pruned entries lead where the entries lead on a path that is spared. -/
theorem enters_prune_iff :
    Enters (pruneEntries gone [] entries) path value ↔
      Spared gone [] path ∧ ∃ whole, Enters entries path whole ∧ prune gone path whole = value := by
  constructor
  · rintro ⟨key, kept, below, member, free, rfl, leads⟩
    rcases field_of_mem_pruneEntries member free with ⟨stays, inner, known, rfl⟩
    rcases leads_prune_iff.mp leads with ⟨spared, whole, toWhole, same⟩
    exact ⟨⟨stays, spared⟩, whole, .of_mem known free toWhole, same⟩
  · rintro ⟨spared, whole, ⟨key, inner, below, member, free, rfl, leads⟩, rfl⟩
    have kept := mem_pruneEntries_iff.mpr (.inr ⟨free, spared.1, inner, member, rfl⟩)
    exact .of_mem kept free (leads_prune_iff.mpr ⟨spared.2, whole, leads, rfl⟩)

theorem HasTidyFields.prune (tidy : HasTidyFields entries) :
    HasTidyFields (pruneEntries gone [] entries) := by
  refine ⟨tidy.distinct.sublist fieldNames_pruneEntries_sublist,
    addressable_pruneEntries tidy.addressable, ?_⟩
  rintro ⟨key, value⟩ member free
  rcases field_of_mem_pruneEntries member free with ⟨-, inner, known, rfl⟩
  exact (tidy.each _ known free).prune

theorem HasTidyFields.without_prune (tidy : HasTidyFields entries)
    (enters : Enters entries path value) :
    without path (.mapping (pruneEntries gone [] entries)) =
      .mapping (pruneEntries (path :: gone) [] entries) := by
  rcases enters with ⟨key, inner, below, member, free, rfl, leads⟩
  exact without_pruneEntries tidy.distinct tidy.addressable member free fun further =>
    Rule.without_prune leads further (tidy.each _ member free)

/-- A record that is left is emptied if none of its fields is left. -/
theorem isEmptied_prune_iff (tidy : HasTidyFields entries)
    (enters : Enters entries path (.mapping own)) (untyped : own.hasField "type" = false)
    (spared : Spared gone [] path) :
    isEmptied (.mapping (pruneEntries gone [] entries)) path = true ↔
      ∀ entry ∈ own, isReservedText entry.1.keyText = false →
        ¬ Spared gone [] (path.child (PathKey.ofDocument entry.1)) := by
  have stays : Enters (pruneEntries gone [] entries) path (.mapping (pruneEntries gone path own)) :=
    enters_prune_iff.mpr ⟨spared, _, enters, prune_record untyped⟩
  have asEntries : isEmptied (.mapping (pruneEntries gone [] entries)) path =
      (pruneEntries gone path own).all fun entry => isReserved (PathKey.ofDocument entry.1) := by
    rw [isEmptied, tidy.prune.get?_eq stays]
    rfl
  rw [asEntries, List.all_eq_true]
  simp only [spared_child_iff spared, not_not]
  constructor
  · rintro reserved ⟨key, inner⟩ member free
    by_contra kept
    have isReserved : isReservedText key.keyText = true :=
      reserved _ (mem_pruneEntries_iff.mpr (.inr ⟨free, kept, inner, member, rfl⟩))
    rw [isReserved] at free
    cases free
  · rintro noField ⟨key, value⟩ member
    rcases mem_pruneEntries_iff.mp member with ⟨reserved, -⟩ | ⟨free, kept, inner, known, -⟩
    · exact reserved
    · exact absurd (noField _ known free) kept

/-! ## Paths with a leaf that is not dropped -/

/-- Some leaf at a path or below it is not dropped. -/
def Keeps (entries : Mapping) (dropped : List DocPath) (path : DocPath) : Prop :=
  ∃ leaf ∈ leaves (.mapping entries), path <+: leaf ∧ leaf ∉ dropped

namespace Keeps

theorem of_below (keeps : Keeps entries dropped path) (upper : above <+: path) :
    Keeps entries dropped above := by
  rcases keeps with ⟨leaf, isLeaf, below, kept⟩
  exact ⟨leaf, isLeaf, upper.trans below, kept⟩

theorem of_cons (keeps : Keeps entries (leaf :: dropped) path) : Keeps entries dropped path := by
  rcases keeps with ⟨other, isLeaf, below, kept⟩
  exact ⟨other, isLeaf, below, fun member => kept (List.mem_cons_of_mem _ member)⟩

theorem cons_or (keeps : Keeps entries dropped path) :
    Keeps entries (leaf :: dropped) path ∨ path <+: leaf := by
  rcases keeps with ⟨other, isLeaf, below, kept⟩
  by_cases same : other = leaf
  · exact .inr (same ▸ below)
  · exact .inl ⟨other, isLeaf, below, by simp [same, kept]⟩

end Keeps

/--
Where the paths above a path keep a leaf after a further one is dropped, and the path does not,
just what is at the path and below it is lost.
-/
theorem keeps_cons_iff (lower : low <+: leaf) (cleared : ¬ Keeps entries (leaf :: dropped) low)
    (settled : path <+: low → path ≠ low → Keeps entries (leaf :: dropped) path) :
    Keeps entries dropped path ∧ ¬ low <+: path ↔ Keeps entries (leaf :: dropped) path := by
  constructor
  · rintro ⟨keeps, notBelow⟩
    rcases keeps.cons_or with kept | upper
    · exact kept
    · rcases List.prefix_or_prefix_of_prefix upper lower with higher | below
      · exact settled higher fun same => notBelow (same ▸ List.prefix_rfl)
      · exact absurd below notBelow
  · exact fun keeps => ⟨keeps.of_cons, fun below => cleared (keeps.of_below below)⟩

namespace IsTree

variable (tree : IsTree entries)
include tree

theorem keeps_nil (enters : Enters entries path value) : Keeps entries [] path := by
  cases typed : describesValue value with
  | true => exact ⟨path, enters.mem_leaves typed, List.prefix_rfl, List.not_mem_nil⟩
  | false =>
      rcases tree.exists_leaf_below enters typed with ⟨leaf, isLeaf, isAbove⟩
      rcases DocPath.isAncestorOf_iff.mp isAbove with ⟨below, -, rfl⟩
      exact ⟨_, isLeaf, ⟨below, rfl⟩, List.not_mem_nil⟩

theorem keeps_leaf_iff (isLeaf : leaf ∈ leaves (.mapping entries)) :
    Keeps entries dropped leaf ↔ leaf ∉ dropped := by
  constructor
  · rintro ⟨other, isOther, below, kept⟩
    rcases tree.mem_leaves_iff.mp isOther with ⟨value, enters, -⟩
    rwa [tree.eq_of_leaf_above isLeaf enters below] at kept
  · exact fun kept => ⟨leaf, isLeaf, List.prefix_rfl, kept⟩

theorem ne_of_leaf_of_record (isLeaf : leaf ∈ leaves (.mapping entries))
    (enters : Enters entries path value) (untyped : describesValue value = false) :
    path ≠ leaf := by
  rintro rfl
  rcases tree.mem_leaves_iff.mp isLeaf with ⟨own, toOwn, typed⟩
  rw [← tree.tidy.unique enters toOwn, untyped] at typed
  cases typed

/-- A record keeps a leaf if one of its fields does. -/
theorem keeps_record_iff (enters : Enters entries path (.mapping own))
    (untyped : own.hasField "type" = false) :
    Keeps entries dropped path ↔
      ∃ entry ∈ own, isReservedText entry.1.keyText = false ∧
        Keeps entries dropped (path.child (PathKey.ofDocument entry.1)) := by
  constructor
  · rintro ⟨leaf, isLeaf, ⟨below, rfl⟩, kept⟩
    have further : below ≠ [] := by
      rintro rfl
      exact tree.ne_of_leaf_of_record isLeaf enters untyped (List.append_nil path).symm
    rcases List.exists_cons_of_ne_nil further with ⟨step, rest, rfl⟩
    rcases tree.mem_leaves_iff.mp isLeaf with ⟨value, toLeaf, -⟩
    rcases toLeaf.split enters.ne_nil with ⟨middle, toMiddle, leads⟩
    rw [tree.tidy.unique toMiddle enters] at leads
    rcases leads_cons_iff.mp leads with ⟨_, key, inner, same, -, member, free, rfl, -⟩
    cases same
    exact ⟨(key, inner), member, free, _, isLeaf, ⟨rest, by simp [DocPath.child]⟩, kept⟩
  · rintro ⟨entry, -, -, keeps⟩
    exact keeps.of_below ⟨[_], rfl⟩

/-- Every location above a leaf, other than the root, is at a record. -/
theorem exists_record_above (isLeaf : leaf ∈ leaves (.mapping entries))
    (lower : path ++ [step] <+: leaf) (notRoot : path ≠ []) :
    ∃ own, Enters entries path (.mapping own) ∧ Mapping.hasField own "type" = false := by
  rcases lower with ⟨rest, rfl⟩
  rcases tree.mem_leaves_iff.mp isLeaf with ⟨value, toLeaf, -⟩
  rw [List.append_assoc] at toLeaf
  rcases toLeaf.split notRoot with ⟨record, toRecord, leads⟩
  rcases leads_cons_iff.mp leads with ⟨own, _, _, rfl, untyped, -⟩
  exact ⟨own, toRecord, untyped⟩

end IsTree

/-! ## One leaf after another -/

/-- Of the paths of fields, those are spared that keep a leaf. -/
def Matches (entries : Mapping) (gone dropped : List DocPath) : Prop :=
  ∀ path value, Enters entries path value → (Spared gone [] path ↔ Keeps entries dropped path)

/-- Of the paths of fields, those are spared that keep a leaf and are not below a given path. -/
def MatchesBut (low : DocPath) (entries : Mapping) (gone dropped : List DocPath) : Prop :=
  ∀ path value, Enters entries path value →
    (Spared gone [] path ↔ Keeps entries dropped path ∧ ¬ low <+: path)

theorem Matches.drop (matched : Matches entries gone dropped) (notRoot : low ≠ []) :
    MatchesBut low entries (low :: gone) dropped := by
  intro path value enters
  rw [spared_cons_iff notRoot, matched path value enters]

theorem MatchesBut.drop (matched : MatchesBut low entries gone dropped) (notRoot : above ≠ [])
    (upper : above <+: low) : MatchesBut above entries (above :: gone) dropped := by
  intro path value enters
  rw [spared_cons_iff notRoot, matched path value enters]
  constructor
  · rintro ⟨⟨keeps, -⟩, notAbove⟩
    exact ⟨keeps, notAbove⟩
  · rintro ⟨keeps, notAbove⟩
    exact ⟨⟨keeps, fun lower => notAbove (upper.trans lower)⟩, notAbove⟩

/-- Dropping stops below a record that keeps a leaf, or at the root. -/
theorem MatchesBut.stop (matched : MatchesBut (above ++ [step]) entries gone dropped)
    (lower : above ++ [step] <+: leaf)
    (cleared : ¬ Keeps entries (leaf :: dropped) (above ++ [step]))
    (keeps : above ≠ [] → Keeps entries (leaf :: dropped) above) :
    Matches entries gone (leaf :: dropped) := by
  intro path value enters
  rw [matched path value enters]
  refine keeps_cons_iff lower cleared fun higher different => ?_
  rcases List.prefix_concat_iff.mp higher with same | upper
  · exact absurd same different
  · have notRoot : above ≠ [] := by
      rintro rfl
      exact enters.ne_nil (List.prefix_nil.mp upper)
    exact (keeps notRoot).of_below upper

/-- The record above what has just been dropped is emptied if it keeps no leaf. -/
theorem MatchesBut.isEmptied_iff (matched : MatchesBut (above ++ [step]) entries gone dropped)
    (tree : IsTree entries) (isLeaf : leaf ∈ leaves (.mapping entries)) (fresh : leaf ∉ dropped)
    (lower : above ++ [step] <+: leaf)
    (cleared : ¬ Keeps entries (leaf :: dropped) (above ++ [step])) (notRoot : above ≠ []) :
    isEmptied (.mapping (pruneEntries gone [] entries)) above = true ↔
      ¬ Keeps entries (leaf :: dropped) above := by
  rcases tree.exists_record_above isLeaf lower notRoot with ⟨own, enters, untyped⟩
  have spared : Spared gone [] above := by
    refine (matched above _ enters).mpr ⟨?_, fun longer => ?_⟩
    · exact ⟨leaf, isLeaf, (List.prefix_append above [step]).trans lower, fresh⟩
    · have shorter := longer.length_le
      rw [List.length_append, List.length_singleton] at shorter
      omega
  rw [isEmptied_prune_iff tree.tidy enters untyped spared, tree.keeps_record_iff enters untyped]
  push Not
  refine forall₂_congr fun entry member => imp_congr_right fun free => not_congr ?_
  have onward : Enters entries (above.child (PathKey.ofDocument entry.1)) entry.2 :=
    enters.append (.field untyped member free .here)
  rw [matched _ _ onward]
  -- Fields of one record are at paths of one length, of which none is above another.
  refine keeps_cons_iff lower cleared fun higher different => ?_
  exact absurd (higher.eq_of_length (by simp [DocPath.child])) different

section Runs

variable (tree : IsTree entries)
include tree

/-- Going up from a path that keeps no leaf, dropping ends where the paths that are left match. -/
theorem exists_dropEmptied {steps : List PathKey} (isLow : steps.reverse ++ [step] = low)
    (isLeaf : leaf ∈ leaves (.mapping entries)) (fresh : leaf ∉ dropped) (lower : low <+: leaf)
    (matched : MatchesBut low entries gone dropped)
    (cleared : ¬ Keeps entries (leaf :: dropped) low) :
    ∃ all, dropEmptied steps (.mapping (pruneEntries gone [] entries)) =
        .mapping (pruneEntries all [] entries) ∧
      Matches entries all (leaf :: dropped) := by
  subst isLow
  induction steps generalizing gone step with
  | nil => exact ⟨gone, rfl, matched.stop lower cleared fun notRoot => absurd rfl notRoot⟩
  | cons last above ih =>
      rw [List.reverse_cons] at lower matched cleared
      have notRoot : above.reverse ++ [last] ≠ [] := by simp
      have emptied := matched.isEmptied_iff tree isLeaf fresh lower cleared notRoot
      rw [dropEmptied]
      simp only [List.reverse_cons]
      split
      · next isEmptied =>
        rcases tree.exists_record_above isLeaf lower notRoot with ⟨own, enters, -⟩
        have upper : above.reverse ++ [last] <+: above.reverse ++ [last] ++ [step] :=
          List.prefix_append _ _
        rw [tree.tidy.without_prune enters]
        exact ih (upper.trans lower) (matched.drop notRoot upper) (emptied.mp isEmptied)
      · next notEmptied =>
        refine ⟨gone, rfl, matched.stop lower cleared fun _ => ?_⟩
        by_contra noLeaf
        exact notEmptied (emptied.mpr noLeaf)

theorem exists_dropUnused (matched : Matches entries gone dropped)
    (isLeaf : leaf ∈ leaves (.mapping entries)) (fresh : leaf ∉ dropped) :
    ∃ all, dropUnused (.mapping (pruneEntries gone [] entries)) leaf =
        .mapping (pruneEntries all [] entries) ∧
      Matches entries all (leaf :: dropped) := by
  rcases tree.mem_leaves_iff.mp isLeaf with ⟨value, enters, -⟩
  have notRoot := enters.ne_nil
  have cleared : ¬ Keeps entries (leaf :: dropped) leaf := by
    rw [tree.keeps_leaf_iff isLeaf]
    exact fun kept => kept List.mem_cons_self
  rw [dropUnused, tree.tidy.without_prune enters]
  rcases List.eq_nil_or_concat' leaf with none | ⟨above, last, rfl⟩
  · exact absurd none notRoot
  · rw [List.reverse_append, List.reverse_singleton, List.singleton_append, List.tail_cons]
    have isLow : above.reverse.reverse ++ [last] = above ++ [last] := by rw [List.reverse_reverse]
    exact exists_dropEmptied tree isLow isLeaf fresh List.prefix_rfl (matched.drop notRoot) cleared

/-- Dropping leaves one after another leaves the paths that keep another leaf. -/
theorem exists_foldl_dropUnused {paths : List DocPath} (distinct : paths.Nodup)
    (areLeaves : ∀ leaf ∈ paths, leaf ∈ leaves (.mapping entries))
    (fresh : ∀ leaf ∈ paths, leaf ∉ dropped) (matched : Matches entries gone dropped) :
    ∃ all, paths.foldl dropUnused (.mapping (pruneEntries gone [] entries)) =
        .mapping (pruneEntries all [] entries) ∧
      Matches entries all (paths.reverse ++ dropped) := by
  induction paths generalizing gone dropped with
  | nil => exact ⟨gone, rfl, matched⟩
  | cons leaf rest ih =>
      rcases List.nodup_cons.mp distinct with ⟨notLater, restDistinct⟩
      rcases List.forall_mem_cons.mp areLeaves with ⟨isLeaf, restLeaves⟩
      rcases List.forall_mem_cons.mp fresh with ⟨leafFresh, restFresh⟩
      rcases exists_dropUnused tree matched isLeaf leafFresh with ⟨now, here, nowMatched⟩
      have stillFresh : ∀ other ∈ rest, other ∉ leaf :: dropped := by
        intro other member known
        rcases List.mem_cons.mp known with rfl | earlier
        · exact notLater member
        · exact restFresh other member earlier
      rw [List.foldl_cons, here, List.reverse_cons, List.append_assoc]
      exact ih restDistinct restLeaves stillFresh nowMatched

end Runs

/-! ## The tree that is left -/

namespace Matches

variable (matched : Matches entries gone dropped) (tree : IsTree entries)
include matched tree

theorem enters_of_leaf (toLeaf : Enters entries path value) (typed : describesValue value = true)
    (kept : path ∉ dropped) : Enters (pruneEntries gone [] entries) path value := by
  have keeps : Keeps entries dropped path :=
    (tree.keeps_leaf_iff (toLeaf.mem_leaves typed)).mpr kept
  exact enters_prune_iff.mpr
    ⟨(matched path value toLeaf).mpr keeps, value, toLeaf, prune_of_typed typed⟩

theorem isTree : IsTree (pruneEntries gone [] entries) := by
  refine ⟨tree.tidy.prune, fun path leaf enters typed => ?_, fun path record enters untyped => ?_⟩
  · rcases enters_prune_iff.mp enters with ⟨-, whole, toWhole, rfl⟩
    rw [describesValue_prune] at typed
    rw [prune_of_typed typed]
    exact tree.ends path whole toWhole typed
  · rcases enters_prune_iff.mp enters with ⟨spared, whole, toWhole, -⟩
    rcases (matched path whole toWhole).mp spared with ⟨_, isLeaf, ⟨below, rfl⟩, kept⟩
    rcases tree.mem_leaves_iff.mp isLeaf with ⟨leaf, toLeaf, typed⟩
    rcases (matched.enters_of_leaf tree toLeaf typed kept).split enters.ne_nil with
      ⟨middle, toMiddle, leads⟩
    rw [tree.tidy.prune.unique toMiddle enters] at leads
    exact ⟨below, leaf, leads, typed⟩

theorem mem_leaves_iff :
    path ∈ leaves (.mapping (pruneEntries gone [] entries)) ↔
      path ∈ leaves (.mapping entries) ∧ path ∉ dropped := by
  rw [(matched.isTree tree).mem_leaves_iff]
  constructor
  · rintro ⟨value, enters, typed⟩
    rcases enters_prune_iff.mp enters with ⟨spared, whole, toWhole, rfl⟩
    rw [describesValue_prune] at typed
    have isLeaf := toWhole.mem_leaves typed
    exact ⟨isLeaf, (tree.keeps_leaf_iff isLeaf).mp ((matched path whole toWhole).mp spared)⟩
  · rintro ⟨isLeaf, kept⟩
    rcases tree.mem_leaves_iff.mp isLeaf with ⟨value, toLeaf, typed⟩
    exact ⟨value, matched.enters_of_leaf tree toLeaf typed kept, typed⟩

theorem exists_specification (isLeaf : path ∈ leaves (.mapping (pruneEntries gone [] entries))) :
    ∃ leaf, path.get? (.mapping entries) = some leaf ∧
      path.get? (.mapping (pruneEntries gone [] entries)) = some leaf := by
  rcases (matched.mem_leaves_iff tree).mp isLeaf with ⟨wasLeaf, kept⟩
  rcases tree.mem_leaves_iff.mp wasLeaf with ⟨leaf, toLeaf, typed⟩
  exact ⟨leaf, tree.tidy.get?_eq toLeaf,
    tree.tidy.prune.get?_eq (matched.enters_of_leaf tree toLeaf typed kept)⟩

/-- A branch is left if a leaf below it is. -/
theorem mem_branches_iff :
    path ∈ branches (.mapping (pruneEntries gone [] entries)) ↔
      path ∈ branches (.mapping entries) ∧
        ∃ leaf ∈ leaves (.mapping (pruneEntries gone [] entries)),
          path.isAncestorOf leaf = true := by
  have leftTree := matched.isTree tree
  constructor
  · intro branch
    rcases leftTree.mem_branches_iff.mp branch with ⟨value, enters, untyped⟩
    refine ⟨?_, leftTree.exists_leaf_below enters untyped⟩
    rcases enters_prune_iff.mp enters with ⟨-, whole, toWhole, rfl⟩
    exact tree.mem_branches_iff.mpr ⟨whole, toWhole, describesValue_prune.symm.trans untyped⟩
  · rintro ⟨branch, leaf, isLeaf, isAbove⟩
    rcases tree.mem_branches_iff.mp branch with ⟨value, enters, untyped⟩
    rcases (matched.mem_leaves_iff tree).mp isLeaf with ⟨wasLeaf, kept⟩
    rcases DocPath.isAncestorOf_iff.mp isAbove with ⟨below, -, rfl⟩
    have spared := (matched path value enters).mpr ⟨_, wasLeaf, ⟨below, rfl⟩, kept⟩
    exact leftTree.mem_branches_iff.mpr
      ⟨_, enters_prune_iff.mpr ⟨spared, value, enters, rfl⟩, describesValue_prune.trans untyped⟩

/-- The root and every branch that is left were records, and are left as their pruned entries. -/
theorem exists_record
    (place : path ∈ [] :: branches (.mapping (pruneEntries gone [] entries))) :
    ∃ own, path.get? (.mapping entries) = some (.mapping own) ∧
      path.get? (.mapping (pruneEntries gone [] entries)) =
        some (.mapping (pruneEntries gone path own)) ∧
      Spared gone [] path ∧
      ∀ entry ∈ own, isReservedText entry.1.keyText = false →
        Enters entries (path.child (PathKey.ofDocument entry.1)) entry.2 := by
  rcases List.mem_cons.mp place with rfl | branch
  · exact ⟨entries, rfl, rfl, trivial, fun entry member free => .of_mem member free .here⟩
  · rcases (matched.isTree tree).mem_branches_iff.mp branch with ⟨value, enters, untyped⟩
    rcases enters_prune_iff.mp enters with ⟨spared, whole, toWhole, rfl⟩
    rw [describesValue_prune] at untyped
    rcases (tree.tidy.isTidy_of_enters toWhole).eq_mapping untyped with ⟨own, rfl, ownUntyped⟩
    rw [prune_record ownUntyped] at enters
    exact ⟨own, tree.tidy.get?_eq toWhole, tree.tidy.prune.get?_eq enters, spared,
      fun entry member free => toWhole.append (.field ownUntyped member free .here)⟩

/-- Of the fields of a record, those are left that have a leaf or a branch. -/
theorem not_mem_gone_iff (spared : Spared gone [] path)
    (enters : Enters entries (path.child step) value) :
    path.child step ∉ gone ↔
      path.child step ∈ leaves (.mapping (pruneEntries gone [] entries)) ∨
        path.child step ∈ branches (.mapping (pruneEntries gone [] entries)) := by
  rw [(matched.isTree tree).mem_leaves_or_branches_iff, ← spared_child_iff spared]
  constructor
  · exact fun onward => ⟨_, enters_prune_iff.mpr ⟨onward, value, enters, rfl⟩⟩
  · rintro ⟨other, toOther⟩
    exact (enters_prune_iff.mp toOther).1

end Matches

/-! ## Mandatory and optional leaves -/

variable {rules configuration : Document}

theorem nodup_pathsWhere (distinct : rules.hasDistinctTexts = true) (test : Location → Bool) :
    (pathsWhere test rules).Nodup :=
  (Document.nodup_paths_walk distinct).sublist (List.filter_sublist.map _)

theorem mem_leaves_iff_mandatory_or_optional :
    path ∈ leaves rules ↔
      path ∈ pathsWhere isMandatory rules ∨ path ∈ pathsWhere isOptional rules := by
  simp only [Rule.mem_leaves, pathsWhere, List.mem_map, List.mem_filter, ← exists_or]
  refine exists_congr fun location => ?_
  rw [isMandatory, isOptional]
  cases saysOptional location.value <;> simp

theorem not_optional_of_mandatory (distinct : rules.hasDistinctTexts = true)
    (mandatory : path ∈ pathsWhere isMandatory rules) : path ∉ pathsWhere isOptional rules := by
  intro optional
  rcases List.mem_map.mp mandatory with ⟨location, member, rfl⟩
  rcases List.mem_map.mp optional with ⟨other, otherMember, same⟩
  rcases List.mem_filter.mp member with ⟨visited, isMandatory⟩
  rcases List.mem_filter.mp otherMember with ⟨otherVisited, isOptional⟩
  have only : other = location :=
    List.inj_on_of_nodup_map (Document.nodup_paths_walk distinct) otherVisited visited same
  subst only
  rw [Rule.isMandatory, Bool.and_eq_true, Bool.not_eq_true'] at isMandatory
  rw [Rule.isOptional, Bool.and_eq_true, isMandatory.2] at isOptional
  cases isOptional.2

/-- The leaves that are not dropped are the mandatory ones, and the optional ones mentioned. -/
theorem stays_iff (distinct : rules.hasDistinctTexts = true) :
    path ∈ leaves rules ∧ path ∉ unmentioned rules configuration ↔
      path ∈ pathsWhere isMandatory rules ∨
        path ∈ pathsWhere isOptional rules ∧ path ∈ nodes configuration := by
  have mentioned : path ∈ nodes configuration ↔ path ∈ pathsWhere isNode configuration :=
    DocPath.mem_sorted
  rw [mem_leaves_iff_mandatory_or_optional, mem_unmentioned_iff, mentioned]
  have apart : path ∈ pathsWhere isMandatory rules → path ∉ pathsWhere isOptional rules :=
    not_optional_of_mandatory distinct
  tauto

/--
What a configuration leaves of rules: the leaves that are mandatory or mentioned, as they were
specified, and the records above them, with their reserved entries and with the fields that are
left in the order in which they were.
-/
structure IsLeftOf (rules configuration left : Document) : Prop where
  mem_leaves_iff : ∀ path : DocPath, path ∈ leaves left ↔
    path ∈ pathsWhere isMandatory rules ∨
      path ∈ pathsWhere isOptional rules ∧ path ∈ nodes configuration
  specified : ∀ path : DocPath, path ∈ leaves left →
    ∃ leaf, path.get? rules = some leaf ∧ path.get? left = some leaf
  mem_branches_iff : ∀ path : DocPath, path ∈ branches left ↔
    path ∈ branches rules ∧ ∃ leaf ∈ leaves left, path.isAncestorOf leaf = true
  records : ∀ path : DocPath, path ∈ [] :: branches left → ∃ before after : Mapping,
    path.get? rules = some (.mapping before) ∧ path.get? left = some (.mapping after) ∧
      (after.filter fun entry => isReservedText entry.1.keyText) =
        before.filter (fun entry => isReservedText entry.1.keyText) ∧
      after.map Prod.fst = (before.map Prod.fst).filter fun key =>
        isReservedText key.keyText ||
          (leaves left ++ branches left).contains (path.child (PathKey.ofDocument key))
  accepted : Schema.checkStructure left (leaves left) (branches left) = .ok ()

theorem Matches.isLeftOf (tree : IsTree entries)
    (distinct : Document.hasDistinctTexts (.mapping entries) = true)
    (matched : Matches entries gone dropped)
    (areDropped : ∀ path, path ∈ dropped ↔ path ∈ unmentioned (.mapping entries) configuration) :
    IsLeftOf (.mapping entries) configuration (.mapping (pruneEntries gone [] entries)) where
  mem_leaves_iff path := by
    rw [matched.mem_leaves_iff tree, areDropped, stays_iff distinct]
  specified path isLeaf := matched.exists_specification tree isLeaf
  mem_branches_iff path := matched.mem_branches_iff tree
  records path place := by
    rcases matched.exists_record tree place with ⟨own, found, left, spared, fields⟩
    refine ⟨own, pruneEntries gone path own, found, left, reserved_pruneEntries, ?_⟩
    rw [keys_pruneEntries]
    refine List.filter_congr fun key member => ?_
    rcases List.mem_map.mp member with ⟨⟨_, inner⟩, known, rfl⟩
    cases free : isReservedText (Document.keyText _) with
    | true => rfl
    | false =>
        have kept := matched.not_mem_gone_iff tree spared (fields _ known free)
        rw [← List.mem_append] at kept
        simp only [Bool.false_or, List.contains_eq_mem, ← kept, decide_not]
  accepted := (matched.isTree tree).checkStructure_eq_ok

/--
Resolving a rule tree leaves exactly what the configuration leaves of it.

The keys of each of its mappings are texts, and distinct as the keys of any mapping are.
-/
theorem isLeftOf_resolveOptional (rules configuration : Document)
    (texts : rules.hasTextKeys = true) (distinct : rules.hasDistinctTexts = true)
    (isTree : isRuleTree rules = true) :
    IsLeftOf rules configuration (resolveOptional rules configuration) := by
  cases rules with
  | mapping entries =>
      have tree := isTree_of_isRuleTree texts distinct isTree
      have start : Matches entries [] [] := by
        intro path value enters
        have spared : Spared [] [] path := spared_iff.mpr fun _ _ _ => List.not_mem_nil
        exact iff_of_true spared (tree.keeps_nil enters)
      have once : (unmentioned (.mapping entries) configuration).Nodup :=
        (nodup_pathsWhere distinct isOptional).filter _
      have areLeaves : ∀ leaf ∈ unmentioned (.mapping entries) configuration,
          leaf ∈ leaves (.mapping entries) := fun leaf member =>
        mem_leaves_iff_mandatory_or_optional.mpr (.inr (mem_unmentioned_iff.mp member).1)
      have unchanged : pruneEntries [] [] entries = entries :=
        pruneEntries_nil_of_forall fun _ _ _ => prune_nil
      rcases exists_foldl_dropUnused tree once areLeaves (fun _ _ => List.not_mem_nil) start with
        ⟨gone, left, matched⟩
      rw [unchanged] at left
      rw [resolveOptional, ← unmentioned, left]
      exact matched.isLeftOf tree distinct fun path => by simp
  | _ => cases isTree

/-- A leaf of a type that may be absent. -/
def optionalLeafOf (type : String) : Document :=
  .mapping [(.string "type", .string type), (.string "optional", .bool true)]

/-- A store with a record of optional leaves, one of them two records further down. -/
def storeRules : Document :=
  .mapping
    [ (.string "doc", .string "where blocks are kept"),
      (.string "root", leafOf "str"),
      (.string "cache", branchOf
        [ ("doc", .string "kept in memory"),
          ("size", optionalLeafOf "int"),
          ("expiry", branchOf [("sweep", branchOf [("period", optionalLeafOf "int")])]) ]),
      (.string "mirror", branchOf [("host", optionalLeafOf "str")]) ]

/-- A configuration that mentions one of the optional leaves. -/
def storeInput : Document :=
  .mapping
    [ (.string "root", .string "blocks"),
      (.string "cache", .mapping [(.string "size", .ofInt64 64)]) ]

/-- The records that the configuration does not mention are gone, however deep their leaves are. -/
theorem isLeftOf_resolveOptional_store :
    storeRules.hasTextKeys = true ∧ storeRules.hasDistinctTexts = true ∧
      isRuleTree storeRules = true ∧
      IsLeftOf storeRules storeInput (resolveOptional storeRules storeInput) ∧
      resolveOptional storeRules storeInput =
        .mapping
          [ (.string "doc", .string "where blocks are kept"),
            (.string "root", leafOf "str"),
            (.string "cache", branchOf
              [("doc", .string "kept in memory"), ("size", optionalLeafOf "int")]) ] := by
  have texts : storeRules.hasTextKeys = true := by decide +kernel
  have distinct : storeRules.hasDistinctTexts = true := by decide +kernel
  have isTree : isRuleTree storeRules = true := by decide +kernel
  exact ⟨texts, distinct, isTree, isLeftOf_resolveOptional _ storeInput texts distinct isTree, rfl⟩

end RuleSchema.Rule
