import RuleSchema.Proofs.Rule.Pruning

/-!
# Rules without the unused optional ones

Unused optional leaves are dropped one after another, and with each of them the records that
this empties.  Whatever the order, the rules are pruned at least of those leaves; and of
nothing else, if each record keeps a leaf.
-/

namespace RuleSchema.Rule

variable {rules value configuration : Document} {gone paths : List DocPath}
  {path below : DocPath}

/-- The optional leaves that are no node of a configuration. -/
def unmentioned (rules configuration : Document) : List DocPath :=
  (pathsWhere isOptional rules).filter fun leaf => !(nodes configuration).contains leaf

/-- A path of fields leads to a leaf. -/
def LeadsToLeaf (rules : Document) (path : DocPath) : Prop :=
  path ≠ [] ∧ ∃ value, Leads rules path value ∧ describesValue value = true

/-- Every record below the root has a leaf at none of some paths. -/
def KeepsRecords (rules : Document) (paths : List DocPath) : Prop :=
  ∀ path value, path ≠ [] → Leads rules path value → describesValue value = false →
    ∃ below, below ≠ [] ∧ LeadsToLeaf rules (path ++ below) ∧ path ++ below ∉ paths

theorem pruneEntries_nil_of_forall {entries : Mapping}
    (each : ∀ entry ∈ entries, ∀ path, prune [] path entry.2 = entry.2) :
    pruneEntries [] path entries = entries := by
  have same : ∀ entry ∈ entries, pruneEntry [] path entry = some entry := by
    intro entry member
    simp [pruneEntry, each entry member]
  rw [pruneEntries_eq, List.filterMap_congr same, List.filterMap_some]

theorem prune_nil : prune [] path value = value := by
  induction value using Document.memberInduction generalizing path with
  | mapping entries each =>
      have unchanged : pruneEntries [] path entries = entries :=
        pruneEntries_nil_of_forall fun entry member path => (each entry.1 entry.2 member).2
      rw [prune, unchanged, ite_self]
  | _ => rfl

/-- A path is spared if only leaves are gone, of which it is none. -/
theorem Leads.spared (leads : Leads rules path value) (tidy : IsTidy rules)
    (leavesOnly : ∀ leaf ∈ gone, LeadsToLeaf rules leaf) (kept : path ∉ gone) :
    Spared gone [] path := by
  rw [spared_iff]
  rintro first ⟨rest, rfl⟩ - isGone
  rcases leavesOnly first isGone with ⟨-, other, toOther, typed⟩
  rcases leads.split with ⟨middle, upper, lower⟩
  rw [upper.unique tidy toOther] at lower
  obtain rfl := lower.eq_nil_of_typed typed
  rw [List.append_nil] at kept
  exact kept isGone

theorem isEmptied_eq_false (tidy : IsTidy rules) (leads : Leads rules (path ++ below) value)
    (further : below ≠ []) : isEmptied rules path = false := by
  rcases leads.split with ⟨middle, upper, lower⟩
  rcases List.exists_cons_of_ne_nil further with ⟨step, rest, rfl⟩
  rcases leads_cons_iff.mp lower with ⟨entries, key, inner, rfl, -, member, free, -⟩
  have isFree : isReserved (PathKey.ofDocument key) = false := free
  have notAll : (entries.all fun entry => isReserved (PathKey.ofDocument entry.1)) = false :=
    List.all_eq_false.mpr ⟨_, member, by simp [isFree]⟩
  rw [isEmptied, upper.get?_eq tidy]
  exact notAll

/-- The record that the last field of a path is in. -/
theorem Leads.exists_record {last : PathKey} (leads : Leads rules (path ++ [last]) value) :
    ∃ record, Leads rules path record ∧ describesValue record = false := by
  rcases leads.split with ⟨record, upper, lower⟩
  rcases leads_cons_iff.mp lower with ⟨entries, _, _, rfl, untyped, -⟩
  exact ⟨_, upper, untyped⟩

/--
What is left of rules is what pruning leaves: at least of the paths that were to go, and of
nothing but some leaves if every record keeps another leaf.
-/
def IsPruned (rules : Document) (paths gone : List DocPath) (left : Document) : Prop :=
  ∃ all, left = prune all [] rules ∧ gone ⊆ all ∧
    (KeepsRecords rules paths → gone ⊆ paths → all ⊆ paths)

theorem isPruned_prune : IsPruned rules paths gone (prune gone [] rules) :=
  ⟨gone, rfl, List.Subset.refl gone, fun _ inside => inside⟩

/-- Dropping goes up through emptied records; it stops at one that keeps a leaf. -/
theorem isPruned_dropEmptied (tidy : IsTidy rules)
    (leavesOnly : ∀ leaf ∈ paths, LeadsToLeaf rules leaf) {steps : List PathKey}
    (leads : Leads rules steps.reverse value) (untyped : describesValue value = false) :
    IsPruned rules paths gone (dropEmptied steps (prune gone [] rules)) := by
  induction steps generalizing gone value with
  | nil => exact isPruned_prune
  | cons key above ih =>
      rw [dropEmptied]
      split
      · next emptied =>
        have notRoot : (key :: above).reverse ≠ [] := by simp
        have parts : (key :: above).reverse = above.reverse ++ [key] := List.reverse_cons
        have removed : without (key :: above).reverse (prune gone [] rules) =
            prune ((key :: above).reverse :: gone) [] rules :=
          without_prune leads notRoot tidy
        rw [removed]
        rcases (parts ▸ leads).exists_record with ⟨record, upper, isRecord⟩
        rcases ih upper isRecord with ⟨all, same, grows, -⟩
        refine ⟨all, same, fun other known => grows (List.mem_cons_of_mem _ known), ?_⟩
        intro keeps inside
        rcases keeps _ value notRoot leads untyped with ⟨below, further, toLeaf, kept⟩
        rcases toLeaf with ⟨-, leaf, toLeaf, -⟩
        have spared := toLeaf.spared tidy (fun leaf isGone => leavesOnly leaf (inside isGone))
          fun isGone => kept (inside isGone)
        have stays := leads_prune_iff.mpr ⟨spared, leaf, toLeaf, rfl⟩
        rw [isEmptied_eq_false tidy.prune stays further] at emptied
        cases emptied
      · exact isPruned_prune

theorem isPruned_dropUnused (tidy : IsTidy rules)
    (leavesOnly : ∀ leaf ∈ paths, LeadsToLeaf rules leaf) {leaf : DocPath}
    (toLeaf : LeadsToLeaf rules leaf) :
    IsPruned rules paths (leaf :: gone) (dropUnused (prune gone [] rules) leaf) := by
  rcases toLeaf with ⟨notRoot, value, leads, -⟩
  rcases List.eq_nil_or_concat leaf with none | ⟨above, last, rfl⟩
  · exact absurd none notRoot
  · rw [List.concat_eq_append] at leads notRoot ⊢
    have removed : without (above ++ [last]) (prune gone [] rules) =
        prune ((above ++ [last]) :: gone) [] rules :=
      without_prune leads notRoot tidy
    rcases leads.exists_record with ⟨record, upper, isRecord⟩
    rw [dropUnused, removed, List.reverse_concat, List.tail_cons]
    exact isPruned_dropEmptied tidy leavesOnly ((List.reverse_reverse above).symm ▸ upper) isRecord

/-- Dropping leaves one after another leaves the rules pruned of all of them. -/
theorem isPruned_foldl_dropUnused (tidy : IsTidy rules)
    (leavesOnly : ∀ leaf ∈ paths, LeadsToLeaf rules leaf) {dropped : List DocPath}
    (toLeaves : ∀ leaf ∈ dropped, LeadsToLeaf rules leaf) :
    IsPruned rules paths (dropped ++ gone) (dropped.foldl dropUnused (prune gone [] rules)) := by
  induction dropped generalizing gone with
  | nil => exact isPruned_prune
  | cons leaf rest ih =>
      rcases List.forall_mem_cons.mp toLeaves with ⟨toLeaf, others⟩
      have step : IsPruned rules paths (leaf :: gone) (dropUnused (prune gone [] rules) leaf) :=
        isPruned_dropUnused tidy leavesOnly toLeaf
      rcases step with ⟨first, here, grows, keeps⟩
      rw [List.foldl_cons, here]
      rcases ih others with ⟨all, later, growsAgain, keepsAgain⟩
      rw [List.append_subset] at growsAgain
      refine ⟨all, later, ?_, fun kept inside => ?_⟩
      · rw [List.append_subset, List.cons_subset]
        rcases List.cons_subset.mp grows with ⟨leafGone, goneStays⟩
        exact ⟨⟨growsAgain.2 leafGone, growsAgain.1⟩, List.Subset.trans goneStays growsAgain.2⟩
      · rw [List.cons_append, List.cons_subset, List.append_subset] at inside
        rcases inside with ⟨leafInside, restInside, goneInside⟩
        refine keepsAgain kept (List.append_subset.mpr ⟨restInside, ?_⟩)
        exact keeps kept (List.cons_subset.mpr ⟨leafInside, goneInside⟩)

/-! ## Optional leaves -/

theorem mem_unmentioned_iff {leaf : DocPath} :
    leaf ∈ unmentioned rules configuration ↔
      leaf ∈ pathsWhere isOptional rules ∧ leaf ∉ pathsWhere isNode configuration := by
  simp [unmentioned, nodes, DocPath.mem_sorted]

theorem mem_optionalPaths_iff :
    path ∈ pathsWhere isOptional rules ↔
      IsFree path ∧ ∃ value, rules.Holds path value ∧ describesValue value = true ∧
        saysOptional value = true := by
  have sameTest : isOptional = fun location => isNode location &&
      (describesValue location.value && saysOptional location.value) := by
    funext location
    rw [isOptional, isLeaf, Bool.and_assoc]
    rfl
  rw [sameTest, mem_pathsWhere_iff fun value => describesValue value && saysOptional value]
  simp only [Bool.and_eq_true]

/-- An optional leaf that does not lie in another leaf is at a path of fields. -/
theorem IsTidy.leads_of_optional (tidy : IsTidy rules) (root : describesValue rules = false)
    (optional : path ∈ pathsWhere isOptional rules)
    (notInLeaf : hasLeafAncestor (leaves rules) path = false) :
    path ≠ [] ∧ ∃ value, Leads rules path value ∧ describesValue value = true ∧
      saysOptional value = true := by
  rcases mem_optionalPaths_iff.mp optional with ⟨free, value, holds, typed, isOptional⟩
  have leads := tidy.leads_of_not_in_leaf root holds free notInLeaf
  exact ⟨holds.ne_nil, value, leads, typed, isOptional⟩

/-- Rules without unused optional leaves are the pruned rules. -/
theorem isPruned_resolveOptional (tidy : IsTidy rules) (root : describesValue rules = false)
    (notInLeaves : ∀ leaf ∈ unmentioned rules configuration,
      hasLeafAncestor (leaves rules) leaf = false) :
    IsPruned rules (unmentioned rules configuration) (unmentioned rules configuration)
      (resolveOptional rules configuration) := by
  have leavesOnly : ∀ leaf ∈ unmentioned rules configuration, LeadsToLeaf rules leaf := by
    intro leaf member
    have optional := (mem_unmentioned_iff.mp member).1
    rcases tidy.leads_of_optional root optional (notInLeaves leaf member) with
      ⟨notRoot, value, leads, typed, -⟩
    exact ⟨notRoot, value, leads, typed⟩
  have run : IsPruned rules (unmentioned rules configuration)
      (unmentioned rules configuration ++ [])
      ((unmentioned rules configuration).foldl dropUnused (prune [] [] rules)) :=
    isPruned_foldl_dropUnused tidy leavesOnly leavesOnly
  rw [List.append_nil, prune_nil] at run
  exact run

end RuleSchema.Rule
