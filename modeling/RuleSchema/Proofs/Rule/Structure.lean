import RuleSchema.Compile.Schema
import RuleSchema.Proofs.Document.Paths
import RuleSchema.Proofs.Document.Reach

/-!
# Nodes, leaves and branches by what their paths lead to

The paths of nodes, leaves and branches are collected by walking the rules.  Here they
are described by the values that the paths lead to, and rules whose structure is accepted
are shown to have a branch at every location above a branch.
-/

namespace RuleSchema

namespace Rule

/-- Whether no step of a path is a reserved key. -/
def IsFree (path : DocPath) : Prop := ∀ step ∈ path, isReserved step = false

/-- Whether a value is a mapping with a `type`. -/
def describesValue (value : Document) : Bool := value.asMapping?.any (·.hasField "type")

/-- A leaf that states a type and nothing else. -/
def leafOf (type : String) : Document := .mapping [(.string "type", .string type)]

/-- A branch of the given rules. -/
def branchOf (rules : List (String × Document)) : Document :=
  .mapping (rules.map fun rule => (.string rule.1, rule.2))

theorem IsFree.of_append {above below : DocPath} (free : IsFree (above ++ below)) :
    IsFree above :=
  fun step member => free step (List.mem_append_left below member)

theorem IsFree.of_append_right {above below : DocPath} (free : IsFree (above ++ below)) :
    IsFree below :=
  fun step member => free step (List.mem_append_right above member)

theorem IsFree.of_cons {step : PathKey} {path : DocPath} (free : IsFree (step :: path)) :
    IsFree path :=
  fun other member => free other (List.mem_cons_of_mem step member)

theorem IsFree.child {path : DocPath} {step : PathKey} (free : IsFree path)
    (notReserved : isReserved step = false) : IsFree (path.child step) := by
  intro other member
  rcases List.mem_append.mp member with above | last
  · exact free other above
  · rw [List.mem_singleton.mp last]
    exact notReserved

theorem isNode_iff {location : Location} :
    isNode location = true ↔
      ∃ step, location.key = some step ∧ IsFree (location.container.child step) := by
  rcases location with ⟨container, key, value⟩
  cases key with
  | none => simp [isNode]
  | some step =>
      simp only [isNode, Bool.and_eq_true, Bool.not_eq_true', Option.some.injEq, exists_eq_left']
      constructor
      · rintro ⟨last, above⟩
        refine IsFree.child ?_ last
        intro other member
        simpa using fun reserved => (List.any_eq_false.mp above) other member reserved
      · intro free
        refine ⟨free step (by simp [DocPath.child]), List.any_eq_false.mpr ?_⟩
        intro other member
        simp [free.of_append other member]

theorem path_of_key {location : Location} {step : PathKey}
    (last : location.key = some step) : location.path = location.container.child step := by
  simp [Location.path, last]

/-- The paths of nodes that pass a test lead to a value that passes it. -/
theorem mem_pathsWhere_iff (test : Document → Bool) {rules : Document} {path : DocPath} :
    path ∈ pathsWhere (fun location => isNode location && test location.value) rules ↔
      IsFree path ∧ ∃ value, rules.Holds path value ∧ test value = true := by
  simp only [pathsWhere, List.mem_map, List.mem_filter, Document.mem_walk_iff,
    Bool.and_eq_true]
  constructor
  · rintro ⟨location, ⟨visited, node, passes⟩, rfl⟩
    rcases isNode_iff.mp node with ⟨step, last, free⟩
    rw [path_of_key last]
    rcases visited with rfl | ⟨other, key, holds⟩
    · simp at last
    · obtain rfl : step = other := by simpa [last] using key
      exact ⟨free, location.value, holds, passes⟩
  · rintro ⟨free, value, holds, passes⟩
    rcases holds.mem_inside [] with ⟨above, step, parts, -⟩
    subst parts
    refine ⟨⟨above, some step, value⟩, ⟨.inr ⟨step, rfl, holds⟩, ?_, passes⟩, rfl⟩
    exact isNode_iff.mpr ⟨step, rfl, free⟩

/-- The paths of nodes lead somewhere and have no reserved key. -/
theorem mem_nodePaths_iff {rules : Document} {path : DocPath} :
    path ∈ pathsWhere isNode rules ↔ IsFree path ∧ ∃ value, rules.Holds path value := by
  simpa using mem_pathsWhere_iff fun _ => true

/-- The paths of leaves lead to a mapping with a `type` and have no reserved key. -/
theorem mem_leafPaths_iff {rules : Document} {path : DocPath} :
    path ∈ pathsWhere isLeaf rules ↔
      IsFree path ∧ ∃ value, rules.Holds path value ∧ describesValue value = true :=
  mem_pathsWhere_iff describesValue

theorem mem_leaves {rules : Document} {path : DocPath} :
    path ∈ leaves rules ↔ path ∈ pathsWhere isLeaf rules :=
  DocPath.mem_sorted

/-- A location at which a lookup finds a mapping with a `type` is a leaf. -/
theorem mem_leaves_of_get? {rules value : Document} {path : DocPath} (free : IsFree path)
    (notRoot : path ≠ []) (found : path.get? rules = some value)
    (typed : describesValue value = true) : path ∈ leaves rules := by
  rw [mem_leaves, mem_leafPaths_iff]
  exact ⟨free, value, Document.holds_of_get? found notRoot, typed⟩

theorem hasLeafAncestor_iff {found : List DocPath} {path : DocPath} :
    hasLeafAncestor found path = true ↔ ∃ leaf ∈ found, leaf.isAncestorOf path = true :=
  List.any_eq_true

/-- A branch is a node, is not a leaf or below one, is a mapping, and is above a leaf. -/
theorem mem_branches_iff {rules : Document} {path : DocPath} :
    path ∈ branches rules ↔
      path ∈ pathsWhere isNode rules ∧ path ∉ leaves rules ∧
        hasLeafAncestor (leaves rules) path = false ∧
        (∃ value, path.get? rules = some value ∧ value.isMapping = true) ∧
        ∃ leaf ∈ leaves rules, path.isAncestorOf leaf = true := by
  simp only [branches, nodes, List.mem_filter, DocPath.mem_sorted, isBranch, Bool.and_eq_true,
    Bool.not_eq_true', List.any_eq_true, Option.any_eq_true_iff_get, and_assoc]
  refine and_congr_right fun _ => and_congr ?_ (and_congr_right fun _ => and_congr_left fun _ => ?_)
  · simp
  · cases path.get? rules <;> simp

theorem IsFree.of_mem_branches {rules : Document} {path : DocPath}
    (branch : path ∈ branches rules) : IsFree path :=
  (mem_nodePaths_iff.mp (mem_branches_iff.mp branch).1).1

theorem ne_nil_of_mem_branches {rules : Document} {path : DocPath}
    (branch : path ∈ branches rules) : path ≠ [] := by
  rcases mem_nodePaths_iff.mp (mem_branches_iff.mp branch).1 with ⟨-, value, holds⟩
  exact holds.ne_nil

end Rule

namespace Schema

open Rule

/-- The structure of rules is accepted when each node is a leaf, a branch, or below a leaf. -/
theorem checkStructure_eq_ok_iff {rules : Document} {found waiting : List DocPath} :
    checkStructure rules found waiting = .ok () ↔
      ∀ node ∈ pathsWhere isNode rules,
        node ∈ found ∨ node ∈ waiting ∨ hasLeafAncestor found node = true := by
  rw [checkStructure]
  split
  · next node hit =>
    have member := List.mem_of_find?_eq_some hit
    have stray := List.find?_some hit
    simp only [Bool.not_eq_true', Bool.or_eq_false_iff] at stray
    rcases stray with ⟨⟨noLeaf, noBranch⟩, notBelow⟩
    constructor
    · intro accepted
      cases accepted
    · intro all
      rcases all node member with leaf | branch | below
      · simp [leaf] at noLeaf
      · simp [branch] at noBranch
      · simp [below] at notBelow
  · next none =>
    refine ⟨fun _ node member => ?_, fun _ => rfl⟩
    have placed := List.find?_eq_none.mp none node member
    rw [Bool.not_eq_true, Bool.not_eq_false'] at placed
    simpa only [Bool.or_eq_true, List.contains_eq_mem, decide_eq_true_eq, or_assoc] using placed

/-- Where the structure is accepted, the locations above a branch are branches. -/
theorem mem_branches_of_append {rules : Document} {above below : DocPath}
    (accepted : checkStructure rules (leaves rules) (branches rules) = .ok ())
    (branch : above ++ below ∈ branches rules) (notRoot : above ≠ []) :
    above ∈ branches rules := by
  by_cases whole : below = []
  · simpa [whole] using branch
  · rcases mem_branches_iff.mp branch with ⟨node, noLeaf, notBelow, mapping, leaf, isLeaf, deeper⟩
    rcases mem_nodePaths_iff.mp node with ⟨free, value, holds⟩
    rcases holds.split above below rfl notRoot whole with ⟨middle, upper, -⟩
    have aboveNode : above ∈ pathsWhere isNode rules :=
      mem_nodePaths_iff.mpr ⟨free.of_append, middle, upper⟩
    have isAbove : above.isAncestorOf (above ++ below) = true :=
      DocPath.isAncestorOf_iff.mpr ⟨below, whole, rfl⟩
    rcases checkStructure_eq_ok_iff.mp accepted above aboveNode with ownLeaf | found | under
    · have : hasLeafAncestor (leaves rules) (above ++ below) = true :=
        hasLeafAncestor_iff.mpr ⟨above, ownLeaf, isAbove⟩
      simp [this] at notBelow
    · exact found
    · rcases hasLeafAncestor_iff.mp under with ⟨higher, higherLeaf, upward⟩
      have : hasLeafAncestor (leaves rules) (above ++ below) = true :=
        hasLeafAncestor_iff.mpr
          ⟨higher, higherLeaf, DocPath.isAncestorOf_trans upward isAbove⟩
      simp [this] at notBelow

/-- No leaf is at or above a record, which is the root or a branch. -/
theorem not_mem_leaves_of_record {rules : Document} {above path : DocPath}
    (isRecord : path ≠ [] → path ∈ branches rules) (upper : above <+: path) :
    above ∉ leaves rules := by
  intro isLeaf
  rcases mem_leafPaths_iff.mp (Rule.mem_leaves.mp isLeaf) with ⟨-, _, holds, -⟩
  rcases upper with ⟨below, rfl⟩
  have branch := isRecord (by simp [holds.ne_nil])
  rcases mem_branches_iff.mp branch with ⟨-, noLeaf, notBelow, -, -⟩
  by_cases whole : below = []
  · simp [whole, isLeaf] at noLeaf
  · have higher : hasLeafAncestor (leaves rules) (above ++ below) = true :=
      hasLeafAncestor_iff.mpr ⟨above, isLeaf, DocPath.isAncestorOf_iff.mpr ⟨below, whole, rfl⟩⟩
    simp [higher] at notBelow

/-- What a record, at the root or a branch, has at a key not reserved is a leaf or a branch. -/
theorem leaf_or_branch_of_child {rules node : Document} {path : DocPath} {entries : Mapping}
    (accepted : checkStructure rules (leaves rules) (branches rules) = .ok ())
    (found : path.get? rules = some node) (mapping : node.asMapping? = some entries)
    (isRecord : path ≠ [] → path ∈ branches rules) {key value : Document}
    (member : (key, value) ∈ entries) (free : isReservedText key.keyText = false) :
    path.child (PathKey.ofDocument key) ∈ leaves rules ∨
      path.child (PathKey.ofDocument key) ∈ branches rules := by
  have pathFree : IsFree path := by
    by_cases root : path = []
    · simp [root, IsFree]
    · exact .of_mem_branches (isRecord root)
  have node : path.child (PathKey.ofDocument key) ∈ pathsWhere isNode rules :=
    mem_nodePaths_iff.mpr
      ⟨pathFree.child free, value, Document.holds_child_of_get? found mapping member⟩
  rcases checkStructure_eq_ok_iff.mp accepted _ node with leaf | branch | below
  · exact .inl leaf
  · exact .inr branch
  · rcases hasLeafAncestor_iff.mp below with ⟨outer, isLeaf, isAbove⟩
    have upper := DocPath.isAncestorOf_child_iff.mp isAbove
    exact absurd isLeaf (not_mem_leaves_of_record isRecord upper)

end Schema

end RuleSchema
