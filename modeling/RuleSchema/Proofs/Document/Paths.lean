import RuleSchema.Document.Path

/-!
# Order and ancestry of paths

Sorting a list of paths keeps its members.  A path lies strictly below another when it
continues it.
-/

namespace RuleSchema

theorem PathKey.compare_eq_iff {left right : PathKey} :
    left.compare right = .eq ↔ left = right := by
  cases left <;> cases right <;> simp [PathKey.compare]

namespace DocPath

theorem compare_eq_iff {left right : DocPath} : left.compare right = .eq ↔ left = right := by
  induction left generalizing right with
  | nil => cases right <;> simp [DocPath.compare]
  | cons step rest ih =>
      cases right with
      | nil => simp [DocPath.compare]
      | cons other others =>
          rw [DocPath.compare, List.cons.injEq, ← PathKey.compare_eq_iff, ← ih]
          cases step.compare other <;> simp

theorem mem_insertInto {path other : DocPath} {paths : List DocPath} :
    other ∈ insertInto path paths ↔ other = path ∨ other ∈ paths := by
  induction paths with
  | nil => simp [insertInto]
  | cons head rest ih =>
      rw [insertInto]
      split
      · simp
      · next same =>
        rw [compare_eq_iff] at same
        subst same
        simp
      · simp only [List.mem_cons, ih]
        exact or_left_comm

/-- Sorting adds no path and loses none. -/
@[simp]
theorem mem_sorted {path : DocPath} {paths : List DocPath} :
    path ∈ sorted paths ↔ path ∈ paths := by
  have gathered : ∀ built : List DocPath,
      path ∈ paths.foldl (fun built path => insertInto path built) built ↔
        path ∈ paths ∨ path ∈ built := by
    induction paths with
    | nil => simp
    | cons head rest ih =>
        intro built
        rw [List.foldl_cons, ih, mem_insertInto, List.mem_cons, or_left_comm, or_assoc]
  rw [sorted, gathered]
  simp

/-- A path lies strictly below another when it continues it. -/
theorem isAncestorOf_iff {path other : DocPath} :
    path.isAncestorOf other = true ↔ ∃ below, below ≠ [] ∧ other = path ++ below := by
  rw [isAncestorOf, isPrefixOf, Bool.and_eq_true, decide_eq_true_eq,
    List.isPrefixOf_iff_prefix]
  constructor
  · rintro ⟨longer, below, rfl⟩
    refine ⟨below, ?_, rfl⟩
    rintro rfl
    simp at longer
  · rintro ⟨below, notEmpty, rfl⟩
    have := List.length_pos_iff.mpr notEmpty
    exact ⟨by simpa using this, below, rfl⟩

theorem length_lt_of_isAncestorOf {path other : DocPath}
    (above : path.isAncestorOf other = true) : path.length < other.length := by
  rcases isAncestorOf_iff.mp above with ⟨below, notEmpty, rfl⟩
  have := List.length_pos_iff.mpr notEmpty
  simpa using this

/-- What lies strictly above a step from a path is the path or lies above it. -/
theorem isAncestorOf_child_iff {above path : DocPath} {step : PathKey} :
    above.isAncestorOf (path.child step) = true ↔ above <+: path := by
  rw [isAncestorOf, isPrefixOf, Bool.and_eq_true, decide_eq_true_eq, List.isPrefixOf_iff_prefix,
    child, List.prefix_concat_iff]
  constructor
  · rintro ⟨shorter, rfl | upper⟩
    · exact absurd shorter (Nat.lt_irrefl _)
    · exact upper
  · intro upper
    have notLonger := upper.length_le
    exact ⟨by simpa using Nat.lt_succ_of_le notLonger, .inr upper⟩

theorem isAncestorOf_trans {path middle other : DocPath}
    (upper : path.isAncestorOf middle = true) (lower : middle.isAncestorOf other = true) :
    path.isAncestorOf other = true := by
  rcases isAncestorOf_iff.mp upper with ⟨first, notEmpty, rfl⟩
  rcases isAncestorOf_iff.mp lower with ⟨second, _, rfl⟩
  refine isAncestorOf_iff.mpr ⟨first ++ second, ?_, by simp⟩
  simp [notEmpty]

end DocPath

end RuleSchema
