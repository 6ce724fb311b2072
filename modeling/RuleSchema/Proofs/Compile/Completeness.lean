import RuleSchema.Proofs.Compile.Rounds
import RuleSchema.Proofs.Level.Collecting

/-!
# When the rounds assemble every branch

The first round takes the branches whose keys are not all among the keys of another branch.
Later rounds also take every branch that is ready, and among branches that are left over
a longest one is ready; so the rounds end only when every branch is assembled, provided
that they begin.  They do not begin when each branch is hidden by another one, as two
branches of the same keys hide each other.
-/

namespace RuleSchema

namespace Rule

/-- There are no paths, or one of them has, against each other one, a key of its own. -/
def Exposed (paths : List DocPath) : Prop :=
  paths ≠ [] → ∃ path ∈ paths, ∀ other ∈ paths, other ≠ path → ∃ step ∈ path, step ∉ other

theorem mem_deepest_iff {paths : List DocPath} {path : DocPath} :
    path ∈ deepest paths ↔
      path ∈ paths ∧ ∀ other ∈ paths, other ≠ path → ∃ step ∈ path, step ∉ other := by
  rw [deepest, List.mem_filter]
  apply and_congr_right
  intro _
  simp only [Bool.not_eq_true', List.any_eq_false, Bool.and_eq_true, bne_iff_ne, ne_eq,
    List.all_eq_true, List.contains_eq_mem, decide_eq_true_eq, not_and, Classical.not_forall,
    exists_prop]
  constructor
  · intro alone other member different
    exact alone other member (Ne.symm different)
  · intro alone other member different
    exact alone other member (Ne.symm different)

theorem exposed_iff {paths : List DocPath} :
    Exposed paths ↔ (paths ≠ [] → deepest paths ≠ []) := by
  constructor
  · intro exposed some
    rcases exposed some with ⟨path, alone⟩
    exact List.ne_nil_of_mem (mem_deepest_iff.mpr alone)
  · intro begins some
    rcases List.exists_mem_of_ne_nil _ (begins some) with ⟨path, first⟩
    exact ⟨path, mem_deepest_iff.mp first⟩

end Rule

namespace Schema

variable {registry : Registry} {rules : Document} {branches : List DocPath}
  {before after : ResolvedFields}

/-! ## Readiness -/

theorem isReady_mono (grows : ∀ path, before.has path = true → after.has path = true)
    {path : DocPath} (ready : isReady branches before path = true) :
    isReady branches after path = true := by
  rw [isReady_iff] at ready ⊢
  intro branch member below
  exact grows branch (ready branch member below)

/-- A branch that no other hides has no branch below it. -/
theorem isReady_of_mem_deepest {path : DocPath} (deepest : path ∈ Rule.deepest branches) :
    isReady branches before path = true := by
  rw [isReady_iff]
  intro branch member below
  rcases DocPath.isAncestorOf_iff.mp below with ⟨rest, notEmpty, rfl⟩
  have different : path ++ rest ≠ path := by simpa using notEmpty
  rcases (Rule.mem_deepest_iff.mp deepest).2 _ member different with ⟨step, own, absent⟩
  exact absurd (List.mem_append_left rest own) absent

/-- Of some paths, one is as long as any other. -/
theorem exists_longest {paths : List DocPath} (notEmpty : paths ≠ []) :
    ∃ path ∈ paths, ∀ other ∈ paths, other.length ≤ path.length := by
  induction paths with
  | nil => exact absurd rfl notEmpty
  | cons head rest ih =>
      by_cases last : rest = []
      · subst last
        exact ⟨head, List.mem_cons_self, by simp⟩
      · rcases ih last with ⟨path, member, longest⟩
        by_cases longer : path.length ≤ head.length
        · refine ⟨head, List.mem_cons_self, ?_⟩
          intro other otherMember
          rcases List.mem_cons.mp otherMember with rfl | later
          · exact Nat.le_refl _
          · exact Nat.le_trans (longest other later) longer
        · refine ⟨path, List.mem_cons_of_mem _ member, ?_⟩
          intro other otherMember
          rcases List.mem_cons.mp otherMember with rfl | later
          · omega
          · exact longest other later

/-- The branches without a field. -/
def missing (branches : List DocPath) (resolved : ResolvedFields) : List DocPath :=
  branches.filter fun path => !resolved.has path

theorem mem_missing_iff {resolved : ResolvedFields} {path : DocPath} :
    path ∈ missing branches resolved ↔ path ∈ branches ∧ resolved.has path = false := by
  simp [missing]

theorem missing_eq_nil_iff {resolved : ResolvedFields} :
    missing branches resolved = [] ↔ ∀ path ∈ branches, resolved.has path = true := by
  simp [missing]

theorem missing_eq_nil_mono (grows : ∀ path, before.has path = true → after.has path = true)
    (complete : missing branches before = []) : missing branches after = [] := by
  rw [missing_eq_nil_iff] at complete ⊢
  intro path branch
  exact grows path (complete path branch)

/-- While branches are missing, one of them is ready. -/
theorem exists_ready {resolved : ResolvedFields} (some : missing branches resolved ≠ []) :
    ∃ path ∈ missing branches resolved, isReady branches resolved path = true := by
  rcases exists_longest some with ⟨path, member, longest⟩
  refine ⟨path, member, ?_⟩
  rw [isReady_iff]
  intro branch isBranch below
  cases known : resolved.has branch with
  | true => rfl
  | false =>
      have shorter := longest branch (mem_missing_iff.mpr ⟨isBranch, known⟩)
      have longer := DocPath.length_lt_of_isAncestorOf below
      omega

/-- Fewer branches are missing once one that was missing is known. -/
theorem length_missing_lt (grows : ∀ path, before.has path = true → after.has path = true)
    {path : DocPath} (was : path ∈ missing branches before) (known : after.has path = true) :
    (missing branches after).length < (missing branches before).length := by
  have part : missing branches after =
      (missing branches before).filter fun path => !after.has path := by
    rw [missing, missing, List.filter_filter]
    apply List.filter_congr
    intro other _
    cases now : after.has other with
    | true => simp
    | false =>
        have earlier : before.has other = false := by
          cases old : before.has other with
          | false => rfl
          | true => simp [grows other old] at now
        simp [earlier]
  rw [part]
  apply List.length_filter_lt_length_iff_exists.mpr
  exact ⟨path, was, by simp [known]⟩

/-! ## Rounds -/

/-- A round assembles the ready branches that wait for it. -/
theorem has_of_assemble {remaining : List DocPath}
    (areBranches : ∀ path ∈ remaining, path ∈ branches)
    (round : assemble registry rules branches before remaining = .ok after) {path : DocPath}
    (waits : path ∈ remaining) (ready : isReady branches before path = true) :
    after.has path = true := by
  induction remaining generalizing before with
  | nil => cases waits
  | cons head rest ih =>
      have others : ∀ other ∈ rest, other ∈ branches :=
        fun other member => areBranches other (List.mem_cons_of_mem _ member)
      rw [assemble] at round
      split at round
      · next skipped =>
        rcases List.mem_cons.mp waits with rfl | later
        · have known : before.has path = true := by simpa [ready] using skipped
          exact (assembles_of_assemble others round).has_mono known
        · exact ih others round later ready
      · rcases except_bind_eq_ok.mp round with ⟨entries, found, afterEntries⟩
        rcases except_bind_eq_ok.mp afterEntries with ⟨field, built, rest⟩
        rcases List.mem_cons.mp waits with rfl | later
        · exact (assembles_of_assemble others rest).has_mono (by simp)
        · refine ih others rest later (isReady_mono ?_ ready)
          intro other known
          simp [known]

/-- Rounds that begin end with every branch assembled. -/
theorem has_of_rounds {count : Nat} {remaining : List DocPath}
    (accepted : checkStructure rules (Rule.leaves rules) (Rule.branches rules) = .ok ())
    (areBranches : ∀ path ∈ remaining, path ∈ Rule.branches rules)
    (live : missing (Rule.branches rules) before ≠ [] →
      ∃ path ∈ remaining, path ∈ missing (Rule.branches rules) before ∧
        isReady (Rule.branches rules) before path = true)
    (enough : (missing (Rule.branches rules) before).length ≤ count)
    (run : rounds registry rules (Rule.branches rules) count before remaining = .ok after) :
    missing (Rule.branches rules) after = [] := by
  -- On the rounds left: as long as a branch is missing, a missing one waits and is ready, so
  -- that each round lowers the number of missing ones.
  induction count generalizing before remaining with
  | zero =>
      have same : before = after := by simpa [rounds] using run
      rw [← same]
      exact List.eq_nil_of_length_eq_zero (Nat.le_zero.mp enough)
  | succ count ih =>
      rw [rounds] at run
      split at run
      · next noneWaits =>
        have same : before = after := by simpa using run
        rw [← same]
        apply Classical.byContradiction
        intro left
        rcases live left with ⟨path, waits, -⟩
        simp [List.isEmpty_iff.mp noneWaits] at waits
      · rcases except_bind_eq_ok.mp run with ⟨next, round, rest⟩
        have grows : ∀ path, before.has path = true → next.has path = true :=
          fun path known => (assembles_of_assemble areBranches round).has_mono known
        refine ih ?_ ?_ ?_ rest
        · intro path waits
          exact mem_branches_of_waiting accepted areBranches waits
        · intro left
          rcases exists_ready left with ⟨path, missed, ready⟩
          have branch := (mem_missing_iff.mp missed).1
          have unknown := (mem_missing_iff.mp missed).2
          exact ⟨path, mem_waiting_iff.mpr ⟨.inr ⟨branch, ready⟩, unknown⟩, missed, ready⟩
        · by_cases left : missing (Rule.branches rules) before = []
          · simp [missing_eq_nil_mono grows left]
          · rcases live left with ⟨path, waits, missed, ready⟩
            have known := has_of_assemble areBranches round waits ready
            have fewer := length_missing_lt grows missed known
            omega

/-! ## The whole assembly -/

/-- Once the leaves are resolved, each has a field. -/
theorem has_of_leaf {fields : ResolvedFields}
    (leaves :
      (resolveLeaves registry rules [] (Rule.pathsWhere Rule.isLeaf rules)).result = .ok fields)
    {path : DocPath} (leaf : path ∈ Rule.leaves rules) : fields.has path = true :=
  (has_of_resolveLeaves leaves path).mpr (.inl (Rule.mem_leaves.mp leaf))

/-- Once the leaves are resolved, all branches are missing. -/
theorem has_eq_false_of_branch {fields : ResolvedFields}
    (leaves :
      (resolveLeaves registry rules [] (Rule.pathsWhere Rule.isLeaf rules)).result = .ok fields)
    {path : DocPath} (branch : path ∈ Rule.branches rules) : fields.has path = false := by
  rw [Bool.eq_false_iff]
  intro known
  rcases (has_of_resolveLeaves leaves path).mp known with leaf | none
  · exact (Rule.mem_branches_iff.mp branch).2.1 (Rule.mem_leaves.mpr leaf)
  · rw [ResolvedFields.has_nil] at none
    cases none

/-- The rounds leave no branch out exactly when some branch is not hidden by another. -/
theorem missing_eq_nil_iff_exposed {fields resolved : ResolvedFields}
    (accepted : checkStructure rules (Rule.leaves rules) (Rule.branches rules) = .ok ())
    (leaves :
      (resolveLeaves registry rules [] (Rule.pathsWhere Rule.isLeaf rules)).result = .ok fields)
    (run : rounds registry rules (Rule.branches rules) (Rule.branches rules).length fields
      (Rule.deepest (Rule.branches rules)) = .ok resolved) :
    missing (Rule.branches rules) resolved = [] ↔ Rule.Exposed (Rule.branches rules) := by
  rw [Rule.exposed_iff]
  constructor
  · intro complete some hidden
    have same : fields = resolved := by
      rw [hidden] at run
      cases count : (Rule.branches rules).length <;> simpa [rounds, count] using run
    rcases List.exists_mem_of_ne_nil _ some with ⟨path, branch⟩
    have known := missing_eq_nil_iff.mp complete path branch
    rw [← same, has_eq_false_of_branch leaves branch] at known
    cases known
  · intro begins
    refine has_of_rounds accepted (fun _ => mem_branches_of_deepest) ?_ ?_ run
    · intro left
      rcases List.exists_mem_of_ne_nil _ left with ⟨path, missed⟩
      have some := List.ne_nil_of_mem (mem_missing_iff.mp missed).1
      rcases List.exists_mem_of_ne_nil _ (begins some) with ⟨first, deepest⟩
      have branch := mem_branches_of_deepest deepest
      have unknown := has_eq_false_of_branch leaves branch
      exact
        ⟨first, deepest, mem_missing_iff.mpr ⟨branch, unknown⟩,
          isReady_of_mem_deepest deepest⟩
    · exact List.length_filter_le _ _

/--
A record that is ready has a resolved field for every entry that stands for one.  Readiness
asks for the branches below only; an entry that is no branch is a leaf, as the structure has
no other, and leaves are resolved from the start.
-/
theorem has_child_of_ready {entries : Mapping} {resolved : ResolvedFields} {path : DocPath}
    (accepted : checkStructure rules (Rule.leaves rules) (Rule.branches rules) = .ok ())
    (leavesKnown : ∀ leaf ∈ Rule.leaves rules, resolved.has leaf = true)
    (isRecord : path ≠ [] → path ∈ Rule.branches rules)
    (ready : isReady (Rule.branches rules) resolved path = true)
    (found : mappingAt rules path = .ok entries) {key value : Document}
    (member : (key, value) ∈ entries) (free : Rule.isReservedText key.keyText = false) :
    resolved.has (path.child (PathKey.ofDocument key)) = true := by
  rcases mappingAt_eq_ok_iff.mp found with ⟨node, lookup, mapping⟩
  rcases leaf_or_branch_of_child accepted lookup mapping isRecord member free with leaf | branch
  · exact leavesKnown _ leaf
  · have below : path.isAncestorOf (path.child (PathKey.ofDocument key)) = true :=
      DocPath.isAncestorOf_child_iff.mpr (List.prefix_refl path)
    exact isReady_iff.mp ready _ branch below

/-- A record that is ready collects its level. -/
theorem exists_collect_of_ready {entries : Mapping} {resolved : ResolvedFields} {path : DocPath}
    (accepted : checkStructure rules (Rule.leaves rules) (Rule.branches rules) = .ok ())
    (leavesKnown : ∀ leaf ∈ Rule.leaves rules, resolved.has leaf = true)
    (isRecord : path ≠ [] → path ∈ Rule.branches rules)
    (ready : isReady (Rule.branches rules) resolved path = true)
    (found : mappingAt rules path = .ok entries) :
    ∃ level, Level.collect path entries resolved = .ok level := by
  have everyField : ∃ fields, Level.fieldsOf path resolved entries = .ok fields :=
    Level.exists_fieldsOf_iff.mpr fun _ _ member free =>
      has_child_of_ready accepted leavesKnown isRecord ready found member free
  rcases everyField with ⟨fields, gathered⟩
  exact ⟨⟨fields, []⟩, except_map_eq_ok.mpr ⟨fields, gathered, rfl⟩⟩

/-- Where no branch is missing, the level at the root is collected. -/
theorem exists_collect_of_complete {entries : Mapping} {fields resolved : ResolvedFields}
    (mapping : rules.asMapping? = some entries)
    (accepted : checkStructure rules (Rule.leaves rules) (Rule.branches rules) = .ok ())
    (leaves :
      (resolveLeaves registry rules [] (Rule.pathsWhere Rule.isLeaf rules)).result = .ok fields)
    (grows : ∀ path, fields.has path = true → resolved.has path = true)
    (complete : missing (Rule.branches rules) resolved = []) :
    ∃ level, Level.collect [] entries resolved = .ok level := by
  have ready : isReady (Rule.branches rules) resolved [] = true :=
    isReady_iff.mpr fun branch member _ => missing_eq_nil_iff.mp complete branch member
  have found : mappingAt rules [] = .ok entries := mappingAt_eq_ok_iff.mpr ⟨rules, rfl, mapping⟩
  have leavesKnown : ∀ leaf ∈ Rule.leaves rules, resolved.has leaf = true :=
    fun leaf isLeaf => grows leaf (has_of_leaf leaves isLeaf)
  exact exists_collect_of_ready accepted leavesKnown (absurd rfl) ready found

/-- Where the level at the root is collected, some record at the root was assembled. -/
theorem exists_has_of_collect {entries : Mapping} {resolved : ResolvedFields}
    (mapping : rules.asMapping? = some entries)
    (accepted : checkStructure rules (Rule.leaves rules) (Rule.branches rules) = .ok ())
    (some : Rule.branches rules ≠ []) {level : Level}
    (collected : Level.collect [] entries resolved = .ok level) :
    ∃ path ∈ Rule.branches rules, resolved.has path = true := by
  rcases List.exists_mem_of_ne_nil _ some with ⟨path, branch⟩
  rcases List.exists_cons_of_ne_nil (Rule.ne_nil_of_mem_branches branch) with ⟨step, rest, rfl⟩
  have joined : [step] ++ rest ∈ Rule.branches rules := branch
  have top : [step] ∈ Rule.branches rules := mem_branches_of_append accepted joined (by simp)
  rcases Rule.mem_nodePaths_iff.mp (Rule.mem_branches_iff.mp top).1 with ⟨free, value, holds⟩
  rcases holds.entry_of_asMapping? mapping with ⟨key, member, rfl⟩
  rcases except_map_eq_ok.mp collected with ⟨found, gathered, -⟩
  have notReserved : Rule.isReservedText key.keyText = false := free _ List.mem_cons_self
  exact ⟨_, top, Level.exists_fieldsOf_iff.mp ⟨found, gathered⟩ key value member notReserved⟩

/--
When the rounds are over, every branch is assembled, and the root finds a field for each of
its entries, exactly when there are no branches or one of them is not hidden by another.
-/
theorem assembly_complete_iff_exposed (registry : Registry) (rules : Document)
    (entries : Mapping) (fields resolved : ResolvedFields)
    (mapping : rules.asMapping? = some entries)
    (accepted : checkStructure rules (Rule.leaves rules) (Rule.branches rules) = .ok ())
    (leaves :
      (resolveLeaves registry rules [] (Rule.pathsWhere Rule.isLeaf rules)).result = .ok fields)
    (run : rounds registry rules (Rule.branches rules) (Rule.branches rules).length fields
      (Rule.deepest (Rule.branches rules)) = .ok resolved) :
    ((∀ path ∈ Rule.branches rules, resolved.has path = true) ↔
        Rule.Exposed (Rule.branches rules)) ∧
      ((∃ level, Level.collect [] entries resolved = .ok level) ↔
        Rule.Exposed (Rule.branches rules)) := by
  have complete := missing_eq_nil_iff_exposed accepted leaves run
  have assembled := assembles_of_rounds accepted (fun _ => mem_branches_of_deepest) run
  refine ⟨by rw [← missing_eq_nil_iff, complete], ?_, ?_⟩
  · rintro ⟨level, collected⟩
    rw [Rule.exposed_iff]
    intro some hidden
    have same : fields = resolved := by
      rw [hidden] at run
      cases count : (Rule.branches rules).length <;> simpa [rounds, count] using run
    rcases exists_has_of_collect mapping accepted some collected with ⟨path, branch, known⟩
    rw [← same, has_eq_false_of_branch leaves branch] at known
    cases known
  · intro exposed
    exact
      exists_collect_of_complete mapping accepted leaves (fun _ known => assembled.has_mono known)
        (complete.mpr exposed)

/-- Two records, each below the name of the other; neither has a key that the other lacks. -/
def crossedEntries : Mapping :=
  [(.string "a", Rule.branchOf [("b", Rule.branchOf [("x", Rule.leafOf "int")])]),
    (.string "b", Rule.branchOf [("a", Rule.branchOf [("y", Rule.leafOf "int")])])]

/-- Beside a deeper record of its name, a record is hidden only until a round is over. -/
def shadowedEntries : Mapping :=
  [(.string "a", Rule.branchOf [("b", Rule.branchOf [("x", Rule.leafOf "int")])]),
    (.string "b", Rule.branchOf [("y", Rule.leafOf "int")])]

theorem assembly_complete_iff_exposed_shadowed :
    ∃ fields resolved,
      (resolveLeaves .standard (.mapping shadowedEntries) []
        (Rule.pathsWhere Rule.isLeaf (.mapping shadowedEntries))).result = .ok fields ∧
      rounds .standard (.mapping shadowedEntries) (Rule.branches (.mapping shadowedEntries))
        (Rule.branches (.mapping shadowedEntries)).length fields
        (Rule.deepest (Rule.branches (.mapping shadowedEntries))) = .ok resolved ∧
      ((∀ path ∈ Rule.branches (.mapping shadowedEntries), resolved.has path = true) ↔
        Rule.Exposed (Rule.branches (.mapping shadowedEntries))) ∧
      ((∃ level, Level.collect [] shadowedEntries resolved = .ok level) ↔
        Rule.Exposed (Rule.branches (.mapping shadowedEntries))) := by
  have compiles :
      (typeOf .standard (.mapping shadowedEntries) shadowedEntries).result.isOk = true := by
    decide +kernel
  rcases exists_of_isOk compiles with ⟨type, typed⟩
  rcases typeOf_eq_ok typed with ⟨fields, resolved, accepted, leaves, run, -⟩
  exact
    ⟨fields, resolved, leaves, run,
      assembly_complete_iff_exposed .standard (.mapping shadowedEntries) shadowedEntries fields
        resolved rfl accepted leaves run⟩

/-- The rounds of crossed records do not begin, and the root has no field for the first one. -/
theorem assembly_incomplete_crossed :
    checkStructure (.mapping crossedEntries) (Rule.leaves (.mapping crossedEntries))
        (Rule.branches (.mapping crossedEntries)) = .ok () ∧
      (∀ path ∈ Rule.pathsWhere Rule.isNode (.mapping crossedEntries), path.Nodup) ∧
      ∃ fields resolved,
        (resolveLeaves .standard (.mapping crossedEntries) []
          (Rule.pathsWhere Rule.isLeaf (.mapping crossedEntries))).result = .ok fields ∧
        rounds .standard (.mapping crossedEntries) (Rule.branches (.mapping crossedEntries))
          (Rule.branches (.mapping crossedEntries)).length fields
          (Rule.deepest (Rule.branches (.mapping crossedEntries))) = .ok resolved ∧
        [.key "a"] ∈ Rule.branches (.mapping crossedEntries) ∧
        resolved.has [.key "a"] = false ∧
        Level.collect [] crossedEntries resolved =
          .error (.invalidTypeSpec [.key "a"] "expected a mapping with a 'type' key") := by
  have accepted : checkStructure (.mapping crossedEntries) (Rule.leaves (.mapping crossedEntries))
      (Rule.branches (.mapping crossedEntries)) = .ok () := by
    rw [checkStructure_eq_ok_iff]
    decide
  have resolves : (resolveLeaves .standard (.mapping crossedEntries) []
      (Rule.pathsWhere Rule.isLeaf (.mapping crossedEntries))).result.isOk = true := by
    decide +kernel
  have branch : [.key "a"] ∈ Rule.branches (.mapping crossedEntries) := by decide
  have hidden : Rule.deepest (Rule.branches (.mapping crossedEntries)) = [] := by decide
  rcases exists_of_isOk resolves with ⟨fields, leaves⟩
  have unknown : fields.has [.key "a"] = false := has_eq_false_of_branch leaves branch
  refine ⟨accepted, by decide, fields, fields, leaves, ?_, branch, unknown, ?_⟩
  · rw [hidden]
    cases (Rule.branches (.mapping crossedEntries)).length <;> rfl
  · have inside : DocPath.child [] (PathKey.ofDocument (.string "a")) = [.key "a"] := by decide
    have absent : fields.get? [.key "a"] = none := by simpa [ResolvedFields.has] using unknown
    have notReserved : Rule.isReservedText (Document.keyText (.string "a")) = false := by decide
    simp [Level.collect, crossedEntries, Level.fieldsOf, notReserved, inside, absent, Except.map]

end Schema

end RuleSchema
