import RuleSchema.Proofs.Compile.Completeness

/-!
# The rounds end

The rounds of the assembly are described without a bound on their number, as the states that
one round after another leads to.  In each of them only missing branches wait, and if some do,
one of these is ready.  So a round that does not fail assembles a branch that was missing, and
there are no more rounds than branches: the bound with which the rounds are run is never met.
-/

namespace RuleSchema

namespace Schema

variable {registry : Registry} {rules : Document} {fields resolved : ResolvedFields}
  {remaining : List DocPath} {count : Nat}

/-- The fields and the waiting branches after a number of rounds, none of which failed. -/
inductive Reaches (registry : Registry) (rules : Document) (fields : ResolvedFields) :
    Nat → ResolvedFields → List DocPath → Prop where
  | start : Reaches registry rules fields 0 fields (Rule.deepest (Rule.branches rules))
  | round {count : Nat} {resolved next : ResolvedFields} {remaining : List DocPath}
      (before : Reaches registry rules fields count resolved remaining)
      (some : remaining ≠ [])
      (assembled : assemble registry rules (Rule.branches rules) resolved remaining = .ok next) :
      Reaches registry rules fields (count + 1) next
        (waiting (Rule.branches rules) next remaining)

/-- The number of rounds until none waits or one fails, the failing one counted, and the result. -/
inductive Ends (registry : Registry) (rules : Document) (fields : ResolvedFields) :
    Nat → Except CompileError ResolvedFields → Prop where
  | done {count : Nat} {resolved : ResolvedFields}
      (after : Reaches registry rules fields count resolved []) :
      Ends registry rules fields count (.ok resolved)
  | failed {count : Nat} {resolved : ResolvedFields} {remaining : List DocPath}
      {error : CompileError} (after : Reaches registry rules fields count resolved remaining)
      (some : remaining ≠ [])
      (failure : assemble registry rules (Rule.branches rules) resolved remaining =
        .error error) :
      Ends registry rules fields (count + 1) (.error error)

/-! ## One round -/

/-- Only missing branches wait, and one of them is ready. -/
structure IsLive (branches : List DocPath) (resolved : ResolvedFields)
    (remaining : List DocPath) : Prop where
  missing : ∀ path ∈ remaining, path ∈ missing branches resolved
  ready : remaining ≠ [] → ∃ path ∈ remaining, isReady branches resolved path = true

theorem IsLive.areBranches {branches : List DocPath} (live : IsLive branches resolved remaining) :
    ∀ path ∈ remaining, path ∈ branches :=
  fun path waits => (mem_missing_iff.mp (live.missing path waits)).1

/-- Before the first round, what waits has nothing to be assembled below it. -/
theorem isLive_start
    (leaves :
      (resolveLeaves registry rules [] (Rule.pathsWhere Rule.isLeaf rules)).result =
        .ok fields) :
    IsLive (Rule.branches rules) fields (Rule.deepest (Rule.branches rules)) where
  missing path first := by
    have branch := mem_branches_of_deepest first
    exact mem_missing_iff.mpr ⟨branch, has_eq_false_of_branch leaves branch⟩
  ready some := by
    rcases List.exists_mem_of_ne_nil _ some with ⟨path, first⟩
    exact ⟨path, first, isReady_of_mem_deepest first⟩

/-- After a round, every ready branch waits that is missing, and while one is missing, one is. -/
theorem IsLive.waiting (live : IsLive (Rule.branches rules) resolved remaining)
    (accepted : checkStructure rules (Rule.leaves rules) (Rule.branches rules) = .ok ())
    (next : ResolvedFields) :
    IsLive (Rule.branches rules) next (Schema.waiting (Rule.branches rules) next remaining) where
  missing path waits :=
    mem_missing_iff.mpr
      ⟨mem_branches_of_waiting accepted live.areBranches waits, (mem_waiting_iff.mp waits).2⟩
  ready some := by
    rcases List.exists_mem_of_ne_nil _ some with ⟨path, waits⟩
    have branch := mem_branches_of_waiting accepted live.areBranches waits
    have missed := mem_missing_iff.mpr ⟨branch, (mem_waiting_iff.mp waits).2⟩
    rcases exists_ready (List.ne_nil_of_mem missed) with ⟨other, missing, ready⟩
    rcases mem_missing_iff.mp missing with ⟨otherBranch, unknown⟩
    exact ⟨other, mem_waiting_iff.mpr ⟨.inr ⟨otherBranch, ready⟩, unknown⟩, ready⟩

/-- A round adds fields of distinct waiting branches that had none. -/
theorem exists_added_of_assemble {branches : List DocPath} {before after : ResolvedFields}
    (round : assemble registry rules branches before remaining = .ok after) :
    ∃ added : ResolvedFields, after = added ++ before ∧ (added.map Prod.fst).Nodup ∧
      ∀ entry ∈ added, entry.1 ∈ remaining ∧ before.has entry.1 = false := by
  induction remaining generalizing before with
  | nil =>
      obtain rfl : before = after := by simpa [assemble] using round
      exact ⟨[], rfl, List.nodup_nil, fun _ none => absurd none List.not_mem_nil⟩
  | cons path rest ih =>
      rw [assemble] at round
      split at round
      · rcases ih round with ⟨added, parts, distinct, fresh⟩
        exact ⟨added, parts, distinct,
          fun entry member => (fresh entry member).imp_left (List.mem_cons_of_mem path)⟩
      · next turn =>
        have unknown : before.has path = false := by
          simp only [Bool.or_eq_true, not_or, Bool.not_eq_true] at turn
          exact turn.1
        rcases except_bind_eq_ok.mp round with ⟨entries, -, afterEntries⟩
        rcases except_bind_eq_ok.mp afterEntries with ⟨field, -, rest⟩
        rcases ih rest with ⟨added, rfl, distinct, fresh⟩
        refine ⟨added ++ [(path, field)], by simp, ?_, ?_⟩
        · rw [List.map_append, List.nodup_append]
          refine ⟨distinct, List.pairwise_singleton _ _, ?_⟩
          rintro known member other last rfl
          rcases List.mem_map.mp member with ⟨entry, isAdded, rfl⟩
          have own : entry.1 = path := by simpa using last
          simpa [own] using (fresh entry isAdded).2
        · intro entry member
          rcases List.mem_append.mp member with later | here
          · rcases fresh entry later with ⟨waits, unseen⟩
            rw [ResolvedFields.has_cons, Bool.or_eq_false_iff] at unseen
            exact ⟨List.mem_cons_of_mem path waits, unseen.2⟩
          · rw [List.mem_singleton.mp here]
            exact ⟨List.mem_cons_self, unknown⟩

/-- A round that does not fail assembles a branch. -/
theorem IsLive.exists_added {branches : List DocPath} {next : ResolvedFields}
    (live : IsLive branches resolved remaining) (some : remaining ≠ [])
    (round : assemble registry rules branches resolved remaining = .ok next) :
    ∃ added : ResolvedFields, added ≠ [] ∧ next = added ++ resolved ∧
      (added.map Prod.fst).Nodup ∧
      ∀ entry ∈ added, entry.1 ∈ branches ∧ resolved.has entry.1 = false := by
  rcases exists_added_of_assemble round with ⟨added, parts, distinct, fresh⟩
  refine ⟨added, ?_, parts, distinct,
    fun entry member => (fresh entry member).imp_left (live.areBranches entry.1)⟩
  rintro rfl
  rcases live.ready some with ⟨path, waits, ready⟩
  have known := has_of_assemble live.areBranches round waits ready
  rw [parts, List.nil_append, (mem_missing_iff.mp (live.missing path waits)).2] at known
  cases known

/-- A round that does not fail leaves fewer branches missing. -/
theorem IsLive.length_missing_lt {branches : List DocPath} {next : ResolvedFields}
    (live : IsLive branches resolved remaining) (some : remaining ≠ [])
    (round : assemble registry rules branches resolved remaining = .ok next) :
    (Schema.missing branches next).length < (Schema.missing branches resolved).length := by
  rcases live.ready some with ⟨path, waits, ready⟩
  exact Schema.length_missing_lt
    (fun _ known => (assembles_of_assemble live.areBranches round).has_mono known)
    (live.missing path waits) (has_of_assemble live.areBranches round waits ready)

/-! ## All rounds -/

/-- Each round begins with a missing branch that is ready. -/
theorem Reaches.isLive (reached : Reaches registry rules fields count resolved remaining)
    (accepted : checkStructure rules (Rule.leaves rules) (Rule.branches rules) = .ok ())
    (leaves :
      (resolveLeaves registry rules [] (Rule.pathsWhere Rule.isLeaf rules)).result =
        .ok fields) :
    IsLive (Rule.branches rules) resolved remaining := by
  induction reached with
  | start => exact isLive_start leaves
  | round _ _ _ ih => exact ih.waiting accepted _

/-- The rounds so far and the branches still missing are together no more than the branches. -/
theorem Reaches.count_add_missing_le
    (reached : Reaches registry rules fields count resolved remaining)
    (accepted : checkStructure rules (Rule.leaves rules) (Rule.branches rules) = .ok ())
    (leaves :
      (resolveLeaves registry rules [] (Rule.pathsWhere Rule.isLeaf rules)).result =
        .ok fields) :
    count + (missing (Rule.branches rules) resolved).length ≤ (Rule.branches rules).length := by
  induction reached with
  | start =>
      rw [Nat.zero_add]
      exact List.length_filter_le _ _
  | round before some assembled ih =>
      have fewer := (before.isLive accepted leaves).length_missing_lt some assembled
      omega

/-- The rounds end no later than there are branches. -/
theorem Ends.count_le {outcome : Except CompileError ResolvedFields}
    (ends : Ends registry rules fields count outcome)
    (accepted : checkStructure rules (Rule.leaves rules) (Rule.branches rules) = .ok ())
    (leaves :
      (resolveLeaves registry rules [] (Rule.pathsWhere Rule.isLeaf rules)).result =
        .ok fields) :
    count ≤ (Rule.branches rules).length := by
  cases ends with
  | done after =>
      have bound := after.count_add_missing_le accepted leaves
      omega
  | failed after some _ =>
      have bound := after.count_add_missing_le accepted leaves
      rcases (after.isLive accepted leaves).ready some with ⟨path, waits, -⟩
      have missed := (after.isLive accepted leaves).missing path waits
      have atLeastOne := List.length_pos_of_mem missed
      omega

/-- While as many rounds are allowed as branches are missing, the rounds end. -/
theorem Reaches.exists_ends
    (accepted : checkStructure rules (Rule.leaves rules) (Rule.branches rules) = .ok ())
    (leaves :
      (resolveLeaves registry rules [] (Rule.pathsWhere Rule.isLeaf rules)).result =
        .ok fields)
    {bound : Nat} (reached : Reaches registry rules fields count resolved remaining)
    (enough : (missing (Rule.branches rules) resolved).length ≤ bound) :
    ∃ total, Ends registry rules fields total
      (rounds registry rules (Rule.branches rules) bound resolved remaining) := by
  have live := reached.isLive accepted leaves
  induction bound generalizing count resolved remaining with
  | zero =>
      have none : remaining = [] := by
        apply List.eq_nil_iff_forall_not_mem.mpr
        intro path waits
        have atLeastOne := List.length_pos_of_mem (live.missing path waits)
        omega
      rw [none] at reached
      exact ⟨count, .done reached⟩
  | succ bound ih =>
      rw [rounds]
      split
      · next none =>
        rw [List.isEmpty_iff.mp none] at reached
        exact ⟨count, .done reached⟩
      · next waits =>
        have some : remaining ≠ [] := by simpa using waits
        cases round : assemble registry rules (Rule.branches rules) resolved remaining with
        | error error => exact ⟨count + 1, .failed reached some round⟩
        | ok next =>
            have fewer := live.length_missing_lt some round
            exact ih (.round reached some round) (by omega) (live.waiting accepted next)

/-- Rounds go on from where they have come to. -/
theorem Reaches.rounds_eq (reached : Reaches registry rules fields count resolved remaining)
    (more : Nat) :
    rounds registry rules (Rule.branches rules) (count + more) fields
        (Rule.deepest (Rule.branches rules)) =
      rounds registry rules (Rule.branches rules) more resolved remaining := by
  induction reached generalizing more with
  | start => rw [Nat.zero_add]
  | @round count resolved next remaining before some assembled ih =>
      rw [Nat.add_assoc, Nat.add_comm 1 more, ih (more + 1), rounds,
        if_neg (by simpa using some), assembled]
      rfl

/-- A bound that is not below the number of rounds does not change their result. -/
theorem Ends.rounds_eq {outcome : Except CompileError ResolvedFields}
    (ends : Ends registry rules fields count outcome) {bound : Nat} (enough : count ≤ bound) :
    rounds registry rules (Rule.branches rules) bound fields
      (Rule.deepest (Rule.branches rules)) = outcome := by
  rcases Nat.exists_eq_add_of_le enough with ⟨more, rfl⟩
  cases ends with
  | done after =>
      rw [after.rounds_eq]
      cases more <;> rfl
  | failed after some failure =>
      rw [Nat.add_assoc, Nat.add_comm 1 more, after.rounds_eq, rounds,
        if_neg (by simpa using some), failure]
      rfl

/--
Each round fails or adds fields of branches that had none, at least one; and the rounds end
after at most as many as there are branches, whatever larger bound they are run with.
-/
theorem rounds_end (registry : Registry) (rules : Document) (fields : ResolvedFields)
    (accepted : checkStructure rules (Rule.leaves rules) (Rule.branches rules) = .ok ())
    (leaves :
      (resolveLeaves registry rules [] (Rule.pathsWhere Rule.isLeaf rules)).result =
        .ok fields) :
    (∀ count resolved remaining, Reaches registry rules fields count resolved remaining →
      remaining ≠ [] →
        (∃ error,
          assemble registry rules (Rule.branches rules) resolved remaining = .error error) ∨
        ∃ added : ResolvedFields, added ≠ [] ∧
          assemble registry rules (Rule.branches rules) resolved remaining =
            .ok (added ++ resolved) ∧
          (added.map Prod.fst).Nodup ∧
          ∀ entry ∈ added, entry.1 ∈ Rule.branches rules ∧ resolved.has entry.1 = false) ∧
    ∃ count outcome, count ≤ (Rule.branches rules).length ∧
      Ends registry rules fields count outcome ∧
      ∀ bound, (Rule.branches rules).length ≤ bound →
        rounds registry rules (Rule.branches rules) bound fields
          (Rule.deepest (Rule.branches rules)) = outcome := by
  constructor
  · intro count resolved remaining reached some
    cases round : assemble registry rules (Rule.branches rules) resolved remaining with
    | error error => exact .inl ⟨error, rfl⟩
    | ok next =>
        rcases (reached.isLive accepted leaves).exists_added some round with
          ⟨added, notNone, rfl, distinct, fresh⟩
        exact .inr ⟨added, notNone, rfl, distinct, fresh⟩
  · have initial : Reaches registry rules fields 0 fields (Rule.deepest (Rule.branches rules)) :=
      .start
    rcases initial.exists_ends accepted leaves (List.length_filter_le _ _) with ⟨count, ends⟩
    have few := ends.count_le accepted leaves
    exact ⟨count, _, few, ends, fun bound enough => ends.rounds_eq (Nat.le_trans few enough)⟩

theorem rounds_end_shadowed :
    ∃ fields,
      checkStructure (.mapping shadowedEntries) (Rule.leaves (.mapping shadowedEntries))
        (Rule.branches (.mapping shadowedEntries)) = .ok () ∧
      (resolveLeaves .standard (.mapping shadowedEntries) []
        (Rule.pathsWhere Rule.isLeaf (.mapping shadowedEntries))).result = .ok fields ∧
      ∃ count outcome, count ≤ 3 ∧
        Ends .standard (.mapping shadowedEntries) fields count outcome := by
  have compiles :
      (typeOf .standard (.mapping shadowedEntries) shadowedEntries).result.isOk = true := by
    decide +kernel
  rcases exists_of_isOk compiles with ⟨type, typed⟩
  rcases typeOf_eq_ok typed with ⟨fields, resolved, accepted, leaves, -, -⟩
  rcases (rounds_end .standard (.mapping shadowedEntries) fields accepted leaves).2 with
    ⟨count, outcome, few, ends, -⟩
  have branches : (Rule.branches (.mapping shadowedEntries)).length = 3 := by decide
  exact ⟨fields, accepted, leaves, count, outcome, branches ▸ few, ends⟩

end Schema

end RuleSchema
