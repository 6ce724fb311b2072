import RuleSchema.Proofs.Chains
import RuleSchema.Proofs.Rule.Structure

/-!
# Runs of the assembly

Leaves are resolved one after another, and then branches are assembled in rounds.  What
the rounds do to the resolved fields is described as a run of single steps, each of which
adds the field of one ready branch that had none; a property that each step keeps is then
shown by induction on the run.
-/

namespace RuleSchema

namespace ResolvedFields

theorem mem_of_get? {resolved : ResolvedFields} {path : DocPath} {field : FieldSpec}
    (found : ResolvedFields.get? resolved path = some field) : (path, field) ∈ resolved := by
  rcases Option.map_eq_some_iff.mp found with ⟨entry, hit, rfl⟩
  have same := List.find?_some hit
  rw [← eq_of_beq same]
  exact List.mem_of_find?_eq_some hit

theorem has_nil (path : DocPath) : ResolvedFields.has [] path = false := rfl

@[simp]
theorem has_cons (path other : DocPath) (field : FieldSpec) (resolved : ResolvedFields) :
    ResolvedFields.has ((path, field) :: resolved) other =
      (path == other || ResolvedFields.has resolved other) := by
  cases same : path == other <;> simp [has, get?, same]

theorem has_iff_mem_paths {resolved : ResolvedFields} {path : DocPath} :
    ResolvedFields.has resolved path = true ↔ path ∈ resolved.map Prod.fst := by
  induction resolved with
  | nil => rw [has_nil, List.map_nil, List.mem_nil_iff, Bool.false_eq_true]
  | cons entry rest ih =>
      rw [has_cons, Bool.or_eq_true, beq_iff_eq, ih, List.map_cons, List.mem_cons, eq_comm]

end ResolvedFields

namespace Schema

/-- What is found at a path as a mapping is what a lookup finds there. -/
theorem mappingAt_eq_ok_iff {rules : Document} {path : DocPath} {entries : Mapping} :
    mappingAt rules path = .ok entries ↔
      ∃ value, path.get? rules = some value ∧ value.asMapping? = some entries := by
  unfold mappingAt
  cases path.get? rules with
  | none => simp
  | some value => cases mapping : value.asMapping? <;> simp [mapping]

/-! ## Leaves -/

theorem resolveLeaves_cons_eq_ok {registry : Registry} {rules : Document}
    {before after : ResolvedFields} {path : DocPath} {rest : List DocPath}
    (resolved : (resolveLeaves registry rules before (path :: rest)).result = .ok after) :
    ∃ leaf field, mappingAt rules path = .ok leaf ∧
      (Level.ofLeaf registry path leaf).result = .ok field ∧
      (resolveLeaves registry rules ((path, field) :: before) rest).result = .ok after := by
  rw [resolveLeaves, Warned.andThen_result_eq_ok] at resolved
  rcases resolved with ⟨leaf, found, resolved⟩
  rw [Warned.andThen_result_eq_ok] at resolved
  rcases resolved with ⟨field, built, resolved⟩
  exact ⟨leaf, field, found, built, resolved⟩

/-- Resolving leaves keeps what adding the field of one leaf keeps. -/
theorem resolveLeaves_induction {registry : Registry} {rules : Document}
    {holds : ResolvedFields → Prop} {paths : List DocPath}
    (step : ∀ resolved path leaf field, path ∈ paths → mappingAt rules path = .ok leaf →
      (Level.ofLeaf registry path leaf).result = .ok field → holds resolved →
        holds ((path, field) :: resolved))
    {before after : ResolvedFields} (initially : holds before)
    (resolved : (resolveLeaves registry rules before paths).result = .ok after) :
    holds after := by
  induction paths generalizing before with
  | nil =>
      obtain rfl : before = after := by simpa [resolveLeaves, Warned.silent] using resolved
      exact initially
  | cons path rest ih =>
      rcases resolveLeaves_cons_eq_ok resolved with ⟨leaf, field, found, built, resolved⟩
      refine ih ?_ (step before path leaf field List.mem_cons_self found built initially) resolved
      intro resolved path leaf field member
      exact step resolved path leaf field (List.mem_cons_of_mem _ member)

/-- The resolved leaves are those whose paths were given. -/
theorem has_of_resolveLeaves {registry : Registry} {rules : Document}
    {before after : ResolvedFields} {paths : List DocPath}
    (resolved : (resolveLeaves registry rules before paths).result = .ok after)
    (path : DocPath) :
    after.has path = true ↔ path ∈ paths ∨ before.has path = true := by
  induction paths generalizing before with
  | nil =>
      obtain rfl : before = after := by simpa [resolveLeaves, Warned.silent] using resolved
      simp
  | cons head rest ih =>
      rcases resolveLeaves_cons_eq_ok resolved with ⟨leaf, field, -, -, resolved⟩
      rw [ih resolved, ResolvedFields.has_cons, Bool.or_eq_true, beq_iff_eq, List.mem_cons,
        eq_comm, or_left_comm, or_assoc]

/-! ## Branches -/

/-- Resolved fields to which the fields of ready branches are added one after another. -/
inductive Assembles (registry : Registry) (rules : Document) (branches : List DocPath) :
    ResolvedFields → ResolvedFields → Prop where
  | done {resolved : ResolvedFields} : Assembles registry rules branches resolved resolved
  | step {resolved final : ResolvedFields} {path : DocPath} {entries : Mapping}
      {field : FieldSpec} (branch : path ∈ branches) (fresh : resolved.has path = false)
      (ready : isReady branches resolved path = true)
      (found : mappingAt rules path = .ok entries)
      (built : Level.ofBranch registry path entries resolved = .ok field)
      (rest : Assembles registry rules branches ((path, field) :: resolved) final) :
      Assembles registry rules branches resolved final

namespace Assembles

variable {registry : Registry} {rules : Document} {branches : List DocPath}
  {before middle after : ResolvedFields}

theorem trans (first : Assembles registry rules branches before middle)
    (second : Assembles registry rules branches middle after) :
    Assembles registry rules branches before after := by
  induction first with
  | done => exact second
  | step branch fresh ready found built _ ih =>
      exact .step branch fresh ready found built (ih second)

/-- What is resolved stays resolved. -/
theorem has_mono (run : Assembles registry rules branches before after) {path : DocPath}
    (known : before.has path = true) : after.has path = true := by
  induction run with
  | done => exact known
  | step _ _ _ _ _ _ ih =>
      apply ih
      simp [known]

end Assembles

theorem isReady_iff {branches : List DocPath} {resolved : ResolvedFields} {path : DocPath} :
    isReady branches resolved path = true ↔
      ∀ branch ∈ branches, path.isAncestorOf branch = true → resolved.has branch = true := by
  simp only [isReady, List.all_eq_true, List.mem_filter, and_imp]

variable {registry : Registry} {rules : Document} {branches : List DocPath}

/-- A round assembles branches, if branches are what waits for it. -/
theorem assembles_of_assemble {before after : ResolvedFields} {remaining : List DocPath}
    (areBranches : ∀ path ∈ remaining, path ∈ branches)
    (round : assemble registry rules branches before remaining = .ok after) :
    Assembles registry rules branches before after := by
  induction remaining generalizing before with
  | nil =>
      obtain rfl : before = after := by simpa [assemble] using round
      exact .done
  | cons path rest ih =>
      have others : ∀ other ∈ rest, other ∈ branches :=
        fun other member => areBranches other (List.mem_cons_of_mem _ member)
      rw [assemble] at round
      split at round
      · exact ih others round
      · next turn =>
        simp only [Bool.or_eq_true, Bool.not_eq_true', not_or, Bool.not_eq_true,
          Bool.not_eq_false] at turn
        rcases except_bind_eq_ok.mp round with ⟨entries, found, round⟩
        rcases except_bind_eq_ok.mp round with ⟨field, built, round⟩
        exact .step (areBranches path List.mem_cons_self) turn.1 turn.2 found built
          (ih others round)

/-- What waits after a round is above what waited for it, or is a ready branch. -/
theorem mem_waiting_iff {resolved : ResolvedFields} {last : List DocPath} {path : DocPath} :
    path ∈ waiting branches resolved last ↔
      (path ∈ Rule.deepest (DocPath.sorted
          ((last.filterMap DocPath.parent?).filter fun path => !path.isEmpty)) ∨
        path ∈ branches ∧ isReady branches resolved path = true) ∧
      resolved.has path = false := by
  simp [waiting]

/-- A path with a parent continues it. -/
theorem eq_append_of_parent? {path above : DocPath} (parent : path.parent? = some above) :
    ∃ step, path = above ++ [step] := by
  cases path with
  | nil => simp [DocPath.parent?] at parent
  | cons step rest =>
      obtain rfl : (step :: rest).dropLast = above := by simpa [DocPath.parent?] using parent
      exact
        ⟨(step :: rest).getLast (by simp), (List.dropLast_concat_getLast (by simp)).symm⟩

/-- Where the structure is accepted, only branches wait. -/
theorem mem_branches_of_waiting {resolved : ResolvedFields} {last : List DocPath}
    (accepted : checkStructure rules (Rule.leaves rules) (Rule.branches rules) = .ok ())
    (areBranches : ∀ path ∈ last, path ∈ Rule.branches rules) {path : DocPath}
    (waits : path ∈ waiting (Rule.branches rules) resolved last) :
    path ∈ Rule.branches rules := by
  rcases (mem_waiting_iff.mp waits).1 with above | ⟨branch, -⟩
  · have member := (List.mem_filter.mp above).1
    simp only [DocPath.mem_sorted, List.mem_filter, List.mem_filterMap, Bool.not_eq_true',
      List.isEmpty_eq_false_iff] at member
    rcases member with ⟨⟨lower, waited, parent⟩, notRoot⟩
    rcases eq_append_of_parent? parent with ⟨step, rfl⟩
    exact mem_branches_of_append accepted (areBranches _ waited) notRoot
  · exact branch

/-- The rounds assemble branches. -/
theorem assembles_of_rounds {before after : ResolvedFields} {remaining : List DocPath}
    {count : Nat}
    (accepted : checkStructure rules (Rule.leaves rules) (Rule.branches rules) = .ok ())
    (areBranches : ∀ path ∈ remaining, path ∈ Rule.branches rules)
    (run : rounds registry rules (Rule.branches rules) count before remaining = .ok after) :
    Assembles registry rules (Rule.branches rules) before after := by
  induction count generalizing before remaining with
  | zero =>
      obtain rfl : before = after := by simpa [rounds] using run
      exact .done
  | succ count ih =>
      rw [rounds] at run
      split at run
      · obtain rfl : before = after := by simpa using run
        exact .done
      · rcases except_bind_eq_ok.mp run with ⟨next, round, run⟩
        have first := assembles_of_assemble areBranches round
        refine first.trans (ih ?_ run)
        intro path waits
        exact mem_branches_of_waiting accepted areBranches waits

theorem mem_branches_of_deepest {path : DocPath}
    (deepest : path ∈ Rule.deepest (Rule.branches rules)) : path ∈ Rule.branches rules :=
  (List.mem_filter.mp deepest).1

/-- What compiling rules went through when it gave a type. -/
theorem typeOf_eq_ok {entries : Mapping} {type : RecordType}
    (typed : (typeOf registry rules entries).result = .ok type) :
    ∃ fields resolved,
      checkStructure rules (Rule.leaves rules) (Rule.branches rules) = .ok () ∧
      (resolveLeaves registry rules [] (Rule.pathsWhere Rule.isLeaf rules)).result = .ok fields ∧
      rounds registry rules (Rule.branches rules) (Rule.branches rules).length fields
        (Rule.deepest (Rule.branches rules)) = .ok resolved ∧
      closeRoot registry entries resolved = .ok type := by
  rw [typeOf, Warned.andThen_result_eq_ok] at typed
  rcases typed with ⟨⟨⟩, accepted, typed⟩
  rw [Warned.andThen_result_eq_ok] at typed
  rcases typed with ⟨fields, leaves, typed⟩
  rcases except_bind_eq_ok.mp typed with ⟨resolved, run, closed⟩
  exact ⟨fields, resolved, accepted, leaves, run, closed⟩

/-- What compiling rules went through when it gave a schema. -/
theorem compile_eq_ok {schema : Schema} (compiled : compile registry rules = .ok schema) :
    ∃ entries, rules.asMapping? = some entries ∧
      (typeOf registry rules entries).result = .ok schema.type := by
  rw [compile] at compiled
  split at compiled
  · cases compiled
  · next entries mapping =>
    split at compiled
    · cases compiled
    · rcases except_map_eq_ok.mp compiled with ⟨type, typed, rfl⟩
      exact ⟨entries, mapping, typed⟩

end Schema

end RuleSchema
