import RuleSchema.Proofs.Compile.Completeness
import RuleSchema.Proofs.Document.Merging

/-!
# The calls of the rounds

The rounds are run with a record of the branches that they assemble: where each of them was,
which entries it had, and which fields were known by then.  A branch is assembled once the
branches below it are, and this suffices, since whatever else it has is a leaf.  So no level
of a branch lacks a field, and rounds fail only in the validators of a branch or in closing
its level.  What a call adds is known to every call after it, in whatever round, so that no
branch is assembled twice.
-/

namespace RuleSchema

namespace Schema

/-- The assembly of one branch: its path, its entries, and the fields known by then. -/
structure Call where
  path : DocPath
  entries : Mapping
  known : ResolvedFields

/-- What assembling branches gives, and the calls that it makes in order, also one that fails. -/
structure Traced where
  result : Except CompileError ResolvedFields
  calls : List Call

namespace Traced

/-- A computation that calls nothing. -/
def silent (result : Except CompileError ResolvedFields) : Traced := ⟨result, []⟩

/-- Go on with the fields, if there are some; the calls add up. -/
def andThen (first : Traced) (next : ResolvedFields → Traced) : Traced :=
  match first.result with
  | .error error => ⟨.error error, first.calls⟩
  | .ok resolved => ⟨(next resolved).result, first.calls ++ (next resolved).calls⟩

theorem andThen_of_error {first : Traced} {error : CompileError}
    (failed : first.result = .error error) (next : ResolvedFields → Traced) :
    first.andThen next = first := by
  cases first with
  | mk result calls =>
      obtain rfl : result = .error error := failed
      rfl

theorem andThen_of_ok {first : Traced} {resolved : ResolvedFields}
    (succeeded : first.result = .ok resolved) (next : ResolvedFields → Traced) :
    first.andThen next = ⟨(next resolved).result, first.calls ++ (next resolved).calls⟩ := by
  rw [andThen, succeeded]

theorem andThen_result (first : Traced) (next : ResolvedFields → Traced) :
    (first.andThen next).result = first.result >>= fun resolved => (next resolved).result := by
  cases given : first.result with
  | error error =>
      rw [andThen_of_error given, given]
      rfl
  | ok resolved =>
      rw [andThen_of_ok given]
      rfl

end Traced

/-- A single call, whose field is added to those known. -/
def Call.traced (registry : Registry) (call : Call) : Traced :=
  ⟨(Level.ofBranch registry call.path call.entries call.known).map fun field =>
      (call.path, field) :: call.known,
    [call]⟩

/-- `assemble`, with its calls. -/
def assembleTraced (registry : Registry) (rules : Document) (branches : List DocPath)
    (resolved : ResolvedFields) : List DocPath → Traced
  | [] => .silent (.ok resolved)
  | path :: rest =>
      if resolved.has path || !isReady branches resolved path then
        assembleTraced registry rules branches resolved rest
      else
        match mappingAt rules path with
        | .error error => .silent (.error error)
        | .ok entries =>
            (Call.traced registry ⟨path, entries, resolved⟩).andThen fun next =>
              assembleTraced registry rules branches next rest

/-- `rounds`, with their calls. -/
def roundsTraced (registry : Registry) (rules : Document) (branches : List DocPath) :
    Nat → ResolvedFields → List DocPath → Traced
  | 0, resolved, _ => .silent (.ok resolved)
  | count + 1, resolved, remaining =>
      if remaining.isEmpty then .silent (.ok resolved)
      else
        (assembleTraced registry rules branches resolved remaining).andThen fun next =>
          roundsTraced registry rules branches count next (waiting branches next remaining)

/-- The rounds for rules whose leaves have the given fields, with their calls. -/
def traceOf (registry : Registry) (rules : Document) (fields : ResolvedFields) (count : Nat) :
    Traced :=
  roundsTraced registry rules (Rule.branches rules) count fields
    (Rule.deepest (Rule.branches rules))

variable {registry : Registry} {rules : Document} {branches : List DocPath}
  {before resolved fields : ResolvedFields}

/-! ## The record changes nothing -/

theorem assembleTraced_result (remaining : List DocPath) :
    (assembleTraced registry rules branches resolved remaining).result =
      assemble registry rules branches resolved remaining := by
  induction remaining generalizing resolved with
  | nil => rfl
  | cons path rest ih =>
      rw [assembleTraced, assemble]
      split
      · exact ih
      · cases mappingAt rules path with
        | error error => rfl
        | ok entries =>
            rw [except_ok_bind, Traced.andThen_result, Call.traced]
            cases Level.ofBranch registry path entries resolved with
            | error error => rfl
            | ok field => exact ih

theorem roundsTraced_result (count : Nat) (remaining : List DocPath) :
    (roundsTraced registry rules branches count resolved remaining).result =
      rounds registry rules branches count resolved remaining := by
  induction count generalizing resolved remaining with
  | zero => rfl
  | succ count ih =>
      rw [roundsTraced, rounds]
      split
      · rfl
      · simp only [Traced.andThen_result, assembleTraced_result, ih]

/-! ## When a call is made -/

/-- A call for a ready branch without a field, after branches were assembled from given fields. -/
structure Call.IsDue (registry : Registry) (rules : Document) (before : ResolvedFields)
    (call : Call) : Prop where
  reached : Assembles registry rules (Rule.branches rules) before call.known
  branch : call.path ∈ Rule.branches rules
  fresh : call.known.has call.path = false
  ready : isReady (Rule.branches rules) call.known call.path = true
  found : mappingAt rules call.path = .ok call.entries

/-- Each call is due and is known to those after it; what is added or fails is a call. -/
structure Traced.IsOrderly (registry : Registry) (rules : Document) (before : ResolvedFields)
    (run : Traced) : Prop where
  due : ∀ call ∈ run.calls, call.IsDue registry rules before
  remembered : run.calls.Pairwise fun earlier later => later.known.has earlier.path = true
  reaches : ∀ after, run.result = .ok after →
    Assembles registry rules (Rule.branches rules) before after ∧
      after.map Prod.fst = (run.calls.map Call.path).reverse ++ before.map Prod.fst
  fails : ∀ error, run.result = .error error →
    ∃ call ∈ run.calls,
      Level.ofBranch registry call.path call.entries call.known = .error error

/-- What a run has called for is known where it ends. -/
theorem Traced.IsOrderly.has {run : Traced} (orderly : run.IsOrderly registry rules before)
    {after : ResolvedFields} (succeeded : run.result = .ok after) {call : Call}
    (member : call ∈ run.calls) : after.has call.path = true := by
  rw [ResolvedFields.has_iff_mem_paths, (orderly.reaches after succeeded).2]
  exact List.mem_append_left _ (List.mem_reverse.mpr (List.mem_map_of_mem member))

theorem Call.IsDue.of_assembles {middle : ResolvedFields} {call : Call}
    (due : call.IsDue registry rules middle)
    (run : Assembles registry rules (Rule.branches rules) before middle) :
    call.IsDue registry rules before :=
  { due with reached := run.trans due.reached }

/-- A branch leads to a mapping. -/
theorem exists_mappingAt_of_branch {path : DocPath} (branch : path ∈ Rule.branches rules) :
    ∃ entries, mappingAt rules path = .ok entries := by
  rcases Rule.mem_branches_iff.mp branch with ⟨-, -, -, ⟨value, lookup, isMapping⟩, -⟩
  rw [Document.isMapping_eq_isSome, Option.isSome_iff_exists] at isMapping
  rcases isMapping with ⟨entries, mapping⟩
  exact ⟨entries, mappingAt_eq_ok_iff.mpr ⟨value, lookup, mapping⟩⟩

namespace Traced.IsOrderly

theorem silent : (Traced.silent (.ok before)).IsOrderly registry rules before where
  due call none := absurd none List.not_mem_nil
  remembered := .nil
  reaches after same := by
    cases same
    exact ⟨.done, rfl⟩
  fails error never := by cases never

/-- A call that is due makes a run of its own. -/
theorem call {path : DocPath} {entries : Mapping}
    (due : Call.IsDue registry rules before ⟨path, entries, before⟩) :
    (Call.traced registry ⟨path, entries, before⟩).IsOrderly registry rules before where
  due other member := by
    rw [List.mem_singleton.mp member]
    exact due
  remembered := List.pairwise_singleton _ _
  reaches after built := by
    rcases except_map_eq_ok.mp built with ⟨field, made, rfl⟩
    exact ⟨.step due.branch due.fresh due.ready due.found made .done, rfl⟩
  fails _ failed := ⟨_, List.mem_singleton_self _, except_map_eq_error.mp failed⟩

/-- One run after another; what the first one adds is known to the calls of the second. -/
theorem andThen {first : Traced} {next : ResolvedFields → Traced}
    (start : first.IsOrderly registry rules before)
    (rest : ∀ middle, first.result = .ok middle →
      (next middle).IsOrderly registry rules middle) :
    (first.andThen next).IsOrderly registry rules before := by
  cases given : first.result with
  | error error =>
      rw [andThen_of_error given]
      exact start
  | ok middle =>
      rw [andThen_of_ok given]
      rcases start.reaches middle given with ⟨upTo, added⟩
      have later := rest middle given
      constructor
      · intro call member
        rcases List.mem_append.mp member with early | late
        · exact start.due call early
        · exact (later.due call late).of_assembles upTo
      · refine List.pairwise_append.mpr ⟨start.remembered, later.remembered, ?_⟩
        intro early isEarly late isLate
        exact (later.due late isLate).reached.has_mono (start.has given isEarly)
      · intro after succeeded
        rcases later.reaches after succeeded with ⟨onward, alsoAdded⟩
        exact ⟨upTo.trans onward, by simp [alsoAdded, added]⟩
      · intro error failed
        rcases later.fails error failed with ⟨call, late, fault⟩
        exact ⟨call, List.mem_append_right _ late, fault⟩

end Traced.IsOrderly

/-- In a round, each call is due. -/
theorem isOrderly_assembleTraced {remaining : List DocPath}
    (areBranches : ∀ path ∈ remaining, path ∈ Rule.branches rules) :
    (assembleTraced registry rules (Rule.branches rules) resolved remaining).IsOrderly
      registry rules resolved := by
  induction remaining generalizing resolved with
  | nil => exact .silent
  | cons path rest ih =>
      rcases List.forall_mem_cons.mp areBranches with ⟨branch, others⟩
      rw [assembleTraced]
      split
      · exact ih others
      · next turn =>
        simp only [Bool.or_eq_true, Bool.not_eq_true', not_or, Bool.not_eq_true,
          Bool.not_eq_false] at turn
        rcases exists_mappingAt_of_branch branch with ⟨entries, found⟩
        rw [found]
        have due : Call.IsDue registry rules resolved ⟨path, entries, resolved⟩ :=
          ⟨.done, branch, turn.1, turn.2, found⟩
        exact (Traced.IsOrderly.call due).andThen fun next _ => ih others

/-- In all rounds, each call is due. -/
theorem isOrderly_roundsTraced {count : Nat} {remaining : List DocPath}
    (accepted : checkStructure rules (Rule.leaves rules) (Rule.branches rules) = .ok ())
    (areBranches : ∀ path ∈ remaining, path ∈ Rule.branches rules) :
    (roundsTraced registry rules (Rule.branches rules) count resolved remaining).IsOrderly
      registry rules resolved := by
  induction count generalizing resolved remaining with
  | zero => exact .silent
  | succ count ih =>
      rw [roundsTraced]
      split
      · exact .silent
      · refine (isOrderly_assembleTraced areBranches).andThen fun next _ => ?_
        exact ih fun path waits => mem_branches_of_waiting accepted areBranches waits

theorem isOrderly_traceOf {count : Nat}
    (accepted : checkStructure rules (Rule.leaves rules) (Rule.branches rules) = .ok ()) :
    (traceOf registry rules fields count).IsOrderly registry rules fields :=
  isOrderly_roundsTraced accepted fun _ => mem_branches_of_deepest

/-- The record leaves nothing out: the fields that the rounds add are those of their calls. -/
theorem paths_of_rounds {count : Nat}
    (accepted : checkStructure rules (Rule.leaves rules) (Rule.branches rules) = .ok ())
    (run : rounds registry rules (Rule.branches rules) count fields
      (Rule.deepest (Rule.branches rules)) = .ok resolved) :
    resolved.map Prod.fst =
      ((traceOf registry rules fields count).calls.map Call.path).reverse ++
        fields.map Prod.fst :=
  ((isOrderly_traceOf accepted).reaches resolved ((roundsTraced_result count _).trans run)).2

/-! ## What a call finds -/

namespace Call.IsDue

variable {call : Call}

/-- The leaves are known to each call. -/
theorem has_leaf (due : call.IsDue registry rules fields)
    (leaves :
      (resolveLeaves registry rules [] (Rule.pathsWhere Rule.isLeaf rules)).result = .ok fields) :
    ∀ leaf ∈ Rule.leaves rules, call.known.has leaf = true :=
  fun _ isLeaf => due.reached.has_mono (has_of_leaf leaves isLeaf)

/-- A call finds a field for each entry that stands for one. -/
theorem has_child (due : call.IsDue registry rules fields)
    (accepted : checkStructure rules (Rule.leaves rules) (Rule.branches rules) = .ok ())
    (leaves :
      (resolveLeaves registry rules [] (Rule.pathsWhere Rule.isLeaf rules)).result = .ok fields)
    {key value : Document} (member : (key, value) ∈ call.entries)
    (free : Rule.isReservedText key.keyText = false) :
    call.known.has (call.path.child (PathKey.ofDocument key)) = true :=
  has_child_of_ready accepted (due.has_leaf leaves) (fun _ => due.branch) due.ready due.found
    member free

theorem exists_collect (due : call.IsDue registry rules fields)
    (accepted : checkStructure rules (Rule.leaves rules) (Rule.branches rules) = .ok ())
    (leaves :
      (resolveLeaves registry rules [] (Rule.pathsWhere Rule.isLeaf rules)).result = .ok fields) :
    ∃ level, Level.collect call.path call.entries call.known = .ok level :=
  exists_collect_of_ready accepted (due.has_leaf leaves) (fun _ => due.branch) due.ready due.found

end Call.IsDue

/-- No two calls are for one branch. -/
theorem Traced.IsOrderly.nodup {run : Traced} (orderly : run.IsOrderly registry rules before) :
    (run.calls.map Call.path).Nodup := by
  rw [List.Nodup, List.pairwise_map]
  refine orderly.remembered.imp_of_mem fun _ isLater known same => ?_
  have fresh := (orderly.due _ isLater).fresh
  rw [← same, known] at fresh
  cases fresh

/-- A branch whose level is collected fails in its validators or in closing the level. -/
theorem ofBranch_eq_error {path : DocPath} {entries : Mapping} {level : Level}
    {error : CompileError} (notRoot : path ≠ [])
    (collected : Level.collect path entries resolved = .ok level)
    (failed : Level.ofBranch registry path entries resolved = .error error) :
    ∃ name, Level.fieldName path = .ok name ∧
      (registry.resolveValidators path (some name) entries = .error error ∨
        ∃ validators, registry.resolveValidators path (some name) entries = .ok validators ∧
          Level.close name { level with validators := validators.filter BoundValidator.isRecord }
            [] path = .error error) := by
  have named : Level.fieldName path = .ok (path.getLast notRoot).text := by
    rw [Level.fieldName, List.getLast?_eq_some_getLast notRoot]
  refine ⟨_, named, ?_⟩
  rw [Level.ofBranch, named, except_ok_bind, except_bind_eq_error] at failed
  rcases failed with unbound | ⟨validators, bound, failed⟩
  · exact .inl unbound
  · rw [collected, except_ok_bind, except_bind_eq_error] at failed
    rcases failed with unclosed | ⟨type, -, never⟩
    · exact .inr ⟨validators, bound, unclosed⟩
    · cases never

/-- Where the rounds fail, they do so in the validators of a branch or in closing its level. -/
theorem exists_call_of_rounds_eq_error {count : Nat} {error : CompileError}
    (accepted : checkStructure rules (Rule.leaves rules) (Rule.branches rules) = .ok ())
    (leaves :
      (resolveLeaves registry rules [] (Rule.pathsWhere Rule.isLeaf rules)).result = .ok fields)
    (failed : rounds registry rules (Rule.branches rules) count fields
      (Rule.deepest (Rule.branches rules)) = .error error) :
    ∃ call ∈ (traceOf registry rules fields count).calls, ∃ level name,
      Level.collect call.path call.entries call.known = .ok level ∧
      Level.fieldName call.path = .ok name ∧
      (registry.resolveValidators call.path (some name) call.entries = .error error ∨
        ∃ validators,
          registry.resolveValidators call.path (some name) call.entries = .ok validators ∧
          Level.close name { level with validators := validators.filter BoundValidator.isRecord }
            [] call.path = .error error) := by
  have run : (traceOf registry rules fields count).IsOrderly registry rules fields :=
    isOrderly_traceOf accepted
  rcases run.fails error ((roundsTraced_result count _).trans failed) with ⟨call, member, fault⟩
  have due := run.due call member
  rcases due.exists_collect accepted leaves with ⟨level, collected⟩
  rcases ofBranch_eq_error (Rule.ne_nil_of_mem_branches due.branch) collected fault with
    ⟨name, named, cause⟩
  exact ⟨call, member, level, name, collected, named, cause⟩

/--
Whenever the rounds assemble a branch, each of its entries that stands for a field has a
resolved one, so that its level is collected; and no branch is assembled twice.
-/
theorem calls_complete_and_distinct (registry : Registry) (rules : Document)
    (fields : ResolvedFields) (count : Nat)
    (accepted : checkStructure rules (Rule.leaves rules) (Rule.branches rules) = .ok ())
    (leaves :
      (resolveLeaves registry rules [] (Rule.pathsWhere Rule.isLeaf rules)).result = .ok fields) :
    (traceOf registry rules fields count).result =
        rounds registry rules (Rule.branches rules) count fields
          (Rule.deepest (Rule.branches rules)) ∧
      (∀ call ∈ (traceOf registry rules fields count).calls,
        call.path ∈ Rule.branches rules ∧ mappingAt rules call.path = .ok call.entries ∧
        (∀ key value, (key, value) ∈ call.entries → Rule.isReservedText key.keyText = false →
          call.known.has (call.path.child (PathKey.ofDocument key)) = true) ∧
        (∃ level, Level.collect call.path call.entries call.known = .ok level) ∧
        call.known.has call.path = false) ∧
      ((traceOf registry rules fields count).calls.map Call.path).Nodup := by
  have run : (traceOf registry rules fields count).IsOrderly registry rules fields :=
    isOrderly_traceOf accepted
  refine ⟨roundsTraced_result count _, fun call member => ?_, run.nodup⟩
  have due := run.due call member
  refine ⟨due.branch, due.found, ?_, due.exists_collect accepted leaves, due.fresh⟩
  intro key value inside free
  exact due.has_child accepted leaves inside free

/--
Servers by their ports, and limits twice.  The outer limits are hidden from the first round by
those of the servers; the servers come last and fail, for no name starts with a digit.
-/
def portRules : Document :=
  Rule.branchOf
    [ ("servers", .mapping
        [ (.ofInt64 80, Rule.leafOf "str"),
          (.string "limits", Rule.branchOf [("retries", Rule.leafOf "int")]) ]),
      ("limits", Rule.branchOf [("depth", Rule.leafOf "int")]) ]

theorem calls_complete_and_distinct_ports :
    ∃ fields,
      checkStructure portRules (Rule.leaves portRules) (Rule.branches portRules) = .ok () ∧
      (resolveLeaves .standard portRules [] (Rule.pathsWhere Rule.isLeaf portRules)).result =
        .ok fields ∧
      (traceOf .standard portRules fields 3).calls.map Call.path =
        [[.key "servers", .key "limits"], [.key "limits"], [.key "servers"]] ∧
      (∀ call ∈ (traceOf .standard portRules fields 3).calls,
        ∀ key value, (key, value) ∈ call.entries → Rule.isReservedText key.keyText = false →
          call.known.has (call.path.child (PathKey.ofDocument key)) = true) ∧
      ((traceOf .standard portRules fields 3).calls.map Call.path).Nodup := by
  have checked :
      ((resolveLeaves .standard portRules [] (Rule.pathsWhere Rule.isLeaf
        portRules)).result.toOption.any fun fields =>
          decide ((traceOf .standard portRules fields 3).calls.map Call.path =
            [[.key "servers", .key "limits"], [.key "limits"], [.key "servers"]])) = true := by
    decide +kernel
  rcases exists_of_any checked with ⟨fields, leaves, paths⟩
  have accepted : checkStructure portRules (Rule.leaves portRules) (Rule.branches portRules) =
      .ok () := by
    rw [checkStructure_eq_ok_iff]
    decide +kernel
  rcases calls_complete_and_distinct .standard portRules fields 3 accepted leaves with
    ⟨-, complete, distinct⟩
  refine ⟨fields, accepted, leaves, of_decide_eq_true paths, ?_, distinct⟩
  exact fun call member => (complete call member).2.2.1

end Schema

end RuleSchema
