import Mathlib.Data.Fintype.Pigeonhole
import RuleSchema.Proofs.Property.Heirs
import RuleSchema.Proofs.Property.ParentGraph

/-!
# Cycles of parents

Composing fails for a cycle exactly if the parents of some property never end.  The edges that
are then reported are those from the properties on cycles to their children on the same cycle;
what hangs off a cycle is not reported.  Otherwise every property is composed once, after its
parent.  All this holds with any library that is correct on the graph of the declarations.
-/

namespace RuleSchema

namespace PropertyDeclarations

variable {declarations : PropertyDeclarations}

/-! ## Endless parents -/

theorem IsAbove.up_ne_none {name : String} (cycle : declarations.IsAbove name name) (steps : Nat) :
    declarations.up^[steps] (some name) ≠ none := by
  rcases cycle with ⟨around, back⟩
  intro ended
  have further : steps ≤ steps * (around + 1) := Nat.le_mul_of_pos_right steps (Nat.succ_pos around)
  have home : declarations.up^[steps * (around + 1)] (some name) = some name := by
    rw [Nat.mul_comm, Function.iterate_mul]
    exact Function.iterate_fixed back steps
  rw [← Nat.sub_add_cancel further, Function.iterate_add_apply, ended, up_iterate_none] at home
  cases home

/-- Parents never end exactly if they come to a cycle. -/
theorem endless_iff :
    (∃ name ∈ declarations.names, ∀ steps, declarations.up^[steps] (some name) ≠ none) ↔
      ∃ name, declarations.IsAbove name name := by
  constructor
  · rintro ⟨name, -, endless⟩
    -- There are too few names for all steps to lead to different ones.
    have inNames : ∀ steps, declarations.up^[steps] (some name) ∈
        declarations.names.toFinset.image some := by
      intro steps
      rcases Option.ne_none_iff_exists'.mp (endless steps) with ⟨place, reached⟩
      rcases Option.ne_none_iff_exists'.mp (endless (steps + 1)) with ⟨parent, known⟩
      rw [Function.iterate_succ_apply', reached] at known
      rw [reached]
      exact Finset.mem_image.mpr
        ⟨place, List.mem_toFinset.mpr (mem_names_of_parent? known), rfl⟩
    rcases Finite.exists_ne_map_eq_of_infinite fun steps =>
      (⟨_, inNames steps⟩ : declarations.names.toFinset.image some) with
      ⟨first, second, different, same⟩
    have reachedTwice {early late : Nat} (before : early < late)
        (same : declarations.up^[early] (some name) = declarations.up^[late] (some name)) :
        ∃ name, declarations.IsAbove name name := by
      rcases Option.ne_none_iff_exists'.mp (endless early) with ⟨place, reached⟩
      refine ⟨place, late - early - 1, ?_⟩
      have between : late - early - 1 + 1 + early = late := by omega
      rw [← reached, ← Function.iterate_add_apply, between, same]
    have same := congrArg Subtype.val same
    rcases Nat.lt_or_gt_of_ne different with before | before
    · exact reachedTwice before same
    · exact reachedTwice before same.symm
  · rintro ⟨name, cycle⟩
    rcases Option.ne_none_iff_exists'.mp (cycle.up_ne_none 1) with ⟨parent, known⟩
    exact ⟨name, mem_names_of_parent? known, cycle.up_ne_none⟩

/-! ## Reported edges -/

/-- The parent of a property on a cycle is on a cycle. -/
theorem IsAbove.parent {parent child : String} (cycle : declarations.IsAbove child child)
    (known : declarations.parent? child = some parent) : declarations.IsAbove parent parent := by
  rcases cycle with ⟨around, back⟩
  have first : declarations.up (some child) = some parent := known
  refine ⟨around, ?_⟩
  rw [← first, ← Function.iterate_succ_apply, Function.iterate_succ_apply', back]

section Reported

variable (distinct : declarations.names.Nodup)
  (declared : ∀ name parent, declarations.parent? name = some parent →
    parent ∈ declarations.names)
include distinct declared

theorem ends_of_declared :
    ∀ edge ∈ declarations.graph.edges,
      edge.1 ∈ declarations.graph.nodes ∧ edge.2 ∈ declarations.graph.nodes := by
  intro edge isEdge
  have known := (mem_edges_iff distinct).mp isEdge
  exact ⟨declared _ _ known, mem_names_of_parent? known⟩

theorem mem_cyclicNodes_iff {library : GraphLibrary}
    (correct : library.IsCorrectOn declarations.graph) {name : String} :
    name ∈ declarations.graph.cyclicNodes (library.components declarations.graph) ↔
      declarations.IsAbove name name := by
  rw [← leads_iff distinct]
  exact ⟨correct.leads_of_mem_cyclicNodes distinct,
    correct.mem_cyclicNodes_of_leads (ends_of_declared distinct declared)⟩

/-- An edge is reported if its child is on a cycle; its parent then is, too. -/
theorem mem_cyclicEdges_iff {library : GraphLibrary}
    (correct : library.IsCorrectOn declarations.graph) {parent child : String} :
    (parent, child) ∈ declarations.graph.cyclicEdges (library.components declarations.graph) ↔
      declarations.parent? child = some parent ∧ declarations.IsAbove child child := by
  have onCycle (name : String) :
      name ∈ declarations.graph.cyclicNodes (library.components declarations.graph) ↔
        declarations.IsAbove name name := mem_cyclicNodes_iff distinct declared correct
  rw [ParentGraph.cyclicEdges, List.mem_filter, mem_edges_iff distinct, Bool.and_eq_true,
    List.contains_iff_mem, List.contains_iff_mem, onCycle, onCycle]
  constructor
  · rintro ⟨known, -, cycle⟩
    exact ⟨known, cycle⟩
  · rintro ⟨known, cycle⟩
    exact ⟨known, cycle.parent known, cycle⟩

theorem cyclicEdges_downward :
    declarations.graph.cyclicEdges (GraphLibrary.downward.components declarations.graph) =
      declarations.cyclicEdges := by
  have correct := isCorrectOn_downward distinct declared
  have onCycle (name : String) :
      (declarations.graph.cyclicNodes
        (GraphLibrary.downward.components declarations.graph)).contains name =
      declarations.isCyclic name := by
    rw [Bool.eq_iff_iff, List.contains_iff_mem, isCyclic_iff]
    exact mem_cyclicNodes_iff distinct declared correct
  rw [ParentGraph.cyclicEdges]
  simp only [onCycle]
  rw [graph, List.filter_filterMap, cyclicEdges]
  refine List.filterMap_congr ?_
  rintro ⟨name, declaration⟩ -
  dsimp only
  cases declaration.parent with
  | none => rfl
  | some parent => rfl

end Reported

theorem declared_of_missingParent? (distinct : declarations.names.Nodup) :
    declarations.missingParent? = none ↔ ∀ name parent,
      declarations.parent? name = some parent → parent ∈ declarations.names := by
  rw [missingParent?_eq_none_iff]
  constructor
  · intro declared name parent known
    rcases Option.bind_eq_some_iff.mp known with ⟨declaration, found, isParent⟩
    exact declared _ (NameMap.mem_of_get? found) parent isParent
  · intro declared entry member parent isParent
    refine declared entry.1 parent ?_
    rw [parent?, NameMap.get?_of_mem distinct member]
    exact isParent

end PropertyDeclarations

/-! ## Failures that are not for a cycle -/

/-- An outcome that does not blame a cycle of parents. -/
def BlamesNoCycle {α : Type} (outcome : Except CompileError α) : Prop :=
  ∀ edges, outcome ≠ .error (.cyclicPropertyDependency edges)

namespace BlamesNoCycle

variable {α β : Type}

theorem ok (value : α) : BlamesNoCycle (.ok value) := fun _ equal => (nomatch equal)

theorem error {error : CompileError}
    (other : ∀ edges, error ≠ .cyclicPropertyDependency edges) :
    BlamesNoCycle (.error error : Except CompileError α) :=
  fun edges equal => other edges (Except.error.inj equal)

/-- A failure that is passed on blames what it blamed before. -/
theorem pass {error : CompileError} (here : BlamesNoCycle (.error error : Except CompileError α)) :
    BlamesNoCycle (.error error : Except CompileError β) :=
  fun edges equal => here edges (congrArg Except.error (Except.error.inj equal))

theorem bind {first : Except CompileError α} {next : α → Except CompileError β}
    (here : BlamesNoCycle first) (later : ∀ value, BlamesNoCycle (next value)) :
    BlamesNoCycle (first >>= next) := by
  cases first with
  | error error => exact here.pass
  | ok value => exact later value

theorem map {first : Except CompileError α} {function : α → β} (here : BlamesNoCycle first) :
    BlamesNoCycle (first.map function) := by
  cases first with
  | error error => exact here.pass
  | ok value => exact ok (function value)

theorem checkName (typeName name : String) : BlamesNoCycle (Level.checkName typeName name) := by
  rw [Level.checkName]
  split
  · exact .error (by simp)
  · split
    · exact .error (by simp)
    · exact ok ()

theorem checkNames (typeName : String) (seen names : List String) :
    BlamesNoCycle (Level.checkNames typeName seen names) := by
  induction names generalizing seen with
  | nil => exact ok ()
  | cons name rest ih =>
      have own := checkName typeName name
      rw [Level.checkNames]
      split
      · next error refused => exact (refused ▸ own).pass
      · split
        · exact .error (by simp)
        · exact ih (name :: seen)

theorem checkValidators (path : DocPath) (seen validators : List BoundValidator) :
    BlamesNoCycle (Level.checkValidators path seen validators) := by
  induction validators generalizing seen with
  | nil => exact ok ()
  | cons validator rest ih =>
      rw [Level.checkValidators]
      split
      · exact .error (by simp)
      · exact ih (validator :: seen)

theorem close (hint : String) (level : Level) (bases : List RecordType) (path : DocPath) :
    BlamesNoCycle (Level.close hint level bases path) := by
  have names := checkNames (hint ++ "_t") [] (level.fields.map Prod.fst)
  have validators := checkValidators path [] level.declared
  rw [Level.close]
  dsimp only
  split
  · next error refused => exact (refused ▸ names).pass
  · split
    · next error refused => exact (refused ▸ validators).pass
    · exact ok _

theorem valuesAt (set : AttributeSet) (declaration : Document) (paths : List DocPath) :
    BlamesNoCycle (set.valuesAt declaration paths) := by
  induction paths with
  | nil => exact ok []
  | cons path rest ih =>
      rw [AttributeSet.valuesAt]
      split
      · exact ih.map
      · split
        · exact ih
        · exact .error (by simp)

variable {store : FileStore} {set : AttributeSet} {defaults : NameMap Document}

theorem composeOne (composed : NameMap Instance) (name : String)
    (declaration : PropertyDeclaration) :
    BlamesNoCycle (PropertySet.composeOne store set defaults composed name declaration) := by
  refine (valuesAt set declaration.values _).bind fun declared => ?_
  refine (close _ _ _ _).bind fun type => ?_
  split
  · exact .error (by simp)
  · exact ok _

theorem composeAll (declarations : PropertyDeclarations) (composed : NameMap Instance)
    (names : List String) :
    BlamesNoCycle (PropertySet.composeAll store set defaults declarations composed names) := by
  induction names generalizing composed with
  | nil => exact ok composed
  | cons name rest ih =>
      rw [PropertySet.composeAll]
      split
      · exact ih composed
      · next declaration known =>
        have own : BlamesNoCycle
            (PropertySet.composeOne store set defaults composed name declaration) :=
          composeOne composed name declaration
        split
        · next error failed => exact (failed ▸ own).pass
        · exact ih _

end BlamesNoCycle

namespace PropertySet

variable {library : GraphLibrary} {store : FileStore} {set : AttributeSet}
  {defaults : NameMap Document} {document : Document} {declarations : PropertyDeclarations}

/-! ## Composing with a library -/

/-- Composing properties is composing them with the search from each property down. -/
theorem compose_eq_composeBy :
    compose store set defaults document = composeBy .downward store set defaults document := by
  rw [compose, composeBy]
  cases read : PropertyDeclarations.ofDocument document with
  | error error => rfl
  | ok declarations =>
      have distinct := PropertyDeclarations.nodup_names_ofDocument read
      simp only [except_ok_bind]
      cases checkNames declarations.names with
      | error error => rfl
      | ok =>
          simp only [except_ok_bind]
          cases undeclared : declarations.missingParent? with
          | some parent => rfl
          | none =>
              have declared :=
                (PropertyDeclarations.declared_of_missingParent? distinct).mp undeclared
              dsimp only
              rw [PropertyDeclarations.order?_downward distinct,
                PropertyDeclarations.cyclicEdges_downward distinct declared]
              split
              · rfl
              · rfl

theorem composeBy_of_none (read : PropertyDeclarations.ofDocument document = .ok declarations)
    (namesValid : checkNames declarations.names = .ok ())
    (parentsDeclared : declarations.missingParent? = none)
    (isOrder : library.order? declarations.graph = none) :
    composeBy library store set defaults document = .error (.cyclicPropertyDependency
      (declarations.graph.cyclicEdges (library.components declarations.graph))) := by
  simp only [composeBy, read, namesValid, parentsDeclared, isOrder, except_ok_bind]

theorem composeBy_of_some (read : PropertyDeclarations.ofDocument document = .ok declarations)
    (namesValid : checkNames declarations.names = .ok ())
    (parentsDeclared : declarations.missingParent? = none) {order : List String}
    (isOrder : library.order? declarations.graph = some order) :
    composeBy library store set defaults document = do
      let properties ← composeAll store set defaults declarations [] order
      return ⟨set.base, properties⟩ := by
  simp only [composeBy, read, namesValid, parentsDeclared, isOrder, except_ok_bind]

theorem names_composeAll {composed result : NameMap Instance} {names : List String}
    (fresh : (composed.names ++ names).Nodup) (known : ∀ name ∈ names, name ∈ declarations.names)
    (run : composeAll store set defaults declarations composed names = .ok result) :
    result.names = composed.names ++ names := by
  induction names generalizing composed with
  | nil =>
      cases run
      exact (List.append_nil _).symm
  | cons name rest ih =>
      have isNew : name ∉ composed.names := fun member =>
        List.disjoint_of_nodup_append fresh member List.mem_cons_self
      rw [composeAll] at run
      split at run
      · next undeclared =>
        rcases NameMap.mem_names_iff.mp (known name List.mem_cons_self) with ⟨_, found⟩
        rw [undeclared] at found
        cases found
      · split at run
        · cases run
        · next record composes =>
          have names : (composed.insert name record).names = composed.names ++ [name] := by
            rw [NameMap.insert_of_fresh isNew, NameMap.names, List.map_append]
            rfl
          have shifted : composed.names ++ name :: rest = composed.names ++ [name] ++ rest := by
            simp
          rw [shifted, ← names] at fresh
          rw [shifted, ← names]
          exact ih fresh (fun other member => known other (List.mem_cons_of_mem _ member)) run

/--
Composing fails for a cycle exactly if the parents of some property never end; the edges are
then those from the properties on cycles to their children there.  Success gives every property
once, after its parent.
-/
theorem composeBy_cycles (store : FileStore) (set : AttributeSet) (defaults : NameMap Document)
    (read : PropertyDeclarations.ofDocument document = .ok declarations)
    (valid : ∀ name ∈ declarations.names, Level.checkName "properties" name = .ok ())
    (declared : ∀ name parent, declarations.parent? name = some parent →
      parent ∈ declarations.names)
    (correct : library.IsCorrectOn declarations.graph) :
    ((∃ edges, composeBy library store set defaults document =
        .error (.cyclicPropertyDependency edges)) ↔
      ∃ name ∈ declarations.names, ∀ steps, declarations.up^[steps] (some name) ≠ none) ∧
    (∀ edges, composeBy library store set defaults document =
        .error (.cyclicPropertyDependency edges) →
      (∀ parent child, (parent, child) ∈ edges ↔
        declarations.parent? child = some parent ∧ declarations.IsAbove child child) ∧
      (edges.map Prod.snd).Sublist declarations.names) ∧
    ∀ result, composeBy library store set defaults document = .ok result →
      result.properties.names.Perm declarations.names ∧
      ∀ parent child, declarations.parent? child = some parent →
        [parent, child].Sublist result.properties.names := by
  have distinct := PropertyDeclarations.nodup_names_ofDocument read
  have namesValid := PropertyDeclarations.checkNames_eq_ok_iff.mpr valid
  have undeclared := (PropertyDeclarations.declared_of_missingParent? distinct).mpr declared
  rw [PropertyDeclarations.endless_iff]
  cases isOrder : library.order? declarations.graph with
  | none =>
      rcases correct.unordered.mp isOrder with ⟨node, leads⟩
      rw [composeBy_of_none read namesValid undeclared isOrder]
      refine ⟨⟨fun _ => ⟨node, (PropertyDeclarations.leads_iff distinct).mp leads⟩,
        fun _ => ⟨_, rfl⟩⟩, ?_, fun _ succeeds => (nomatch succeeds)⟩
      intro edges blamed
      cases blamed
      refine ⟨fun _ _ => PropertyDeclarations.mem_cyclicEdges_iff distinct declared correct, ?_⟩
      exact (List.filter_sublist.map Prod.snd).trans PropertyDeclarations.edges_sublist
  | some order =>
      rcases correct.ordered order isOrder with ⟨isPerm, along⟩
      have noBlame : BlamesNoCycle (do
          let properties ← composeAll store set defaults declarations [] order
          return (⟨set.base, properties⟩ : PropertySet)) :=
        (BlamesNoCycle.composeAll declarations [] order).bind fun _ => .ok _
      rw [composeBy_of_some read namesValid undeclared isOrder]
      refine ⟨⟨?_, ?_⟩, fun edges blamed => absurd blamed (noBlame edges), ?_⟩
      · rintro ⟨edges, blamed⟩
        exact absurd blamed (noBlame edges)
      · rintro ⟨node, cycle⟩
        have leads := (PropertyDeclarations.leads_iff distinct).mpr cycle
        rw [correct.unordered.mpr ⟨node, leads⟩] at isOrder
        cases isOrder
      · intro result succeeds
        rcases except_bind_eq_ok.mp succeeds with ⟨properties, run, made⟩
        cases made
        have fresh : (NameMap.names ([] : NameMap Instance) ++ order).Nodup :=
          isPerm.nodup_iff.mpr distinct
        have names : properties.names = order := names_composeAll fresh isPerm.subset run
        rw [names]
        exact ⟨isPerm, fun parent child known =>
          along (parent, child) ((PropertyDeclarations.mem_edges_iff distinct).mpr known)⟩

/-- The set without attributes. -/
def noAttributes : AttributeSet := ⟨[], .mk "baseprop_t" [] [] [], []⟩

/-- A declaration that inherits and states nothing. -/
def childOf (name parent : String) : Document × Document :=
  (.string name, .mapping [(.string "parent", .string parent)])

/-- A cycle of two, two properties that hang off it, and a loop. -/
def loopedEntries : Document :=
  .mapping
    [ childOf "inlet" "outlet", childOf "drain" "inlet", childOf "tank" "tank",
      childOf "outlet" "inlet", childOf "pump" "drain" ]

/-- A chain that is declared from its end. -/
def chainedEntries : Document :=
  .mapping [childOf "pump" "drain", childOf "drain" "inlet", (.string "inlet", .null)]

/-- What is asked of declarations, in a form that can be evaluated. -/
theorem exists_declarations (document : Document)
    (checked : ((PropertyDeclarations.ofDocument document).toOption.any fun declarations =>
      (checkNames declarations.names).isOk && declarations.missingParent?.isNone) = true) :
    ∃ declarations, PropertyDeclarations.ofDocument document = .ok declarations ∧
      (∀ name ∈ declarations.names, Level.checkName "properties" name = .ok ()) ∧
      ∀ name parent, declarations.parent? name = some parent → parent ∈ declarations.names := by
  cases read : PropertyDeclarations.ofDocument document with
  | error error =>
      rw [read] at checked
      cases checked
  | ok declarations =>
      have distinct := PropertyDeclarations.nodup_names_ofDocument read
      rw [read] at checked
      rcases Bool.and_eq_true_iff.mp checked with ⟨valid, declared⟩
      rcases exists_of_isOk valid with ⟨⟨⟩, valid⟩
      exact ⟨declarations, rfl, PropertyDeclarations.checkNames_eq_ok_iff.mp valid,
        (PropertyDeclarations.declared_of_missingParent? distinct).mp
          (Option.isNone_iff_eq_none.mp declared)⟩

theorem composeBy_cycles_stations :
    (∃ declarations, PropertyDeclarations.ofDocument loopedEntries = .ok declarations ∧
      compose .empty noAttributes [] loopedEntries = .error (.cyclicPropertyDependency
        [("outlet", "inlet"), ("tank", "tank"), ("inlet", "outlet")]) ∧
      (∃ name ∈ declarations.names, ∀ steps, declarations.up^[steps] (some name) ≠ none) ∧
      declarations.IsAbove "inlet" "inlet" ∧ declarations.IsAbove "tank" "tank") ∧
    ∃ declarations result, PropertyDeclarations.ofDocument chainedEntries = .ok declarations ∧
      compose .empty noAttributes [] chainedEntries = .ok result ∧
      result.properties.names.Perm declarations.names ∧
      ∀ parent child, declarations.parent? child = some parent →
        [parent, child].Sublist result.properties.names := by
  constructor
  · rcases exists_declarations loopedEntries (by decide +kernel) with
      ⟨declarations, read, valid, declared⟩
    have distinct := PropertyDeclarations.nodup_names_ofDocument read
    have blamed : compose .empty noAttributes [] loopedEntries = .error (.cyclicPropertyDependency
        [("outlet", "inlet"), ("tank", "tank"), ("inlet", "outlet")]) := rfl
    rcases composeBy_cycles .empty noAttributes [] read valid declared
      (PropertyDeclarations.isCorrectOn_downward distinct declared) with ⟨isCyclic, reported, -⟩
    rw [← compose_eq_composeBy] at isCyclic reported
    rcases reported _ blamed with ⟨edges, -⟩
    exact ⟨declarations, read, blamed, isCyclic.mp ⟨_, blamed⟩,
      ((edges "outlet" "inlet").mp (by decide)).2, ((edges "tank" "tank").mp (by decide)).2⟩
  · rcases exists_declarations chainedEntries (by decide +kernel) with
      ⟨declarations, read, valid, declared⟩
    have distinct := PropertyDeclarations.nodup_names_ofDocument read
    have succeeds : (compose .empty noAttributes [] chainedEntries).isOk = true := by
      decide +kernel
    rcases exists_of_isOk succeeds with ⟨result, composes⟩
    rcases composeBy_cycles .empty noAttributes [] read valid declared
      (PropertyDeclarations.isCorrectOn_downward distinct declared) with ⟨-, -, ordered⟩
    rw [← compose_eq_composeBy] at ordered
    exact ⟨declarations, result, read, composes, ordered result composes⟩

end PropertySet

end RuleSchema
