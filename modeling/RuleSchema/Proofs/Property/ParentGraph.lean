import Mathlib.Logic.Relation
import RuleSchema.Property.Graph
import RuleSchema.Proofs.Property.Order

/-!
# The graph of parents

A way along the edges of the graph leads from a property to what it is above.  A node is in a
cyclic component of a correct library exactly if a way leads from it to itself.  Every node has
at most one edge to it; an edge between nodes of cyclic components is therefore on the cycle of
its child, even though the two components are not compared.

The search from each property down is correct on the graphs of declarations.
-/

namespace RuleSchema

namespace ParentGraph

/-- A way along edges, at least one, from a node to another. -/
def Leads (graph : ParentGraph) : String → String → Prop :=
  Relation.TransGen fun parent child => (parent, child) ∈ graph.edges

end ParentGraph

/-- What a library documents of its answers for a graph. -/
structure GraphLibrary.IsCorrectOn (library : GraphLibrary) (graph : ParentGraph) : Prop where
  unordered : library.order? graph = none ↔ ∃ node, graph.Leads node node
  ordered : ∀ order, library.order? graph = some order →
    order.Perm graph.nodes ∧ ∀ edge ∈ graph.edges, [edge.1, edge.2].Sublist order
  partition : (library.components graph).flatten.Perm graph.nodes
  connected : ∀ component ∈ library.components graph, ∀ node ∈ component,
    ∀ other ∈ graph.nodes,
      (other ∈ component ↔ node = other ∨ graph.Leads node other ∧ graph.Leads other node)

namespace GraphLibrary.IsCorrectOn

variable {library : GraphLibrary} {graph : ParentGraph}

theorem leads_of_mem_cyclicNodes (correct : library.IsCorrectOn graph)
    (distinct : graph.nodes.Nodup) {node : String}
    (member : node ∈ graph.cyclicNodes (library.components graph)) : graph.Leads node node := by
  rcases List.mem_flatten.mp member with ⟨component, cyclic, inside⟩
  rcases List.mem_filter.mp cyclic with ⟨known, isCyclic⟩
  have eachOnce : component.Nodup :=
    (List.nodup_flatten.mp (correct.partition.nodup_iff.mpr distinct)).1 component known
  have isNode {other : String} (inComponent : other ∈ component) : other ∈ graph.nodes :=
    correct.partition.subset (List.mem_flatten.mpr ⟨component, known, inComponent⟩)
  have around {other : String} (inComponent : other ∈ component) (different : node ≠ other) :
      graph.Leads node node := by
    rcases (correct.connected component known node inside other (isNode inComponent)).mp
        inComponent with same | ⟨there, back⟩
    · exact absurd same different
    · exact there.trans back
  match component with
  | [] => cases inside
  | [single] =>
      cases List.mem_singleton.mp inside
      exact .single (List.contains_iff_mem.mp isCyclic)
  | first :: second :: rest =>
      by_cases same : node = first
      · refine around (List.mem_cons_of_mem _ List.mem_cons_self) ?_
        rintro rfl
        exact (List.nodup_cons.mp eachOnce).1 (same ▸ List.mem_cons_self)
      · exact around List.mem_cons_self same

theorem mem_cyclicNodes_of_leads (correct : library.IsCorrectOn graph)
    (ends : ∀ edge ∈ graph.edges, edge.1 ∈ graph.nodes ∧ edge.2 ∈ graph.nodes) {node : String}
    (leads : graph.Leads node node) : node ∈ graph.cyclicNodes (library.components graph) := by
  rcases Relation.TransGen.head'_iff.mp leads with ⟨next, edge, back⟩
  have isNode : node ∈ graph.nodes := (ends _ edge).1
  rcases List.mem_flatten.mp (correct.partition.symm.subset isNode) with
    ⟨component, known, inside⟩
  have nextInside : next ∈ component := by
    refine (correct.connected component known node inside next (ends _ edge).2).mpr ?_
    rcases Relation.reflTransGen_iff_eq_or_transGen.mp back with same | further
    · exact .inl same
    · exact .inr ⟨.single edge, further⟩
  refine List.mem_flatten.mpr ⟨component, List.mem_filter.mpr ⟨known, ?_⟩, inside⟩
  match component with
  | [] => cases inside
  | [single] =>
      cases List.mem_singleton.mp inside
      cases List.mem_singleton.mp nextInside
      exact List.contains_iff_mem.mpr edge
  | first :: second :: rest =>
      exact decide_eq_true (Nat.succ_lt_succ (Nat.succ_pos rest.length))

end GraphLibrary.IsCorrectOn

namespace PropertyDeclarations

variable {declarations : PropertyDeclarations}

/-! ## Edges -/

theorem mem_edges_iff (distinct : declarations.names.Nodup) {parent child : String} :
    (parent, child) ∈ declarations.graph.edges ↔ declarations.parent? child = some parent := by
  rw [graph, List.mem_filterMap]
  constructor
  · rintro ⟨⟨name, declaration⟩, member, isEdge⟩
    rcases Option.map_eq_some_iff.mp isEdge with ⟨other, isParent, same⟩
    cases same
    rw [parent?, NameMap.get?_of_mem distinct member]
    exact isParent
  · intro known
    rcases Option.bind_eq_some_iff.mp known with ⟨declaration, found, isParent⟩
    exact ⟨(child, declaration), NameMap.mem_of_get? found, by rw [isParent]; rfl⟩

/-- The edges are in the order of the properties that have a parent. -/
theorem edges_sublist : (declarations.graph.edges.map Prod.snd).Sublist declarations.names := by
  have children : declarations.graph.edges.map Prod.snd =
      declarations.filterMap fun entry => entry.2.parent.map fun _ => entry.1 := by
    rw [graph, List.map_filterMap]
    exact List.filterMap_congr fun entry _ => by cases entry.2.parent <;> rfl
  rw [children]
  clear children
  induction declarations with
  | nil => exact .slnil
  | cons entry rest ih =>
      rw [List.filterMap_cons, NameMap.names, List.map_cons]
      cases entry.2.parent with
      | none => exact ih.cons entry.1
      | some parent => exact ih.cons_cons entry.1

theorem leads_iff (distinct : declarations.names.Nodup) {upper lower : String} :
    declarations.graph.Leads upper lower ↔ declarations.IsAbove upper lower := by
  constructor
  · intro leads
    induction leads with
    | single edge => exact .of_parent ((mem_edges_iff distinct).mp edge)
    | tail _ edge ih => exact ih.child ((mem_edges_iff distinct).mp edge)
  · rintro ⟨steps, reached⟩
    induction steps generalizing lower with
    | zero => exact .single ((mem_edges_iff distinct).mpr reached)
    | succ steps ih =>
        rw [Function.iterate_succ_apply] at reached
        cases known : declarations.up (some lower) with
        | none =>
            rw [known, up_iterate_none] at reached
            cases reached
        | some parent =>
            rw [known] at reached
            exact .tail (ih reached) ((mem_edges_iff distinct).mpr known)

/-! ## The search from each property down -/

/-- A declaration of the same parent and nothing else. -/
def withoutValues (declaration : PropertyDeclaration) : PropertyDeclaration :=
  ⟨declaration.parent, .mapping []⟩

/-- The declarations as far as their graph tells them. -/
def bare (declarations : PropertyDeclarations) : PropertyDeclarations :=
  declarations.map fun entry => (entry.1, withoutValues entry.2)

theorem names_bare : declarations.bare.names = declarations.names :=
  NameMap.names_mapValues withoutValues

theorem parent?_bare (name : String) :
    declarations.bare.parent? name = declarations.parent? name := by
  rw [parent?, bare, NameMap.get?_mapValues withoutValues, Option.bind_map]
  rfl

theorem children_bare (name : String) :
    declarations.bare.children name = declarations.children name := by
  rw [children, bare, List.filter_map, List.map_map]
  rfl

theorem reaches_bare (goal name : String) (steps : Nat) :
    declarations.bare.reaches goal steps name = declarations.reaches goal steps name := by
  induction steps generalizing name with
  | zero => rfl
  | succ steps ih =>
      rw [reaches, reaches, parent?_bare]
      cases declarations.parent? name with
      | none => rfl
      | some parent => exact congrArg (parent == goal || ·) (ih parent)

theorem isCyclic_bare : declarations.bare.isCyclic = declarations.isCyclic := by
  funext name
  rw [isCyclic, reaches_bare, bare, List.length_map]
  rfl

theorem place_bare : declarations.bare.place = declarations.place := by
  have connected : declarations.bare.isConnected = declarations.isConnected := by
    funext left right
    rw [isConnected, reaches_bare, reaches_bare, bare, List.length_map]
    rfl
  funext name components
  rw [place, connected]
  rfl

theorem search_bare (depth : Nat) : declarations.bare.search depth = declarations.search depth := by
  induction depth with
  | zero => rfl
  | succ depth ih =>
      funext state name
      rw [search, search, ih, children_bare]

theorem order_bare : declarations.bare.order = declarations.order := by
  rw [order, search_bare, names_bare, bare, List.length_map]
  rfl

/-- The graph of declarations keeps all but their values. -/
theorem declarations_graph (distinct : declarations.names.Nodup) :
    declarations.graph.declarations = declarations.bare := by
  rw [ParentGraph.declarations, graph, NameMap.names, List.map_map, bare]
  refine List.map_congr_left fun entry member => ?_
  have known : declarations.parent? entry.1 = entry.2.parent := by
    rw [parent?, NameMap.get?_of_mem distinct member]
    rfl
  have first : (declarations.graph.edges.find? fun edge => edge.2 == entry.1).map Prod.fst =
      entry.2.parent := by
    cases found : declarations.graph.edges.find? fun edge => edge.2 == entry.1 with
    | none =>
        cases isParent : entry.2.parent with
        | none => rfl
        | some parent =>
            rw [isParent, ← mem_edges_iff distinct] at known
            exact absurd (beq_self_eq_true entry.1) (List.find?_eq_none.mp found _ known)
    | some edge =>
        have child : edge.2 = entry.1 := by simpa using List.find?_some found
        have isEdge := (mem_edges_iff distinct).mp (List.mem_of_find?_eq_some found)
        rw [← known, ← child, isEdge]
        rfl
  exact congrArg (fun parent => (entry.1, PropertyDeclaration.mk parent (.mapping []))) first

theorem order?_downward (distinct : declarations.names.Nodup) :
    GraphLibrary.downward.order? declarations.graph =
      if declarations.names.any declarations.isCyclic then none else some declarations.order := by
  rw [GraphLibrary.downward]
  dsimp only
  rw [declarations_graph distinct, isCyclic_bare, names_bare, order_bare]

theorem components_downward (distinct : declarations.names.Nodup) :
    GraphLibrary.downward.components declarations.graph =
      declarations.names.foldr declarations.place [] := by
  rw [GraphLibrary.downward]
  dsimp only
  rw [declarations_graph distinct, place_bare]
  rfl

/-- A search that goes through declared properties finishes no others. -/
theorem mem_names_of_foldl {visit : Search → String → Search} {names : List String}
    (visits : ∀ state, ∀ name ∈ names, ∀ other ∈ (visit state name).finished,
      other ∈ state.finished ∨ other ∈ declarations.names) {state : Search} {other : String}
    (finished : other ∈ (names.foldl visit state).finished) :
    other ∈ state.finished ∨ other ∈ declarations.names := by
  induction names generalizing state with
  | nil => exact .inl finished
  | cons name rest ih =>
      have later : ∀ state, ∀ name ∈ rest, ∀ other ∈ (visit state name).finished,
          other ∈ state.finished ∨ other ∈ declarations.names :=
        fun state name member => visits state name (List.mem_cons_of_mem _ member)
      rcases ih later finished with early | declared
      · exact visits state name List.mem_cons_self other early
      · exact .inr declared

theorem mem_names_of_search (distinct : declarations.names.Nodup) {depth : Nat} {state : Search}
    {name other : String} (declared : name ∈ declarations.names)
    (finished : other ∈ (declarations.search depth state name).finished) :
    other ∈ state.finished ∨ other ∈ declarations.names := by
  induction depth generalizing state name other with
  | zero => exact .inl finished
  | succ depth ih =>
      rw [search] at finished
      split at finished
      · exact .inl finished
      · rcases List.mem_cons.mp finished with rfl | below
        · exact .inr declared
        · have visits : ∀ state, ∀ child ∈ declarations.children name,
              ∀ other ∈ (declarations.search depth state child).finished,
                other ∈ state.finished ∨ other ∈ declarations.names := by
            intro state child isChild other done
            have parent := (mem_children_iff distinct).mp isChild
            exact ih (mem_names_of_parent? parent) done
          have known := mem_names_of_foldl visits below
          exact known

theorem mem_names_of_mem_order (distinct : declarations.names.Nodup) {name : String}
    (member : name ∈ declarations.order) : name ∈ declarations.names :=
  (mem_names_of_foldl (fun _ _ declared _ done => mem_names_of_search distinct declared done)
    member).resolve_left List.not_mem_nil

theorem ParentsFirst.nodup {names : List String} (ordered : declarations.ParentsFirst names) :
    names.Nodup := by
  induction names with
  | nil => exact List.nodup_nil
  | cons name rest ih => exact List.nodup_cons.mpr ⟨ordered.1, ih ordered.2.2⟩

theorem IsAbove.trans {upper middle lower : String} (first : declarations.IsAbove upper middle)
    (second : declarations.IsAbove middle lower) : declarations.IsAbove upper lower := by
  rcases first with ⟨further, reached⟩
  rcases second with ⟨steps, start⟩
  refine ⟨further + 1 + steps, ?_⟩
  rw [Nat.add_assoc, Function.iterate_add_apply, start, reached]

/-- On a cycle no way is longer than there are declarations. -/
theorem reaches_of_cycle {upper lower : String} (there : declarations.IsAbove upper lower)
    (back : declarations.IsAbove lower upper) :
    declarations.reaches upper declarations.length lower = true := by
  rcases back.trans there with ⟨around, cycle⟩
  have positive : 0 < Function.minimalPeriod declarations.up (some lower) :=
    Function.IsPeriodicPt.minimalPeriod_pos (Nat.succ_pos around) cycle
  have short : Function.minimalPeriod declarations.up (some lower) ≤ declarations.length :=
    minimalPeriod_le_length lower
  rcases there with ⟨steps, reached⟩
  rw [← Function.iterate_mod_minimalPeriod_eq] at reached
  have less := Nat.mod_lt (steps + 1) positive
  rw [reaches_iff]
  cases left : (steps + 1) % Function.minimalPeriod declarations.up (some lower) with
  | zero =>
      rw [left] at reached
      refine ⟨Function.minimalPeriod declarations.up (some lower) - 1, by omega, ?_⟩
      rw [Nat.sub_add_cancel positive, ← reached]
      exact Function.iterate_minimalPeriod
  | succ count =>
      rw [left] at reached less
      exact ⟨count, by omega, reached⟩

theorem isConnected_iff {left right : String} :
    declarations.isConnected left right = true ↔
      left = right ∨ declarations.IsAbove left right ∧ declarations.IsAbove right left := by
  rw [isConnected, Bool.or_eq_true, beq_iff_eq, Bool.and_eq_true]
  refine or_congr_right ⟨?_, ?_⟩
  · rintro ⟨rightReached, leftReached⟩
    rcases reaches_iff.mp rightReached with ⟨up, -, toRight⟩
    rcases reaches_iff.mp leftReached with ⟨further, -, toLeft⟩
    exact ⟨⟨further, toLeft⟩, ⟨up, toRight⟩⟩
  · rintro ⟨leftAbove, rightAbove⟩
    exact ⟨reaches_of_cycle rightAbove leftAbove, reaches_of_cycle leftAbove rightAbove⟩

theorem isConnected_symm {left right : String}
    (connected : declarations.isConnected left right = true) :
    declarations.isConnected right left = true :=
  isConnected_iff.mpr ((isConnected_iff.mp connected).imp Eq.symm And.symm)

theorem isConnected_trans {left middle right : String}
    (first : declarations.isConnected left middle = true)
    (second : declarations.isConnected middle right = true) :
    declarations.isConnected left right = true := by
  rw [isConnected_iff] at first second ⊢
  rcases first with rfl | ⟨down, up⟩
  · exact second
  · rcases second with rfl | ⟨further, back⟩
    · exact .inr ⟨down, up⟩
    · exact .inr ⟨down.trans further, back.trans up⟩

/-- Components of names: each name is in one of them, with all names it is connected to. -/
structure AreComponents (declarations : PropertyDeclarations) (names : List String)
    (components : List (List String)) : Prop where
  partition : components.flatten.Perm names
  connected : ∀ component ∈ components, ∀ node ∈ component, ∀ other ∈ names,
    (other ∈ component ↔ declarations.isConnected node other = true)

namespace AreComponents

variable {names : List String} {components : List (List String)} {name : String}

theorem mem_names (parts : declarations.AreComponents names components) {component : List String}
    {node : String} (known : component ∈ components) (inside : node ∈ component) : node ∈ names :=
  parts.partition.subset (List.mem_flatten.mpr ⟨component, known, inside⟩)

/-- A name is connected to all of a component, or to nothing in it. -/
theorem any_isConnected_iff (parts : declarations.AreComponents names components)
    {component : List String} {node : String} (known : component ∈ components)
    (inside : node ∈ component) :
    component.any (declarations.isConnected name) = true ↔
      declarations.isConnected name node = true := by
  rw [List.any_eq_true]
  constructor
  · rintro ⟨other, otherInside, near⟩
    have together := (parts.connected component known other otherInside node
      (parts.mem_names known inside)).mp inside
    exact isConnected_trans near together
  · exact fun near => ⟨node, inside, near⟩

/-- The component of a new name has just what is connected to it. -/
theorem mem_joined_iff (parts : declarations.AreComponents names components) {other : String}
    (otherName : other ∈ name :: names) :
    other ∈ name :: (components.filter fun component =>
        component.any (declarations.isConnected name)).flatten ↔
      declarations.isConnected name other = true := by
  constructor
  · intro joined
    rcases List.mem_cons.mp joined with rfl | joined
    · exact isConnected_iff.mpr (.inl rfl)
    · rcases List.mem_flatten.mp joined with ⟨component, near, inside⟩
      rcases List.mem_filter.mp near with ⟨known, near⟩
      exact (parts.any_isConnected_iff known inside).mp near
  · intro near
    rcases List.mem_cons.mp otherName with rfl | otherName
    · exact List.mem_cons_self
    · rcases List.mem_flatten.mp (parts.partition.symm.subset otherName) with
        ⟨component, known, inside⟩
      have isNear := (parts.any_isConnected_iff known inside).mpr near
      exact List.mem_cons_of_mem name
        (List.mem_flatten.mpr ⟨component, List.mem_filter.mpr ⟨known, isNear⟩, inside⟩)

theorem place (parts : declarations.AreComponents names components) (fresh : name ∉ names) :
    declarations.AreComponents (name :: names) (declarations.place name components) := by
  have whole : (declarations.place name components).flatten.Perm (name :: names) := by
    rw [PropertyDeclarations.place, List.flatten_cons, List.cons_append, ← List.flatten_append]
    exact ((List.filter_append_perm _ components).flatten.trans parts.partition).cons name
  refine ⟨whole, ?_⟩
  intro component member node inside other otherName
  rcases List.mem_cons.mp member with rfl | apart
  · have nodeName : node ∈ name :: names :=
      whole.subset (List.mem_flatten.mpr ⟨_, member, inside⟩)
    have near := (parts.mem_joined_iff nodeName).mp inside
    rw [parts.mem_joined_iff otherName]
    exact ⟨isConnected_trans (isConnected_symm near), isConnected_trans near⟩
  · rcases List.mem_filter.mp apart with ⟨known, far⟩
    rcases List.mem_cons.mp otherName with rfl | otherName
    · constructor
      · exact fun inside => absurd (parts.mem_names known inside) fresh
      · intro near
        exact absurd ((parts.any_isConnected_iff known inside).mpr (isConnected_symm near))
          (by simpa using far)
    · exact parts.connected component known node inside other otherName

end AreComponents

theorem areComponents_foldr {names : List String} (distinct : names.Nodup) :
    declarations.AreComponents names (names.foldr declarations.place []) := by
  induction names with
  | nil => exact ⟨.nil, fun _ member => absurd member List.not_mem_nil⟩
  | cons name rest ih =>
      rcases List.nodup_cons.mp distinct with ⟨fresh, restDistinct⟩
      exact (ih restDistinct).place fresh

/-- The search is correct on the graph of declarations whose parents are declared. -/
theorem isCorrectOn_downward (distinct : declarations.names.Nodup)
    (declared : ∀ name parent, declarations.parent? name = some parent →
      parent ∈ declarations.names) :
    GraphLibrary.downward.IsCorrectOn declarations.graph where
  unordered := by
    simp only [leads_iff distinct, order?_downward distinct, ite_eq_left_iff, reduceCtorEq,
      Bool.not_eq_true, imp_false, isAcyclic_iff, IsAcyclic, not_forall, not_not]
  ordered := by
    intro order isOrder
    rw [order?_downward distinct] at isOrder
    split at isOrder
    · cases isOrder
    next noCycle =>
    cases isOrder
    have acyclic := isAcyclic_iff.mp (by simpa using noCycle)
    rcases parentsFirst_order acyclic distinct with ⟨ordered, all⟩
    constructor
    · refine (List.perm_ext_iff_of_nodup ordered.nodup distinct).mpr fun name => ?_
      exact ⟨mem_names_of_mem_order distinct, all name⟩
    · rintro ⟨parent, child⟩ edge
      have known := (mem_edges_iff distinct).mp edge
      rcases List.append_of_mem (all child (mem_names_of_parent? known)) with
        ⟨before, after, split⟩
      have parentIn := all parent (declared child parent known)
      rw [split] at ordered parentIn ⊢
      have early := ordered.mem_before distinct known parentIn
      exact (List.singleton_sublist.mpr early).append
        (List.singleton_sublist.mpr List.mem_cons_self)
  partition := by
    rw [components_downward distinct]
    exact (areComponents_foldr distinct).partition
  connected := by
    rw [components_downward distinct]
    intro component known node inside other isNode
    rw [(areComponents_foldr distinct).connected component known node inside other isNode,
      isConnected_iff, leads_iff distinct, leads_iff distinct]

end PropertyDeclarations

end RuleSchema
