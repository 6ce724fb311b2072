import Mathlib.Data.List.Forall2
import RuleSchema.Network.Builder
import RuleSchema.Proofs.FirstAppearances
import RuleSchema.Proofs.NameMap

/-!
# Graphs of declared nodes and edges

The nodes of a graph are the declared names, then the ends of the edges in the order in which
they first appear, each name once.  The edges of the graph are the declared edges in their
order, between the nodes of their ends.

While a graph is drawn, the number known for a name is the place of that name among the nodes;
this is the invariant, and with it no name can have two nodes.
-/

namespace RuleSchema

/-- The names that an edge connects. -/
def Edge.ends (edge : Edge) : List String := [edge.source, edge.target]

namespace Graph

/-- Nodes and values of a drawn edge are those of a declared edge. -/
structure Draws (nodes : List String) (edge : Edge) (drawn : Nat × Nat × Instance) : Prop where
  source : nodes[drawn.1]? = some edge.source
  target : nodes[drawn.2.1]? = some edge.target
  values : drawn.2.2 = edge.values

/-- A graph shows declared nodes and edges, and nothing else. -/
structure Shows (graph : Graph) (names : List String) (edges : List Edge) : Prop where
  nodes : graph.nodes = (names ++ edges.flatMap Edge.ends).eraseDups
  distinct : graph.nodes.Nodup
  edges : List.Forall₂ (Draws graph.nodes) edges graph.edges

theorem Draws.append {nodes : List String} {edge : Edge} {drawn : Nat × Nat × Instance}
    (draws : Draws nodes edge drawn) (more : List String) : Draws (nodes ++ more) edge drawn := by
  have kept {number : Nat} {name : String} (found : nodes[number]? = some name) :
      (nodes ++ more)[number]? = some name := by
    rw [List.getElem?_append_left (List.getElem?_eq_some_iff.mp found).1, found]
  exact ⟨kept draws.source, kept draws.target, draws.values⟩

namespace Draft

variable {draft : Draft} {seen : List String} {edges : List Edge} {name : String}

/-- What is drawn after some names were seen and some edges joined. -/
structure Follows (draft : Draft) (seen : List String) (edges : List Edge) : Prop where
  nodes : draft.graph.nodes = seen.eraseDups
  numbers : ∀ name number,
    draft.numbers.get? name = some number ↔ draft.graph.nodes[number]? = some name
  edges : List.Forall₂ (Draws draft.graph.nodes) edges draft.graph.edges

theorem follows_empty : Follows ⟨Graph.empty, []⟩ [] [] :=
  ⟨rfl, fun _ _ => by simp [NameMap.get?, Graph.empty], .nil⟩

/-- A name with a number has one node only. -/
theorem Follows.distinct (follows : draft.Follows seen edges) : draft.graph.nodes.Nodup := by
  refine List.pairwise_iff_getElem.mpr ?_
  intro first second inFirst inSecond earlier same
  have firstNumber := (follows.numbers _ _).mpr (List.getElem?_eq_getElem inFirst)
  have secondNumber := (follows.numbers _ _).mpr (List.getElem?_eq_getElem inSecond)
  rw [same, secondNumber, Option.some.injEq] at firstNumber
  exact Nat.ne_of_gt earlier firstNumber

/-- A name that was not seen gets the next number. -/
theorem Follows.declare (follows : draft.Follows seen edges) (fresh : name ∉ seen) :
    (draft.declare name).Follows (seen ++ [name]) edges where
  nodes := by
    rw [eraseDups_concat_of_not_mem fresh, ← follows.nodes]
    rfl
  numbers := by
    intro other number
    have unknown : name ∉ draft.graph.nodes := by
      rw [follows.nodes]
      exact fun member => fresh (List.mem_eraseDups.mp member)
    have place : (draft.graph.nodes ++ [name])[number]? = some other ↔
        draft.graph.nodes[number]? = some other ∨
          number = draft.graph.nodes.length ∧ name = other := by
      rw [List.getElem?_append]
      split
      · next inside => simp [Nat.ne_of_lt inside]
      · next outside =>
        have noNode : draft.graph.nodes[number]? = none := by simpa using outside
        rw [noNode, List.getElem?_singleton]
        by_cases next : number = draft.graph.nodes.length
        · simp [next]
        · have later : ¬number - draft.graph.nodes.length = 0 := by omega
          simp [next, later]
    rw [Draft.declare]
    dsimp only
    rw [place]
    by_cases same : other = name
    · subst same
      rw [NameMap.get?_insert_self]
      have noNode : draft.graph.nodes[number]? ≠ some other :=
        fun found => unknown (List.mem_of_getElem? found)
      simp [noNode, eq_comm]
    · rw [NameMap.get?_insert_of_ne _ _ same, follows.numbers]
      simp [Ne.symm same]
  edges := follows.edges.imp fun _ _ draws => draws.append [name]

/-- After asking for its number a name is seen, and has that number. -/
theorem Follows.number (follows : draft.Follows seen edges) (name : String) :
    (draft.number name).2.Follows (seen ++ [name]) edges ∧
      (draft.number name).2.graph.nodes[(draft.number name).1]? = some name := by
  rw [Draft.number]
  cases known : draft.numbers.get? name with
  | some number =>
      have found := (follows.numbers name number).mp known
      have member : name ∈ seen := by
        rw [← List.mem_eraseDups, ← follows.nodes]
        exact List.mem_of_getElem? found
      refine ⟨⟨?_, follows.numbers, follows.edges⟩, found⟩
      rw [eraseDups_concat_of_mem member, ← follows.nodes]
  | none =>
      have fresh : name ∉ seen := by
        intro member
        rw [← List.mem_eraseDups, ← follows.nodes] at member
        rcases List.mem_iff_getElem?.mp member with ⟨number, found⟩
        rw [(follows.numbers name number).mpr found] at known
        cases known
      exact ⟨follows.declare fresh, by simp [Draft.declare]⟩

/-- Names with numbers keep them. -/
theorem nodes_number (draft : Draft) (name : String) :
    draft.graph.nodes <+: (draft.number name).2.graph.nodes := by
  rw [Draft.number]
  split
  · exact List.prefix_refl _
  · exact List.prefix_append _ _

theorem Follows.join (follows : draft.Follows seen edges) (edge : Edge) :
    (draft.join edge).Follows (seen ++ edge.ends) (edges ++ [edge]) := by
  rcases follows.number edge.source with ⟨afterSource, source⟩
  rcases afterSource.number edge.target with ⟨afterTarget, target⟩
  have parts : seen ++ edge.ends = seen ++ [edge.source] ++ [edge.target] := by simp [Edge.ends]
  rw [parts]
  refine ⟨afterTarget.nodes, afterTarget.numbers, ?_⟩
  refine List.rel_append afterTarget.edges (.cons ⟨?_, target, rfl⟩ .nil)
  rcases nodes_number (draft.number edge.source).2 edge.target with ⟨more, whole⟩
  have inside := (List.getElem?_eq_some_iff.mp source).1
  rw [← source, ← whole]
  exact List.getElem?_append_left inside

theorem Follows.declareAll (follows : draft.Follows seen edges) {names : List String}
    (distinct : names.Nodup) (fresh : ∀ name ∈ names, name ∉ seen) :
    (names.foldl Draft.declare draft).Follows (seen ++ names) edges := by
  induction names generalizing draft seen with
  | nil => simpa using follows
  | cons name rest ih =>
      rcases List.nodup_cons.mp distinct with ⟨unlike, restDistinct⟩
      have first := follows.declare (fresh name List.mem_cons_self)
      have later : ∀ other ∈ rest, other ∉ seen ++ [name] := by
        intro other member
        have different : other ≠ name := fun same => unlike (same ▸ member)
        simp [fresh other (List.mem_cons_of_mem name member), different]
      simpa using ih first restDistinct later

theorem Follows.joinAll (follows : draft.Follows seen edges) (more : List Edge) :
    (more.foldl Draft.join draft).Follows (seen ++ more.flatMap Edge.ends) (edges ++ more) := by
  induction more generalizing draft seen edges with
  | nil => simpa using follows
  | cons edge rest ih => simpa using ih (follows.join edge)

end Draft

/-- The graph of distinct names and any edges shows them. -/
theorem shows_ofNames {names : List String} (distinct : names.Nodup) (edges : List Edge) :
    (ofNames names edges).Shows names edges := by
  have declared := Draft.follows_empty.declareAll distinct fun _ _ => List.not_mem_nil
  have drawn := declared.joinAll edges
  exact ⟨drawn.nodes, drawn.distinct, drawn.edges⟩

end Graph

end RuleSchema
