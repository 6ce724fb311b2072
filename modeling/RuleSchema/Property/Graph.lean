import RuleSchema.Property.Compose

/-!
# Composing properties with a graph library

Declarations are a graph with an edge from every parent to each of its children.  A library
puts the nodes of a graph in an order, unless there is a cycle, and finds its strongly
connected components.  An edge is reported if both of its ends are in components that have a
cycle.

The search from each property down is one such library.
-/

namespace RuleSchema

/-- The graph of who inherits from whom. -/
structure ParentGraph where
  nodes : List String
  /-- The pairs of parent and child. -/
  edges : List (String × String)

/-- What is asked of a library of graphs. -/
structure GraphLibrary where
  /-- The nodes in an order that goes along all edges. -/
  order? : ParentGraph → Option (List String)
  components : ParentGraph → List (List String)

namespace ParentGraph

/-- Whether a component has a cycle; one of a single node has one only as a loop. -/
def isCyclicComponent (graph : ParentGraph) : List String → Bool
  | [node] => graph.edges.contains (node, node)
  | component => decide (1 < component.length)

/-- The nodes of the components that are cycles. -/
def cyclicNodes (graph : ParentGraph) (components : List (List String)) : List String :=
  (components.filter graph.isCyclicComponent).flatten

/-- The edges between nodes of cyclic components, which need not be the same. -/
def cyclicEdges (graph : ParentGraph) (components : List (List String)) :
    List (String × String) :=
  let cyclic := graph.cyclicNodes components
  graph.edges.filter fun edge => cyclic.contains edge.1 && cyclic.contains edge.2

/-- Declarations without values; of several edges to a node the first gives its parent. -/
def declarations (graph : ParentGraph) : PropertyDeclarations :=
  graph.nodes.map fun node =>
    (node, ⟨(graph.edges.find? fun edge => edge.2 == node).map Prod.fst, .mapping []⟩)

end ParentGraph

namespace PropertyDeclarations

/-- The graph of declarations: every property, and an edge from the parent of each that has one. -/
def graph (declarations : PropertyDeclarations) : ParentGraph where
  nodes := declarations.names
  edges := declarations.filterMap fun entry =>
    entry.2.parent.map fun parent => (parent, entry.1)

/-- Whether two properties are one, or each is above the other. -/
def isConnected (declarations : PropertyDeclarations) (left right : String) : Bool :=
  left == right ||
    (declarations.reaches right declarations.length left &&
      declarations.reaches left declarations.length right)

/-- Put a property to the components that it is connected to. -/
def place (declarations : PropertyDeclarations) (name : String)
    (components : List (List String)) : List (List String) :=
  let isNear (component : List String) := component.any (declarations.isConnected name)
  (name :: (components.filter isNear).flatten) ::
    components.filter fun component => !isNear component

end PropertyDeclarations

/-- The search from each property down. -/
def GraphLibrary.downward : GraphLibrary where
  order? graph :=
    let declarations := graph.declarations
    if declarations.names.any declarations.isCyclic then none else some declarations.order
  components graph := graph.nodes.foldr graph.declarations.place []

/-- Compose the properties of a document of declarations, in the order of a library. -/
def PropertySet.composeBy (library : GraphLibrary) (store : FileStore) (set : AttributeSet)
    (defaults : NameMap Document) (document : Document) : Except CompileError PropertySet := do
  let declarations ← PropertyDeclarations.ofDocument document
  checkNames declarations.names
  match declarations.missingParent? with
  | some parent => .error (.undefinedReference "property" parent)
  | none =>
      let graph := declarations.graph
      match library.order? graph with
      | none =>
          .error (.cyclicPropertyDependency (graph.cyclicEdges (library.components graph)))
      | some order =>
          let properties ← composeAll store set defaults declarations [] order
          return ⟨set.base, properties⟩

end RuleSchema
