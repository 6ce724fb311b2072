import RuleSchema.Compile.Load
import RuleSchema.Property.Compose

/-!
# Networks

A network has named nodes and edges from source to target, each a record of attribute
values and of properties.  Edges are declared under their sources; properties declared
at a source are shared by all its edges.

A builder takes declarations in and makes graphs from them.  A graph is remembered until
something is added or the builder is reset; a declaration that is refused changes
nothing.
-/

namespace RuleSchema

/-- An edge between two named elements, with a record of its own. -/
structure Edge where
  source : String
  target : String
  values : Instance

/-- A graph: the names of its nodes, and its edges between node numbers. -/
structure Graph where
  nodes : List String
  edges : List (Nat × Nat × Instance)

namespace Graph

/-- The graph without nodes and edges. -/
def empty : Graph := ⟨[], []⟩

/-- A graph under construction, with the numbers of the nodes of names. -/
structure Draft where
  graph : Graph
  numbers : NameMap Nat

namespace Draft

/-- Append a node for a name, whose node it is from now on. -/
def declare (draft : Draft) (name : String) : Draft where
  graph := { draft.graph with nodes := draft.graph.nodes ++ [name] }
  numbers := draft.numbers.insert name draft.graph.nodes.length

/-- The number of the node of a name, which is appended if there is none. -/
def number (draft : Draft) (name : String) : Nat × Draft :=
  match draft.numbers.get? name with
  | some known => (known, draft)
  | none => (draft.graph.nodes.length, draft.declare name)

/-- Append an edge, and the nodes of its ends that are missing. -/
def join (draft : Draft) (edge : Edge) : Draft :=
  let (source, draft) := draft.number edge.source
  let (target, draft) := draft.number edge.target
  { draft with
    graph := { draft.graph with edges := draft.graph.edges ++ [(source, target, edge.values)] } }

end Draft

/-- The graph of declared nodes and of edges, which may name further nodes. -/
def ofNames (names : List String) (edges : List Edge) : Graph :=
  (edges.foldl Draft.join (names.foldl Draft.declare ⟨empty, []⟩)).graph

end Graph

/-- Nodes and edges over the attributes of rules, and the graphs that are remembered of them. -/
structure Network where
  attributes : AttributeSet
  defaults : NameMap Document
  properties : Option PropertySet
  nodes : NameMap Instance
  edges : List Edge
  undirected : Option Graph
  directed : Option Graph

namespace Network

/-- A failure of compiling. -/
def compiling {α : Type} : Except CompileError α → Except Error α
  | .ok value => .ok value
  | .error error => .error (.compile error)

/-- An empty network over the attributes of merged rules. -/
def ofRules (registry : Registry) (rules : List Document) : Except Error Network :=
  let merged := Document.merge rules
  (compiling (AttributeSet.compile registry (Attribute.stripped merged))).map fun set =>
    ⟨set, Attribute.defaults merged, none, [], [], none, none⟩

/-- An empty network over the attributes of rule files. -/
def ofFiles (store : FileStore) (registry : Registry) (paths : List String) :
    Except Error Network :=
  match store.mergeFiles none paths with
  | .error error => .error (.document error)
  | .ok rules => ofRules registry [rules]

/-- Forget the graphs. -/
def reset (network : Network) : Network :=
  { network with undirected := none, directed := none }

/-- Compose properties, which replace any earlier ones. -/
def makeProperties (store : FileStore) (network : Network) (declarations : List Document) :
    Except Error Network :=
  (compiling (PropertySet.compose store network.attributes network.defaults
    (Document.merge declarations))).map fun set => { network with properties := some set }

/-- Entries under the texts of their keys; null has none. -/
def entriesOf (path : DocPath) : Document → Except Error (List (String × Document))
  | .null => .ok []
  | .mapping entries => .ok (entries.map fun (key, value) => (key.keyText, value))
  | _ => .error (.compile (.invalidTypeSpec path "expected a mapping"))

/-- The mapping of a declaration; null is an empty one. -/
def mappingOf (path : DocPath) : Document → Except Error Mapping
  | .null => .ok []
  | .mapping entries => .ok entries
  | _ => .error (.compile (.invalidTypeSpec path "expected a mapping"))

/-- The attributes that a declaration names, with their specifications. -/
def attributeFields (network : Network) :
    List (Document × Document) → Except Error (List (String × FieldSpec))
  | [] => .ok []
  | (key, _) :: rest =>
      let name := key.keyText
      if name == "properties" then attributeFields network rest
      else
        match network.attributes.attributes.get? name with
        | none => .error (.compile (.undefinedReference "attribute" name))
        | some found => (attributeFields network rest).map ((name, found.spec) :: ·)

/-- The values of a property with overrides. -/
def overridden (record : Instance) (overrides : Document) : Document :=
  match overrides.asMapping? with
  | some (_ :: _) => Document.merge [record.toDocument, overrides]
  | _ => record.toDocument

/-- The properties that a declaration refers to, each with its type and its overridden values. -/
def propertyFields (network : Network) :
    List (String × Document) → Except Error (List (String × FieldSpec × Document))
  | [] => .ok []
  | (name, overrides) :: rest =>
      match network.properties.bind fun set => set.properties.get? name with
      | none => .error (.compile (.undefinedReference "property" name))
      | some record =>
          (propertyFields network rest).map
            ((name, FieldSpec.plain (.record record.type), overridden record overrides) :: ·)

/-- Validate the attribute values and properties of an element as a record of its own. -/
def validateElement (store : FileStore) (network : Network) (name : String) (path : DocPath)
    (declaration : Mapping) (properties : Document) : Except Error Instance := do
  let attributes ← network.attributeFields declaration
  let references ← entriesOf path properties
  let records ← network.propertyFields references
  let own := declaration.filter fun entry => entry.1.keyText != "properties"
  let values := Mapping.ofEntries
    (own.map (fun entry => (Document.string entry.1.keyText, entry.2)) ++
      records.map fun (name, _, value) => (Document.string name, value))
  let level : Level := ⟨attributes ++ records.map fun (name, spec, _) => (name, spec), []⟩
  let type ← compiling (Level.close name level [] path)
  match type.validate store (.mapping values) with
  | .error rejection => .error (.validation rejection)
  | .ok record => .ok record

/-- The properties that a declaration states; null where it states none. -/
def statedProperties (declaration : Mapping) : Document :=
  (declaration.field? "properties").getD .null

/-- The nodes of some declarations, each validated as a record. -/
def validateNodes (store : FileStore) (network : Network) :
    List (String × Document) → Except Error (List (String × Instance))
  | [] => .ok []
  | (name, document) :: rest => do
      let path : DocPath := [.key name]
      let declaration ← mappingOf path document
      let record ←
        network.validateElement store name path declaration (statedProperties declaration)
      let others ← validateNodes store network rest
      return (name, record) :: others

/-- Add declared nodes; a node of a known name replaces it. -/
def addNodes (store : FileStore) (network : Network) (declarations : List Document) :
    Except Error Network := do
  let entries ← entriesOf [] (Document.merge declarations)
  let added ← network.validateNodes store entries
  return { network with nodes := network.nodes.insertAll (NameMap.ofEntries added) }.reset

/-- Null counts as an empty mapping when properties are merged. -/
def nonNull : Document → Document
  | .null => .mapping []
  | document => document

/-- The edges from one source, whose properties all of them share. -/
def validateTargets (store : FileStore) (network : Network) (source : String)
    (shared : Document) : List (String × Document) → Except Error (List Edge)
  | [] => .ok []
  | (target, document) :: rest =>
      if target == "properties" then validateTargets store network source shared rest
      else do
        let path : DocPath := [.key source, .key target]
        let declaration ← mappingOf path document
        let properties :=
          Document.merge [nonNull shared, nonNull (statedProperties declaration)]
        let record ←
          network.validateElement store (source ++ "_" ++ target) path declaration properties
        let others ← validateTargets store network source shared rest
        return ⟨source, target, record⟩ :: others

/-- The edges of some declarations, source by source. -/
def validateSources (store : FileStore) (network : Network) :
    List (String × Document) → Except Error (List Edge)
  | [] => .ok []
  | (source, document) :: rest => do
      let shared := (document.field? "properties").getD .null
      let targets ← entriesOf [.key source] document
      let edges ← network.validateTargets store source shared targets
      let others ← validateSources store network rest
      return edges ++ others

/-- Add declared edges behind those there are; what is remembered of graphs is forgotten. -/
def addEdges (store : FileStore) (network : Network) (declarations : List Document) :
    Except Error Network := do
  let entries ← entriesOf [] (Document.merge declarations)
  let added ← network.validateSources store entries
  return { network with edges := network.edges ++ added }.reset

/-- The graph of the nodes and edges there are. -/
def build (network : Network) : Graph := .ofNames network.nodes.names network.edges

/-- The undirected graph, and the network that remembers it. -/
def graph (network : Network) : Graph × Network :=
  match network.undirected with
  | some known => (known, network)
  | none => (network.build, { network with undirected := some network.build })

/-- The directed graph, and the network that remembers it. -/
def digraph (network : Network) : Graph × Network :=
  match network.directed with
  | some known => (known, network)
  | none => (network.build, { network with directed := some network.build })

end Network

end RuleSchema
