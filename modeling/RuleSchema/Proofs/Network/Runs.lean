import RuleSchema.Proofs.Chains
import RuleSchema.Proofs.Network.Graphs

/-!
# Runs of a network builder

The calls of a builder are programs on a network, which may fail half-way; what a program has
changed by then stays.  Adding nodes or edges first validates all of them and only reads the
network meanwhile, so a call that fails has changed nothing.

After any calls, failed ones included, a graph that is remembered is the one that would be
built afresh.  Both graphs therefore show the nodes and edges that are declared by then.
-/

namespace RuleSchema.Network

/-! ## Programs -/

/-- A program on a network.  Where it fails, the changes made before remain. -/
abbrev Program (α : Type) := ExceptT Error (StateM Network) α

namespace Program

variable {α β : Type}

/-- A step that reads the network and leaves it as it is. -/
def reading (read : Network → Except Error α) : Program α :=
  ExceptT.mk fun network => (read network, network)

/-- A step that changes the network and cannot fail. -/
def changing (change : Network → Network) : Program Unit :=
  ExceptT.mk fun network => (.ok (), change network)

/-- A program only reads the network, and gives what a function of the network gives. -/
def Reads (program : Program α) (read : Network → Except Error α) : Prop :=
  ∀ network, program network = (read network, network)

theorem reads_reading (read : Network → Except Error α) : Reads (reading read) read :=
  fun _ => rfl

theorem reads_pure (value : α) : Reads (pure value) fun _ => .ok value := fun _ => rfl

/-- What comes after a program that only reads starts from the same network. -/
theorem Reads.bind_apply {program : Program α} {read : Network → Except Error α}
    (reads : Reads program read) (next : α → Program β) (network : Network) :
    (program >>= next) network =
      match read network with
      | .ok value => next value network
      | .error error => (.error error, network) := by
  have given : program network = (read network, network) := reads network
  change (match program network with
    | (result, after) => ExceptT.bindCont next result after) = _
  rw [given]
  cases read network <;> rfl

theorem Reads.bind {program : Program α} {read : Network → Except Error α}
    (reads : Reads program read) {next : α → Program β} {readNext : α → Network → Except Error β}
    (readsNext : ∀ value, Reads (next value) (readNext value)) :
    Reads (program >>= next) fun network =>
      read network >>= fun value => readNext value network := by
  intro network
  dsimp only
  rw [reads.bind_apply]
  cases read network with
  | ok value => exact readsNext value network
  | error error => rfl

/-- Going through a list only reads the network if each of its steps does. -/
theorem Reads.foldlM {σ : Type} {step : β → σ → Program β}
    {readStep : β → σ → Network → Except Error β}
    (each : ∀ built entry, Reads (step built entry) (readStep built entry)) (entries : List σ)
    (built : β) :
    Reads (entries.foldlM step built) fun network =>
      entries.foldlM (fun built entry => readStep built entry network) built := by
  induction entries generalizing built with
  | nil => exact reads_pure built
  | cons entry rest ih =>
      intro network
      rw [List.foldlM_cons]
      exact (each built entry).bind ih network

/-- A program that reads and then changes the network changes nothing if it fails. -/
theorem Reads.changing {program : Program α} {read : Network → Except Error α}
    (reads : Reads program read) (change : α → Network → Network) (network : Network) :
    (program >>= fun value => changing (change value)) network =
      match read network with
      | .ok value => (.ok (), change value network)
      | .error error => (.error error, network) := by
  rw [reads.bind_apply]
  rfl

end Program

open Program

/-! ## Calls -/

/-- A call of the builder, with the files as they are at the time. -/
inductive Call where
  | makeProperties (store : FileStore) (declarations : List Document)
  | addNodes (store : FileStore) (declarations : List Document)
  | addEdges (store : FileStore) (declarations : List Document)
  | reset
  | graph
  | digraph

/-- Add the node of a declaration to those that are collected. -/
def collectNode (store : FileStore) (added : NameMap Instance) (entry : String × Document)
    (network : Network) : Except Error (NameMap Instance) := do
  let declaration ← mappingOf [.key entry.1] entry.2
  let record ← network.validateElement store entry.1 [.key entry.1] declaration
    (statedProperties declaration)
  return added.insert entry.1 record

/-- Add the edge to a target to those that are collected. -/
def collectTarget (store : FileStore) (source : String) (shared : Document) (added : List Edge)
    (entry : String × Document) (network : Network) : Except Error (List Edge) :=
  if entry.1 == "properties" then .ok added
  else do
    let declaration ← mappingOf [.key source, .key entry.1] entry.2
    let record ← network.validateElement store (source ++ "_" ++ entry.1)
      [.key source, .key entry.1] declaration
      (Document.merge [nonNull shared, nonNull (statedProperties declaration)])
    return added ++ [⟨source, entry.1, record⟩]

/-- Add the edges from a source to those that are collected. -/
def collectSource (store : FileStore) (added : List Edge) (entry : String × Document) :
    Program (List Edge) := do
  let targets ← reading fun _ => entriesOf [.key entry.1] entry.2
  let shared := (entry.2.field? "properties").getD .null
  targets.foldlM (fun added target => reading (collectTarget store entry.1 shared added target))
    added

/-- What a call does, step by step. -/
def Call.program : Call → Program Unit
  | makeProperties store declarations => do
      let set ← reading fun network =>
        compiling (PropertySet.compose store network.attributes network.defaults
          (Document.merge declarations))
      changing fun network => { network with properties := some set }
  | addNodes store declarations => do
      let entries ← reading fun _ => entriesOf [] (Document.merge declarations)
      let added ← entries.foldlM (fun added entry => reading (collectNode store added entry)) []
      changing fun network => { network with nodes := network.nodes.insertAll added }.reset
  | addEdges store declarations => do
      let entries ← reading fun _ => entriesOf [] (Document.merge declarations)
      let added ← entries.foldlM (collectSource store) []
      changing fun network => { network with edges := network.edges ++ added }.reset
  | reset => changing Network.reset
  | graph => changing fun network => network.graph.2
  | digraph => changing fun network => network.digraph.2

/-- The network that a call gives, unless it fails. -/
def Call.result (network : Network) : Call → Except Error Network
  | makeProperties store declarations => network.makeProperties store declarations
  | addNodes store declarations => network.addNodes store declarations
  | addEdges store declarations => network.addEdges store declarations
  | reset => .ok network.reset
  | graph => .ok network.graph.2
  | digraph => .ok network.digraph.2

theorem foldlM_collectNode (store : FileStore) (network : Network)
    (entries : List (String × Document)) (added : NameMap Instance) :
    entries.foldlM (fun added entry => collectNode store added entry network) added =
      (network.validateNodes store entries).map added.insertAll := by
  induction entries generalizing added with
  | nil => rfl
  | cons entry rest ih =>
      rcases entry with ⟨name, document⟩
      rw [List.foldlM_cons, collectNode, validateNodes]
      cases mappingOf [.key name] document with
      | error error => rfl
      | ok declaration =>
          simp only [except_ok_bind]
          cases network.validateElement store name [.key name] declaration
              (statedProperties declaration) with
          | error error => rfl
          | ok record =>
              refine (ih _).trans ?_
              rw [except_ok_bind]
              cases network.validateNodes store rest <;> rfl

theorem foldlM_collectTarget (store : FileStore) (network : Network) (source : String)
    (shared : Document) (entries : List (String × Document)) (added : List Edge) :
    entries.foldlM (fun added entry => collectTarget store source shared added entry network)
        added =
      (network.validateTargets store source shared entries).map (added ++ ·) := by
  induction entries generalizing added with
  | nil => exact congrArg Except.ok (List.append_nil added).symm
  | cons entry rest ih =>
      rcases entry with ⟨target, document⟩
      rw [List.foldlM_cons, collectTarget, validateTargets]
      split
      · exact ih added
      · dsimp only
        cases mappingOf [.key source, .key target] document with
        | error error => rfl
        | ok declaration =>
            simp only [except_ok_bind]
            cases network.validateElement store (source ++ "_" ++ target)
                [.key source, .key target] declaration
                (Document.merge [nonNull shared, nonNull (statedProperties declaration)]) with
            | error error => rfl
            | ok record =>
                refine (ih _).trans ?_
                rw [except_ok_bind]
                cases network.validateTargets store source shared rest with
                | error error => rfl
                | ok others => exact congrArg Except.ok (List.append_assoc _ _ _)

theorem foldlM_collectSource (store : FileStore) (entries : List (String × Document))
    (added : List Edge) :
    Reads (entries.foldlM (collectSource store) added) fun network =>
      (network.validateSources store entries).map (added ++ ·) := by
  have each (added : List Edge) (entry : String × Document) :
      Reads (collectSource store added entry) fun network =>
        entriesOf [.key entry.1] entry.2 >>= fun targets =>
          (network.validateTargets store entry.1 ((entry.2.field? "properties").getD .null)
            targets).map (added ++ ·) := by
    have targets := (reads_reading fun _ => entriesOf [.key entry.1] entry.2).bind
      fun targets => Reads.foldlM (fun added target => reads_reading (collectTarget store entry.1
        ((entry.2.field? "properties").getD .null) added target)) targets added
    simp only [foldlM_collectTarget] at targets
    exact targets
  intro network
  rw [Reads.foldlM each entries added network]
  dsimp only
  congr 1
  induction entries generalizing added with
  | nil => exact congrArg Except.ok (List.append_nil added).symm
  | cons entry rest ih =>
      rcases entry with ⟨source, document⟩
      rw [List.foldlM_cons, validateSources]
      cases entriesOf [.key source] document with
      | error error => rfl
      | ok targets =>
          simp only [except_ok_bind]
          cases network.validateTargets store source ((document.field? "properties").getD .null)
              targets with
          | error error => rfl
          | ok edges =>
              refine (ih _).trans ?_
              rw [except_ok_bind]
              cases network.validateSources store rest with
              | error error => rfl
              | ok others => exact congrArg Except.ok (List.append_assoc _ _ _)

/-- A call ends at the network that it gives; if it fails it has changed nothing. -/
theorem Call.program_eq (call : Call) (network : Network) :
    call.program network =
      match call.result network with
      | .ok changed => (.ok (), changed)
      | .error error => (.error error, network) := by
  cases call with
  | makeProperties store declarations =>
      rw [program, (reads_reading _).changing, result, Network.makeProperties]
      cases PropertySet.compose store network.attributes network.defaults
        (Document.merge declarations) <;> rfl
  | addNodes store declarations =>
      have collects (entries : List (String × Document)) :=
        Reads.foldlM (fun added entry => reads_reading (collectNode store added entry)) entries []
      simp only [foldlM_collectNode] at collects
      rw [program, (reads_reading _).bind_apply, result, Network.addNodes]
      cases entriesOf [] (Document.merge declarations) with
      | error error => rfl
      | ok entries =>
          dsimp only
          rw [(collects entries).changing, except_ok_bind]
          cases network.validateNodes store entries <;> rfl
  | addEdges store declarations =>
      rw [program, (reads_reading _).bind_apply, result, Network.addEdges]
      cases entriesOf [] (Document.merge declarations) with
      | error error => rfl
      | ok entries =>
          dsimp only
          rw [(foldlM_collectSource store entries []).changing, except_ok_bind]
          cases network.validateSources store entries <;> rfl
  | reset => rfl
  | graph => rfl
  | digraph => rfl

/-! ## Runs -/

/-- The network after calls, whether they fail or not. -/
def run (network : Network) (calls : List Call) : Network :=
  calls.foldl (fun network call => (call.program network).2) network

/-- A network of rules or of rule files, before the first call. -/
def IsNew (network : Network) : Prop :=
  (∃ registry rules, ofRules registry rules = .ok network) ∨
    ∃ store registry paths, ofFiles store registry paths = .ok network

/-- Nodes have distinct names, and remembered graphs are those that would be built. -/
structure IsSound (network : Network) : Prop where
  distinct : network.nodes.names.Nodup
  undirected : ∀ known, network.undirected = some known → known = network.build
  directed : ∀ known, network.directed = some known → known = network.build

variable {network changed : Network}

theorem isSound_of_fresh (distinct : network.nodes.names.Nodup) : network.reset.IsSound :=
  ⟨distinct, fun _ none => (nomatch none), fun _ none => (nomatch none)⟩

theorem IsNew.isSound (new : network.IsNew) : network.IsSound := by
  have fromRules {registry : Registry} {rules : List Document}
      (made : ofRules registry rules = .ok network) : network.IsSound := by
    rcases except_map_eq_ok.mp made with ⟨set, -, rfl⟩
    exact ⟨List.nodup_nil, fun _ none => (nomatch none), fun _ none => (nomatch none)⟩
  rcases new with ⟨registry, rules, made⟩ | ⟨store, registry, paths, made⟩
  · exact fromRules made
  · rw [ofFiles] at made
    split at made
    · cases made
    · exact fromRules made

theorem IsSound.graph_eq (sound : network.IsSound) : network.graph.1 = network.build := by
  rw [graph]
  split
  · next known remembered => exact sound.undirected known remembered
  · rfl

theorem IsSound.digraph_eq (sound : network.IsSound) : network.digraph.1 = network.build := by
  rw [digraph]
  split
  · next known remembered => exact sound.directed known remembered
  · rfl

/-- What every call that succeeds keeps. -/
theorem IsSound.result (sound : network.IsSound) {call : Call}
    (succeeds : call.result network = .ok changed) : changed.IsSound := by
  cases call with
  | makeProperties store declarations =>
      rcases except_map_eq_ok.mp succeeds with ⟨set, -, rfl⟩
      exact ⟨sound.distinct, sound.undirected, sound.directed⟩
  | addNodes store declarations =>
      rcases except_bind_eq_ok.mp succeeds with ⟨entries, -, afterEntries⟩
      rcases except_bind_eq_ok.mp afterEntries with ⟨added, -, made⟩
      cases made
      exact isSound_of_fresh (NameMap.nodup_names_insertAll sound.distinct)
  | addEdges store declarations =>
      rcases except_bind_eq_ok.mp succeeds with ⟨entries, -, afterEntries⟩
      rcases except_bind_eq_ok.mp afterEntries with ⟨added, -, made⟩
      cases made
      exact isSound_of_fresh sound.distinct
  | reset =>
      cases succeeds
      exact isSound_of_fresh sound.distinct
  | graph =>
      cases succeeds
      rw [graph]
      split
      · exact sound
      · refine ⟨sound.distinct, ?_, sound.directed⟩
        rintro _ ⟨⟩
        rfl
  | digraph =>
      cases succeeds
      rw [digraph]
      split
      · exact sound
      · refine ⟨sound.distinct, sound.undirected, ?_⟩
        rintro _ ⟨⟩
        rfl

theorem IsSound.program (sound : network.IsSound) (call : Call) :
    (call.program network).2.IsSound := by
  rw [call.program_eq]
  cases outcome : call.result network with
  | ok changed => exact sound.result outcome
  | error error => exact sound

theorem IsSound.run (sound : network.IsSound) (calls : List Call) :
    (network.run calls).IsSound := by
  induction calls generalizing network with
  | nil => exact sound
  | cons call rest ih => exact ih (sound.program call)

/--
After any calls, failed ones included: one that fails next leaves everything as it is, and the
graphs show the declared nodes and edges.
-/
theorem graphs_of_run {network : Network} (new : network.IsNew) (calls : List Call) :
    (∀ (call : Call) (error : Error), (call.program (network.run calls)).1 = .error error →
      (call.program (network.run calls)).2 = network.run calls) ∧
    (network.run calls).graph.1.Shows (network.run calls).nodes.names (network.run calls).edges ∧
    (network.run calls).digraph.1.Shows (network.run calls).nodes.names
      (network.run calls).edges := by
  have sound := new.isSound.run calls
  have shows : (network.run calls).build.Shows (network.run calls).nodes.names
      (network.run calls).edges := Graph.shows_ofNames sound.distinct _
  refine ⟨?_, sound.graph_eq ▸ shows, sound.digraph_eq ▸ shows⟩
  intro call error fails
  rw [call.program_eq] at fails ⊢
  cases outcome : call.result (network.run calls) with
  | ok changed =>
      rw [outcome] at fails
      cases fails
  | error other => rfl

/-- Stations have a pressure. -/
def stationRules : Document :=
  .mapping [(.string "pressure", .mapping [(.string "type", .string "int")])]

/-- A declaration of a node with a pressure. -/
def station (name : String) (pressure : Document) : Document × Document :=
  (.string name, .mapping [(.string "pressure", pressure)])

/-- The graph is remembered before an edge is added; the edges that come last are refused. -/
def stationCalls : List Call :=
  [ .addNodes .empty [.mapping [station "inlet" (.ofInt64 5), station "outlet" (.ofInt64 3)]],
    .graph,
    .addEdges .empty [.mapping [(.string "outlet", .mapping [station "drain" (.ofInt64 1)])]],
    .addEdges .empty
      [.mapping
        [(.string "inlet", .mapping [station "tank" (.ofInt64 2), station "pump" .null])]] ]

theorem graphs_of_run_stations :
    ∃ network, ofRules .standard [stationRules] = .ok network ∧
      (network.run stationCalls).graph.1.nodes = ["inlet", "outlet", "drain"] ∧
      (network.run stationCalls).graph.1.Shows (network.run stationCalls).nodes.names
        (network.run stationCalls).edges ∧
      (network.run stationCalls).digraph.1.Shows (network.run stationCalls).nodes.names
        (network.run stationCalls).edges := by
  have checked : ((ofRules .standard [stationRules]).toOption.any fun network =>
      decide ((network.run stationCalls).nodes.names = ["inlet", "outlet"]) &&
        decide ((network.run stationCalls).edges.flatMap Edge.ends = ["outlet", "drain"])) =
      true := by
    decide +kernel
  cases made : ofRules .standard [stationRules] with
  | error error =>
      rw [made] at checked
      cases checked
  | ok network =>
      rw [made] at checked
      rcases Bool.and_eq_true_iff.mp checked with ⟨names, ends⟩
      rcases graphs_of_run (.inl ⟨_, _, made⟩) stationCalls with ⟨-, shown, directed⟩
      refine ⟨network, rfl, ?_, shown, directed⟩
      rw [shown.nodes, of_decide_eq_true names, of_decide_eq_true ends]
      rfl

end RuleSchema.Network
