import MindLeak.Core.Facade
import MindLeak.Library.Runs
import MindLeak.Proofs.Structure

/-! What holds of every node and of every edge's key holds behind a write that brings only such nodes and edges. -/

namespace MindLeak.Core

open List Table Session

def RelationType.structural : RelationType → Bool
  | .calls | .contains | .imports | .extends | .implements | .dependsOn => true
  | .modified | .failedOn | .refactored | .fixed | .relatesTo | .observed => false

variable {edge : EdgeKey → Prop} {node : String → NodeType → Prop} {g after : Graph}

namespace Graph

structure Holds (edge : EdgeKey → Prop) (node : String → NodeType → Prop) (g : Graph) : Prop where
  edges : ∀ row ∈ g.edges.rows, edge row.key
  nodes : ∀ row ∈ g.nodes.rows, node row.id row.nodeType

theorem holds_empty : Holds edge node .empty :=
  ⟨fun _ inside => absurd inside List.not_mem_nil, fun _ inside => absurd inside List.not_mem_nil⟩

namespace Holds

section
variable (holds : Holds edge node g)
include holds

theorem mono {edge' : EdgeKey → Prop} {node' : String → NodeType → Prop}
    (edges : ∀ key, edge key → edge' key) (nodes : ∀ id type, node id type → node' id type) : Holds edge' node' g :=
  ⟨fun row inside => edges _ (holds.edges row inside), fun row inside => nodes _ _ (holds.nodes row inside)⟩

theorem upsertNode {item : Node} (fine : node item.id item.nodeType) :
    Holds edge node (g.upsertNode item).2 := by
  refine ⟨fun row inside => holds.edges row (by rwa [upsertNode_frame] at inside), fun row inside => ?_⟩
  unfold Graph.upsertNode at inside
  split at inside
  next old found =>
    rcases mem_put.mp inside with rfl | ⟨there, -⟩
    · exact holds.nodes old (mem_of_find? found).1
    · exact holds.nodes row there
  next =>
    rcases mem_put.mp inside with rfl | ⟨there, -⟩
    · exact fine
    · exact holds.nodes row there

theorem upsertNodes {items : List Node} (fine : ∀ item ∈ items, node item.id item.nodeType) :
    Holds edge node (g.upsertNodes items).2 :=
  upsertNodes_keeps (Holds edge node) holds fun _ item inside kept => kept.upsertNode (fine item inside)

theorem upsertEdge {item : Edge} {ownerId : Option String} {isNew : Bool} (fine : edge item.key)
    (wrote : g.upsertEdge item ownerId = .ok (isNew, after)) : Holds edge node after := by
  obtain ⟨row, same, rfl, -⟩ := upsertEdge_puts wrote
  refine ⟨fun other member => ?_, holds.nodes⟩
  rcases mem_put.mp member with rfl | ⟨there, -⟩
  · exact same ▸ fine
  · exact holds.edges other there

theorem upsertEdges {items : List Edge} {ownerId : Option String} {created : Nat}
    (fine : ∀ item ∈ items, edge item.key) (done : g.upsertEdges items ownerId = .ok (created, after)) :
    Holds edge node after :=
  upsertEdges_keeps (fun _ => Holds edge node) done holds fun _ _ _ item _ inside kept wrote => kept.upsertEdge (fine item inside) wrote

theorem writeOn {observation : Observation} (done : observation.writeOn g = .ok after)
    (agent : ∀ name, node ("agent:" ++ name) .agent)
    (fine : agentName observation.agent ≠ "" → ∀ id ∈ observation.ids, edge ⟨agentNodeId observation.agent, id, .observed⟩) :
    Holds edge node after := by
  unfold Observation.writeOn at done
  split at done
  next =>
    cases done
    exact holds
  next named =>
    have nonempty : agentName observation.agent ≠ "" := fun blank => named (by rw [blank]; rfl)
    simp only [bind, Except.bind] at done
    split at done
    · cases done
    rename_i pair wrote
    cases done
    refine (holds.upsertNode (agent (agentName observation.agent))).upsertEdges ?_ wrote
    intro item inside
    obtain ⟨id, listed, rfl⟩ := mem_map.mp inside
    have key : (observation.edge id).key = ⟨agentNodeId observation.agent, id, .observed⟩ := by
      unfold Observation.edge
      split <;> rfl
    rw [key]
    exact fine nonempty id (mem_filter.mp listed).1

theorem upsertFacts {nodes : List Node} {edges : List Edge} {observation : Option Observation} {outcome : WriteOutcome}
    (done : g.upsertFacts nodes edges observation = .ok (outcome, after))
    (fine : ∀ item ∈ nodes, node item.id item.nodeType) (keys : ∀ item ∈ edges, edge item.key)
    (agent : ∀ name, node ("agent:" ++ name) .agent)
    (observed : ∀ observation', observation = some observation' → agentName observation'.agent ≠ "" →
      ∀ id ∈ observation'.ids, edge ⟨agentNodeId observation'.agent, id, .observed⟩) : Holds edge node after := by
  unfold Graph.upsertFacts at done
  simp only [bind, Except.bind] at done
  split at done
  · cases done
  rename_i pair wrote
  have written := (holds.upsertNodes fine).upsertEdges keys wrote
  cases observation with
  | none =>
    obtain ⟨-, rfl⟩ := Prod.mk.inj (Except.ok.inj done)
    exact written
  | some observation' =>
    dsimp only at done
    split at done
    · cases done
    rename_i last attributed
    obtain ⟨-, rfl⟩ := Prod.mk.inj (Except.ok.inj done)
    exact written.writeOn attributed agent (observed observation' rfl)

theorem boost (id : String) (now : Int) : Holds edge node (g.boost id now).2 := by
  unfold Graph.boost
  split
  next =>
    refine ⟨holds.edges, fun row inside => ?_⟩
    obtain ⟨old, member, rfl⟩ := mem_map.mp inside
    split
    next => exact holds.nodes old member
    next => exact holds.nodes old member
  next => exact holds

theorem fewer (less : g.Fewer after) : Holds edge node after :=
  ⟨fun row inside => holds.edges row (less.edges ▸ inside), fun row inside => holds.nodes row (less.nodes inside)⟩

theorem deleteEdges {selects : EdgeRow → Bool} : Holds edge node (g.deleteEdges selects) :=
  ⟨fun row inside => holds.edges row (mem_filter.mp inside).1, holds.nodes⟩

end

theorem updateEdges {selects : EdgeRow → Bool} {set : EdgeRow → EdgeRow} (same : ∀ row, Row.key (set row) = Row.key row)
    (holds : Holds edge node g) : Holds edge node { g with edges := g.edges.update selects set same } := by
  refine ⟨fun row inside => ?_, holds.nodes⟩
  obtain ⟨old, member, rfl⟩ := mem_map.mp inside
  split
  next =>
    rw [show (set old).key = old.key from same old]
    exact holds.edges old member
  next => exact holds.edges old member

theorem updateNodes {selects : Node → Bool} {set : Node → Node} (same : ∀ row, Row.key (set row) = Row.key row)
    (type : ∀ row, (set row).nodeType = row.nodeType) (holds : Holds edge node g) :
    Holds edge node { g with nodes := g.nodes.update selects set same } := by
  refine ⟨holds.edges, fun row inside => ?_⟩
  obtain ⟨old, member, rfl⟩ := mem_map.mp inside
  split
  next =>
    rw [type, show (set old).id = old.id from same old]
    exact holds.nodes old member
  next => exact holds.nodes old member

theorem redirect {passes : EdgeRow → Bool} {target : String} (holds : Holds edge node g)
    (fine : ∀ row, passes row = true → edge { row.key with targetId := target }) : Holds edge node (g.redirect passes target) := by
  unfold Graph.redirect
  have run : ∀ (rows : List EdgeRow) (before : Graph), (∀ row ∈ rows, passes row = true) → Holds edge node before →
      Holds edge node (rows.foldl (fun g row =>
        { g with edges := g.edges.insertOrIgnore { row with key := { row.key with targetId := target } } }) before) := by
    intro rows
    induction rows with
    | nil => exact fun _ _ kept => kept
    | cons row rest ih =>
      intro before passing kept
      refine ih _ (fun other later => passing other (.tail _ later)) ⟨fun other inside => ?_, kept.nodes⟩
      rcases mem_insertOrIgnore inside with there | rfl
      · exact kept.edges other there
      · exact fine row (passing row (.head _))
  exact run _ g (fun row inside => (mem_filter.mp inside).2) holds

variable (structural : ∀ key : EdgeKey, key.relation.structural = true → edge key)
include structural

theorem promoteSymbol {stubId realId target : String} (holds : Holds edge node g) :
    Holds edge node (g.promoteSymbol stubId realId target) := by
  unfold Graph.promoteSymbol
  refine (Holds.deleteEdges ?_).fewer (reapOne_fewer _ _)
  split
  next =>
    refine holds.redirect fun row passed => structural _ ?_
    rw [Bool.and_eq_true] at passed
    rcases of_decide_eq_true passed.2 with relation | relation | relation <;>
      · dsimp only
        rw [relation]
        rfl
  next => exact holds

theorem promoteArtifactStub {realId stubId : String} (holds : Holds edge node g) :
    Holds edge node (g.promoteArtifactStub realId stubId) := by
  unfold Graph.promoteArtifactStub
  have imports : Holds edge node ((g.redirect (importsOf stubId) realId).deleteEdges (importsOf stubId)) := by
    refine (holds.redirect fun row passed => structural _ ?_).deleteEdges
    dsimp only
    rw [(of_decide_eq_true passed).2]
    rfl
  refine Holds.fewer ?_ (reapOne_fewer _ _)
  exact List.foldlRecOn _ _ imports fun before kept target _ => kept.promoteSymbol structural

theorem replaceStructure {ownerId : String} {nodes : List Node} {edges : List Edge} {stubs : List ArtifactStub}
    {outcome : WriteOutcome} (holds : Holds edge node g) (fine : ∀ item ∈ nodes, node item.id item.nodeType)
    (keys : ∀ item ∈ edges, edge item.key) (done : g.replaceStructure ownerId nodes edges stubs = .ok (outcome, after)) :
    Holds edge node after := by
  obtain ⟨-, recorded, stubbed, before, created, written, record, insert, deleted, wrote, rfl⟩ := replaceStructure_course done
  have adopted : Holds edge node ((g.deleteStub ownerId).adopt ownerId) := by
    refine ⟨fun row inside => ?_, holds.nodes⟩
    obtain ⟨old, member, rfl⟩ := mem_map.mp inside
    split <;> exact holds.edges old member
  have noded := adopted.upsertNodes fine
  have stubs_ : Holds edge node stubbed := by
    refine ⟨fun row inside => noded.edges row ?_, fun row inside => noded.nodes row ?_⟩
    · rwa [(insertStubs_spec insert).1, (recordStructure_spec record).1] at inside
    · rwa [(insertStubs_spec insert).2.1, (recordStructure_spec record).2.1] at inside
  have edged : Holds edge node written := by
    rw [deleted] at wrote
    exact stubs_.deleteEdges.upsertEdges keys wrote
  refine Holds.fewer ?_ (reap_fewer _)
  refine Holds.fewer ?_ (foldl_fewer _ _ fun before id _ _ => reapOne_fewer _ id)
  exact List.foldlRecOn _ _ edged fun before kept stub _ => kept.promoteArtifactStub structural

end Holds
end Graph

section
variable {α β : Type}

theorem Session.run_bind (first : Session α) (next : α → Session β) :
    (first >>= next).run g = match first.run g with
      | (.ok answer, g) => (next answer).run g
      | (.error error, g) => (.error error, g) := rfl

theorem Session.run_write (body : Graph → Result (α × Graph)) : (write body).run g = match body g with
      | .ok (answer, after) => (.ok answer, after)
      | .error error => (.error error, g) := rfl

theorem Session.run_write_bind (body : Graph → Result (α × Graph)) (next : α → Session β) :
    (write body >>= next).run g = match body g with
      | .ok (answer, after) => (next answer).run after
      | .error error => (.error error, g) := by
  rw [run_bind, run_write]
  rcases body g with error | ⟨answer, after⟩ <;> rfl

theorem Session.run_read_bind (next : Graph → Session β) : (read >>= next).run g = (next g).run g := rfl

theorem Session.run_bind_pure (session : Session α) (answer : α → β) :
    ((session >>= fun value => pure (answer value)).run g).2 = (session.run g).2 := by
  rw [run_bind]
  rcases session.run g with ⟨_ | _, _⟩ <;> rfl

theorem run_observe (agent : String) (ids : List String) (now : Int) :
    (observe agent ids now).run g = match g.observe agent ids now with
      | .ok after => (.ok (), after)
      | .error error => (.error error, g) := by
  unfold observe
  rw [run_write]
  cases g.observe agent ids now <;> rfl

end

namespace Graph.Holds

theorem observe {agent : String} {ids : List String} (now : Int) (holds : Holds edge node g)
    (named : ∀ name, node ("agent:" ++ name) .agent)
    (fine : agentName agent ≠ "" → ∀ id ∈ ids, edge ⟨agentNodeId agent, id, .observed⟩) :
    Holds edge node ((Core.observe agent ids now).run g).2 := by
  rw [run_observe]
  cases done : g.observe agent ids now with
  | error error => exact holds
  | ok after => exact Holds.writeOn holds done named fine

theorem attributeTo {agent : Option String} {outcome : WriteOutcome} {now : Int} (holds : Holds edge node g)
    (named : ∀ name, node ("agent:" ++ name) .agent)
    (fine : ∀ agent', agent = some agent' → agentName agent' ≠ "" → ∀ id ∈ outcome.nodeIds,
      edge ⟨agentNodeId agent', id, .observed⟩) :
    Holds edge node ((Core.attributeTo agent outcome now).run g).2 := by
  cases agent with
  | none => exact holds
  | some agent =>
    have seen := observe now holds named (fine agent rfl)
    have course : Core.attributeTo (some agent) outcome now =
        Core.observe agent outcome.nodeIds now >>= fun _ => pure outcome := rfl
    rw [course, run_bind]
    generalize (Core.observe agent outcome.nodeIds now).run g = ended at seen
    rcases ended with ⟨_ | _, _⟩ <;> exact seen

end Graph.Holds

variable {scanners : Scanners} {now : Int}

section
variable {norm content : String}
variable {snapshot : Snapshot}

structure Snapshot.Fine (node : String → NodeType → Prop) (snapshot : Snapshot) : Prop where
  nodes : ∀ item ∈ snapshot.nodes, node item.id item.nodeType
  edges : ∀ item ∈ snapshot.edges, item.relation.structural = true

theorem Snapshot.Fine.add {nodes : List Node} {edges : List Edge} (fine : snapshot.Fine node)
    (more : ∀ item ∈ nodes, node item.id item.nodeType) (structural : ∀ item ∈ edges, item.relation.structural = true) :
    (snapshot.add nodes edges).Fine node := by
  refine ⟨fun item inside => ?_, fun item inside => ?_⟩
  · rcases mem_append.mp inside with there | here
    · exact fine.nodes item there
    · exact more item here
  · rcases mem_append.mp inside with there | here
    · exact fine.edges item there
    · exact structural item here

theorem Snapshot.Fine.stub {stub : ArtifactStub} (fine : snapshot.Fine node) :
    (snapshot.addStub stub).Fine node := ⟨fine.nodes, fine.edges⟩

structure NamesStructure (node : String → NodeType → Prop) : Prop where
  symbol : ∀ rest, node ("symbol:" ++ rest) .symbol
  package : ∀ rest, node ("package:" ++ rest) .package

structure NamesArtifacts (scanners : Scanners) (g : Graph) (norm content path : String) (node : String → NodeType → Prop) :
    Prop where
  own : node (artifactId norm) .artifact
  imports : ∀ declared ∈ javascriptImports scanners path content ++ rustImports scanners path content,
    ∀ candidates, importTarget g norm declared.target = .artifactCandidates candidates →
      ∀ candidate ∈ candidates, node (artifactId candidate) .artifact
  crate : ∀ found, rustCrate scanners path content = .ok (some found) → node (artifactId found.rootPath) .artifact
  manifests : ∀ found, manifestDependencies scanners path content = .ok (some found) →
    ∀ dependency ∈ found, ∀ manifest, dependency.localManifest = some manifest → node (artifactId manifest) .artifact

theorem relation_structural (hierarchy : Hierarchy) : RelationType.structural (match hierarchy.relation with
    | .extends => RelationType.extends
    | .implements => RelationType.implements) = true := by
  cases hierarchy.relation <;> rfl

variable (names : NamesStructure node)
include names

theorem node_symbolId (path name : String) : node (symbolId path name) .symbol := by
  unfold symbolId
  rw [String.append_assoc, String.append_assoc]
  exact names.symbol _

theorem importedNode_fine {path name : String} :
    ∀ item ∈ importedNode g now (symbolId path name) name, node item.id item.nodeType := by
  intro item inside
  unfold importedNode at inside
  split at inside
  · cases inside
  cases mem_singleton.mp inside
  exact node_symbolId names path name

section
variable (fine : snapshot.Fine node)
include fine

theorem symbolFacts_fine (symbol : Symbol) :
    (symbolFacts norm content now snapshot symbol).Fine node := by
  refine fine.add (fun item inside => ?_) fun item inside => ?_ <;> cases mem_singleton.mp inside
  · exact node_symbolId names norm symbol.qualifiedName
  · rfl

theorem importFacts_fine {declared : Import}
    (targets : ∀ candidates, importTarget g norm declared.target = .artifactCandidates candidates →
      ∀ candidate ∈ candidates, node (artifactId candidate) .artifact) :
    (importFacts g norm now snapshot declared).Fine node := by
  unfold importFacts
  split
  next candidates resolved =>
    dsimp only
    split
    · exact fine
    rename_i targetPath chosen
    have listed : targetPath ∈ candidates := by
      rcases Option.or_eq_some_iff.mp chosen with known | ⟨-, first⟩
      · exact mem_of_find?_eq_some known
      · exact mem_of_mem_head? first
    have base : Snapshot.Fine node { snapshot with
        artifactStubs := snapshot.artifactStubs ++ (if (g.resolveArtifactCandidate candidates).isNone then
          [ArtifactStub.mk (artifactId targetPath) (candidates.map artifactId)] else [])
        importedSymbols := ((declared.bindings.filter fun binding =>
          decide (binding.imported ≠ "default" ∧ binding.imported ≠ "*")).map fun binding =>
            (binding.localName, targetPath, binding.imported)).reverse ++ snapshot.importedSymbols } :=
      ⟨fine.nodes, fine.edges⟩
    refine base.add (fun item inside => ?_) fun item inside => ?_ <;> cases mem_singleton.mp inside
    · exact targets candidates resolved targetPath listed
    · rfl
  next package _ =>
    refine fine.add (fun item inside => ?_) fun item inside => ?_ <;> cases mem_singleton.mp inside
    · exact names.package package
    · rfl
  next => exact fine

theorem hierarchyFacts_fine {symbols : List Symbol} {hierarchy : Hierarchy} :
    (hierarchyFacts g norm now symbols snapshot hierarchy).Fine node := by
  unfold hierarchyFacts
  dsimp only
  split
  next =>
    refine fine.add (importedNode_fine names) fun item inside => ?_
    cases mem_singleton.mp inside
    exact relation_structural hierarchy
  next => exact fine

theorem crateFacts_fine {declared : Option RustCrate}
    (root : ∀ found, declared = some found → node (artifactId found.rootPath) .artifact) :
    (crateFacts norm now snapshot declared).Fine node := by
  cases declared with
  | none => exact fine
  | some found =>
    refine (fine.add (fun item inside => ?_) fun item inside => ?_).stub
    · rcases mem_cons.mp inside with rfl | second
      · exact names.package found.name
      · cases mem_singleton.mp second
        exact root found rfl
    · rcases mem_cons.mp inside with rfl | second
      · rfl
      · cases mem_singleton.mp second
        rfl

theorem dependencyFacts_fine {dependency : Dependency}
    (local_ : ∀ manifest, dependency.localManifest = some manifest → node (artifactId manifest) .artifact) :
    (dependencyFacts norm now snapshot dependency).Fine node := by
  have first : (snapshot.add [Node.new ("package:" ++ dependency.name) .package dependency.name now]
      [Edge.new (artifactId norm) ("package:" ++ dependency.name) .dependsOn now]).Fine node := by
    refine fine.add (fun item inside => ?_) fun item inside => ?_ <;> cases mem_singleton.mp inside
    · exact names.package dependency.name
    · rfl
  unfold dependencyFacts
  dsimp only
  split
  · exact first
  rename_i manifest placed
  refine (first.add (fun item inside => ?_) fun item inside => ?_).stub
  · rcases mem_cons.mp inside with rfl | second
    · show node ("symbol:" ++ norm ++ ":dependency:" ++ dependency.importName) .symbol
      rw [String.append_assoc, String.append_assoc]
      exact names.symbol _
    · cases mem_singleton.mp second
      exact local_ manifest placed
  · rcases mem_cons.mp inside with rfl | second
    · rfl
    · cases mem_singleton.mp second
      rfl

theorem referenceFacts_fine {reference : Call} :
    (referenceFacts g norm now snapshot reference).Fine node := by
  unfold referenceFacts
  split
  · exact fine
  rename_i targetPath importedName _
  refine fine.add (importedNode_fine names) fun item inside => ?_
  cases mem_singleton.mp inside
  rfl

end

theorem fileSnapshot_fine {path : String} (artifacts : NamesArtifacts scanners g norm content path node)
    (done : fileSnapshot scanners g norm content now path = .ok snapshot) : snapshot.Fine node := by
  unfold fileSnapshot at done
  simp only [bind, Except.bind] at done
  have start : Snapshot.Fine node ⟨[artifactNode norm now], [], [], []⟩ := by
    refine ⟨fun item inside => ?_, nofun⟩
    cases mem_singleton.mp inside
    exact artifacts.own
  have symbols := List.foldlRecOn (scanners.ast (extensionOf path) content).symbols (symbolFacts norm content now) start
    fun _ kept symbol _ => symbolFacts_fine names kept symbol
  have calls := List.foldlRecOn (scanners.ast (extensionOf path) content).calls (callFacts norm now) symbols
    fun _ kept call _ => kept.add nofun fun item inside => by
      cases mem_singleton.mp inside
      rfl
  have imports := List.foldlRecOn (javascriptImports scanners path content ++ rustImports scanners path content)
    (importFacts g norm now) calls fun _ kept declared inside => importFacts_fine names kept (artifacts.imports declared inside)
  have hierarchies := List.foldlRecOn (extractHierarchy scanners path content)
    (hierarchyFacts g norm now (scanners.ast (extensionOf path) content).symbols) imports
    fun _ kept hierarchy _ => hierarchyFacts_fine names kept
  split at done
  · cases done
  rename_i declared crate
  split at done
  · cases done
  rename_i dependencies listed
  cases done
  refine List.foldlRecOn _ _ ?_ fun _ kept reference _ => referenceFacts_fine names kept
  refine List.foldlRecOn _ _ ?_ fun _ kept dependency inside => dependencyFacts_fine names kept ?_
  · exact crateFacts_fine names hierarchies fun found same => artifacts.crate found (same ▸ crate)
  · cases dependencies with
    | none => cases inside
    | some found => exact artifacts.manifests found listed dependency inside

end
section
variable {step : Step}

def Step.observes (step : Step) (g : Graph) : List String :=
  match step.operation with
  | .ingestExecution _ _ | .ingestCommit _ _ => (step.ingested g).toList
  | .ingestFile _ path _ => [artifactId (step.roots.place path)]
  | .ingestToolInvocation _ rec => [rec.id]
  | .boost _ id => if g.nodeExists id then [id] else []
  | .repairCommit .. | .consolidateSession .. | .commitSignal .. => []

structure Step.Brings (scanners : Scanners) (g : Graph) (edge : EdgeKey → Prop) (node : String → NodeType → Prop)
    (step : Step) : Prop where
  execution : ∀ agent rec, step.operation = .ingestExecution agent rec → node rec.id .execution ∧
    (∀ path ∈ rec.changedPaths step.roots.known, node (artifactId path) .artifact ∧ edge ⟨rec.id, artifactId path, .modified⟩) ∧
    ∀ path ∈ rec.failedPaths step.sensors step.roots.known,
      node (artifactId path) .artifact ∧ edge ⟨rec.id, artifactId path, .failedOn⟩
  commit : ∀ agent rec key, step.operation = .ingestCommit agent rec → rec.commitKey step.sensors = .ok key →
    node (intentId key) .intent ∧ ∀ path ∈ rec.changedPaths step.roots.known,
      node (artifactId path) .artifact ∧ edge ⟨intentId key, artifactId path, .refactored⟩
  file : ∀ agent path content, step.operation = .ingestFile agent path content →
    isIgnoredPath (step.roots.place path) = false → isAbsolutePath (step.roots.place path) = false →
    NamesArtifacts scanners g (step.roots.place path) content path node
  invocation : ∀ agent rec, step.operation = .ingestToolInvocation agent rec → node rec.id .toolInvocation
  observed : ∀ agent, step.agent = some agent → agentName agent ≠ "" → ∀ id ∈ step.observes g,
    edge ⟨agentNodeId agent, id, .observed⟩
  repair : ∀ agent sha reason root readCommit detailBytes,
    step.operation = .repairCommit agent sha reason (some root) readCommit detailBytes →
      ∀ verified, readCommit root (Text.asciiLower (Text.trim sha)) = .ok verified → ∀ path ∈ verified.changedPaths step.roots.known,
        node (artifactId path) .artifact ∧ ∀ key, edge ⟨intentId key, artifactId path, .refactored⟩
  session : ∀ summary logs facts, step.operation = .consolidateSession (.ok summary) logs →
    factsFromSummary summary logs.length step.now = .ok facts →
      (∀ item ∈ facts.nodes, node item.id item.nodeType) ∧ ∀ item ∈ facts.edges, edge item.key
  signal : ∀ lease leaseOwner candidates summary facts, step.operation = .commitSignal lease leaseOwner candidates summary →
    distill summary candidates step.now = .ok facts →
      (∀ item ∈ facts.nodes, node item.id item.nodeType) ∧ ∀ item ∈ facts.edges, edge item.key

theorem upsertFacts_nodeIds {nodes : List Node} {edges : List Edge} {observation : Option Observation} {outcome : WriteOutcome}
    {after : Graph} (done : g.upsertFacts nodes edges observation = .ok (outcome, after)) : outcome.nodeIds = [] := by
  unfold Graph.upsertFacts at done
  simp only [bind, Except.bind] at done
  split at done
  · cases done
  cases observation with
  | none =>
    obtain ⟨rfl, -⟩ := Prod.mk.inj (Except.ok.inj done)
    rfl
  | some observation =>
    dsimp only at done
    split at done
    · cases done
    obtain ⟨rfl, -⟩ := Prod.mk.inj (Except.ok.inj done)
    rfl

theorem Graph.deleteOrphanSignalNodes_fewer (candidates : List SignalCandidate) :
    g.Fewer (g.deleteOrphanSignalNodes candidates).2 := by
  unfold Graph.deleteOrphanSignalNodes Graph.reapCounted
  refine Graph.Fewer.trans ?_ (Graph.reap_fewer _)
  exact List.foldlRecOn (motive := fun reached : Nat × Graph => g.Fewer reached.2) _ _ (.refl g) fun _ fewer _ _ => fewer.trans (Graph.reap_fewer _)

namespace Step.Brings
variable {agent : Option String} {detailBytes : Nat}

section
variable (brings : step.Brings scanners g edge node)
include brings

theorem ingestExecution {rec : ExecutionRecord}
    (asked : step.operation = .ingestExecution agent rec) (holds : g.Holds edge node)
    (named : ∀ name, node ("agent:" ++ name) .agent) : (step.after scanners g).Holds edge node := by
  obtain ⟨own, changed, failed⟩ := brings.execution agent rec asked
  have observed := brings.observed
  unfold Step.observes Step.ingested Step.agent at observed
  rw [asked] at observed
  dsimp only at observed
  unfold Step.after Step.call
  rw [asked]
  dsimp only
  rw [run_write_bind]
  split
  next outcome after done =>
    rw [done] at observed
    unfold Core.ingestExecution at done
    simp only [bind, Except.bind] at done
    split at done
    · cases done
    rename_i pair wrote
    obtain ⟨rfl, rfl⟩ := Prod.mk.inj (Except.ok.inj done)
    refine holds.upsertFacts wrote (fun item inside => ?_) (fun item inside => ?_) named fun observation same => ?_
    · rcases mem_cons.mp inside with rfl | artifact
      · exact own
      obtain ⟨path, member, rfl⟩ := mem_map.mp artifact
      rcases mem_append.mp member with mine | mine
      · exact (changed path mine).1
      · exact (failed path mine).1
    · rcases mem_append.mp inside with mine | mine
      · obtain ⟨path, member, rfl⟩ := mem_map.mp mine
        exact (changed path member).2
      · obtain ⟨path, member, rfl⟩ := mem_map.mp mine
        exact (failed path member).2
    · obtain ⟨name, rfl, rfl⟩ := Option.map_eq_some_iff.mp same
      intro nonempty id listed
      refine observed name rfl nonempty id ?_
      cases mem_singleton.mp listed
      rw [upsertFacts_nodeIds wrote]
      exact mem_singleton_self _
  next => exact holds

theorem ingestCommit {rec : CommitRecord}
    (asked : step.operation = .ingestCommit agent rec) (holds : g.Holds edge node)
    (named : ∀ name, node ("agent:" ++ name) .agent) : (step.after scanners g).Holds edge node := by
  have commit := brings.commit agent rec
  have observed := brings.observed
  unfold Step.observes Step.ingested Step.agent at observed
  rw [asked] at observed
  dsimp only at observed
  unfold Step.after Step.call
  rw [asked]
  dsimp only
  rw [run_write_bind]
  split
  next outcome after done =>
    rw [done] at observed
    unfold Core.ingestCommit writeCommit at done
    simp only [bind, Except.bind] at done
    split at done
    · cases done
    rename_i key keyed
    split at done
    · cases done
    rename_i pair wrote
    obtain ⟨own, changed⟩ := commit key asked keyed
    obtain ⟨rfl, rfl⟩ := Prod.mk.inj (Except.ok.inj done)
    rw [run_bind_pure]
    refine Graph.Holds.attributeTo ?_ named fun name same nonempty id listed => ?_
    · refine holds.upsertFacts wrote (fun item inside => ?_) (fun item inside => ?_) named nofun
      · rcases mem_cons.mp inside with rfl | artifact
        · exact own
        · obtain ⟨path, member, rfl⟩ := mem_map.mp artifact
          exact (changed path member).1
      · obtain ⟨path, member, rfl⟩ := mem_map.mp inside
        exact (changed path member).2
    · refine observed name same nonempty id ?_
      rw [upsertFacts_nodeIds wrote] at listed ⊢
      cases mem_singleton.mp listed
      exact mem_singleton_self _
  next => exact holds

theorem ingestToolInvocation {rec : ToolInvocationRecord}
    (asked : step.operation = .ingestToolInvocation agent rec) (holds : g.Holds edge node)
    (named : ∀ name, node ("agent:" ++ name) .agent) : (step.after scanners g).Holds edge node := by
  have own := brings.invocation agent rec asked
  have observed := brings.observed
  unfold Step.observes Step.agent at observed
  rw [asked] at observed
  dsimp only at observed
  unfold Step.after Step.call
  rw [asked]
  dsimp only
  rw [run_write_bind]
  split
  next outcome after done =>
    unfold Core.ingestToolInvocation at done
    simp only [bind, Except.bind] at done
    split at done
    · cases done
    rename_i pair wrote
    obtain ⟨rfl, rfl⟩ := Prod.mk.inj (Except.ok.inj done)
    rw [run_bind_pure]
    refine Graph.Holds.attributeTo ?_ named fun name same nonempty id listed => ?_
    · refine holds.upsertFacts wrote (fun item inside => ?_) nofun named nofun
      cases mem_singleton.mp inside
      exact own
    · refine observed name same nonempty id ?_
      rwa [upsertFacts_nodeIds wrote] at listed
  next => exact holds

theorem ingestFile {path content : String}
    (asked : step.operation = .ingestFile agent path content) (holds : g.Holds edge node)
    (named : ∀ name, node ("agent:" ++ name) .agent) (names : NamesStructure node)
    (structural : ∀ key : EdgeKey, key.relation.structural = true → edge key) : (step.after scanners g).Holds edge node := by
  have file := brings.file agent path content asked
  have observed := brings.observed
  unfold Step.observes Step.agent at observed
  rw [asked] at observed
  dsimp only at observed
  unfold Step.after Step.call
  rw [asked]
  dsimp only
  rw [run_bind_pure]
  unfold Core.ingestFile
  dsimp only
  split
  · exact holds
  rename_i kept
  split
  · exact holds
  rename_i placed
  have fine := file (eq_false_of_ne_true kept) (eq_false_of_ne_true placed)
  rw [run_read_bind]
  split
  · exact holds
  rename_i snapshot read
  have brought := fileSnapshot_fine names fine read
  rw [run_write_bind]
  split
  next outcome after done =>
    refine Graph.Holds.attributeTo ?_ named fun name same nonempty id listed => ?_
    · exact holds.replaceStructure structural brought.nodes (fun item inside => structural _ (brought.edges item inside)) done
    · refine observed name same nonempty id ?_
      rwa [Graph.replaceStructure_nodeIds done] at listed
  next => exact holds

theorem boost {id : String} (asked : step.operation = .boost agent id)
    (holds : g.Holds edge node) (named : ∀ name, node ("agent:" ++ name) .agent) : (step.after scanners g).Holds edge node := by
  have observed := brings.observed
  unfold Step.observes Step.agent at observed
  rw [asked] at observed
  dsimp only at observed
  have boosted : (g.boost id step.now).1 = g.nodeExists id := by
    unfold Graph.boost
    split
    next there => exact there.symm
    next missing => exact (eq_false_of_ne_true missing).symm
  have touched := holds.boost id step.now
  unfold Step.after Step.call
  rw [asked]
  dsimp only
  rw [run_write_bind]
  dsimp only
  cases agent with
  | none => exact touched
  | some agent =>
    dsimp only
    split
    next there =>
      refine (congrArg (Graph.Holds edge node) (run_bind_pure (observe agent [id] step.now) fun _ => [id])).mpr ?_
      refine touched.observe step.now named fun nonempty other listed => observed agent rfl nonempty other ?_
      rw [if_pos (boosted.symm.trans there)]
      exact listed
    next => exact touched

end

theorem attributed {key : String} {outcome answer : CommitRepairOutcome} {expected : Node}
    {previous desired : List String} (holds : g.Holds edge node) (id : expected.id = intentId key)
    (fine : ∀ path ∈ desired, node (artifactId path) .artifact ∧ ∀ key, edge ⟨intentId key, artifactId path, .refactored⟩)
    (done : g.attributeCommit outcome expected previous desired now detailBytes = .ok (answer, after)) :
    after.Holds edge node := by
  have one {before next : Graph} {path : String} (listed : path ∈ desired) (kept : before.Holds edge node)
      (wrote : Graph.attributeFile expected.id expected.createdAt now previous before path = .ok next) : next.Holds edge node := by
    unfold Graph.attributeFile at wrote
    split at wrote
    next =>
      cases wrote
      exact kept.updateEdges _
    next =>
      obtain ⟨⟨isNew, last⟩, wrote, same⟩ := bind_ok wrote
      cases same
      refine Graph.Holds.upsertEdge ?_ (by rw [id]; exact (fine path listed).2 key) wrote
      split
      next => exact kept
      next => exact kept.upsertNode (fine path listed).1
  have each : ∀ (paths : List String) (before last : Graph), (∀ path ∈ paths, path ∈ desired) → before.Holds edge node →
      paths.foldlM (Graph.attributeFile expected.id expected.createdAt now previous) before = .ok last → last.Holds edge node := by
    intro paths
    induction paths with
    | nil =>
      intro before last _ kept same
      cases same
      exact kept
    | cons path rest ih =>
      intro before last inside kept wrote
      rw [foldlM_cons] at wrote
      obtain ⟨middle, first, wrote⟩ := bind_ok wrote
      exact ih middle last (fun other later => inside other (.tail _ later)) (one (inside path (.head _)) kept first) wrote
  unfold Graph.attributeCommit at done
  obtain ⟨last, wrote, done⟩ := bind_ok done
  have edged := each desired _ last (fun _ listed => listed) holds.deleteEdges wrote
  obtain ⟨rows, -, done⟩ := bind_ok done
  obtain ⟨_, done⟩ := ite_else done
  cases done
  split
  next => exact edged.updateNodes _ fun _ => rfl
  next => exact edged

theorem repaired {agent reason : String} {verified : CommitRecord} {roots : List String} {outcome : CommitRepairOutcome}
    (holds : g.Holds edge node) (fine : ∀ path ∈ verified.changedPaths roots,
      node (artifactId path) .artifact ∧ ∀ key, edge ⟨intentId key, artifactId path, .refactored⟩)
    (done : repairCommitAttribution agent verified reason now roots detailBytes g = .ok (outcome, after)) :
    after.Holds edge node := by
  unfold repairCommitAttribution at done
  dsimp only at done
  obtain ⟨_, done⟩ := ite_else done
  obtain ⟨_, done⟩ := ite_else done
  split at done
  · cases done
  rename_i row found
  obtain ⟨_, done⟩ := ite_else done
  obtain ⟨beforeEdges, stored, done⟩ := bind_ok done
  split at done
  next =>
    cases done
    exact holds
  next => exact attributed holds rfl fine done

theorem repairCommit {agent sha reason : String} {workspaceRoot : Option String}
    {readCommit : String → String → Result CommitRecord} (brings : step.Brings scanners g edge node)
    (asked : step.operation = .repairCommit agent sha reason workspaceRoot readCommit detailBytes)
    (holds : g.Holds edge node) :
    (step.after scanners g).Holds edge node := by
  unfold Step.after Step.call
  rw [asked]
  dsimp only
  rw [run_write_bind]
  split
  next outcome after done =>
    unfold repairCommitAttributionForAgent at done
    dsimp only at done
    obtain ⟨_, done⟩ := ite_else done
    obtain ⟨_, done⟩ := ite_else done
    split at done
    · cases done
    rename_i root
    obtain ⟨verified, read, done⟩ := bind_ok done
    obtain ⟨_, done⟩ := ite_else done
    exact repaired holds (brings.repair _ _ _ _ _ _ asked verified read) done
  next => exact holds

theorem consolidateSession {summary : Result IntentSummary} {logs : List String} (brings : step.Brings scanners g edge node)
    (asked : step.operation = .consolidateSession summary logs) (holds : g.Holds edge node)
    (named : ∀ name, node ("agent:" ++ name) .agent) : (step.after scanners g).Holds edge node := by
  unfold Step.after Step.call
  rw [asked]
  dsimp only
  split
  · exact holds
  rename_i facts made
  obtain ⟨summary, rfl, made⟩ := bind_ok made
  obtain ⟨nodes, edges⟩ := brings.session _ _ _ asked made
  rw [run_write_bind]
  split
  next outcome after done => exact holds.upsertFacts done nodes edges named nofun
  next => exact holds

theorem acknowledged {lease : Option MaintenanceLease} {leaseOwner : String} {candidates : List SignalCandidate}
    {nodes : List Node} {edges : List Edge} {answer : WriteOutcome × Nat × Nat} (holds : g.Holds edge node)
    (fine : ∀ item ∈ nodes, node item.id item.nodeType) (keys : ∀ item ∈ edges, edge item.key)
    (done : commitSignalConsolidation lease leaseOwner now candidates nodes edges g = .ok (answer, after)) :
    after.Holds edge node := by
  unfold commitSignalConsolidation at done
  obtain ⟨_, done⟩ := ite_else done
  dsimp only at done
  obtain ⟨_, done⟩ := ite_else done
  obtain ⟨⟨created, written⟩, wrote, done⟩ := bind_ok done
  cases done
  have deleted : (g.deleteSignalEdges candidates).2.Holds edge node := by
    unfold Graph.deleteSignalEdges
    exact List.foldlRecOn (motive := fun reached : Nat × Graph => reached.2.Holds edge node) _ _ holds fun _ kept _ _ => kept.deleteEdges
  exact ((deleted.upsertNodes fine).upsertEdges keys wrote).fewer (Graph.deleteOrphanSignalNodes_fewer _)

theorem commitSignal {lease : Option MaintenanceLease} {leaseOwner : String} {candidates : List SignalCandidate}
    {summary : IntentSummary} (brings : step.Brings scanners g edge node)
    (asked : step.operation = .commitSignal lease leaseOwner candidates summary) (holds : g.Holds edge node) :
    (step.after scanners g).Holds edge node := by
  unfold Step.after Step.call
  rw [asked]
  dsimp only
  split
  · exact holds
  rename_i facts made
  obtain ⟨nodes, edges⟩ := brings.signal _ _ _ _ _ asked made
  rw [run_write_bind]
  split
  next answer after done => exact acknowledged holds nodes edges done
  next => exact holds

end Step.Brings

theorem Step.holds_after (brings : step.Brings scanners g edge node) (holds : g.Holds edge node)
    (names : NamesStructure node) (named : ∀ name, node ("agent:" ++ name) .agent)
    (structural : ∀ key : EdgeKey, key.relation.structural = true → edge key) : (step.after scanners g).Holds edge node := by
  cases asked : step.operation with
  | ingestExecution agent rec => exact brings.ingestExecution asked holds named
  | ingestCommit agent rec => exact brings.ingestCommit asked holds named
  | ingestFile agent path content => exact brings.ingestFile asked holds named names structural
  | ingestToolInvocation agent rec => exact brings.ingestToolInvocation asked holds named
  | boost agent id => exact brings.boost asked holds named
  | repairCommit agent sha reason workspaceRoot readCommit detailBytes => exact brings.repairCommit asked holds
  | consolidateSession summary logs => exact brings.consolidateSession asked holds named
  | commitSignal lease leaseOwner candidates summary => exact brings.commitSignal asked holds

theorem reached_append (scanners : Scanners) (run : List Step) (step : Step) :
    reached scanners (run ++ [step]) = step.after scanners (reached scanners run) := by
  unfold reached
  rw [foldl_append]
  rfl

end

section
variable {summary : IntentSummary} {count : Nat} {facts : ConsolidationFacts}

theorem factsFromSummary_ok (made : factsFromSummary summary count now = .ok facts) :
    let files := impactedFiles [] (summary.impactedFiles.take MAX_IMPACTED_FILES)
    ∃ key intent, facts.intentId = intentId key ∧ intent.id = intentId key ∧ intent.nodeType = .intent ∧ intent.content.isSome = true ∧
      facts.nodes = intent :: files.map (artifactNode ·.path now) ∧
      facts.edges = files.map fun file => Edge.new (intentId key) (artifactId file.path) (consolidationRelation file.relation) now := by
  unfold factsFromSummary at made
  dsimp only at made
  obtain ⟨_, made⟩ := ite_else made
  cases made
  refine ⟨shortHash (Text.trim summary.intentLabel), _, rfl, ?_, ?_, ?_, rfl, rfl⟩ <;> rfl

theorem consolidationRelation_cases (modelRelation : String) : consolidationRelation modelRelation = .fixed ∨
    consolidationRelation modelRelation = .relatesTo ∨ consolidationRelation modelRelation = .refactored := by
  unfold consolidationRelation
  split
  · exact .inl rfl
  · exact .inr (.inl rfl)
  · exact .inr (.inr rfl)

theorem distill_ok {candidates : List SignalCandidate} (made : distill summary candidates now = .ok facts) :
    ∃ plain, factsFromSummary summary candidates.length now = .ok plain ∧ facts.intentId = plain.intentId ∧ facts.nodes = plain.nodes ∧
      facts.edges = plain.edges ++ ((candidates.map (·.targetId)).foldl pushNew []).map fun target =>
        Edge.new plain.intentId target .relatesTo now := by
  unfold distill at made
  cases made_ : factsFromSummary summary candidates.length now with
  | error error =>
    rw [made_] at made
    cases made
  | ok plain =>
    rw [made_] at made
    have same : plain.linkTo candidates now = facts := Except.ok.inj made
    rw [← same]
    exact ⟨plain, rfl, rfl, rfl, rfl⟩

end
end MindLeak.Core
