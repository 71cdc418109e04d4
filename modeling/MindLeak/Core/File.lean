import MindLeak.Core.Extract
import MindLeak.Core.Structure

/-! A file's structure as facts of the graph. -/

namespace MindLeak.Core

namespace Graph
variable (g : Graph)

def resolveArtifactCandidate (candidates : List String) : Option String :=
  candidates.find? fun path => g.isReal (artifactId path)

def manifestsAbove : Nat → List Char → List String
  | 0, _ => ["Cargo.toml"]
  | fuel + 1, path => match rsplitOnce '/' path with
    | some (directory, _) => (String.ofList directory ++ "/Cargo.toml") :: manifestsAbove fuel directory
    | none => ["Cargo.toml"]

def cargoManifestCandidates (path : String) : List String := manifestsAbove path.length path.toList

def crateRoots (manifest crateName : String) : List String :=
  let dependencyId := "symbol:" ++ manifest ++ ":dependency:" ++ crateName
  let declared := g.edges.rows.filter fun row =>
    decide (row.key.sourceId = dependencyId ∧ row.key.relation = .dependsOn ∧ row.ownerId = some (artifactId manifest))
  let roots := declared.flatMap fun dependency =>
    (g.edges.rows.filter fun root =>
      decide (root.key.sourceId = dependency.key.targetId ∧ root.key.relation = .contains ∧
        root.ownerId = some dependency.key.targetId)).map (·.key.targetId)
  roots.dedup.filter fun id =>
    (g.nodes.find? id).any (fun node => decide (node.nodeType = .artifact)) && (g.artifactStubs.find? id).isNone

/-- The files of a crate's module path, where exactly one root is declared for it. -/
def rustCrateCandidates (importerPath crateName : String) (segments : List String) : Option (List String) :=
  match g.resolveArtifactCandidate (cargoManifestCandidates importerPath) with
  | none => none
  | some manifest =>
    match g.crateRoots manifest crateName with
    | [rootId] =>
      let rootPath := artifactPath rootId
      let directory := match rsplitOnce '/' rootPath.toList with
        | some (directory, _) => String.ofList directory ++ "/"
        | none => ""
      let named := segments.inits.tail.reverse.flatMap fun lead =>
        [directory ++ joinPath lead ++ ".rs", directory ++ joinPath lead ++ "/mod.rs"]
      some ((named ++ [rootPath]).destutter (· ≠ ·))
    | _ => none

end Graph

/-- What a file has brought so far. -/
structure Snapshot where
  nodes : List Node
  edges : List Edge
  artifactStubs : List ArtifactStub
  /-- The last of a name first. -/
  importedSymbols : List (String × String × String)

namespace Snapshot
variable (snapshot : Snapshot)

def add (nodes : List Node) (edges : List Edge) : Snapshot :=
  { snapshot with nodes := snapshot.nodes ++ nodes, edges := snapshot.edges ++ edges }

def addStub (stub : ArtifactStub) : Snapshot := { snapshot with artifactStubs := snapshot.artifactStubs ++ [stub] }

def imported (name : String) : Option (String × String) := snapshot.importedSymbols.lookup name

end Snapshot

def localSymbol (symbols : List Symbol) (name : String) : Option String :=
  match symbols.filter fun symbol => decide (symbol.name = name) with
  | [symbol] => some symbol.qualifiedName
  | _ => none

def symbolId (path name : String) : String := "symbol:" ++ path ++ ":" ++ name

section
variable (scanners : Scanners) (g : Graph) (norm content : String) (now : Int)

def symbolFacts (snapshot : Snapshot) (symbol : Symbol) : Snapshot :=
  let id := symbolId norm symbol.qualifiedName
  let context := symbolContext content symbol.line
  let place := norm ++ ":" ++ toString symbol.line
  let body := if context.isEmpty then place else place ++ "\n" ++ context
  let label := symbol.qualifiedName ++ " (" ++ symbol.kind ++ ")"
  snapshot.add [(Node.new id .symbol label now).withContent body] [Edge.new (artifactId norm) id .contains now]

def callFacts (snapshot : Snapshot) (call : Call) : Snapshot :=
  snapshot.add [] [Edge.new (symbolId norm call.caller) (symbolId norm call.callee) .calls now]

def importTarget : ImportTarget → ImportTarget
  | .rustCrate name segments =>
    match g.rustCrateCandidates norm name segments with
    | some candidates => .artifactCandidates candidates
    | none => .package name
  | target => target

def importFacts (snapshot : Snapshot) (declared : Import) : Snapshot :=
  match importTarget g norm declared.target with
  | .artifactCandidates candidates =>
    let known := g.resolveArtifactCandidate candidates
    match known.or candidates.head? with
    | none => snapshot
    | some targetPath =>
      let targetId := artifactId targetPath
      let stub := if known.isNone then [ArtifactStub.mk targetId (candidates.map artifactId)] else []
      let bound := declared.bindings.filter fun binding => decide (binding.imported ≠ "default" ∧ binding.imported ≠ "*")
      { snapshot with
        artifactStubs := snapshot.artifactStubs ++ stub
        importedSymbols := (bound.map fun binding => (binding.localName, targetPath, binding.imported)).reverse ++
          snapshot.importedSymbols : Snapshot }.add
        [artifactNode targetPath now] [Edge.new (artifactId norm) targetId .imports now]
  | .package package =>
    snapshot.add [Node.new ("package:" ++ package) .package package now]
      [Edge.new (artifactId norm) ("package:" ++ package) .imports now]
  -- Resolved above.
  | .rustCrate _ _ => snapshot

/-- A symbol of another file, where the graph does not have it. -/
def importedNode (id name : String) : List Node :=
  if g.nodeExists id then [] else [Node.new id .symbol (name ++ " (imported)") now]

def hierarchyFacts (symbols : List Symbol) (snapshot : Snapshot) (hierarchy : Hierarchy) : Snapshot :=
  let relation := match hierarchy.relation with
    | .extends => RelationType.extends
    | .implements => RelationType.implements
  let target := match localSymbol symbols hierarchy.target with
    | some name => some (norm, name)
    | none => snapshot.imported hierarchy.target
  match localSymbol symbols hierarchy.source, target with
  | some sourceName, some (targetPath, targetName) =>
    let targetId := symbolId targetPath targetName
    snapshot.add (importedNode g now targetId targetName) [Edge.new (symbolId norm sourceName) targetId relation now]
  | _, _ => snapshot

def crateFacts (snapshot : Snapshot) : Option RustCrate → Snapshot
  | none => snapshot
  | some rustCrate =>
    let packageId := "package:" ++ rustCrate.name
    let rootId := artifactId rustCrate.rootPath
    (snapshot.add [Node.new packageId .package rustCrate.name now, artifactNode rustCrate.rootPath now]
      [Edge.new (artifactId norm) packageId .contains now, Edge.new (artifactId norm) rootId .contains now]).addStub
      ⟨rootId, [rootId]⟩

def dependencyFacts (snapshot : Snapshot) (dependency : Dependency) : Snapshot :=
  let targetId := "package:" ++ dependency.name
  let snapshot := snapshot.add [Node.new targetId .package dependency.name now]
    [Edge.new (artifactId norm) targetId .dependsOn now]
  match dependency.localManifest with
  | none => snapshot
  | some localManifest =>
    let declarationId := "symbol:" ++ norm ++ ":dependency:" ++ dependency.importName
    let manifestId := artifactId localManifest
    (snapshot.add
      [(Node.new declarationId .symbol (dependency.importName ++ " (Cargo dependency)") now).withContent dependency.name,
        artifactNode localManifest now]
      [Edge.new (artifactId norm) declarationId .contains now, Edge.new declarationId manifestId .dependsOn now]).addStub
      ⟨manifestId, [manifestId]⟩

def referenceFacts (snapshot : Snapshot) (reference : Call) : Snapshot :=
  match snapshot.imported reference.callee with
  | none => snapshot
  | some (targetPath, importedName) =>
    let callee := symbolId targetPath importedName
    snapshot.add (importedNode g now callee importedName) [Edge.new (symbolId norm reference.caller) callee .calls now]

def fileSnapshot (path : String) : Result Snapshot := do
  let extraction := scanners.ast (extensionOf path) content
  let snapshot : Snapshot := ⟨[artifactNode norm now], [], [], []⟩
  let snapshot := extraction.symbols.foldl (symbolFacts norm content now) snapshot
  let snapshot := extraction.calls.foldl (callFacts norm now) snapshot
  let snapshot := (javascriptImports scanners path content ++ rustImports scanners path content).foldl
    (importFacts g norm now) snapshot
  let snapshot := (extractHierarchy scanners path content).foldl (hierarchyFacts g norm now extraction.symbols) snapshot
  let declared ← rustCrate scanners path content
  let snapshot := crateFacts norm now snapshot declared
  let dependencies ← manifestDependencies scanners path content
  let snapshot := (dependencies.getD []).foldl (dependencyFacts norm now) snapshot
  .ok (extraction.callReferences.foldl (referenceFacts g norm now) snapshot)

end

/-- The roots of a repository, and those found when a path lies under none of them. -/
structure Roots where
  known : List String
  refreshed : Option (List String)

def Roots.place (roots : Roots) (path : String) : String :=
  let placed := repoRelative path roots.known
  if !isAbsolutePath placed then placed
  else match roots.refreshed with
    | none => placed
    | some refreshed => repoRelative path refreshed

def foreignPath (norm : String) : MindLeakError :=
  .other ("ingest path must be repository-relative, got " ++ norm ++ "; it resolves outside this server's workspace root, " ++
    "so it would create a second identity for a file this graph already tracks")

/-! Forgetting the files that are not in a workspace any more. -/

structure ForgetOutcome where
  (nodesRemoved edgesRemoved : Nat)

structure ReconcileOutcome where
  (filesForgotten nodesRemoved edgesRemoved extractorVersion : Nat)
  (stalePaths missingPaths : List String)

namespace ReconcileOutcome

def none : ReconcileOutcome := ⟨0, 0, 0, 0, [], []⟩

def count (outcome : ReconcileOutcome) (forgotten : ForgetOutcome) : ReconcileOutcome :=
  if forgotten.nodesRemoved > 0 || forgotten.edgesRemoved > 0 then
    { outcome with
      filesForgotten := outcome.filesForgotten + 1
      nodesRemoved := outcome.nodesRemoved + forgotten.nodesRemoved
      edgesRemoved := outcome.edgesRemoved + forgotten.edgesRemoved }
  else outcome

end ReconcileOutcome

namespace Graph
variable (g : Graph)

def symbolIds (artifactId : String) : List String :=
  (g.nodes.rows.filter fun node => decide (node.nodeType = .symbol) && sqlStartsWith node.id (symbolPrefix artifactId)).map Node.id

def forgetNode (forgotten : ForgetOutcome × Graph) (id : String) : ForgetOutcome × Graph :=
  let (outcome, g) := forgotten
  let edgesRemoved := outcome.edgesRemoved + g.edges.rows.countP (·.touches id)
  let g := g.deleteEdges (·.touches id)
  (⟨outcome.nodesRemoved + g.nodes.rows.countP fun node => decide (node.id = id), edgesRemoved⟩, g.deleteNode id)

/-- A file's symbols go with every edge that touches them, then the file. -/
def forgetArtifact (artifactId : String) : ForgetOutcome × Graph :=
  let (outcome, g) := forgetNode ((g.symbolIds artifactId).foldl forgetNode (⟨0, 0⟩, g)) artifactId
  (outcome, g.deleteStub artifactId)

def artifactIds : List String := (g.nodes.rows.filter fun node => node.nodeType = .artifact).map Node.id

def staleArtifactIds (currentVersion : Nat) : List String :=
  (g.artifactIds.filter fun id => ((g.structureVersions.find? id).map StructureVersion.extractorVersion).getD 0 < currentVersion).insertionSort
    (· ≤ ·)

def structureStatusFor (keep : List String) : ReconcileOutcome :=
  let knownPaths := g.artifactIds.filterMap (Text.stripPrefix? "artifact:")
  { ReconcileOutcome.none with
    extractorVersion := STRUCTURE_EXTRACTOR_VERSION
    stalePaths := ((g.staleArtifactIds STRUCTURE_EXTRACTOR_VERSION).filterMap (Text.stripPrefix? "artifact:")).filter fun path =>
      decide (path ∈ keep) && !isIgnoredPath path
    missingPaths := sortDedup (keep.filter fun path => decide (path ∉ knownPaths) && !isIgnoredPath path) }

/-- The file is in the set, and not among what is built or kept elsewhere. -/
def keeps (keep : List String) (artifactId : String) : Bool :=
  let path := artifactPath artifactId
  !(isIgnoredPath path || decide (path ∉ keep))

def forgetAbsent (keep : List String) (reconciled : ReconcileOutcome × Graph) (artifactId : String) : ReconcileOutcome × Graph :=
  if keeps keep artifactId then reconciled
  else
    let (outcome, g) := reconciled
    let (forgotten, g) := g.forgetArtifact artifactId
    (outcome.count forgotten, g)

def reconcileWorkspace (roots : Roots) (currentPaths : List String) : ReconcileOutcome × Graph :=
  let keep := currentPaths.map roots.place
  let (outcome, g) := g.artifactIds.foldl (forgetAbsent keep) (ReconcileOutcome.none, g)
  let status := g.structureStatusFor keep
  ({ outcome with extractorVersion := status.extractorVersion, stalePaths := status.stalePaths }, g)

def forgetFile (roots : Roots) (path : String) : ForgetOutcome × Graph := g.forgetArtifact (artifactId (roots.place path))

end Graph
end MindLeak.Core
