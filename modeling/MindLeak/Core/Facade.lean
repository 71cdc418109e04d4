import MindLeak.Core.Consolidate
import MindLeak.Core.File

/-! A commit's stored attribution, made equal to what a trusted reader of the repository says. -/

namespace MindLeak.Core

def MAX_REPAIR_EDGES : Nat := 10000

structure CommitRepairOutcome where
  intentId : String
  (removedEdges addedEdges correctedTimestamps : Nat)
  metadataChanged : Bool
  /-- Whether a record of the repair was written. -/
  audited : Bool

namespace Graph

def storedRefactors (g : Graph) (intentId : String) : Result (List EdgeRow) :=
  let rows := g.edges.rows.filter fun row => decide (row.key.sourceId = intentId ∧ row.key.relation = .refactored)
  if MAX_REPAIR_EDGES < rows.length then .error (.invalidArgument "stored commit attribution exceeds 10000 edges")
  else .ok (rows.insertionSort fun a b => a.key.targetId ≤ b.key.targetId)

def correctTimestamp (g : Graph) (key : EdgeKey) (timestamp : Int) : Graph :=
  { g with edges := g.edges.update (fun row => decide (row.key = key)) fun row => { row with updatedAt := timestamp, firstSeen := timestamp } }

def attributeFile (intentId : String) (timestamp now : Int) (previous : List String) (g : Graph) (path : String) : Result Graph :=
  if artifactId path ∈ previous then .ok (g.correctTimestamp ⟨intentId, artifactId path, .refactored⟩ timestamp)
  else do
    let g := if g.nodeExists (artifactId path) then g else (g.upsertNode (artifactNode path now)).2
    let (_, g) ← g.upsertEdge (Edge.new intentId (artifactId path) .refactored timestamp) none
    .ok g

def setMetadata (g : Graph) (expected : Node) : Graph :=
  { g with nodes := g.nodes.update (fun node => decide (node.id = expected.id)) fun node =>
      { node with label := expected.label, content := expected.content, createdAt := expected.createdAt } }

end Graph

/-- What is to be done, by what is stored and what should be. -/
def CommitRepairOutcome.planned (beforeNode expected : Node) (beforeEdges : List EdgeRow) (desired : List String) : CommitRepairOutcome :=
  let previous := beforeEdges.map (·.key.targetId)
  { intentId := expected.id
    removedEdges := (previous.filter fun target => decide (target ∉ desired.map artifactId)).length
    addedEdges := (desired.filter fun path => decide (artifactId path ∉ previous)).length
    correctedTimestamps := (beforeEdges.filter fun row => decide (row.key.targetId ∈ desired.map artifactId) &&
      decide (row.updatedAt ≠ expected.createdAt ∨ row.firstSeen ≠ expected.createdAt)).length
    metadataChanged := decide (beforeNode.label ≠ expected.label ∨ beforeNode.content ≠ expected.content ∨
      beforeNode.createdAt ≠ expected.createdAt)
    audited := false }

def CommitRepairOutcome.changesNothing (outcome : CommitRepairOutcome) : Bool :=
  decide (outcome.removedEdges = 0 ∧ outcome.addedEdges = 0 ∧ outcome.correctedTimestamps = 0) && !outcome.metadataChanged

/-- The stored commit made as it should be; `detailBytes` is the length of the repair's record as JSON. -/
def Graph.attributeCommit (g : Graph) (outcome : CommitRepairOutcome) (expected : Node) (previous desired : List String) (now : Int)
    (detailBytes : Nat) : Result (CommitRepairOutcome × Graph) := do
  let g := g.deleteEdges fun row => decide (row.key.sourceId = expected.id ∧ row.key.relation = .refactored ∧
    row.key.targetId ∈ previous ∧ row.key.targetId ∉ desired.map artifactId)
  let g ← desired.foldlM (Graph.attributeFile expected.id expected.createdAt now previous) g
  let g := if outcome.metadataChanged then g.setMetadata expected else g
  let _ ← g.storedRefactors expected.id
  if 4194304 < detailBytes then .error (.invalidArgument "commit repair audit exceeds 4 MiB; no changes committed")
  else .ok ({ outcome with audited := true }, g)

def repairCommitAttribution (agent : String) (verified : CommitRecord) (reason : String) (now : Int) (roots : List String)
    (detailBytes : Nat) (g : Graph) : Result (CommitRepairOutcome × Graph) :=
  let sha := Text.asciiLower (Text.trim (verified.sha.getD ""))
  if !isFullCommitSha sha || Text.isBlank agent || Text.isBlank reason then
    .error (.invalidArgument "commit repair requires a full hash, agent and reason")
  else if MAX_REPAIR_EDGES < (verified.changedPaths roots).length then
    .error (.invalidArgument "commit repair exceeds 10000 edges")
  else
    match g.nodes.find? (intentId sha) with
    | none => .error (.invalidArgument "commit repair requires an existing intent node")
    | some beforeNode =>
      if beforeNode.nodeType ≠ .intent then .error (.invalidArgument "the stored commit is not an intent node")
      else do
        let expected := verified.intentNode (intentId sha)
        let beforeEdges ← g.storedRefactors (intentId sha)
        let outcome := CommitRepairOutcome.planned beforeNode expected beforeEdges (verified.changedPaths roots)
        if outcome.changesNothing then .ok (outcome, g)
        else g.attributeCommit outcome expected (beforeEdges.map (·.key.targetId)) (verified.changedPaths roots) now detailBytes

/-- The repair as a caller asks for it, with the checkout it is asked in and what reads that. -/
def repairCommitAttributionForAgent (agent sha reason : String) (workspaceRoot : Option String)
    (readCommit : String → String → Result CommitRecord) (now : Int) (roots : List String) (detailBytes : Nat) (g : Graph) :
    Result (CommitRepairOutcome × Graph) := do
  let sha := Text.asciiLower (Text.trim sha)
  let reason := Text.trim reason
  if !isFullCommitSha sha then .error (.invalidArgument "commit repair requires a full commit hash")
  else if Text.isBlank agent || reason.isEmpty || decide (2048 < reason.utf8ByteSize) then
    .error (.invalidArgument "commit repair requires an agent and a nonblank reason of at most 2048 bytes")
  else
    match workspaceRoot with
    | none => .error (.invalidArgument "commit repair requires a configured repository workspace")
    | some root =>
      let verified ← readCommit root sha
      if verified.sha ≠ some sha then
        .error (.invalidArgument "Git returned a different commit than requested; nothing repaired")
      else repairCommitAttribution (Text.trim agent) verified reason now roots detailBytes g

/-! The operations that write the graph, each with an agent or without. -/

/-- What a caller does on the graph. What it wrote before it fails stays. -/
def Session (α : Type) : Type := Graph → Result α × Graph

namespace Session

def run {α : Type} (session : Session α) (g : Graph) : Result α × Graph := session g

instance : Monad Session where
  pure answer := fun g => (.ok answer, g)
  bind first next := fun g =>
    match first.run g with
    | (.ok answer, g) => (next answer).run g
    | (.error error, g) => (.error error, g)

def fail {α : Type} (error : MindLeakError) : Session α := fun g => (.error error, g)

def write {α : Type} (body : Graph → Result (α × Graph)) : Session α := fun g => g.transaction body

def read : Session Graph := fun g => (.ok g, g)

end Session

def observe (agent : String) (ids : List String) (now : Int) : Session Unit :=
  .write fun g => do
    let g ← g.observe agent ids now
    .ok ((), g)

def attributeTo (agent : Option String) (outcome : WriteOutcome) (now : Int) : Session WriteOutcome := do
  match agent with
  | none => pure outcome
  | some agent =>
    observe agent outcome.nodeIds now
    pure outcome

def ingestFile (scanners : Scanners) (now : Int) (roots : Roots) (agent : Option String) (path content : String) :
    Session WriteOutcome := do
  let norm := roots.place path
  if isIgnoredPath norm then pure .none
  else if isAbsolutePath norm then .fail (foreignPath norm)
  else
    let g ← Session.read
    match fileSnapshot scanners g norm content now path with
    | .error error => .fail error
    | .ok snapshot =>
      let outcome ← .write (·.replaceStructure (artifactId norm) snapshot.nodes snapshot.edges snapshot.artifactStubs)
      let outcome := { outcome with nodeIds := outcome.nodeIds ++ [artifactId norm] }
      attributeTo agent outcome now

/-- What a caller asks of the engine. -/
inductive Operation where
  | ingestExecution (agent : Option String) (rec : ExecutionRecord)
  | ingestCommit (agent : Option String) (rec : CommitRecord)
  | ingestFile (agent : Option String) (path content : String)
  | ingestToolInvocation (agent : Option String) (rec : ToolInvocationRecord)
  | boost (agent : Option String) (id : String)
  | repairCommit (agent sha reason : String) (workspaceRoot : Option String) (readCommit : String → String → Result CommitRecord)
    (detailBytes : Nat)
  | consolidateSession (summary : Result IntentSummary) (logs : List String)
  | commitSignal (lease : Option MaintenanceLease) (leaseOwner : String) (candidates : List SignalCandidate) (summary : IntentSummary)

structure Step where
  now : Int
  roots : Roots
  sensors : Sensors
  operation : Operation

namespace Step
variable (scanners : Scanners) (step : Step)

def call : Session (List String) :=
  match step.operation with
  | .ingestExecution agent rec => do
    let outcome ← .write (Core.ingestExecution step.sensors rec step.now step.roots.known agent)
    pure outcome.nodeIds
  | .ingestCommit agent rec => do
    let outcome ← .write (Core.ingestCommit step.sensors rec step.now step.roots.known)
    let outcome ← attributeTo agent outcome step.now
    pure outcome.nodeIds
  | .ingestFile agent path content => do
    let outcome ← Core.ingestFile scanners step.now step.roots agent path content
    pure outcome.nodeIds
  | .ingestToolInvocation agent rec => do
    let outcome ← .write (Core.ingestToolInvocation step.sensors rec)
    let outcome ← attributeTo agent outcome step.now
    pure outcome.nodeIds
  | .boost agent id => do
    let boosted ← .write fun g => .ok (g.boost id step.now)
    match agent with
    | some agent => if boosted then observe agent [id] step.now
    | none => pure ()
    pure (if boosted then [id] else [])
  | .repairCommit agent sha reason workspaceRoot readCommit detailBytes => do
    let outcome ← .write (repairCommitAttributionForAgent agent sha reason workspaceRoot readCommit step.now step.roots.known detailBytes)
    pure [outcome.intentId]
  | .consolidateSession summary logs =>
    match summary.bind fun summary => factsFromSummary summary logs.length step.now with
    | .error error => .fail error
    | .ok facts => do
      let outcome ← .write (·.upsertFacts facts.nodes facts.edges none)
      pure (outcome.nodeIds ++ [facts.intentId])
  | .commitSignal lease leaseOwner candidates summary =>
    match distill summary candidates step.now with
    | .error error => .fail error
    | .ok facts => do
      let _ ← .write (commitSignalConsolidation lease leaseOwner step.now candidates facts.nodes facts.edges)
      pure [facts.intentId]

def after (step : Step) (g : Graph) : Graph := ((step.call scanners).run g).2

def ingested (g : Graph) : Option String :=
  match step.operation with
  | .ingestExecution agent rec =>
    (Core.ingestExecution step.sensors rec step.now step.roots.known agent g).toOption.bind (·.1.nodeIds.getLast?)
  | .ingestCommit _ rec => (Core.ingestCommit step.sensors rec step.now step.roots.known g).toOption.bind (·.1.nodeIds.getLast?)
  | _ => none

def agent : Option String :=
  match step.operation with
  | .ingestExecution agent _ | .ingestCommit agent _ | .ingestFile agent _ _ | .ingestToolInvocation agent _
  | .boost agent _ => agent
  | .repairCommit .. | .consolidateSession .. | .commitSignal .. => none

end Step

def reached (scanners : Scanners) (run : List Step) : Graph := run.foldl (fun g step => step.after scanners g) .empty

end MindLeak.Core
