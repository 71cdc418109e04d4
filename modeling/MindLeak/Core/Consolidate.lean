import MindLeak.Core.Ingest

/-! The evidence of an agent's work in a window, as it is read off the graph. -/

namespace MindLeak.Core

def EVIDENCE_SCHEMA_VERSION : Nat := 1
def EVIDENCE_MAX_EVENTS : Nat := 200
def EVIDENCE_MAX_PROVENANCE : Nat := 1000

structure EvidenceProvenance where
  (sourceId targetId relation : String)
  deriving DecidableEq

structure ConformanceEvidence where
  schemaVersion : Nat
  taskId : Option String
  agentId : String
  (startedAt endedAt : Int)
  (changedNodeIds failedNodeIds executionIds successfulExecutionIds commitIds : List String)
  summary : String
  provenance : List EvidenceProvenance
  deriving DecidableEq

/-- What the lists of a bundle hold so far. -/
structure Gathered where
  (changed failed executions successful commits : List String)
  provenance : List EvidenceProvenance

def pushNew (items : List String) (item : String) : List String := if item ∈ items then items else items ++ [item]

/-- An execution that ended well says so in its first line. -/
def Node.succeeded (node : Node) : Bool := decide ((node.content.bind fun content => (textLines content).head?) = some "exit=0")

namespace Gathered

def observe (gathered : Gathered) (agentNode : String) (event : Node) : Gathered :=
  let gathered := if gathered.provenance.length < EVIDENCE_MAX_PROVENANCE then
      { gathered with provenance := gathered.provenance ++ [⟨agentNode, event.id, RelationType.observed.asStr⟩] }
    else gathered
  if event.nodeType = .execution then
    { gathered with
      executions := gathered.executions ++ [event.id]
      successful := if event.succeeded then gathered.successful ++ [event.id] else gathered.successful }
  else gathered

def fact (gathered : Gathered) (row : EdgeRow) : Gathered :=
  let gathered := match row.key.relation with
    | .modified | .refactored => { gathered with changed := pushNew gathered.changed row.key.targetId }
    | .failedOn => { gathered with failed := pushNew gathered.failed row.key.targetId }
    | _ => gathered
  { gathered with
    provenance := gathered.provenance ++ [⟨row.key.sourceId, row.key.targetId, row.key.relation.asStr⟩] }

/-- The facts of one event, and whether one of them is a commit's. The loop ends where the provenance is full. -/
def facts : List EdgeRow → Bool × Gathered → Bool × Gathered
  | [], reached => reached
  | row :: rest, (isCommit, gathered) =>
    if EVIDENCE_MAX_PROVENANCE ≤ gathered.provenance.length then (isCommit, gathered)
    else facts rest (isCommit || decide (row.key.relation = .refactored), gathered.fact row)

end Gathered

namespace Graph

def attributedEvents (g : Graph) (agentNode : String) (startedAt endedAt : Int) : List Node :=
  let observed := g.nodes.rows.filter fun node =>
    (g.edges.find? ⟨agentNode, node.id, .observed⟩).isSome &&
      decide ((node.nodeType = .execution ∨ node.nodeType = .intent) ∧ startedAt ≤ node.createdAt ∧ node.createdAt ≤ endedAt)
  (observed.insertionSort fun a b => a.createdAt < b.createdAt ∨ a.createdAt = b.createdAt ∧ a.id ≤ b.id).take EVIDENCE_MAX_EVENTS

def eventFacts (g : Graph) (eventId : String) : List EdgeRow :=
  let rows := g.edges.rows.filter fun row =>
    decide (row.key.sourceId = eventId ∧ (row.key.relation = .modified ∨ row.key.relation = .failedOn ∨ row.key.relation = .refactored))
  rows.insertionSort fun a b =>
    a.key.relation.asStr < b.key.relation.asStr ∨ a.key.relation.asStr = b.key.relation.asStr ∧ a.key.targetId ≤ b.key.targetId

def gather (g : Graph) (agentNode : String) (gathered : Gathered) (event : Node) : Gathered :=
  let (isCommit, gathered) := Gathered.facts (g.eventFacts event.id) (false, gathered.observe agentNode event)
  if event.nodeType = .intent ∧ isCommit then { gathered with commits := gathered.commits ++ [event.id] } else gathered

def evidenceFor (g : Graph) (taskId : Option String) (agent : String) (startedAt endedAt : Int) : Result ConformanceEvidence :=
  if endedAt < startedAt then .error (.other "evidence start must not be after its end")
  else if (agentName agent).isEmpty then .error (.other "evidence agent must not be empty")
  else
    let gathered := (g.attributedEvents (agentNodeId agent) startedAt endedAt).foldl (g.gather (agentNodeId agent)) ⟨[], [], [], [], [], []⟩
    .ok {
      schemaVersion := EVIDENCE_SCHEMA_VERSION
      taskId := taskId
      agentId := agentName agent
      startedAt := startedAt
      endedAt := endedAt
      changedNodeIds := gathered.changed
      failedNodeIds := gathered.failed
      executionIds := gathered.executions
      successfulExecutionIds := gathered.successful
      commitIds := gathered.commits
      summary := "agent=" ++ agentName agent ++ "; executions=" ++ toString gathered.executions.length ++
        "; successful=" ++ toString gathered.successful.length ++ "; commits=" ++ toString gathered.commits.length ++
        "; changed=" ++ toString gathered.changed.length ++ "; failed=" ++ toString gathered.failed.length
      provenance := gathered.provenance }

end Graph

/-! What a model's summary becomes in the graph, and how raw signal is acknowledged with it. -/

structure ImpactedFile where
  (path relation : String)

structure IntentSummary where
  intentLabel : String
  impactedFiles : List ImpactedFile
  status : String

structure ConsolidationFacts where
  intentId : String
  nodes : List Node
  edges : List Edge

def MAX_IMPACTED_FILES : Nat := 200
def MAX_IMPACTED_PATH_BYTES : Nat := 1024

def consolidationRelation (modelRelation : String) : RelationType :=
  match RelationType.fromTag (Text.trim modelRelation) with
  | some .fixed => .fixed
  | some .relatesTo => .relatesTo
  | _ => .refactored

def impactedFiles (seen : List String) : List ImpactedFile → List ImpactedFile
  | [] => []
  | file :: rest =>
    let path := normalizePath file.path
    if Text.isBlank path ∨ MAX_IMPACTED_PATH_BYTES < path.utf8ByteSize ∨ path ∈ seen then impactedFiles seen rest
    else { file with path := path } :: impactedFiles (path :: seen) rest

def factsFromSummary (summary : IntentSummary) (sourceEventCount : Nat) (now : Int) : Result ConsolidationFacts :=
  let label := Text.trim summary.intentLabel
  if label.isEmpty then .error (.other "consolidation summary has an empty intent_label")
  else
    let id := intentId (shortHash label)
    let status := String.ofList ((Text.trim summary.status).toList.map fun c => if c = '\r' ∨ c = '\n' then ' ' else c)
    let intent := (Node.new id .intent (clamp label 200) now).withContent
      ("status=" ++ clamp status 200 ++ "\nsource_events=" ++ toString sourceEventCount)
    let files := impactedFiles [] (summary.impactedFiles.take MAX_IMPACTED_FILES)
    .ok {
      intentId := id
      nodes := intent :: files.map (artifactNode ·.path now)
      edges := files.map fun file => Edge.new id (artifactId file.path) (consolidationRelation file.relation) now }

/-- Proven signal approaching expiry, as far as its acknowledgement reads it. -/
structure SignalCandidate where
  (sourceId targetId : String)
  relation : RelationType
  reinforcementCount : Nat
  updatedAt : Int
  deriving DecidableEq

def SignalCandidate.key (candidate : SignalCandidate) : EdgeKey := ⟨candidate.sourceId, candidate.targetId, candidate.relation⟩

def SignalCandidate.is (candidate : SignalCandidate) (row : EdgeRow) : Bool :=
  decide (row.key = candidate.key ∧ row.updatedAt = candidate.updatedAt ∧ row.reinforcementCount = candidate.reinforcementCount)

def ConsolidationFacts.linkTo (facts : ConsolidationFacts) (candidates : List SignalCandidate) (now : Int) : ConsolidationFacts :=
  { facts with
    edges := facts.edges ++ ((candidates.map (·.targetId)).foldl pushNew []).map fun target =>
      Edge.new facts.intentId target .relatesTo now }

namespace Graph

def deleteSignalEdges (g : Graph) (candidates : List SignalCandidate) : Nat × Graph :=
  candidates.foldl (fun (removed, g) candidate =>
    (removed + (g.edges.rows.filter candidate.is).length, g.deleteEdges candidate.is)) (0, g)

/-- `DELETE FROM nodes`, with the number of rows. -/
def reapCounted (g : Graph) (passes : Node → Bool) : Nat × Graph :=
  ((g.nodes.rows.filter fun node => passes node && g.isolated node.id).length, g.reap passes)

def deleteOrphanSignalNodes (g : Graph) (candidates : List SignalCandidate) : Nat × Graph :=
  let (removed, g) := candidates.foldl (fun (removed, g) candidate =>
    let (more, g) := g.reapCounted fun node =>
      decide (node.id = candidate.sourceId ∧ (node.nodeType = .execution ∨ node.nodeType = .intent))
    (removed + more, g)) (0, g)
  let (more, g) := g.reapCounted fun node =>
    decide (node.nodeType = .execution ∨ node.nodeType = .symbol ∨ node.nodeType = .package)
  (removed + more, g)

end Graph

/-- The row of `maintenance_leases` for `signal_consolidation`. -/
structure MaintenanceLease where
  owner : String
  (leaseExpiresAt lastAttemptAt : Int)

def tryAcquireConsolidationLease (owner : String) (now leaseSecs minIntervalSecs : Int) (lease : Option MaintenanceLease) :
    Bool × Option MaintenanceLease :=
  let mine := some ⟨owner, now + max leaseSecs 1, now⟩
  match lease with
  | none => (true, mine)
  | some row =>
    if row.leaseExpiresAt ≤ now ∧ row.lastAttemptAt ≤ now - max minIntervalSecs 0 then (true, mine) else (false, lease)

def releaseConsolidationLease (owner : String) (now : Int) (lease : Option MaintenanceLease) : Bool × Option MaintenanceLease :=
  match lease with
  | none => (false, none)
  | some row => if row.owner = owner then (true, some { row with leaseExpiresAt := now }) else (false, lease)

def leaseValid (owner : String) (now : Int) (lease : Option MaintenanceLease) : Bool :=
  lease.any fun row => decide (row.owner = owner ∧ now < row.leaseExpiresAt)

def distill (summary : IntentSummary) (candidates : List SignalCandidate) (now : Int) : Result ConsolidationFacts := do
  let facts ← factsFromSummary summary candidates.length now
  .ok (facts.linkTo candidates now)

/-- Distilled facts and the acknowledgement of their raw signal, in one transaction. -/
def commitSignalConsolidation (lease : Option MaintenanceLease) (leaseOwner : String) (now : Int) (candidates : List SignalCandidate)
    (nodes : List Node) (edges : List Edge) (g : Graph) : Result ((WriteOutcome × Nat × Nat) × Graph) := do
  if !leaseValid leaseOwner now lease then .error (.busy "signal consolidation lease expired")
  else
    let (edgesRemoved, g) := g.deleteSignalEdges candidates
    if edgesRemoved ≠ candidates.length then .error (.other "signal candidates changed during consolidation")
    else
      let (nodesCreated, g) := g.upsertNodes nodes
      let (edgesCreated, g) ← g.upsertEdges edges none
      let (nodesRemoved, g) := g.deleteOrphanSignalNodes candidates
      .ok (({ WriteOutcome.none with nodesCreated, edgesCreated }, edgesRemoved, nodesRemoved), g)

end MindLeak.Core
