import Mathlib
import MindLeak.Library.Table
import MindLeak.Library.Text

/-! The temporal context graph: nodes, the edges between them, and how they are written. -/

namespace MindLeak.Core

inductive NodeType where
  | symbol | artifact | execution | toolInvocation | intent | agent | package | digest
  deriving DecidableEq

inductive RelationType where
  | modified | failedOn | calls | refactored | fixed | relatesTo | contains | observed | imports | «extends» | implements | dependsOn
  deriving DecidableEq

def RelationType.asStr : RelationType → String
  | .modified => "modified"
  | .failedOn => "failed_on"
  | .calls => "calls"
  | .refactored => "refactored"
  | .fixed => "fixed"
  | .relatesTo => "relates_to"
  | .contains => "contains"
  | .observed => "observed"
  | .imports => "imports"
  | .extends => "extends"
  | .implements => "implements"
  | .dependsOn => "depends_on"

def RelationType.fromTag (tag : String) : Option RelationType :=
  [.modified, .failedOn, .calls, .refactored, .fixed, .relatesTo, .contains, .observed, .imports, .extends, .implements,
    .dependsOn].find? fun relation => decide (relation.asStr = tag)

def RelationType.defaultHalfLifeHours : RelationType → Nat
  | .modified | .failedOn => 24
  | .calls | .contains | .refactored | .fixed | .imports | .extends | .implements | .dependsOn => 168
  | .relatesTo | .observed => 48

structure Node where
  id : String
  nodeType : NodeType
  label : String
  content : Option String
  (createdAt lastAccessedAt : Int)
  deriving DecidableEq

def Node.new (id : String) (nodeType : NodeType) (label : String) (now : Int) : Node := ⟨id, nodeType, label, none, now, now⟩

def Node.withContent (node : Node) (content : String) : Node := { node with content := some content }

instance : Row Node String := ⟨Node.id⟩

/-- An edge as a writer gives it. A weight is 1 from the start, and a reinforcement stops at 1. -/
structure Edge where
  (sourceId targetId : String)
  relation : RelationType
  weight : Rat
  halfLifeHours : Nat
  updatedAt : Int

def Edge.new (sourceId targetId : String) (relation : RelationType) (now : Int) : Edge :=
  ⟨sourceId, targetId, relation, 1, relation.defaultHalfLifeHours, now⟩

structure EdgeKey where
  (sourceId targetId : String)
  relation : RelationType
  deriving DecidableEq

def Edge.key (edge : Edge) : EdgeKey := ⟨edge.sourceId, edge.targetId, edge.relation⟩

structure EdgeRow where
  key : EdgeKey
  weight : Rat
  halfLifeHours : Nat
  (updatedAt firstSeen : Int)
  reinforcementCount : Nat
  /-- The artifact that a structural snapshot belongs to. -/
  ownerId : Option String
  deriving DecidableEq

instance : Row EdgeRow EdgeKey := ⟨EdgeRow.key⟩

def EdgeRow.touches (row : EdgeRow) (id : String) : Bool := decide (row.key.sourceId = id ∨ row.key.targetId = id)

structure StructureVersion where
  artifactId : String
  extractorVersion : Nat

instance : Row StructureVersion String := ⟨StructureVersion.artifactId⟩

structure StubRow where
  nodeId : String

instance : Row StubRow String := ⟨StubRow.nodeId⟩

structure StubCandidate where
  (stubId candidateId : String)
  deriving DecidableEq

instance : Row StubCandidate StubCandidate := ⟨id⟩

inductive MindLeakError where
  /-- A statement that a key or a foreign key forbids. -/
  | sqlite
  | other (message : String)
  | invalidArgument (message : String)
  | notFound (message : String)
  | busy (message : String)
  | cancelled (message : String)
  deriving DecidableEq

abbrev Result (α : Type) : Type := Except MindLeakError α

structure Graph where
  nodes : Table Node
  edges : Table EdgeRow
  structureVersions : Table StructureVersion
  artifactStubs : Table StubRow
  stubCandidates : Table StubCandidate

structure WriteOutcome where
  (nodesCreated edgesCreated : Nat)
  nodeIds : List String
  violation : Option String

/-- `WriteOutcome::default`. -/
def WriteOutcome.none : WriteOutcome := ⟨0, 0, [], Option.none⟩

namespace Graph

def empty : Graph := ⟨.empty, .empty, .empty, .empty, .empty⟩

instance : Inhabited Graph := ⟨empty⟩

def nodeExists (g : Graph) (id : String) : Bool := (g.nodes.find? id).isSome

def writeOver (node : Node) (row : Node) : Node :=
  { row with label := node.label, content := node.content.or row.content, lastAccessedAt := node.lastAccessedAt }

/-- Returns true if newly created. -/
def upsertNode (g : Graph) (node : Node) : Bool × Graph :=
  match g.nodes.find? node.id with
  | some row => (false, { g with nodes := g.nodes.put (writeOver node row) })
  | none => (true, { g with nodes := g.nodes.put node })

end Graph

def Edge.row (edge : Edge) (ownerId : Option String) : EdgeRow where
  key := edge.key
  weight := edge.weight
  halfLifeHours := edge.halfLifeHours
  updatedAt := edge.updatedAt
  firstSeen := edge.updatedAt
  reinforcementCount := 1
  ownerId := ownerId

def EdgeRow.reinforce (row : EdgeRow) (edge : Edge) (ownerId : Option String) : EdgeRow where
  key := row.key
  weight := min 1 (row.weight + 1 / 20)
  halfLifeHours := edge.halfLifeHours
  updatedAt := edge.updatedAt
  firstSeen := row.firstSeen
  reinforcementCount := row.reinforcementCount + 1
  ownerId := ownerId.or row.ownerId

namespace Graph

def ownedByOther (ownerId : Option String) (row : EdgeRow) : Option String :=
  match ownerId, row.ownerId with
  | some requested, some existing => if requested ≠ existing then some existing else none
  | _, _ => none

/-- Returns true if newly created. -/
def upsertEdge (g : Graph) (edge : Edge) (ownerId : Option String) : Result (Bool × Graph) :=
  match g.edges.find? edge.key with
  | some row =>
    match ownedByOther ownerId row with
    | some existing =>
      let requested := ownerId.getD ""
      .error (.other s!"structural edge is owned by {existing}, not {requested}")
    | none => .ok (false, { g with edges := g.edges.put (row.reinforce edge ownerId) })
  | none =>
    -- The foreign keys.
    if g.nodeExists edge.sourceId && g.nodeExists edge.targetId then
      .ok (true, { g with edges := g.edges.put (edge.row ownerId) })
    else .error .sqlite

def upsertNodes (g : Graph) (nodes : List Node) : Nat × Graph :=
  nodes.foldl (fun (created, g) node =>
    let (isNew, g) := g.upsertNode node
    (if isNew then created + 1 else created, g)) (0, g)

def upsertEdges (g : Graph) (edges : List Edge) (ownerId : Option String) : Result (Nat × Graph) :=
  edges.foldlM (fun (created, g) edge => do
    let (isNew, g) ← g.upsertEdge edge ownerId
    .ok (if isNew then created + 1 else created, g)) (0, g)

def deleteEdges (g : Graph) (selects : EdgeRow → Bool) : Graph := { g with edges := g.edges.delete selects }

def deleteStub (g : Graph) (id : String) : Graph :=
  { g with
    artifactStubs := g.artifactStubs.delete fun stub => decide (stub.nodeId = id)
    stubCandidates := g.stubCandidates.delete fun candidate => decide (candidate.stubId = id) }

def deleteNode (g : Graph) (id : String) : Graph :=
  { g.deleteStub id with
    nodes := g.nodes.delete fun node => decide (node.id = id)
    edges := g.edges.delete fun row => row.touches id
    structureVersions := g.structureVersions.delete fun version => decide (version.artifactId = id) }

/-- No edge begins or ends there. -/
def isolated (g : Graph) (id : String) : Bool := g.edges.rows.all fun row => !row.touches id

def reap (g : Graph) (passes : Node → Bool) : Graph :=
  (g.nodes.rows.filter fun node => passes node && g.isolated node.id).foldl (fun g node => g.deleteNode node.id) g

end Graph

/-- Who observed which nodes. -/
structure Observation where
  agent : String
  ids : List String
  now : Int

def agentName (agent : String) : String := (Text.stripPrefix? "agent:" (Text.trim agent)).getD (Text.trim agent)

def agentNodeId (agent : String) : String := "agent:" ++ agentName agent

/-- What an agent observed is attributed to it, for a transient execution no longer than its evidence lasts. -/
def Observation.edge (observation : Observation) (id : String) : Edge :=
  let edge := Edge.new (agentNodeId observation.agent) id .observed observation.now
  if Text.startsWith id "execution:" || Text.startsWith id "tool_invocation:" then
    { edge with halfLifeHours := RelationType.modified.defaultHalfLifeHours }
  else edge

def Observation.writeOn (observation : Observation) (g : Graph) : Result Graph :=
  if (agentName observation.agent).isEmpty then .ok g
  else do
    let (_, g) := g.upsertNode (Node.new (agentNodeId observation.agent) .agent (agentName observation.agent) observation.now)
    let ids := observation.ids.filter fun id => decide (id ≠ agentNodeId observation.agent)
    let (_, g) ← g.upsertEdges (ids.map observation.edge) none
    .ok g

namespace Graph

/-- A batch and its attribution, in one transaction. -/
def upsertFacts (g : Graph) (nodes : List Node) (edges : List Edge) (observation : Option Observation) : Result (WriteOutcome × Graph) := do
  let (nodesCreated, g) := g.upsertNodes nodes
  let (edgesCreated, g) ← g.upsertEdges edges none
  let g ← match observation with
    | none => .ok g
    | some observation => observation.writeOn g
  .ok ({ WriteOutcome.none with nodesCreated, edgesCreated }, g)

def observe (g : Graph) (agent : String) (ids : List String) (now : Int) : Result Graph := (Observation.mk agent ids now).writeOn g

def touch (now : Int) (node : Node) : Node := { node with lastAccessedAt := now }

/-- `boost`: attention moves no edge. -/
def boost (g : Graph) (id : String) (now : Int) : Bool × Graph :=
  if g.nodeExists id then (true, { g with nodes := g.nodes.update (fun node => decide (node.id = id)) (touch now) })
  else (false, g)

end Graph
end MindLeak.Core
