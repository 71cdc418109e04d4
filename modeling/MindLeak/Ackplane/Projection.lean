import MindLeak.Ackplane.Ledger
import Mathlib.Data.List.Sort

/-! The graph projection of each stream. A worker has its stream's advisory lock to the end of the
transaction, drops what is projected and replays the structural facts that are committed when it reads. -/

namespace MindLeak.Ackplane

def STRUCTURAL_FACT_PAYLOAD_TYPE : String := "structural_fact"

/-- Both numbers as the bits of an `f64`. -/
structure StructuralEdgeFact where
  (targetId relation : String)
  (baseWeight halfLifeHours : UInt64)
  deriving DecidableEq

structure StructuralFact where
  (nodeId nodeType label : String)
  edges : List StructuralEdgeFact
  deriving DecidableEq

structure ProjectedNode where
  stream : Stream
  (nodeId nodeType label : String)
  (createdAt updatedAt : Int)

instance : Row ProjectedNode (Stream × String) := ⟨fun row => (row.stream, row.nodeId)⟩

structure ProjectedEdgeKey where
  (sourceId targetId relation : String)
  deriving DecidableEq

structure ProjectedEdge where
  stream : Stream
  key : ProjectedEdgeKey
  (baseWeight halfLifeHours : UInt64)
  updatedAt : Int

instance : Row ProjectedEdge (Stream × ProjectedEdgeKey) := ⟨fun row => (row.stream, row.key)⟩

structure ProjectionState where
  stream : Stream
  (streamPosition projectedAt : Int)
  deriving DecidableEq

instance : Row ProjectionState Stream := ⟨ProjectionState.stream⟩

structure ProjectionSummary where
  (nodes edges : Nat)
  streamPosition : Int

inductive ProjectionError where
  | malformedFact (position : Int)
  | database

namespace LedgerStore

def structuralRecords (ledger : LedgerStore) (stream : Stream) : List LedgerRecord :=
  (ledger.records.rows.filter fun row =>
    decide (row.envelope.key.stream = stream) && decide (row.envelope.payloadType = STRUCTURAL_FACT_PAYLOAD_TYPE)).insertionSort
      fun first second => first.streamPosition ≤ second.streamPosition

def structuralHead (ledger : LedgerStore) (stream : Stream) : Int :=
  (((ledger.structuralRecords stream).map LedgerRecord.streamPosition).max?).getD 0

end LedgerStore

structure Projection where
  nodes : Table ProjectedNode
  edges : Table ProjectedEdge
  states : Table ProjectionState

namespace Projection

def empty : Projection := ⟨.empty, .empty, .empty⟩

def node? (p : Projection) (stream : Stream) (nodeId : String) : Option ProjectedNode := p.nodes.find? (stream, nodeId)

def edge? (p : Projection) (stream : Stream) (key : ProjectedEdgeKey) : Option ProjectedEdge := p.edges.find? (stream, key)

/-- The position that the stream is projected at; none before the first time. -/
def checkpoint? (p : Projection) (stream : Stream) : Option Int := (p.states.find? stream).map ProjectionState.streamPosition

/-- Both deletions. -/
def clear (p : Projection) (stream : Stream) : Projection :=
  { p with edges := p.edges.delete fun row => row.stream = stream, nodes := p.nodes.delete fun row => row.stream = stream }

def upsertNode (p : Projection) (row : ProjectedNode) : Projection :=
  { p with nodes := (p.nodes.insertOrIgnore row).update (fun other => Row.key other = Row.key row) fun other =>
      { other with nodeType := row.nodeType, label := row.label, updatedAt := row.updatedAt } }

def upsertEdge (p : Projection) (row : ProjectedEdge) : Projection :=
  { p with edges := (p.edges.insertOrIgnore row).update (fun other => Row.key other = Row.key row) fun other =>
      { other with baseWeight := row.baseWeight, halfLifeHours := row.halfLifeHours, updatedAt := row.updatedAt } }

def upsertState (p : Projection) (row : ProjectionState) : Projection :=
  { p with states := (p.states.insertOrIgnore row).update (fun other => Row.key other = Row.key row) fun other =>
      { other with streamPosition := row.streamPosition, projectedAt := row.projectedAt } }

def applyFact (stream : Stream) (now : Int) (p : Projection) (fact : StructuralFact) : Projection :=
  fact.edges.foldl (fun p edge => p.upsertEdge ⟨stream, ⟨fact.nodeId, edge.targetId, edge.relation⟩, edge.baseWeight, edge.halfLifeHours, now⟩)
    (p.upsertNode ⟨stream, fact.nodeId, fact.nodeType, fact.label, now, now⟩)

def replayRecord (fromSlice : Bytes → Option StructuralFact) (stream : Stream) (now : Int) (read : Projection × Int) (row : LedgerRecord) :
    Except ProjectionError (Projection × Int) :=
  match fromSlice row.envelope.payload with
  | none => .error (.malformedFact row.streamPosition)
  | some fact => .ok (read.1.applyFact stream now fact, row.streamPosition)

/-- What a worker writes that read these records; each of its statements sees the ones before. -/
def rebuild (fromSlice : Bytes → Option StructuralFact) (p : Projection) (stream : Stream) (now : Int) (rows : List LedgerRecord) :
    Except ProjectionError (Projection × Int) := do
  let (replayed, lastPosition) ← rows.foldlM (replayRecord fromSlice stream now) (p.clear stream, 0)
  return (replayed.upsertState ⟨stream, lastPosition, now⟩, lastPosition)

def summary (p : Projection) (stream : Stream) (streamPosition : Int) : ProjectionSummary where
  nodes := p.nodes.rows.countP fun row => row.stream = stream
  edges := p.edges.rows.countP fun row => row.stream = stream
  streamPosition := streamPosition

def current (p : Projection) (ledger : LedgerStore) (stream : Stream) : Option ProjectionSummary :=
  ((p.checkpoint? stream).filter fun position => ledger.structuralHead stream ≤ position).map (p.summary stream)

def staleProjections (p : Projection) (ledger : LedgerStore) : List Stream :=
  ((ledger.records.rows.filter fun row => row.envelope.payloadType = STRUCTURAL_FACT_PAYLOAD_TYPE).map
    fun row => row.envelope.key.stream).dedup.filter fun stream => (p.checkpoint? stream).getD 0 < ledger.structuralHead stream

end Projection

/-- Behind which of its statements a rebuild stands, and when its transaction began. -/
inductive RebuildPhase where
  | idle
  | begun (stream : Stream) (onlyIfStale : Bool) (now : Int)
  | locked (stream : Stream) (onlyIfStale : Bool) (now : Int)
  /-- Nothing is left but to commit and to answer that the projection is current. -/
  | current (stream : Stream) (summary : ProjectionSummary)
  /-- What was projected is deleted. -/
  | cleared (stream : Stream) (now : Int)
  | read (stream : Stream) (now : Int) (rows : List LedgerRecord)
  | replayed (stream : Stream) (now : Int) (rows : List LedgerRecord)
  /-- With the answer, or none where its commit is not heard of. -/
  | finished (stream : Stream) (answer : Option (Except ProjectionError (ProjectionSummary × Bool)))

namespace RebuildPhase

def holding : RebuildPhase → Option Stream
  | .locked stream _ _ | .current stream _ | .cleared stream _ | .read stream _ _ | .replayed stream _ _ => some stream
  | .idle | .begun _ _ _ | .finished _ _ => none

def stream? : RebuildPhase → Option Stream
  | .begun stream _ _ => some stream
  | phase => phase.holding

end RebuildPhase

structure Projecting (τ ω : Type) where
  appends : Appends τ
  projection : Projection
  locks : Stream → Option ω
  phase : ω → RebuildPhase
  /-- What is left of a worker's pass over the stale projections. -/
  pass : ω → List Stream

inductive ProjectionOp (τ ω : Type) where
  | append (op : AppendOp τ)
  | rebuild (worker : ω) (stream : Stream) (now : Int)
  /-- `rebuild_stale` makes its list. -/
  | scan (worker : ω)
  /-- It goes on to the next of its list, or back to the one it has just failed at. -/
  | next (worker : ω) (now : Int)
  | retry (worker : ω) (now : Int)
  /-- The rebuild's next statement, or its commit. -/
  | step (worker : ω)
  | fail (worker : ω)
  | commitUnheard (worker : ω)

namespace Projecting
variable {τ ω : Type} [DecidableEq τ] [DecidableEq ω]

def moveTo (s : Projecting τ ω) (worker : ω) (phase : RebuildPhase) : Projecting τ ω :=
  { s with phase := Function.update s.phase worker phase }

/-- The end of a transaction gives its lock back. -/
def finish (s : Projecting τ ω) (worker : ω) (stream : Stream) (answer : Option (Except ProjectionError (ProjectionSummary × Bool))) :
    Projecting τ ω :=
  { s.moveTo worker (.finished stream answer) with
    locks := if (s.phase worker).holding = some stream then Function.update s.locks stream none else s.locks }

def begin (s : Projecting τ ω) (worker : ω) (stream : Stream) (onlyIfStale : Bool) (now : Int) : Projecting τ ω :=
  match s.phase worker with
  | .idle | .finished _ _ => s.moveTo worker (.begun stream onlyIfStale now)
  | _ => s

variable (fromSlice : Bytes → Option StructuralFact)

def commit (s : Projecting τ ω) (stream : Stream) (now : Int) (rows : List LedgerRecord) : Projecting τ ω × Option ProjectionSummary :=
  match s.projection.rebuild fromSlice stream now rows with
  | .ok (projection, lastPosition) => ({ s with projection }, some (projection.summary stream lastPosition))
  | .error _ => (s, none)

def step (s : Projecting τ ω) (worker : ω) : Projecting τ ω :=
  match s.phase worker with
  | .idle | .finished _ _ => s
  | .begun stream onlyIfStale now =>
    match s.locks stream with
    -- Another worker has the stream: this one waits.
    | some _ => s
    | none => { s.moveTo worker (.locked stream onlyIfStale now) with locks := Function.update s.locks stream (some worker) }
  | .locked stream false now => s.moveTo worker (.cleared stream now)
  | .locked stream true now =>
    match s.projection.current s.appends.ledger stream with
    | some summary => s.moveTo worker (.current stream summary)
    | none => s.moveTo worker (.cleared stream now)
  | .current stream summary => s.finish worker stream (some (.ok (summary, false)))
  | .cleared stream now => s.moveTo worker (.read stream now (s.appends.ledger.structuralRecords stream))
  | .read stream now rows =>
    match s.projection.rebuild fromSlice stream now rows with
    | .error error => s.finish worker stream (some (.error error))
    | .ok _ => s.moveTo worker (.replayed stream now rows)
  | .replayed stream now rows =>
    let (after, summary) := s.commit fromSlice stream now rows
    after.finish worker stream (summary.map fun summary => .ok (summary, true))

def apply (s : Projecting τ ω) : ProjectionOp τ ω → Projecting τ ω
  | .append op => { s with appends := s.appends.apply op }
  | .rebuild worker stream now => s.begin worker stream false now
  | .scan worker =>
    match s.phase worker with
    | .idle | .finished _ _ =>
      { s with pass := Function.update s.pass worker (s.projection.staleProjections s.appends.ledger) }
    | _ => s
  | .next worker now =>
    match s.pass worker with
    | stream :: rest => { s.begin worker stream true now with pass := Function.update s.pass worker rest }
    | [] => s
  | .retry worker now =>
    match s.phase worker with
    | .finished stream (some (.error .database)) => s.begin worker stream true now
    | _ => s
  | .step worker => s.step fromSlice worker
  | .fail worker =>
    match (s.phase worker).stream? with
    | some stream => s.finish worker stream (some (.error .database))
    | none => s
  | .commitUnheard worker =>
    match s.phase worker with
    | .replayed stream now rows => (s.commit fromSlice stream now rows).1.finish worker stream none
    | _ => s

end Projecting

/-- Appends and rebuilds of any senders and workers, statement by statement. -/
def projecting (fromSlice : Bytes → Option StructuralFact) (τ ω : Type) [DecidableEq τ] [DecidableEq ω] :
    Machine (Projecting τ ω) (ProjectionOp τ ω) where
  start := ⟨(appends τ).start, .empty, fun _ => none, fun _ => .idle, fun _ => []⟩
  enabled _ _ := True
  apply := Projecting.apply fromSlice

end MindLeak.Ackplane
