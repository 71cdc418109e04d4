import MindLeak.Core.Consolidate
import MindLeak.Core.Signal
import MindLeak.Core.Structure
import MindLeak.Library.Statements

/-! Reaping faded signal: what has faded is read statement by statement, and deleted in one transaction. -/

namespace MindLeak.Core

/-- Proven signal approaching expiry, ready for consolidation. -/
structure ExpiringSignal extends SignalCandidate where
  (effective signalMultiplier : Rat)
  evidence : SignalEvidence

structure PruneOutcome where
  (edgesRemoved nodesRemoved : Nat)
  signalCandidates : List ExpiringSignal

namespace Prune
variable (math : FloatMath) (settings : GraphSettings)

def weighed (g : Graph) (raw : EdgeRow) (now : Int) : WeightedEdge := weightedEdge (m := Id) (fun view => view g) math settings raw now

def isCandidate (edge : WeightedEdge) : Bool :=
  decide (1 < edge.signalMultiplier ∧ edge.effective < settings.decayPolicy.pruneThreshold * 2)

def candidate (edge : WeightedEdge) : ExpiringSignal where
  sourceId := edge.sourceId
  targetId := edge.targetId
  relation := edge.relation
  reinforcementCount := edge.signalEvidence.reinforcementCount
  updatedAt := edge.updatedAt
  effective := edge.effective
  signalMultiplier := edge.signalMultiplier
  evidence := edge.signalEvidence

/-- One read: the edges are still being read when their evidence is. -/
def expiringSignalCandidates (g : Graph) (now : Int) : List ExpiringSignal :=
  ((((g.edges.rows.filter fun raw => raw.key.relation.isEpisodic).map fun raw => weighed math settings g raw now).filter
    (isCandidate settings)).map candidate).insertionSort fun left right => left.effective ≤ right.effective

def staleEdges (shielded : List EdgeKey) (now : Int) : List EdgeRow → Statements Graph MindLeakError (List EdgeKey)
  | [] => pure []
  | raw :: rest => do
    let edge ← weightedEdge Statements.query math settings raw now
    let stale ← staleEdges shielded now rest
    pure (if edge.effective < settings.decayPolicy.pruneThreshold ∧ raw.key ∉ shielded then raw.key :: stale else stale)

def deleteStale (stale : List EdgeKey) (g : Graph) : Nat × Graph :=
  stale.foldl (fun (removed, g) key =>
    (removed + (g.edges.rows.filter fun row => decide (row.key = key)).length, g.deleteEdges fun row => decide (row.key = key))) (0, g)

/-- The transaction: how many edges and nodes it deletes, and what it leaves. -/
def deleteFaded (stale : List EdgeKey) (g : Graph) : (Nat × Nat) × Graph :=
  let (edgesRemoved, g) := deleteStale stale g
  let (executionsRemoved, g) := g.reapCounted fun node => decide (node.nodeType = .execution)
  let (symbolsRemoved, g) := g.reapCounted fun node => decide (node.nodeType = .symbol ∨ node.nodeType = .package)
  -- `delete_orphan_artifact_stubs`.
  let (stubsRemoved, g) := g.reapCounted fun node => (g.artifactStubs.find? node.id).isSome
  ((edgesRemoved, executionsRemoved + symbolsRemoved + stubsRemoved), g)

def pruneWithSignal (now : Int) : Statements Graph MindLeakError PruneOutcome := do
  let signalCandidates ← Statements.query (expiringSignalCandidates math settings · now)
  let rawEdges ← Statements.query (·.edges.rows)
  let stale ← staleEdges math settings (signalCandidates.map (·.key)) now rawEdges
  let (edgesRemoved, nodesRemoved) ← Statements.execute fun g => .ok (deleteFaded stale g)
  pure { edgesRemoved, nodesRemoved, signalCandidates }

end Prune

inductive GraphCall where
  | prune (settings : GraphSettings) (now : Int)
  | other (statements : Statements Graph MindLeakError Unit)

def GraphCall.program (math : FloatMath) : GraphCall → Statements Graph MindLeakError (Option PruneOutcome)
  | .prune settings now => do
    let outcome ← Prune.pruneWithSignal math settings now
    pure (some outcome)
  | .other statements => do
    statements
    pure none

end MindLeak.Core
