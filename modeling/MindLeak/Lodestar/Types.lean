import MindLeak.Library.Table
import MindLeak.Library.Text

/-! The Intent Plane's rows: goals and constitution versions, tasks and their
event log, handoffs, conformance records and ledger acts. Times are Unix
seconds; JSON columns hold the value they encode. -/

namespace MindLeak.Lodestar

inductive LodestarError where
  | sqlite (message : String)
  | json (message : String)
  | notFound (what : String)
  | invalid (message : String)
  | federated (message : String)
  /-- No error of the source: marks a loop that would not return. -/
  | neverReturns
  deriving DecidableEq

inductive GoalKind where
  | objective | constraint | invariant | principle
  deriving DecidableEq

/-- Constraints and invariants are what conformance checks against. -/
def GoalKind.isNormative : GoalKind → Bool
  | .constraint | .invariant => true
  | .objective | .principle => false

def GoalKind.asStr : GoalKind → String
  | .objective => "objective"
  | .constraint => "constraint"
  | .invariant => "invariant"
  | .principle => "principle"

inductive Consequence where
  | advise | review | block
  deriving DecidableEq

inductive ClauseOrigin where
  | «local» | pack | discovered
  deriving DecidableEq

inductive GoalStatus where
  | draft | active | superseded
  deriving DecidableEq

def GoalStatus.asStr : GoalStatus → String
  | .draft => "draft"
  | .active => "active"
  | .superseded => "superseded"

inductive ArtifactBindingMode where
  | governed | forbidChange
  deriving DecidableEq

structure ConstitutionVersion where
  id : String
  version : Int
  projectIdentity : Option String := none
  purpose : Option String := none
  preamble : Option String := none
  status : GoalStatus
  createdBy : Option String
  createdAt : Int
  activatedBy : Option String := none
  activatedAt : Option Int := none
  deriving DecidableEq

structure Goal where
  (id slug : String)
  kind : GoalKind
  (title statement : String)
  status : GoalStatus
  version : Int
  (parentId supersededBy reason : Option String)
  createdAt : Int
  (constitutionVersion rationale scope evidenceContract : Option String)
  consequence : Option Consequence
  waivable : Bool
  waiverAuthority : Option String
  origin : ClauseOrigin
  (sourceSystem externalId sourceRef sourceDigest : Option String)
  deriving DecidableEq

/-- The goals table keeps two columns the clause itself does not carry. -/
structure GoalRow extends Goal where
  supersededAt : Option Int := none
  supersededByAgent : Option String := none

structure GoalArtifact where
  (goalId nodeId : String)
  mode : ArtifactBindingMode
  deriving DecidableEq

structure ArtifactBinding where
  goal : Goal
  mode : ArtifactBindingMode

inductive WaiverStatus where
  | active | revoked
  deriving DecidableEq

structure Waiver where
  (id clauseId : String)
  constitutionVersion : Option String
  (scope reason approvedBy : String)
  (createdAt expiresAt : Int)
  remediationTaskId : Option String
  status : WaiverStatus
  revokedBy : Option String := none
  revokedAt : Option Int := none
  revocationReason : Option String := none
  deriving DecidableEq

inductive TaskStatus where
  | «open» | claimed | needsInput | paused | inReview | done | blocked | abandoned
  deriving DecidableEq

def TaskStatus.asStr : TaskStatus → String
  | .open => "open"
  | .claimed => "claimed"
  | .needsInput => "needs_input"
  | .paused => "paused"
  | .inReview => "in_review"
  | .done => "done"
  | .blocked => "blocked"
  | .abandoned => "abandoned"

structure Task where
  (id goalId : String)
  parentTaskId : Option String
  (title acceptance : String)
  status : TaskStatus
  owner : Option String
  (claimStartedAt leaseExpiresAt : Option Int)
  (blockedBy branch : Option String)
  parkedAt : Option Int
  resolvedBy : Option String
  (resolvedAt resolvedConformanceId : Option Int)
  (createdAt updatedAt : Int)
  deriving DecidableEq

inductive TaskEventKind where
  | imported | created | claimed | leaseRenewed | released | blocked | reopened | abandoned
  | questioned | answered | paused | resumed | claimRecovered | coverageDeclared
  | conformanceRecorded | resolved | clauseReconnected
  deriving DecidableEq

inductive Verdict where
  | aligned | drift | violation | needsHuman
  deriving DecidableEq

def Verdict.asStr : Verdict → String
  | .aligned => "aligned"
  | .drift => "drift"
  | .violation => "violation"
  | .needsHuman => "needs_human"

/-- The JSON context an event carries, one constructor a shape the store writes. -/
inductive EventDetail where
  | empty
  | reason (text : String)
  | imported (claimLapses unleasedSeconds : Int)
  | leaseSecs (secs : Int)
  | renewal (leaseSecs : Int) (heartbeat : Bool)
  | audience (agent : String)
  | recovered (fromOwner : String) (fromStatus : TaskStatus) (reason : String) (reviewer : Option String)
  | coverage (alsoServes : List String)
  | reconnected (fromGoalId toGoalId : String)
  | verdict (verdict : Verdict) (conformanceId : Int)
  | overruled (conformanceId : Int) (verdict : Verdict)
  | unblockedBy (predecessorId : String)
  | federated (claimLapses : Option Int) (audience : Option String)
  deriving DecidableEq

structure TaskEvent where
  /-- Total order of application, assigned by the database. -/
  seq : Nat
  taskId : String
  kind : TaskEventKind
  actor : Option String
  recordedAt : Int
  after : Task
  detail : EventDetail
  deriving DecidableEq

/-- One recorded ownership recovery. -/
structure ClaimTransfer where
  id : Nat
  (taskId fromOwner toOwner recoveredBy reason fromStatus : String)
  (fromClaimStartedAt fromLeaseExpiresAt fromParkedAt : Option Int)
  (toClaimStartedAt transferredAt : Int)

inductive QaKind where
  | question | answer | note
  deriving DecidableEq

structure TaskQa where
  taskId : String
  kind : QaKind
  (body author : String)
  audience : Option String
  createdAt : Int

inductive ScopeKind where
  | path | symbol
  deriving DecidableEq

structure TaskScopeRow where
  taskId : String
  kind : ScopeKind
  value : String

structure GoalCoverage where
  (taskId goalId : String)
  declaredAt : Int

structure Handoff where
  (predecessorId successorId : String)
  createdAt : Int

structure SessionContext where
  branch : Option String := none
  headSha : Option String := none
  base : Option String := none
  dirty : Option Bool := none
  behind : Option Int := none

structure SessionRow where
  agentId : String
  context : SessionContext
  declaredAt : Int

structure EvidenceProvenance where
  (sourceId targetId relation : String)
  deriving DecidableEq

/-- Evidence received across the loose seam between the two planes. -/
structure ConformanceEvidence where
  schemaVersion : Nat
  taskId : Option String
  agentId : String
  (startedAt endedAt : Int)
  (changedNodeIds failedNodeIds executionIds successfulExecutionIds commitIds : List String)
  ledgerActIds : List String
  summary : String
  provenance : List EvidenceProvenance
  deriving DecidableEq

structure ConformanceRecord where
  id : Int
  taskId : Option String
  evidenceSchemaVersion : Nat
  evidence : ConformanceEvidence
  verdict : Verdict
  findings : String
  findingsJson : Option (List String)
  checkedAt : Int
  deriving DecidableEq

structure ConformanceResult where
  verdict : Verdict
  findings : List String
  deriving DecidableEq

/-- What a preflight hands out and a completion must hand back. -/
structure ConformanceCheck where
  id : Int
  token : String
  verdict : Verdict
  findings : List String
  deriving DecidableEq

instance : Row ConstitutionVersion String := ⟨ConstitutionVersion.id⟩
instance : Row GoalRow String := ⟨fun goal => goal.id⟩
instance : Row GoalArtifact (String × String) := ⟨fun row => (row.goalId, row.nodeId)⟩
instance : Row Waiver String := ⟨Waiver.id⟩
instance : Row Task String := ⟨Task.id⟩
instance : Row TaskScopeRow (String × ScopeKind × String) := ⟨fun row => (row.taskId, row.kind, row.value)⟩
instance : Row GoalCoverage (String × String) := ⟨fun row => (row.taskId, row.goalId)⟩
instance : Row Handoff String := ⟨Handoff.predecessorId⟩
instance : Row SessionRow String := ⟨SessionRow.agentId⟩
instance : Row ConformanceRecord Int := ⟨ConformanceRecord.id⟩

end MindLeak.Lodestar
