import Mathlib.Data.String.Basic
import MindLeak.Library.SortedMap
import MindLeak.Lodestar.Waivers

/-! Which active clauses govern a set of changed nodes, sorted by how each
relates to the covering task. -/

namespace MindLeak.Lodestar

/-- Markdown and the root meta files never drive a drift verdict. -/
def isDocumentationNode (nodeId : String) : Bool :=
  let path := ((Text.stripPrefix? "artifact:" nodeId).getD nodeId).toList
  let file := (path.reverse.takeWhile fun c => decide (c ≠ '/')).reverse
  (Text.stripSuffix? ".md" (Text.asciiLower (String.ofList path))).isSome ||
    decide (file = "LICENSE".toList) || decide (file = "CODEOWNERS".toList)

structure GoverningClauses where
  forbid : List (String × Goal) := []
  inScope : List (String × Goal) := []
  other : List (String × Goal) := []
  reliedOnCoverage : List String := []

namespace Store

def activeBindingsForNode (s : Store) (nodeId : String) : List ArtifactBinding :=
  s.goalArtifacts.rows.filterMap fun binding =>
    if binding.nodeId = nodeId then
      match (s.goals.find? binding.goalId).filter fun goal => decide (goal.status = .active) with
      | some goal => some ⟨goal.toGoal, binding.mode⟩
      | none => none
    else none

end Store

def GoverningClauses.classify (taskSlug : Option String) (covered : List String) (node : String)
    (resolved : GoverningClauses) (binding : ArtifactBinding) : GoverningClauses :=
  if binding.mode = .forbidChange then { resolved with forbid := resolved.forbid ++ [(node, binding.goal)] }
  else if taskSlug = some binding.goal.slug then
    { resolved with inScope := resolved.inScope ++ [(node, binding.goal)] }
  else if covered.any fun c => decide (goalSlug c = binding.goal.slug) then
    { resolved with
      reliedOnCoverage := resolved.reliedOnCoverage ++ [binding.goal.id]
      inScope := resolved.inScope ++ [(node, binding.goal)] }
  else if isDocumentationNode node then resolved
  else { resolved with other := resolved.other ++ [(node, binding.goal)] }

def Store.resolveGoverningClausesCovering (s : Store) (nodeIds : List String) (taskGoalId : Option String)
    (covered : List String) : GoverningClauses :=
  let resolved := nodeIds.foldl (fun resolved node =>
    (s.activeBindingsForNode node).foldl (GoverningClauses.classify (taskGoalId.map goalSlug) covered node) resolved) {}
  { resolved with reliedOnCoverage := sortDedup resolved.reliedOnCoverage }

/-! What a submitted bundle must show: its shape, its claim window, and which
of the store's own acts may stand in for a code change. -/

def MAX_EVIDENCE_EVENTS : Nat := 200

def MAX_EVIDENCE_PROVENANCE : Nat := 1000

def MAX_EVIDENCE_SUMMARY_BYTES : Nat := 4096

namespace ConformanceEvidence

def observed (evidence : ConformanceEvidence) (eventId : String) : Bool :=
  evidence.provenance.any fun fact =>
    decide (fact.sourceId = "agent:" ++ evidence.agentId) && decide (fact.targetId = eventId) &&
      decide (fact.relation = "observed")

def mutated (evidence : ConformanceEvidence) (nodeId : String) : Bool :=
  evidence.provenance.any fun fact =>
    decide (fact.targetId = nodeId) && (decide (fact.relation = "modified") || decide (fact.relation = "refactored")) &&
      (decide (fact.sourceId ∈ evidence.executionIds) || decide (fact.sourceId ∈ evidence.commitIds))

def failedOn (evidence : ConformanceEvidence) (nodeId : String) : Bool :=
  evidence.provenance.any fun fact =>
    decide (fact.targetId = nodeId) && decide (fact.relation = "failed_on") &&
      decide (fact.sourceId ∈ evidence.executionIds)

end ConformanceEvidence

def requireEach (values : List String) (check : String → Bool) (message : String → String) : Result Unit :=
  match values.find? fun value => !check value with
  | some value => .error (.invalid (message value))
  | none => .ok ()

def validateEvidenceShape (evidence : ConformanceEvidence) : Result Unit := do
  if evidence.schemaVersion ≠ 1 then
    let version := evidence.schemaVersion
    throw (.invalid s!"unsupported evidence schema version {version}")
  if evidence.endedAt < evidence.startedAt then throw (.invalid "evidence start must not be after its end")
  if Text.isBlank evidence.agentId then throw (.invalid "evidence agent must not be empty")
  if MAX_EVIDENCE_EVENTS < evidence.executionIds.length ∨ MAX_EVIDENCE_EVENTS < evidence.commitIds.length ∨
      MAX_EVIDENCE_PROVENANCE < evidence.provenance.length ∨
      MAX_EVIDENCE_SUMMARY_BYTES < evidence.summary.utf8ByteSize then
    throw (.invalid "evidence exceeds the bounded ADR-0009 contract")
  if !evidence.successfulExecutionIds.all fun id => decide (id ∈ evidence.executionIds) then
    throw (.invalid "successful executions must be included in execution_ids")
  requireEach (evidence.executionIds ++ evidence.commitIds) evidence.observed
    fun id => s!"event {id} lacks agent observation provenance"
  requireEach evidence.changedNodeIds evidence.mutated
    fun id => s!"changed node {id} lacks mutation provenance"
  requireEach evidence.failedNodeIds evidence.failedOn
    fun id => s!"failed node {id} lacks failure provenance"

def EventDetail.transferTexts : EventDetail → String × String × String
  | .recovered fromOwner fromStatus why _ => (fromOwner, fromStatus.asStr, why)
  | _ => ("", "", "")

/-- What a recovery took its claim from is the after-image of the event before. -/
def TaskEvent.transfer (event : TaskEvent) (previous : Option TaskEvent) : ClaimTransfer :=
  let (fromOwner, fromStatus, reason) := event.detail.transferTexts
  { id := event.seq
    taskId := event.taskId
    fromOwner
    toOwner := event.after.owner.getD ""
    recoveredBy := event.actor.getD ""
    reason
    fromStatus
    fromClaimStartedAt := previous.bind fun e => e.after.claimStartedAt
    fromLeaseExpiresAt := previous.bind fun e => e.after.leaseExpiresAt
    fromParkedAt := previous.bind fun e => e.after.parkedAt
    toClaimStartedAt := event.after.claimStartedAt.getD event.recordedAt
    transferredAt := event.recordedAt }

def loggedTransfers : Option TaskEvent → List TaskEvent → List ClaimTransfer
  | _, [] => []
  | previous, event :: rest =>
    if event.kind = .claimRecovered then event.transfer previous :: loggedTransfers (some event) rest
    else loggedTransfers (some event) rest

/-- Follow recoveries backwards from one holder. A chain longer than the
history has met a holder twice, and the source's loop would not end. -/
def authorisingStart (history : List ClaimTransfer) : Nat → String → Option Int → Result (Option Int)
  | 0, _, _ => .error .neverReturns
  | steps + 1, holder, earliest =>
    match history.reverse.find? fun transfer => decide (transfer.toOwner = holder) with
    | none => .ok earliest
    | some transfer =>
      let earliest := transfer.fromClaimStartedAt.or earliest
      if history.all fun other => decide (other.toOwner ≠ transfer.fromOwner) then .ok earliest
      else authorisingStart history steps transfer.fromOwner earliest

namespace Store

/-- The archive and the log, oldest first. -/
def claimTransferHistory (s : Store) (taskId : String) : List ClaimTransfer :=
  ((s.claimTransfers.filter fun transfer => decide (transfer.taskId = taskId)) ++
    loggedTransfers none (s.eventsOf taskId)).insertionSort fun left right => left.transferredAt ≤ right.transferredAt

def authorisingWindowStart (s : Store) (taskId owner : String) : Result (Option Int) :=
  let history := s.claimTransferHistory taskId
  let current := (s.getTask taskId).bind fun task => if task.owner = some owner then task.claimStartedAt else none
  authorisingStart history (history.length + 1) owner current

def validateClaimEvidence (s : Store) (task : Task) (agent : String) (evidence : ConformanceEvidence) (now : Int) :
    Result Unit := do
  validateEvidenceShape evidence
  if evidence.taskId ≠ some task.id then
    throw (.invalid "evidence task_id does not identify the claimed task")
  if evidence.agentId ≠ agent ∨ task.owner ≠ some agent then
    throw (.invalid "evidence agent does not own the task")
  if task.status ≠ .claimed ∨ !live now task then throw (.invalid "task does not have a live claim")
  match task.claimStartedAt with
  | none => throw (.invalid "task claim has no evidence-window start")
  | some claimStartedAt =>
    let authorised ← s.authorisingWindowStart task.id agent
    let start := min (authorised.getD claimStartedAt) claimStartedAt
    if evidence.startedAt < start ∨ now < evidence.endedAt ∨
        task.leaseExpiresAt.getD evidence.endedAt < evidence.endedAt then
      throw (.invalid "evidence interval falls outside the live claim")

end Store

inductive LedgerActKind where
  | designRegistered | designDecided | waiverGranted | constitutionAmended | goalSuperseded

def LedgerActKind.asStr : LedgerActKind → String
  | .designRegistered => "design_registered"
  | .designDecided => "design_decided"
  | .waiverGranted => "waiver_granted"
  | .constitutionAmended => "constitution_amended"
  | .goalSuperseded => "goal_superseded"

def ledgerActId (kind : LedgerActKind) (actId : String) : String :=
  "ledger_act:" ++ kind.asStr ++ ":" ++ actId

def resolveAgent (supplied : String) : Result String :=
  let agent := Text.trim supplied
  if agent.isEmpty then .error (.invalid "a registered session agent is required") else .ok agent

namespace Store

def recordedAct (s : Store) (kind : LedgerActKind) (actId : String) : Result (String × Int) :=
  match kind with
  | .designRegistered =>
    match s.designItems.find? actId with
    | none => .error (.notFound actId)
    | some item =>
      match item.proposedBy with
      | none => .error (.invalid s!"{actId} has no recorded proposer to verify against")
      | some actor => .ok (actor, item.createdAt)
  | .designDecided =>
    match s.designItems.find? actId with
    | none => .error (.notFound actId)
    | some item =>
      match item.decidedBy with
      | none => .error (.invalid s!"{actId} has not been decided yet, so it has no recorded decider")
      | some actor => .ok (actor, item.updatedAt)
  | .waiverGranted =>
    match s.waivers.find? actId with
    | none => .error (.notFound actId)
    | some waiver => .ok (waiver.approvedBy, waiver.createdAt)
  | .constitutionAmended =>
    match s.amendments.find? actId with
    | none => .error (.notFound actId)
    | some amendment => .ok (amendment.amendedBy, amendment.createdAt)
  | .goalSuperseded =>
    match s.goals.find? actId with
    | none => .error (.notFound actId)
    | some goal =>
      match goal.supersededByAgent, goal.supersededAt with
      | some agent, some occurredAt => .ok (agent, occurredAt)
      | _, _ => .error (.invalid (s!"{actId} has no recorded supersession to verify against; it is either " ++
          "still active or was superseded before the actor was recorded (ADR-0144)"))

def ledgerActEvidence (s : Store) (taskId : String) (kind : LedgerActKind) (actId agent : String) (now : Int) :
    Result ConformanceEvidence := do
  let agent ← resolveAgent agent
  match s.getTask taskId with
  | none => throw (.notFound taskId)
  | some task =>
    if task.owner ≠ some agent then
      throw (.invalid (s!"{taskId} is not held by {agent}; a ledger act proves who performed it, " ++
        "not who may claim credit for it"))
    let (recordedActor, occurredAt) ← s.recordedAct kind actId
    if recordedActor ≠ agent then
      throw (.invalid (s!"{actId}'s recorded actor {recordedActor} does not match {agent}; " ++
        "a ledger act is evidence only for the agent who actually performed it"))
    let claimStartedAt := task.claimStartedAt.getD occurredAt
    if occurredAt < claimStartedAt then
      throw (.invalid (s!"{actId} was recorded at {occurredAt}, before the claim opened at " ++
        s!"{claimStartedAt}; it cannot be evidence for work this claim did not yet authorise"))
    let kindTag := kind.asStr
    return {
      schemaVersion := 1
      taskId := some taskId
      agentId := agent
      startedAt := claimStartedAt
      endedAt := now
      changedNodeIds := []
      failedNodeIds := []
      executionIds := []
      successfulExecutionIds := []
      commitIds := []
      ledgerActIds := [ledgerActId kind actId]
      summary := s!"agent={agent}; verified ledger act {kindTag} ({actId})"
      provenance := [⟨"agent:" ++ agent, ledgerActId kind actId, "observed"⟩] }

end Store

/-! The append-only log read back: the projection that should be the task
table, and the continuity of a task's current evidence window. -/

/-- The log replayed in order: the last after-image of a task wins. -/
def projectEvents (events : List TaskEvent) : List (String × Task) :=
  events.foldl (fun projected event => SortedMap.insert event.taskId event.after projected) []

/-- Rebuild task state purely from the log, ordered by id. -/
def Store.projectTasks (s : Store) : List Task := (projectEvents s.taskEvents).map Prod.snd

structure ReplacedWindow where
  owner : Option String
  startedAt : Option Int
  (lapses unleasedSeconds : Int)
  ownerChanged : Bool

structure ClaimWindow where
  startedAt : Option Int
  (lapses unleasedSeconds : Int)
  replaced : Option ReplacedWindow

def ClaimWindow.isContinuous (window : ClaimWindow) : Bool := decide (window.lapses = 0)

abbrev WindowKey := Option String × Option Int

def Task.windowKey (task : Task) : WindowKey := (task.owner, task.claimStartedAt)

structure Displaced where
  owner : Option String
  startedAt : Option Int
  (lapses unleased : Int)

/-- The fold's accumulator. -/
structure WindowScan where
  window : Option WindowKey := none
  lapses : Int := 0
  unleased : Int := 0
  previousLease : Option Int := none
  replaced : Option ReplacedWindow := none
  /-- Displaced by a release, waiting for whatever takes over. -/
  pending : Option Displaced := none

namespace WindowScan

def displace (scan : WindowScan) (key : WindowKey) : WindowScan :=
  match scan.window with
  | none => scan
  | some (previousOwner, previousStarted) =>
    let displaced := if previousOwner.isSome
      then some ⟨previousOwner, previousStarted, scan.lapses, scan.unleased⟩ else scan.pending
    let pending := if previousOwner.isSome then scan.pending else none
    match key.1, displaced with
    | some _, some held =>
      { scan with
        pending
        replaced := some ⟨held.owner, held.startedAt, held.lapses, held.unleased, decide (held.owner ≠ key.1)⟩ }
    | none, held => { scan with pending := held }
    | some _, none => { scan with pending }

/-- A re-claim inside a window it did not open means the lease ran out first. -/
def countLapse (scan : WindowScan) (recordedAt : Int) : WindowScan :=
  match scan.previousLease with
  | none => scan
  | some expiredAt =>
    if expiredAt < recordedAt then
      { scan with lapses := scan.lapses + 1, unleased := scan.unleased + (recordedAt - expiredAt) }
    else scan

def step (scan : WindowScan) (event : TaskEvent) : WindowScan :=
  let key := event.after.windowKey
  let counted :=
    if event.kind = .imported then
      match event.detail with
      | .imported lapses unleased => { scan with lapses, unleased }
      | _ => { scan with lapses := 0, unleased := 0 }
    else if scan.window ≠ some key then { scan.displace key with lapses := 0, unleased := 0 }
    else if event.kind = .claimed then scan.countLapse event.recordedAt
    else scan
  { counted with window := some key, previousLease := event.after.leaseExpiresAt }

end WindowScan

namespace Store

def claimWindow (s : Store) (taskId : String) : ClaimWindow :=
  let scan := (s.eventsOf taskId).foldl WindowScan.step {}
  ⟨scan.window.bind Prod.snd, scan.lapses, scan.unleased, scan.replaced⟩

end Store
end MindLeak.Lodestar
