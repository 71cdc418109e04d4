import MindLeak.Ackplane.Directive
import MindLeak.Library.Runs

/-! The durable inbox of a supervisor's session, with the process that owns it: one operation at a
time, which a failing statement or the end of the process can cut short between any two commits. -/

namespace MindLeak.Ackplane

structure SupervisorIdentity where
  (tenantId repositoryId nodeId : String)
  deriving DecidableEq

structure SupervisorRegistration where
  supervisorId : String
  identity : SupervisorIdentity
  (supervisorVersion protocolVersion : String)
  capabilities : SupervisorCapabilities
  deriving DecidableEq

inductive SupervisorRuntime where
  | localMachine | cloudWorker | pipeline | service
  deriving DecidableEq

inductive SupervisorWorkerState where
  | started | checkpointed | paused | draining | terminated | failed | disconnected | reconnected | completed
  deriving DecidableEq

structure SupervisorSession where
  (sessionId supervisorId workerId : String)
  runtime : SupervisorRuntime
  startedAt : Int
  state : SupervisorWorkerState
  deriving DecidableEq

def SupervisorError.requireNonEmpty (field value : String) : Except SupervisorError Unit :=
  refuseIf (Text.isBlank value = true) (.emptyField field)

def SupervisorIdentity.validate (identity : SupervisorIdentity) : Except SupervisorError Unit :=
  [("tenant_id", identity.tenantId), ("repository_id", identity.repositoryId), ("node_id", identity.nodeId)].forM
    fun (field, value) => SupervisorError.requireNonEmpty field value

def SupervisorRegistration.validate (registration : SupervisorRegistration) : Except SupervisorError Unit := do
  SupervisorError.requireNonEmpty "supervisor_id" registration.supervisorId
  SupervisorError.requireNonEmpty "supervisor_version" registration.supervisorVersion
  SupervisorError.requireNonEmpty "protocol_version" registration.protocolVersion
  registration.identity.validate
  registration.capabilities.validate

def SupervisorSession.validate (session : SupervisorSession) : Except SupervisorError Unit :=
  [("session_id", session.sessionId), ("supervisor_id", session.supervisorId), ("worker_id", session.workerId)].forM
    fun (field, value) => SupervisorError.requireNonEmpty field value

inductive AdapterError where
  | invalidAssignment (reason : String)
  | unknownWorker (workerId : String)
  | duplicateWorker (workerId : String)
  | spawnFailed (reason : String)
  | stopFailed (reason : String)
  | waitFailed (reason : String)
  | unsupported (control : String)

namespace AdapterError

def text : AdapterError → String
  | .invalidAssignment reason => "invalid worker assignment: " ++ reason
  | .unknownWorker workerId => "worker " ++ workerId ++ " is not registered with this adapter"
  | .duplicateWorker workerId => "worker " ++ workerId ++ " is already registered"
  | .spawnFailed reason => "failed to start worker: " ++ reason
  | .stopFailed reason => "failed to stop worker process group: " ++ reason
  | .waitFailed reason => "failed to wait for worker process group: " ++ reason
  | .unsupported control => "this adapter cannot honestly enforce " ++ control ++ " for a generic process worker"

def status : AdapterError → V1.DirectiveReceiptStatus
  | .spawnFailed _ | .stopFailed _ | .waitFailed _ => .failed
  | .invalidAssignment _ | .unknownWorker _ | .duplicateWorker _ | .unsupported _ => .refused

end AdapterError

inductive InboxError where
  | missingSession
  | supervisor (error : SupervisorError)
  | sessionSupervisorMismatch
  | database
  | targetMismatch (directiveId : String)
  | emptyField (field : String)
  | missingPayloadDigest (directiveId : String)
  | unsupportedDirective (directiveId : String)
  | requiredCapabilityMismatch (directiveId expected actual : String)
  | invalidExpiry (directiveId : String)
  | sequenceMustBePositive (directiveId : String)
  | sequenceOutOfRange (directiveId : String)
  | sequenceGap (directiveId : String) (expected received : Nat)
  | payloadDigestMismatch (directiveId : String)
  | clockOutOfRange
  | inboxIdentityMismatch

structure StoredReceipt where
  payloadDigest : Bytes
  (directiveId tenantId projectId repositoryId nodeId agentSessionId : String)
  sequence : Nat
  (status reason : Int)
  occurredAt : String
  deriving DecidableEq

instance : Row StoredReceipt String := ⟨StoredReceipt.directiveId⟩

def StoredReceipt.intoReceipt (stored : StoredReceipt) : V1.DirectiveReceipt where
  directiveId := stored.directiveId
  tenantId := stored.tenantId
  projectId := stored.projectId
  repositoryId := stored.repositoryId
  nodeId := stored.nodeId
  agentSessionId := stored.agentSessionId
  status := stored.status
  reason := stored.reason
  occurredAt := stored.occurredAt
  payloadDigest := stored.payloadDigest
  checkpointRefs := []
  evidenceRefs := []
  directiveSequence := stored.sequence
  diagnostic := ""
  outboxSequence := none

structure StoredEffect where
  directiveId : String
  receipt : V1.DirectiveReceipt

instance : Row StoredEffect String := ⟨StoredEffect.directiveId⟩

structure InboxBinding where
  identity : SupervisorIdentity
  (supervisorId sessionId : String)
  session : Option SupervisorSession

structure InboxTables where
  binding : Option InboxBinding
  receipts : Table StoredReceipt
  effects : Table StoredEffect

structure SupervisorInbox where
  registration : SupervisorRegistration
  session : SupervisorSession

namespace InboxTables

def empty : InboxTables := ⟨none, .empty, .empty⟩

def ensureSupervisorIdentity (tables : InboxTables) (registration : SupervisorRegistration) (session : SupervisorSession) :
    Except InboxError InboxTables :=
  match tables.binding with
  | none => .ok { tables with binding := some ⟨registration.identity, registration.supervisorId, session.sessionId, some session⟩ }
  | some bound =>
    if bound.identity ≠ registration.identity ∨ bound.supervisorId ≠ registration.supervisorId ∨ bound.sessionId ≠ session.sessionId then
      .error .inboxIdentityMismatch
    else
      match bound.session with
      | none => .error .missingSession
      | some stored =>
        -- A session that differs in its start alone is bound too, but it is not the one that was asked for.
        if stored = session then .ok tables else .error .inboxIdentityMismatch

def nextSequence (tables : InboxTables) : Except InboxError Nat :=
  let last := (tables.receipts.rows.map StoredReceipt.sequence).foldr max 0
  -- Beyond its integers the database counts on in floating point, which cannot be read back.
  if last < 9223372036854775807 then .ok (last + 1) else .error .database

def storeEffect (tables : InboxTables) (directiveId : String) (receipt : V1.DirectiveReceipt) : InboxTables :=
  { tables with effects := tables.effects.put ⟨directiveId, receipt⟩ }

def receiptOf (tables : InboxTables) (stored : StoredReceipt) : V1.DirectiveReceipt :=
  match tables.effects.find? stored.directiveId with
  | some effect => effect.receipt
  | none => stored.intoReceipt

end InboxTables

namespace SupervisorInbox

def fromConnection (tables : InboxTables) (registration : SupervisorRegistration) (session : SupervisorSession) :
    Except InboxError (SupervisorInbox × InboxTables) := do
  registration.validate.mapError .supervisor
  session.validate.mapError .supervisor
  refuseIf (session.supervisorId ≠ registration.supervisorId) .sessionSupervisorMismatch
  let bound ← tables.ensureSupervisorIdentity registration session
  .ok (⟨registration, session⟩, bound)

def validateTarget (inbox : SupervisorInbox) (directive : V1.AgentDirective) : Except InboxError Unit :=
  let identity := inbox.registration.identity
  refuseIf (directive.tenantId ≠ identity.tenantId ∨ directive.repositoryId ≠ identity.repositoryId ∨
    directive.targetNodeId ≠ identity.nodeId ∨ directive.targetAgentSessionId ≠ inbox.session.sessionId)
    (.targetMismatch directive.directiveId)

def receiptFor (inbox : SupervisorInbox) (directive : V1.AgentDirective) (status : V1.DirectiveReceiptStatus)
    (reason : V1.DirectiveReceiptReason) (occurredAt : String) : StoredReceipt where
  payloadDigest := directive.payloadDigest
  directiveId := directive.directiveId
  tenantId := inbox.registration.identity.tenantId
  projectId := directive.projectId
  repositoryId := inbox.registration.identity.repositoryId
  nodeId := inbox.registration.identity.nodeId
  agentSessionId := inbox.session.sessionId
  sequence := directive.sequence
  status := status.asI32
  reason := reason.asI32
  occurredAt := occurredAt

/-- What is decided of a directive that is new: too late, beyond what was advertised, or accepted. -/
def decision (inbox : SupervisorInbox) (requirement : DirectiveRequirement) (expiresAt now : Int) :
    V1.DirectiveReceiptStatus × V1.DirectiveReceiptReason :=
  if expiresAt ≤ now then (.expired, .expired)
  else if requirement.capability ∉ inbox.registration.capabilities.supportedDirectives then (.refused, .capabilityMissing)
  else (.accepted, .none)

section
variable (platform : DirectivePlatform) (inbox : SupervisorInbox) (tables : InboxTables) (directive : V1.AgentDirective) (now : Int)

/-- The checks ahead of the transaction. -/
def admissible : Except InboxError Unit := do
  inbox.validateTarget directive
  refuseIf (Text.isBlank directive.directiveId = true) (.emptyField "directive_id")
  refuseIf (directive.payloadDigest = []) (.missingPayloadDigest directive.directiveId)
  match directivePayloadDigest platform directive with
  | none => .error (.unsupportedDirective directive.directiveId)
  | some digest => refuseIf (directive.payloadDigest ≠ digest) (.payloadDigestMismatch directive.directiveId)

def receiveNew : Except InboxError (V1.DirectiveReceipt × InboxTables) :=
  match directiveRequirement directive with
  | none => .error (.unsupportedDirective directive.directiveId)
  | some requirement => do
    refuseIf (directive.requiredCapability ≠ requirement.requiredCapability)
      (.requiredCapabilityMismatch directive.directiveId requirement.requiredCapability directive.requiredCapability)
    refuseIf (9223372036854775807 < directive.sequence) (.sequenceOutOfRange directive.directiveId)
    refuseIf (directive.sequence = 0) (.sequenceMustBePositive directive.directiveId)
    let expected ← tables.nextSequence
    refuseIf (directive.sequence ≠ expected) (.sequenceGap directive.directiveId expected directive.sequence)
    match platform.parseRfc3339 directive.expiresAt with
    | none => .error (.invalidExpiry directive.directiveId)
    | some expiresAt =>
      match platform.formatRfc3339 now with
      | none => .error .clockOutOfRange
      | some occurredAt =>
        let (status, reason) := inbox.decision requirement expiresAt now
        let stored := inbox.receiptFor directive status reason occurredAt
        .ok (stored.intoReceipt, { tables with receipts := tables.receipts.insertOrIgnore stored })

/-- `receive`, whose one transaction is committed or leaves everything. -/
def receive : Except InboxError (V1.DirectiveReceipt × InboxTables) := do
  inbox.admissible platform directive
  match tables.receipts.find? directive.directiveId with
  | some stored =>
    if stored.payloadDigest = directive.payloadDigest then .ok (tables.receiptOf stored, tables)
    else .error (.payloadDigestMismatch directive.directiveId)
  | none => inbox.receiveNew platform tables directive now

end

end SupervisorInbox

/-- What is written ahead of an effect: that it was tried. -/
def V1.DirectiveReceipt.unconfirmed (receipt : V1.DirectiveReceipt) (evidenceRefs : List String) : V1.DirectiveReceipt :=
  { receipt with
    status := V1.DirectiveReceiptStatus.failed.asI32
    reason := V1.DirectiveReceiptReason.supervisorFailed.asI32
    diagnostic := "Execution outcome was not confirmed; this directive must not be replayed into a second worker"
    evidenceRefs := evidenceRefs }

/-- What came of an effect. -/
def V1.DirectiveReceipt.conclude (receipt : V1.DirectiveReceipt) : Except AdapterError Unit → V1.DirectiveReceipt
  | .ok () =>
    { receipt with
      status := V1.DirectiveReceiptStatus.applied.asI32
      reason := V1.DirectiveReceiptReason.none.asI32
      diagnostic := "" }
  | .error error =>
    { receipt with
      status := error.status.asI32
      reason := V1.DirectiveReceiptReason.invalidState.asI32
      diagnostic := error.text }

/-- What the process is at. -/
inductive InboxPhase where
  | closed
  | ready (inbox : SupervisorInbox)
  /-- Within `apply`, behind its `receive`. -/
  | accepted (inbox : SupervisorInbox) (directive : V1.AgentDirective) (now : Int) (evidenceRefs : List String)
      (receipt : V1.DirectiveReceipt)
  /-- Within `apply`, before its effect. -/
  | recorded (inbox : SupervisorInbox) (directive : V1.AgentDirective) (now : Int) (receipt : V1.DirectiveReceipt)
  /-- Within `apply`, behind its effect. -/
  | ran (inbox : SupervisorInbox) (directive : V1.AgentDirective) (receipt : V1.DirectiveReceipt)

structure InboxState where
  tables : InboxTables
  phase : InboxPhase

inductive InboxOp where
  | «open» (registration : SupervisorRegistration) (session : SupervisorSession)
  | receive (directive : V1.AgentDirective) (now : Int)
  /-- An `apply` as far as its `receive` goes. -/
  | apply (directive : V1.AgentDirective) (now : Int) (evidenceRefs : List String)
  /-- The second transaction of `apply`. -/
  | record
  /-- The effect, and how it ends. -/
  | run (result : Except AdapterError Unit)
  /-- The last statement of `apply`. -/
  | report
  /-- The next statement fails, and with it what was asked for. -/
  | fail
  /-- The process ends. -/
  | crash

abbrev InboxAnswer : Type := Except InboxError V1.DirectiveReceipt

namespace InboxState

def empty : InboxState := ⟨.empty, .closed⟩

def step (platform : DirectivePlatform) (s : InboxState) (op : InboxOp) : InboxState × Option InboxAnswer :=
  match op, s.phase with
  | .open registration session, .closed =>
    match SupervisorInbox.fromConnection s.tables registration session with
    | .error error => (s, some (.error error))
    | .ok (inbox, tables) => (⟨tables, .ready inbox⟩, none)
  | .receive directive now, .ready inbox =>
    match inbox.receive platform s.tables directive now with
    | .error error => (s, some (.error error))
    | .ok (receipt, tables) => (⟨tables, .ready inbox⟩, some (.ok receipt))
  | .apply directive now evidenceRefs, .ready inbox =>
    match inbox.receive platform s.tables directive now with
    | .error error => (s, some (.error error))
    | .ok (receipt, tables) =>
      if receipt.status ≠ V1.DirectiveReceiptStatus.accepted.asI32 then (⟨tables, .ready inbox⟩, some (.ok receipt))
      else (⟨tables, .accepted inbox directive now evidenceRefs receipt⟩, none)
  | .record, .accepted inbox directive now evidenceRefs receipt =>
    match s.tables.effects.find? directive.directiveId with
    | some stored => (⟨s.tables, .ready inbox⟩, some (.ok stored.receipt))
    | none =>
      let failed := receipt.unconfirmed evidenceRefs
      (⟨s.tables.storeEffect directive.directiveId failed, .recorded inbox directive now failed⟩, none)
  | .run result, .recorded inbox directive _ receipt => (⟨s.tables, .ran inbox directive (receipt.conclude result)⟩, none)
  | .report, .ran inbox directive receipt =>
    (⟨s.tables.storeEffect directive.directiveId receipt, .ready inbox⟩, some (.ok receipt))
  | .fail, .closed => (s, some (.error .database))
  | .fail, .ready _ => (s, some (.error .database))
  | .fail, .accepted inbox _ _ _ _ => (⟨s.tables, .ready inbox⟩, some (.error .database))
  | .fail, .ran inbox _ _ => (⟨s.tables, .ready inbox⟩, some (.error .database))
  | .crash, _ => (⟨s.tables, .closed⟩, none)
  -- Nothing is asked for while something else is under way.
  | _, _ => (s, none)

end InboxState

def supervisorInbox (platform : DirectivePlatform) : Machine InboxState InboxOp where
  start := .empty
  enabled _ _ := True
  apply s op := (s.step platform op).1

end MindLeak.Ackplane
