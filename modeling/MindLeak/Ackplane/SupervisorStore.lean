import MindLeak.Ackplane.CommandStore
import MindLeak.Ackplane.Inbox

/-! Registered supervisors, their workers' sessions, and the receipts that tell how a session went on:
the tables, and each call as its transaction. -/

namespace MindLeak.Ackplane

inductive SupervisorLifecycleReason where
  | capabilityMissing | checkpointFailed | directiveExpired | outboxUnavailable | protocolUnsupported | supervisorFailed | workerLost
  deriving DecidableEq

structure SupervisorLifecycleReceipt where
  (supervisorId sessionId workerId : String)
  occurredAt : Int
  state : SupervisorWorkerState
  reason : Option SupervisorLifecycleReason

def SupervisorLifecycleReceipt.validate (receipt : SupervisorLifecycleReceipt) : Except SupervisorError Unit :=
  [("supervisor_id", receipt.supervisorId), ("session_id", receipt.sessionId), ("worker_id", receipt.workerId)].forM
    fun (field, value) => SupervisorError.requireNonEmpty field value

structure SupervisorLifecycleReceiptRequest where
  (tenantId repositoryId : String)
  receipt : SupervisorLifecycleReceipt
  idempotencyKey : String

inductive SupervisorStoreError where
  | database
  | contract (error : SupervisorError)
  | invalidIdentifier (field : String)
  | invalidTimestamp (field : String)
  | invalidIdempotencyKey
  | registrationConflict
  | sessionConflict
  | unknownSupervisor
  | unknownSession
  | sessionIdentityMismatch
  | receiptBeforeSession
  | idempotencyConflict
  | invalidStoredCapabilities (detail : String)
  | outboxSequenceOutOfRange (sequence : Nat)

/-- How declarations are written down as JSON. -/
structure SupervisorPlatform extends Platform where
  capabilitiesJson : SupervisorCapabilities → Bytes
  registrationJson : SupervisorRegistration → Bytes
  sessionJson : SupervisorSession → Bytes
  receiptJson : SupervisorLifecycleReceipt → Bytes

structure SupervisorKey where
  (tenantId repositoryId supervisorId : String)
  deriving DecidableEq

structure SupervisorRegistrationRow where
  registration : SupervisorRegistration
  payloadDigest : Bytes
  lastHeartbeatAt : Option Int

def SupervisorRegistration.key (registration : SupervisorRegistration) : SupervisorKey :=
  ⟨registration.identity.tenantId, registration.identity.repositoryId, registration.supervisorId⟩

instance : Row SupervisorRegistrationRow SupervisorKey := ⟨fun row => row.registration.key⟩

/-- `GREATEST` of the heartbeats. -/
def SupervisorRegistrationRow.beat (row : SupervisorRegistrationRow) (observedAt : Int) : SupervisorRegistrationRow :=
  { row with lastHeartbeatAt := some (max (row.lastHeartbeatAt.getD observedAt) observedAt) }

structure StoredSession where
  key : SessionKey
  (supervisorId workerId : String)
  runtime : SupervisorRuntime
  startedAt : Int
  currentState : SupervisorWorkerState
  currentReason : Option SupervisorLifecycleReason
  currentOccurredAt : Int
  payloadDigest : Bytes

instance : Row StoredSession SessionKey := ⟨StoredSession.key⟩

structure LifecycleKey where
  session : SessionKey
  idempotencyKey : String
  deriving DecidableEq

structure StoredLifecycleReceipt where
  key : LifecycleKey
  receiptPosition : Nat
  (supervisorId workerId : String)
  occurredAt : Int
  state : SupervisorWorkerState
  reason : Option SupervisorLifecycleReason
  payloadDigest : Bytes

instance : Row StoredLifecycleReceipt LifecycleKey := ⟨StoredLifecycleReceipt.key⟩

structure StoredOutboxPosition where
  key : SupervisorKey
  acceptedSequence : Nat

instance : Row StoredOutboxPosition SupervisorKey := ⟨StoredOutboxPosition.key⟩

structure SupervisorSessionProjection where
  session : SupervisorSession
  currentReason : Option SupervisorLifecycleReason
  currentOccurredAt : Int

structure SupervisorSessionOutcome where
  projection : SupervisorSessionProjection
  idempotentReplay : Bool

structure SupervisorLifecycleReceiptRecord where
  receiptPosition : Nat
  receipt : SupervisorLifecycleReceipt
  idempotencyKey : String

structure SupervisorLifecycleOutcome where
  receipt : SupervisorLifecycleReceiptRecord
  projection : SupervisorSessionProjection
  (idempotentReplay projectionAdvanced : Bool)

/-- `session_projection_from_row`. -/
def StoredSession.projection (row : StoredSession) : Except SupervisorStoreError SupervisorSessionProjection := do
  let session : SupervisorSession := ⟨row.key.sessionId, row.supervisorId, row.workerId, row.runtime, row.startedAt, row.currentState⟩
  session.validate.mapError .contract
  .ok ⟨session, row.currentReason, row.currentOccurredAt⟩

/-- `receipt_record_from_row`. -/
def StoredLifecycleReceipt.record (row : StoredLifecycleReceipt) : Except SupervisorStoreError SupervisorLifecycleReceiptRecord := do
  let receipt : SupervisorLifecycleReceipt :=
    ⟨row.supervisorId, row.key.session.sessionId, row.workerId, row.occurredAt, row.state, row.reason⟩
  receipt.validate.mapError .contract
  .ok ⟨row.receiptPosition, receipt, row.key.idempotencyKey⟩

structure SupervisorStore where
  registrations : Table SupervisorRegistrationRow
  sessions : Table StoredSession
  receipts : Table StoredLifecycleReceipt
  outboxPositions : Table StoredOutboxPosition

namespace SupervisorStore

def MAX_IDENTIFIER_BYTES : Nat := 256
def MAX_IDEMPOTENCY_KEY_BYTES : Nat := 256

def empty : SupervisorStore := ⟨.empty, .empty, .empty, .empty⟩

def receiptsOf (s : SupervisorStore) (session : SessionKey) : List StoredLifecycleReceipt :=
  s.receipts.rows.filter fun row => row.key.session = session

section
variable (platform : SupervisorPlatform)

def requireIdentifier (field value : String) : Except SupervisorStoreError Unit :=
  refuseIf (Text.isBlank value = true ∨ MAX_IDENTIFIER_BYTES < value.utf8ByteSize) (.invalidIdentifier field)

def validateScope (tenantId repositoryId : String) : Except SupervisorStoreError Unit := do
  requireIdentifier "tenant_id" tenantId
  requireIdentifier "repository_id" repositoryId

def validateIdentity (identity : SupervisorIdentity) : Except SupervisorStoreError Unit :=
  [("tenant_id", identity.tenantId), ("repository_id", identity.repositoryId), ("node_id", identity.nodeId)].forM
    fun (field, value) => requireIdentifier field value

def registrationDigest (registration : SupervisorRegistration) : Except SupervisorStoreError Bytes := do
  registration.validate.mapError .contract
  validateIdentity registration.identity
  requireIdentifier "supervisor_id" registration.supervisorId
  requireIdentifier "supervisor_version" registration.supervisorVersion
  requireIdentifier "protocol_version" registration.protocolVersion
  let capabilities := platform.capabilitiesJson registration.capabilities
  refuseIf (capabilities.length < 2 ∨ 4096 < capabilities.length)
    (.invalidStoredCapabilities "serialized capability declaration exceeds its bounded representation")
  .ok (platform.sha256 (platform.registrationJson registration))

def sessionDigest (tenantId repositoryId : String) (session : SupervisorSession) : Except SupervisorStoreError Bytes := do
  validateScope tenantId repositoryId
  session.validate.mapError .contract
  refuseIf (session.startedAt < 0) (.invalidTimestamp "started_at")
  .ok (platform.sha256 (platform.sessionJson session))

def receiptDigest (request : SupervisorLifecycleReceiptRequest) : Except SupervisorStoreError Bytes := do
  validateScope request.tenantId request.repositoryId
  request.receipt.validate.mapError .contract
  refuseIf (request.receipt.occurredAt < 0) (.invalidTimestamp "occurred_at")
  refuseIf (Text.isBlank request.idempotencyKey = true ∨ MAX_IDEMPOTENCY_KEY_BYTES < request.idempotencyKey.utf8ByteSize)
    .invalidIdempotencyKey
  .ok (platform.sha256 (platform.receiptJson request.receipt))

def validateHeartbeat (key : SupervisorKey) (observedAt : Int) : Except SupervisorStoreError Unit := do
  validateScope key.tenantId key.repositoryId
  requireIdentifier "supervisor_id" key.supervisorId
  refuseIf (observedAt < 0) (.invalidTimestamp "observed_at")

end

/-- What a statement reads. -/
inductive View where
  | registration (key : SupervisorKey)
  | session (key : SessionKey)
  | receipt (key : LifecycleKey)
  /-- The last position that the session's receipts have. -/
  | lastPosition (session : SessionKey)
  | outboxPosition (key : SupervisorKey)

abbrev View.Value : View → Type
  | .registration _ => Option SupervisorRegistrationRow
  | .session _ => Option StoredSession
  | .receipt _ => Option StoredLifecycleReceipt
  | .lastPosition _ => Nat
  | .outboxPosition _ => Option StoredOutboxPosition

def look (s : SupervisorStore) : (view : View) → view.Value
  | .registration key => s.registrations.find? key
  | .session key => s.sessions.find? key
  | .receipt key => s.receipts.find? key
  | .lastPosition session => ((s.receiptsOf session).map StoredLifecycleReceipt.receiptPosition).foldr max 0
  | .outboxPosition key => s.outboxPositions.find? key

/-- A row, or an entry of a unique index. -/
inductive Lock where
  | registration (key : SupervisorKey)
  | session (key : SessionKey)
  | receipt (key : LifecycleKey)
  | outboxPosition (key : SupervisorKey)
  deriving DecidableEq

def guards : (view : View) → view.Value → List Lock
  | .registration key, _ => [.registration key]
  | .session key, _ => [.session key]
  | .receipt key, _ => [.receipt key]
  -- Whoever adds a receipt has the session's row.
  | .lastPosition session, _ => [.session session]
  | .outboxPosition key, _ => [.outboxPosition key]

def insertRegistration (s : SupervisorStore) (row : SupervisorRegistrationRow) : SupervisorStore :=
  { s with registrations := s.registrations.insertOrIgnore row }

def beat (s : SupervisorStore) (key : SupervisorKey) (observedAt : Int) : SupervisorStore :=
  { s with registrations := s.registrations.update (fun row => row.registration.key = key) fun row => row.beat observedAt }

def insertSession (s : SupervisorStore) (row : StoredSession) : SupervisorStore :=
  { s with sessions := s.sessions.insertOrIgnore row }

def insertReceipt (s : SupervisorStore) (row : StoredLifecycleReceipt) : SupervisorStore :=
  { s with receipts := s.receipts.insertOrIgnore row }

end SupervisorStore

def StoredSession.advance (row : StoredSession) (receipt : SupervisorLifecycleReceipt) : StoredSession :=
  { row with currentState := receipt.state, currentReason := receipt.reason, currentOccurredAt := receipt.occurredAt }

namespace SupervisorStore

def advanceSession (s : SupervisorStore) (key : SessionKey) (receipt : SupervisorLifecycleReceipt) : SupervisorStore :=
  { s with sessions := s.sessions.update (fun row => row.key = key) fun row => row.advance receipt }

def putOutboxPosition (s : SupervisorStore) (row : StoredOutboxPosition) : SupervisorStore :=
  { s with outboxPositions := s.outboxPositions.put row }

end SupervisorStore

abbrev SupervisorTransaction (α : Type) : Type :=
  Transaction SupervisorStore SupervisorStore.View SupervisorStore.View.Value SupervisorStoreError α

def SupervisorTransaction.lift {α : Type} : Except SupervisorStoreError α → SupervisorTransaction α
  | .ok value => .pure value
  | .error error => .fail error

namespace SupervisorStore

section

def select (view : View) : SupervisorTransaction view.Value := .read view

def selectLocked (view : View) : SupervisorTransaction view.Value := .lock view

/-- A statement that locks what it is about only when that is as `takes` says. -/
def selectIf (view : View) (takes : view.Value → Bool) : SupervisorTransaction view.Value := .lockIf view takes

def execute (update : SupervisorStore → SupervisorStore) : SupervisorTransaction Unit := .store update

end

section
variable (platform : SupervisorPlatform)

def register (registration : SupervisorRegistration) : SupervisorTransaction (SupervisorRegistrationRow × Bool) := do
  let digest ← SupervisorTransaction.lift (registrationDigest platform registration)
  match ← selectIf (.registration registration.key) Option.isNone with
  | none => do
    execute (·.insertRegistration ⟨registration, digest, none⟩)
    .pure (⟨registration, digest, none⟩, false)
  | some _ =>
    match ← selectLocked (.registration registration.key) with
    | none => .fail .database
    | some stored => if stored.payloadDigest ≠ digest then .fail .registrationConflict else .pure (stored, true)

def recordHeartbeatAt (key : SupervisorKey) (observedAt : Int) : SupervisorTransaction Unit := do
  SupervisorTransaction.lift (validateHeartbeat key observedAt)
  match ← selectIf (.registration key) Option.isSome with
  | none => .fail .unknownSupervisor
  | some _ => execute (·.beat key observedAt)

/-- The position that a frame of the supervisor declared, or a larger one that is there. -/
def recordOutboxSequence (key : SupervisorKey) (sequence : Nat) : SupervisorTransaction Nat := do
  SupervisorTransaction.lift (refuseIf (9223372036854775807 < sequence) (.outboxSequenceOutOfRange sequence))
  match ← select (.registration key) with
  -- The foreign key.
  | none => .fail .database
  | some _ => do
    let row ← selectLocked (.outboxPosition key)
    let accepted := max ((row.map StoredOutboxPosition.acceptedSequence).getD sequence) sequence
    execute (·.putOutboxPosition ⟨key, accepted⟩)
    .pure accepted

def acceptedOutboxSequence (key : SupervisorKey) : SupervisorTransaction (Option Nat) := do
  let row ← select (.outboxPosition key)
  .pure (row.map StoredOutboxPosition.acceptedSequence)

def initialSession (tenantId repositoryId : String) (session : SupervisorSession) (digest : Bytes) : StoredSession where
  key := ⟨tenantId, repositoryId, session.sessionId⟩
  supervisorId := session.supervisorId
  workerId := session.workerId
  runtime := session.runtime
  startedAt := session.startedAt
  currentState := session.state
  currentReason := none
  currentOccurredAt := session.startedAt
  payloadDigest := digest

def recordSession (tenantId repositoryId : String) (session : SupervisorSession) : SupervisorTransaction SupervisorSessionOutcome := do
  let digest ← SupervisorTransaction.lift (sessionDigest platform tenantId repositoryId session)
  let row := initialSession tenantId repositoryId session digest
  match ← select (.registration ⟨tenantId, repositoryId, session.supervisorId⟩) with
  | none => .fail .unknownSupervisor
  | some _ => do
    -- What the table checks beyond the request.
    SupervisorTransaction.lift (refuseIf (MAX_IDENTIFIER_BYTES < session.sessionId.utf8ByteSize ∨
      MAX_IDENTIFIER_BYTES < session.workerId.utf8ByteSize) .database)
    match ← selectIf (.session row.key) Option.isNone with
    | none => do
      execute (·.insertSession row)
      let projection ← SupervisorTransaction.lift row.projection
      .pure ⟨projection, false⟩
    | some _ =>
      match ← selectLocked (.session row.key) with
      | none => .fail .database
      | some stored =>
        if stored.payloadDigest ≠ digest then .fail .sessionConflict
        else do
          let projection ← SupervisorTransaction.lift stored.projection
          .pure ⟨projection, true⟩

end
end SupervisorStore

namespace SupervisorLifecycleReceiptRequest

def session (request : SupervisorLifecycleReceiptRequest) : SessionKey :=
  ⟨request.tenantId, request.repositoryId, request.receipt.sessionId⟩

def key (request : SupervisorLifecycleReceiptRequest) : LifecycleKey := ⟨request.session, request.idempotencyKey⟩

def row (request : SupervisorLifecycleReceiptRequest) (digest : Bytes) (receiptPosition : Nat) : StoredLifecycleReceipt where
  key := request.key
  receiptPosition := receiptPosition
  supervisorId := request.receipt.supervisorId
  workerId := request.receipt.workerId
  occurredAt := request.receipt.occurredAt
  state := request.receipt.state
  reason := request.receipt.reason
  payloadDigest := digest

end SupervisorLifecycleReceiptRequest

namespace SupervisorStore

section
variable (platform : SupervisorPlatform) (request : SupervisorLifecycleReceiptRequest)

/-- The insert of a receipt, or the receipt that has its key, and which of both. Its number comes out
of a sequence that ever larger ones come out of; `skipped` of them others have had since the
session's last. -/
def insertLifecycle (digest : Bytes) (skipped : Nat) : SupervisorTransaction (SupervisorLifecycleReceiptRecord × Bool) := do
  match ← selectIf (.receipt request.key) Option.isNone with
  | none => do
    let last ← selectLocked (.lastPosition request.session)
    let stored := request.row digest (last + 1 + skipped)
    execute (·.insertReceipt stored)
    let record ← SupervisorTransaction.lift stored.record
    .pure (record, false)
  | some _ =>
    match ← selectLocked (.receipt request.key) with
    | none => .fail .database
    | some stored =>
      if stored.payloadDigest ≠ digest then .fail .idempotencyConflict
      else do
        let record ← SupervisorTransaction.lift stored.record
        .pure (record, true)

def project (row : StoredSession) (current : SupervisorSessionProjection) (record : SupervisorLifecycleReceiptRecord)
    (idempotentReplay : Bool) : SupervisorTransaction SupervisorLifecycleOutcome :=
  if idempotentReplay = false ∧ current.currentOccurredAt ≤ record.receipt.occurredAt then do
    execute (·.advanceSession request.session request.receipt)
    let projection ← SupervisorTransaction.lift (row.advance request.receipt).projection
    .pure ⟨record, projection, idempotentReplay, true⟩
  else .pure ⟨record, current, idempotentReplay, false⟩

def recordLifecycle (skipped : Nat) : SupervisorTransaction SupervisorLifecycleOutcome := do
  let digest ← SupervisorTransaction.lift (receiptDigest platform request)
  match ← selectIf (.session request.session) Option.isSome with
  | none => .fail .unknownSession
  | some row => do
    let current ← SupervisorTransaction.lift row.projection
    if current.session.supervisorId ≠ request.receipt.supervisorId ∨ current.session.workerId ≠ request.receipt.workerId then
      .fail .sessionIdentityMismatch
    else if request.receipt.occurredAt < current.session.startedAt then .fail .receiptBeforeSession
    else do
      let (record, idempotentReplay) ← insertLifecycle request digest skipped
      project request row current record idempotentReplay

end
end SupervisorStore

inductive SupervisorCall where
  | register (registration : SupervisorRegistration)
  | recordHeartbeatAt (key : SupervisorKey) (observedAt : Int)
  | recordOutboxSequence (key : SupervisorKey) (sequence : Nat)
  | recordSession (tenantId repositoryId : String) (session : SupervisorSession)
  | recordLifecycle (request : SupervisorLifecycleReceiptRequest) (skipped : Nat)

inductive SupervisorAnswer where
  | registered (row : SupervisorRegistrationRow) (idempotentReplay : Bool)
  | beaten
  | position (accepted : Nat)
  | session (outcome : SupervisorSessionOutcome)
  | lifecycle (outcome : SupervisorLifecycleOutcome)

def SupervisorCall.program (platform : SupervisorPlatform) : SupervisorCall → SupervisorTransaction SupervisorAnswer
  | .register registration => do
    let (row, idempotentReplay) ← SupervisorStore.register platform registration
    .pure (.registered row idempotentReplay)
  | .recordHeartbeatAt key observedAt => do
    SupervisorStore.recordHeartbeatAt key observedAt
    .pure .beaten
  | .recordOutboxSequence key sequence => do
    let accepted ← SupervisorStore.recordOutboxSequence key sequence
    .pure (.position accepted)
  | .recordSession tenantId repositoryId session => do
    let outcome ← SupervisorStore.recordSession platform tenantId repositoryId session
    .pure (.session outcome)
  | .recordLifecycle request skipped => do
    let outcome ← SupervisorStore.recordLifecycle platform request skipped
    .pure (.lifecycle outcome)

def supervisorCalls (platform : SupervisorPlatform) (τ : Type) [DecidableEq τ] (start : SupervisorStore) :=
  interleaved τ SupervisorStore.look SupervisorStore.guards (SupervisorCall.program platform) start

end MindLeak.Ackplane
