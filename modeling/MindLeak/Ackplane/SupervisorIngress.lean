import MindLeak.Ackplane.Outbox
import MindLeak.Ackplane.SupervisorStore

/-! What a node's connection does with the frames that are about supervisors, once it is authenticated. -/

namespace MindLeak.Ackplane

namespace V1

structure SupervisorRegistration where
  (supervisorId nodeId supervisorVersion protocolVersion : String)
  supportedDirectives : List Int
  (supportsCheckpoint supportsForceTermination : Bool)
  outboxDurability : Int
  recoverableOutbox : Bool

structure SupervisorSession where
  (sessionId supervisorId workerId : String)
  runtime : Int
  startedAt : String
  state : Int

inductive SupervisorFrameOperation where
  | registration | heartbeat | session | lifecycle | directiveReceipt

structure SupervisorFrameReceipt where
  operation : SupervisorFrameOperation
  (supervisorId sessionId : String)
  (idempotentReplay projectionAdvanced : Bool)
  acceptedOutboxSequence : Option Nat

end V1

inductive IngressError where
  | malformed (diagnostic : String)
  | unauthorized (diagnostic : String)
  | unavailable (diagnostic : String)

def IngressError.rejection : IngressError → V1.Rejection
  | .malformed diagnostic => ⟨"", .malformed, false, diagnostic⟩
  | .unauthorized diagnostic => ⟨"", .unauthorized, false, diagnostic⟩
  | .unavailable diagnostic => ⟨"", .unavailable, true, diagnostic⟩

def SupervisorStoreError.ingress : SupervisorStoreError → IngressError
  | .database => .unavailable "supervisor store is temporarily unavailable"
  | .unknownSupervisor | .unknownSession | .sessionIdentityMismatch =>
    .unauthorized "supervisor fact is outside the authenticated session identity"
  | _ => .malformed "supervisor fact is invalid or conflicts with durable state"

def DirectiveStoreError.ingress : DirectiveStoreError → IngressError
  | .database => .unavailable "directive receipt ledger is temporarily unavailable"
  | .unknownDirective | .receiptMismatch => .unauthorized "directive receipt is not authorized for this authenticated connection"
  | _ => .malformed "directive receipt is invalid"

inductive ContextServiceError where
  | refused (reason : String)
  | json
  | supervisor (error : SupervisorStoreError)
  | packet

def ContextServiceError.rejection : ContextServiceError → V1.Rejection
  | .refused reason => ⟨"", .unauthorized, false, reason⟩
  | .json => ⟨"", .malformed, false, "context cannot satisfy the bounded packet contract"⟩
  | _ => ⟨"", .unavailable, true, "context stores are unavailable"⟩

/-- How a worker used a context packet, as far as the connection reads it. -/
structure ContextPacketUseReceipt where
  (packetId tenantId repositoryId agentSessionId : String)

/-- How a call of the database ends. -/
inductive CallFate where
  | answered
  /-- Without effect. -/
  | failed
  /-- It is committed, and its answer is lost. -/
  | unheard

/-- What the connection asks of its surroundings. All of them answer out of a state that others share. -/
structure IngressPorts (σ : Type) where
  /-- The Unix time that a text in RFC 3339 tells. -/
  unixTimestamp : String → Option Int
  serverNowSeconds : σ → Except SupervisorStoreError Int × σ
  fate : σ → CallFate × σ
  /-- How many numbers others have out of the receipts' sequence. -/
  skipped : σ → Nat × σ
  recordReceipt : V1.DirectiveReceipt → σ → Except DirectiveStoreError DirectiveReceiptOutcome × σ
  /-- Whether Work went along, where there are work commands. -/
  applyDirectiveReceipt : Option (DirectiveReceiptRecord → σ → Bool × σ)
  readUseReceipt : Bytes → Option ContextPacketUseReceipt
  recordUse : ContextPacketUseReceipt → σ → Bool × σ

structure IngressWorld (σ : Type) where
  supervisors : SupervisorStore
  others : σ

abbrev Ingress (σ ε α : Type) : Type := ExceptT ε (StateM (IngressWorld σ)) α

namespace Ingress
variable {σ ε α : Type}

def ask (port : σ → α × σ) : Ingress σ ε α := fun world => (.ok (port world.others).1, { world with others := (port world.others).2 })

def lift (checked : Except ε α) : Ingress σ ε α := fun world => (checked, world)

/-- What the tables answer at once. -/
def read (view : SupervisorStore → α) : Ingress σ ε α := fun world => (.ok (view world.supervisors), world)

def refuse (bad : Prop) [Decidable bad] (error : ε) : Ingress σ ε Unit := lift (refuseIf bad error)

def call (ports : IngressPorts σ) (program : SupervisorTransaction α) : Ingress σ SupervisorStoreError α := fun world =>
  let (fate, others) := ports.fate world.others
  let (answer, after) := program.attempt SupervisorStore.look world.supervisors
  match fate with
  | .answered => (answer, ⟨after, others⟩)
  | .failed => (.error .database, ⟨world.supervisors, others⟩)
  | .unheard => (.error .database, ⟨after, others⟩)

end Ingress

/-- `list_supervisors`. What a registration's row holds is checked again as it is read. -/
def SupervisorStore.listSupervisors (s : SupervisorStore) (tenantId repositoryId : String) :
    Except SupervisorStoreError (List SupervisorRegistration) := do
  validateScope tenantId repositoryId
  let rows := s.registrations.rows.filter fun row => row.registration.key.tenantId = tenantId ∧ row.registration.key.repositoryId = repositoryId
  rows.mapM fun row => do
    row.registration.validate.mapError .contract
    .ok row.registration

def SupervisorStore.session (s : SupervisorStore) (key : SessionKey) : Except SupervisorStoreError (Option SupervisorSessionProjection) := do
  validateScope key.tenantId key.repositoryId
  requireIdentifier "session_id" key.sessionId
  match s.sessions.find? key with
  | none => .ok none
  | some row => row.projection.map some

section

def directiveCapabilityFromWire : Int → Except IngressError SupervisorDirectiveCapability
  | 1 => .ok .notify
  | 2 => .ok .prompt
  | 3 => .ok .assign
  | 4 => .ok .steer
  | 5 => .ok .pause
  | 6 => .ok .resume
  | 7 => .ok .drain
  | 8 => .ok .terminateGracefully
  | 9 => .ok .terminateForce
  | _ => .error (.malformed "supervisor directive capability is unknown")

def outboxDurabilityFromWire : Int → Except IngressError SupervisorOutboxDurability
  | 1 => .ok .persistent
  | 2 => .ok .ephemeral
  | _ => .error (.malformed "supervisor outbox durability is unknown")

def runtimeFromWire : Int → Except IngressError SupervisorRuntime
  | 1 => .ok .localMachine
  | 2 => .ok .cloudWorker
  | 3 => .ok .pipeline
  | 4 => .ok .service
  | _ => .error (.malformed "supervisor runtime is unknown")

def workerStateFromWire : Int → Except IngressError SupervisorWorkerState
  | 1 => .ok .started
  | 2 => .ok .checkpointed
  | 3 => .ok .paused
  | 4 => .ok .draining
  | 5 => .ok .terminated
  | 6 => .ok .failed
  | 7 => .ok .disconnected
  | 8 => .ok .reconnected
  | 9 => .ok .completed
  | _ => .error (.malformed "supervisor worker state is unknown")

def lifecycleReasonFromWire : Int → Except IngressError (Option SupervisorLifecycleReason)
  | 0 => .ok none
  | 1 => .ok (some .capabilityMissing)
  | 2 => .ok (some .checkpointFailed)
  | 3 => .ok (some .directiveExpired)
  | 4 => .ok (some .outboxUnavailable)
  | 5 => .ok (some .protocolUnsupported)
  | 6 => .ok (some .supervisorFailed)
  | 7 => .ok (some .workerLost)
  | _ => .error (.malformed "lifecycle reason is unknown")

variable {σ : Type} (ports : IngressPorts σ) (identity : Identity)

def parseUnixSeconds (value field : String) : Except IngressError Int :=
  match ports.unixTimestamp value with
  | none => .error (.malformed field)
  | some timestamp => if timestamp < 0 then .error (.malformed field) else .ok timestamp

def registrationFromWire (wire : V1.SupervisorRegistration) : Except IngressError SupervisorRegistration := do
  refuseIf (wire.nodeId ≠ identity.producerId)
    (.unauthorized "supervisor registration node_id does not match the authenticated connection")
  let supportedDirectives ← wire.supportedDirectives.mapM directiveCapabilityFromWire
  let outboxDurability ← outboxDurabilityFromWire wire.outboxDurability
  .ok ⟨wire.supervisorId, ⟨identity.tenantId, identity.repositoryId, identity.producerId⟩, wire.supervisorVersion, wire.protocolVersion,
    ⟨supportedDirectives, wire.supportsCheckpoint, wire.supportsForceTermination, outboxDurability, wire.recoverableOutbox⟩⟩

def sessionFromWire (wire : V1.SupervisorSession) : Except IngressError SupervisorSession := do
  let runtime ← runtimeFromWire wire.runtime
  let startedAt ← parseUnixSeconds ports wire.startedAt "started_at"
  let state ← workerStateFromWire wire.state
  .ok ⟨wire.sessionId, wire.supervisorId, wire.workerId, runtime, startedAt, state⟩

def lifecycleFromWire (wire : V1.SupervisorLifecycleReceipt) : Except IngressError SupervisorLifecycleReceiptRequest := do
  let reason ← lifecycleReasonFromWire wire.reason
  let occurredAt ← parseUnixSeconds ports wire.occurredAt "occurred_at"
  let state ← workerStateFromWire wire.state
  .ok ⟨identity.tenantId, identity.repositoryId, ⟨wire.supervisorId, wire.sessionId, wire.workerId, occurredAt, state, reason⟩,
    wire.idempotencyKey⟩

end

def Identity.supervisor (identity : Identity) (supervisorId : String) : SupervisorKey :=
  ⟨identity.tenantId, identity.repositoryId, supervisorId⟩

def Identity.session (identity : Identity) (sessionId : String) : SessionKey :=
  ⟨identity.tenantId, identity.repositoryId, sessionId⟩

section
variable {σ : Type} (ports : IngressPorts σ) (platform : SupervisorPlatform) (identity : Identity)

def fact {α : Type} (program : SupervisorTransaction α) : Ingress σ IngressError α :=
  ExceptT.adapt SupervisorStoreError.ingress (Ingress.call ports program)

def belongs (supervisorId : String) : Ingress σ IngressError Unit := do
  let supervisors ← Ingress.read (·.listSupervisors identity.tenantId identity.repositoryId)
  let supervisors ← Ingress.lift (supervisors.mapError SupervisorStoreError.ingress)
  Ingress.refuse (¬supervisors.any fun registration =>
      decide (registration.supervisorId = supervisorId ∧ registration.identity.nodeId = identity.producerId))
    (.unauthorized "supervisor does not belong to the authenticated node")

def registrationReceipt (wire : V1.SupervisorRegistration) : Ingress σ IngressError V1.SupervisorFrameReceipt := do
  let registration ← Ingress.lift (registrationFromWire identity wire)
  let (_, idempotentReplay) ← fact ports (SupervisorStore.register platform registration)
  let accepted ← fact ports (SupervisorStore.acceptedOutboxSequence (identity.supervisor wire.supervisorId))
  pure ⟨.registration, wire.supervisorId, "", idempotentReplay, !idempotentReplay, accepted⟩

def heartbeatReceipt (supervisorId : String) : Ingress σ IngressError V1.SupervisorFrameReceipt := do
  belongs identity supervisorId
  let observedAt ← Ingress.ask ports.serverNowSeconds
  let observedAt ← Ingress.lift (observedAt.mapError SupervisorStoreError.ingress)
  fact ports (SupervisorStore.recordHeartbeatAt (identity.supervisor supervisorId) observedAt)
  pure ⟨.heartbeat, supervisorId, "", false, false, none⟩

def sessionReceipt (wire : V1.SupervisorSession) : Ingress σ IngressError V1.SupervisorFrameReceipt := do
  belongs identity wire.supervisorId
  let session ← Ingress.lift (sessionFromWire ports wire)
  let outcome ← fact ports (SupervisorStore.recordSession platform identity.tenantId identity.repositoryId session)
  pure ⟨.session, wire.supervisorId, wire.sessionId, outcome.idempotentReplay, !outcome.idempotentReplay, none⟩

def acceptLifecycle (wire : V1.SupervisorLifecycleReceipt) : Ingress σ IngressError SupervisorLifecycleOutcome := do
  belongs identity wire.supervisorId
  let request ← Ingress.lift (lifecycleFromWire ports identity wire)
  let skipped ← Ingress.ask ports.skipped
  fact ports (SupervisorStore.recordLifecycle platform request skipped)

def declare (supervisorId : String) (declared : Option Nat) : Ingress σ SupervisorStoreError (Option Nat) :=
  match declared with
  | none => pure none
  | some sequence => do
    let accepted ← Ingress.call ports (SupervisorStore.recordOutboxSequence (identity.supervisor supervisorId) sequence)
    pure (some accepted)

def lifecycleReceipt (wire : V1.SupervisorLifecycleReceipt) : Ingress σ IngressError V1.SupervisorFrameReceipt := do
  let outcome ← acceptLifecycle ports platform identity wire
  let accepted ← ExceptT.adapt SupervisorStoreError.ingress (declare ports identity wire.supervisorId wire.outboxSequence)
  pure ⟨.lifecycle, wire.supervisorId, wire.sessionId, outcome.idempotentReplay, outcome.projectionAdvanced, accepted⟩

/-- What a receipt's frame declared is kept beside what is stored of it: a replay has the stored copy. -/
structure AcceptedReceipt where
  outcome : DirectiveReceiptOutcome
  declaredOutboxSequence : Option Nat

def recordAuthenticatedReceipt (receipt : V1.DirectiveReceipt) : Ingress σ IngressError AcceptedReceipt := do
  Ingress.refuse (receipt.tenantId ≠ identity.tenantId ∨ receipt.repositoryId ≠ identity.repositoryId ∨ receipt.nodeId ≠ identity.producerId)
    (.unauthorized "directive receipt identity does not match the authenticated connection")
  let outcome ← Ingress.ask (ports.recordReceipt receipt)
  let outcome ← Ingress.lift (outcome.mapError DirectiveStoreError.ingress)
  pure ⟨outcome, receipt.outboxSequence⟩

def acknowledgement (accepted : AcceptedReceipt) : Ingress σ IngressError V1.SupervisorFrameReceipt := do
  let receipt := accepted.outcome.record.receipt
  let session ← Ingress.read (·.session (identity.session receipt.agentSessionId))
  let session ← Ingress.lift (session.mapError fun _ => .unavailable "supervisor session lookup is unavailable")
  match session with
  | none => throw (.unauthorized "directive receipt is not authorized for this authenticated connection")
  | some projection => do
    match ports.applyDirectiveReceipt with
    | none => pure ()
    | some apply => do
      let applied ← Ingress.ask (apply accepted.outcome.record)
      Ingress.refuse (applied = false) (.unavailable "Work could not apply the stored directive receipt; retry delivery")
    let position ← ExceptT.adapt (fun _ => .unavailable "supervisor outbox position store is unavailable")
      (declare ports identity projection.session.supervisorId accepted.declaredOutboxSequence)
    pure ⟨.directiveReceipt, projection.session.supervisorId, receipt.agentSessionId, accepted.outcome.idempotentReplay,
      !accepted.outcome.idempotentReplay, position⟩

def acceptUse (report : V1.ContextPacketUseReport) : Ingress σ ContextServiceError (ContextPacketUseReceipt × String) := do
  Ingress.refuse (8192 < report.receiptJson.length) (.refused "context receipt exceeds its bound")
  let receipt ← Ingress.lift ((ports.readUseReceipt report.receiptJson).elim (.error .json) .ok)
  Ingress.refuse (receipt.tenantId ≠ identity.tenantId ∨ receipt.repositoryId ≠ identity.repositoryId)
    (.refused "context receipt does not belong to this identity")
  let session ← Ingress.read (·.session (identity.session receipt.agentSessionId))
  let session ← Ingress.lift (session.mapError .supervisor)
  match session with
  | none => throw (.refused "context receipt has no registered session")
  | some projection => do
    let supervisors ← Ingress.read (·.listSupervisors identity.tenantId identity.repositoryId)
    let supervisors ← Ingress.lift (supervisors.mapError .supervisor)
    Ingress.refuse (¬supervisors.any fun registration =>
        decide (registration.supervisorId = projection.session.supervisorId ∧ registration.identity.nodeId = identity.producerId))
      (.refused "context receipt does not belong to this node")
    let recorded ← Ingress.ask (ports.recordUse receipt)
    Ingress.refuse (recorded = false) .packet
    pure (receipt, projection.session.supervisorId)

def recordUse (report : V1.ContextPacketUseReport) : Ingress σ ContextServiceError String := do
  let (receipt, supervisorId) ← acceptUse ports identity report
  let _ ← ExceptT.adapt ContextServiceError.supervisor (declare ports identity supervisorId report.outboxSequence)
  pure receipt.packetId

end

inductive SupervisorFrame where
  | registration (wire : V1.SupervisorRegistration)
  | heartbeat (supervisorId : String)
  | session (wire : V1.SupervisorSession)
  | lifecycleReceipt (wire : V1.SupervisorLifecycleReceipt)
  | directiveReceipt (receipt : V1.DirectiveReceipt)
  | contextPacketUse (report : V1.ContextPacketUseReport)

inductive SupervisorReply where
  | receipt (receipt : V1.SupervisorFrameReceipt)
  | contextPacketUseAck (packetId : String)
  | rejection (rejection : V1.Rejection)

section
variable {σ : Type} (ports : IngressPorts σ) (platform : SupervisorPlatform) (identity : Identity)

def Ingress.answer {ε α : Type} (handler : Ingress σ ε α) (told : α → SupervisorReply) (refused : ε → V1.Rejection) (world : IngressWorld σ) :
    SupervisorReply × IngressWorld σ :=
  match handler.run world with
  | (.ok value, after) => (told value, after)
  | (.error error, after) => (.rejection (refused error), after)

def SupervisorFrame.handle : SupervisorFrame → IngressWorld σ → SupervisorReply × IngressWorld σ
  | .registration wire => (registrationReceipt ports platform identity wire).answer .receipt IngressError.rejection
  | .heartbeat supervisorId => (heartbeatReceipt ports identity supervisorId).answer .receipt IngressError.rejection
  | .session wire => (sessionReceipt ports platform identity wire).answer .receipt IngressError.rejection
  | .lifecycleReceipt wire => (Ackplane.lifecycleReceipt ports platform identity wire).answer .receipt IngressError.rejection
  | .directiveReceipt receipt =>
    (do
      let accepted ← recordAuthenticatedReceipt ports identity receipt
      acknowledgement ports identity accepted : Ingress σ IngressError V1.SupervisorFrameReceipt).answer .receipt IngressError.rejection
  | .contextPacketUse report => (recordUse ports identity report).answer .contextPacketUseAck ContextServiceError.rejection

end

/-- What happens to the server: a frame of an authenticated connection, or whatever else there is. -/
inductive IngressEvent (σ : Type) where
  | frame (identity : Identity) (frame : SupervisorFrame)
  | elsewhere (others : σ)

/-- Frames of any connections, one after another. -/
def supervisorIngress {σ : Type} (ports : IngressPorts σ) (platform : SupervisorPlatform) (others : σ) :
    Machine (IngressWorld σ) (IngressEvent σ) where
  start := ⟨.empty, others⟩
  enabled _ _ := True
  apply world event := match event with
    | .frame identity frame => (frame.handle ports platform identity world).2
    | .elsewhere others => { world with others := others }

end MindLeak.Ackplane
