import MindLeak.Ackplane.Inbox
import Mathlib.Data.List.Sort

/-! The durable outbox of a supervisor's session: frames in bytes under the numbers they were given,
until the server has accepted them, and how far both sides are. -/

namespace MindLeak.Ackplane

namespace V1

structure SupervisorLifecycleReceipt where
  (supervisorId sessionId workerId occurredAt : String)
  (state reason : Int)
  idempotencyKey : String
  outboxSequence : Option Nat
  deriving DecidableEq

structure ContextPacketUseReport where
  receiptJson : Bytes
  outboxSequence : Option Nat
  deriving DecidableEq

/-- A frame of a supervisor, read as far as the outbox reads it. -/
inductive SupervisorFrame where
  | directiveReceipt (receipt : DirectiveReceipt)
  | supervisorLifecycleReceipt (receipt : SupervisorLifecycleReceipt)
  | contextPacketUseReport (report : ContextPacketUseReport)
  | other (frame : NodeFrame)
  deriving DecidableEq

def SupervisorFrame.isLifecycleReceipt : SupervisorFrame → Bool
  | .supervisorLifecycleReceipt _ => true
  | _ => false

end V1

structure FrameCodec where
  encode : V1.SupervisorFrame → Bytes
  decode : Bytes → Option V1.SupervisorFrame

inductive OutboxError where
  | missingSession
  | unsupportedFrame
  | supervisor (error : SupervisorError)
  | sessionSupervisorMismatch
  | database
  | outboxIdentityMismatch
  | sequenceMustBePositive
  | sequenceOutOfRange
  | sequenceGap (expected received : Nat)
  | frameConflict (sequence : Nat)
  | nonPositiveLimit
  | corruptStoredFrame (sequence : Nat)
  | unsupportedStoredEncoding (sequence : Nat)
  | recoveryEvidence (diagnostic : String)

inductive QueueOutcome where
  | queued | replayed

structure QueuedFrame where
  sequence : Nat
  frame : V1.SupervisorFrame

structure OutboxPositions where
  (acknowledged lastEnqueued : Nat)

/-- A row of `outbound_frames`, and of `acknowledged_lifecycle_receipts`. -/
structure StoredFrame where
  sequence : Nat
  frame : Bytes

instance : Row StoredFrame Nat := ⟨StoredFrame.sequence⟩

structure StoppedWorkerRun where
  marker : Bytes
  sequence : Nat
  frame : Bytes

structure OutboxTables where
  binding : Option InboxBinding
  (outboundFrames acknowledgedLifecycleReceipts : Table StoredFrame)
  stoppedWorkerRun : Option StoppedWorkerRun
  lastSequence : Option Nat

structure SupervisorOutbox where
  registration : SupervisorRegistration
  session : SupervisorSession
  deriving DecidableEq

/-- `i64::MAX`. -/
def MAX_SEQUENCE : Nat := 9223372036854775807

def positiveSequence (sequence : Nat) : Except OutboxError Nat := do
  refuseIf (MAX_SEQUENCE < sequence) .sequenceOutOfRange
  refuseIf (sequence = 0) .sequenceMustBePositive
  .ok sequence

/-- The frame with the place it takes in the outbox, where it has a field for it. -/
def V1.SupervisorFrame.stamp (sequence : Nat) : V1.SupervisorFrame → Option V1.SupervisorFrame
  | .directiveReceipt receipt => some (.directiveReceipt { receipt with outboxSequence := some sequence })
  | .supervisorLifecycleReceipt receipt => some (.supervisorLifecycleReceipt { receipt with outboxSequence := some sequence })
  | .contextPacketUseReport report => some (.contextPacketUseReport { report with outboxSequence := some sequence })
  | .other _ => none

def terminalStates : List Int := [5, 9, 6]

/-- Whether a record of the end of a run goes with the frame. -/
def SupervisorOutbox.describesStop (outbox : SupervisorOutbox) (marker : Bytes) : V1.SupervisorFrame → Except OutboxError Unit
  | .supervisorLifecycleReceipt receipt =>
    refuseIf (marker = [] ∨ 64 * 1024 < marker.length ∨ receipt.supervisorId ≠ outbox.session.supervisorId ∨
      receipt.sessionId ≠ outbox.session.sessionId ∨ receipt.workerId ≠ outbox.session.workerId ∨ receipt.state ∉ terminalStates)
      (.recoveryEvidence "stop record does not describe this terminal worker")
  | _ => .error (.recoveryEvidence "stop record requires a lifecycle receipt")

namespace OutboxTables

def empty : OutboxTables := ⟨none, .empty, .empty, none, none⟩

def configure (tables : OutboxTables) : OutboxTables :=
  { tables with lastSequence := some (tables.lastSequence.getD ((tables.outboundFrames.rows.map StoredFrame.sequence).foldr max 0)) }

/-- `ensure_supervisor_identity`, and what `from_connection` makes of it. A session that differs in
its start alone is the one that is bound. -/
def ensureSupervisorIdentity (tables : OutboxTables) (registration : SupervisorRegistration) (session : SupervisorSession) :
    Except OutboxError (SupervisorSession × OutboxTables) :=
  match tables.binding with
  | none =>
    .ok (session, { tables with binding := some ⟨registration.identity, registration.supervisorId, session.sessionId, some session⟩ })
  | some bound =>
    if bound.identity ≠ registration.identity ∨ bound.supervisorId ≠ registration.supervisorId ∨ bound.sessionId ≠ session.sessionId then
      .error .outboxIdentityMismatch
    else
      match bound.session with
      | none => .error .missingSession
      | some stored =>
        if stored = { session with startedAt := stored.startedAt } then .ok (stored, tables) else .error .outboxIdentityMismatch

def nextSequence (tables : OutboxTables) : Except OutboxError Nat :=
  match tables.lastSequence with
  | none => .error .database
  -- Beyond its integers the database counts on in floating point, which cannot be read back.
  | some last => if last < MAX_SEQUENCE then .ok (last + 1) else .error .database

/-- `store_outbound_frame` and `record_outbound_sequence`. -/
def storeOutboundFrame (tables : OutboxTables) (sequence : Nat) (frame : Bytes) : Except OutboxError OutboxTables :=
  match tables.outboundFrames.insert? ⟨sequence, frame⟩ with
  | none => .error .database
  | some outboundFrames => .ok { tables with outboundFrames, lastSequence := tables.lastSequence.map fun _ => sequence }

section
variable (codec : FrameCodec) (tables : OutboxTables)

def enqueue (sequence : Nat) (frame : V1.SupervisorFrame) : Except OutboxError (QueueOutcome × OutboxTables) := do
  let sequence ← positiveSequence sequence
  match tables.outboundFrames.find? sequence with
  | some existing => if existing.frame = codec.encode frame then .ok (.replayed, tables) else .error (.frameConflict sequence)
  | none => do
    let expected ← tables.nextSequence
    refuseIf (sequence ≠ expected) (.sequenceGap expected sequence)
    let tables ← tables.storeOutboundFrame sequence (codec.encode frame)
    .ok (.queued, tables)

def recordStop (outbox : SupervisorOutbox) (marker : Option Bytes) (sequence : Nat) (frame : V1.SupervisorFrame) :
    Except OutboxError OutboxTables :=
  match marker with
  | none => .ok tables
  | some marker => do
    outbox.describesStop marker frame
    if tables.stoppedWorkerRun = none then
      .ok { tables with stoppedWorkerRun := some ⟨marker, sequence, codec.encode frame⟩ }
    else .error .database

/-- `enqueue_next` is this without a marker. -/
def enqueueWithStop (outbox : SupervisorOutbox) (frame : V1.SupervisorFrame) (marker : Option Bytes) :
    Except OutboxError (QueuedFrame × OutboxTables) := do
  let sequence ← tables.nextSequence
  match frame.stamp sequence with
  | none => .error .unsupportedFrame
  | some frame => do
    let tables ← tables.recordStop codec outbox marker sequence frame
    let tables ← tables.storeOutboundFrame sequence (codec.encode frame)
    .ok (⟨sequence, frame⟩, tables)

def enqueueNext (outbox : SupervisorOutbox) (frame : V1.SupervisorFrame) : Except OutboxError (QueuedFrame × OutboxTables) :=
  tables.enqueueWithStop codec outbox frame none

def decodeQueued (stored : StoredFrame) : Except OutboxError QueuedFrame :=
  match codec.decode stored.frame with
  | none => .error (.corruptStoredFrame stored.sequence)
  | some frame =>
    if codec.encode frame = stored.frame then .ok ⟨stored.sequence, frame⟩
    else .error (.unsupportedStoredEncoding stored.sequence)

def pendingFrames : List StoredFrame := tables.outboundFrames.rows.insertionSort fun a b => a.sequence ≤ b.sequence

def pending (limit : Nat) : Except OutboxError (List QueuedFrame) :=
  if limit = 0 then .error .nonPositiveLimit else (tables.pendingFrames.take limit).mapM (decodeQueued codec)

/-- One frame of `acknowledge_outbound_frames`: a lifecycle receipt is kept. -/
def retain (retained : Table StoredFrame) (stored : StoredFrame) : Except OutboxError (Table StoredFrame) :=
  match codec.decode stored.frame with
  | none => .error .database
  | some frame =>
    if frame.isLifecycleReceipt then
      match retained.insert? stored with
      | none => .error .database
      | some retained => .ok retained
    else .ok retained

def acknowledgeThrough (sequence : Nat) : Except OutboxError (Nat × OutboxTables) := do
  let sequence ← positiveSequence sequence
  let covered := tables.pendingFrames.filter fun stored => stored.sequence ≤ sequence
  let retained ← covered.foldlM (retain codec) tables.acknowledgedLifecycleReceipts
  .ok (covered.length,
    { tables with
      outboundFrames := tables.outboundFrames.delete fun stored => stored.sequence ≤ sequence
      acknowledgedLifecycleReceipts := retained })

end

/-- `outbound_positions`: what is acknowledged is what the oldest frame that is left stands behind. -/
def positions (tables : OutboxTables) : Except OutboxError OutboxPositions :=
  match tables.lastSequence with
  | none => .error .database
  | some last =>
    match (tables.outboundFrames.rows.map StoredFrame.sequence).min? with
    | some oldest => .ok ⟨oldest - 1, last⟩
    | none => .ok ⟨last, last⟩

end OutboxTables

/-- `from_connection` on a connection that can write. What the schema adds stays when the identity is another's. -/
def SupervisorOutbox.fromConnection (tables : OutboxTables) (registration : SupervisorRegistration) (session : SupervisorSession) :
    Except OutboxError SupervisorOutbox × OutboxTables :=
  let checked : Except OutboxError Unit := do
    registration.validate.mapError .supervisor
    session.validate.mapError .supervisor
    refuseIf (session.supervisorId ≠ registration.supervisorId) .sessionSupervisorMismatch
  match checked with
  | .error error => (.error error, tables)
  | .ok () =>
    match tables.configure.ensureSupervisorIdentity registration session with
    | .error error => (.error error, tables.configure)
    | .ok (bound, tables) => (.ok ⟨registration, bound⟩, tables)

structure OutboxState where
  tables : OutboxTables
  process : Option SupervisorOutbox

inductive OutboxOp where
  | «open» (registration : SupervisorRegistration) (session : SupervisorSession)
  | enqueue (sequence : Nat) (frame : V1.SupervisorFrame)
  | enqueueWithStop (frame : V1.SupervisorFrame) (marker : Option Bytes)
  | acknowledgeThrough (sequence : Nat)
  /-- The process ends, before or behind a commit. -/
  | crash

/-- What an operation answers. -/
inductive OutboxAnswer where
  | opened
  | queued (frame : QueuedFrame)
  | replayed
  | acknowledged (removed : Nat)
  | refused (error : OutboxError)
  | silent

namespace OutboxState

def empty : OutboxState := ⟨.empty, none⟩

/-- What an operation makes of the outbox, and what it answers. One that fails has its transaction rolled back. -/
def step (codec : FrameCodec) (s : OutboxState) (op : OutboxOp) : OutboxState × OutboxAnswer :=
  match op, s.process with
  | .open registration session, none =>
    match SupervisorOutbox.fromConnection s.tables registration session with
    | (.error error, tables) => (⟨tables, none⟩, .refused error)
    | (.ok outbox, tables) => (⟨tables, some outbox⟩, .opened)
  | .enqueue sequence frame, some outbox =>
    match s.tables.enqueue codec sequence frame with
    | .error error => (s, .refused error)
    | .ok (.queued, tables) => (⟨tables, some outbox⟩, .queued ⟨sequence, frame⟩)
    | .ok (.replayed, tables) => (⟨tables, some outbox⟩, .replayed)
  | .enqueueWithStop frame marker, some outbox =>
    match s.tables.enqueueWithStop codec outbox frame marker with
    | .error error => (s, .refused error)
    | .ok (queued, tables) => (⟨tables, some outbox⟩, .queued queued)
  | .acknowledgeThrough sequence, some outbox =>
    match s.tables.acknowledgeThrough codec sequence with
    | .error error => (s, .refused error)
    | .ok (removed, tables) => (⟨tables, some outbox⟩, .acknowledged removed)
  | .crash, _ => (⟨s.tables, none⟩, .silent)
  | _, _ => (s, .silent)

end OutboxState

end MindLeak.Ackplane
