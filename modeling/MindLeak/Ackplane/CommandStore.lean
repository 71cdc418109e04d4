import MindLeak.Ackplane.Command
import MindLeak.Library.Transactions

/-! The tables that Work commands, directives and the receipts for both are kept in, and what the
statements on them read: each by a key of a table or of a unique index. Texts are such as the
database can hold, and times are as exact there as here. -/

namespace MindLeak.Ackplane

structure WaitKey where
  (tenantId repositoryId waitId : String)
  deriving DecidableEq

structure WorkTaskWait where
  key : WaitKey
  taskId : String
  (answeredBy answer : Option String)
  answeredAt : Option Int

instance : Row WorkTaskWait WaitKey := ⟨WorkTaskWait.key⟩

structure CommandKey where
  (tenantId repositoryId commandId : String)
  deriving DecidableEq

structure CommandIdentity where
  (tenantId repositoryId issuingPrincipalId idempotencyKey : String)
  deriving DecidableEq

structure ReceiptKey where
  (tenantId repositoryId receiptId : String)
  deriving DecidableEq

def CommandKey.report (key : CommandKey) : ReceiptKey := ⟨key.tenantId, key.repositoryId, key.commandId ++ ":directive"⟩

structure DirectiveKey where
  (tenantId repositoryId directiveId : String)
  deriving DecidableEq

structure DirectiveStream where
  (tenantId repositoryId nodeId agentSessionId : String)
  deriving DecidableEq

structure SessionKey where
  (tenantId repositoryId sessionId : String)
  deriving DecidableEq

namespace WorkCommandRow

def key (row : WorkCommandRow) : CommandKey := ⟨row.tenantId, row.repositoryId, row.commandId⟩

def identity (row : WorkCommandRow) : CommandIdentity :=
  ⟨row.tenantId, row.repositoryId, row.issuingPrincipalId, row.idempotencyKey⟩

def issued (row : WorkCommandRow) : Option DirectiveKey :=
  row.directiveId.map fun directiveId => ⟨row.tenantId, row.repositoryId, directiveId⟩

instance : Row WorkCommandRow CommandKey := ⟨key⟩

def issue (row : WorkCommandRow) (directiveId : String) : WorkCommandRow := { row with directiveId := some directiveId }

theorem issue_key (row : WorkCommandRow) (directiveId : String) : Row.key (row.issue directiveId) = Row.key row := rfl

end WorkCommandRow

namespace NewWorkCommandReceipt

def key (receipt : NewWorkCommandReceipt) : ReceiptKey := ⟨receipt.tenantId, receipt.repositoryId, receipt.receiptId⟩

def commandKey (receipt : NewWorkCommandReceipt) : CommandKey :=
  ⟨receipt.tenantId, receipt.repositoryId, receipt.commandId⟩

end NewWorkCommandReceipt

instance : Row WorkCommandReceipt ReceiptKey := ⟨fun row => row.toNewWorkCommandReceipt.key⟩

namespace V1

def AgentDirective.key (directive : AgentDirective) : DirectiveKey :=
  ⟨directive.tenantId, directive.repositoryId, directive.directiveId⟩

def AgentDirective.stream (directive : AgentDirective) : DirectiveStream :=
  ⟨directive.tenantId, directive.repositoryId, directive.targetNodeId, directive.targetAgentSessionId⟩

def AgentDirective.session (directive : AgentDirective) : SessionKey :=
  ⟨directive.tenantId, directive.repositoryId, directive.targetAgentSessionId⟩

def DirectiveReceipt.directiveKey (receipt : DirectiveReceipt) : DirectiveKey :=
  ⟨receipt.tenantId, receipt.repositoryId, receipt.directiveId⟩

end V1

structure DirectiveRecord where
  directive : V1.AgentDirective
  requestDigest : Bytes
  (createdAt expiresAt : Int)
  deriving DecidableEq

instance : Row DirectiveRecord DirectiveKey := ⟨fun row => row.directive.key⟩

structure DirectiveStreamHead where
  stream : DirectiveStream
  position : Int

instance : Row DirectiveStreamHead DirectiveStream := ⟨DirectiveStreamHead.stream⟩

structure DirectiveReceiptRecord where
  receipt : V1.DirectiveReceipt
  receiptDigest : Bytes
  deriving DecidableEq

instance : Row DirectiveReceiptRecord (DirectiveKey × Bytes) := ⟨fun row => (row.receipt.directiveKey, row.receiptDigest)⟩

/-- A supervisor's session, with what the supervisor is registered with. Neither is ever changed. -/
structure SupervisorSessionRow where
  key : SessionKey
  nodeId : String
  capabilities : SupervisorCapabilities

instance : Row SupervisorSessionRow SessionKey := ⟨SupervisorSessionRow.key⟩

structure DirectiveWriteOutcome where
  record : DirectiveRecord
  idempotentReplay : Bool
  deriving DecidableEq

structure DirectiveReceiptOutcome where
  record : DirectiveReceiptRecord
  idempotentReplay : Bool
  deriving DecidableEq

structure CommandStore where
  work : WorkTables
  waits : Table WorkTaskWait
  claims : DelegatedClaims
  commands : Table WorkCommandRow
  receipts : Table WorkCommandReceipt
  sessions : Table SupervisorSessionRow
  directives : Table DirectiveRecord
  directiveHeads : Table DirectiveStreamHead
  directiveReceipts : Table DirectiveReceiptRecord

namespace CommandStore

def empty : CommandStore := ⟨.empty, .empty, .empty, .empty, .empty, .empty, .empty, .empty, .empty⟩

/-- What a statement reads. The slots are what the unique indexes of a table are asked at an insert. -/
inductive View where
  | task (key : TaskKey)
  | workHead (stream : Stream)
  | event (stream : Stream) (eventId : String)
  | eventSlot (stream : Stream) (eventId : String) (position : Int)
  | wait (key : WaitKey)
  | claim (key : ClaimKey)
  | command (key : CommandKey)
  | commandOf (identity : CommandIdentity)
  | commandSlot (key : CommandKey) (identity : CommandIdentity)
  | issuer (directive : DirectiveKey)
  | issuerSlot (key : CommandKey) (directive : DirectiveKey)
  | receipt (key : ReceiptKey)
  | receiptOf (command : CommandKey) (digest : Bytes)
  | receiptSlot (key : ReceiptKey) (command : CommandKey) (digest : Bytes)
  | report (command : CommandKey)
  | session (key : SessionKey)
  | directive (key : DirectiveKey)
  | directiveOf (stream : DirectiveStream) (idempotencyKey : String)
  | directiveSlot (key : DirectiveKey) (stream : DirectiveStream) (idempotencyKey : String) (sequence : Nat)
  | directiveHead (stream : DirectiveStream)
  | directiveReceipt (key : DirectiveKey × Bytes)

abbrev View.Value : View → Type
  | .task _ => Option WorkTaskRow
  | .workHead _ | .directiveHead _ => Int
  | .event _ _ => Option WorkTaskHistoryRow
  | .wait _ => Option WorkTaskWait
  | .claim _ => Option DelegatedClaim
  | .command _ | .commandOf _ | .issuer _ | .issuerSlot _ _ => Option WorkCommandRow
  | .receipt _ | .receiptOf _ _ | .report _ => Option WorkCommandReceipt
  | .session _ => Option SupervisorSessionRow
  | .directive _ | .directiveOf _ _ => Option DirectiveRecord
  | .directiveReceipt _ => Option DirectiveReceiptRecord
  | .eventSlot _ _ _ | .commandSlot _ _ | .receiptSlot _ _ _ | .directiveSlot _ _ _ _ => Bool

def directivePosition (s : CommandStore) (stream : DirectiveStream) : Int :=
  ((s.directiveHeads.find? stream).map DirectiveStreamHead.position).getD 0

def look (s : CommandStore) : (view : View) → view.Value
  | .task key => s.work.tasks.find? key
  | .workHead stream => s.work.headPosition stream
  | .event stream eventId => s.work.history.find? (stream, eventId)
  | .eventSlot stream eventId position =>
    !s.work.history.rows.any fun row => row.stream = stream ∧ (row.event.eventId = eventId ∨ row.streamPosition = position)
  | .wait key => s.waits.find? key
  | .claim key => s.claims.find? key
  | .command key => s.commands.find? key
  | .commandOf identity => s.commands.rows.find? fun row => row.identity = identity
  | .commandSlot key identity => !s.commands.rows.any fun row => row.key = key ∨ row.identity = identity
  | .issuer directive => s.commands.rows.find? fun row => row.issued = some directive
  | .issuerSlot key directive => s.commands.rows.find? fun row => row.key ≠ key ∧ row.issued = some directive
  | .receipt key => s.receipts.find? key
  | .receiptOf command digest =>
    s.receipts.rows.find? fun row => row.commandKey = command ∧ row.receiptDigest = digest
  | .receiptSlot key command digest =>
    !s.receipts.rows.any fun row =>
      row.toNewWorkCommandReceipt.key = key ∨ row.commandKey = command ∧ row.receiptDigest = digest
  | .report command => s.receipts.find? command.report
  | .session key => s.sessions.find? key
  | .directive key => s.directives.find? key
  | .directiveOf stream idempotencyKey =>
    s.directives.rows.find? fun row => row.directive.stream = stream ∧ row.directive.idempotencyKey = idempotencyKey
  | .directiveSlot key stream idempotencyKey sequence =>
    !s.directives.rows.any fun row => row.directive.key = key ∨ row.directive.stream = stream ∧
      (row.directive.idempotencyKey = idempotencyKey ∨ row.directive.sequence = sequence)
  | .directiveHead stream => s.directivePosition stream
  | .directiveReceipt key => s.directiveReceipts.find? key

/-- A row, or an entry of a unique index. -/
inductive Lock where
  | task (key : TaskKey)
  | workHead (stream : Stream)
  | event (stream : Stream) (eventId : String)
  | wait (key : WaitKey)
  | claim (key : ClaimKey)
  | command (key : CommandKey)
  | commandOf (identity : CommandIdentity)
  | issuer (directive : DirectiveKey)
  | receipt (key : ReceiptKey)
  | receiptOf (command : CommandKey) (digest : Bytes)
  | session (key : SessionKey)
  | directive (key : DirectiveKey)
  | directiveOf (stream : DirectiveStream) (idempotencyKey : String)
  | directiveHead (stream : DirectiveStream)
  | directiveReceipt (key : DirectiveKey × Bytes)
  deriving DecidableEq

def commandLock (row : Option WorkCommandRow) : List Lock := (row.map fun row => Lock.command row.key).toList

/-- What is locked with what is read. A command that is found by an index is locked itself too. -/
def guards : (view : View) → view.Value → List Lock
  | .task key, _ => [.task key]
  | .workHead stream, _ => [.workHead stream]
  | .event stream eventId, _ => [.event stream eventId]
  -- The positions of a stream are given out under its head.
  | .eventSlot stream eventId _, _ => [.event stream eventId, .workHead stream]
  | .wait key, _ => [.wait key]
  | .claim key, _ => [.claim key]
  | .command key, _ => [.command key]
  | .commandOf identity, row => .commandOf identity :: commandLock row
  | .commandSlot key identity, _ => [.command key, .commandOf identity]
  | .issuer directive, row => .issuer directive :: commandLock row
  | .issuerSlot key directive, row => .command key :: .issuer directive :: commandLock row
  | .receipt key, _ => [.receipt key]
  | .receiptOf command digest, _ => [.receiptOf command digest]
  | .receiptSlot key command digest, _ => [.receipt key, .receiptOf command digest]
  -- Whoever writes it has the command's row.
  | .report command, _ => [.command command]
  | .session key, _ => [.session key]
  | .directive key, _ => [.directive key]
  | .directiveOf stream idempotencyKey, _ => [.directiveOf stream idempotencyKey]
  | .directiveSlot key stream idempotencyKey _, _ =>
    [.directive key, .directiveOf stream idempotencyKey, .directiveHead stream]
  | .directiveHead stream, _ => [.directiveHead stream]
  | .directiveReceipt key, _ => [.directiveReceipt key]

/-- `UPDATE work_tasks … WHERE` the task's key. -/
def updateTask (s : CommandStore) (key : TaskKey) (set : WorkTaskRow → WorkTaskRow)
    (keeps : ∀ row, (set row).key = row.key := by intro row; rfl) : CommandStore :=
  { s with work := { s.work with tasks := s.work.tasks.update (fun row => row.key = key) set keeps } }

def insertTask (s : CommandStore) (row : WorkTaskRow) : CommandStore :=
  { s with work := { s.work with tasks := s.work.tasks.insertOrIgnore row } }

def advance (s : CommandStore) (stream : Stream) (position : Int) : CommandStore :=
  { s with work := s.work.advance stream position }

def insertEvent (s : CommandStore) (event : WorkEvent) (position : Int) : CommandStore :=
  { s with work := { s.work with history := s.work.history.insertOrIgnore ⟨event, position⟩ } }

def insertWait (s : CommandStore) (row : WorkTaskWait) : CommandStore := { s with waits := s.waits.insertOrIgnore row }

def updateWait (s : CommandStore) (key : WaitKey) (set : WorkTaskWait → WorkTaskWait)
    (keeps : ∀ row, (set row).key = row.key := by intro row; rfl) : CommandStore :=
  { s with waits := s.waits.update (fun row => row.key = key) set keeps }

def withClaims (s : CommandStore) (change : DelegatedClaims → DelegatedClaims) : CommandStore :=
  { s with claims := change s.claims }

def insertCommand (s : CommandStore) (row : WorkCommandRow) : CommandStore :=
  { s with commands := s.commands.insertOrIgnore row }

def issue (s : CommandStore) (key : CommandKey) (directiveId : String) : CommandStore :=
  { s with
    commands := s.commands.update (fun row => row.key = key) (fun row => row.issue directiveId) fun row => row.issue_key directiveId }

def insertReceipt (s : CommandStore) (row : WorkCommandReceipt) : CommandStore :=
  { s with receipts := s.receipts.insertOrIgnore row }

def insertSession (s : CommandStore) (row : SupervisorSessionRow) : CommandStore :=
  { s with sessions := s.sessions.insertOrIgnore row }

def insertDirective (s : CommandStore) (row : DirectiveRecord) : CommandStore :=
  { s with directives := s.directives.insertOrIgnore row }

def advanceDirectives (s : CommandStore) (stream : DirectiveStream) (position : Int) : CommandStore :=
  { s with directiveHeads := s.directiveHeads.put ⟨stream, position⟩ }

def insertDirectiveReceipt (s : CommandStore) (row : DirectiveReceiptRecord) : CommandStore :=
  { s with directiveReceipts := s.directiveReceipts.insertOrIgnore row }

section
variable {ε : Type}

def select (view : View) : Transaction CommandStore View View.Value ε view.Value := .read view

def selectLocked (view : View) : Transaction CommandStore View View.Value ε view.Value := .lock view

def selectIf (view : View) (takes : view.Value → Bool) : Transaction CommandStore View View.Value ε view.Value :=
  .lockIf view takes

def execute (update : CommandStore → CommandStore) : Transaction CommandStore View View.Value ε Unit := .store update

end

end CommandStore

abbrev CommandTransaction (ε α : Type) : Type := Transaction CommandStore CommandStore.View CommandStore.View.Value ε α

/-! The directive ledger's transactions: a directive takes its place in its session's stream, and
a receipt is kept once for all that it says. -/

/-- The largest number that the database counts to. -/
def I64_MAX : Int := 9223372036854775807

namespace DirectiveStore
open CommandStore

def targetCapabilities (directive : V1.AgentDirective) : CommandTransaction DirectiveStoreError SupervisorCapabilities := do
  match ← select (.session directive.session) with
  | none => .fail .unknownSupervisorSession
  | some session =>
    if session.nodeId ≠ directive.targetNodeId then .fail .targetNodeMismatch
    else
      match session.capabilities.validate with
      | .error error => .fail (.supervisor error)
      | .ok () => .pure session.capabilities

def replayOrConflict (record : DirectiveRecord) (requestDigest : Bytes) :
    CommandTransaction DirectiveStoreError DirectiveWriteOutcome :=
  if record.requestDigest ≠ requestDigest then .fail .idempotencyConflict else .pure ⟨record, true⟩

/-- `lock_stream`: a head that is not there yet is made at none. -/
def lockStream (stream : DirectiveStream) : CommandTransaction DirectiveStoreError Int := do
  let position ← selectLocked (.directiveHead stream)
  execute (·.advanceDirectives stream position)
  .pure position

def sequenced (directive : V1.AgentDirective) (position : Int) (createdAt : String) : V1.AgentDirective :=
  { directive with sequence := position.toNat, createdAt := createdAt }

/-- What the table checks of a row, behind the checks of the request. -/
def Fits (platform : DirectivePlatform) (directive : V1.AgentDirective) : Prop :=
  0 < (platform.encodeDirective directive).length ∧
    (platform.encodeDirective directive).length ≤ Directive.MAX_PAYLOAD_BYTES

instance (platform : DirectivePlatform) (directive : V1.AgentDirective) : Decidable (Fits platform directive) :=
  inferInstanceAs (Decidable (_ ∧ _))

def insertAt (platform : DirectivePlatform) (directive : V1.AgentDirective) (expiresAt : Int) (now position : Int)
    (createdAt : String) : CommandTransaction DirectiveStoreError DirectiveWriteOutcome := do
  let stored := sequenced directive position createdAt
  if ¬Fits platform stored then .fail .database
  else
    let free ← selectIf (.directiveSlot stored.key stored.stream stored.idempotencyKey stored.sequence) id
    if free then
      let record : DirectiveRecord := ⟨stored, Directive.requestDigest platform directive, now, expiresAt⟩
      execute (·.insertDirective record)
      execute (·.advanceDirectives stored.stream position)
      .pure ⟨record, false⟩
    else
      match ← select (.directive stored.key) with
      | some record => replayOrConflict record (Directive.requestDigest platform directive)
      | none =>
        match ← select (.directiveOf stored.stream stored.idempotencyKey) with
        | some record => replayOrConflict record (Directive.requestDigest platform directive)
        | none => .fail .idempotencyConflict

/-- What follows the look for an earlier record. -/
def append (platform : DirectivePlatform) (directive : V1.AgentDirective) (expiresAt now : Int) :
    CommandTransaction DirectiveStoreError DirectiveWriteOutcome := do
  let current ← lockStream directive.stream
  if I64_MAX < current + 1 ∨ current + 1 ≤ 0 then .fail .sequenceExhausted
  else
    match Directive.formatTimestamp platform now with
    | .error error => .fail error
    | .ok createdAt => insertAt platform directive expiresAt now (current + 1) createdAt

def enqueueInTransaction (platform : DirectivePlatform) (directive : V1.AgentDirective) (now : Int) :
    CommandTransaction DirectiveStoreError DirectiveWriteOutcome := do
  match Directive.validate platform directive now with
  | .error error => .fail error
  | .ok (requirement, expiresAt) =>
    let capabilities ← targetCapabilities directive
    if requirement.capability ∉ capabilities.supportedDirectives then .fail .capabilityMissing
    else
      match ← select (.directive directive.key) with
      | some record => replayOrConflict record (Directive.requestDigest platform directive)
      | none =>
        match ← select (.directiveOf directive.stream directive.idempotencyKey) with
        | some record => replayOrConflict record (Directive.requestDigest platform directive)
        | none => append platform directive expiresAt now

def enqueue (platform : DirectivePlatform) (directive : V1.AgentDirective) (now : Int) :
    CommandTransaction DirectiveStoreError DirectiveWriteOutcome :=
  enqueueInTransaction platform directive (Directive.normalizeTimestamp now)

def recordReceipt (platform : DirectivePlatform) (receipt : V1.DirectiveReceipt) :
    CommandTransaction DirectiveStoreError DirectiveReceiptOutcome := do
  match ← select (.directive receipt.directiveKey) with
  | none => .fail .unknownDirective
  | some directive =>
    match receipt.validate platform directive.directive directive.createdAt with
    | .error error => .fail error
    | .ok _ =>
      let record : DirectiveReceiptRecord := ⟨receipt, receipt.digest platform⟩
      match ← selectIf (.directiveReceipt (receipt.directiveKey, record.receiptDigest)) Option.isNone with
      | some existing => .pure ⟨existing, true⟩
      | none => do
        execute (·.insertDirectiveReceipt record)
        .pure ⟨record, false⟩

def MAX_DELIVERY_BATCH : Int := 32

end DirectiveStore

def CommandStore.pendingForSession (s : CommandStore) (stream : DirectiveStream) (limit : Int) : List V1.AgentDirective :=
  let owed := s.directives.rows.filter fun row => row.directive.stream = stream ∧
    ¬s.directiveReceipts.rows.any fun receipt => receipt.receipt.directiveKey = row.directive.key
  ((owed.mergeSort fun one other => one.directive.sequence ≤ other.directive.sequence).take
    (max 1 (min limit DirectiveStore.MAX_DELIVERY_BATCH)).toNat).map DirectiveRecord.directive

end MindLeak.Ackplane
