import Mathlib
import MindLeak.Ackplane.HumanDelegation
import MindLeak.Library.Refusals

/-! Where delegations are kept, and the three calls on them, each one transaction. A row is kept as
what it is read back as: an insert reads its row back before the commit. -/

namespace MindLeak.Ackplane

structure DelegationKey where
  (tenantId repositoryId delegationId : String)
  deriving DecidableEq

def DelegationKey.stream (key : DelegationKey) : Stream := ⟨key.tenantId, key.repositoryId⟩

structure DelegationEventRow where
  stream : Stream
  event : DelegationEvent

def DelegationEventRow.key (row : DelegationEventRow) : DelegationKey :=
  ⟨row.stream.tenantId, row.stream.repositoryId, row.event.delegationId⟩

structure DelegationProjectionRow where
  stream : Stream
  projection : DelegationProjection

def DelegationProjectionRow.key (row : DelegationProjectionRow) : DelegationKey :=
  ⟨row.stream.tenantId, row.stream.repositoryId, row.projection.delegationId⟩

instance : Row DelegationProjectionRow DelegationKey := ⟨DelegationProjectionRow.key⟩

structure DelegationUseRow where
  stream : Stream
  receipt : DelegationUseReceipt
  idempotencyKey : String
  payloadDigest : Bytes
  deriving DecidableEq

def DelegationUseRow.key (row : DelegationUseRow) : DelegationKey :=
  ⟨row.stream.tenantId, row.stream.repositoryId, row.receipt.delegationId⟩

structure DelegationStreamHead where
  stream : Stream
  position : Nat

instance : Row DelegationStreamHead Stream := ⟨DelegationStreamHead.stream⟩

namespace DelegationGrantRequest

def stream (request : DelegationGrantRequest) : Stream := ⟨request.tenantId, request.repositoryId⟩

def normalize (request : DelegationGrantRequest) : DelegationGrantRequest :=
  { request with
    effectiveAt := Directive.normalizeTimestamp request.effectiveAt
    expiresAt := Directive.normalizeTimestamp request.expiresAt }

def event (request : DelegationGrantRequest) (actions : List DelegatedAction) (delegationId : String) (position : Nat)
    (digest : Bytes) (recordedAt : Int) : DelegationEvent where
  delegationId := delegationId
  streamPosition := position
  actorPrincipalId := request.verifiedIssuerPrincipalId
  expectedPriorVersion := 0
  resultingVersion := 1
  idempotencyKey := request.idempotencyKey
  payloadDigest := digest
  recordedAt := recordedAt
  payload := .granted { request.toDelegationGrantPayload with allowedActions := actions }

def projection (request : DelegationGrantRequest) (actions : List DelegatedAction) (delegationId : String) (position : Nat)
    (recordedAt : Int) : DelegationProjection where
  toDelegationGrantPayload := { request.toDelegationGrantPayload with allowedActions := actions }
  delegationId := delegationId
  issuerPrincipalId := request.verifiedIssuerPrincipalId
  issuedAt := recordedAt
  status := .active
  version := 1
  sourceEventPosition := position
  revokedAt := none
  revokedByPrincipalId := none
  revocationReason := none

end DelegationGrantRequest

namespace DelegationRevocationRequest

def stream (request : DelegationRevocationRequest) : Stream := ⟨request.tenantId, request.repositoryId⟩

def key (request : DelegationRevocationRequest) : DelegationKey := ⟨request.tenantId, request.repositoryId, request.delegationId⟩

def event (request : DelegationRevocationRequest) (position : Nat) (resultingVersion : UInt32) (digest : Bytes)
    (recordedAt : Int) : DelegationEvent where
  delegationId := request.delegationId
  streamPosition := position
  actorPrincipalId := request.verifiedRevokerPrincipalId
  expectedPriorVersion := request.expectedVersion
  resultingVersion := resultingVersion
  idempotencyKey := request.idempotencyKey
  payloadDigest := digest
  recordedAt := recordedAt
  payload := .revoked request.reason

def set (request : DelegationRevocationRequest) (position : Nat) (resultingVersion : UInt32) (recordedAt : Int)
    (row : DelegationProjectionRow) : DelegationProjectionRow :=
  { row with
    projection := { row.projection with
      status := .revoked
      version := resultingVersion
      sourceEventPosition := position
      revokedAt := some recordedAt
      revokedByPrincipalId := some request.verifiedRevokerPrincipalId
      revocationReason := some request.reason } }

end DelegationRevocationRequest

namespace DelegationUseRequest

def stream (request : DelegationUseRequest) : Stream := ⟨request.tenantId, request.repositoryId⟩

def key (request : DelegationUseRequest) : DelegationKey := ⟨request.tenantId, request.repositoryId, request.delegationId⟩

end DelegationUseRequest

structure HumanDelegations where
  heads : Table DelegationStreamHead
  /-- As they were written. -/
  events : List DelegationEventRow
  projections : Table DelegationProjectionRow
  receipts : List DelegationUseRow

namespace HumanDelegations

def empty : HumanDelegations := ⟨.empty, [], .empty, []⟩

/-- A stream without a head is given one at no position, which whoever asks for it locks. -/
def position (s : HumanDelegations) (stream : Stream) : Nat := ((s.heads.find? stream).map DelegationStreamHead.position).getD 0

def projection? (s : HumanDelegations) (key : DelegationKey) : Option DelegationProjection :=
  (s.projections.find? key).map DelegationProjectionRow.projection

def eventOf? (s : HumanDelegations) (stream : Stream) (idempotencyKey : String) : Option DelegationEvent :=
  (s.events.find? fun row => row.stream = stream ∧ row.event.idempotencyKey = idempotencyKey).map DelegationEventRow.event

def grantEvent? (s : HumanDelegations) (key : DelegationKey) : Option DelegationEvent :=
  (s.events.find? fun row => row.key = key ∧ row.event.kind = .granted).map DelegationEventRow.event

def receiptOf? (s : HumanDelegations) (key : DelegationKey) (idempotencyKey : String) : Option DelegationUseRow :=
  s.receipts.find? fun row => row.key = key ∧ row.idempotencyKey = idempotencyKey

def authorized (s : HumanDelegations) (key : DelegationKey) : List DelegationUseRow :=
  s.receipts.filter fun row => row.key = key ∧ row.receipt.status = .authorized

def usage (s : HumanDelegations) (key : DelegationKey) : Nat × Nat :=
  ((s.authorized key).length, ((s.authorized key).map fun row => row.receipt.reservedTokenBudget.toNat).sum)

/-- What a statement reads. The slots are what the unique indexes are asked at an insert. -/
inductive View where
  | head (stream : Stream)
  | event (stream : Stream) (idempotencyKey : String)
  | eventSlot (stream : Stream) (position : Nat) (idempotencyKey : String)
  | grantEvent (key : DelegationKey)
  | projection (key : DelegationKey)
  | receipt (key : DelegationKey) (idempotencyKey : String)
  | receiptSlot (key : DelegationKey) (receiptId : Nat) (idempotencyKey : String)
  | usage (key : DelegationKey)

abbrev View.Value : View → Type
  | .head _ => Nat
  | .event _ _ | .grantEvent _ => Option DelegationEvent
  | .eventSlot _ _ _ | .receiptSlot _ _ _ => Bool
  | .projection _ => Option DelegationProjection
  | .receipt _ _ => Option DelegationUseRow
  | .usage _ => Nat × Nat

def look (s : HumanDelegations) : (view : View) → view.Value
  | .head stream => s.position stream
  | .event stream idempotencyKey => s.eventOf? stream idempotencyKey
  | .eventSlot stream position idempotencyKey =>
    !s.events.any fun row => row.stream = stream ∧
      (row.event.streamPosition = position ∨ row.event.idempotencyKey = idempotencyKey)
  | .grantEvent key => s.grantEvent? key
  | .projection key => s.projection? key
  | .receipt key idempotencyKey => s.receiptOf? key idempotencyKey
  | .receiptSlot key receiptId idempotencyKey =>
    !s.receipts.any fun row => row.key = key ∧ (row.receipt.receiptId = receiptId ∨ row.idempotencyKey = idempotencyKey)
  | .usage key => s.usage key

inductive Lock where
  | head (stream : Stream)
  | projection (key : DelegationKey)
  deriving DecidableEq

def guards : (view : View) → view.Value → List Lock
  | .head stream, _ | .event stream _, _ | .eventSlot stream _ _, _ => [.head stream]
  | .grantEvent key, _ => [.head key.stream]
  | .projection key, none => [.head key.stream]
  | .projection key, some _ => [.projection key]
  | .receipt key _, _ | .receiptSlot key _ _, _ | .usage key, _ => [.projection key]

def insertEvent (s : HumanDelegations) (row : DelegationEventRow) : HumanDelegations := { s with events := s.events ++ [row] }

def insertProjection (s : HumanDelegations) (row : DelegationProjectionRow) : HumanDelegations :=
  { s with projections := s.projections.insertOrIgnore row }

def updateProjection (s : HumanDelegations) (key : DelegationKey) (set : DelegationProjectionRow → DelegationProjectionRow)
    (keeps : ∀ row, (set row).key = row.key := by intro row; rfl) : HumanDelegations :=
  { s with projections := s.projections.update (fun row => row.key = key) set keeps }

def advance (s : HumanDelegations) (stream : Stream) (position : Nat) : HumanDelegations :=
  { s with heads := s.heads.put ⟨stream, position⟩ }

def insertReceipt (s : HumanDelegations) (row : DelegationUseRow) : HumanDelegations := { s with receipts := s.receipts ++ [row] }

section
variable {ε : Type}

def selectLocked (view : View) : Transaction HumanDelegations View View.Value ε view.Value := .lock view

def selectIf (view : View) (takes : view.Value → Bool) : Transaction HumanDelegations View View.Value ε view.Value :=
  .lockIf view takes

def execute (update : HumanDelegations → HumanDelegations) : Transaction HumanDelegations View View.Value ε Unit := .store update

end

end HumanDelegations

abbrev DelegationTransaction (ε α : Type) : Type :=
  Transaction HumanDelegations HumanDelegations.View HumanDelegations.View.Value ε α

namespace HumanDelegation
open HumanDelegations Directive

def nextStreamPosition (current : Nat) : Except DelegationStoreError Nat :=
  if I64_MAX ≤ current then .error .streamPositionExhausted else .ok (current + 1)

def decodePayload : DelegationEventPayload → Except DelegationStoreError Unit
  | .granted grant => validateStoredGrantPayload grant
  | .revoked reason => refuseIf (¬IsText MAX_REASON_BYTES reason) .invalidStoredPayload

def insertEvent (stream : Stream) (event : DelegationEvent) : DelegationTransaction DelegationStoreError Unit := do
  let free ← selectLocked (.eventSlot stream event.streamPosition event.idempotencyKey)
  if free then do
    execute (·.insertEvent ⟨stream, event⟩)
    .ofExcept (decodePayload event.payload)
  else .fail .database

def insertProjection (row : DelegationProjectionRow) : DelegationTransaction DelegationStoreError Unit := do
  match ← selectIf (.projection row.key) Option.isNone with
  | some _ => .fail .database
  | none => execute (·.insertProjection row)

def grantEventFromTransaction (key : DelegationKey) : DelegationTransaction DelegationStoreError DelegationEvent := do
  match ← selectLocked (.grantEvent key) with
  | none => .fail .invalidStoredPayload
  | some event => .pure event

def outcomeAt (grantEvent event : DelegationEvent) (replay : Bool) : Except DelegationStoreError DelegationOutcome := do
  let projection ← projectionAtEvent grantEvent event
  .ok ⟨projection, event, replay⟩

def idempotentOutcome (stream : Stream) (idempotencyKey : String) (expectedKind : DelegationEventKind)
    (expectedPayloadDigest : Bytes) : DelegationTransaction DelegationStoreError (Option DelegationOutcome) := do
  match ← selectLocked (.event stream idempotencyKey) with
  | none => .pure none
  | some event =>
    if event.kind ≠ expectedKind ∨ event.payloadDigest ≠ expectedPayloadDigest then .fail .idempotencyConflict
    else do
      let grantEvent ←
        (if event.kind = .granted then .pure event
          else grantEventFromTransaction ⟨stream.tenantId, stream.repositoryId, event.delegationId⟩)
      let outcome ← .ofExcept (outcomeAt grantEvent event true)
      .pure (some outcome)

def recordGrant (request : DelegationGrantRequest) (codes : List Nat) (digest : Bytes) (delegationId : String) (recordedAt : Int) :
    DelegationTransaction DelegationStoreError DelegationOutcome := do
  let current ← selectLocked (.head request.stream)
  match ← idempotentOutcome request.stream request.idempotencyKey .granted digest with
  | some outcome => .pure outcome
  | none => do
    let position ← .ofExcept (nextStreamPosition current)
    let actions ← .ofExcept (actionsFromCodes codes)
    let event := request.event actions delegationId position digest recordedAt
    insertEvent request.stream event
    insertProjection ⟨request.stream, request.projection actions delegationId position recordedAt⟩
    execute (·.advance request.stream position)
    .ofExcept (outcomeAt event event false)

/-- `now` is the clock's when the call is checked, `recordedAt` the database's; the identity is drawn at random. -/
def grant (platform : Platform) (request : DelegationGrantRequest) (now : Int) (delegationId : String) (recordedAt : Int) :
    DelegationTransaction DelegationStoreError DelegationOutcome := do
  let request := request.normalize
  .ofExcept (validateGrant request (normalizeTimestamp now))
  let codes ← .ofExcept (actionCodes request.allowedActions)
  recordGrant request codes (grantPayloadDigest platform request codes) delegationId recordedAt

def revokeProjection (request : DelegationRevocationRequest) (digest : Bytes) (recordedAt : Int) (current : Nat)
    (projection : DelegationProjection) : DelegationTransaction DelegationStoreError DelegationOutcome :=
  if projection.status = .revoked then .fail .alreadyRevoked
  else if projection.version ≠ request.expectedVersion then .fail .versionConflict
  else do
    let position ← .ofExcept (nextStreamPosition current)
    -- The request's version is below that of the column's type.
    let resultingVersion := request.expectedVersion + 1
    let event := request.event position resultingVersion digest recordedAt
    insertEvent request.stream event
    execute (·.updateProjection request.key (request.set position resultingVersion recordedAt))
    execute (·.advance request.stream position)
    let grantEvent ← grantEventFromTransaction request.key
    .ofExcept (outcomeAt grantEvent event false)

def revoke (platform : Platform) (request : DelegationRevocationRequest) (recordedAt : Int) :
    DelegationTransaction DelegationStoreError DelegationOutcome := do
  .ofExcept (validateRevocation request)
  let digest := revocationPayloadDigest platform request
  let current ← selectLocked (.head request.stream)
  match ← idempotentOutcome request.stream request.idempotencyKey .revoked digest with
  | some outcome => .pure outcome
  | none =>
    match ← selectIf (.projection request.key) Option.isSome with
    | none => .fail .notFound
    | some projection => revokeProjection request digest recordedAt current projection

def insertReceipt (request : DelegationUseRequest) (projection : DelegationProjection) (refusal : Option DelegationUseRefusal)
    (digest : Bytes) (receiptId : Nat) (recordedAt : Int) : DelegationTransaction DelegationUseError DelegationUseReceipt :=
  if I32_MAX < projection.version.toNat then .fail .invalidStoredReceipt
  else do
    let free ← selectLocked (.receiptSlot request.key receiptId request.idempotencyKey)
    let receipt := request.receipt projection refusal receiptId recordedAt
    if free then do
      execute (·.insertReceipt ⟨request.stream, receipt, request.idempotencyKey, digest⟩)
      .pure receipt
    else .fail .database

def recordUse (request : DelegationUseRequest) (now : Int) (digest : Bytes) (receiptId : Nat) (recordedAt : Int)
    (projection : DelegationProjection) : DelegationTransaction DelegationUseError DelegationUseOutcome := do
  let usage ← selectLocked (.usage request.key)
  let refusal := projection.refusalFor request now usage.1 usage.2
  let receipt ← insertReceipt request projection refusal digest receiptId recordedAt
  .pure ⟨receipt, false⟩

/-- `now` is the server's clock; the receipt's number comes from a sequence. -/
def authorizeUse (platform : Platform) (request : DelegationUseRequest) (now : Int) (receiptId : Nat) (recordedAt : Int) :
    DelegationTransaction DelegationUseError DelegationUseOutcome := do
  .ofExcept request.validate
  let digest := request.digest platform
  match ← selectIf (.projection request.key) Option.isSome with
  | none => .fail .notFound
  | some projection =>
    match ← selectLocked (.receipt request.key request.idempotencyKey) with
    | some row => if row.payloadDigest ≠ digest then .fail .idempotencyConflict else .pure ⟨row.receipt, true⟩
    | none => recordUse request (normalizeTimestamp now) digest receiptId recordedAt projection

end HumanDelegation

inductive HumanDelegationCall where
  | grant (request : DelegationGrantRequest) (now : Int) (delegationId : String) (recordedAt : Int)
  | revoke (request : DelegationRevocationRequest) (recordedAt : Int)
  | authorizeUse (request : DelegationUseRequest) (now : Int) (receiptId : Nat) (recordedAt : Int)

inductive HumanDelegationError where
  | store (error : DelegationStoreError)
  | use (error : DelegationUseError)

inductive HumanDelegationAnswer where
  | written (outcome : DelegationOutcome)
  | used (outcome : DelegationUseOutcome)

def HumanDelegationCall.program (platform : Platform) :
    HumanDelegationCall → DelegationTransaction HumanDelegationError HumanDelegationAnswer
  | .grant request now delegationId recordedAt => do
    let outcome ← (HumanDelegation.grant platform request now delegationId recordedAt).mapError .store
    .pure (.written outcome)
  | .revoke request recordedAt => do
    let outcome ← (HumanDelegation.revoke platform request recordedAt).mapError .store
    .pure (.written outcome)
  | .authorizeUse request now receiptId recordedAt => do
    let outcome ← (HumanDelegation.authorizeUse platform request now receiptId recordedAt).mapError .use
    .pure (.used outcome)

abbrev DelegationState (τ : Type) : Type :=
  Interleaving τ HumanDelegations HumanDelegations.View HumanDelegations.Lock HumanDelegations.View.Value HumanDelegationError
    HumanDelegationAnswer HumanDelegationCall

/-- Grants, revocations and uses, in any order of their statements. -/
def humanDelegations (platform : Platform) (τ : Type) [DecidableEq τ] :
    Machine (DelegationState τ) (TransactionOp τ HumanDelegationCall) :=
  interleaved τ HumanDelegations.look HumanDelegations.guards (HumanDelegationCall.program platform) .empty

end MindLeak.Ackplane
