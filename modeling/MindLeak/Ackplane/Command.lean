import MindLeak.Ackplane.Work

/-! Work commands, their payloads and their receipts: what each is checked for, and what is
hashed of it. -/

namespace MindLeak.Ackplane

inductive WorkCommandOutcome where
  | pendingConfirmation | pendingDelivery | accepted | applied | failed | expired | conflicted | refused
  deriving DecidableEq

def WorkCommandOutcome.asI16 : WorkCommandOutcome → Int
  | .pendingConfirmation => 1
  | .pendingDelivery => 2
  | .accepted => 3
  | .applied => 4
  | .failed => 5
  | .expired => 6
  | .conflicted => 7
  | .refused => 8

/-- A request, before Ackplane gives it an id. -/
structure NewWorkCommand where
  (tenantId repositoryId : String)
  kind : WorkCommandKind
  schemaVersion : String
  taskId : Option String
  issuingPrincipalId : String
  delegationId : Option String
  policyRefs : List String
  rationale : String
  expectedTaskVersion : Option Int
  confirmationId : Option String
  expiresAt : Int
  idempotencyKey : String
  payloadDigest : Bytes
  deriving DecidableEq

structure WorkCommandRow extends WorkCommand where
  kind : WorkCommandKind
  schemaVersion : String
  delegationId : Option String
  policyRefs : List String
  rationale : String
  confirmationId : Option String
  expiresAt : Int
  idempotencyKey : String
  (requestDigest payloadDigest : Bytes)
  /-- The directive that the command's confirmation issued. -/
  directiveId : Option String
  recordedAt : Int
  deriving DecidableEq

structure NewWorkCommandReceipt where
  (tenantId repositoryId commandId receiptId : String)
  outcome : WorkCommandOutcome
  reason : String
  evidenceRefs : List String
  occurredAt : Int
  deriving DecidableEq

structure WorkCommandReceipt extends NewWorkCommandReceipt where
  receiptDigest : Bytes
  recordedAt : Int
  deriving DecidableEq

structure WorkCommandWriteOutcome where
  command : WorkCommandRow
  idempotentReplay : Bool
  deriving DecidableEq

structure WorkCommandReceiptWriteOutcome where
  receipt : WorkCommandReceipt
  idempotentReplay : Bool
  deriving DecidableEq

structure RouteWorkPayload where
  routeReference : String

structure AnswerWaitPayload where
  (waitId answer : String)

inductive ReviewDisposition where
  | accept | requestChanges
  deriving DecidableEq

structure SubmitReviewPayload where
  disposition : ReviewDisposition
  rationale : String

structure DirectiveTarget where
  (targetNodeId targetSessionId : String)

structure AssignPayload where
  target : DirectiveTarget

structure SteerPayload where
  target : DirectiveTarget
  instruction : String
  checkpointRequired : Bool

structure PausePayload where
  target : DirectiveTarget
  checkpointRequired : Bool

structure ResumePayload where
  target : DirectiveTarget

structure DrainPayload where
  target : DirectiveTarget
  deadline : Int

inductive WorkCommandPayload where
  | createWork (payload : CreateWorkPayload)
  | routeWork (payload : RouteWorkPayload)
  | releaseLease (payload : ReleaseLeasePayload)
  | answerWait (payload : AnswerWaitPayload)
  | submitReview (payload : SubmitReviewPayload)
  | assign (payload : AssignPayload)
  | steer (payload : SteerPayload)
  | pause (payload : PausePayload)
  | resume (payload : ResumePayload)
  | drain (payload : DrainPayload)

def WorkCommandPayload.kind : WorkCommandPayload → WorkCommandKind
  | .createWork _ => .createWork
  | .routeWork _ => .routeWork
  | .releaseLease _ => .releaseLease
  | .answerWait _ => .answerWait
  | .submitReview _ => .submitReview
  | .assign _ => .assign
  | .steer _ => .steer
  | .pause _ => .pause
  | .resume _ => .resume
  | .drain _ => .drain

section

def bigEndianI16 (value : Int) : Bytes := bigEndian16 (UInt16.ofInt value)

def bigEndianI64 (value : Int) : Bytes := bigEndian64 (UInt64.ofInt value)

def appendText (value : String) : Bytes := appendDigestPart (utf8 value)

def appendOptionalText : Option String → Bytes
  | some value => 1 :: appendText value
  | none => [0]

def appendIdentifiers (values : List String) : Bytes :=
  bigEndian64 (UInt64.ofNat values.length) ++ values.flatMap appendText

/-- Seconds from the epoch, and the nanoseconds behind them. -/
def appendTimestamp (timestamp : Int) : Except WorkCommandStoreError Bytes :=
  if timestamp < 0 then .error .invalidTimestamp
  else .ok (bigEndianI64 (timestamp / seconds 1) ++ bigEndian32 (UInt32.ofInt (timestamp % seconds 1)))

def appendTarget (target : DirectiveTarget) : Bytes :=
  appendText target.targetNodeId ++ appendText target.targetSessionId

def appendFlag (flag : Bool) : Bytes := [if flag then 1 else 0]

end

namespace WorkCommandPayload

/-- What `payload_digest` hashes of a payload behind its kind. -/
def content : WorkCommandPayload → Except WorkCommandStoreError Bytes
  | .createWork payload =>
    .ok (appendText payload.taskId ++ appendText payload.title ++ appendText payload.acceptance ++
      appendOptionalText payload.goalId ++ appendIdentifiers payload.declaredPaths ++
      appendIdentifiers payload.declaredSymbols)
  | .routeWork payload => .ok (appendText payload.routeReference)
  | .releaseLease payload => do
    let expiry ← appendTimestamp payload.expectedLeaseExpiresAt
    .ok (appendText payload.expectedOwnerId ++ expiry)
  | .answerWait payload => .ok (appendText payload.waitId ++ appendText payload.answer)
  | .submitReview payload =>
    .ok (appendFlag (payload.disposition = .accept) ++ appendText payload.rationale)
  | .assign payload => .ok (appendTarget payload.target)
  | .steer payload =>
    .ok (appendTarget payload.target ++ appendText payload.instruction ++ appendFlag payload.checkpointRequired)
  | .pause payload => .ok (appendTarget payload.target ++ appendFlag payload.checkpointRequired)
  | .resume payload => .ok (appendTarget payload.target)
  | .drain payload => do
    let deadline ← appendTimestamp payload.deadline
    .ok (appendTarget payload.target ++ deadline)

def digest (platform : Platform) (payload : WorkCommandPayload) : Except WorkCommandStoreError Bytes := do
  let content ← payload.content
  .ok (platform.sha256 (appendText "mindleak.ackplane.work-command.payload.v1" ++ bigEndianI16 payload.kind.asI16 ++ content))

end WorkCommandPayload

/-- The digests that the Work stream's events and rows carry. -/
def workDigestsOf (platform : Platform) : WorkDigests where
  sha256 := platform.sha256
  payloadDigest payload := ((WorkCommandPayload.createWork payload).digest platform).toOption.getD []

def hexText (bytes : Bytes) : String := String.ofList (bytes.flatMap fun byte => [hexDigit (byte / 16), hexDigit (byte % 16)])

namespace WorkCommands

def DIGEST_BYTES : Nat := 32
def MAX_IDENTIFIER_BYTES : Nat := 256
def MAX_POLICY_REFS : Nat := 32
def MAX_RATIONALE_BYTES : Nat := 4096
def MAX_REASON_BYTES : Nat := 4096

def IsIdentifier (value : String) : Prop := value ≠ "" ∧ value.utf8ByteSize ≤ MAX_IDENTIFIER_BYTES

instance (value : String) : Decidable (IsIdentifier value) := inferInstanceAs (Decidable (_ ∧ _))

def requireIdentifier (field value : String) : Except WorkCommandStoreError Unit :=
  refuseIf (¬IsIdentifier value) (.invalidIdentifier field)

def validateOptionalIdentifier (field : String) (value : Option String) : Except WorkCommandStoreError Unit :=
  refuseIf (∃ given ∈ value, ¬IsIdentifier given) (.invalidOptionalIdentifier field)

def validateReferences (values : List String) : Except WorkCommandStoreError Unit :=
  refuseIf (MAX_POLICY_REFS < values.length ∨ ∃ value ∈ values, ¬IsIdentifier value) .invalidPolicyReferences

end WorkCommands

namespace NewWorkCommand

open WorkCommands

def validateTarget (request : NewWorkCommand) : Except WorkCommandStoreError Unit :=
  match request.kind with
  | .createWork => refuseIf (request.taskId.isSome ∨ request.expectedTaskVersion.isSome) .invalidCreateWorkTarget
  | _ => refuseIf (request.taskId = none ∨ request.expectedTaskVersion = none) .missingExistingTaskVersion

def identifiers (request : NewWorkCommand) : List (String × String) :=
  [("tenant_id", request.tenantId), ("repository_id", request.repositoryId), ("schema_version", request.schemaVersion),
    ("issuing_principal_id", request.issuingPrincipalId), ("idempotency_key", request.idempotencyKey)]

def optionalIdentifiers (request : NewWorkCommand) : List (String × Option String) :=
  [("task_id", request.taskId), ("delegation_id", request.delegationId), ("confirmation_id", request.confirmationId)]

/-- `validate_request`. -/
def validate (request : NewWorkCommand) (now : Int) : Except WorkCommandStoreError Unit := do
  request.identifiers.forM fun (field, value) => requireIdentifier field value
  request.optionalIdentifiers.forM fun (field, value) => validateOptionalIdentifier field value
  validateReferences request.policyRefs
  refuseIf (request.rationale = "" ∨ MAX_RATIONALE_BYTES < request.rationale.utf8ByteSize) .invalidRationale
  refuseIf (request.payloadDigest.length ≠ DIGEST_BYTES) .invalidPayloadDigest
  refuseIf (∃ version ∈ request.expectedTaskVersion, version < 0) .invalidExpectedTaskVersion
  request.validateTarget
  refuseIf (request.expiresAt ≤ now) .invalidExpiry

/-- What `request_digest` hashes. -/
def bytes (request : NewWorkCommand) : Except WorkCommandStoreError Bytes := do
  let expiry ← appendTimestamp request.expiresAt
  .ok (appendText "mindleak.ackplane.work-command.request.v1" ++ appendText request.tenantId ++
    appendText request.repositoryId ++ appendText request.schemaVersion ++ appendText request.issuingPrincipalId ++
    appendText request.rationale ++ appendText request.idempotencyKey ++ bigEndianI16 request.kind.asI16 ++
    appendOptionalText request.taskId ++ appendOptionalText request.delegationId ++
    appendOptionalText request.confirmationId ++ appendIdentifiers request.policyRefs ++
    (match request.expectedTaskVersion with
    | some version => 1 :: bigEndianI64 version
    | none => [0]) ++
    expiry ++ appendDigestPart request.payloadDigest)

def digest (platform : Platform) (request : NewWorkCommand) : Except WorkCommandStoreError Bytes := do
  let bytes ← request.bytes
  .ok (platform.sha256 bytes)

/-- The id comes from who retries what: a lost answer is asked for again under the same one. -/
def assignedCommandId (platform : Platform) (request : NewWorkCommand) : String :=
  "work-command:" ++ hexText (platform.sha256 (appendText "mindleak.ackplane.work-command.id.v1" ++
    appendText request.tenantId ++ appendText request.repositoryId ++ appendText request.issuingPrincipalId ++
    appendText request.idempotencyKey))

def row (platform : Platform) (request : NewWorkCommand) (requestDigest : Bytes) (now : Int) : WorkCommandRow where
  tenantId := request.tenantId
  repositoryId := request.repositoryId
  commandId := request.assignedCommandId platform
  taskId := request.taskId
  expectedTaskVersion := request.expectedTaskVersion
  issuingPrincipalId := request.issuingPrincipalId
  kind := request.kind
  schemaVersion := request.schemaVersion
  delegationId := request.delegationId
  policyRefs := request.policyRefs
  rationale := request.rationale
  confirmationId := request.confirmationId
  expiresAt := request.expiresAt
  idempotencyKey := request.idempotencyKey
  requestDigest := requestDigest
  payloadDigest := request.payloadDigest
  directiveId := none
  recordedAt := now

end NewWorkCommand

namespace NewWorkCommandReceipt

open WorkCommands

def identifiers (receipt : NewWorkCommandReceipt) : List (String × String) :=
  [("tenant_id", receipt.tenantId), ("repository_id", receipt.repositoryId), ("command_id", receipt.commandId),
    ("receipt_id", receipt.receiptId)]

/-- `validate_receipt`. -/
def validate (receipt : NewWorkCommandReceipt) (now : Int) : Except WorkCommandStoreError Unit := do
  receipt.identifiers.forM fun (field, value) => requireIdentifier field value
  refuseIf (MAX_REASON_BYTES < receipt.reason.utf8ByteSize) .invalidReason
  validateReferences receipt.evidenceRefs
  refuseIf (now < receipt.occurredAt) .invalidReceiptTime

/-- What `receipt_digest` hashes. -/
def bytes (receipt : NewWorkCommandReceipt) : Except WorkCommandStoreError Bytes := do
  let occurred ← appendTimestamp receipt.occurredAt
  .ok (appendText "mindleak.ackplane.work-command.receipt.v1" ++ appendText receipt.tenantId ++
    appendText receipt.repositoryId ++ appendText receipt.commandId ++ appendText receipt.receiptId ++
    appendText receipt.reason ++ bigEndianI16 receipt.outcome.asI16 ++ appendIdentifiers receipt.evidenceRefs ++ occurred)

def digest (platform : Platform) (receipt : NewWorkCommandReceipt) : Except WorkCommandStoreError Bytes := do
  let bytes ← receipt.bytes
  .ok (platform.sha256 bytes)

end NewWorkCommandReceipt

def ExecutionOutcome.describe (now : Int) : ExecutionOutcome → WorkCommandOutcome × String
  | .applied => (.applied, "The command's server-owned effect was applied.")
  | .expired => (.expired, "The command's confirmation window has expired; a new preview is required.")
  | .payloadMismatch =>
    (.refused, "The confirmed payload does not match the digest recorded at submission; a changed field requires a new preview.")
  | .taskAlreadyExists => (.conflicted, "A task with this task_id already exists.")
  | .taskNotFound => (.refused, "The named task does not exist in this tenant and repository.")
  | .taskVersionConflict currentVersion =>
    (.conflicted, "expected_task_version is stale; the task's current version is " ++ toString currentVersion ++ ".")
  | .waitNotFound => (.refused, "The named wait does not exist on this task.")
  | .waitAlreadyAnswered => (.conflicted, "The named wait was already answered.")
  | .claimMissing => (.refused, "No claim exists for this task.")
  | .claimOwnerChanged currentOwnerId =>
    (.conflicted, "the claim's current owner is " ++ currentOwnerId ++ ", not the expected owner.")
  | .claimLeaseChanged currentLeaseExpiresAt =>
    let detail := if currentLeaseExpiresAt < now then "expired" else if currentLeaseExpiresAt = now then "is still live"
      else "was renewed"
    (.conflicted, "the claim's lease " ++ detail ++ "; it no longer matches the observed lease.")
  | .directiveIssued directiveId =>
    (.pendingDelivery, "directive " ++ directiveId ++ " was durably enqueued to the addressed supervisor; only its own applied/refused/failed/expired receipt may change the task.")
  | .supervisorCapabilityMissing =>
    (.refused, "the addressed supervisor session does not advertise this directive's required capability.")
  | .supervisorSessionUnknown => (.refused, "no enrolled supervisor session matches the addressed target.")
  | .supervisorTargetMismatch => (.refused, "the addressed session belongs to a different node than named.")

namespace WorkCommandRow

def confirmReceiptId (command : WorkCommandRow) : String := command.commandId ++ ":confirm"

def directiveReceiptId (command : WorkCommandRow) : String := command.commandId ++ ":directive"

def confirmReceipt (command : WorkCommandRow) (outcome : ExecutionOutcome) (now : Int) : NewWorkCommandReceipt where
  tenantId := command.tenantId
  repositoryId := command.repositoryId
  commandId := command.commandId
  receiptId := command.confirmReceiptId
  outcome := (outcome.describe now).1
  reason := (outcome.describe now).2
  evidenceRefs := []
  occurredAt := now

def pendingReceiptId (command : WorkCommandRow) : String := command.commandId ++ ":pending-confirmation"

/-- Directives are addressed within a project; Work tasks are not. -/
def syntheticProjectId (repositoryId : String) : String := "project:work-commands:" ++ repositoryId

def directiveIdFor (command : WorkCommandRow) : String := "directive:work-command:" ++ command.commandId

end WorkCommandRow

def NewWorkCommand.pendingReceipt (request : NewWorkCommand) (command : WorkCommandRow) : NewWorkCommandReceipt where
  tenantId := request.tenantId
  repositoryId := request.repositoryId
  commandId := command.commandId
  receiptId := command.pendingReceiptId
  outcome := .pendingConfirmation
  reason := "A verified principal and policy basis passed initial scope checks; confirmation is required before effect."
  evidenceRefs := request.policyRefs
  occurredAt := command.recordedAt

def DIRECTIVE_LIFETIME : Int := seconds 3600

/-- The status of a supervisor's receipt, where it may change the task. -/
def V1.DirectiveReceipt.terminalOutcome (receipt : V1.DirectiveReceipt) : Option WorkCommandOutcome :=
  match V1.DirectiveReceiptStatus.tryFrom receipt.status with
  | some .applied => some .applied
  | some .refused => some .refused
  | some .failed => some .failed
  | some .expired => some .expired
  | some .accepted | none => none

def V1.DirectiveReceipt.commandReason (receipt : V1.DirectiveReceipt) : String :=
  if receipt.diagnostic = "" then
    "supervisor directive receipt: status=" ++ toString receipt.status ++ ", reason=" ++ toString receipt.reason
  else receipt.diagnostic

def WorkCommandRow.directiveReceipt (command : WorkCommandRow) (receipt : V1.DirectiveReceipt)
    (outcome : WorkCommandOutcome) (now : Int) : NewWorkCommandReceipt where
  tenantId := command.tenantId
  repositoryId := command.repositoryId
  commandId := command.commandId
  receiptId := command.directiveReceiptId
  outcome := outcome
  reason := receipt.commandReason
  evidenceRefs := receipt.evidenceRefs
  occurredAt := now

end MindLeak.Ackplane
