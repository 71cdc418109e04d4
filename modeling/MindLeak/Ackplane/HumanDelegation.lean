import MindLeak.Ackplane.Command
import Mathlib.Data.List.Sort

/-! Grants of authority from a human to a session, their revocations, and the uses that are made of
them: what is asked, the checks on it, the digests, and what an event makes of a grant. -/

namespace MindLeak.Ackplane

inductive DelegatedAction where
  | retrieveContext | analyze | claimTask | workTask | createCandidateKnowledge | runValidation | reportEvidence
  deriving DecidableEq

/-- What is granted: the envelope that an event keeps whole. -/
structure DelegationGrantPayload where
  delegateeSessionId : String
  (projectId taskId : Option String)
  goalId : String
  goalDigest : Bytes
  policyVersion : String
  policyDigest : Bytes
  constitutionVersion : String
  constitutionDigest : Bytes
  allowedActions : List DelegatedAction
  (maxTokenBudget maxActionsPerSession : UInt32)
  sourceProtocolVersion : UInt16
  (effectiveAt expiresAt : Int)

structure DelegationGrantRequest extends DelegationGrantPayload where
  (tenantId repositoryId verifiedIssuerPrincipalId idempotencyKey : String)

structure DelegationRevocationRequest where
  (tenantId repositoryId delegationId verifiedRevokerPrincipalId reason : String)
  expectedVersion : UInt32
  idempotencyKey : String

inductive DelegationEventKind where
  | granted | revoked
  deriving DecidableEq

inductive DelegationProjectionStatus where
  | active | revoked
  deriving DecidableEq

inductive DelegationEventPayload where
  | granted (grant : DelegationGrantPayload)
  | revoked (reason : String)

structure DelegationEvent where
  delegationId : String
  streamPosition : Nat
  actorPrincipalId : String
  (expectedPriorVersion resultingVersion : UInt32)
  idempotencyKey : String
  payloadDigest : Bytes
  recordedAt : Int
  payload : DelegationEventPayload

def DelegationEvent.kind (event : DelegationEvent) : DelegationEventKind :=
  match event.payload with
  | .granted _ => .granted
  | .revoked _ => .revoked

structure DelegationProjection extends DelegationGrantPayload where
  (delegationId issuerPrincipalId : String)
  issuedAt : Int
  status : DelegationProjectionStatus
  version : UInt32
  sourceEventPosition : Nat
  revokedAt : Option Int
  (revokedByPrincipalId revocationReason : Option String)

structure DelegationOutcome where
  projection : DelegationProjection
  event : DelegationEvent
  idempotentReplay : Bool

inductive DelegationStoreError where
  /-- A unique index of the database refuses the row. -/
  | database
  | invalidIdentifier (field : String)
  | invalidOptionalIdentifier (field : String)
  | invalidDigest (field : String)
  | invalidActions
  | invalidStoredAction (code : Nat)
  | invalidBudget
  | invalidProtocolVersion
  | invalidTimeWindow
  | invalidExpectedVersion
  | invalidVersion
  | streamPositionExhausted
  | idempotencyConflict
  | notFound
  | versionConflict
  | alreadyRevoked
  | invalidStoredPayload

structure DelegationUseRequest where
  (tenantId repositoryId delegationId delegateeSessionId : String)
  (projectId taskId : Option String)
  (goalId policyVersion : String)
  policyDigest : Bytes
  constitutionVersion : String
  constitutionDigest : Bytes
  action : DelegatedAction
  reservedTokenBudget : UInt32
  idempotencyKey : String

inductive DelegationUseRefusal where
  | delegateeSessionMismatch | scopeMismatch | policyBasisMismatch | constitutionBasisMismatch | notYetEffective | expired
  | revoked | actionNotAllowed | actionLimitExceeded | tokenBudgetExceeded
  deriving DecidableEq

inductive DelegationUseStatus where
  | authorized | refused
  deriving DecidableEq

structure DelegationUseReceipt where
  receiptId : Nat
  (delegationId issuerPrincipalId delegateeSessionId : String)
  (projectId taskId : Option String)
  (goalId policyVersion constitutionVersion : String)
  action : DelegatedAction
  (reservedTokenBudget delegationVersion : UInt32)
  refusalReason : Option DelegationUseRefusal
  recordedAt : Int
  deriving DecidableEq

def DelegationUseReceipt.status (receipt : DelegationUseReceipt) : DelegationUseStatus :=
  if receipt.refusalReason.isSome then .refused else .authorized

structure DelegationUseOutcome where
  receipt : DelegationUseReceipt
  idempotentReplay : Bool

inductive DelegationUseError where
  | database
  | notFound
  | invalidIdentifier (field : String)
  | invalidOptionalIdentifier (field : String)
  | invalidDigest (field : String)
  | idempotencyConflict
  | invalidStoredReceipt

namespace HumanDelegation

def SHA256_DIGEST_BYTES : Nat := 32
def MAX_IDENTIFIER_BYTES : Nat := 256
def MAX_REASON_BYTES : Nat := 512
def MAX_ACTIONS : Nat := 16
def I16_MAX : Nat := 32767
def I32_MAX : Nat := 2147483647
def I64_MAX : Nat := 9223372036854775807

section
variable {ε : Type}

def requireIdentifier (invalid : String → ε) (field : String × String) : Except ε Unit :=
  refuseIf (¬Directive.IsText MAX_IDENTIFIER_BYTES field.2) (invalid field.1)

def validateOptionalIdentifier (invalid : String → ε) (field : String × Option String) : Except ε Unit :=
  refuseIf (∃ value ∈ field.2, ¬Directive.IsText MAX_IDENTIFIER_BYTES value) (invalid field.1)

def requireDigest (invalid : String → ε) (field : String × Bytes) : Except ε Unit :=
  refuseIf (field.2.length ≠ SHA256_DIGEST_BYTES) (invalid field.1)

end

end HumanDelegation

namespace DelegatedAction

def code : DelegatedAction → Nat
  | retrieveContext => 1
  | analyze => 2
  | claimTask => 3
  | workTask => 4
  | createCandidateKnowledge => 5
  | runValidation => 6
  | reportEvidence => 7

def ofCode? : Nat → Option DelegatedAction
  | 1 => some retrieveContext
  | 2 => some analyze
  | 3 => some claimTask
  | 4 => some workTask
  | 5 => some createCandidateKnowledge
  | 6 => some runValidation
  | 7 => some reportEvidence
  | _ => none

end DelegatedAction

namespace HumanDelegation

def actionCodes (actions : List DelegatedAction) : Except DelegationStoreError (List Nat) := do
  refuseIf (actions = [] ∨ MAX_ACTIONS < actions.length) .invalidActions
  let codes := actions.map DelegatedAction.code
  refuseIf (¬codes.Nodup) .invalidActions
  .ok (codes.insertionSort (· ≤ ·))

def decodeActions (seen : List Nat) : List Nat → Except DelegationStoreError (List DelegatedAction)
  | [] => .ok []
  | code :: rest =>
    match DelegatedAction.ofCode? code with
    | none => .error (.invalidStoredAction code)
    | some action => do
      refuseIf (code ∈ seen) (.invalidStoredAction code)
      let actions ← decodeActions (code :: seen) rest
      .ok (action :: actions)

def actionsFromCodes (codes : List Nat) : Except DelegationStoreError (List DelegatedAction) := do
  let actions ← decodeActions [] codes
  refuseIf (actions = [] ∨ MAX_ACTIONS < actions.length) .invalidActions
  .ok actions

def validateGrant (request : DelegationGrantRequest) (now : Int) : Except DelegationStoreError Unit := do
  [("tenant_id", request.tenantId), ("repository_id", request.repositoryId),
    ("verified_issuer_principal_id", request.verifiedIssuerPrincipalId),
    ("delegatee_session_id", request.delegateeSessionId), ("goal_id", request.goalId), ("policy_version", request.policyVersion),
    ("constitution_version", request.constitutionVersion), ("idempotency_key", request.idempotencyKey)].forM
    (requireIdentifier .invalidIdentifier)
  [("project_id", request.projectId), ("task_id", request.taskId)].forM (validateOptionalIdentifier .invalidOptionalIdentifier)
  [("goal_digest", request.goalDigest), ("policy_digest", request.policyDigest),
    ("constitution_digest", request.constitutionDigest)].forM (requireDigest .invalidDigest)
  let _ ← actionCodes request.allowedActions
  refuseIf (request.maxTokenBudget = 0 ∨ request.maxActionsPerSession = 0) .invalidBudget
  refuseIf (request.sourceProtocolVersion = 0 ∨ I16_MAX < request.sourceProtocolVersion.toNat) .invalidProtocolVersion
  refuseIf (request.effectiveAt < 0 ∨ request.expiresAt ≤ request.effectiveAt ∨ request.expiresAt ≤ now) .invalidTimeWindow

def validateRevocation (request : DelegationRevocationRequest) : Except DelegationStoreError Unit := do
  [("tenant_id", request.tenantId), ("repository_id", request.repositoryId), ("delegation_id", request.delegationId),
    ("verified_revoker_principal_id", request.verifiedRevokerPrincipalId), ("idempotency_key", request.idempotencyKey)].forM
    (requireIdentifier .invalidIdentifier)
  refuseIf (¬Directive.IsText MAX_REASON_BYTES request.reason) (.invalidIdentifier "reason")
  refuseIf (request.expectedVersion = 0) .invalidExpectedVersion
  refuseIf (I32_MAX ≤ request.expectedVersion.toNat) .invalidVersion

def validateStoredGrantPayload (grant : DelegationGrantPayload) : Except DelegationStoreError Unit :=
  refuseIf
    ((∃ value ∈ [grant.delegateeSessionId, grant.goalId, grant.policyVersion, grant.constitutionVersion],
        ¬Directive.IsText MAX_IDENTIFIER_BYTES value) ∨
      (∃ given ∈ [grant.projectId, grant.taskId], ∃ value ∈ given, ¬Directive.IsText MAX_IDENTIFIER_BYTES value) ∨
      grant.goalDigest.length ≠ SHA256_DIGEST_BYTES ∨ grant.policyDigest.length ≠ SHA256_DIGEST_BYTES ∨
      grant.constitutionDigest.length ≠ SHA256_DIGEST_BYTES ∨ grant.maxTokenBudget = 0 ∨ grant.maxActionsPerSession = 0 ∨
      grant.sourceProtocolVersion = 0 ∨ grant.effectiveAt < 0 ∨ grant.expiresAt ≤ grant.effectiveAt)
    .invalidStoredPayload

def bigEndian128 (n : Nat) : Bytes := bigEndian64 (UInt64.ofNat (n / UInt64.size)) ++ bigEndian64 (UInt64.ofNat n)

def grantPayloadBytes (request : DelegationGrantRequest) (codes : List Nat) : Bytes :=
  pushField (utf8 "mindleak.ackplane.v1.delegation.grant" ++ [0]) ++
    [utf8 request.tenantId, utf8 request.repositoryId, utf8 request.verifiedIssuerPrincipalId, utf8 request.delegateeSessionId,
      utf8 (request.projectId.getD ""), utf8 (request.taskId.getD ""), utf8 request.goalId, request.goalDigest,
      utf8 request.policyVersion, request.policyDigest, utf8 request.constitutionVersion,
      request.constitutionDigest].flatMap pushField ++
    bigEndian32 (UInt32.ofNat codes.length) ++ codes.flatMap (fun code => bigEndianI16 code) ++ bigEndian32 request.maxTokenBudget ++
    bigEndian32 request.maxActionsPerSession ++
    bigEndian16 request.sourceProtocolVersion ++
    pushField (bigEndian128 request.effectiveAt.toNat) ++ pushField (bigEndian128 request.expiresAt.toNat)

def grantPayloadDigest (platform : Platform) (request : DelegationGrantRequest) (codes : List Nat) : Bytes :=
  platform.sha256 (grantPayloadBytes request codes)

def revocationPayloadDigest (platform : Platform) (request : DelegationRevocationRequest) : Bytes :=
  platform.sha256 (pushField (utf8 "mindleak.ackplane.v1.delegation.revoke" ++ [0]) ++
    [utf8 request.tenantId, utf8 request.repositoryId, utf8 request.delegationId, utf8 request.verifiedRevokerPrincipalId,
      utf8 request.reason].flatMap pushField ++ bigEndian32 request.expectedVersion)

end HumanDelegation

namespace DelegationGrantPayload

def projection (grant : DelegationGrantPayload) (event : DelegationEvent) : DelegationProjection where
  toDelegationGrantPayload := grant
  delegationId := event.delegationId
  issuerPrincipalId := event.actorPrincipalId
  issuedAt := event.recordedAt
  status := .active
  version := event.resultingVersion
  sourceEventPosition := event.streamPosition
  revokedAt := none
  revokedByPrincipalId := none
  revocationReason := none

end DelegationGrantPayload

namespace DelegationProjection

def revoke (projection : DelegationProjection) (event : DelegationEvent) (reason : String) : DelegationProjection :=
  { projection with
    status := .revoked
    version := event.resultingVersion
    sourceEventPosition := event.streamPosition
    revokedAt := some event.recordedAt
    revokedByPrincipalId := some event.actorPrincipalId
    revocationReason := some reason }

end DelegationProjection

def projectionAtEvent (grantEvent event : DelegationEvent) : Except DelegationStoreError DelegationProjection :=
  match grantEvent.payload with
  | .revoked _ => .error .invalidStoredPayload
  | .granted grant =>
    if grantEvent.delegationId ≠ event.delegationId then .error .invalidStoredPayload
    else
      let projection := grant.projection grantEvent
      match event.payload with
      | .granted _ => .ok projection
      | .revoked reason => .ok (projection.revoke event reason)

namespace DelegationUseRequest
open HumanDelegation

def validate (request : DelegationUseRequest) : Except DelegationUseError Unit := do
  [("tenant_id", request.tenantId), ("repository_id", request.repositoryId), ("delegation_id", request.delegationId),
    ("delegatee_session_id", request.delegateeSessionId), ("goal_id", request.goalId), ("policy_version", request.policyVersion),
    ("constitution_version", request.constitutionVersion), ("idempotency_key", request.idempotencyKey)].forM
    (requireIdentifier .invalidIdentifier)
  [("project_id", request.projectId), ("task_id", request.taskId)].forM (validateOptionalIdentifier .invalidOptionalIdentifier)
  [("policy_digest", request.policyDigest), ("constitution_digest", request.constitutionDigest)].forM (requireDigest .invalidDigest)

def bytes (request : DelegationUseRequest) : Bytes :=
  pushField (utf8 "mindleak.ackplane.v1.delegation.use" ++ [0]) ++
    ([utf8 request.tenantId, utf8 request.repositoryId, utf8 request.delegationId, utf8 request.delegateeSessionId,
      utf8 (request.projectId.getD ""), utf8 (request.taskId.getD ""), utf8 request.goalId, utf8 request.policyVersion,
      request.policyDigest, utf8 request.constitutionVersion, request.constitutionDigest,
      utf8 request.idempotencyKey].flatMap pushField ++
    (bigEndianI16 request.action.code ++ bigEndian32 request.reservedTokenBudget))

def digest (platform : Platform) (request : DelegationUseRequest) : Bytes := platform.sha256 request.bytes

end DelegationUseRequest

namespace DelegationProjection

def BoundScopeMatches (expected actual : Option String) : Prop := ∀ scope ∈ expected, actual = some scope

instance (expected actual : Option String) : Decidable (BoundScopeMatches expected actual) :=
  inferInstanceAs (Decidable (∀ scope ∈ expected, actual = some scope))

/-- What the uses so far leave no room for, or the grant never covered. -/
def refusalFor (projection : DelegationProjection) (request : DelegationUseRequest) (now : Int)
    (authorizedActions reservedTokens : Nat) : Option DelegationUseRefusal :=
  if projection.status = .revoked then some .revoked
  else if now < projection.effectiveAt then some .notYetEffective
  else if projection.expiresAt ≤ now then some .expired
  else if projection.delegateeSessionId ≠ request.delegateeSessionId then some .delegateeSessionMismatch
  else if projection.goalId ≠ request.goalId ∨ ¬BoundScopeMatches projection.projectId request.projectId ∨
      ¬BoundScopeMatches projection.taskId request.taskId then some .scopeMismatch
  else if projection.policyVersion ≠ request.policyVersion ∨ projection.policyDigest ≠ request.policyDigest then
    some .policyBasisMismatch
  else if projection.constitutionVersion ≠ request.constitutionVersion ∨
      projection.constitutionDigest ≠ request.constitutionDigest then some .constitutionBasisMismatch
  else if request.action ∉ projection.allowedActions then some .actionNotAllowed
  else if projection.maxActionsPerSession.toNat ≤ authorizedActions then some .actionLimitExceeded
  else
    let total := reservedTokens + request.reservedTokenBudget.toNat
    if UInt64.size ≤ total ∨ projection.maxTokenBudget.toNat < total then some .tokenBudgetExceeded else none

end DelegationProjection

def DelegationUseRequest.receipt (request : DelegationUseRequest) (projection : DelegationProjection)
    (refusal : Option DelegationUseRefusal) (receiptId : Nat) (recordedAt : Int) : DelegationUseReceipt where
  receiptId := receiptId
  delegationId := request.delegationId
  issuerPrincipalId := projection.issuerPrincipalId
  delegateeSessionId := request.delegateeSessionId
  projectId := request.projectId
  taskId := request.taskId
  goalId := request.goalId
  policyVersion := projection.policyVersion
  constitutionVersion := projection.constitutionVersion
  action := request.action
  reservedTokenBudget := request.reservedTokenBudget
  delegationVersion := projection.version
  refusalReason := refusal
  recordedAt := recordedAt

end MindLeak.Ackplane
