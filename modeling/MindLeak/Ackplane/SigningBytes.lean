import MindLeak.Ackplane.Signing

/-! The bytes that are signed, domain by domain. -/

namespace MindLeak.Ackplane

/-- One thing that a builder puts behind what it has. -/
inductive Push where
  | field (content : Bytes)
  | list (items : List String)
  /-- A number as it is, without its length. -/
  | plain (n : UInt64)

def pushList (items : List String) : Bytes :=
  bigEndian32 (UInt32.ofNat items.length) ++ items.flatMap fun item => pushField (utf8 item)

def Push.bytes : Push → Bytes
  | .field content => pushField content
  | .list items => pushList items
  | .plain n => bigEndian64 n

def pushText (text : String) : Push := .field (utf8 text)

def push32 (n : UInt32) : Push := .field (bigEndian32 n)

def push64 (n : UInt64) : Push := .field (bigEndian64 n)

def pushI32 (n : Int32) : Push := .field (bigEndian32 n.toUInt32)

def pushOption (text : Option String) : Push := pushText (text.getD "")

/-- The authentication message of every service's requests; each has one of its own, of these fields. -/
structure V1.RequestAuthentication where
  (signingKeyId nodeId signedAt : String)
  (nonce signature : Bytes)

def V1.RequestAuthentication.identityFields (authentication : V1.RequestAuthentication) (tenantId repositoryId : String) :
    List Push :=
  [pushText authentication.signingKeyId, pushText authentication.nodeId, pushText authentication.signedAt,
    .field authentication.nonce, pushText tenantId, pushText repositoryId]

def claimDomain : Bytes := utf8 "mindleak.ackplane.v1.claim" ++ [0]

inductive ClaimOperation where
  | delegate (branch : String) (leaseSeconds : UInt64) (paths symbols : List String)
  | renew (leaseSeconds : UInt64)
  | release
  | recover (expectedOwner branch : String) (leaseSeconds : UInt64) (paths symbols : List String) (reason : String)
  | park
  | answer (leaseSeconds : UInt64)

namespace ClaimOperation

def tag : ClaimOperation → String
  | .delegate .. => "delegate"
  | .renew .. => "renew"
  | .release => "release"
  | .recover .. => "recover"
  | .park => "park"
  | .answer .. => "answer"

def fields : ClaimOperation → List Push
  | .delegate branch leaseSeconds paths symbols =>
    [pushText branch, push64 leaseSeconds, .list paths, .list symbols]
  | .renew leaseSeconds => [push64 leaseSeconds]
  | .release => []
  | .recover expectedOwner branch leaseSeconds paths symbols reason =>
    [pushText expectedOwner, pushText branch, push64 leaseSeconds, .list paths, .list symbols, pushText reason]
  | .park => []
  | .answer leaseSeconds => [push64 leaseSeconds]

def pushFields (operation : ClaimOperation) : List Push := pushText operation.tag :: operation.fields

end ClaimOperation

def claimSigningBytes (tenantId repositoryId taskId ownerId : String) (operation : ClaimOperation)
    (authentication : V1.RequestAuthentication) : Bytes :=
  claimDomain ++ (authentication.identityFields tenantId repositoryId ++ [pushText taskId, pushText ownerId] ++
    operation.pushFields).flatMap Push.bytes

def knowledgeDomain : Bytes := utf8 "mindleak.ackplane.v1.knowledge" ++ [0]

inductive KnowledgeOperation where
  /-- A half-life is signed as the bits of the number. -/
  | record (content : String) (sourceRef : Option String) (reachNodeIds : List String) (reachGoalId : Option String)
    (halfLifeHours : UInt64) (embeddingModel : Option String)
  | recall (queryEmbeddingPresent : Bool) (limit : UInt32)
  | history (limit : UInt32)
  | reconfirm (knowledgeId evidenceRef : String)
  | retire (knowledgeId reason : String)

namespace KnowledgeOperation

def tag : KnowledgeOperation → String
  | .record .. => "record"
  | .recall .. => "recall"
  | .history .. => "history"
  | .reconfirm .. => "reconfirm"
  | .retire .. => "retire"

def fields : KnowledgeOperation → List Push
  | .record content sourceRef reachNodeIds reachGoalId halfLifeHours embeddingModel =>
    [pushText content, pushOption sourceRef, push64 (UInt64.ofNat reachNodeIds.length)] ++ reachNodeIds.map pushText ++
      [pushOption reachGoalId, push64 halfLifeHours, pushOption embeddingModel]
  | .recall queryEmbeddingPresent limit => [.field [if queryEmbeddingPresent then 1 else 0], push32 limit]
  | .history limit => [push32 limit]
  | .reconfirm knowledgeId evidenceRef => [pushText knowledgeId, pushText evidenceRef]
  | .retire knowledgeId reason => [pushText knowledgeId, pushText reason]

def pushFields (operation : KnowledgeOperation) : List Push := pushText operation.tag :: operation.fields

end KnowledgeOperation

def knowledgeSigningBytes (tenantId repositoryId : String) (operation : KnowledgeOperation)
    (authentication : V1.RequestAuthentication) : Bytes :=
  knowledgeDomain ++ (authentication.identityFields tenantId repositoryId ++ operation.pushFields).flatMap Push.bytes

def evidenceDomain : Bytes := utf8 "mindleak.ackplane.v1.evidence" ++ [0]

inductive EvidenceOperation where
  | record (taskId : String) (evidenceKind : Int32) (sourceRef : String) (contentDigest : Bytes)
    (observedAt reportedAgentSessionId idempotencyKey reportedConstitutionVersion : String)
  | list (taskId : String) (limit : UInt32) (pageBeforeRecordedAt pageBeforeEvidenceId : Option String)
  | recordConformance (taskId evidenceId : String) (verdict : Int32) (findingCount : UInt32) (findingsDigest : Bytes)
    (findingCodes : List Int32) (reportedCheckedAt idempotencyKey reportedConstitutionVersion : String)
  | listConformance (taskId : String) (limit : UInt32) (pageBeforeRecordedAt pageBeforeConformanceId : Option String)

/-- The count saturates. -/
def pushI32List (items : List Int32) : List Push :=
  push32 (UInt32.ofNat (min items.length (UInt32.size - 1))) :: items.map pushI32

namespace EvidenceOperation

def tag : EvidenceOperation → String
  | .record .. => "record"
  | .list .. => "list"
  | .recordConformance .. => "record_conformance"
  | .listConformance .. => "list_conformance"

def fields : EvidenceOperation → List Push
  | .record taskId evidenceKind sourceRef contentDigest observedAt reportedAgentSessionId idempotencyKey
      reportedConstitutionVersion =>
    [pushText taskId, pushI32 evidenceKind, pushText sourceRef, .field contentDigest, pushText observedAt,
      pushText reportedAgentSessionId, pushText idempotencyKey, pushText reportedConstitutionVersion]
  | .list taskId limit pageBeforeRecordedAt pageBeforeEvidenceId =>
    [pushText taskId, push32 limit, pushOption pageBeforeRecordedAt, pushOption pageBeforeEvidenceId]
  | .recordConformance taskId evidenceId verdict findingCount findingsDigest findingCodes reportedCheckedAt idempotencyKey
      reportedConstitutionVersion =>
    [pushText taskId, pushText evidenceId, pushI32 verdict, push32 findingCount, .field findingsDigest] ++
      pushI32List findingCodes ++
      [pushText reportedCheckedAt, pushText idempotencyKey, pushText reportedConstitutionVersion]
  | .listConformance taskId limit pageBeforeRecordedAt pageBeforeConformanceId =>
    [pushText taskId, push32 limit, pushOption pageBeforeRecordedAt, pushOption pageBeforeConformanceId]

def pushFields (operation : EvidenceOperation) : List Push := pushText operation.tag :: operation.fields

end EvidenceOperation

def evidenceSigningBytes (tenantId repositoryId : String) (operation : EvidenceOperation)
    (authentication : V1.RequestAuthentication) : Bytes :=
  evidenceDomain ++ (authentication.identityFields tenantId repositoryId ++ operation.pushFields).flatMap Push.bytes

def projectionEmbeddingDomain : Bytes := utf8 "mindleak.ackplane.v1.projection-embedding" ++ [0]

structure V1.ProjectionEmbeddingSource where
  (nodeId label : String)

/-- Vectors and floors are signed as the bits of their numbers. -/
inductive ProjectionEmbeddingOperation where
  | listMissing (model : String) (limit : UInt32)
  | publish (source : V1.ProjectionEmbeddingSource) (model : String) (embedding : List UInt32)
  | recall (model : String) (queryEmbedding : List UInt32) (floor : UInt32) (limit : UInt32)

def pushVector (embedding : List UInt32) : List Push := push64 (UInt64.ofNat embedding.length) :: embedding.map push32

namespace ProjectionEmbeddingOperation

def tag : ProjectionEmbeddingOperation → String
  | .listMissing .. => "list_missing"
  | .publish .. => "publish"
  | .recall .. => "recall"

def fields : ProjectionEmbeddingOperation → List Push
  | .listMissing model limit => [pushText model, push32 limit]
  | .publish source model embedding => [pushText source.nodeId, pushText source.label, pushText model] ++ pushVector embedding
  | .recall model queryEmbedding floor limit => [pushText model] ++ pushVector queryEmbedding ++ [push32 floor, push32 limit]

def pushFields (operation : ProjectionEmbeddingOperation) : List Push := pushText operation.tag :: operation.fields

end ProjectionEmbeddingOperation

def projectionEmbeddingSigningBytes (tenantId repositoryId : String) (operation : ProjectionEmbeddingOperation)
    (authentication : V1.RequestAuthentication) : Bytes :=
  projectionEmbeddingDomain ++
    (authentication.identityFields tenantId repositoryId ++ operation.pushFields).flatMap Push.bytes

def lifecyclePurgeDomain : Bytes := utf8 "mindleak.ackplane.v1.lifecycle-purge" ++ [0]

inductive LifecyclePurgeOperation where
  | preview (policyId dataCategory : String) (olderThanSeconds confirmationWindowSeconds : UInt64) (idempotencyKey : String)
  | confirm (requestId : String)

namespace LifecyclePurgeOperation

def tag : LifecyclePurgeOperation → String
  | .preview .. => "preview"
  | .confirm .. => "confirm"

def fields : LifecyclePurgeOperation → List Push
  | .preview policyId dataCategory olderThanSeconds confirmationWindowSeconds idempotencyKey =>
    [pushText policyId, pushText dataCategory, push64 olderThanSeconds, push64 confirmationWindowSeconds,
      pushText idempotencyKey]
  | .confirm requestId => [pushText requestId]

def pushFields (operation : LifecyclePurgeOperation) : List Push := pushText operation.tag :: operation.fields

end LifecyclePurgeOperation

def lifecyclePurgeSigningBytes (tenantId repositoryId : String) (operation : LifecyclePurgeOperation)
    (authentication : V1.RequestAuthentication) : Bytes :=
  lifecyclePurgeDomain ++ (authentication.identityFields tenantId repositoryId ++ operation.pushFields).flatMap Push.bytes

def recoveryExecutionDomain : Bytes := utf8 "mindleak.ackplane.v1.recovery-execution" ++ [0]

inductive RecoveryExecutionOperation where
  | preview (artifactRequestId : String) (manifestDigest : Bytes) (safetySnapshotIdempotencyKey rehearsalId : String)
    (confirmationWindowSeconds : UInt64) (idempotencyKey : String)
  | confirm (requestId : String)

namespace RecoveryExecutionOperation

def tag : RecoveryExecutionOperation → String
  | .preview .. => "preview"
  | .confirm .. => "confirm"

def fields : RecoveryExecutionOperation → List Push
  | .preview artifactRequestId manifestDigest safetySnapshotIdempotencyKey rehearsalId confirmationWindowSeconds
      idempotencyKey =>
    [pushText artifactRequestId, .field manifestDigest, pushText safetySnapshotIdempotencyKey, pushText rehearsalId,
      push64 confirmationWindowSeconds, pushText idempotencyKey]
  | .confirm requestId => [pushText requestId]

def pushFields (operation : RecoveryExecutionOperation) : List Push := pushText operation.tag :: operation.fields

end RecoveryExecutionOperation

def recoveryExecutionSigningBytes (tenantId repositoryId : String) (operation : RecoveryExecutionOperation)
    (authentication : V1.RequestAuthentication) : Bytes :=
  recoveryExecutionDomain ++ (authentication.identityFields tenantId repositoryId ++ operation.pushFields).flatMap Push.bytes

def constitutionDomain : Bytes := utf8 "mindleak.ackplane.v1.constitution" ++ [0]

inductive ConstitutionOperation where
  | publish (versionId : String) (version : UInt32) (status : String) (clauseCount : UInt32)
  | getActive

namespace ConstitutionOperation

def tag : ConstitutionOperation → String
  | .publish .. => "publish"
  | .getActive => "get_active"

def fields : ConstitutionOperation → List Push
  | .publish versionId version status clauseCount =>
    [pushText versionId, push32 version, pushText status, push32 clauseCount]
  | .getActive => []

def pushFields (operation : ConstitutionOperation) : List Push := pushText operation.tag :: operation.fields

end ConstitutionOperation

def constitutionSigningBytes (tenantId repositoryId : String) (operation : ConstitutionOperation)
    (authentication : V1.RequestAuthentication) : Bytes :=
  constitutionDomain ++ (authentication.identityFields tenantId repositoryId ++ operation.pushFields).flatMap Push.bytes

def telemetryDomain : Bytes := utf8 "mindleak.ackplane.v1.telemetry" ++ [0]

structure V1.TelemetryMeasurement where
  name : String
  value : UInt64

def V1.TelemetryMeasurement.fields (measurement : V1.TelemetryMeasurement) : List Push :=
  [pushText measurement.name, push64 measurement.value]

inductive TelemetryOperation where
  | record (agentSessionId : Option String) (kind : Int32) (name : String) (outcome : Int32) (durationMs : UInt64)
    (occurredAt : String) (measurements : List V1.TelemetryMeasurement)
  | read (kind : Int32) (name : Option String) (bucketSeconds maxPoints : UInt32)

namespace TelemetryOperation

def tag : TelemetryOperation → String
  | .record .. => "record"
  | .read .. => "read"

def fields : TelemetryOperation → List Push
  | .record agentSessionId kind name outcome durationMs occurredAt measurements =>
    [pushOption agentSessionId, pushI32 kind, pushText name, pushI32 outcome, push64 durationMs, pushText occurredAt,
      push64 (UInt64.ofNat measurements.length)] ++
      measurements.flatMap V1.TelemetryMeasurement.fields
  | .read kind name bucketSeconds maxPoints => [pushI32 kind, pushOption name, push32 bucketSeconds, push32 maxPoints]

def pushFields (operation : TelemetryOperation) : List Push := pushText operation.tag :: operation.fields

end TelemetryOperation

def telemetrySigningBytes (tenantId repositoryId : String) (operation : TelemetryOperation)
    (authentication : V1.RequestAuthentication) : Bytes :=
  telemetryDomain ++ (authentication.identityFields tenantId repositoryId ++ operation.pushFields).flatMap Push.bytes

def enrollmentStatusDomain : Bytes := utf8 "mindleak.ackplane.v1.enrollment_status" ++ [0]

structure V1.EnrollmentStatusAuthentication where
  (nodeId keyFingerprint signedAt : String)
  (nonce signature : Bytes)

inductive EnrollmentStatusOperation where
  | check

def EnrollmentStatusOperation.tag : EnrollmentStatusOperation → String
  | .check => "check"

def enrollmentStatusSigningBytes (tenantId repositoryId : String) (operation : EnrollmentStatusOperation)
    (authentication : V1.EnrollmentStatusAuthentication) : Bytes :=
  enrollmentStatusDomain ++ [pushText authentication.nodeId, pushText authentication.keyFingerprint,
    pushText authentication.signedAt, .field authentication.nonce, pushText tenantId, pushText repositoryId,
    pushText operation.tag].flatMap Push.bytes

def activationDomain : Bytes := utf8 "mindleak.ackplane.v1.enrollment.activation" ++ [0]

def activationChallengeBytes (nonce : Bytes) (requestId tenantId repositoryId nodeId publicKeyFingerprint : String) : Bytes :=
  activationDomain ++ [.field nonce, pushText requestId, pushText tenantId, pushText repositoryId, pushText nodeId,
    pushText publicKeyFingerprint].flatMap Push.bytes

def keyRotationDomain : Bytes := utf8 "mindleak.ackplane.v1.enrollment.key_rotation" ++ [0]

structure KeyRotationStatement where
  (tenantId repositoryId nodeId currentKeyId successorKeyId successorPublicKeyFingerprint : String)
  successorPublicKey : Bytes
  requestedOverlapSeconds : UInt64

def keyRotationBytes (statement : KeyRotationStatement) : Bytes :=
  keyRotationDomain ++ [pushText statement.tenantId, pushText statement.repositoryId, pushText statement.nodeId,
    pushText statement.currentKeyId, pushText statement.successorKeyId, pushText statement.successorPublicKeyFingerprint,
    .field statement.successorPublicKey, .plain statement.requestedOverlapSeconds].flatMap Push.bytes

end MindLeak.Ackplane
