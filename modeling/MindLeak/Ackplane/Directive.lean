import MindLeak.Ackplane.Enrollment
import MindLeak.Library.Protobuf
import MindLeak.Library.Sha256
import MindLeak.Library.Text

/-! Directives to a supervisor's session and the receipts for them: the messages, what binds
them to their payload, and the checks both sides make. -/

namespace MindLeak.Ackplane

namespace V1

inductive DirectivePayload where
  | notify (message : String)
  | prompt (instruction : String)
  | assign
  | steer (instruction : String) (checkpointRequired : Bool)
  | pause (checkpointRequired : Bool)
  | resume
  | drain (deadline : String)
  | terminate (mode : Int) (gracefulDeadline : String)
  deriving DecidableEq

structure AgentDirective where
  (directiveId tenantId projectId repositoryId targetNodeId targetAgentSessionId : String)
  kind : Int
  (schemaVersion issuingPrincipalId rationale taskId goalId contextPacketId createdAt : String)
  expiresAt : String
  sequence : Nat
  idempotencyKey : String
  payloadDigest : Bytes
  requiredCapability : String
  (policyRefs knowledgeRefs evidenceRefs : List String)
  payload : Option DirectivePayload
  deriving DecidableEq

structure DirectiveReceipt where
  (directiveId tenantId projectId repositoryId nodeId agentSessionId : String)
  (status reason : Int)
  occurredAt : String
  payloadDigest : Bytes
  (checkpointRefs evidenceRefs : List String)
  directiveSequence : Nat
  diagnostic : String
  outboxSequence : Option Nat
  deriving DecidableEq

inductive DirectiveKind where
  | notify | prompt | assign | steer | pause | resume | drain | terminate

namespace DirectiveKind

def asI32 : DirectiveKind → Int
  | .notify => 1
  | .prompt => 2
  | .assign => 3
  | .steer => 4
  | .pause => 5
  | .resume => 6
  | .drain => 7
  | .terminate => 8

def tryFrom (value : Int) : Option DirectiveKind :=
  match value with
  | 1 => some .notify
  | 2 => some .prompt
  | 3 => some .assign
  | 4 => some .steer
  | 5 => some .pause
  | 6 => some .resume
  | 7 => some .drain
  | 8 => some .terminate
  | _ => none

theorem tryFrom_asI32 (kind : DirectiveKind) : tryFrom kind.asI32 = some kind := by cases kind <;> rfl

end DirectiveKind

inductive DirectiveReceiptStatus where
  | accepted | refused | applied | failed | expired

namespace DirectiveReceiptStatus

def asI32 : DirectiveReceiptStatus → Int
  | .accepted => 1
  | .refused => 2
  | .applied => 3
  | .failed => 4
  | .expired => 5

def tryFrom (value : Int) : Option DirectiveReceiptStatus :=
  match value with
  | 1 => some .accepted
  | 2 => some .refused
  | 3 => some .applied
  | 4 => some .failed
  | 5 => some .expired
  | _ => none

theorem tryFrom_asI32 (status : DirectiveReceiptStatus) : tryFrom status.asI32 = some status := by cases status <;> rfl

end DirectiveReceiptStatus

inductive DirectiveReceiptReason where
  | none | expired | unsupportedKind | unsupportedVersion | capabilityMissing | unauthorized | invalidState
  | checkpointFailed | supervisorFailed | payloadDigestMismatch

namespace DirectiveReceiptReason

def asI32 : DirectiveReceiptReason → Int
  | .none => 1
  | .expired => 2
  | .unsupportedKind => 3
  | .unsupportedVersion => 4
  | .capabilityMissing => 5
  | .unauthorized => 6
  | .invalidState => 7
  | .checkpointFailed => 8
  | .supervisorFailed => 9
  | .payloadDigestMismatch => 10

def tryFrom (value : Int) : Option DirectiveReceiptReason :=
  match value with
  | 1 => some .none
  | 2 => some .expired
  | 3 => some .unsupportedKind
  | 4 => some .unsupportedVersion
  | 5 => some .capabilityMissing
  | 6 => some .unauthorized
  | 7 => some .invalidState
  | 8 => some .checkpointFailed
  | 9 => some .supervisorFailed
  | 10 => some .payloadDigestMismatch
  | _ => Option.none

theorem tryFrom_asI32 (reason : DirectiveReceiptReason) : tryFrom reason.asI32 = some reason := by cases reason <;> rfl

end DirectiveReceiptReason

inductive TerminationMode where
  | graceful | forceAfterDeadline | force

def TerminationMode.tryFrom (value : Int) : Option TerminationMode :=
  match value with
  | 1 => some .graceful
  | 2 => some .forceAfterDeadline
  | 3 => some .force
  | _ => none

end V1

/-- What both sides compute with code outside the repository: the protocol's binary encoding and
the time library's texts, in nanoseconds from the epoch. -/
structure DirectivePlatform extends EnrollmentPlatform where
  encodeDirective : V1.AgentDirective → Bytes
  encodePayload : V1.DirectivePayload → Bytes
  encodeReceipt : V1.DirectiveReceipt → Bytes
  formatRfc3339 : Int → Option String

inductive SupervisorDirectiveCapability where
  | notify | prompt | assign | steer | pause | resume | drain | terminateGracefully | terminateForce
  deriving DecidableEq

inductive SupervisorOutboxDurability where
  | persistent | ephemeral
  deriving DecidableEq

inductive SupervisorError where
  | emptyField (field : String)
  | noDirectiveCapabilities
  | duplicateDirectiveCapability (capability : SupervisorDirectiveCapability)
  | forceTerminationMismatch (supportsForceTermination forceTerminationAdvertised : Bool)
  | ephemeralOutboxCannotBeRecoverable
  deriving DecidableEq

structure SupervisorCapabilities where
  supportedDirectives : List SupervisorDirectiveCapability
  (supportsCheckpoint supportsForceTermination : Bool)
  outboxDurability : SupervisorOutboxDurability
  recoverableOutbox : Bool
  deriving DecidableEq

/-- A check that its caller gives up at. -/
def refuseIf {ε : Type} (bad : Prop) [Decidable bad] (error : ε) : Except ε Unit := if bad then .error error else .ok ()

@[simp] theorem refuseIf_ok {ε : Type} {bad : Prop} [Decidable bad] {error : ε} {value : Unit} :
    refuseIf bad error = .ok value ↔ ¬bad := by
  unfold refuseIf
  split <;> simp_all

theorem refuseIf_of_not {ε : Type} {bad : Prop} [Decidable bad] {error : ε} (good : ¬bad) : refuseIf bad error = .ok () := if_neg good

def firstRepeated {α : Type} [DecidableEq α] (known : List α) : List α → Option α
  | [] => none
  | value :: rest => if value ∈ known then some value else firstRepeated (value :: known) rest

def SupervisorCapabilities.validate (capabilities : SupervisorCapabilities) : Except SupervisorError Unit := do
  refuseIf (capabilities.supportedDirectives = []) .noDirectiveCapabilities
  match firstRepeated [] capabilities.supportedDirectives with
  | some capability => .error (.duplicateDirectiveCapability capability)
  | none =>
    let advertised := decide (.terminateForce ∈ capabilities.supportedDirectives)
    refuseIf (capabilities.supportsForceTermination ≠ advertised)
      (.forceTerminationMismatch capabilities.supportsForceTermination advertised)
    refuseIf (capabilities.outboxDurability = .ephemeral ∧ capabilities.recoverableOutbox = true)
      .ephemeralOutboxCannotBeRecoverable

structure DirectiveRequirement where
  capability : SupervisorDirectiveCapability
  requiredCapability : String

/-- What a supervisor must have advertised; nothing for a pair of kind and payload that do not match. -/
def directiveRequirement (directive : V1.AgentDirective) : Option DirectiveRequirement :=
  match V1.DirectiveKind.tryFrom directive.kind, directive.payload with
  | some .notify, some (.notify _) => some ⟨.notify, "notify.v1"⟩
  | some .prompt, some (.prompt _) => some ⟨.prompt, "prompt.v1"⟩
  | some .assign, some .assign => some ⟨.assign, "assign.v1"⟩
  | some .steer, some (.steer _ _) => some ⟨.steer, "steer.v1"⟩
  | some .pause, some (.pause _) => some ⟨.pause, "pause.v1"⟩
  | some .resume, some .resume => some ⟨.resume, "resume.v1"⟩
  | some .drain, some (.drain _) => some ⟨.drain, "drain.v1"⟩
  | some .terminate, some (.terminate mode _) =>
    match V1.TerminationMode.tryFrom mode with
    | some .graceful => some ⟨.terminateGracefully, "terminate.graceful.v1"⟩
    | some .forceAfterDeadline | some .force => some ⟨.terminateForce, "terminate.force.v1"⟩
    | none => none
  | _, _ => none

/-- The kind is hashed with the payload: empty messages are encoded alike. -/
def directivePayloadDigest (platform : DirectivePlatform) (directive : V1.AgentDirective) : Option Bytes :=
  match directiveRequirement directive, directive.payload with
  | some _, some payload =>
    some (platform.sha256 (utf8 "mindleak.ackplane.v1.agent_directive.payload\x00" ++
      bigEndian32 (UInt32.ofInt directive.kind) ++ platform.encodePayload payload))
  | _, _ => none

inductive DirectiveStoreError where
  | database
  | poolExhausted
  /-- What the registration holds does not decode. -/
  | capabilities
  | supervisor (error : SupervisorError)
  | invalidIdentifier (field : String)
  | invalidOptionalIdentifier (field : String)
  | invalidDigest (field : String)
  | payloadDigestMismatch
  | invalidPayload
  | invalidTimestamp
  | invalidTimeWindow
  | clientSequenceForbidden
  | clientCreationTimeForbidden
  | unsupportedDirective
  | requiredCapabilityMismatch
  | unknownSupervisorSession
  | targetNodeMismatch
  | capabilityMissing
  | idempotencyConflict
  | sequenceExhausted
  | receiptMismatch
  | unknownDirective
  | invalidReceiptOutcome
  deriving DecidableEq

namespace Directive

def DIGEST_BYTES : Nat := 32
def MAX_IDENTIFIER_BYTES : Nat := 256
def MAX_RATIONALE_BYTES : Nat := 4096
def MAX_REFS : Nat := 32
def MAX_PAYLOAD_BYTES : Nat := 16384
def MAX_DIAGNOSTIC_BYTES : Nat := 4096

def IsText (bound : Nat) (value : String) : Prop := Text.isBlank value = false ∧ value.utf8ByteSize ≤ bound

instance (bound : Nat) (value : String) : Decidable (IsText bound value) := inferInstanceAs (Decidable (_ ∧ _))

def requireIdentifier (field value : String) : Except DirectiveStoreError Unit :=
  refuseIf (¬IsText MAX_IDENTIFIER_BYTES value) (.invalidIdentifier field)

def validateOptionalIdentifier (field value : String) : Except DirectiveStoreError Unit :=
  refuseIf (value ≠ "" ∧ ¬IsText MAX_IDENTIFIER_BYTES value) (.invalidOptionalIdentifier field)

def validateText (field value : String) (maxBytes : Nat) : Except DirectiveStoreError Unit :=
  refuseIf (¬IsText maxBytes value) (.invalidIdentifier field)

def validateReferences (field : String) (values : List String) : Except DirectiveStoreError Unit := do
  refuseIf (MAX_REFS < values.length) (.invalidIdentifier field)
  values.forM (requireIdentifier field)

def parseTimestamp (platform : EnrollmentPlatform) (value : String) : Except DirectiveStoreError Int :=
  match platform.parseRfc3339 value with
  | none => .error .invalidTimestamp
  | some timestamp => if timestamp < 0 then .error .invalidTimestamp else .ok timestamp

def normalizeTimestamp (timestamp : Int) : Int := timestamp - timestamp % 1000

def formatTimestamp (platform : DirectivePlatform) (timestamp : Int) : Except DirectiveStoreError String :=
  match platform.formatRfc3339 (normalizeTimestamp timestamp) with
  | none => .error .invalidTimestamp
  | some text => .ok text

def identifiers (directive : V1.AgentDirective) : List (String × String) :=
  [("directive_id", directive.directiveId), ("tenant_id", directive.tenantId), ("repository_id", directive.repositoryId),
    ("project_id", directive.projectId), ("target_node_id", directive.targetNodeId),
    ("target_agent_session_id", directive.targetAgentSessionId), ("schema_version", directive.schemaVersion),
    ("issuing_principal_id", directive.issuingPrincipalId), ("idempotency_key", directive.idempotencyKey),
    ("required_capability", directive.requiredCapability)]

def optionalIdentifiers (directive : V1.AgentDirective) : List (String × String) :=
  [("task_id", directive.taskId), ("goal_id", directive.goalId), ("context_packet_id", directive.contextPacketId)]

def references (directive : V1.AgentDirective) : List (String × List String) :=
  [("policy_refs", directive.policyRefs), ("knowledge_refs", directive.knowledgeRefs),
    ("evidence_refs", directive.evidenceRefs)]

/-- `validate_directive`: what the payload requires, and when the directive expires. -/
def validate (platform : DirectivePlatform) (directive : V1.AgentDirective) (now : Int) :
    Except DirectiveStoreError (DirectiveRequirement × Int) := do
  (identifiers directive).forM fun (field, value) => requireIdentifier field value
  validateText "rationale" directive.rationale MAX_RATIONALE_BYTES
  (optionalIdentifiers directive).forM fun (field, value) => validateOptionalIdentifier field value
  (references directive).forM fun (field, values) => validateReferences field values
  refuseIf (directive.payloadDigest.length ≠ DIGEST_BYTES) (.invalidDigest "payload_digest")
  refuseIf (directive.sequence ≠ 0) .clientSequenceForbidden
  refuseIf (directive.createdAt ≠ "") .clientCreationTimeForbidden
  match directiveRequirement directive with
  | none => .error .unsupportedDirective
  | some requirement =>
    refuseIf (some directive.payloadDigest ≠ directivePayloadDigest platform directive) .payloadDigestMismatch
    refuseIf (directive.requiredCapability ≠ requirement.requiredCapability) .requiredCapabilityMismatch
    refuseIf (MAX_PAYLOAD_BYTES < (platform.encodeDirective directive).length) .invalidPayload
    let expiresAt ← parseTimestamp platform.toEnrollmentPlatform directive.expiresAt
    refuseIf (expiresAt ≤ now) .invalidTimeWindow
    .ok (requirement, expiresAt)

def requestDigest (platform : DirectivePlatform) (directive : V1.AgentDirective) : Bytes :=
  platform.sha256 (platform.encodeDirective directive)

end Directive

namespace V1.DirectiveReceipt

def identifiers (receipt : V1.DirectiveReceipt) : List (String × String) :=
  [("directive_id", receipt.directiveId), ("tenant_id", receipt.tenantId), ("repository_id", receipt.repositoryId),
    ("project_id", receipt.projectId), ("node_id", receipt.nodeId), ("agent_session_id", receipt.agentSessionId)]

def Matches (receipt : V1.DirectiveReceipt) (directive : V1.AgentDirective) : Prop :=
  receipt.directiveId = directive.directiveId ∧ receipt.tenantId = directive.tenantId ∧
    receipt.repositoryId = directive.repositoryId ∧ receipt.projectId = directive.projectId ∧
    receipt.nodeId = directive.targetNodeId ∧ receipt.agentSessionId = directive.targetAgentSessionId ∧
    receipt.directiveSequence = directive.sequence ∧ receipt.payloadDigest = directive.payloadDigest

instance (receipt : V1.DirectiveReceipt) (directive : V1.AgentDirective) : Decidable (receipt.Matches directive) :=
  inferInstanceAs (Decidable (_ ∧ _))

/-- `validate_receipt`: when what it reports occurred. -/
def validate (platform : DirectivePlatform) (receipt : V1.DirectiveReceipt) (directive : V1.AgentDirective)
    (directiveCreatedAt : Int) : Except DirectiveStoreError Int := do
  receipt.identifiers.forM fun (field, value) => Directive.requireIdentifier field value
  Directive.validateReferences "checkpoint_refs" receipt.checkpointRefs
  Directive.validateReferences "evidence_refs" receipt.evidenceRefs
  refuseIf (Directive.MAX_DIAGNOSTIC_BYTES < receipt.diagnostic.utf8ByteSize ∨ receipt.payloadDigest.length ≠ Directive.DIGEST_BYTES)
    .invalidPayload
  refuseIf (V1.DirectiveReceiptStatus.tryFrom receipt.status = none ∨ V1.DirectiveReceiptReason.tryFrom receipt.reason = none)
    .invalidReceiptOutcome
  refuseIf (¬receipt.Matches directive) .receiptMismatch
  let occurredAt ← Directive.parseTimestamp platform.toEnrollmentPlatform receipt.occurredAt
  refuseIf (occurredAt < directiveCreatedAt) .invalidTimeWindow
  refuseIf (Directive.MAX_PAYLOAD_BYTES < (platform.encodeReceipt receipt).length) .invalidPayload
  .ok occurredAt

/-- Where the receipt sat in its sender's outbox is not part of what it says. -/
def digest (platform : DirectivePlatform) (receipt : V1.DirectiveReceipt) : Bytes :=
  platform.sha256 (platform.encodeReceipt { receipt with outboxSequence := none })

end V1.DirectiveReceipt

/-! Directives and their receipts in bytes, by the field numbers of the protocol, with SHA-256 over
them: a platform that texts of one day's times and no signatures belong to. -/

namespace V1
open Protobuf

def DirectivePayload.encode : DirectivePayload → Bytes
  | .notify message => text 1 message
  | .prompt instruction => text 1 instruction
  | .assign | .resume => []
  | .steer instruction checkpointRequired => text 1 instruction ++ flag 2 checkpointRequired
  | .pause checkpointRequired => flag 1 checkpointRequired
  | .drain deadline => text 1 deadline
  | .terminate mode gracefulDeadline => enumeration 1 mode ++ text 2 gracefulDeadline

def DirectivePayload.field : DirectivePayload → Nat
  | .notify _ => 30
  | .prompt _ => 31
  | .assign => 32
  | .steer _ _ => 33
  | .pause _ => 34
  | .resume => 35
  | .drain _ => 36
  | .terminate _ _ => 37

def AgentDirective.encode (directive : AgentDirective) : Bytes :=
  text 1 directive.directiveId ++ text 2 directive.tenantId ++ text 3 directive.projectId ++ text 4 directive.repositoryId ++
    text 5 directive.targetNodeId ++ text 6 directive.targetAgentSessionId ++ enumeration 7 directive.kind ++
    text 8 directive.schemaVersion ++ text 9 directive.issuingPrincipalId ++ text 10 directive.rationale ++
    text 11 directive.taskId ++ text 12 directive.goalId ++ text 13 directive.contextPacketId ++ text 14 directive.createdAt ++
    text 15 directive.expiresAt ++ number 16 directive.sequence ++ text 17 directive.idempotencyKey ++
    bytes 18 directive.payloadDigest ++ text 19 directive.requiredCapability ++ texts 20 directive.policyRefs ++
    texts 21 directive.knowledgeRefs ++ texts 22 directive.evidenceRefs ++
    match directive.payload with
    | some payload => delimited payload.field payload.encode
    | none => []

def DirectiveReceipt.encode (receipt : DirectiveReceipt) : Bytes :=
  text 1 receipt.directiveId ++ text 2 receipt.tenantId ++ text 3 receipt.projectId ++ text 4 receipt.repositoryId ++
    text 5 receipt.nodeId ++ text 6 receipt.agentSessionId ++ enumeration 7 receipt.status ++ enumeration 8 receipt.reason ++
    text 9 receipt.occurredAt ++ bytes 10 receipt.payloadDigest ++ texts 11 receipt.checkpointRefs ++
    texts 12 receipt.evidenceRefs ++ number 13 receipt.directiveSequence ++ text 14 receipt.diagnostic ++
    optionalNumber 15 receipt.outboxSequence

end V1

section

def twoDigits (value : Nat) : List Char := [Char.ofNat (48 + value / 10), Char.ofNat (48 + value % 10)]

def firstDay (second : Nat) : String :=
  String.ofList ("1970-01-01T".toList ++ twoDigits (second / 3600) ++ ':' :: twoDigits (second / 60 % 60) ++
    ':' :: twoDigits (second % 60) ++ ['Z'])

def formatFirstDay (time : Int) : Option String :=
  if 0 ≤ time ∧ time < seconds 86400 ∧ time % seconds 1 = 0 then some (firstDay (time / seconds 1).toNat) else none

def parseFirstDay (text : String) : Option Int :=
  match text.toList.drop 11 with
  | [h, h', _, m, m', _, s, s', _] =>
    let digit (c : Char) : Nat := c.toNat - 48
    let second := (digit h * 10 + digit h') * 3600 + (digit m * 10 + digit m') * 60 + digit s * 10 + digit s'
    if second < 86400 ∧ firstDay second = text then some (seconds second) else none
  | _ => none

end

def wire : DirectivePlatform where
  sha256 := Sha256.digest
  ed25519 _ _ _ := false
  debug text := text
  parseRfc3339 := parseFirstDay
  encodeDirective := V1.AgentDirective.encode
  encodePayload := V1.DirectivePayload.encode
  encodeReceipt := V1.DirectiveReceipt.encode
  formatRfc3339 := formatFirstDay

/-- What a fact about a run of the calls is evaluated with. -/
theorem wire_unrolled : wire = { wire with sha256 := Sha256.unrolledDigest } := by
  rw [← Sha256.digest_unrolled]
  rfl

end MindLeak.Ackplane
