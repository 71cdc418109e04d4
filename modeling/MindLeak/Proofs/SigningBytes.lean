import MindLeak.Ackplane.SigningBytes
import MindLeak.Library.Framing

/-! What a signature is over can be read off the bytes that were signed: the domain ends
by itself, and behind it every push says where it ends. -/

namespace MindLeak.Ackplane

open List

theorem utf8_inj {first second : String} : utf8 first = utf8 second ↔ first = second := by
  refine ⟨fun same => ?_, congrArg utf8⟩
  simp only [utf8, String.toUTF8_eq_toByteArray] at same
  exact String.toByteArray_inj.mp (ByteArray.ext (Array.toList_inj.mp same))

theorem bigEndian32_inj {m n : UInt32} : bigEndian32 m = bigEndian32 n ↔ m = n := by
  refine ⟨fun same => ?_, congrArg bigEndian32⟩
  simp only [bigEndian32, List.cons.injEq, and_true, ← UInt8.toNat_inj, UInt32.toNat_toUInt8, UInt32.toNat_shiftRight] at same
  rw [← UInt32.toNat_inj]
  have bound := m.toNat_lt
  have bound' := n.toNat_lt
  simp [Nat.shiftRight_eq_div_pow] at same
  omega

theorem length_bigEndian32 (n : UInt32) : (bigEndian32 n).length = 4 := rfl

theorem length_bigEndian64 (n : UInt64) : (bigEndian64 n).length = 8 := rfl

theorem bigEndian64_inj {m n : UInt64} : bigEndian64 m = bigEndian64 n ↔ m = n := by
  refine ⟨fun same => ?_, congrArg bigEndian64⟩
  obtain ⟨high, low⟩ := append_inj same ((length_bigEndian32 _).trans (length_bigEndian32 _).symm)
  simp only [bigEndian32_inj, ← UInt32.toNat_inj, UInt64.toNat_toUInt32, UInt64.toNat_shiftRight] at high low
  rw [← UInt64.toNat_inj]
  have bound := m.toNat_lt
  have bound' := n.toNat_lt
  simp [Nat.shiftRight_eq_div_pow] at high low
  omega

theorem delimits_length : Delimits (· < UInt32.size) fun n => bigEndian32 (UInt32.ofNat n) := by
  refine .of_width 4 (fun _ _ => length_bigEndian32 _) ?_
  intro m n small small' same
  rw [bigEndian32_inj, ← UInt32.toNat_inj, UInt32.toNat_ofNat_of_lt' small, UInt32.toNat_ofNat_of_lt' small'] at same
  exact same

theorem delimits_field : Delimits (fun field : Bytes => field.length < UInt32.size) pushField := .prefixed delimits_length

theorem delimits_list : Delimits (fun items : List String => items.length < UInt32.size ∧
    ∀ item ∈ items, (utf8 item).length < UInt32.size) pushList :=
  (delimits_field.comp fun _ _ => utf8_inj.mp).counted delimits_length

namespace Push

inductive Kind where
  | field | list | plain

def kind : Push → Kind
  | .field _ => .field
  | .list _ => .list
  | .plain _ => .plain

def Short : Push → Prop
  | .field content => content.length < UInt32.size
  | .list items => items.length < UInt32.size ∧ ∀ item ∈ items, (utf8 item).length < UInt32.size
  | .plain _ => True

instance : (push : Push) → Decidable push.Short
  | .field content => inferInstanceAs (Decidable (content.length < UInt32.size))
  | .list items => inferInstanceAs (Decidable (items.length < UInt32.size ∧ ∀ item ∈ items, _))
  | .plain _ => isTrue trivial

theorem delimits (one : Kind) : Delimits (fun push => push.Short ∧ push.kind = one) bytes := by
  rintro first second ⟨short, rfl⟩ ⟨short', same⟩ rest rest' equal
  cases first with
  | field content =>
    cases second with
    | field content' =>
      obtain ⟨rfl, behind⟩ := delimits_field content content' short short' rest rest' equal
      exact ⟨rfl, behind⟩
    | list | plain => cases same
  | list items =>
    cases second with
    | list items' =>
      obtain ⟨rfl, behind⟩ := delimits_list items items' short short' rest rest' equal
      exact ⟨rfl, behind⟩
    | field | plain => cases same
  | plain n =>
    cases second with
    | plain m =>
      obtain ⟨number, behind⟩ := append_inj equal ((length_bigEndian64 n).trans (length_bigEndian64 m).symm)
      rw [bigEndian64_inj.mp number]
      exact ⟨rfl, behind⟩
    | field | list => cases same

theorem bytes_ne_nil (push : Push) : push.bytes ≠ [] := by
  cases push <;> simp [bytes, pushField, pushList, bigEndian64, bigEndian32]

end Push

@[simp] theorem kind_pushText (text : String) : (pushText text).kind = .field := rfl
@[simp] theorem kind_push32 (n : UInt32) : (push32 n).kind = .field := rfl
@[simp] theorem kind_push64 (n : UInt64) : (push64 n).kind = .field := rfl
@[simp] theorem kind_pushI32 (n : Int32) : (pushI32 n).kind = .field := rfl
@[simp] theorem kind_pushOption (text : Option String) : (pushOption text).kind = .field := rfl
@[simp] theorem kind_field (content : Bytes) : (Push.field content).kind = .field := rfl
@[simp] theorem kind_plain (n : UInt64) : (Push.plain n).kind = .plain := rfl

@[simp] theorem pushText_inj {first second : String} : pushText first = pushText second ↔ first = second := by
  simp [pushText, utf8_inj]

@[simp] theorem push32_inj {m n : UInt32} : push32 m = push32 n ↔ m = n := by
  simp [push32, bigEndian32_inj]

@[simp] theorem push64_inj {m n : UInt64} : push64 m = push64 n ↔ m = n := by
  simp [push64, bigEndian64_inj]

@[simp] theorem pushI32_inj {m n : Int32} : pushI32 m = pushI32 n ↔ m = n := by
  simp only [pushI32, Push.field.injEq, bigEndian32_inj]
  refine ⟨fun same => ?_, congrArg Int32.toUInt32⟩
  exact Int32.toBitVec.inj (congrArg UInt32.toBitVec same)

def framedText (text : Option String) : Option String := some (text.getD "")

@[simp] theorem pushOption_inj {first second : Option String} :
    pushOption first = pushOption second ↔ framedText first = framedText second := by
  simp [pushOption, framedText]

theorem map_pushText_inj {first second : List String} : first.map pushText = second.map pushText ↔ first = second :=
  map_inj_right fun _ _ => pushText_inj.mp

def Fielded (pushes : List Push) : Prop := ∀ push ∈ pushes, push.kind = .field

theorem Fielded.alike {first second : List Push} (fielded : Fielded first) (fielded' : Fielded second) :
    Alike Push.kind first second := .of_kind fielded fielded'

theorem fielded_nil : Fielded [] := forall_mem_nil _

@[simp] theorem fielded_cons {push : Push} {pushes : List Push} :
    Fielded (push :: pushes) ↔ push.kind = .field ∧ Fielded pushes := forall_mem_cons

@[simp] theorem fielded_append {first second : List Push} : Fielded (first ++ second) ↔ Fielded first ∧ Fielded second :=
  forall_mem_append

theorem fielded_map {ι : Type} {push : ι → Push} (fielded : ∀ item, (push item).kind = .field) (items : List ι) :
    Fielded (items.map push) := by
  intro one member
  obtain ⟨item, _, rfl⟩ := mem_map.mp member
  exact fielded item

theorem fielded_identityFields (authentication : V1.RequestAuthentication) (tenantId repositoryId : String) :
    Fielded (authentication.identityFields tenantId repositoryId) := by
  simp [V1.RequestAuthentication.identityFields, fielded_nil]

namespace ClaimOperation

def kinds (tag : String) : List Push.Kind :=
  if tag = "delegate" then [.field, .field, .list, .list]
  else if tag = "recover" then [.field, .field, .field, .list, .list, .field]
  else if tag = "renew" ∨ tag = "answer" then [.field]
  else []

theorem kinds_fields (operation : ClaimOperation) : operation.fields.map Push.kind = kinds operation.tag := by
  cases operation <;> rfl

theorem alike (first second : ClaimOperation) : Alike Push.kind first.pushFields second.pushFields := by
  refine ⟨rfl, fun same => .of_kinds ?_⟩
  rw [kinds_fields, kinds_fields, pushText_inj.mp same]

theorem pushFields_inj {first second : ClaimOperation} (same : first.pushFields = second.pushFields) : first = second := by
  simp only [pushFields, List.cons.injEq, pushText_inj] at same
  cases first with
  | delegate =>
    cases second with
    | delegate => simpa [fields] using same.2
    | _ => simp [tag] at same
  | renew =>
    cases second with
    | renew => simpa [fields] using same.2
    | _ => simp [tag] at same
  | release =>
    cases second with
    | release => rfl
    | _ => simp [tag] at same
  | recover =>
    cases second with
    | recover => simpa [fields] using same.2
    | _ => simp [tag] at same
  | park =>
    cases second with
    | park => rfl
    | _ => simp [tag] at same
  | answer =>
    cases second with
    | answer => simpa [fields] using same.2
    | _ => simp [tag] at same

end ClaimOperation

namespace KnowledgeOperation

def framed : KnowledgeOperation → KnowledgeOperation
  | .record content sourceRef reachNodeIds reachGoalId halfLifeHours embeddingModel =>
    .record content (framedText sourceRef) reachNodeIds (framedText reachGoalId) halfLifeHours (framedText embeddingModel)
  | operation => operation

theorem fielded (operation : KnowledgeOperation) : Fielded operation.pushFields := by
  cases operation <;> simp [pushFields, fields, fielded_nil, fielded_map kind_pushText]

theorem pushFields_inj {first second : KnowledgeOperation} (same : first.pushFields = second.pushFields) :
    first.framed = second.framed := by
  simp only [pushFields, List.cons.injEq, pushText_inj] at same
  cases first with
  | record content sourceRef reachNodeIds =>
    cases second with
    | record content' sourceRef' reachNodeIds' =>
      obtain ⟨before, behind⟩ := append_inj' same.2 rfl
      obtain ⟨before, reach⟩ := append_inj before rfl
      rw [map_pushText_inj] at reach
      simp_all [framed]
    | _ => simp [tag] at same
  | «recall» present =>
    cases second with
    | «recall» present' =>
      cases present <;> cases present' <;> simp_all [fields, framed]
    | _ => simp [tag] at same
  | history =>
    cases second with
    | history => simpa [fields, framed] using same.2
    | _ => simp [tag] at same
  | reconfirm =>
    cases second with
    | reconfirm => simpa [fields, framed] using same.2
    | _ => simp [tag] at same
  | retire =>
    cases second with
    | retire => simpa [fields, framed] using same.2
    | _ => simp [tag] at same

end KnowledgeOperation

theorem fielded_pushI32List (items : List Int32) : Fielded (pushI32List items) := by
  simp [pushI32List, fielded_map kind_pushI32]

theorem fielded_pushVector (embedding : List UInt32) : Fielded (pushVector embedding) := by
  simp [pushVector, fielded_map kind_push32]

theorem pushI32List_inj {first second : List Int32} (same : pushI32List first = pushI32List second) : first = second :=
  map_injective_iff.mpr (fun _ _ => pushI32_inj.mp) (List.cons.inj same).2

theorem pushVector_inj {first second : List UInt32} (same : pushVector first = pushVector second) : first = second :=
  map_injective_iff.mpr (fun _ _ => push32_inj.mp) (List.cons.inj same).2

namespace EvidenceOperation

def framed : EvidenceOperation → EvidenceOperation
  | .list taskId limit pageBeforeRecordedAt pageBeforeEvidenceId =>
    .list taskId limit (framedText pageBeforeRecordedAt) (framedText pageBeforeEvidenceId)
  | .listConformance taskId limit pageBeforeRecordedAt pageBeforeConformanceId =>
    .listConformance taskId limit (framedText pageBeforeRecordedAt) (framedText pageBeforeConformanceId)
  | operation => operation

theorem fielded (operation : EvidenceOperation) : Fielded operation.pushFields := by
  cases operation <;> simp [pushFields, fields, fielded_nil, fielded_pushI32List]

theorem pushFields_inj {first second : EvidenceOperation} (same : first.pushFields = second.pushFields) :
    first.framed = second.framed := by
  simp only [pushFields, List.cons.injEq, pushText_inj] at same
  cases first with
  | record =>
    cases second with
    | record => simpa [fields, framed] using same.2
    | _ => simp [tag] at same
  | list =>
    cases second with
    | list => simpa [fields, framed] using same.2
    | _ => simp [tag] at same
  | recordConformance =>
    cases second with
    | recordConformance =>
      obtain ⟨before, behind⟩ := append_inj' same.2 rfl
      obtain ⟨before, codes⟩ := append_inj before rfl
      have codes := pushI32List_inj codes
      simp_all [framed]
    | _ => simp [tag] at same
  | listConformance =>
    cases second with
    | listConformance => simpa [fields, framed] using same.2
    | _ => simp [tag] at same

end EvidenceOperation

namespace ProjectionEmbeddingOperation

theorem fielded (operation : ProjectionEmbeddingOperation) : Fielded operation.pushFields := by
  cases operation <;> simp [pushFields, fields, fielded_nil, fielded_pushVector]

theorem pushFields_inj {first second : ProjectionEmbeddingOperation} (same : first.pushFields = second.pushFields) :
    first = second := by
  simp only [pushFields, List.cons.injEq, pushText_inj] at same
  cases first with
  | listMissing =>
    cases second with
    | listMissing => simpa [fields] using same.2
    | _ => simp [tag] at same
  | publish source =>
    cases second with
    | publish source' =>
      obtain ⟨before, vector⟩ := append_inj same.2 rfl
      have vector := pushVector_inj vector
      cases source
      cases source'
      simp_all
    | _ => simp [tag] at same
  | «recall» =>
    cases second with
    | «recall» =>
      obtain ⟨before, behind⟩ := append_inj' same.2 rfl
      obtain ⟨before, vector⟩ := append_inj before rfl
      have vector := pushVector_inj vector
      simp_all
    | _ => simp [tag] at same

end ProjectionEmbeddingOperation

namespace LifecyclePurgeOperation

theorem fielded (operation : LifecyclePurgeOperation) : Fielded operation.pushFields := by
  cases operation <;> simp [pushFields, fields, fielded_nil]

theorem pushFields_inj {first second : LifecyclePurgeOperation} (same : first.pushFields = second.pushFields) :
    first = second := by
  simp only [pushFields, List.cons.injEq, pushText_inj] at same
  cases first with
  | preview =>
    cases second with
    | preview => simpa [fields] using same.2
    | confirm => simp [tag] at same
  | confirm =>
    cases second with
    | preview => simp [tag] at same
    | confirm => simpa [fields] using same.2

end LifecyclePurgeOperation

namespace RecoveryExecutionOperation

theorem fielded (operation : RecoveryExecutionOperation) : Fielded operation.pushFields := by
  cases operation <;> simp [pushFields, fields, fielded_nil]

theorem pushFields_inj {first second : RecoveryExecutionOperation} (same : first.pushFields = second.pushFields) :
    first = second := by
  simp only [pushFields, List.cons.injEq, pushText_inj] at same
  cases first with
  | preview =>
    cases second with
    | preview => simpa [fields] using same.2
    | confirm => simp [tag] at same
  | confirm =>
    cases second with
    | preview => simp [tag] at same
    | confirm => simpa [fields] using same.2

end RecoveryExecutionOperation

namespace ConstitutionOperation

theorem fielded (operation : ConstitutionOperation) : Fielded operation.pushFields := by
  cases operation <;> simp [pushFields, fields, fielded_nil]

theorem pushFields_inj {first second : ConstitutionOperation} (same : first.pushFields = second.pushFields) :
    first = second := by
  simp only [pushFields, List.cons.injEq, pushText_inj] at same
  cases first with
  | publish =>
    cases second with
    | publish => simpa [fields] using same.2
    | getActive => simp [tag] at same
  | getActive =>
    cases second with
    | publish => simp [tag] at same
    | getActive => rfl

end ConstitutionOperation

namespace TelemetryOperation

def framed : TelemetryOperation → TelemetryOperation
  | .record agentSessionId kind name outcome durationMs occurredAt measurements =>
    .record (framedText agentSessionId) kind name outcome durationMs occurredAt measurements
  | .read kind name bucketSeconds maxPoints => .read kind (framedText name) bucketSeconds maxPoints

theorem delimits_measurement : Delimits (fun _ => True) V1.TelemetryMeasurement.fields := by
  refine .of_width 2 (fun _ _ => rfl) ?_
  rintro ⟨name, value⟩ ⟨name', value'⟩ _ _ same
  simpa [V1.TelemetryMeasurement.fields] using same

theorem fielded_measurements (measurements : List V1.TelemetryMeasurement) :
    Fielded (measurements.flatMap V1.TelemetryMeasurement.fields) := by
  induction measurements with
  | nil => exact fielded_nil
  | cons measurement rest ih => simpa [V1.TelemetryMeasurement.fields, fielded_nil] using ih

theorem fielded (operation : TelemetryOperation) : Fielded operation.pushFields := by
  cases operation <;> simp [pushFields, fields, fielded_nil, fielded_measurements]

theorem pushFields_inj {first second : TelemetryOperation} (same : first.pushFields = second.pushFields) :
    first.framed = second.framed := by
  simp only [pushFields, List.cons.injEq, pushText_inj] at same
  cases first with
  | record agentSessionId kind name outcome durationMs occurredAt measurements =>
    cases second with
    | record agentSessionId' kind' name' outcome' durationMs' occurredAt' measurements' =>
      obtain ⟨before, measured⟩ := append_inj same.2 rfl
      have measured := delimits_measurement.flatMap_injective (fun _ => cons_ne_nil _ _) (fun _ _ => trivial)
        (fun _ _ => trivial) measured
      simp_all [framed]
    | _ => simp [tag] at same
  | read =>
    cases second with
    | read => simpa [fields, framed] using same.2
    | _ => simp [tag] at same

end TelemetryOperation

inductive SigningDomain where
  | claim | knowledge | evidence | projectionEmbedding | lifecyclePurge | recoveryExecution | constitution | telemetry
  | enrollmentStatus | connection | activation | keyRotation | envelope

namespace SigningDomain

def text : SigningDomain → String
  | .claim => "mindleak.ackplane.v1.claim"
  | .knowledge => "mindleak.ackplane.v1.knowledge"
  | .evidence => "mindleak.ackplane.v1.evidence"
  | .projectionEmbedding => "mindleak.ackplane.v1.projection-embedding"
  | .lifecyclePurge => "mindleak.ackplane.v1.lifecycle-purge"
  | .recoveryExecution => "mindleak.ackplane.v1.recovery-execution"
  | .constitution => "mindleak.ackplane.v1.constitution"
  | .telemetry => "mindleak.ackplane.v1.telemetry"
  | .enrollmentStatus => "mindleak.ackplane.v1.enrollment_status"
  | .connection => "mindleak.ackplane.v1.node_sync.connection"
  | .activation => "mindleak.ackplane.v1.enrollment.activation"
  | .keyRotation => "mindleak.ackplane.v1.enrollment.key_rotation"
  | .envelope => "mindleak.ackplane.v1.envelope"

theorem text_inj {first second : SigningDomain} (same : first.text = second.text) : first = second := by
  cases first <;> cases second <;> first | rfl | simp [text] at same

def bytes (domain : SigningDomain) : Bytes := utf8 domain.text ++ [0]

/-- A domain is not the beginning of another's bytes: it ends with a zero, and has no other. -/
theorem delimits : Delimits (fun _ => True) bytes := by
  have free (domain : SigningDomain) : 0 ∉ utf8 domain.text := by
    cases domain <;> decide +kernel
  intro first second _ _ rest rest' same
  obtain ⟨name, behind⟩ := Delimits.terminated 0 _ _ (free first) (free second) rest rest' same
  exact ⟨text_inj (utf8_inj.mp name), behind⟩

end SigningDomain

inductive SignedRequest where
  | claim (tenantId repositoryId taskId ownerId : String) (operation : ClaimOperation)
    (authentication : V1.RequestAuthentication)
  | knowledge (tenantId repositoryId : String) (operation : KnowledgeOperation) (authentication : V1.RequestAuthentication)
  | evidence (tenantId repositoryId : String) (operation : EvidenceOperation) (authentication : V1.RequestAuthentication)
  | projectionEmbedding (tenantId repositoryId : String) (operation : ProjectionEmbeddingOperation)
    (authentication : V1.RequestAuthentication)
  | lifecyclePurge (tenantId repositoryId : String) (operation : LifecyclePurgeOperation)
    (authentication : V1.RequestAuthentication)
  | recoveryExecution (tenantId repositoryId : String) (operation : RecoveryExecutionOperation)
    (authentication : V1.RequestAuthentication)
  | constitution (tenantId repositoryId : String) (operation : ConstitutionOperation)
    (authentication : V1.RequestAuthentication)
  | telemetry (tenantId repositoryId : String) (operation : TelemetryOperation) (authentication : V1.RequestAuthentication)
  | enrollmentStatus (tenantId repositoryId : String) (operation : EnrollmentStatusOperation)
    (authentication : V1.EnrollmentStatusAuthentication)
  | connection (binding : ConnectionChallengeBinding)
  | activation (nonce : Bytes) (requestId tenantId repositoryId nodeId publicKeyFingerprint : String)
  | keyRotation (statement : KeyRotationStatement)
  | envelope (wire : V1.EventEnvelope)

namespace SignedRequest

def domain : SignedRequest → SigningDomain
  | .claim .. => .claim
  | .knowledge .. => .knowledge
  | .evidence .. => .evidence
  | .projectionEmbedding .. => .projectionEmbedding
  | .lifecyclePurge .. => .lifecyclePurge
  | .recoveryExecution .. => .recoveryExecution
  | .constitution .. => .constitution
  | .telemetry .. => .telemetry
  | .enrollmentStatus .. => .enrollmentStatus
  | .connection .. => .connection
  | .activation .. => .activation
  | .keyRotation .. => .keyRotation
  | .envelope .. => .envelope

def signingBytes : SignedRequest → Bytes
  | .claim tenantId repositoryId taskId ownerId operation authentication =>
    claimSigningBytes tenantId repositoryId taskId ownerId operation authentication
  | .knowledge tenantId repositoryId operation authentication =>
    knowledgeSigningBytes tenantId repositoryId operation authentication
  | .evidence tenantId repositoryId operation authentication =>
    evidenceSigningBytes tenantId repositoryId operation authentication
  | .projectionEmbedding tenantId repositoryId operation authentication =>
    projectionEmbeddingSigningBytes tenantId repositoryId operation authentication
  | .lifecyclePurge tenantId repositoryId operation authentication =>
    lifecyclePurgeSigningBytes tenantId repositoryId operation authentication
  | .recoveryExecution tenantId repositoryId operation authentication =>
    recoveryExecutionSigningBytes tenantId repositoryId operation authentication
  | .constitution tenantId repositoryId operation authentication =>
    constitutionSigningBytes tenantId repositoryId operation authentication
  | .telemetry tenantId repositoryId operation authentication =>
    telemetrySigningBytes tenantId repositoryId operation authentication
  | .enrollmentStatus tenantId repositoryId operation authentication =>
    enrollmentStatusSigningBytes tenantId repositoryId operation authentication
  | .connection binding => connectionChallengeBytes binding
  | .activation nonce requestId tenantId repositoryId nodeId publicKeyFingerprint =>
    activationChallengeBytes nonce requestId tenantId repositoryId nodeId publicKeyFingerprint
  | .keyRotation statement => keyRotationBytes statement
  | .envelope wire => envelopeSigningBytes wire

def pushes : SignedRequest → List Push
  | .claim tenantId repositoryId taskId ownerId operation authentication =>
    authentication.identityFields tenantId repositoryId ++ [pushText taskId, pushText ownerId] ++ operation.pushFields
  | .knowledge tenantId repositoryId operation authentication =>
    authentication.identityFields tenantId repositoryId ++ operation.pushFields
  | .evidence tenantId repositoryId operation authentication =>
    authentication.identityFields tenantId repositoryId ++ operation.pushFields
  | .projectionEmbedding tenantId repositoryId operation authentication =>
    authentication.identityFields tenantId repositoryId ++ operation.pushFields
  | .lifecyclePurge tenantId repositoryId operation authentication =>
    authentication.identityFields tenantId repositoryId ++ operation.pushFields
  | .recoveryExecution tenantId repositoryId operation authentication =>
    authentication.identityFields tenantId repositoryId ++ operation.pushFields
  | .constitution tenantId repositoryId operation authentication =>
    authentication.identityFields tenantId repositoryId ++ operation.pushFields
  | .telemetry tenantId repositoryId operation authentication =>
    authentication.identityFields tenantId repositoryId ++ operation.pushFields
  | .enrollmentStatus tenantId repositoryId operation authentication =>
    [pushText authentication.nodeId, pushText authentication.keyFingerprint, pushText authentication.signedAt,
      .field authentication.nonce, pushText tenantId, pushText repositoryId, pushText operation.tag]
  | .connection binding =>
    [.field binding.nonce, pushText binding.identity.tenantId, pushText binding.identity.repositoryId,
      pushText binding.identity.producerId, pushText binding.signingKeyId]
  | .activation nonce requestId tenantId repositoryId nodeId publicKeyFingerprint =>
    [.field nonce, pushText requestId, pushText tenantId, pushText repositoryId, pushText nodeId,
      pushText publicKeyFingerprint]
  | .keyRotation statement =>
    [pushText statement.tenantId, pushText statement.repositoryId, pushText statement.nodeId,
      pushText statement.currentKeyId, pushText statement.successorKeyId,
      pushText statement.successorPublicKeyFingerprint, .field statement.successorPublicKey,
      .plain statement.requestedOverlapSeconds]
  | .envelope wire =>
    [pushText wire.schemaVersion, pushText wire.tenantId, pushText wire.repositoryId, pushText wire.producerId,
      push64 wire.producerSequence, pushText wire.occurredAt, pushText wire.payloadType, .field wire.payloadDigest,
      .field wire.previousEnvelopeDigest, pushText wire.signingKeyId]

theorem signingBytes_eq (request : SignedRequest) :
    request.signingBytes = request.domain.bytes ++ request.pushes.flatMap Push.bytes := by
  cases request <;> rfl

def Short (request : SignedRequest) : Prop := ∀ push ∈ request.pushes, push.Short

instance (request : SignedRequest) : Decidable request.Short := inferInstanceAs (Decidable (∀ push ∈ request.pushes, _))

end SignedRequest

def V1.RequestAuthentication.framed (authentication : V1.RequestAuthentication) : V1.RequestAuthentication :=
  { authentication with signature := [] }

def V1.EnrollmentStatusAuthentication.framed (authentication : V1.EnrollmentStatusAuthentication) :
    V1.EnrollmentStatusAuthentication := { authentication with signature := [] }

/-- A payload is signed by its digest; the provenance is not signed. -/
def V1.EventEnvelope.framed (wire : V1.EventEnvelope) : V1.EventEnvelope :=
  { wire with payload := [], signature := [], provenance := 0 }

/-- What a builder frames of a request, an absent text being an empty one. -/
def SignedRequest.framed : SignedRequest → SignedRequest
  | .claim tenantId repositoryId taskId ownerId operation authentication =>
    .claim tenantId repositoryId taskId ownerId operation authentication.framed
  | .knowledge tenantId repositoryId operation authentication =>
    .knowledge tenantId repositoryId operation.framed authentication.framed
  | .evidence tenantId repositoryId operation authentication =>
    .evidence tenantId repositoryId operation.framed authentication.framed
  | .projectionEmbedding tenantId repositoryId operation authentication =>
    .projectionEmbedding tenantId repositoryId operation authentication.framed
  | .lifecyclePurge tenantId repositoryId operation authentication =>
    .lifecyclePurge tenantId repositoryId operation authentication.framed
  | .recoveryExecution tenantId repositoryId operation authentication =>
    .recoveryExecution tenantId repositoryId operation authentication.framed
  | .constitution tenantId repositoryId operation authentication =>
    .constitution tenantId repositoryId operation authentication.framed
  | .telemetry tenantId repositoryId operation authentication =>
    .telemetry tenantId repositoryId operation.framed authentication.framed
  | .enrollmentStatus tenantId repositoryId operation authentication =>
    .enrollmentStatus tenantId repositoryId operation authentication.framed
  | .envelope wire => .envelope wire.framed
  | request => request

namespace SignedRequest

section
variable {authentication authentication' : V1.RequestAuthentication} {tenantId repositoryId tenantId' repositoryId' : String}
  {pushes pushes' : List Push}

theorem alike_signed (fielded : Fielded pushes) (fielded' : Fielded pushes') :
    Alike Push.kind (authentication.identityFields tenantId repositoryId ++ pushes)
      (authentication'.identityFields tenantId' repositoryId' ++ pushes') :=
  (fielded_append.mpr ⟨fielded_identityFields _ _ _, fielded⟩).alike
    (fielded_append.mpr ⟨fielded_identityFields _ _ _, fielded'⟩)

theorem identityFields_append_inj (same : authentication.identityFields tenantId repositoryId ++ pushes =
    authentication'.identityFields tenantId' repositoryId' ++ pushes') :
    authentication.framed = authentication'.framed ∧ tenantId = tenantId' ∧ repositoryId = repositoryId' ∧
      pushes = pushes' := by
  obtain ⟨identity, behind⟩ := append_inj same rfl
  simp only [V1.RequestAuthentication.identityFields, List.cons.injEq, pushText_inj, Push.field.injEq] at identity
  simp_all [V1.RequestAuthentication.framed]

end

theorem alike {first second : SignedRequest} (same : first.domain = second.domain) :
    Alike Push.kind first.pushes second.pushes := by
  cases first <;> cases second <;> try cases same
  case claim.claim operation _ _ _ _ _ operation' _ =>
    refine Alike.append (.of_kinds ?_) rfl fun _ => operation.alike operation'
    simp [V1.RequestAuthentication.identityFields]
  case knowledge.knowledge operation _ _ _ operation' _ => exact alike_signed operation.fielded operation'.fielded
  case evidence.evidence operation _ _ _ operation' _ => exact alike_signed operation.fielded operation'.fielded
  case projectionEmbedding.projectionEmbedding operation _ _ _ operation' _ => exact alike_signed operation.fielded operation'.fielded
  case lifecyclePurge.lifecyclePurge operation _ _ _ operation' _ => exact alike_signed operation.fielded operation'.fielded
  case recoveryExecution.recoveryExecution operation _ _ _ operation' _ => exact alike_signed operation.fielded operation'.fielded
  case constitution.constitution operation _ _ _ operation' _ => exact alike_signed operation.fielded operation'.fielded
  case telemetry.telemetry operation _ _ _ operation' _ => exact alike_signed operation.fielded operation'.fielded
  all_goals exact .of_kinds (by simp [pushes])

theorem framed_of_pushes {first second : SignedRequest} (domain : first.domain = second.domain)
    (same : first.pushes = second.pushes) : first.framed = second.framed := by
  cases first <;> cases second <;> try cases domain
  case claim.claim =>
    simp only [pushes, append_assoc] at same
    obtain ⟨authentication, rfl, rfl, behind⟩ := identityFields_append_inj same
    simp only [cons_append, nil_append, List.cons.injEq, pushText_inj] at behind
    obtain ⟨rfl, rfl, operation⟩ := behind
    rw [framed, framed, authentication, ClaimOperation.pushFields_inj operation]
  case knowledge.knowledge =>
    obtain ⟨authentication, rfl, rfl, operation⟩ := identityFields_append_inj same
    rw [framed, framed, authentication, KnowledgeOperation.pushFields_inj operation]
  case evidence.evidence =>
    obtain ⟨authentication, rfl, rfl, operation⟩ := identityFields_append_inj same
    rw [framed, framed, authentication, EvidenceOperation.pushFields_inj operation]
  case projectionEmbedding.projectionEmbedding =>
    obtain ⟨authentication, rfl, rfl, operation⟩ := identityFields_append_inj same
    rw [framed, framed, authentication, ProjectionEmbeddingOperation.pushFields_inj operation]
  case lifecyclePurge.lifecyclePurge =>
    obtain ⟨authentication, rfl, rfl, operation⟩ := identityFields_append_inj same
    rw [framed, framed, authentication, LifecyclePurgeOperation.pushFields_inj operation]
  case recoveryExecution.recoveryExecution =>
    obtain ⟨authentication, rfl, rfl, operation⟩ := identityFields_append_inj same
    rw [framed, framed, authentication, RecoveryExecutionOperation.pushFields_inj operation]
  case constitution.constitution =>
    obtain ⟨authentication, rfl, rfl, operation⟩ := identityFields_append_inj same
    rw [framed, framed, authentication, ConstitutionOperation.pushFields_inj operation]
  case telemetry.telemetry =>
    obtain ⟨authentication, rfl, rfl, operation⟩ := identityFields_append_inj same
    rw [framed, framed, authentication, TelemetryOperation.pushFields_inj operation]
  case connection.connection binding binding' =>
    obtain ⟨nonce, ⟨tenantId, repositoryId, producerId⟩, signingKeyId⟩ := binding
    obtain ⟨nonce', ⟨tenantId', repositoryId', producerId'⟩, signingKeyId'⟩ := binding'
    simp_all [pushes, framed]
  case keyRotation.keyRotation statement statement' =>
    cases statement
    cases statement'
    simp_all [pushes, framed]
  case envelope.envelope wire wire' =>
    cases wire
    cases wire'
    simp_all [pushes, framed, V1.EventEnvelope.framed]
  all_goals simp_all [pushes, framed, V1.EnrollmentStatusAuthentication.framed]

/-- Equal signing bytes are signed for one domain, one operation and equal fields. -/
theorem signing_bytes_are_unambiguous {first second : SignedRequest} (short : first.Short) (short' : second.Short)
    (same : first.signingBytes = second.signingBytes) : first.domain = second.domain ∧ first.framed = second.framed := by
  rw [signingBytes_eq, signingBytes_eq] at same
  obtain ⟨domain, behind⟩ := SigningDomain.delimits _ _ trivial trivial _ _ same
  have pushed := (alike domain).flatMap_injective Push.delimits Push.bytes_ne_nil short short' behind
  exact ⟨domain, framed_of_pushes domain pushed⟩

def lesson (sourceRef : Option String) (signature : Bytes) : SignedRequest :=
  .knowledge "acme" "repo" (.record "use make" sourceRef ["artifact:Makefile"] none 0x4086800000000000 none)
    ⟨"key:1", "node-1", "2026-01-01T00:00:00Z", [7], signature⟩

theorem signing_bytes_of_a_lesson : (lesson none [1]).domain = (lesson (some "") []).domain ∧
    (lesson none [1]).framed = (lesson (some "") []).framed :=
  signing_bytes_are_unambiguous (by decide +kernel) (by decide +kernel) (by decide +kernel)

end SignedRequest

end MindLeak.Ackplane
