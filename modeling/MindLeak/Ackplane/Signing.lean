import MindLeak.Ackplane.Types

/-! The registry of signing keys, the bytes that nodes sign, and what a record's
signature is worth. -/

namespace MindLeak.Ackplane

structure SigningKeyRecord where
  (signingKeyId tenantId repositoryId nodeId : String)
  publicKey : Bytes
  publicKeyFingerprint : String
  activatedAt : Int
  expiresAt : Option Int
  deriving DecidableEq

structure SigningKeyLifecycle where
  record : SigningKeyRecord
  (retiredAt revokedAt : Option Int)
  deriving DecidableEq

structure SigningKeyRow where
  lifecycle : SigningKeyLifecycle
  revocationReason : Option String
  deriving DecidableEq

instance : Row SigningKeyRow String := ⟨fun row => row.lifecycle.record.signingKeyId⟩

abbrev SigningKeys := Table SigningKeyRow

structure EnvelopeBinding where
  (signingKeyId tenantId repositoryId producerId : String)
  acceptedAt : Int

def EnvelopeBinding.of (signingKeyId : String) (identity : Identity) (acceptedAt : Int) : EnvelopeBinding :=
  ⟨signingKeyId, identity.tenantId, identity.repositoryId, identity.producerId, acceptedAt⟩

inductive KeyResolution where
  | resolved (record : SigningKeyRecord)
  | unknown | bindingMismatch | notYetActive | expired | revoked | retired
  deriving DecidableEq

inductive SigningKeyError where
  | database | poolExhausted
  deriving DecidableEq

structure KeyRevocation where
  (signingKeyId reason : String)
  deriving DecidableEq

namespace SigningKeys

/-- `none` where the node already holds this fingerprint from that moment on. -/
def register (keys : SigningKeys) (record : SigningKeyRecord) : Option SigningKeys :=
  if (keys.find? record.signingKeyId).isSome then some keys
  else if keys.rows.any fun row =>
      let held := row.lifecycle.record
      decide (held.tenantId = record.tenantId) && decide (held.repositoryId = record.repositoryId) &&
        decide (held.nodeId = record.nodeId) && decide (held.publicKeyFingerprint = record.publicKeyFingerprint) &&
        decide (held.activatedAt = record.activatedAt) then none
  else some (keys.insertOrIgnore ⟨⟨record, none, none⟩, none⟩)

def retire (keys : SigningKeys) (signingKeyId : String) (retiredAt : Int) : SigningKeys :=
  keys.update (fun row => decide (row.lifecycle.record.signingKeyId = signingKeyId))
    (fun row => { row with lifecycle := { row.lifecycle with retiredAt := some retiredAt } })

def revoke (keys : SigningKeys) (revocation : KeyRevocation) (revokedAt : Int) : Bool × SigningKeys :=
  let selects (row : SigningKeyRow) : Bool :=
    decide (row.lifecycle.record.signingKeyId = revocation.signingKeyId) && row.lifecycle.revokedAt.isNone
  (keys.rows.any selects, keys.update selects fun row =>
    { row with
      lifecycle := { row.lifecycle with revokedAt := some revokedAt }
      revocationReason := some revocation.reason })

end SigningKeys

def judge (lifecycle : SigningKeyLifecycle) (binding : EnvelopeBinding) : KeyResolution :=
  let record := lifecycle.record
  if record.tenantId ≠ binding.tenantId ∨ record.repositoryId ≠ binding.repositoryId ∨
      record.nodeId ≠ binding.producerId then .bindingMismatch
  else if binding.acceptedAt < record.activatedAt then .notYetActive
  else if lifecycle.revokedAt.any fun revoked => decide (revoked ≤ binding.acceptedAt) then .revoked
  else if record.expiresAt.any fun expires => decide (expires ≤ binding.acceptedAt) then .expired
  else if lifecycle.retiredAt.any fun retired => decide (retired ≤ binding.acceptedAt) then .retired
  else .resolved record

def SigningKeys.resolve (keys : SigningKeys) (binding : EnvelopeBinding) : KeyResolution :=
  match keys.find? binding.signingKeyId with
  | none => .unknown
  | some row => judge row.lifecycle binding

structure SigningKeyLifecycle.InForce (lifecycle : SigningKeyLifecycle) (identity : Identity) (moment : Int) : Prop where
  owner : identity = ⟨lifecycle.record.tenantId, lifecycle.record.repositoryId, lifecycle.record.nodeId⟩
  active : lifecycle.record.activatedAt ≤ moment
  unrevoked : ∀ revoked ∈ lifecycle.revokedAt, moment < revoked
  unexpired : ∀ expires ∈ lifecycle.record.expiresAt, moment < expires
  unretired : ∀ retired ∈ lifecycle.retiredAt, moment < retired

theorem judge_resolved {lifecycle : SigningKeyLifecycle} {signingKeyId : String} {identity : Identity} {moment : Int}
    {record : SigningKeyRecord}
    (resolved : judge lifecycle (.of signingKeyId identity moment) = .resolved record) :
    record = lifecycle.record ∧ lifecycle.InForce identity moment := by
  simp only [judge, EnvelopeBinding.of, Option.any_eq_true] at resolved
  split at resolved
  · cases resolved
  rename_i owned
  split at resolved
  · cases resolved
  split at resolved
  · cases resolved
  rename_i unrevoked
  split at resolved
  · cases resolved
  rename_i unexpired
  split at resolved
  · cases resolved
  rename_i unretired
  cases resolved
  rw [not_or, not_or, not_not, not_not, not_not] at owned
  have still {ends : Option Int} (ongoing : ¬∃ limit, ends = some limit ∧ decide (limit ≤ moment) = true) :
      ∀ limit ∈ ends, moment < limit := by
    intro limit set
    by_contra past
    exact ongoing ⟨limit, set, decide_eq_true (Int.not_lt.mp past)⟩
  exact ⟨rfl, by rw [owned.1, owned.2.1, owned.2.2], by omega, still unrevoked, still unexpired, still unretired⟩

def utf8 (text : String) : Bytes := text.toUTF8.data.toList

def bigEndian32 (n : UInt32) : Bytes := [(n >>> 24).toUInt8, (n >>> 16).toUInt8, (n >>> 8).toUInt8, n.toUInt8]

def bigEndian64 (n : UInt64) : Bytes := bigEndian32 (n >>> 32).toUInt32 ++ bigEndian32 n.toUInt32

def pushField (field : Bytes) : Bytes := bigEndian32 (UInt32.ofNat field.length) ++ field

def envelopeDomain : Bytes := utf8 "mindleak.ackplane.v1.envelope" ++ [0]

def envelopeSigningBytes (wire : V1.EventEnvelope) : Bytes :=
  envelopeDomain ++
    [utf8 wire.schemaVersion, utf8 wire.tenantId, utf8 wire.repositoryId, utf8 wire.producerId,
      bigEndian64 wire.producerSequence, utf8 wire.occurredAt, utf8 wire.payloadType, wire.payloadDigest,
      wire.previousEnvelopeDigest, utf8 wire.signingKeyId].flatMap pushField

def connectionDomain : Bytes := utf8 "mindleak.ackplane.v1.node_sync.connection" ++ [0]

structure ConnectionChallengeBinding where
  nonce : Bytes
  identity : Identity
  signingKeyId : String

def connectionChallengeBytes (binding : ConnectionChallengeBinding) : Bytes :=
  connectionDomain ++
    [binding.nonce, utf8 binding.identity.tenantId, utf8 binding.identity.repositoryId,
      utf8 binding.identity.producerId, utf8 binding.signingKeyId].flatMap pushField

def verifyConnectionChallenge (platform : Platform) (publicKey signature : Bytes)
    (binding : ConnectionChallengeBinding) : Bool :=
  decide (publicKey.length = 32) && platform.ed25519 publicKey (connectionChallengeBytes binding) signature

inductive SignatureRefusal where
  | unsigned | unidentified | unknownKey | bindingMismatch | keyNotInForce | revoked | badSignature | unsubstantiated
  deriving DecidableEq

def SignatureRefusal.reason : SignatureRefusal → V1.RejectionReason
  | .bindingMismatch => .unauthorized
  | .revoked => .nodeRevoked
  | _ => .unauthenticated

def SignatureRefusal.diagnostic : SignatureRefusal → String
  | .unsigned => "the declared provenance class requires a signature and none was sent"
  | .unidentified => "the declared provenance class requires signing_key_id and none was sent"
  | .unknownKey => "signing_key_id names no key this authority holds"
  | .bindingMismatch => "that signing key is enrolled to a different tenant, repository or node"
  | .keyNotInForce =>
    "the signing key was not in force when this record arrived: it is expired, retired, or not yet activated"
  | .revoked =>
    "the signing key has been revoked; this connection is being terminated and no further records from it will be accepted"
  | .badSignature => "the signature does not verify under the enrolled key"
  | .unsubstantiated =>
    "this authority cannot substantiate the declared provenance class; declare enrolled_node and sign, or unverified_attribution"

def checkSignature (platform : Platform) (wire : V1.EventEnvelope) : KeyResolution → Except SignatureRefusal Unit
  | .resolved record =>
    if record.publicKey.length = 32 ∧ platform.ed25519 record.publicKey (envelopeSigningBytes wire) wire.signature = true
    then .ok ()
    else .error .badSignature
  | .unknown => .error .unknownKey
  | .bindingMismatch => .error .bindingMismatch
  | .revoked => .error .revoked
  | .notYetActive | .expired | .retired => .error .keyNotInForce

/-- Whether an envelope may be appended, given the key that its id resolved to. -/
def verify (platform : Platform) (wire : V1.EventEnvelope) (provenance : ProvenanceClass) (resolution : KeyResolution) :
    Except SignatureRefusal Unit :=
  match provenance with
  | .unverifiedAttribution => if wire.signature.isEmpty then .ok () else checkSignature platform wire resolution
  | .enrolledNode =>
    if wire.signingKeyId.isEmpty then .error .unidentified
    else if wire.signature.isEmpty then .error .unsigned
    else checkSignature platform wire resolution
  | .authenticatedPrincipal | .providerAttested => .error .unsubstantiated

theorem SignatureRefusal.reason_nodeRevoked {refusal : SignatureRefusal} :
    refusal.reason = .nodeRevoked ↔ refusal = .revoked := by
  cases refusal <;> simp [reason]

end MindLeak.Ackplane
