import MindLeak.Ackplane.Enrollment
import MindLeak.Library.Runs

/-! Key rotation, as one function of what it reads and as the statements of any number of
transactions. A transaction has the row of its own current key locked, and no other. -/

namespace MindLeak.Ackplane

def MAX_ROTATION_OVERLAP : Int := seconds (24 * 60 * 60)

structure KeyRotation where
  (tenantId repositoryId nodeId currentKeyId successorKeyId successorPublicKeyFingerprint : String)
  (successorPublicKey currentKeySignature successorKeySignature : Bytes)
  requestedOverlapSeconds : UInt64
  deriving DecidableEq

inductive KeyRotationRejection where
  | currentKeyNotActive | successorKeyConflict | continuityProofInvalid | nodeRevoked
  deriving DecidableEq

inductive KeyRotationOutcome where
  | applied
  | rejected (reason : KeyRotationRejection)
  deriving DecidableEq

structure KeyRotationResult where
  (nodeId currentKeyId successorKeyId : String)
  outcome : KeyRotationOutcome

namespace KeyRotation

def binding (rotation : KeyRotation) (now : Int) : EnvelopeBinding :=
  ⟨rotation.currentKeyId, rotation.tenantId, rotation.repositoryId, rotation.nodeId, now⟩

def statement (rotation : KeyRotation) : KeyRotationStatement where
  tenantId := rotation.tenantId
  repositoryId := rotation.repositoryId
  nodeId := rotation.nodeId
  currentKeyId := rotation.currentKeyId
  successorKeyId := rotation.successorKeyId
  successorPublicKeyFingerprint := rotation.successorPublicKeyFingerprint
  successorPublicKey := rotation.successorPublicKey
  requestedOverlapSeconds := rotation.requestedOverlapSeconds

def result (rotation : KeyRotation) (outcome : KeyRotationOutcome) : KeyRotationResult :=
  ⟨rotation.nodeId, rotation.currentKeyId, rotation.successorKeyId, outcome⟩

def retiredAt (rotation : KeyRotation) (now : Int) : Int :=
  now + min (seconds rotation.requestedOverlapSeconds.toNat) MAX_ROTATION_OVERLAP

def successor (rotation : KeyRotation) (now : Int) : SigningKeyRecord where
  signingKeyId := rotation.successorKeyId
  tenantId := rotation.tenantId
  repositoryId := rotation.repositoryId
  nodeId := rotation.nodeId
  publicKey := rotation.successorPublicKey
  publicKeyFingerprint := rotation.successorPublicKeyFingerprint
  activatedAt := now
  expiresAt := none

end KeyRotation

def verifyKeyRotationSignature (platform : Platform) (publicKey signature bytes : Bytes) : Bool :=
  decide (publicKey.length = 32) && platform.ed25519 publicKey bytes signature

/-- The checks between the current key and the writes; `taken` is what the successor's id
was found to be. -/
def checkRotation (platform : Platform) (rotation : KeyRotation) (now : Int) (current : SigningKeyLifecycle)
    (taken : Bool) : Except KeyRotationRejection Unit :=
  match judge current (rotation.binding now) with
  | .revoked => .error .nodeRevoked
  | .unknown | .bindingMismatch | .notYetActive | .expired | .retired => .error .currentKeyNotActive
  | .resolved record =>
    if publicKeyFingerprint platform rotation.successorPublicKey ≠ rotation.successorPublicKeyFingerprint then
      .error .continuityProofInvalid
    else if taken then .error .successorKeyConflict
    else if verifyKeyRotationSignature platform record.publicKey rotation.currentKeySignature
          (keyRotationBytes rotation.statement) = false ∨
        verifyKeyRotationSignature platform rotation.successorPublicKey rotation.successorKeySignature
          (keyRotationBytes rotation.statement) = false then .error .continuityProofInvalid
    else .ok ()

namespace SigningKeys

def keyExists (keys : SigningKeys) (signingKeyId : String) : Bool := (keys.find? signingKeyId).isSome

/-- The statements behind the checks; `none` where an index refuses the successor. -/
def succeed (keys : SigningKeys) (rotation : KeyRotation) (now : Int) : Option SigningKeys :=
  (keys.retire rotation.currentKeyId (rotation.retiredAt now)).register (rotation.successor now)

/-- The whole transaction; `seen` is what was committed when it asked for the successor's id. -/
def rotateKey (platform : Platform) (rotation : KeyRotation) (now : Int) (seen keys : SigningKeys) :
    Except SigningKeyError KeyRotationResult × SigningKeys :=
  match keys.find? rotation.currentKeyId with
  | none => (.ok (rotation.result (.rejected .currentKeyNotActive)), keys)
  | some row =>
    match checkRotation platform rotation now row.lifecycle (seen.keyExists rotation.successorKeyId) with
    | .error reason => (.ok (rotation.result (.rejected reason)), keys)
    | .ok () =>
      match keys.succeed rotation now with
      | some after => (.ok (rotation.result .applied), after)
      | none => (.error .database, keys)

end SigningKeys

inductive RotationEnd where
  | answered (outcome : KeyRotationOutcome)
  /-- The pool, a statement or the connection failed, and everything was rolled back. -/
  | failed
  /-- It was committed, but the answer was lost. -/
  | unanswered
  deriving DecidableEq

inductive RotationPhase where
  | idle
  | begun (rotation : KeyRotation) (now : Int)
  /-- The current key's row is read, and locked. -/
  | fetched (rotation : KeyRotation) (now : Int) (current : SigningKeyLifecycle)
  /-- Every check has passed. -/
  | checked (rotation : KeyRotation) (now : Int) (current : SigningKeyLifecycle)
  | finished (rotation : KeyRotation) (now : Int) (ending : RotationEnd)
  deriving DecidableEq

def RotationPhase.holding : RotationPhase → Option String
  | .fetched rotation _ _ | .checked rotation _ _ => some rotation.currentKeyId
  | _ => none

structure Rotations (τ : Type) where
  keys : SigningKeys
  locks : String → Option τ
  phase : τ → RotationPhase

inductive RotationOp (τ : Type) where
  | start (transaction : τ) (rotation : KeyRotation) (now : Int)
  /-- The transaction's next statement. -/
  | step (transaction : τ)
  | fail (transaction : τ)
  /-- The writes and their commit, and nobody hears of it. -/
  | commitUnheard (transaction : τ)

namespace Rotations
variable {τ : Type} [DecidableEq τ]

def moveTo (s : Rotations τ) (transaction : τ) (phase : RotationPhase) : Rotations τ :=
  { s with phase := Function.update s.phase transaction phase }

def finish (s : Rotations τ) (transaction : τ) (rotation : KeyRotation) (now : Int) (ending : RotationEnd) : Rotations τ :=
  { s.moveTo transaction (.finished rotation now ending) with
    locks := if (s.phase transaction).holding.isSome then Function.update s.locks rotation.currentKeyId none else s.locks }

/-- The writes of a transaction and its commit. An insert of a key that another transaction
has under way waits for that one's end; so nothing comes between a transaction's own insert
and its commit that could tell them apart. -/
def commit (s : Rotations τ) (transaction : τ) (rotation : KeyRotation) (now : Int) (ending : RotationEnd) : Rotations τ :=
  match s.keys.succeed rotation now with
  | some keys => { s with keys }.finish transaction rotation now ending
  | none => s.finish transaction rotation now .failed

def step (platform : Platform) (s : Rotations τ) (transaction : τ) : Rotations τ :=
  match s.phase transaction with
  | .idle | .finished _ _ _ => s
  | .begun rotation now =>
    match s.keys.find? rotation.currentKeyId with
    | none => s.finish transaction rotation now (.answered (.rejected .currentKeyNotActive))
    | some row =>
      match s.locks rotation.currentKeyId with
      -- Another rotation has the row: this one waits, and reads what it leaves.
      | some _ => s
      | none =>
        { s.moveTo transaction (.fetched rotation now row.lifecycle) with
          locks := Function.update s.locks rotation.currentKeyId (some transaction) }
  | .fetched rotation now current =>
    match checkRotation platform rotation now current (s.keys.keyExists rotation.successorKeyId) with
    | .error reason => s.finish transaction rotation now (.answered (.rejected reason))
    | .ok () => s.moveTo transaction (.checked rotation now current)
  | .checked rotation now _ => s.commit transaction rotation now (.answered .applied)

def apply (platform : Platform) (s : Rotations τ) : RotationOp τ → Rotations τ
  | .start transaction rotation now =>
    match s.phase transaction with
    | .idle => s.moveTo transaction (.begun rotation now)
    | _ => s
  | .step transaction => s.step platform transaction
  | .fail transaction =>
    match s.phase transaction with
    | .begun rotation now | .fetched rotation now _ | .checked rotation now _ => s.finish transaction rotation now .failed
    | .idle | .finished _ _ _ => s
  | .commitUnheard transaction =>
    match s.phase transaction with
    | .checked rotation now _ => s.commit transaction rotation now .unanswered
    | _ => s

end Rotations

def rotations (τ : Type) [DecidableEq τ] (platform : Platform) (keys : SigningKeys) :
    Machine (Rotations τ) (RotationOp τ) where
  start := ⟨keys, fun _ => none, fun _ => .idle⟩
  enabled _ _ := True
  apply := Rotations.apply platform

/-! The enrollment authority under everything that can be asked of it, in any order. Every
operation is one transaction with its request's row locked, or, for a rotation, its current
key's; one that fails leaves nothing. -/

structure Authority where
  store : EnrollmentStore
  /-- What the holders of keys have signed, under which key. -/
  signed : List (Bytes × Bytes)
  nonces : List Bytes

inductive AuthorityOp where
  | submit (submission : EnrollmentSubmission)
  | approve (approval : EnrollmentApproval) (now : Int)
  | issueChallenge (request : ActivationChallengeRequest) (nonce : Bytes) (now : Int)
  | activate (activation : EnrollmentActivation) (enrollmentReceiptId signingKeyId : String) (now : Int)
  /-- `seen` is the registry that the rotation asked for its successor's id. -/
  | rotateKey (rotation : KeyRotation) (now : Int) (seen : SigningKeys)
  | sign (publicKey message : Bytes)

def EnrollmentActivation.message (activation : EnrollmentActivation) : Bytes :=
  activationChallengeBytes activation.nonce activation.request.requestId activation.request.tenantId
    activation.request.repositoryId activation.request.proposedNodeId activation.request.publicKeyFingerprint

namespace Authority

def apply (platform : EnrollmentPlatform) (s : Authority) : AuthorityOp → Authority
  | .submit submission => { s with store := (s.store.submit platform submission).2 }
  | .approve approval now => { s with store := (s.store.approve approval now).2 }
  | .issueChallenge request nonce now =>
    { s with
      store := (s.store.issueChallenge request nonce now).2
      nonces := nonce :: s.nonces }
  | .activate activation enrollmentReceiptId signingKeyId now =>
    { s with store := (s.store.activate platform activation enrollmentReceiptId signingKeyId now).2 }
  | .rotateKey rotation now seen =>
    { s with store := { s.store with keys := (seen.rotateKey platform.toPlatform rotation now s.store.keys).2 } }
  | .sign publicKey message => { s with signed := (publicKey, message) :: s.signed }

def Fresh (s : Authority) (nonce : Bytes) : Prop :=
  nonce ∉ s.nonces ∧ ∀ publicKey requestId tenantId repositoryId nodeId fingerprint,
    (publicKey, activationChallengeBytes nonce requestId tenantId repositoryId nodeId fingerprint) ∉ s.signed

end Authority

/-- Nonces are drawn at random, and a signature that verifies was made by who holds the key. -/
def authority (platform : EnrollmentPlatform) : Machine Authority AuthorityOp where
  start := ⟨.empty, [], []⟩
  enabled visited op :=
    match op with
    | .issueChallenge _ nonce _ => ∀ s ∈ visited, s.Fresh nonce
    | .activate activation _ _ _ => ∀ publicKey,
      verifyActivationProof platform.toPlatform publicKey activation.signature activation.nonce activation.request = true →
        ∃ s ∈ visited, (publicKey, activation.message) ∈ s.signed
    | .rotateKey _ _ seen => ∃ s ∈ visited, seen = s.store.keys
    | .submit _ | .approve _ _ | .sign _ _ => True
  apply := Authority.apply platform

end MindLeak.Ackplane
