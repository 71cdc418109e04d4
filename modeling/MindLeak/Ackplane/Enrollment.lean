import MindLeak.Ackplane.SigningBytes

/-! Enrollment requests and the authority's transitions of them. Every operation is one
transaction that has its request's row locked from its first read on. -/

namespace MindLeak.Ackplane

structure EnrollmentPlatform extends Platform where
  /-- A timestamp as the time library reads it. -/
  parseRfc3339 : String → Option Int

def hexDigit (n : UInt8) : Char := Char.ofNat (if n < 10 then 48 + n.toNat else 87 + n.toNat)

def publicKeyFingerprint (platform : Platform) (publicKey : Bytes) : String :=
  "ed25519:" ++ String.ofList ((platform.sha256 publicKey).flatMap fun byte => [hexDigit (byte / 16), hexDigit (byte % 16)])

/-- In nanoseconds. -/
def seconds (n : Nat) : Int := n * 1000000000

def ACTIVATION_CHALLENGE_LIFETIME : Int := seconds 300

inductive EnrollmentState where
  | pending | approved | activating | active | expired | rejected | revoked
  deriving DecidableEq

/-- What a request's rows are found by, in every table. -/
structure RequestKey where
  (tenantId repositoryId requestId : String)
  deriving DecidableEq

structure EnrollmentSubmission where
  (requestId tenantId repositoryId proposedNodeId displayName : String)
  publicKey : Bytes
  publicKeyFingerprint : String
  requestedCapabilities : List String
  (createdAt expiresAt : String)

def EnrollmentSubmission.key (submission : EnrollmentSubmission) : RequestKey :=
  ⟨submission.tenantId, submission.repositoryId, submission.requestId⟩

structure EnrollmentStatus where
  requestId : String
  state : EnrollmentState

structure EnrollmentApproval where
  (requestId tenantId repositoryId publicKeyFingerprint : String)
  approvedCapabilities : List String
  approvedBy : String

def EnrollmentApproval.key (approval : EnrollmentApproval) : RequestKey :=
  ⟨approval.tenantId, approval.repositoryId, approval.requestId⟩

structure ActivationChallengeRequest where
  (requestId tenantId repositoryId proposedNodeId publicKeyFingerprint : String)

def ActivationChallengeRequest.key (request : ActivationChallengeRequest) : RequestKey :=
  ⟨request.tenantId, request.repositoryId, request.requestId⟩

structure IssuedActivationChallenge where
  request : ActivationChallengeRequest
  nonce : Bytes
  (issuedAt expiresAt : Int)
  state : EnrollmentState

structure EnrollmentActivation where
  request : ActivationChallengeRequest
  (nonce signature : Bytes)

structure EnrollmentActivationResult where
  requestId : String
  state : EnrollmentState
  (enrollmentReceiptId signingKeyId : String)
  deriving DecidableEq

inductive EnrollmentStoreError where
  | requestConflict (requestId : String)
  | publicKeyFingerprintMismatch (requestId : String)
  | notFound (requestId : String)
  | notPending (requestId : String)
  | fingerprintMismatch (requestId : String)
  | bindingMismatch (requestId : String)
  | notApproved (requestId : String)
  | requestExpired (requestId : String)
  | challengeExpired (requestId : String)
  | challengeConsumed (requestId : String)
  | invalidProof (requestId : String)
  | invalidTimestamp (requestId field value : String)
  | database
  deriving DecidableEq

structure EnrollmentRequest where
  key : RequestKey
  (proposedNodeId displayName : String)
  publicKey : Bytes
  publicKeyFingerprint : String
  requestedCapabilities : List String
  (createdAt expiresAt : Int)
  state : EnrollmentState
  approvedFingerprint : Option String
  approvedCapabilities : Option (List String)
  approvedAt : Option Int
  approvedBy : Option String
  deriving DecidableEq

instance : Row EnrollmentRequest RequestKey := ⟨EnrollmentRequest.key⟩

/-- A row of the audit history. -/
structure EnrollmentTransition where
  key : RequestKey
  (proposedNodeId publicKeyFingerprint : String)
  state : EnrollmentState
  (actor reason : String)

structure ActivationChallenge where
  key : RequestKey
  (proposedNodeId publicKeyFingerprint : String)
  nonce : Bytes
  (issuedAt expiresAt : Int)
  consumedAt : Option Int

instance : Row ActivationChallenge RequestKey := ⟨ActivationChallenge.key⟩

structure EnrollmentReceipt where
  enrollmentReceiptId : String
  key : RequestKey
  (proposedNodeId publicKeyFingerprint : String)
  activatedAt : Int

instance : Row EnrollmentReceipt String := ⟨EnrollmentReceipt.enrollmentReceiptId⟩

structure EnrollmentStore where
  requests : Table EnrollmentRequest
  transitions : List EnrollmentTransition
  challenges : Table ActivationChallenge
  receipts : Table EnrollmentReceipt
  keys : SigningKeys

def validateBinding (request : ActivationChallengeRequest) (row : EnrollmentRequest) : Bool :=
  decide (request.proposedNodeId = row.proposedNodeId) && decide (request.publicKeyFingerprint = row.publicKeyFingerprint)

def verifyActivationProof (platform : Platform) (publicKey signature nonce : Bytes)
    (request : ActivationChallengeRequest) : Bool :=
  decide (publicKey.length = 32) &&
    platform.ed25519 publicKey
      (activationChallengeBytes nonce request.requestId request.tenantId request.repositoryId request.proposedNodeId
        request.publicKeyFingerprint) signature

namespace EnrollmentStore

def empty : EnrollmentStore := ⟨.empty, [], .empty, .empty, .empty⟩

def transition (s : EnrollmentStore) (row : EnrollmentRequest) (actor reason : String) : EnrollmentStore :=
  { s with
    requests := s.requests.put row
    transitions := s.transitions ++
      [⟨row.key, row.proposedNodeId, row.publicKeyFingerprint, row.state, actor, reason⟩] }

def expireEnrollment (s : EnrollmentStore) (row : EnrollmentRequest) : EnrollmentStore :=
  s.transition { row with state := .expired } "ackplane-enrollment-authority" "enrollment request expired"

def submit (platform : EnrollmentPlatform) (submission : EnrollmentSubmission) (s : EnrollmentStore) :
    Except EnrollmentStoreError EnrollmentStatus × EnrollmentStore :=
  let requestId := submission.requestId
  if publicKeyFingerprint platform.toPlatform submission.publicKey ≠ submission.publicKeyFingerprint then
    (.error (.publicKeyFingerprintMismatch requestId), s)
  else match s.requests.find? submission.key with
    | some row =>
      if row.proposedNodeId = submission.proposedNodeId ∧ row.displayName = submission.displayName ∧
          row.publicKey = submission.publicKey ∧ row.publicKeyFingerprint = submission.publicKeyFingerprint ∧
          row.requestedCapabilities = submission.requestedCapabilities then (.ok ⟨requestId, row.state⟩, s)
      else (.error (.requestConflict requestId), s)
    | none =>
      match platform.parseRfc3339 submission.createdAt, platform.parseRfc3339 submission.expiresAt with
      | none, _ => (.error (.invalidTimestamp requestId "created_at" submission.createdAt), s)
      | some _, none => (.error (.invalidTimestamp requestId "expires_at" submission.expiresAt), s)
      | some createdAt, some expiresAt =>
        (.ok ⟨requestId, .pending⟩, s.transition
          { key := submission.key
            proposedNodeId := submission.proposedNodeId
            displayName := submission.displayName
            publicKey := submission.publicKey
            publicKeyFingerprint := submission.publicKeyFingerprint
            requestedCapabilities := submission.requestedCapabilities
            createdAt, expiresAt
            state := .pending
            approvedFingerprint := none
            approvedCapabilities := none
            approvedAt := none
            approvedBy := none }
          "unauthenticated-node-request" "enrollment requested")

def approve (approval : EnrollmentApproval) (now : Int) (s : EnrollmentStore) :
    Except EnrollmentStoreError EnrollmentStatus × EnrollmentStore :=
  let requestId := approval.requestId
  match s.requests.find? approval.key with
  | none => (.error (.notFound requestId), s)
  | some row =>
    if row.expiresAt < now then (.error (.requestExpired requestId), s.expireEnrollment row)
    else if row.state ≠ .pending then (.error (.notPending requestId), s)
    else if row.publicKeyFingerprint ≠ approval.publicKeyFingerprint then (.error (.fingerprintMismatch requestId), s)
    else
      (.ok ⟨requestId, .approved⟩, s.transition
        { row with
          state := .approved
          approvedFingerprint := some approval.publicKeyFingerprint
          approvedCapabilities := some approval.approvedCapabilities
          approvedAt := some now
          approvedBy := some approval.approvedBy }
        approval.approvedBy "fingerprint approved")

def recordChallenge (request : ActivationChallengeRequest) (nonce : Bytes) (now : Int) (s : EnrollmentStore) :
    Except EnrollmentStoreError IssuedActivationChallenge × EnrollmentStore :=
  let expiresAt := now + ACTIVATION_CHALLENGE_LIFETIME
  if s.challenges.rows.any fun other => decide (other.key ≠ request.key) && decide (other.nonce = nonce) then
    (.error .database, s)
  else
    (.ok ⟨request, nonce, now, expiresAt, .approved⟩,
      { s with
        challenges := s.challenges.put
          ⟨request.key, request.proposedNodeId, request.publicKeyFingerprint, nonce, now, expiresAt, none⟩ })

def issueChallenge (request : ActivationChallengeRequest) (nonce : Bytes) (now : Int) (s : EnrollmentStore) :
    Except EnrollmentStoreError IssuedActivationChallenge × EnrollmentStore :=
  let requestId := request.requestId
  match s.requests.find? request.key with
  | none => (.error (.notFound requestId), s)
  | some row =>
    if !validateBinding request row then (.error (.bindingMismatch requestId), s)
    else if row.expiresAt < now then (.error (.requestExpired requestId), s.expireEnrollment row)
    else if row.state ≠ .approved then (.error (.notApproved requestId), s)
    else match s.challenges.find? request.key with
      | some challenge =>
        if now < challenge.expiresAt then
          (.ok ⟨request, challenge.nonce, challenge.issuedAt, challenge.expiresAt, .approved⟩, s)
        else s.recordChallenge request nonce now
      | none => s.recordChallenge request nonce now

/-- The receipt of a request and the key that was registered with it; more or fewer than
one such pair is an error of the query. -/
def original (s : EnrollmentStore) (key : RequestKey) (publicKey : Bytes) : Option (String × String) :=
  let pairs := s.receipts.rows.flatMap fun receipt =>
    (s.keys.rows.filter fun row =>
      let held := row.lifecycle.record
      decide (receipt.key = key) && decide (held.tenantId = receipt.key.tenantId) &&
        decide (held.repositoryId = receipt.key.repositoryId) && decide (held.nodeId = receipt.proposedNodeId) &&
        decide (held.publicKeyFingerprint = receipt.publicKeyFingerprint) &&
        decide (held.activatedAt = receipt.activatedAt) && decide (held.publicKey = publicKey)).map
      fun row => (receipt.enrollmentReceiptId, row.lifecycle.record.signingKeyId)
  match pairs with
  | [pair] => some pair
  | _ => none

def insertReceipt (s : EnrollmentStore) (receipt : EnrollmentReceipt) : Option EnrollmentStore :=
  if s.receipts.rows.any fun other => decide (other.key = receipt.key) then none
  else (s.receipts.insert? receipt).map fun receipts => { s with receipts }

def enroll (s : EnrollmentStore) (row : EnrollmentRequest) (challenge : ActivationChallenge)
    (enrollmentReceiptId signingKeyId : String) (now : Int) : Option EnrollmentStore := do
  let s := { s with challenges := s.challenges.put { challenge with consumedAt := some now } }
  let s := s.transition { row with state := .activating } "node-proof-of-possession" "activation proof verified"
  let s ← s.insertReceipt ⟨enrollmentReceiptId, row.key, row.proposedNodeId, row.publicKeyFingerprint, now⟩
  let keys ← s.keys.register
    { signingKeyId
      tenantId := row.key.tenantId
      repositoryId := row.key.repositoryId
      nodeId := row.proposedNodeId
      publicKey := row.publicKey
      publicKeyFingerprint := row.publicKeyFingerprint
      activatedAt := now
      expiresAt := none }
  return { s with keys }

def activate (platform : EnrollmentPlatform) (activation : EnrollmentActivation)
    (enrollmentReceiptId signingKeyId : String) (now : Int) (s : EnrollmentStore) :
    Except EnrollmentStoreError EnrollmentActivationResult × EnrollmentStore :=
  let request := activation.request
  let requestId := request.requestId
  match s.requests.find? request.key with
  | none => (.error (.notFound requestId), s)
  | some row =>
    if !validateBinding request row then (.error (.bindingMismatch requestId), s)
    else if row.expiresAt < now then (.error (.requestExpired requestId), s.expireEnrollment row)
    else match s.challenges.find? request.key with
      | none => (.error (.challengeExpired requestId), s)
      | some challenge =>
        if challenge.nonce ≠ activation.nonce ∨
            verifyActivationProof platform.toPlatform row.publicKey activation.signature activation.nonce request = false then
          (.error (.invalidProof requestId), s)
        else if row.state = .activating ∧ challenge.consumedAt.isSome then
          match s.original request.key row.publicKey with
          | some (receiptId, keyId) => (.ok ⟨requestId, row.state, receiptId, keyId⟩, s)
          | none => (.error .database, s)
        else if row.state ≠ .approved then (.error (.notApproved requestId), s)
        else if challenge.consumedAt.isSome then (.error (.challengeConsumed requestId), s)
        else if challenge.expiresAt < now then (.error (.challengeExpired requestId), s)
        else match s.enroll row challenge enrollmentReceiptId signingKeyId now with
          | some after => (.ok ⟨requestId, .activating, enrollmentReceiptId, signingKeyId⟩, after)
          | none => (.error .database, s)

end EnrollmentStore

end MindLeak.Ackplane
