import Mathlib.Tactic.Common
import MindLeak.Library.Table

/-! What nodes and the authority say to each other, and what the ledger keeps. -/

namespace MindLeak.Ackplane

abbrev Bytes := List UInt8

/-- What the authority computes with code outside the repository. -/
structure Platform where
  sha256 : Bytes → Bytes
  /-- Ed25519 over a key, a message and a signature; false where either does not decode. -/
  ed25519 : Bytes → Bytes → Bytes → Bool
  /-- The quoted form of a text in a diagnostic. -/
  debug : String → String

namespace V1

structure EventEnvelope where
  (tenantId repositoryId producerId : String)
  producerSequence : UInt64
  (payload payloadDigest : Bytes)
  (schemaVersion occurredAt payloadType : String)
  previousEnvelopeDigest : Bytes
  signingKeyId : String
  signature : Bytes
  /-- An open enumeration: a newer sender may send any number. -/
  provenance : Int
  deriving DecidableEq

structure Hello where
  (tenantId repositoryId producerId : String)
  lastAcceptedPosition : UInt64
  capabilities : List String
  signingKeyId : String
  deriving DecidableEq

structure ChallengeResponse where
  signature : Bytes
  deriving DecidableEq

/-- A frame of a node. The messages of the other services are theirs to read. -/
inductive Frame where
  | hello (hello : Hello)
  | eventBatch (events : List EventEnvelope)
  | heartbeat (lastAcceptedPosition : UInt64)
  | challengeResponse (response : ChallengeResponse)
  | directiveReceipt (message : Bytes)
  | supervisorRegistration (message : Bytes)
  | supervisorHeartbeat (message : Bytes)
  | supervisorSession (message : Bytes)
  | supervisorLifecycleReceipt (message : Bytes)
  | workTaskCreate (message : Bytes)
  | contextPacketRequest (message : Bytes)
  | contextPacketUseReport (message : Bytes)
  deriving DecidableEq

/-- A frame may come without a payload: the field is optional on the wire, and a
payload this build does not know decodes as none. -/
structure NodeFrame where
  frame : Option Frame
  deriving DecidableEq

structure FlowControl where
  (maxInFlightBatches maxBatchBytes : UInt32)
  deriving DecidableEq

inductive RejectionReason where
  | malformed | unauthenticated | unauthorized | sequenceConflict | unsupportedVersion | unavailable | nodeRevoked
  deriving DecidableEq

structure Rejection where
  recordId : String
  reason : RejectionReason
  retryable : Bool
  diagnostic : String
  deriving DecidableEq

inductive ReceiptDisposition where
  | accepted | duplicate
  deriving DecidableEq

structure RecordReceipt where
  recordId : String
  position : Nat
  disposition : ReceiptDisposition
  deriving DecidableEq

inductive AckplaneFrame where
  | helloAccepted (acceptedPosition : UInt64) (enabledCapabilities : List String)
  | batchReceipt (receipts : List RecordReceipt)
  | rejection (rejection : Rejection)
  | flowControl (flowControl : FlowControl)
  | connectionChallenge (nonce : Bytes)
  | served (message : Bytes)
  deriving DecidableEq

end V1

inductive ProvenanceClass where
  | unverifiedAttribution | enrolledNode | authenticatedPrincipal | providerAttested
  deriving DecidableEq

/-- Who a connection, a key or a record belongs to. -/
structure Identity where
  (tenantId repositoryId producerId : String)
  deriving DecidableEq

structure DedupKey where
  (tenantId repositoryId producerId : String)
  producerSequence : Int
  deriving DecidableEq

def DedupKey.identity (key : DedupKey) : Identity := ⟨key.tenantId, key.repositoryId, key.producerId⟩

structure EventEnvelope where
  key : DedupKey
  (payload payloadDigest : Bytes)
  schemaVersion : String
  /-- In nanoseconds from the epoch. -/
  occurredAt : Int
  payloadType : String
  previousEnvelopeDigest : Option Bytes
  signingKeyId : Option String
  signature : Option Bytes
  provenance : ProvenanceClass
  deriving DecidableEq

inductive AppendOutcome where
  | accepted (position : Int)
  | duplicate (position : Int)
  deriving DecidableEq

inductive AppendError where
  | conflict (producerId : String) (sequence : Int)
  | database
  | poolExhausted

end MindLeak.Ackplane
