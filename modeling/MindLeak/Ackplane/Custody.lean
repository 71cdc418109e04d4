import MindLeak.Ackplane.Delegation
import MindLeak.Ackplane.Directive

/-! Delegated claims under both stores that write them: the claim store's calls and the
ReleaseLease command, each one transaction that has the claim's row locked. -/

namespace MindLeak.Ackplane

structure WorkCommand where
  (tenantId repositoryId commandId : String)
  taskId : Option String
  expectedTaskVersion : Option Int
  issuingPrincipalId : String
  deriving DecidableEq

def WorkCommand.claimKey (command : WorkCommand) : Option ClaimKey :=
  command.taskId.map fun taskId => ⟨command.tenantId, command.repositoryId, taskId⟩

structure ReleaseLeasePayload where
  expectedOwnerId : String
  expectedLeaseExpiresAt : Int

structure LockedTask where
  (state version : Int)

inductive ExecutionOutcome where
  | applied
  | expired | payloadMismatch
  | taskAlreadyExists | taskNotFound
  | taskVersionConflict (currentVersion : Int)
  | waitNotFound | waitAlreadyAnswered
  | claimMissing
  | claimOwnerChanged (currentOwnerId : String)
  | claimLeaseChanged (currentLeaseExpiresAt : Int)
  | directiveIssued (directiveId : String)
  | supervisorCapabilityMissing | supervisorSessionUnknown | supervisorTargetMismatch
  deriving DecidableEq

inductive WorkCommandStoreError where
  | database
  | poolExhausted
  | invalidIdentifier (field : String)
  | invalidOptionalIdentifier (field : String)
  | invalidPolicyReferences
  | invalidRationale
  | invalidReason
  | invalidPayloadDigest
  | invalidExpectedTaskVersion
  | invalidCreateWorkTarget
  | missingExistingTaskVersion
  | invalidExpiry
  | invalidReceiptTime
  | invalidTimestamp
  | unknownCommandKind (value : Int)
  | unknownOutcome (value : Int)
  | unknownCommand (tenantId repositoryId commandId : String)
  | idempotencyConflict
  | receiptConflict
  | invalidDirectivePayload
  | directive (error : DirectiveStoreError)
  deriving DecidableEq

/-- What a ReleaseLease command does to the claims; `task` is the row of its task, which it
locks behind them. -/
def DelegatedClaims.releaseLease (claims : DelegatedClaims) (command : WorkCommand) (payload : ReleaseLeasePayload)
    (task : Option LockedTask) (now : Int) : Except WorkCommandStoreError ExecutionOutcome × DelegatedClaims :=
  match command.claimKey.bind claims.find? with
  | none => (.ok .claimMissing, claims)
  | some claim =>
    if claim.ownerId ≠ payload.expectedOwnerId then (.ok (.claimOwnerChanged claim.ownerId), claims)
    else if claim.leaseExpiresAt ≠ payload.expectedLeaseExpiresAt then
      (.ok (.claimLeaseChanged claim.leaseExpiresAt), claims)
    else
      match task with
      -- The update of the claim is rolled back with the rest.
      | none => (.error (.unknownCommand command.tenantId command.repositoryId command.commandId), claims)
      | some _ => (.ok .applied, claims.put { claim with leaseExpiresAt := now })

inductive CustodyOp where
  | claim (call : ClaimCall) (now : Int)
  | releaseLease (command : WorkCommand) (payload : ReleaseLeasePayload) (task : Option LockedTask) (now : Int)

namespace CustodyOp

def key? : CustodyOp → Option ClaimKey
  | .claim call _ => some call.key
  | .releaseLease command _ _ _ => command.claimKey

def now : CustodyOp → Int
  | .claim _ now | .releaseLease _ _ _ now => now

end CustodyOp

def DelegatedClaims.apply (claims : DelegatedClaims) : CustodyOp → DelegatedClaims
  | .claim call now => (claims.call call now).2
  | .releaseLease command payload task now => (claims.releaseLease command payload task now).2

/-- Calls and commands on any tasks, one after another, from no claim on. -/
def custody : Machine DelegatedClaims CustodyOp where
  start := .empty
  enabled _ _ := True
  apply := DelegatedClaims.apply

end MindLeak.Ackplane
