import MindLeak.Ackplane.Execution

/-! The authority's calls on tasks, Work commands and directives, each one transaction, in any order
of their statements. -/

namespace MindLeak.Ackplane

structure VerifiedWorkCommandPrincipal where
  (principalId tenantId : String)
  repositoryIds : List String
  allowedCommands : List WorkCommandKind
  policyRefs : List String
  delegationId : Option String

inductive WorkCommandRefusal where
  | missingPrincipal | forgedPrincipal | tenantOutOfScope | repositoryOutOfScope | commandNotPermitted
  | policyNotPermitted | delegationNotPermitted
  deriving DecidableEq

namespace VerifiedWorkCommandPrincipal

def refusalFor (principal : VerifiedWorkCommandPrincipal) (request : NewWorkCommand) : Option WorkCommandRefusal :=
  if principal.principalId ≠ request.issuingPrincipalId then some .forgedPrincipal
  else if principal.tenantId ≠ request.tenantId then some .tenantOutOfScope
  else if request.repositoryId ∉ principal.repositoryIds then some .repositoryOutOfScope
  else if request.kind ∉ principal.allowedCommands then some .commandNotPermitted
  else if principal.policyRefs ≠ request.policyRefs then some .policyNotPermitted
  else if principal.delegationId ≠ request.delegationId then some .delegationNotPermitted
  else none

def Issued (principal : VerifiedWorkCommandPrincipal) (command : WorkCommandRow) : Prop :=
  principal.principalId = command.issuingPrincipalId ∧ principal.tenantId = command.tenantId ∧
    command.repositoryId ∈ principal.repositoryIds

instance (principal : VerifiedWorkCommandPrincipal) (command : WorkCommandRow) : Decidable (principal.Issued command) :=
  inferInstanceAs (Decidable (_ ∧ _))

end VerifiedWorkCommandPrincipal

/-- A confirmation's answer. -/
inductive WorkCommandServiceOutcome where
  | refused (reason : WorkCommandRefusal)
  | executed (command : WorkCommandRow) (outcome : WorkCommandReceiptWriteOutcome)
  | commandNotFound
  deriving DecidableEq

inductive CommandCall where
  | createTask (creation : WorkCreation) (now : Int)
  | recordNodeTask (creation : WorkCreation) (now : Int)
  | submit (principal : VerifiedWorkCommandPrincipal) (request : NewWorkCommand) (now : Int)
  /-- The second transaction of a submission. -/
  | recordPending (request : NewWorkCommand) (command : WorkCommandRow) (now : Int)
  | confirm (principal : VerifiedWorkCommandPrincipal) (command : CommandKey) (payload : WorkCommandPayload) (now : Int)
  | applyDirectiveReceipt (receipt : V1.DirectiveReceipt) (now : Int)
  | enqueue (directive : V1.AgentDirective) (now : Int)
  | recordDirectiveReceipt (receipt : V1.DirectiveReceipt)
  | claim (call : ClaimCall) (now : Int)
  /-- A question that is put to somebody, from outside. -/
  | ask (wait : WorkTaskWait)
  | recordSession (session : SupervisorSessionRow)

inductive CommandError where
  | work (error : WorkStoreError)
  | command (error : WorkCommandStoreError)
  | directive (error : DirectiveStoreError)
  | claim (error : ClaimStoreError)
  /-- The principal may not ask for what it asks for. -/
  | refused (reason : WorkCommandRefusal)
  deriving DecidableEq

inductive CommandAnswer where
  | created (task : WorkTask)
  | recorded (outcome : WorkTaskCreationOutcome)
  | submitted (outcome : WorkCommandWriteOutcome)
  | receipted (outcome : WorkCommandReceiptWriteOutcome)
  | confirmed (outcome : WorkCommandServiceOutcome)
  | applied (outcome : Option WorkCommandReceiptWriteOutcome)
  | enqueued (outcome : DirectiveWriteOutcome)
  | directiveReceipted (outcome : DirectiveReceiptOutcome)
  | claimed (answer : ClaimAnswer)
  | done
  deriving DecidableEq

namespace CommandCall
open CommandStore

def confirmCommand (platform : DirectivePlatform) (principal : VerifiedWorkCommandPrincipal) (payload : WorkCommandPayload)
    (now : Int) (command : WorkCommandRow) : CommandTransaction WorkCommandStoreError WorkCommandServiceOutcome :=
  if ¬principal.Issued command then .pure (.refused .forgedPrincipal)
  else do
    let outcome ← WorkCommands.executeConfirmed platform command payload now
    .pure (.executed command outcome)

def confirmation (platform : DirectivePlatform) (principal : VerifiedWorkCommandPrincipal) (key : CommandKey)
    (payload : WorkCommandPayload) (now : Int) : CommandTransaction WorkCommandStoreError WorkCommandServiceOutcome := do
  match ← select (.command key) with
  | none => .pure .commandNotFound
  | some command => confirmCommand platform principal payload now command

def onClaim (call : ClaimCall) (now : Int) : CommandTransaction ClaimStoreError ClaimAnswer :=
  match call.validate with
  | .error error => .fail error
  | .ok () => do
    match ← selectLocked (.claim call.key) with
    | none => do
      execute (·.withClaims fun claims => ((call.missing now).1.map claims.put).getD claims)
      .pure (call.missing now).2
    | some row =>
      match call.found now row with
      | .error error => .fail error
      | .ok (after, answer) => do
        execute (·.withClaims (·.put after))
        .pure answer

def insertOnce (view : View) (taken : view.Value → Bool) (update : CommandStore → CommandStore) :
    CommandTransaction CommandError CommandAnswer := do
  let found ← selectIf view fun found => !taken found
  if taken found then .pure .done
  else do
    execute update
    .pure .done

def program (platform : DirectivePlatform) : CommandCall → CommandTransaction CommandError CommandAnswer
  | .createTask creation now => do
    let task ← (Ackplane.createTask platform.toPlatform creation now).mapError .work
    .pure (.created task)
  | .recordNodeTask creation now => do
    let outcome ← (Ackplane.recordNodeTask platform.toPlatform creation now).mapError .work
    .pure (.recorded outcome)
  | .submit principal request now =>
    match principal.refusalFor request with
    | some reason => .fail (.refused reason)
    | none => do
      let outcome ← (WorkCommands.recordRequest platform.toPlatform request now).mapError .command
      .pure (.submitted outcome)
  | .recordPending request command now => do
    let outcome ← (WorkCommands.appendReceiptInTransaction platform.toPlatform (request.pendingReceipt command) now).mapError
      .command
    .pure (.receipted outcome)
  | .confirm principal command payload now => do
    let outcome ← (confirmation platform principal command payload now).mapError .command
    .pure (.confirmed outcome)
  | .applyDirectiveReceipt receipt now => do
    let outcome ← (WorkCommands.applyDirectiveReceipt platform.toPlatform now receipt).mapError .command
    .pure (.applied outcome)
  | .enqueue directive now => do
    let outcome ← (DirectiveStore.enqueue platform directive now).mapError .directive
    .pure (.enqueued outcome)
  | .recordDirectiveReceipt receipt => do
    let outcome ← (DirectiveStore.recordReceipt platform receipt).mapError .directive
    .pure (.directiveReceipted outcome)
  | .claim call now => do
    let answer ← (onClaim call now).mapError .claim
    .pure (.claimed answer)
  | .ask wait => insertOnce (.wait wait.key) Option.isSome (·.insertWait wait)
  | .recordSession session => insertOnce (.session session.key) Option.isSome (·.insertSession session)

end CommandCall

abbrev WorkControl (τ : Type) : Type :=
  Interleaving τ CommandStore CommandStore.View CommandStore.Lock CommandStore.View.Value CommandError CommandAnswer CommandCall

abbrev WorkStep (τ : Type) : Type := Entry (WorkControl τ) (TransactionOp τ CommandCall)

def workControl (platform : DirectivePlatform) (τ : Type) [DecidableEq τ] (store : CommandStore) :
    Machine (Interleaving τ CommandStore CommandStore.View CommandStore.Lock CommandStore.View.Value CommandError
      CommandAnswer CommandCall) (TransactionOp τ CommandCall) :=
  interleaved τ CommandStore.look CommandStore.guards (CommandCall.program platform) store

end MindLeak.Ackplane
