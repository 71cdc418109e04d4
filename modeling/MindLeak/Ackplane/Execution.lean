import MindLeak.Ackplane.CommandStore

/-! What a confirmed Work command does, and what its supervisor's receipt does: tasks, waits,
claims and directives change with the command's receipt in one transaction. -/

namespace MindLeak.Ackplane

section
open CommandStore

def SpansBytes (bound : Nat) (value : String) : Prop := 0 < value.utf8ByteSize ∧ value.utf8ByteSize ≤ bound

instance (bound : Nat) (value : String) : Decidable (SpansBytes bound value) := inferInstanceAs (Decidable (_ ∧ _))

def WorkTaskRow.Fits (row : WorkTaskRow) : Prop :=
  SpansBytes 512 row.title ∧ SpansBytes 16384 row.acceptance ∧ (∀ goalId ∈ row.goalId, SpansBytes 256 goalId) ∧
    SpansBytes 256 row.publishedBy

instance (row : WorkTaskRow) : Decidable row.Fits := inferInstanceAs (Decidable (_ ∧ _))

variable {ε : Type}

def allocateStreamPosition (stream : Stream) : CommandTransaction ε Int := do
  let position ← selectLocked (.workHead stream)
  execute (·.advance stream (position + 1))
  .pure (position + 1)

def insertEvent (database : ε) (event : WorkEvent) (position : Int) : CommandTransaction ε Unit := do
  let free ← selectIf (.eventSlot event.key.stream event.eventId position) id
  if free then execute (·.insertEvent event position) else .fail database

def existingCreation (platform : Platform) (creation : WorkCreation) :
    CommandTransaction WorkStoreError (Option WorkTaskCreationOutcome) := do
  match ← select (.event creation.key.stream creation.eventId) with
  | none => .pure none
  | some event =>
    match event.replay (workDigestsOf platform) creation with
    | .error error => .fail error
    | .ok () =>
      match ← select (.task creation.key) with
      | none => .fail creation.conflict
      | some row =>
        match row.replay (workDigestsOf platform) creation with
        | .error error => .fail error
        | .ok outcome => .pure (some outcome)

def insertCreation (platform : Platform) (creation : WorkCreation) (position now : Int) :
    CommandTransaction WorkStoreError Unit := do
  execute (·.insertTask { creation.row (workDigestsOf platform) now with sourceEventPosition := some position })
  insertEvent .database (creation.event (workDigestsOf platform) now) position

def createTask (platform : Platform) (creation : WorkCreation) (now : Int) : CommandTransaction WorkStoreError WorkTask := do
  let position ← allocateStreamPosition creation.key.stream
  if ¬(creation.row (workDigestsOf platform) now).Fits then .fail .database
  else
    match ← selectIf (.task creation.key) Option.isNone with
    | some _ => .fail creation.conflict
    | none => do
      insertCreation platform creation position now
      .pure (creation.created position now)

def createNodeTask (platform : Platform) (creation : WorkCreation) (now : Int) :
    CommandTransaction WorkStoreError WorkTaskCreationOutcome := do
  let position ← allocateStreamPosition creation.key.stream
  if ¬(creation.row (workDigestsOf platform) now).Fits then .fail .database
  else
    match ← selectIf (.task creation.key) Option.isNone with
    | some _ =>
      match ← existingCreation platform creation with
      | some outcome => .pure outcome
      | none => .fail creation.conflict
    | none => do
      insertCreation platform creation position now
      .pure ⟨creation.created position now, false⟩

def recordNodeTask (platform : Platform) (creation : WorkCreation) (now : Int) :
    CommandTransaction WorkStoreError WorkTaskCreationOutcome := do
  match ← existingCreation platform creation with
  | some outcome => .pure outcome
  | none => createNodeTask platform creation now

end

namespace WorkCommands
open CommandStore

def appendTaskEvent (event : WorkEvent) : CommandTransaction WorkCommandStoreError Unit := do
  let position ← allocateStreamPosition event.key.stream
  insertEvent .database event position
  execute (·.updateTask event.key fun row => { row with sourceEventPosition := some position })

def lockTask (key : TaskKey) : CommandTransaction WorkCommandStoreError (Option LockedTask) := do
  let row ← selectIf (.task key) Option.isSome
  .pure (row.map fun row => ⟨row.state, row.version⟩)

def changeTask (event : WorkEvent) (set : WorkTaskRow → WorkTaskRow)
    (keeps : ∀ row, (set row).key = row.key := by intro row; rfl) : CommandTransaction WorkCommandStoreError Unit := do
  execute (·.updateTask event.key set keeps)
  appendTaskEvent event

section
variable (platform : Platform) (command : WorkCommandRow) (now : Int)

def eventOf (taskId : String) (eventKind fromState toState : Int) : WorkEvent :=
  command.toWorkCommand.event (workDigestsOf platform) (command.taskKey taskId) eventKind fromState toState now

def createWork (payload : CreateWorkPayload) : CommandTransaction WorkCommandStoreError ExecutionOutcome := do
  let row := payload.row (workDigestsOf platform) command.toWorkCommand now
  if ¬row.Fits then .fail .database
  else
    match ← selectIf (.task row.key) Option.isNone with
    | some _ => .pure .taskAlreadyExists
    | none => do
      execute (·.insertTask row)
      appendTaskEvent (eventOf platform command now payload.taskId 1 1 1)
      .pure .applied

def onExpectedTask (next : String → LockedTask → CommandTransaction WorkCommandStoreError ExecutionOutcome) :
    CommandTransaction WorkCommandStoreError ExecutionOutcome :=
  match command.taskId, command.expectedTaskVersion with
  | some taskId, some expectedVersion => do
    match ← lockTask (command.taskKey taskId) with
    | none => .pure .taskNotFound
    | some current =>
      if current.version ≠ expectedVersion then .pure (.taskVersionConflict current.version) else next taskId current
  | _, _ => .pure .taskNotFound

def routeWork (payload : RouteWorkPayload) : CommandTransaction WorkCommandStoreError ExecutionOutcome :=
  onExpectedTask command fun taskId current =>
    if ¬SpansBytes 256 payload.routeReference then .fail .database
    else do
      changeTask (eventOf platform command now taskId 2 current.state current.state) fun row =>
        { row.bump now with routeReference := some payload.routeReference }
      .pure .applied

def answerFound (payload : AnswerWaitPayload) (taskId : String) (current : LockedTask) :
    Option WorkTaskWait → CommandTransaction WorkCommandStoreError ExecutionOutcome
  | none => .pure .waitNotFound
  | some wait =>
    if wait.taskId ≠ taskId then .pure .waitNotFound
    else if wait.answer.isSome then .pure .waitAlreadyAnswered
    else do
      execute (·.updateWait ⟨command.tenantId, command.repositoryId, payload.waitId⟩ fun row =>
        { row with answeredBy := some command.issuingPrincipalId, answer := some payload.answer, answeredAt := some now })
      changeTask (eventOf platform command now taskId 5 current.state current.state) fun row => row.bump now
      .pure .applied

def answerWait (payload : AnswerWaitPayload) : CommandTransaction WorkCommandStoreError ExecutionOutcome :=
  onExpectedTask command fun taskId current => do
    let wait ← selectIf (.wait ⟨command.tenantId, command.repositoryId, payload.waitId⟩) fun wait => wait.any (·.taskId = taskId)
    answerFound platform command now payload taskId current wait

def submitReview (_payload : SubmitReviewPayload) : CommandTransaction WorkCommandStoreError ExecutionOutcome :=
  onExpectedTask command fun taskId current => do
    changeTask (eventOf platform command now taskId 4 current.state 6) fun row => { row.bump now with state := 6 }
    .pure .applied

def releaseTask (taskId : String) : CommandTransaction WorkCommandStoreError ExecutionOutcome := do
  match ← lockTask (command.taskKey taskId) with
  | none => .fail (.unknownCommand command.tenantId command.repositoryId command.commandId)
  | some current => do
    let nextState := if current.state = 2 then 1 else current.state
    changeTask (eventOf platform command now taskId 3 current.state nextState) fun row => row.vacate nextState now
    .pure .applied

def releaseFound (payload : ReleaseLeasePayload) (taskId : String) :
    Option DelegatedClaim → CommandTransaction WorkCommandStoreError ExecutionOutcome
  | none => .pure .claimMissing
  | some claim =>
    if claim.ownerId ≠ payload.expectedOwnerId then .pure (.claimOwnerChanged claim.ownerId)
    else if claim.leaseExpiresAt ≠ payload.expectedLeaseExpiresAt then .pure (.claimLeaseChanged claim.leaseExpiresAt)
    else do
      execute (·.withClaims fun claims => claims.update (fun row => row.key = ⟨command.tenantId, command.repositoryId, taskId⟩)
        fun row => { row with leaseExpiresAt := now })
      releaseTask platform command now taskId

def releaseLease (payload : ReleaseLeasePayload) : CommandTransaction WorkCommandStoreError ExecutionOutcome :=
  match command.taskId with
  | none => .pure .claimMissing
  | some taskId => do
    let claim ← selectIf (.claim ⟨command.tenantId, command.repositoryId, taskId⟩) Option.isSome
    releaseFound platform command now payload taskId claim

end

section
variable (platform : DirectivePlatform) (command : WorkCommandRow) (now : Int)

def draftDirective (target : DirectiveTarget) (kind : V1.DirectiveKind) (payload : V1.DirectivePayload)
    (taskId expiresAt : String) : V1.AgentDirective where
  directiveId := command.directiveIdFor
  tenantId := command.tenantId
  projectId := WorkCommandRow.syntheticProjectId command.repositoryId
  repositoryId := command.repositoryId
  targetNodeId := target.targetNodeId
  targetAgentSessionId := target.targetSessionId
  kind := kind.asI32
  schemaVersion := command.schemaVersion
  issuingPrincipalId := command.issuingPrincipalId
  rationale := command.rationale
  taskId := taskId
  goalId := ""
  contextPacketId := ""
  createdAt := ""
  expiresAt := expiresAt
  sequence := 0
  idempotencyKey := command.idempotencyKey
  payloadDigest := []
  requiredCapability := ""
  policyRefs := command.policyRefs
  knowledgeRefs := []
  evidenceRefs := []
  payload := some payload

def persistDirectiveId (directiveId : String) : CommandTransaction WorkCommandStoreError Unit := do
  match ← selectIf (.issuerSlot command.key ⟨command.tenantId, command.repositoryId, directiveId⟩) Option.isNone with
  | some _ => .fail .database
  | none => execute (·.issue command.key directiveId)

def issued (written : Except DirectiveStoreError DirectiveWriteOutcome) :
    CommandTransaction WorkCommandStoreError ExecutionOutcome :=
  match written with
  | .ok outcome => do
    persistDirectiveId command outcome.record.directive.directiveId
    .pure (.directiveIssued outcome.record.directive.directiveId)
  | .error .capabilityMissing => .pure .supervisorCapabilityMissing
  | .error .unknownSupervisorSession => .pure .supervisorSessionUnknown
  | .error .targetNodeMismatch => .pure .supervisorTargetMismatch
  | .error .database => .fail .database
  | .error error => .fail (.directive error)

def rfc3339 (value : Int) : Except WorkCommandStoreError String :=
  match platform.formatRfc3339 value with
  | none => .error .invalidTimestamp
  | some text => .ok text

def boundDirective (target : DirectiveTarget) (kind : V1.DirectiveKind) (payload : V1.DirectivePayload) (taskId : String)
    (expiresAt : Int) : Except WorkCommandStoreError V1.AgentDirective := do
  let expiry ← rfc3339 platform expiresAt
  let draft := draftDirective command target kind payload taskId expiry
  match directiveRequirement draft with
  | none => .error .invalidDirectivePayload
  | some requirement =>
    let required := { draft with requiredCapability := requirement.requiredCapability }
    match directivePayloadDigest platform required with
    | none => .error .invalidDirectivePayload
    | some digest => .ok { required with payloadDigest := digest }

def issue (target : DirectiveTarget) (kind : V1.DirectiveKind) (payload : V1.DirectivePayload) (expiresAt : Int) :
    CommandTransaction WorkCommandStoreError ExecutionOutcome :=
  match command.taskId with
  | none => .pure .taskNotFound
  | some taskId =>
    match boundDirective platform command target kind payload taskId expiresAt with
    | .error error => .fail error
    | .ok directive => do
      let written ← (DirectiveStore.enqueueInTransaction platform directive now).result
      issued command written

def assign (payload : AssignPayload) : CommandTransaction WorkCommandStoreError ExecutionOutcome :=
  issue platform command now payload.target .assign .assign (now + DIRECTIVE_LIFETIME)

def steer (payload : SteerPayload) : CommandTransaction WorkCommandStoreError ExecutionOutcome :=
  issue platform command now payload.target .steer (.steer payload.instruction payload.checkpointRequired)
    (now + DIRECTIVE_LIFETIME)

def pause (payload : PausePayload) : CommandTransaction WorkCommandStoreError ExecutionOutcome :=
  issue platform command now payload.target .pause (.pause payload.checkpointRequired) (now + DIRECTIVE_LIFETIME)

def resume (payload : ResumePayload) : CommandTransaction WorkCommandStoreError ExecutionOutcome :=
  issue platform command now payload.target .resume .resume (now + DIRECTIVE_LIFETIME)

def drain (payload : DrainPayload) : CommandTransaction WorkCommandStoreError ExecutionOutcome :=
  match rfc3339 platform payload.deadline with
  | .error error => .fail error
  | .ok deadline =>
    issue platform command now payload.target .drain (.drain deadline) (max payload.deadline (now + DIRECTIVE_LIFETIME))

def applyEffect : WorkCommandPayload → CommandTransaction WorkCommandStoreError ExecutionOutcome
  | .createWork payload => createWork platform.toPlatform command now payload
  | .routeWork payload => routeWork platform.toPlatform command now payload
  | .releaseLease payload => releaseLease platform.toPlatform command now payload
  | .answerWait payload => answerWait platform.toPlatform command now payload
  | .submitReview payload => submitReview platform.toPlatform command now payload
  | .assign payload => assign platform command now payload
  | .steer payload => steer platform command now payload
  | .pause payload => pause platform command now payload
  | .resume payload => resume platform command now payload
  | .drain payload => drain platform command now payload

end

section

def replayReceiptOrConflict (receipt : WorkCommandReceipt) (digest : Bytes) :
    CommandTransaction WorkCommandStoreError WorkCommandReceiptWriteOutcome :=
  if receipt.receiptDigest ≠ digest then .fail .receiptConflict else .pure ⟨receipt, true⟩

def existingReceipt (receipt : NewWorkCommandReceipt) (digest : Bytes) :
    CommandTransaction WorkCommandStoreError (Option WorkCommandReceipt) := do
  match ← select (.receipt receipt.key) with
  | some existing => .pure (some existing)
  | none => select (.receiptOf receipt.commandKey digest)

def insertReceipt (receipt : NewWorkCommandReceipt) (digest : Bytes) (now : Int) :
    CommandTransaction WorkCommandStoreError WorkCommandReceiptWriteOutcome := do
  let free ← selectIf (.receiptSlot receipt.key receipt.commandKey digest) id
  if free then
    let row : WorkCommandReceipt := { receipt with receiptDigest := digest, recordedAt := now }
    execute (·.insertReceipt row)
    .pure ⟨row, false⟩
  else
    match ← existingReceipt receipt digest with
    | some existing => replayReceiptOrConflict existing digest
    | none => .fail .receiptConflict

/-- Behind its checks. -/
def appendDigested (receipt : NewWorkCommandReceipt) (digest : Bytes) (now : Int) :
    CommandTransaction WorkCommandStoreError WorkCommandReceiptWriteOutcome := do
  match ← select (.command receipt.commandKey) with
  | none => .fail (.unknownCommand receipt.tenantId receipt.repositoryId receipt.commandId)
  | some _ =>
    match ← existingReceipt receipt digest with
    | some existing => replayReceiptOrConflict existing digest
    | none => insertReceipt receipt digest now

def appendReceiptInTransaction (platform : Platform) (receipt : NewWorkCommandReceipt) (now : Int) :
    CommandTransaction WorkCommandStoreError WorkCommandReceiptWriteOutcome :=
  match (do
    receipt.validate now
    receipt.digest platform : Except WorkCommandStoreError Bytes) with
  | .error error => .fail error
  | .ok digest => appendDigested receipt digest now

end

section
variable (platform : Platform) (request : NewWorkCommand)

def replayOrConflict (command : WorkCommandRow) (requestDigest : Bytes) :
    CommandTransaction WorkCommandStoreError WorkCommandWriteOutcome :=
  if command.requestDigest ≠ requestDigest then .fail .idempotencyConflict else .pure ⟨command, true⟩

def NewWorkCommand.identity (request : NewWorkCommand) : CommandIdentity :=
  ⟨request.tenantId, request.repositoryId, request.issuingPrincipalId, request.idempotencyKey⟩

def existingCommand : CommandTransaction WorkCommandStoreError (Option WorkCommandRow) := do
  match ← select (.command ⟨request.tenantId, request.repositoryId, request.assignedCommandId platform⟩) with
  | some command => .pure (some command)
  | none => select (.commandOf (NewWorkCommand.identity request))

def requireTask : CommandTransaction WorkCommandStoreError Unit :=
  match request.taskId with
  | none => .pure ()
  | some taskId => do
    match ← select (.task ⟨request.tenantId, request.repositoryId, taskId⟩) with
    | none => .fail .database
    | some _ => .pure ()

def insertCommand (digest : Bytes) (now : Int) : CommandTransaction WorkCommandStoreError WorkCommandWriteOutcome := do
  let row := request.row platform digest now
  let free ← selectIf (.commandSlot row.key row.identity) id
  if free then
    requireTask request
    execute (·.insertCommand row)
    .pure ⟨row, false⟩
  else
    match ← existingCommand platform request with
    | some command => replayOrConflict command digest
    | none => .fail .idempotencyConflict

def recordRequest (now : Int) : CommandTransaction WorkCommandStoreError WorkCommandWriteOutcome :=
  match (do
    request.validate now
    request.digest platform : Except WorkCommandStoreError Bytes) with
  | .error error => .fail error
  | .ok digest => do
    match ← existingCommand platform request with
    | some command => replayOrConflict command digest
    | none => insertCommand platform request digest now

end

/-- What comes of a confirmation in time, and of one that is not. -/
def confirmedOutcome (platform : DirectivePlatform) (command : WorkCommandRow) (payload : WorkCommandPayload) (now : Int) :
    CommandTransaction WorkCommandStoreError ExecutionOutcome :=
  if command.expiresAt ≤ now then .pure .expired
  else if payload.kind ≠ command.kind then .pure .payloadMismatch
  else
    match payload.digest platform.toPlatform with
    | .error error => .fail error
    | .ok digest =>
      if digest = command.payloadDigest then applyEffect platform command now payload else .pure .payloadMismatch

def executeConfirmed (platform : DirectivePlatform) (command : WorkCommandRow) (payload : WorkCommandPayload) (now : Int) :
    CommandTransaction WorkCommandStoreError WorkCommandReceiptWriteOutcome := do
  match ← select (.receipt ⟨command.tenantId, command.repositoryId, command.confirmReceiptId⟩) with
  | some existing => .pure ⟨existing, true⟩
  | none => do
    let outcome ← confirmedOutcome platform command payload now
    appendReceiptInTransaction platform.toPlatform (command.confirmReceipt outcome now) now

section
variable (platform : Platform) (command : WorkCommandRow) (now : Int)

def applyTaskEffect : CommandTransaction WorkCommandStoreError Unit :=
  match command.taskId with
  | none => .pure ()
  | some taskId => do
    match ← lockTask (command.taskKey taskId) with
    | none => .pure ()
    | some current =>
      if current.state = 7 ∨ current.state = 8 then .pure ()
      else
        let nextState := match command.kind with
          | .pause => 4
          | .resume | .assign => 2
          | .drain => 1
          | _ => current.state
        changeTask (eventOf platform command now taskId command.kind.asI16 current.state nextState)
          (fun row => if command.kind = .drain then row.vacate nextState now else { row.bump now with state := nextState })
          (by intro row; split <;> rfl)

def noteAttempt : CommandTransaction WorkCommandStoreError Unit :=
  match command.taskId with
  | none => .pure ()
  | some taskId => do
    match ← lockTask (command.taskKey taskId) with
    | none => .pure ()
    | some current =>
      appendTaskEvent (eventOf platform command now taskId command.kind.asI16 current.state current.state)

def reflect (outcome : WorkCommandOutcome) : CommandTransaction WorkCommandStoreError Unit :=
  if outcome = .applied then applyTaskEffect platform command now else noteAttempt platform command now

def applyDirectiveReceipt (receipt : V1.DirectiveReceipt) :
    CommandTransaction WorkCommandStoreError (Option WorkCommandReceiptWriteOutcome) :=
  match receipt.terminalOutcome with
  | none => .pure none
  | some outcome => do
    match ← selectIf (.issuer receipt.directiveKey) Option.isSome with
    | none => .pure none
    | some command =>
      match ← selectLocked (.report command.key) with
      | some existing => .pure (some ⟨existing, true⟩)
      | none => do
        reflect platform command now outcome
        let written ← appendReceiptInTransaction platform (command.directiveReceipt receipt outcome now) now
        .pure (some written)

end

end WorkCommands

end MindLeak.Ackplane
