import MindLeak.Ackplane.Custody
import MindLeak.Ackplane.Ledger
import MindLeak.Library.EventLog

/-! The Work stream of a repository: its tasks, the events behind them and the stream's head,
under creations and commands whose statements come in any order. -/

namespace MindLeak.Ackplane

structure TaskKey where
  (tenantId repositoryId taskId : String)
  deriving DecidableEq

def TaskKey.stream (key : TaskKey) : Stream := ⟨key.tenantId, key.repositoryId⟩

structure NewWorkTask where
  (tenantId repositoryId taskId title acceptance : String)
  goalId : Option String
  (declaredPaths declaredSymbols : List String)
  publishedBy : String
  deriving DecidableEq

def NewWorkTask.key (task : NewWorkTask) : TaskKey := ⟨task.tenantId, task.repositoryId, task.taskId⟩

structure CreateWorkPayload where
  (taskId title acceptance : String)
  goalId : Option String
  (declaredPaths declaredSymbols : List String)

inductive WorkIntegrityReason where
  | missingSourcePosition | missingHistory | eventPositionMismatch | stateMismatch
  deriving DecidableEq

inductive WorkStoreError where
  | database
  | unknownState (value : Int)
  | taskConflict (key : TaskKey)
  | inconsistentProjection (repositoryId taskId : String) (reason : WorkIntegrityReason)
  deriving DecidableEq

inductive WorkTaskState where
  | «open» | claimed | waiting | paused | blocked | inReview | completed | abandoned
  deriving DecidableEq

namespace WorkTaskState

def asI16 : WorkTaskState → Int
  | .open => 1
  | .claimed => 2
  | .waiting => 3
  | .paused => 4
  | .blocked => 5
  | .inReview => 6
  | .completed => 7
  | .abandoned => 8

def fromI16 (value : Int) : Except WorkStoreError WorkTaskState :=
  match value with
  | 1 => .ok .open
  | 2 => .ok .claimed
  | 3 => .ok .waiting
  | 4 => .ok .paused
  | 5 => .ok .blocked
  | 6 => .ok .inReview
  | 7 => .ok .completed
  | 8 => .ok .abandoned
  | _ => .error (.unknownState value)

end WorkTaskState

structure WorkTask where
  key : TaskKey
  (title acceptance : String)
  goalId : Option String
  state : WorkTaskState
  (ownerId ownerSessionId : Option String)
  leaseExpiresAt : Option Int
  (declaredPaths declaredSymbols : List String)
  publishedBy : String
  version : Int
  sourceEventPosition : Option Int
  routeReference : Option String
  (createdAt updatedAt : Int)
  deriving DecidableEq

structure WorkTaskRow where
  key : TaskKey
  (title acceptance : String)
  goalId : Option String
  state : Int
  (ownerId ownerSessionId : Option String)
  leaseExpiresAt : Option Int
  (declaredPaths declaredSymbols : List String)
  sourceDigest : Bytes
  publishedBy : String
  version : Int
  sourceEventPosition : Option Int
  routeReference : Option String
  (createdAt updatedAt : Int)

instance : Row WorkTaskRow TaskKey := ⟨WorkTaskRow.key⟩

/-- An event, before it has its position. -/
structure WorkEvent where
  key : TaskKey
  eventId : String
  eventKind : Int
  fromState : Option Int
  toState : Int
  actorId : String
  sourceDigest : Bytes
  recordedAt : Int

structure WorkTaskHistoryRow where
  event : WorkEvent
  streamPosition : Int

def WorkTaskHistoryRow.stream (row : WorkTaskHistoryRow) : Stream := row.event.key.stream

instance : Row WorkTaskHistoryRow (Stream × String) := ⟨fun row => (row.stream, row.event.eventId)⟩

/-- What is computed with code outside the repository, or over a text form of a payload. -/
structure WorkDigests where
  sha256 : Bytes → Bytes
  payloadDigest : CreateWorkPayload → Bytes

def appendDigestPart (value : Bytes) : Bytes := bigEndian64 (UInt64.ofNat value.length) ++ value

/-- What `source_digest` hashes. -/
def NewWorkTask.sourceBytes (task : NewWorkTask) : Bytes :=
  appendDigestPart (utf8 "mindleak.ackplane.work.task.v1") ++ appendDigestPart (utf8 task.title) ++
    appendDigestPart (utf8 task.acceptance) ++
    (match task.goalId with
    | some goalId => [1] ++ appendDigestPart (utf8 goalId)
    | none => [0]) ++
    [task.declaredPaths, task.declaredSymbols].flatMap fun values =>
      bigEndian64 (UInt64.ofNat values.length) ++ values.flatMap fun value => appendDigestPart (utf8 value)

def NewWorkTask.sourceDigest (task : NewWorkTask) (digests : WorkDigests) : Bytes := digests.sha256 task.sourceBytes

def bigEndian16 (n : UInt16) : Bytes := [(n >>> 8).toUInt8, n.toUInt8]

def eventDigest (digests : WorkDigests) (commandId : String) (eventKind toState : Int) : Bytes :=
  digests.sha256 (utf8 commandId ++ bigEndian16 (UInt16.ofInt eventKind) ++ bigEndian16 (UInt16.ofInt toState))

structure WorkTaskCreationOutcome where
  task : WorkTask
  idempotentReplay : Bool
  deriving DecidableEq

structure WorkCreation where
  task : NewWorkTask
  eventId : String
  deriving DecidableEq

namespace WorkCreation

def key (creation : WorkCreation) : TaskKey := creation.task.key

def conflict (creation : WorkCreation) : WorkStoreError := .taskConflict creation.key

def row (digests : WorkDigests) (creation : WorkCreation) (now : Int) : WorkTaskRow where
  key := creation.key
  title := creation.task.title
  acceptance := creation.task.acceptance
  goalId := creation.task.goalId
  state := WorkTaskState.open.asI16
  ownerId := none
  ownerSessionId := none
  leaseExpiresAt := none
  declaredPaths := creation.task.declaredPaths
  declaredSymbols := creation.task.declaredSymbols
  sourceDigest := creation.task.sourceDigest digests
  publishedBy := creation.task.publishedBy
  version := 1
  sourceEventPosition := none
  routeReference := none
  createdAt := now
  updatedAt := now

def event (digests : WorkDigests) (creation : WorkCreation) (now : Int) : WorkEvent where
  key := creation.key
  eventId := creation.eventId
  eventKind := 1
  fromState := none
  toState := WorkTaskState.open.asI16
  actorId := creation.task.publishedBy
  sourceDigest := creation.task.sourceDigest digests
  recordedAt := now

/-- What the caller of a creation that went through is given. -/
def created (creation : WorkCreation) (position now : Int) : WorkTask where
  key := creation.key
  title := creation.task.title
  acceptance := creation.task.acceptance
  goalId := creation.task.goalId
  state := .open
  ownerId := none
  ownerSessionId := none
  leaseExpiresAt := none
  declaredPaths := creation.task.declaredPaths
  declaredSymbols := creation.task.declaredSymbols
  publishedBy := creation.task.publishedBy
  version := 1
  sourceEventPosition := some position
  routeReference := none
  createdAt := now
  updatedAt := now

end WorkCreation

namespace WorkTaskRow

def toTask (row : WorkTaskRow) : Except WorkStoreError WorkTask := do
  let state ← WorkTaskState.fromI16 row.state
  .ok ⟨row.key, row.title, row.acceptance, row.goalId, state, row.ownerId, row.ownerSessionId, row.leaseExpiresAt,
    row.declaredPaths, row.declaredSymbols, row.publishedBy, row.version, row.sourceEventPosition, row.routeReference,
    row.createdAt, row.updatedAt⟩

/-- The second half of `existing_creation`: the task, where it still is what was created. -/
def replay (row : WorkTaskRow) (digests : WorkDigests) (creation : WorkCreation) :
    Except WorkStoreError WorkTaskCreationOutcome := do
  let stored ← row.toTask
  if row.sourceDigest ≠ creation.task.sourceDigest digests ∨ stored.title ≠ creation.task.title ∨
      stored.acceptance ≠ creation.task.acceptance ∨ stored.goalId ≠ creation.task.goalId ∨ stored.state ≠ .open ∨
      stored.declaredPaths ≠ creation.task.declaredPaths ∨ stored.declaredSymbols ≠ creation.task.declaredSymbols ∨
      stored.publishedBy ≠ creation.task.publishedBy then
    .error creation.conflict
  else .ok ⟨stored, true⟩

end WorkTaskRow

/-- The first half of `existing_creation`: an event that is there must be this creation's. -/
def WorkTaskHistoryRow.replay (row : WorkTaskHistoryRow) (digests : WorkDigests) (creation : WorkCreation) :
    Except WorkStoreError Unit :=
  if row.event.key.taskId ≠ creation.task.taskId ∨ row.event.eventKind ≠ 1 ∨ row.event.fromState.isSome ∨
      row.event.toState ≠ WorkTaskState.open.asI16 ∨ row.event.actorId ≠ creation.task.publishedBy ∨
      row.event.sourceDigest ≠ creation.task.sourceDigest digests then
    .error creation.conflict
  else .ok ()

structure WorkTables where
  tasks : Table WorkTaskRow
  history : Table WorkTaskHistoryRow
  heads : Table StreamHead

namespace WorkTables

def empty : WorkTables := ⟨.empty, .empty, .empty⟩

def headPosition (tables : WorkTables) (stream : Stream) : Int :=
  ((tables.heads.find? stream).map StreamHead.position).getD 0

def advance (tables : WorkTables) (stream : Stream) (position : Int) : WorkTables :=
  { tables with heads := tables.heads.put ⟨stream, position⟩ }

def existingEvent (tables : WorkTables) (digests : WorkDigests) (creation : WorkCreation) :
    Option (Except WorkStoreError Unit) :=
  (tables.history.find? (creation.key.stream, creation.eventId)).map fun row => row.replay digests creation

/-- The row of a task, its event and the head in one; `none` where one of the history's unique
indexes refuses the event. -/
def append (tables : WorkTables) (row : WorkTaskRow) (event : WorkEvent) (position : Int) : Option WorkTables :=
  if tables.history.rows.any fun other => other.stream = event.key.stream ∧ other.streamPosition = position then none
  else
    (tables.history.insert? ⟨event, position⟩).map fun history =>
      { tables.advance event.key.stream position with
        tasks := tables.tasks.put { row with sourceEventPosition := some position }
        history }

end WorkTables

inductive WorkCommandKind where
  | createWork | routeWork | releaseLease | answerWait | submitReview | assign | steer | pause | resume | drain
  deriving DecidableEq

def WorkCommandKind.asI16 : WorkCommandKind → Int
  | .createWork => 1
  | .routeWork => 2
  | .releaseLease => 3
  | .answerWait => 4
  | .submitReview => 5
  | .assign => 6
  | .steer => 7
  | .pause => 8
  | .resume => 9
  | .drain => 10

inductive WorkEffect where
  | createWork (payload : CreateWorkPayload)
  | routeWork (routeReference : String)
  /-- `wait` is the answer in the wait's row. -/
  | answerWait (wait : Option (Option String))
  | submitReview
  /-- `claim` is the claim's owner and expiry. -/
  | releaseLease (payload : ReleaseLeasePayload) (claim : Option (String × Int))
  /-- A supervisor's terminal receipt for the directive that a command of this kind issued. -/
  | directive (kind : WorkCommandKind) (applied : Bool)

def WorkCommand.taskKey (command : WorkCommand) (taskId : String) : TaskKey :=
  ⟨command.tenantId, command.repositoryId, taskId⟩

def WorkCommand.event (command : WorkCommand) (digests : WorkDigests) (key : TaskKey) (eventKind fromState toState now : Int) :
    WorkEvent where
  key := key
  eventId := command.commandId
  eventKind := eventKind
  fromState := some fromState
  toState := toState
  actorId := command.issuingPrincipalId
  sourceDigest := eventDigest digests command.commandId eventKind toState
  recordedAt := now

def CreateWorkPayload.row (payload : CreateWorkPayload) (digests : WorkDigests) (command : WorkCommand) (now : Int) :
    WorkTaskRow where
  key := command.taskKey payload.taskId
  title := payload.title
  acceptance := payload.acceptance
  goalId := payload.goalId
  state := 1
  ownerId := none
  ownerSessionId := none
  leaseExpiresAt := none
  declaredPaths := payload.declaredPaths
  declaredSymbols := payload.declaredSymbols
  sourceDigest := digests.payloadDigest payload
  publishedBy := command.issuingPrincipalId
  version := 1
  sourceEventPosition := none
  routeReference := none
  createdAt := now
  updatedAt := now

namespace WorkTaskRow

def bump (row : WorkTaskRow) (now : Int) : WorkTaskRow := { row with version := row.version + 1, updatedAt := now }

def vacate (row : WorkTaskRow) (state now : Int) : WorkTaskRow :=
  { row.bump now with ownerId := none, ownerSessionId := none, leaseExpiresAt := none, state := state }

end WorkTaskRow

inductive EffectStep where
  /-- Nothing; its receipt is committed all the same. -/
  | leave (outcome : ExecutionOutcome)
  | fail (error : WorkCommandStoreError)
  | write (row : WorkTaskRow) (event : WorkEvent)

namespace WorkEffect

/-- The task whose row is inserted or locked, unless the command is decided before. -/
def target (command : WorkCommand) : WorkEffect → Except ExecutionOutcome TaskKey
  | .createWork payload => .ok (command.taskKey payload.taskId)
  | .routeWork _ | .answerWait _ | .submitReview =>
    match command.taskId, command.expectedTaskVersion with
    | some taskId, some _ => .ok (command.taskKey taskId)
    | _, _ => .error .taskNotFound
  | .releaseLease payload claim =>
    match command.taskId, claim with
    | some taskId, some (ownerId, leaseExpiresAt) =>
      if ownerId ≠ payload.expectedOwnerId then .error (.claimOwnerChanged ownerId)
      else if leaseExpiresAt ≠ payload.expectedLeaseExpiresAt then .error (.claimLeaseChanged leaseExpiresAt)
      else .ok (command.taskKey taskId)
    | _, _ => .error .claimMissing
  | .directive _ _ =>
    match command.taskId with
    | some taskId => .ok (command.taskKey taskId)
    | none => .error .applied

def inserts : WorkEffect → Bool
  | .createWork _ => true
  | _ => false

def expecting (command : WorkCommand) (row : Option WorkTaskRow) (next : WorkTaskRow → EffectStep) : EffectStep :=
  match row with
  | none => .leave .taskNotFound
  | some row =>
    if command.expectedTaskVersion ≠ some row.version then .leave (.taskVersionConflict row.version) else next row

/-- `apply_task_effect`, and the event of a receipt that is not an applied one. -/
def onDirective (digests : WorkDigests) (command : WorkCommand) (now : Int) (kind : WorkCommandKind) (applied : Bool)
    (row : WorkTaskRow) : EffectStep :=
  if applied then
    if row.state = 7 ∨ row.state = 8 then .leave .applied
    else
      let nextState := match kind with
        | .pause => 4
        | .resume | .assign => 2
        | .drain => 1
        | _ => row.state
      let next := if kind = .drain then row.vacate nextState now else { row.bump now with state := nextState }
      .write next (command.event digests row.key kind.asI16 row.state nextState now)
  else .write row (command.event digests row.key kind.asI16 row.state row.state now)

def onTask (digests : WorkDigests) (command : WorkCommand) (now : Int) (row : Option WorkTaskRow) : WorkEffect → EffectStep
  | .createWork payload =>
    match row with
    | some _ => .leave .taskAlreadyExists
    | none => .write (payload.row digests command now) (command.event digests (command.taskKey payload.taskId) 1 1 1 now)
  | .routeWork routeReference => expecting command row fun row =>
    .write { row.bump now with routeReference := some routeReference }
      (command.event digests row.key 2 row.state row.state now)
  | .answerWait wait => expecting command row fun row =>
    match wait with
    | none => .leave .waitNotFound
    | some (some _) => .leave .waitAlreadyAnswered
    | some none => .write (row.bump now) (command.event digests row.key 5 row.state row.state now)
  | .submitReview => expecting command row fun row =>
    .write { row.bump now with state := 6 } (command.event digests row.key 4 row.state 6 now)
  | .releaseLease _ _ =>
    match row with
    | none => .fail (.unknownCommand command.tenantId command.repositoryId command.commandId)
    | some row =>
      let nextState := if row.state = 2 then 1 else row.state
      .write (row.vacate nextState now) (command.event digests row.key 3 row.state nextState now)
  | .directive kind applied => match row with
    | none => .leave .applied
    | some row => onDirective digests command now kind applied row

end WorkEffect

inductive WorkCall where
  | createTask (creation : WorkCreation)
  | recordNodeTask (creation : WorkCreation)
  | command (command : WorkCommand) (effect : WorkEffect)

inductive WorkEnd where
  | answered (outcome : WorkTaskCreationOutcome)
  | refused (error : WorkStoreError)
  | executed (outcome : Except WorkCommandStoreError ExecutionOutcome)
  /-- A unique index refused the event. -/
  | violated
  /-- The pool, a statement or the connection failed, and everything was rolled back. -/
  | failed
  /-- It was committed, but the answer was lost. -/
  | unanswered

/-- What comes of the answer to a commit. -/
def WorkEnd.told (ending : WorkEnd) (heard : Bool) : WorkEnd := if heard then ending else .unanswered

/-- Behind which of its statements a transaction stands. -/
inductive WorkPhase where
  | idle
  | begun (call : WorkCall) (now : Int)
  /-- A node's creation found no event of its own. -/
  | unseen (creation : WorkCreation) (now : Int)
  /-- It found one, behind the position it had been given if any. -/
  | seen (creation : WorkCreation) (position : Option Int)
  /-- A creation has the head. -/
  | allocated (creation : WorkCreation) (node : Bool) (position now : Int)
  /-- The task was there already. -/
  | lost (creation : WorkCreation) (position : Int)
  /-- A command has its task's row, and changed it. -/
  | written (row : WorkTaskRow) (event : WorkEvent)
  /-- The event comes next, the last of what is written. -/
  | appending (ending : WorkEnd) (row : WorkTaskRow) (event : WorkEvent) (position : Int)
  | finished (ending : WorkEnd)

/-- The stream whose head a transaction has, and the position it was given there. -/
def WorkPhase.holding : WorkPhase → Option (Stream × Int)
  | .seen creation position => position.map fun position => (creation.key.stream, position)
  | .allocated creation _ position _ | .lost creation position => some (creation.key.stream, position)
  | .appending _ _ event position => some (event.key.stream, position)
  | .idle | .begun _ _ | .unseen _ _ | .written _ _ | .finished _ => none

structure WorkStreams (τ : Type) where
  tables : WorkTables
  headLocks : Stream → Option τ
  taskLocks : TaskKey → Option τ
  phase : τ → WorkPhase

inductive WorkOp (τ : Type) where
  | start (transaction : τ) (call : WorkCall) (now : Int)
  /-- The transaction's next statement, the last one with its commit; `heard` is whether the answer
  to that one arrives. -/
  | step (transaction : τ) (heard : Bool)
  | fail (transaction : τ)

namespace WorkStreams
variable {τ : Type} [DecidableEq τ] (digests : WorkDigests)

def moveTo (s : WorkStreams τ) (transaction : τ) (phase : WorkPhase) : WorkStreams τ :=
  { s with phase := Function.update s.phase transaction phase }

def finish (s : WorkStreams τ) (transaction : τ) (ending : WorkEnd) : WorkStreams τ :=
  { s.moveTo transaction (.finished ending) with
    headLocks := fun stream => (s.headLocks stream).filter (· ≠ transaction)
    taskLocks := fun key => (s.taskLocks key).filter (· ≠ transaction) }

/-- `allocate_stream_position`: the head stays locked until the transaction's end. -/
def allocate (s : WorkStreams τ) (transaction : τ) (stream : Stream) (phase : Int → WorkPhase) : WorkStreams τ :=
  match s.headLocks stream with
  -- Another transaction has the head: this one waits.
  | some _ => s
  | none =>
    { s.moveTo transaction (phase (s.tables.headPosition stream + 1)) with
      headLocks := Function.update s.headLocks stream (some transaction) }

/-- A statement of a transaction that has a row of `work_tasks` from here on. -/
def take (s : WorkStreams τ) (transaction : τ) (key : TaskKey) (phase : WorkPhase) : WorkStreams τ :=
  { s.moveTo transaction phase with taskLocks := Function.update s.taskLocks key (some transaction) }

/-- The second statement of `existing_creation`, and the commit. The row's lock excludes nobody
but who has it for itself. -/
def replay (s : WorkStreams τ) (transaction : τ) (creation : WorkCreation) (position : Option Int) (heard : Bool) :
    WorkStreams τ :=
  match s.tables.tasks.find? creation.key with
  | none => s.finish transaction (.refused creation.conflict)
  | some row =>
    match s.taskLocks creation.key with
    | some _ => s
    | none =>
      match row.replay digests creation with
      | .error error => s.finish transaction (.refused error)
      | .ok outcome =>
        -- A position that was allocated is committed with the rest.
        { s with tables := position.elim s.tables (s.tables.advance creation.key.stream) }.finish transaction
          (WorkEnd.told (.answered outcome) heard)

def begin (s : WorkStreams τ) (transaction : τ) (call : WorkCall) (now : Int) (heard : Bool) : WorkStreams τ :=
  match call with
  | .createTask creation =>
    s.allocate transaction creation.key.stream fun position => .allocated creation false position now
  | .recordNodeTask creation =>
    match s.tables.existingEvent digests creation with
    | none => s.moveTo transaction (.unseen creation now)
    | some (.error error) => s.finish transaction (.refused error)
    | some (.ok ()) => s.moveTo transaction (.seen creation none)
  | .command command effect =>
    match effect.target command with
    | .error outcome => s.finish transaction (WorkEnd.told (.executed (.ok outcome)) heard)
    | .ok key =>
      let row := s.tables.tasks.find? key
      -- An insert waits for another insert of its key, a lock for another lock of its row.
      if (s.taskLocks key).isSome ∧ effect.inserts = row.isNone then s
      else
        match effect.onTask digests command now row with
        | .leave outcome => s.finish transaction (WorkEnd.told (.executed (.ok outcome)) heard)
        | .fail error => s.finish transaction (.executed (.error error))
        | .write row event => s.take transaction key (.written row event)

def insert (s : WorkStreams τ) (transaction : τ) (creation : WorkCreation) (node : Bool) (position now : Int) :
    WorkStreams τ :=
  match s.tables.tasks.find? creation.key with
  | some _ =>
    if node then s.moveTo transaction (.lost creation position)
    else s.finish transaction (.refused creation.conflict)
  | none =>
    match s.taskLocks creation.key with
    -- Another transaction has the same task under way.
    | some _ => s
    | none => s.take transaction creation.key
        (.appending (.answered ⟨creation.created position now, false⟩) (creation.row digests now)
          (creation.event digests now) position)

def step (s : WorkStreams τ) (transaction : τ) (heard : Bool) : WorkStreams τ :=
  match s.phase transaction with
  | .idle | .finished _ => s
  | .begun call now => s.begin digests transaction call now heard
  | .unseen creation now =>
    s.allocate transaction creation.key.stream fun position => .allocated creation true position now
  | .seen creation position => s.replay digests transaction creation position heard
  | .allocated creation node position now => s.insert digests transaction creation node position now
  | .lost creation position =>
    match s.tables.existingEvent digests creation with
    | none => s.finish transaction (.refused creation.conflict)
    | some (.error error) => s.finish transaction (.refused error)
    | some (.ok ()) => s.moveTo transaction (.seen creation (some position))
  | .written row event =>
    s.allocate transaction event.key.stream fun position => .appending (.executed (.ok .applied)) row event position
  | .appending ending row event position =>
    match s.tables.append row event position with
    | none => s.finish transaction .violated
    | some tables => { s with tables }.finish transaction (ending.told heard)

def apply (s : WorkStreams τ) : WorkOp τ → WorkStreams τ
  | .start transaction call now =>
    match s.phase transaction with
    | .idle => s.moveTo transaction (.begun call now)
    | _ => s
  | .step transaction heard => s.step digests transaction heard
  | .fail transaction =>
    match s.phase transaction with
    | .idle | .finished _ => s
    | _ => s.finish transaction .failed

end WorkStreams

/-- Creations and commands from empty tables on, in any order of their statements. -/
def workStreams (digests : WorkDigests) (τ : Type) [DecidableEq τ] : Machine (WorkStreams τ) (WorkOp τ) where
  start := ⟨.empty, fun _ => none, fun _ => none, fun _ => .idle⟩
  enabled _ _ := True
  apply := WorkStreams.apply digests

/-! Whether the tasks of the Work store say what their events say. -/

namespace WorkTables

def eventsOf (tables : WorkTables) (key : TaskKey) : List WorkTaskHistoryRow :=
  (EventLog.trail (fun row : WorkTaskHistoryRow => row.event.key) tables.history.rows key).mergeSort fun one other =>
    one.streamPosition ≤ other.streamPosition

def latest (tables : WorkTables) (key : TaskKey) : Option WorkTaskHistoryRow := (tables.eventsOf key).getLast?

def issueOf (tables : WorkTables) (row : WorkTaskRow) : Option WorkIntegrityReason :=
  match row.sourceEventPosition, tables.latest row.key with
  | _, none => some .missingHistory
  | none, some _ => some .missingSourcePosition
  | some source, some latest =>
    if source ≠ latest.streamPosition then some .eventPositionMismatch
    else if row.state ≠ latest.event.toState then some .stateMismatch
    else none

/-- `check_integrity`: the first row that something is wrong with. -/
def checkIntegrity (tables : WorkTables) (tenantId : String) (repositoryId taskId : Option String) : Except WorkStoreError Unit :=
  let asked := tables.tasks.rows.filter fun row => row.key.tenantId = tenantId ∧
    repositoryId.all (row.key.repositoryId = ·) ∧ taskId.all (row.key.taskId = ·)
  let wrong := asked.filterMap fun row => (tables.issueOf row).map fun reason => (row.key, reason)
  let ordered := wrong.mergeSort fun one other => one.1.repositoryId < other.1.repositoryId ∨
    one.1.repositoryId = other.1.repositoryId ∧ one.1.taskId ≤ other.1.taskId
  match ordered with
  | [] => .ok ()
  | (key, reason) :: _ => .error (.inconsistentProjection key.repositoryId key.taskId reason)

end WorkTables

end MindLeak.Ackplane
