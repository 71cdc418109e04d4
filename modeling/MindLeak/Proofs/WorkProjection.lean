import MindLeak.Library.Serial
import MindLeak.Proofs.CommandSteps
import MindLeak.Proofs.WorkStreams

/-! The tasks of the Work store as a projection of its events, under any interleaving of the calls. -/

namespace MindLeak.Ackplane

open List Table

variable {before : WorkTables}

namespace WorkTables

structure Records (before after : WorkTables) (event : WorkEvent) (row : WorkTaskRow) : Prop where
  history : after.history.rows = before.history.rows ++ [⟨event, before.headPosition event.key.stream + 1⟩]
  heads : ∀ stream, after.headPosition stream =
    if stream = event.key.stream then before.headPosition stream + 1 else before.headPosition stream
  tasks : ∀ key, after.tasks.find? key = if event.key = key then some row else before.tasks.find? key
  source : row.sourceEventPosition = some (before.headPosition event.key.stream + 1)
  state : row.state = event.toState

/-- What a call does to tasks and events; `noted` is what it takes to leave an event alone. -/
inductive Moved (noted : Prop) (before after : WorkTables) : Prop where
  | stays (tasks : after.tasks = before.tasks) (history : after.history = before.history)
      (heads : ∀ stream, before.headPosition stream ≤ after.headPosition stream)
  | creates {event : WorkEvent} {row : WorkTaskRow} (records : before.Records after event row)
      (absent : before.tasks.find? event.key = none) (first : row.version = 1) (known : StateKnown event.toState)
  | changes {event : WorkEvent} {row old : WorkTaskRow} (records : before.Records after event row)
      (found : before.tasks.find? event.key = some old) (chained : event.fromState = some old.state)
      (bumped : row.version = old.version + 1) (kept : row.published = old.published) (known : StateKnown old.state → StateKnown event.toState)
  | notes {event : WorkEvent} {row old : WorkTaskRow} (only : noted) (records : before.Records after event row)
      (found : before.tasks.find? event.key = some old) (chained : event.fromState = some old.state)
      (same : row = { old with sourceEventPosition := row.sourceEventPosition })

def trail (tables : WorkTables) : TaskKey → List WorkTaskHistoryRow :=
  EventLog.trail (fun row => row.event.key) tables.history.rows

structure Projected (tables : WorkTables) : Prop where
  ordered : tables.history.rows.Pairwise fun first second => first.stream = second.stream → first.streamPosition < second.streamPosition
  bounded : ∀ row ∈ tables.history.rows, row.streamPosition ≤ tables.headPosition row.stream
  unbroken : ∀ key, EventLog.Unbroken (fun row => row.event.fromState) (fun row => row.event.toState) (tables.trail key)
  projects : EventLog.Projects (fun row : WorkTaskHistoryRow => row.event.key)
    (fun row => (row.event.toState, some row.streamPosition)) tables.history.rows fun key =>
      (tables.tasks.find? key).map fun row => (row.state, row.sourceEventPosition)

theorem projected_empty : empty.Projected where
  ordered := .nil
  bounded _ member := by cases member
  unbroken _ := isChain_nil
  projects _ := rfl

variable {after : WorkTables}

section
variable (projected : before.Projected)
include projected

theorem Projected.record {event : WorkEvent} {row : WorkTaskRow}
    (records : before.Records after event row)
    (follows : ∀ old, before.tasks.find? event.key = some old → event.fromState = some old.state) : after.Projected := by
  refine ⟨?_, ?_, ?_, ?_⟩
  · rw [records.history, pairwise_append]
    refine ⟨projected.ordered, pairwise_singleton _ _, fun first member second only same => ?_⟩
    cases mem_singleton.mp only
    have below := projected.bounded first member
    rw [same] at below
    exact Int.lt_add_one_of_le below
  · rw [records.history]
    intro other member
    rw [records.heads]
    rcases mem_append.mp member with old | new
    · have below := projected.bounded other old
      split
      · exact Int.le_trans below (Int.le_of_lt (Int.lt_succ _))
      · exact below
    · cases mem_singleton.mp new
      exact Int.le_of_eq (if_pos rfl).symm
  · intro key
    rw [trail, records.history, EventLog.trail_append]
    split
    next its =>
      refine (projected.unbroken key).append fun last final => ?_
      have projects := projected.projects key
      rw [show (EventLog.trail (fun row : WorkTaskHistoryRow => row.event.key) before.history.rows key).getLast? = some last from final]
        at projects
      obtain ⟨old, found, same⟩ := Option.map_eq_some_iff.mp projects
      rw [follows old (its ▸ found)]
      exact congrArg some (congrArg Prod.fst same)
    next => exact projected.unbroken key
  · rw [records.history]
    refine projected.projects.append fun key => ?_
    rw [records.tasks]
    split
    next => rw [Option.map_some, records.state, records.source]
    next => rfl

theorem Projected.moved {noted : Prop} (moved : Moved noted before after) : after.Projected := by
  cases moved with
  | stays tasks history heads =>
    refine ⟨history ▸ projected.ordered, ?_, ?_, ?_⟩
    · rw [history]
      exact fun row member => Int.le_trans (projected.bounded row member) (heads row.stream)
    · rw [trail, history]
      exact projected.unbroken
    · rw [history, tasks]
      exact projected.projects
  | creates records absent =>
    exact projected.record records fun old found => by cases absent.symm.trans found
  | changes records found chained | notes _ records found chained =>
    exact projected.record records fun other same => by cases found.symm.trans same; exact chained

theorem Projected.eventsOf_eq (key : TaskKey) : before.eventsOf key = before.trail key := by
  refine EventLog.mergeSort_eq (Pairwise.imp_of_mem ?_ (projected.ordered.filter _))
  intro first second left right ordered
  have one := of_decide_eq_true (mem_filter.mp left).2
  have other := of_decide_eq_true (mem_filter.mp right).2
  exact ordered (congrArg TaskKey.stream (one.trans other.symm))

theorem Projected.issueOf_eq_none {row : WorkTaskRow} (member : row ∈ before.tasks.rows) :
    before.issueOf row = none := by
  have found : before.tasks.find? row.key = some row := find?_of_mem member
  have projects := projected.projects row.key
  dsimp only at projects
  rw [found, Option.map_some] at projects
  obtain ⟨last, final, same⟩ := Option.map_eq_some_iff.mp projects.symm
  have latest : before.latest row.key = some last := by
    rw [WorkTables.latest, projected.eventsOf_eq]
    exact final
  obtain ⟨state, source⟩ := Prod.mk.inj same
  rw [issueOf, latest, ← source]
  simp [state]

theorem Projected.checkIntegrity_ok (tenantId : String) (repositoryId taskId : Option String) :
    before.checkIntegrity tenantId repositoryId taskId = .ok () := by
  have none : (before.tasks.rows.filter fun row => row.key.tenantId = tenantId ∧
      repositoryId.all (row.key.repositoryId = ·) ∧ taskId.all (row.key.taskId = ·)).filterMap
        (fun row => (before.issueOf row).map fun reason => (row.key, reason)) = [] := by
    rw [filterMap_eq_nil_iff]
    intro row member
    rw [projected.issueOf_eq_none (mem_filter.mp member).1, Option.map_none]
  unfold checkIntegrity
  dsimp only
  rw [none, mergeSort_nil]

end

theorem headPosition_le_advance (tables : WorkTables) (stream other : Stream) :
    tables.headPosition other ≤ (tables.advance stream (tables.headPosition stream + 1)).headPosition other := by
  rw [headPosition_advance]
  split
  next same =>
    rw [same]
    exact Int.le_of_lt (Int.lt_succ _)
  next => exact Int.le_refl _

end WorkTables

variable {s : CommandStore}

namespace CommandStore
variable {base : CommandStore} {event : WorkEvent} {row : WorkTaskRow}

theorem Accepts.fresh (accepts : s.Accepts event) : s.work.history.find? (event.key.stream, event.eventId) = none := by
  cases found : s.work.history.find? (event.key.stream, event.eventId) with
  | none => rfl
  | some taken =>
    obtain ⟨member, named⟩ := mem_of_find? found
    obtain ⟨stream, eventId⟩ := Prod.mk.inj named
    rw [Accepts, look, Bool.not_eq_true', any_eq_false] at accepts
    exact absurd (decide_eq_true ⟨stream, .inl eventId⟩) (accepts taken member)

theorem Accepts.recorded (accepts : s.Accepts event) (work : base.work.history = s.work.history ∧ base.work.heads = s.work.heads)
    (others : ∀ key, event.key ≠ key → base.work.tasks.find? key = s.work.tasks.find? key)
    (its : base.work.tasks.find? event.key = some row) (state : row.state = event.toState) :
    s.work.Records (base.recorded event (s.work.headPosition event.key.stream + 1)).work event
      { row with sourceEventPosition := some (s.work.headPosition event.key.stream + 1) } where
  history := by
    refine (insertOrIgnore_rows ?_).trans ?_
    · exact (congrArg (fun table : Table WorkTaskHistoryRow => table.find? (event.key.stream, event.eventId)) work.1).trans
        accepts.fresh
    · exact congrArg (fun table : Table WorkTaskHistoryRow => table.rows ++ _) work.1
  heads stream := by
    have same : (base.recorded event (s.work.headPosition event.key.stream + 1)).work.headPosition stream =
        (s.work.advance event.key.stream (s.work.headPosition event.key.stream + 1)).headPosition stream := by
      simp only [WorkTables.headPosition, CommandStore.recorded, updateTask, insertEvent, advance, WorkTables.advance, work.2]
    rw [same, WorkTables.headPosition_advance]
    split
    next here => rw [here]
    next => rfl
  tasks key := by
    refine (find?_update_one base.work.tasks event.key key
      (fun row => { row with sourceEventPosition := some (s.work.headPosition event.key.stream + 1) }) fun _ => rfl).trans ?_
    split
    next => rw [its, Option.map_some]
    next other => exact others key other
  source := rfl
  state := state

theorem Accepts.inserted (accepts : s.Accepts event) (its : event.key = row.key) (absent : s.work.tasks.find? row.key = none)
    (state : row.state = event.toState) :
    s.work.Records ((s.insertTask row).recorded event (s.work.headPosition event.key.stream + 1)).work event
      { row with sourceEventPosition := some (s.work.headPosition event.key.stream + 1) } := by
  refine accepts.recorded ⟨rfl, rfl⟩ (fun key other => ?_) ?_ state
  · exact (find?_insertOrIgnore s.work.tasks row key).trans (if_neg fun same => other (its.trans same))
  · rw [its]
    exact find?_insertOrIgnore_self _ absent

theorem Creates.records {platform : Platform} {creation : WorkCreation} {now : Int} (creates : s.Creates platform creation now) :
    s.work.Records (s.created platform creation (s.work.headPosition creation.key.stream + 1) now).work
      (creation.event (workDigestsOf platform) now)
      { creation.row (workDigestsOf platform) now with
        sourceEventPosition := some (s.work.headPosition creation.key.stream + 1) } where
  history := insertOrIgnore_rows creates.accepts.fresh
  heads stream := by
    refine (s.work.headPosition_advance creation.key.stream stream _).trans ?_
    by_cases here : stream = creation.key.stream
    · rw [if_pos here, if_pos (show stream = (creation.event (workDigestsOf platform) now).key.stream from here), here]
    · rw [if_neg here, if_neg (show stream ≠ (creation.event (workDigestsOf platform) now).key.stream from here)]
  tasks key := by
    refine (find?_insertOrIgnore s.work.tasks _ key).trans ?_
    by_cases here : creation.key = key
    · subst here
      refine (if_pos rfl).trans (Eq.trans ?_ (if_pos rfl).symm)
      rw [creates.absent, Option.getD_none]
    · exact (if_neg here).trans (if_neg here).symm
  source := rfl
  state := rfl

end CommandStore

variable {command : WorkCommandRow} {after : CommandStore} {now : Int}

namespace WorkCommands
variable {platform : Platform}

theorem Changed.records {event : WorkEvent} {old : WorkTaskRow} (changed : Changed s s event old after) :
    s.work.tasks.find? event.key = some old ∧ event.fromState = some old.state ∧
      (StateKnown old.state → StateKnown event.toState) ∧
      ∃ row, s.work.Records after.work event row ∧ row.version = old.version + 1 ∧ row.published = old.published := by
  cases changed with
  | @mk base set keeps beside found accepts chained reached bumped kept known =>
    have work : base.work = s.work := by
      rcases beside with rfl | ⟨_, _, _, rfl⟩ | ⟨_, rfl⟩
      · rfl
      · rfl
      · rfl
    refine ⟨found, chained, known, _, accepts.recorded ⟨(congrArg WorkTables.history work : base.work.history = _),
      (congrArg WorkTables.heads work : base.work.heads = _)⟩ ?_ ?_ reached, bumped, kept⟩
    · intro key other
      refine (find?_update_one base.work.tasks event.key key set keeps).trans ?_
      rw [if_neg other, work]
    · refine (find?_update_one base.work.tasks event.key event.key set keeps).trans ?_
      rw [if_pos rfl, work, found, Option.map_some]

theorem Changed.moved {noted : Prop} {event : WorkEvent} {old : WorkTaskRow} (changed : Changed s s event old after) :
    s.work.Moved noted after.work := by
  obtain ⟨found, chained, known, row, records, bumped, kept⟩ := changed.records
  exact .changes records found chained bumped kept known

theorem Receipted.work {receipt : NewWorkCommandReceipt} {digest : Bytes} {seen : CommandStore → Prop} {middle : CommandStore}
    {answer : WorkCommandReceiptWriteOutcome} (receipted : Receipted receipt digest now seen s middle after answer) :
    after.work = middle.work := by
  cases receipted with
  | inserts | replays => rfl

end WorkCommands

theorem Enqueues.work {platform : DirectivePlatform} {directive : V1.AgentDirective} {expiresAt now : Int} {seen : CommandStore → Prop}
    {s written after : CommandStore} {outcome : DirectiveWriteOutcome}
    (enqueues : Enqueues platform directive expiresAt now seen s written after outcome) : after.work = written.work := by
  cases enqueues with
  | replays _ _ _ idle => rcases idle with rfl | rfl <;> rfl
  | appends => rfl

variable {platform : DirectivePlatform} {seen : CommandStore → Prop} {noted : Prop}

namespace WorkCommands

theorem moved_refl : s.work.Moved noted s.work := .stays rfl rfl fun _ => Int.le_refl _

theorem Effect.moved {payload : WorkCommandPayload} {outcome : ExecutionOutcome}
    (effect : Effect platform command now seen s s payload after outcome) : s.work.Moved noted after.work := by
  cases effect with
  | refuses => exact moved_refl
  | creates absent accepts => exact .creates (accepts.inserted rfl absent rfl) absent rfl ⟨.open, rfl⟩
  | applies _ _ applies =>
    cases applies with
    | leaves => exact moved_refl
    | changes _ _ _ _ changed => exact changed.moved
  | issues _ issues =>
    cases issues with
    | leaves => exact moved_refl
    | issues _ enqueues => exact enqueues.work ▸ moved_refl

theorem Reflects.moved {outcome : WorkCommandOutcome} (reflects : Reflects platform.toPlatform command outcome now s s after) :
    s.work.Moved (outcome ≠ .applied) after.work := by
  cases reflects with
  | leaves => exact moved_refl
  | changes _ _ _ _ changed => exact changed.moved
  | notes unapplied _ found accepts =>
    exact .notes unapplied (accepts.recorded ⟨rfl, rfl⟩ (fun _ _ => rfl) found rfl) found rfl rfl

end WorkCommands

namespace CommandCall
open WorkCommands
variable {grows : CommandStore → CommandStore → Prop} {call : CommandCall} {answer : CommandAnswer}

def Notes (call : CommandCall) : Prop :=
  ∃ receipt now outcome, call = .applyDirectiveReceipt receipt now ∧ receipt.terminalOutcome = some outcome ∧ outcome ≠ .applied

theorem Does.moved (does : Does platform grows seen s call after answer) : s.work.Moved call.Notes after.work := by
  cases does with
  | createTask creates | recordNodeTask creates => exact .creates creates.records creates.absent rfl ⟨.open, rfl⟩
  | @replayNodeTask creation now _ _ idle =>
    rcases idle with rfl | rfl
    · exact .stays rfl rfl (s.work.headPosition_le_advance creation.key.stream)
    · exact moved_refl
  | submit _ _ _ records =>
    cases records with
    | inserts | replays => exact moved_refl
  | recordPending _ _ receipted => exact receipted.work ▸ moved_refl
  | confirm confirms =>
    cases confirms with
    | unknown | refused => exact moved_refl
    | executes _ _ _ executes =>
      cases executes with
      | replays => exact moved_refl
      | confirms decided _ _ receipted =>
        rw [receipted.work]
        rcases confirmedOutcome_runs decided with ⟨_, rfl, _⟩ | ⟨_, runs⟩
        · exact moved_refl
        · exact (applyEffect_runs runs).moved
  | applyDirectiveReceipt reports =>
    cases reports with
    | idle | unissued | replays => exact moved_refl
    | reports finished _ _ reflects _ _ receipted =>
      rw [receipted.work]
      cases reflects.moved with
      | stays tasks history heads => exact .stays tasks history heads
      | creates records absent first known => exact .creates records absent first known
      | changes records found chained bumped kept known => exact .changes records found chained bumped kept known
      | notes only records found chained same => exact .notes ⟨_, _, _, rfl, finished, only⟩ records found chained same
  | enqueue _ _ _ enqueues => exact enqueues.work ▸ moved_refl
  | recordDirectiveReceipt received =>
    cases received with
    | inserts | replays => exact moved_refl
  | claim => exact moved_refl
  | ask asks => rcases asks with rfl | rfl <;> exact moved_refl
  | recordSession records => rcases records with rfl | ⟨_, rfl⟩ <;> exact moved_refl

end CommandCall

namespace WorkTables
variable {after : WorkTables}

theorem Moved.mono {weaker : Prop} (moved : Moved noted before after) (implies : noted → weaker) : Moved weaker before after := by
  cases moved with
  | stays tasks history heads => exact .stays tasks history heads
  | creates records absent first known => exact .creates records absent first known
  | changes records found chained bumped kept known => exact .changes records found chained bumped kept known
  | notes only records found chained same => exact .notes (implies only) records found chained same

def Accounted (noted : Prop) (before after : WorkTables) (key : TaskKey) : Prop :=
  after.tasks.find? key = before.tasks.find? key ∧ after.eventsOf key = before.eventsOf key ∨
    ∃ event row, after.tasks.find? key = some row ∧ after.eventsOf key = before.eventsOf key ++ [event] ∧
      (before.tasks.find? key = none ∧ row.version = 1 ∨
        ∃ old, before.tasks.find? key = some old ∧ (row.version = old.version + 1 ∨
          noted ∧ row = { old with sourceEventPosition := some event.streamPosition }))

theorem Records.accounted {event : WorkEvent} {row : WorkTaskRow} (records : before.Records after event row)
    (projected : before.Projected) (following : after.Projected)
    (counts : before.tasks.find? event.key = none ∧ row.version = 1 ∨
      ∃ old, before.tasks.find? event.key = some old ∧ (row.version = old.version + 1 ∨
        noted ∧ row = { old with sourceEventPosition := row.sourceEventPosition })) (key : TaskKey) :
    Accounted noted before after key := by
  have events : after.eventsOf key = if event.key = key then before.eventsOf key ++
      [⟨event, before.headPosition event.key.stream + 1⟩] else before.eventsOf key := by
    rw [projected.eventsOf_eq, following.eventsOf_eq, trail, records.history, EventLog.trail_append]
    rfl
  by_cases its : event.key = key
  · subst its
    rw [if_pos rfl] at events
    refine .inr ⟨_, row, (records.tasks _).trans (if_pos rfl), events, ?_⟩
    rw [← records.source]
    exact counts
  · rw [if_neg its] at events
    exact .inl ⟨(records.tasks key).trans (if_neg its), events⟩

theorem Moved.accounted (moved : Moved noted before after) (projected : before.Projected) (key : TaskKey) :
    Accounted noted before after key := by
  have following := projected.moved moved
  cases moved with
  | stays tasks history =>
    refine .inl ⟨by rw [tasks], ?_⟩
    rw [eventsOf, history]
    rfl
  | creates records absent first => exact records.accounted projected following (.inl ⟨absent, first⟩) key
  | changes records found _ bumped => exact records.accounted projected following (.inr ⟨_, found, .inl bumped⟩) key
  | notes only records found _ same => exact records.accounted projected following (.inr ⟨_, found, .inr ⟨only, same⟩⟩) key

end WorkTables

section
variable {τ : Type} [DecidableEq τ]
  {history : List (Entry (Interleaving τ CommandStore CommandStore.View CommandStore.Lock CommandStore.View.Value CommandError CommandAnswer CommandCall) (TransactionOp τ CommandCall))}
  {state : Interleaving τ CommandStore CommandStore.View CommandStore.Lock CommandStore.View.Value CommandError CommandAnswer CommandCall}

/-- Under any interleaving of the calls the integrity check finds nothing, each task's events go on from
each other, and a change of a task comes with one event and the next version; the event of a supervisor's
receipt that reports no success leaves the version. -/
theorem work_projection_integrity (run : (workControl platform τ .empty).Run history state) :
    (∀ seen ∈ (workControl platform τ .empty).visited history,
      (∀ tenantId repositoryId taskId, seen.store.work.checkIntegrity tenantId repositoryId taskId = .ok ()) ∧
        ∀ key, EventLog.Unbroken (fun row => row.event.fromState) (fun row => row.event.toState) (seen.store.work.eventsOf key)) ∧
      ∀ entry ∈ history, ∀ key, WorkTables.Accounted
        (∃ call answer, entry.before.Committing entry.op call answer ∧ call.Notes)
        entry.before.store.work entry.after.store.work key := by
  obtain ⟨⟨_, visited⟩, steps⟩ := Interleaving.run_steps run (CommandCall.program_within platform)
    (fun store => store.work.Projected) (fun _ _ => True) (fun _ => trivial) (fun _ _ => trivial) WorkTables.projected_empty
    fun _ _ _ _ projected _ commits => ⟨projected.moved (CommandCall.program_does commits).moved, trivial⟩
  refine ⟨fun seen member => ⟨(visited seen member).1.checkIntegrity_ok, fun key => ?_⟩, fun entry member key => ?_⟩
  · rw [(visited seen member).1.eventsOf_eq]
    exact (visited seen member).1.unbroken key
  · obtain ⟨projected, _, moved⟩ := steps entry member
    rcases moved.cases with ⟨_, same⟩ | ⟨call, answer, committing, commits⟩
    · rw [same]
      exact .inl ⟨rfl, rfl⟩
    · exact ((CommandCall.program_does commits).moved.mono fun noted => ⟨call, answer, committing, noted⟩).accounted projected key

end

section
open CommandStore

def workerCapabilities : SupervisorCapabilities where
  supportedDirectives := [.notify, .prompt, .assign, .steer, .pause, .resume, .drain]
  supportsCheckpoint := true
  supportsForceTermination := false
  outboxDurability := .persistent
  recoverableOutbox := true

def workerSession : SupervisorSessionRow := ⟨⟨"acme", "repo", "session-1"⟩, "node-1", workerCapabilities⟩

def openTask : WorkCreation := ⟨⟨"acme", "repo", "task-1", "Title", "Accepted", none, [], [], "human:ada"⟩, "work-event:1"⟩

def workPrincipal (principalId : String) : VerifiedWorkCommandPrincipal where
  principalId := principalId
  tenantId := "acme"
  repositoryIds := ["repo"]
  allowedCommands := [.createWork, .routeWork, .releaseLease, .answerWait, .submitReview, .assign, .steer, .pause, .resume, .drain]
  policyRefs := []
  delegationId := none

def workRequest (principalId idempotencyKey : String) (version : Int) (payload : WorkCommandPayload) : NewWorkCommand where
  tenantId := "acme"
  repositoryId := "repo"
  kind := payload.kind
  schemaVersion := "v1"
  taskId := some "task-1"
  issuingPrincipalId := principalId
  delegationId := none
  policyRefs := []
  rationale := "because"
  expectedTaskVersion := some version
  confirmationId := none
  expiresAt := seconds 60
  idempotencyKey := idempotencyKey
  payloadDigest := (payload.digest wire.toPlatform).toOption.getD []

def submitting (principalId idempotencyKey : String) (version : Int) (payload : WorkCommandPayload) : CommandCall :=
  .submit (workPrincipal principalId) (workRequest principalId idempotencyKey version payload) (seconds 1)

def commandKeyOf (principalId idempotencyKey : String) (version : Int) (payload : WorkCommandPayload) : CommandKey :=
  ⟨"acme", "repo", (workRequest principalId idempotencyKey version payload).assignedCommandId wire.toPlatform⟩

def confirming (principalId idempotencyKey : String) (version : Int) (payload : WorkCommandPayload) (now : Int) : CommandCall :=
  .confirm (workPrincipal principalId) (commandKeyOf principalId idempotencyKey version payload) payload now

def pausing : WorkCommandPayload := .pause ⟨⟨"node-1", "session-1"⟩, true⟩

def pauseReport (status : V1.DirectiveReceiptStatus) : V1.DirectiveReceipt where
  directiveId := "directive:work-command:" ++ (commandKeyOf "human:ada" "key-1" 1 pausing).commandId
  tenantId := "acme"
  projectId := WorkCommandRow.syntheticProjectId "repo"
  repositoryId := "repo"
  nodeId := "node-1"
  agentSessionId := "session-1"
  status := status.asI32
  reason := V1.DirectiveReceiptReason.invalidState.asI32
  occurredAt := "1970-01-01T00:00:03Z"
  payloadDigest := []
  checkpointRefs := []
  evidenceRefs := []
  directiveSequence := 1
  diagnostic := ""
  outboxSequence := some 1

def pausedCalls : List CommandCall :=
  [.createTask openTask (seconds 1), .recordSession workerSession, submitting "human:ada" "key-1" 1 pausing,
    confirming "human:ada" "key-1" 1 pausing (seconds 2)]

def afterCalls (calls : List CommandCall) : CommandStore :=
  Interleaving.serial look (CommandCall.program wire) .empty calls

def refusedCalls : List CommandCall := pausedCalls ++ [CommandCall.applyDirectiveReceipt (pauseReport .refused) (seconds 4)]

def CommandAnswer.reported : CommandAnswer → Option WorkCommandReceiptWriteOutcome
  | .applied outcome => outcome
  | _ => none

/-- The refusal moves the position that the task's row names; its receipt is new, and has its own digest. -/
theorem refusal_written :
    (((afterCalls pausedCalls).work.tasks.find? openTask.key).map (fun row => (row.version, row.sourceEventPosition)) = some (1, some 1) ∧
      ((afterCalls refusedCalls).work.tasks.find? openTask.key).map (fun row => (row.version, row.sourceEventPosition)) =
        some (1, some 2)) ∧
      (((afterCalls pausedCalls).look (.issuer (pauseReport .refused).directiveKey)).any fun command =>
        (afterCalls pausedCalls).receipts.rows.all fun row =>
          (command.directiveReceipt (pauseReport .refused) .refused (seconds 4)).digest wire.toPlatform ≠
            row.toNewWorkCommandReceipt.digest wire.toPlatform) = true ∧
      (((afterCalls refusedCalls).look (.issuer (pauseReport .refused).directiveKey)).any fun command =>
        ((afterCalls refusedCalls).receipts.find? command.key.report).isSome) = true ∧
      (((((CommandCall.program wire (.applyDirectiveReceipt (pauseReport .refused) (seconds 4))).attempt look
        (afterCalls pausedCalls)).1).toOption.bind CommandAnswer.reported).isSome) = true := by
  delta afterCalls refusedCalls pausedCalls submitting confirming commandKeyOf pauseReport workRequest
  rw [wire_unrolled]
  decide +kernel

theorem refused_run : ∃ history state, (workControl wire Nat .empty).Run history state ∧ ∃ entry ∈ history, ∃ row row',
    entry.before.store.work.tasks.find? openTask.key = some row ∧ entry.after.store.work.tasks.find? openTask.key = some row' ∧
      row'.version = row.version ∧ row'.sourceEventPosition ≠ row.sourceEventPosition := by
  obtain ⟨history, standing, run, _, entries, _⟩ := Interleaving.serial_run look guards (CommandCall.program wire) .empty refusedCalls
  obtain ⟨entry, member, serves⟩ := entries pausedCalls _ [] rfl
  obtain ⟨row, found, same⟩ := Option.map_eq_some_iff.mp refusal_written.1.1
  obtain ⟨row', found', same'⟩ := Option.map_eq_some_iff.mp refusal_written.1.2
  obtain ⟨version, source⟩ := Prod.mk.inj same
  obtain ⟨version', source'⟩ := Prod.mk.inj same'
  have before : entry.before.store = afterCalls pausedCalls := serves.before
  have after : entry.after.store = afterCalls refusedCalls := serves.after
  rw [← before] at found
  rw [← after] at found'
  exact ⟨history, _, run, entry, member, row, row', found, found', by rw [version, version'], by rw [source, source']; decide⟩

/-- A refusal changes the task's row and leaves its version. -/
theorem refused_version_counterexample : ¬∀ history state, (workControl wire Nat .empty).Run history state →
    ∀ entry ∈ history, ∀ key row row', entry.before.store.work.tasks.find? key = some row →
      entry.after.store.work.tasks.find? key = some row' → row' = row ∨ row'.version = row.version + 1 := by
  intro bumped
  obtain ⟨history, state, run, entry, member, row, row', before, after, version, source⟩ := refused_run
  rcases bumped history state run entry member _ row row' before after with same | next
  · exact source (congrArg _ same)
  · omega

theorem refused_integrity : ∃ history state, (workControl wire Nat .empty).Run history state ∧
    (∃ entry ∈ history, ∃ row, entry.after.store.work.tasks.find? openTask.key = some row) ∧
    ∀ seen ∈ (workControl wire Nat .empty).visited history, seen.store.work.checkIntegrity "acme" none none = .ok () := by
  obtain ⟨history, state, run, entry, member, _, row', _, after, _⟩ := refused_run
  exact ⟨history, state, run, ⟨entry, member, row', after⟩, fun seen member =>
    ((work_projection_integrity run).1 seen member).1 "acme" none none⟩

end

end MindLeak.Ackplane
