import MindLeak.Ackplane.WorkControl
import MindLeak.Proofs.ClaimCalls

/-! Every call of the authority writes under its locks: each update changes only what its own rows
are read by, and each program has those rows by then. -/

namespace MindLeak.Ackplane

open List Table DirectiveStore Option

variable {held : List Lock}

namespace CommandStore
open Transaction

theorem report_injective {first second : CommandKey} (same : first.report = second.report) : first = second := by
  obtain ⟨tenantId, repositoryId, commandId⟩ := first
  obtain ⟨_, _, other⟩ := second
  simp only [CommandKey.report, ReceiptKey.mk.injEq, String.append_left_inj] at same
  obtain ⟨rfl, rfl, rfl⟩ := same
  rfl

theorem confirmReceipt_ne_report (row : WorkCommandRow) (outcome : ExecutionOutcome) (now : Int) (command : CommandKey) :
    (row.confirmReceipt outcome now).key ≠ command.report := by
  intro same
  have named := congrArg ReceiptKey.receiptId same
  exact Text.append_ne_append rfl rfl (by decide) named

theorem pendingReceipt_ne_report (request : NewWorkCommand) (row : WorkCommandRow) (command : CommandKey) :
    (request.pendingReceipt row).key ≠ command.report := by
  intro same
  have named := congrArg ReceiptKey.receiptId same
  exact Text.append_ne_append rfl rfl (by decide) named

section
variable {position : Int}

theorem covers_updateTask {key : TaskKey} {set : WorkTaskRow → WorkTaskRow} {keeps : ∀ row, (set row).key = row.key}
    (mine : .task key ∈ held) : Covers look guards held (·.updateTask key set keeps) := by
  intro s view free
  cases view with
  | task other => exact (find?_update_one _ key other set keeps).trans (if_neg (ne_of_free Lock.task mine free))
  | _ => rfl

theorem covers_insertTask {row : WorkTaskRow} (mine : .task row.key ∈ held) :
    Covers look guards held (·.insertTask row) := by
  intro s view free
  cases view with
  | task => exact find?_insertOrIgnore_free Lock.task mine free
  | _ => rfl

theorem covers_advance {stream : Stream} (mine : .workHead stream ∈ held) :
    Covers look guards held (·.advance stream position) := by
  intro s view free
  cases view with
  | workHead other =>
    have apart : Row.key (⟨stream, position⟩ : StreamHead) ≠ other := ne_of_free Lock.workHead mine free
    simp only [look, advance, WorkTables.headPosition, WorkTables.advance, find?_put, if_neg apart]
  | _ => rfl

theorem covers_insertEvent {event : WorkEvent} (its : .event event.key.stream event.eventId ∈ held)
    (mine : .workHead event.key.stream ∈ held) : Covers look guards held (·.insertEvent event position) := by
  intro s view free
  cases view with
  | event stream eventId =>
    have apart : Row.key (⟨event, position⟩ : WorkTaskHistoryRow) ≠ (stream, eventId) := by
      rintro ⟨⟩
      exact free _ (mem_singleton_self _) its
    simp only [look, insertEvent, find?_insertOrIgnore, if_neg apart]
  | eventSlot stream eventId at_ =>
    have apart : event.key.stream ≠ stream := by
      rintro rfl
      exact free _ (mem_cons_of_mem _ (mem_singleton_self _)) mine
    simp only [look, insertEvent]
    rw [any_rows_insertOrIgnore]
    simp [WorkTaskHistoryRow.stream, apart]
  | _ => rfl

theorem covers_insertWait {row : WorkTaskWait} (mine : .wait row.key ∈ held) : Covers look guards held (·.insertWait row) := by
  intro s view free
  cases view with
  | wait => exact find?_insertOrIgnore_free Lock.wait mine free
  | _ => rfl

theorem covers_updateWait {key : WaitKey} {set : WorkTaskWait → WorkTaskWait} {keeps : ∀ row, (set row).key = row.key}
    (mine : .wait key ∈ held) : Covers look guards held (·.updateWait key set keeps) := by
  intro s view free
  cases view with
  | wait other => exact (find?_update_one _ key other set keeps).trans (if_neg (ne_of_free Lock.wait mine free))
  | _ => rfl

theorem covers_withClaims {key : ClaimKey} {change : DelegatedClaims → DelegatedClaims} (mine : .claim key ∈ held)
    (frame : ∀ claims other, other ≠ key → (change claims).find? other = claims.find? other) :
    Covers look guards held (·.withClaims change) := by
  intro s view free
  cases view with
  | claim other => exact frame s.claims other fun same => free _ (mem_singleton_self _) (same ▸ mine)
  | _ => rfl

theorem covers_insertSession {row : SupervisorSessionRow} (mine : .session row.key ∈ held) :
    Covers look guards held (·.insertSession row) := by
  intro s view free
  cases view with
  | session => exact find?_insertOrIgnore_free Lock.session mine free
  | _ => rfl

theorem covers_insertCommand {row : WorkCommandRow} (mine : .command row.key ∈ held) (its : .commandOf row.identity ∈ held)
    (unissued : row.directiveId = none) : Covers look guards held (·.insertCommand row) := by
  have none_issued (directive : DirectiveKey) : row.issued ≠ some directive := by
    unfold WorkCommandRow.issued
    rw [unissued]
    exact nofun
  intro s view free
  cases view with
  | command => exact find?_insertOrIgnore_free Lock.command mine free
  | commandOf identity =>
    have apart : row.identity ≠ identity := fun same => free _ mem_cons_self (same ▸ its)
    exact find?_rows_insertOrIgnore (by simp [apart])
  | commandSlot key identity =>
    have apart : row.key ≠ key := fun same => free _ mem_cons_self (same ▸ mine)
    have other : row.identity ≠ identity := fun same => free _ (mem_cons_of_mem _ (mem_singleton_self _)) (same ▸ its)
    exact congrArg (!·) (any_rows_insertOrIgnore (by simp [apart, other]))
  | issuer directive | issuerSlot key directive => exact find?_rows_insertOrIgnore (by simp [none_issued directive])
  | _ => rfl

theorem apart_of_commandLock {rows : List WorkCommandRow} {passes : WorkCommandRow → Bool} {key : CommandKey}
    (mine : .command key ∈ held) (free : ∀ guard ∈ commandLock (rows.find? passes), guard ∉ held) :
    ∀ row ∈ rows.find? passes, decide (row.key = key) = false := by
  intro row found
  rw [mem_def] at found
  rw [found] at free
  exact decide_eq_false fun same => free (.command row.key) (by simp [commandLock]) (same ▸ mine)

theorem covers_issue {key : CommandKey} {directiveId : String} (mine : .command key ∈ held)
    (its : .issuer ⟨key.tenantId, key.repositoryId, directiveId⟩ ∈ held) :
    Covers look guards held (·.issue key directiveId) := by
  intro s view free
  cases view with
  | command other =>
    have apart := ne_of_free Lock.command mine free
    exact (find?_update_one _ key other _ fun row => row.issue_key directiveId).trans (if_neg apart)
  | commandOf identity =>
    simp only [look, issue]
    refine find?_rows_update (apart_of_commandLock mine fun guard inside => free guard (mem_cons_of_mem _ inside)) ?_
    exact fun _ _ passing => passing
  | commandSlot other identity =>
    simp only [look, issue]
    exact congrArg (!·) (any_rows_update fun _ => rfl)
  | issuer directive =>
    simp only [look, issue]
    refine find?_rows_update (apart_of_commandLock mine fun guard inside => free guard (mem_cons_of_mem _ inside)) ?_
    rintro row selected passing
    have same : row.key = key := of_decide_eq_true selected
    have new : (⟨row.tenantId, row.repositoryId, directiveId⟩ : DirectiveKey) = directive :=
      some.inj (of_decide_eq_true passing)
    subst same new
    exact absurd its (free _ mem_cons_self)
  | issuerSlot other directive =>
    simp only [look, issue]
    refine find?_rows_update (apart_of_commandLock mine fun guard inside =>
      free guard (mem_cons_of_mem _ (mem_cons_of_mem _ inside))) ?_
    rintro row selected passing
    have same : row.key = key := of_decide_eq_true selected
    have new : (⟨row.tenantId, row.repositoryId, directiveId⟩ : DirectiveKey) = directive :=
      some.inj (of_decide_eq_true passing).2
    subst same new
    exact absurd its (free _ (mem_cons_of_mem _ mem_cons_self))
  | _ => rfl

theorem covers_insertReceipt {row : WorkCommandReceipt} (mine : .receipt row.toNewWorkCommandReceipt.key ∈ held)
    (its : .receiptOf row.commandKey row.receiptDigest ∈ held)
    (reports : ∀ command : CommandKey, row.toNewWorkCommandReceipt.key = command.report → .command command ∈ held) :
    Covers look guards held (·.insertReceipt row) := by
  intro s view free
  cases view with
  | report command =>
    have apart : Row.key row ≠ command.report := fun same => free _ (mem_singleton_self _) (reports command same)
    simp only [look, insertReceipt, find?_insertOrIgnore, if_neg apart]
  | receipt => exact find?_insertOrIgnore_free Lock.receipt mine free
  | receiptOf command digest =>
    have apart : ¬(row.commandKey = command ∧ row.receiptDigest = digest) := by
      rintro ⟨rfl, rfl⟩
      exact free _ (mem_singleton_self _) its
    exact find?_rows_insertOrIgnore (by simpa using apart)
  | receiptSlot key command digest =>
    have other : row.toNewWorkCommandReceipt.key ≠ key := fun same => free _ mem_cons_self (same ▸ mine)
    have apart : ¬(row.commandKey = command ∧ row.receiptDigest = digest) := by
      rintro ⟨rfl, rfl⟩
      exact free _ (mem_cons_of_mem _ (mem_singleton_self _)) its
    exact congrArg (!·) (any_rows_insertOrIgnore (decide_eq_false (not_or.mpr ⟨other, apart⟩)))
  | _ => rfl

theorem covers_insertDirective {row : DirectiveRecord} (mine : .directive row.directive.key ∈ held)
    (its : .directiveOf row.directive.stream row.directive.idempotencyKey ∈ held)
    (head : .directiveHead row.directive.stream ∈ held) : Covers look guards held (·.insertDirective row) := by
  intro s view free
  cases view with
  | directive => exact find?_insertOrIgnore_free Lock.directive mine free
  | directiveOf stream idempotencyKey =>
    have apart : ¬(row.directive.stream = stream ∧ row.directive.idempotencyKey = idempotencyKey) := by
      rintro ⟨rfl, rfl⟩
      exact free _ (mem_singleton_self _) its
    exact find?_rows_insertOrIgnore (by simpa using apart)
  | directiveSlot key stream idempotencyKey sequence =>
    have other : row.directive.key ≠ key := fun same => free _ mem_cons_self (same ▸ mine)
    have apart : row.directive.stream ≠ stream := fun same =>
      free _ (mem_cons_of_mem _ (mem_cons_of_mem _ (mem_singleton_self _))) (same ▸ head)
    exact congrArg (!·) (any_rows_insertOrIgnore (by simp [other, apart]))
  | _ => rfl

theorem covers_advanceDirectives {stream : DirectiveStream} (mine : .directiveHead stream ∈ held) :
    Covers look guards held (·.advanceDirectives stream position) := by
  intro s view free
  cases view with
  | directiveHead other =>
    have apart : Row.key (⟨stream, position⟩ : DirectiveStreamHead) ≠ other := ne_of_free Lock.directiveHead mine free
    simp only [look, directivePosition, advanceDirectives, find?_put, if_neg apart]
  | _ => rfl

theorem covers_insertDirectiveReceipt {row : DirectiveReceiptRecord}
    (mine : .directiveReceipt (row.receipt.directiveKey, row.receiptDigest) ∈ held) :
    Covers look guards held (·.insertDirectiveReceipt row) := by
  intro s view free
  cases view with
  | directiveReceipt => exact find?_insertOrIgnore_free Lock.directiveReceipt mine free
  | _ => rfl

end

end CommandStore

variable {platform : Platform} {now : Int}

section
open CommandStore Transaction
variable {ε : Type}
variable {creation : WorkCreation}

theorem allocateStreamPosition_within (stream : Stream) :
    (allocateStreamPosition stream : CommandTransaction ε Int).Within look guards held fun _ after =>
      .workHead stream ∈ after :=
  within_selectLocked fun _ => within_execute (covers_advance mem_cons_self) mem_cons_self

theorem insertEvent_within {database : ε} {event : WorkEvent} {position : Int} (mine : .workHead event.key.stream ∈ held) :
    (insertEvent database event position).Guarded look guards held := by
  refine within_selectIf fun s => ?_
  cases s.look (.eventSlot event.key.stream event.eventId position) with
  | false => trivial
  | true => exact ⟨covers_insertEvent mem_cons_self (mem_append_right _ mine), trivial⟩

theorem existingCreation_within : (existingCreation platform creation).Guarded look guards held := by
  refine within_select fun s => ?_
  cases s.look (.event creation.key.stream creation.eventId) with
  | none => trivial
  | some event =>
    dsimp only
    cases event.replay (workDigestsOf platform) creation with
    | error => trivial
    | ok =>
      refine within_select fun s => ?_
      cases s.look (.task creation.key) with
      | none => trivial
      | some row =>
        dsimp only
        cases row.replay (workDigestsOf platform) creation with
        | error | ok => trivial

theorem insertCreation_within {position : Int} (mine : .task creation.key ∈ held)
    (head : .workHead creation.key.stream ∈ held) :
    (insertCreation platform creation position now).Guarded look guards held :=
  within_execute (covers_insertTask mine) (insertEvent_within head)

theorem createTask_within : (createTask platform creation now).Guarded look guards held := by
  refine (allocateStreamPosition_within _).bind fun position after locked => ?_
  split
  · trivial
  refine within_selectIf fun s => ?_
  cases s.look (.task creation.key) with
  | some => trivial
  | none =>
    exact (insertCreation_within mem_cons_self (mem_cons_of_mem _ locked)).bind fun _ _ _ => trivial

theorem createNodeTask_within : (createNodeTask platform creation now).Guarded look guards held := by
  refine (allocateStreamPosition_within _).bind fun position after locked => ?_
  split
  · trivial
  refine within_selectIf fun s => ?_
  cases s.look (.task creation.key) with
  | some =>
    refine existingCreation_within.follow fun found after _ kept => ?_
    cases found with
    | none | some => trivial
  | none =>
    exact (insertCreation_within mem_cons_self (mem_cons_of_mem _ locked)).bind fun _ _ _ => trivial

theorem recordNodeTask_within : (recordNodeTask platform creation now).Guarded look guards held := by
  refine existingCreation_within.follow fun found after _ kept => ?_
  cases found with
  | none => exact createNodeTask_within
  | some => trivial

end

namespace WorkCommands
open CommandStore Transaction

theorem appendTaskEvent_within {event : WorkEvent} (mine : .task event.key ∈ held) :
    (appendTaskEvent event).Guarded look guards held := by
  refine (allocateStreamPosition_within _).follow fun position after locked kept => ?_
  exact (insertEvent_within locked).follow fun _ after _ more => ⟨covers_updateTask (more (kept mine)), trivial⟩

theorem lockTask_within {key : TaskKey} :
    (lockTask key).Within look guards held fun found after => found.isSome → .task key ∈ after := by
  refine within_selectIf fun s => ?_
  cases s.look (.task key) with
  | none => exact nofun
  | some row => exact fun _ => mem_cons_self

theorem changeTask_within {event : WorkEvent} {set : WorkTaskRow → WorkTaskRow} {keeps : ∀ row, (set row).key = row.key}
    (mine : .task event.key ∈ held) : (changeTask event set keeps).Guarded look guards held :=
  within_execute (covers_updateTask mine) (appendTaskEvent_within mine)

variable {command : WorkCommandRow}

section

theorem createWork_within {payload : CreateWorkPayload} :
    (createWork platform command now payload).Guarded look guards held := by
  unfold createWork
  dsimp only
  split
  · trivial
  refine within_selectIf fun s => ?_
  cases s.look (.task (payload.row (workDigestsOf platform) command.toWorkCommand now).key) with
  | some => trivial
  | none =>
    refine within_execute (covers_insertTask mem_cons_self) ?_
    exact (appendTaskEvent_within mem_cons_self).bind fun _ _ _ => trivial

theorem onExpectedTask_within {next : String → LockedTask → CommandTransaction WorkCommandStoreError ExecutionOutcome}
    (goes : ∀ taskId current held, .task (command.taskKey taskId) ∈ held →
      (next taskId current).Guarded look guards held) :
    (onExpectedTask command next).Guarded look guards held := by
  unfold onExpectedTask
  split
  next taskId _ _ _ =>
    refine lockTask_within.bind fun found after kept => ?_
    cases found with
    | none => trivial
    | some current =>
      dsimp only
      split
      · trivial
      · exact goes taskId current after (kept rfl)
  next => trivial

theorem routeWork_within {payload : RouteWorkPayload} :
    (routeWork platform command now payload).Guarded look guards held := by
  refine onExpectedTask_within fun taskId current held mine => ?_
  split
  · trivial
  · exact (changeTask_within mine).bind fun _ _ _ => trivial

theorem answerWait_within {payload : AnswerWaitPayload} :
    (answerWait platform command now payload).Guarded look guards held := by
  refine onExpectedTask_within fun taskId current held mine => ?_
  refine within_selectIf fun s => ?_
  cases s.look (.wait ⟨command.tenantId, command.repositoryId, payload.waitId⟩) with
  | none => trivial
  | some wait =>
    unfold answerFound
    by_cases its : wait.taskId = taskId
    swap
    · simp only [any_some, its, decide_false, Bool.false_eq_true, if_false, ne_eq, not_false_eq_true, if_true]
      trivial
    simp only [any_some, its, decide_true, if_true, ne_eq, not_true, if_false]
    split
    · trivial
    · refine within_execute (covers_updateWait mem_cons_self) ?_
      exact (changeTask_within (mem_cons_of_mem _ mine)).bind fun _ _ _ => trivial

theorem submitReview_within (payload : SubmitReviewPayload) :
    (submitReview platform command now payload).Guarded look guards held :=
  onExpectedTask_within fun _ _ _ mine => (changeTask_within mine).bind fun _ _ _ => trivial

theorem releaseTask_within {taskId : String} :
    (releaseTask platform command now taskId).Guarded look guards held := by
  refine lockTask_within.bind fun found after kept => ?_
  cases found with
  | none => trivial
  | some current => exact (changeTask_within (kept rfl)).bind fun _ _ _ => trivial

theorem releaseLease_within {payload : ReleaseLeasePayload} :
    (releaseLease platform command now payload).Guarded look guards held := by
  unfold releaseLease
  cases command.taskId with
  | none => trivial
  | some taskId =>
    refine within_selectIf fun s => ?_
    cases s.look (.claim ⟨command.tenantId, command.repositoryId, taskId⟩) with
    | none => trivial
    | some claim =>
      unfold releaseFound
      dsimp only [isSome]
      split
      · trivial
      split
      · trivial
      refine within_execute (covers_withClaims mem_cons_self ?_) (releaseTask_within)
      exact fun claims other apart => (find?_update_one claims _ other _ _).trans (if_neg apart.symm)

end

section
variable {platform : DirectivePlatform}
variable {directive : V1.AgentDirective} {expiresAt : Int}

theorem targetCapabilities_within :
    (targetCapabilities directive).Guarded look guards held := by
  refine within_select fun s => ?_
  cases s.look (.session directive.session) with
  | none => trivial
  | some session =>
    dsimp only
    split
    · trivial
    cases session.capabilities.validate with
    | error | ok => trivial

theorem replayOrConflict_within {record : DirectiveRecord} {digest : Bytes} :
    (DirectiveStore.replayOrConflict record digest).Guarded look guards held := by
  unfold DirectiveStore.replayOrConflict
  split
  all_goals trivial

theorem insertAt_within {position : Int} {createdAt : String} (head : .directiveHead directive.stream ∈ held) :
    (insertAt platform directive expiresAt now position createdAt).Guarded look guards held := by
  unfold insertAt
  dsimp only
  split
  · trivial
  refine within_selectIf fun s => ?_
  cases s.look (.directiveSlot (sequenced directive position createdAt).key
      (sequenced directive position createdAt).stream
      (sequenced directive position createdAt).idempotencyKey
      (sequenced directive position createdAt).sequence) with
  | true =>
    refine within_execute (covers_insertDirective mem_cons_self (mem_cons_of_mem _ mem_cons_self)
      (mem_append_right _ head)) ?_
    exact within_execute (covers_advanceDirectives (mem_append_right _ head)) trivial
  | false =>
    refine within_select fun s => ?_
    cases s.look (.directive (sequenced directive position createdAt).key) with
    | some record => exact replayOrConflict_within
    | none =>
      refine within_select fun s => ?_
      cases s.look (.directiveOf (sequenced directive position createdAt).stream
          (sequenced directive position createdAt).idempotencyKey) with
      | some record => exact replayOrConflict_within
      | none => trivial

theorem lockStream_within (stream : DirectiveStream) :
    (lockStream stream).Within look guards held fun _ after => .directiveHead stream ∈ after :=
  within_selectLocked fun _ => within_execute (covers_advanceDirectives mem_cons_self) mem_cons_self

theorem append_within :
    (append platform directive expiresAt now).Guarded look guards held := by
  refine (lockStream_within _).bind fun position after locked => ?_
  split
  · trivial
  cases Directive.formatTimestamp platform now with
  | error => trivial
  | ok createdAt =>
    exact insertAt_within locked

theorem enqueueInTransaction_within :
    (enqueueInTransaction platform directive now).Guarded look guards held := by
  unfold enqueueInTransaction
  cases Directive.validate platform directive now with
  | error => trivial
  | ok valid =>
    dsimp only
    refine targetCapabilities_within.bind fun capabilities after _ => ?_
    split
    · trivial
    refine within_select fun s => ?_
    cases s.look (.directive directive.key) with
    | some record => exact replayOrConflict_within
    | none =>
      refine within_select fun s => ?_
      cases s.look (.directiveOf directive.stream directive.idempotencyKey) with
      | some record => exact replayOrConflict_within
      | none => exact append_within

theorem recordReceipt_within {receipt : V1.DirectiveReceipt} :
    (recordReceipt platform receipt).Guarded look guards held := by
  refine within_select fun s => ?_
  cases s.look (.directive receipt.directiveKey) with
  | none => trivial
  | some directive =>
    dsimp only
    cases receipt.validate platform directive.directive directive.createdAt with
    | error => trivial
    | ok =>
      refine within_selectIf fun s => ?_
      cases s.look (.directiveReceipt (receipt.directiveKey, receipt.digest platform)) with
      | some => trivial
      | none => exact within_execute (covers_insertDirectiveReceipt mem_cons_self) trivial

theorem persistDirectiveId_within {directiveId : String} :
    (persistDirectiveId command directiveId).Guarded look guards held := by
  refine within_selectIf fun s => ?_
  cases s.look (.issuerSlot command.key ⟨command.tenantId, command.repositoryId, directiveId⟩) with
  | some => trivial
  | none =>
    refine ⟨covers_issue mem_cons_self (mem_cons_of_mem _ mem_cons_self), ?_⟩
    trivial

theorem issued_within {written : Except DirectiveStoreError DirectiveWriteOutcome} :
    (issued command written).Guarded look guards held := by
  unfold issued
  split
  · exact persistDirectiveId_within.bind fun _ _ _ => trivial
  all_goals trivial

theorem issue_within {target : DirectiveTarget} {kind : V1.DirectiveKind} {payload : V1.DirectivePayload} :
    (issue platform command now target kind payload expiresAt).Guarded look guards held := by
  unfold issue
  cases command.taskId with
  | none => trivial
  | some taskId =>
    dsimp only
    cases boundDirective platform command target kind payload taskId expiresAt with
    | error => trivial
    | ok directive =>
      exact enqueueInTransaction_within.result.bind fun _ _ _ => issued_within

theorem applyEffect_within {payload : WorkCommandPayload} :
    (applyEffect platform command now payload).Guarded look guards held := by
  cases payload with
  | createWork => exact createWork_within
  | routeWork => exact routeWork_within
  | releaseLease => exact releaseLease_within
  | answerWait => exact answerWait_within
  | submitReview payload => exact submitReview_within payload
  | assign | steer | pause | resume => exact issue_within
  | drain payload =>
    simp only [applyEffect, drain]
    cases rfc3339 platform payload.deadline with
    | error => trivial
    | ok => exact issue_within

end

section
variable {receipt : NewWorkCommandReceipt} {digest : Bytes}

theorem existingReceipt_within : (existingReceipt receipt digest).Guarded look guards held := by
  refine within_select fun s => ?_
  cases s.look (.receipt receipt.key) with
  | some => trivial
  | none => exact fun _ => trivial

theorem replayReceiptOrConflict_within {receipt : WorkCommandReceipt} :
    (replayReceiptOrConflict receipt digest).Guarded look guards held := by
  unfold replayReceiptOrConflict
  split
  all_goals trivial

section
variable (reports : ∀ command : CommandKey, receipt.key = command.report → .command command ∈ held)
include reports

theorem insertReceipt_within :
    (insertReceipt receipt digest now).Guarded look guards held := by
  refine within_selectIf fun s => ?_
  cases s.look (.receiptSlot receipt.key receipt.commandKey digest) with
  | true =>
    refine within_execute (covers_insertReceipt mem_cons_self (mem_cons_of_mem _ mem_cons_self) ?_) trivial
    exact fun command same => mem_append_right _ (reports command same)
  | false =>
    refine existingReceipt_within.follow fun found after _ kept => ?_
    cases found with
    | none => trivial
    | some => exact replayReceiptOrConflict_within

theorem appendDigested_within :
    (appendDigested receipt digest now).Guarded look guards held := by
  refine within_select fun s => ?_
  cases s.look (.command receipt.commandKey) with
  | none => trivial
  | some =>
    refine existingReceipt_within.follow fun found after _ kept => ?_
    cases found with
    | none => exact insertReceipt_within fun command same => kept (reports command same)
    | some => exact replayReceiptOrConflict_within

theorem appendReceiptInTransaction_within :
    (appendReceiptInTransaction platform receipt now).Guarded look guards held := by
  unfold appendReceiptInTransaction
  split
  · trivial
  · exact appendDigested_within reports

end

theorem applyTaskEffect_within : (applyTaskEffect platform command now).Guarded look guards held := by
  unfold applyTaskEffect
  cases command.taskId with
  | none => trivial
  | some taskId =>
    refine lockTask_within.bind fun found after kept => ?_
    cases found with
    | none => trivial
    | some current =>
      dsimp only
      split
      · trivial
      · exact (changeTask_within (kept rfl))

theorem noteAttempt_within : (noteAttempt platform command now).Guarded look guards held := by
  unfold noteAttempt
  cases command.taskId with
  | none => trivial
  | some taskId =>
    refine lockTask_within.bind fun found after kept => ?_
    cases found with
    | none => trivial
    | some current => exact (appendTaskEvent_within (kept rfl))

theorem reflect_within {outcome : WorkCommandOutcome} :
    (reflect platform command now outcome).Guarded look guards held := by
  unfold reflect
  split
  · exact applyTaskEffect_within
  · exact noteAttempt_within

theorem applyDirectiveReceipt_within {receipt : V1.DirectiveReceipt} :
    (applyDirectiveReceipt platform now receipt).Guarded look guards held := by
  unfold applyDirectiveReceipt
  cases receipt.terminalOutcome with
  | none => trivial
  | some outcome =>
    refine within_selectIf fun s => ?_
    cases s.look (.issuer receipt.directiveKey) with
    | none => trivial
    | some command =>
      refine within_selectLocked fun s => ?_
      have mine : Lock.command command.key ∈ guards (.report command.key) (s.look (.report command.key)) ++
          (guards (.issuer receipt.directiveKey) (some command) ++ held) := mem_cons_self
      cases s.look (.report command.key) with
      | some => trivial
      | none =>
        refine reflect_within.follow fun _ after _ kept => ?_
        refine (appendReceiptInTransaction_within fun other same => ?_).bind fun _ _ _ => trivial
        rw [← report_injective (show command.key.report = other.report from same)]
        exact kept mine

end

section
variable {request : NewWorkCommand}

theorem existingCommand_within : (existingCommand platform request).Guarded look guards held := by
  refine within_select fun s => ?_
  cases s.look (.command ⟨request.tenantId, request.repositoryId, request.assignedCommandId platform⟩) with
  | some => trivial
  | none => exact fun _ => trivial

theorem replayRequest_within {command : WorkCommandRow} {digest : Bytes} :
    (replayOrConflict command digest).Guarded look guards held := by
  unfold replayOrConflict
  split
  all_goals trivial

theorem requireTask_within : (requireTask request).Guarded look guards held := by
  unfold requireTask
  cases request.taskId with
  | none => trivial
  | some taskId =>
    refine within_select fun s => ?_
    cases s.look (.task ⟨request.tenantId, request.repositoryId, taskId⟩) with
    | none | some => trivial

theorem insertCommand_within {digest : Bytes} :
    (insertCommand platform request digest now).Guarded look guards held := by
  unfold insertCommand
  dsimp only
  refine within_selectIf fun s => ?_
  cases s.look (.commandSlot (request.row platform digest now).key (request.row platform digest now).identity) with
  | true =>
    refine requireTask_within.follow fun _ after _ kept => ?_
    exact within_execute (covers_insertCommand (kept mem_cons_self) (kept (mem_cons_of_mem _ mem_cons_self)) rfl)
      trivial
  | false =>
    refine existingCommand_within.follow fun found after _ kept => ?_
    cases found with
    | none => trivial
    | some => exact replayRequest_within

theorem recordRequest_within : (recordRequest platform request now).Guarded look guards held := by
  unfold recordRequest
  split
  · trivial
  refine existingCommand_within.follow fun found after _ kept => ?_
  cases found with
  | none => exact insertCommand_within
  | some => exact replayRequest_within

end

section
variable {platform : DirectivePlatform} {payload : WorkCommandPayload}

theorem confirmedOutcome_within :
    (confirmedOutcome platform command payload now).Guarded look guards held := by
  unfold confirmedOutcome
  split
  · trivial
  split
  · trivial
  cases payload.digest platform.toPlatform with
  | error => trivial
  | ok digest =>
    dsimp only
    split
    · exact applyEffect_within
    · trivial

theorem executeConfirmed_within :
    (executeConfirmed platform command payload now).Guarded look guards held := by
  refine within_select fun s => ?_
  cases s.look (.receipt ⟨command.tenantId, command.repositoryId, command.confirmReceiptId⟩) with
  | some => trivial
  | none =>
    refine confirmedOutcome_within.bind fun _ after _ => ?_
    refine appendReceiptInTransaction_within fun other same => ?_
    exact absurd same (confirmReceipt_ne_report _ _ _ _)

end

end WorkCommands

namespace CommandCall
open CommandStore Transaction

theorem onClaim_within {call : ClaimCall} {now : Int} : (onClaim call now).Guarded look guards held := by
  unfold onClaim
  cases call.validate with
  | error => trivial
  | ok =>
    refine within_selectLocked fun s => ?_
    cases found : s.look (.claim call.key) with
    | none =>
      refine within_execute (covers_withClaims mem_cons_self fun claims other apart => ?_) trivial
      cases call with
      | delegate request => exact (find?_put _ _ _).trans (if_neg apart.symm)
      | recover | release | renew | park | answer => rfl
    | some row =>
      dsimp only
      have named : row.key = call.key := (mem_of_find? (found : s.claims.find? call.key = some row)).2
      cases settled : call.found now row with
      | error => trivial
      | ok result =>
        obtain ⟨after, answer⟩ := result
        have kept : after.key = call.key := by
          rcases call.found_settles now row with ⟨_, _, left, _⟩ | ⟨_, ⟨_, failed⟩ | ⟨_, same, _⟩⟩
          · cases left.symm.trans settled
            rw [ClaimCall.left_key, named]
          · cases failed.symm.trans settled
          · cases same.symm.trans settled
            exact named
        refine within_execute (covers_withClaims mem_cons_self fun claims other apart => ?_) trivial
        exact (find?_put _ _ _).trans (if_neg fun same => apart (same.symm.trans kept))

theorem confirmation_within {platform : DirectivePlatform} {principal : VerifiedWorkCommandPrincipal} {key : CommandKey}
    {payload : WorkCommandPayload} {now : Int} :
    (confirmation platform principal key payload now).Guarded look guards held := by
  refine within_select fun s => ?_
  cases s.look (.command key) with
  | none => trivial
  | some command =>
    unfold confirmCommand
    dsimp only
    split
    · trivial
    · exact WorkCommands.executeConfirmed_within.bind fun _ _ _ => trivial

theorem insertOnce_within {view : View} {taken : view.Value → Bool} {update : CommandStore → CommandStore}
    (covers : ∀ value held, taken value = false → Covers look guards (guards view value ++ held) update) :
    (insertOnce view taken update).Guarded look guards held := by
  refine within_selectIf fun s => ?_
  cases here : taken (s.look view) with
  | true => trivial
  | false => exact within_execute (covers (s.look view) held here) trivial

theorem program_within (platform : DirectivePlatform) (call : CommandCall) :
    (program platform call).Within look guards [] fun _ _ => True := by
  cases call with
  | createTask => exact (within_mapError.mpr createTask_within).bind fun _ _ _ => trivial
  | recordNodeTask => exact (within_mapError.mpr recordNodeTask_within).bind fun _ _ _ => trivial
  | submit principal request =>
    simp only [program]
    cases principal.refusalFor request with
    | some => trivial
    | none => exact (within_mapError.mpr WorkCommands.recordRequest_within).bind fun _ _ _ => trivial
  | recordPending request command =>
    refine (within_mapError.mpr (WorkCommands.appendReceiptInTransaction_within fun other same => ?_)).bind fun _ _ _ => trivial
    exact absurd same (pendingReceipt_ne_report _ _ _)
  | confirm principal key payload now =>
    exact (within_mapError.mpr confirmation_within).bind fun _ _ _ => trivial
  | applyDirectiveReceipt => exact (within_mapError.mpr WorkCommands.applyDirectiveReceipt_within).bind fun _ _ _ => trivial
  | enqueue => exact (within_mapError.mpr WorkCommands.enqueueInTransaction_within).bind fun _ _ _ => trivial
  | recordDirectiveReceipt => exact (within_mapError.mpr WorkCommands.recordReceipt_within).bind fun _ _ _ => trivial
  | claim => exact (within_mapError.mpr onClaim_within).bind fun _ _ _ => trivial
  | ask => exact insertOnce_within fun _ _ _ => covers_insertWait mem_cons_self
  | recordSession => exact insertOnce_within fun _ _ _ => covers_insertSession mem_cons_self

end CommandCall

end MindLeak.Ackplane
