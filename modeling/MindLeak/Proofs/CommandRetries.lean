import MindLeak.Proofs.DirectiveStreams
import MindLeak.Proofs.TerminalTasks

/-! A request, a directive and a node's creation that are sent again: what each comes to in any later
store, and what another under the same key comes to. -/

namespace MindLeak.Ackplane

open CommandStore WorkCommands Table Directive Option

section
variable {ε α β : Type} {error : ε}

theorem bind_ne_error {first : Except ε α} {next : α → Except ε β} (one : first ≠ .error error) (rest : ∀ value, next value ≠ .error error) :
    (first >>= next) ≠ .error error := by
  cases first with
  | error => exact fun same => one (congrArg Except.error (Except.error.inj same))
  | ok value => exact rest value

theorem refuseIf_ne_error {bad : Prop} [Decidable bad] {other : ε} (apart : other ≠ error) : refuseIf bad other ≠ .error error := by
  unfold refuseIf
  split
  · exact fun same => apart (Except.error.inj same)
  · exact nofun

theorem past_refusal {bad : Prop} [Decidable bad] {other : ε} {next : Except ε β} (apart : other ≠ error) (rest : next ≠ .error error) :
    (refuseIf bad other >>= fun _ => next) ≠ .error error :=
  bind_ne_error (refuseIf_ne_error apart) fun _ => rest

theorem forM_ne_error {items : List α} {check : α → Except ε Unit} (each : ∀ item, check item ≠ .error error) :
    items.forM check ≠ .error error := by
  induction items with
  | nil => exact nofun
  | cons item rest ih => exact bind_ne_error (each item) fun _ => ih

end

variable {platform : DirectivePlatform} {t written : CommandStore} {now : Int}

section
variable {request other : NewWorkCommand} {row : WorkCommandRow} {digest : Bytes}

theorem validate_ne_conflict : request.validate now ≠ .error .idempotencyConflict := by
  refine bind_ne_error (forM_ne_error fun _ => refuseIf_ne_error nofun) fun _ => ?_
  refine bind_ne_error (forM_ne_error fun _ => refuseIf_ne_error nofun) fun _ => ?_
  refine past_refusal nofun (past_refusal nofun ?_)
  refine past_refusal nofun (past_refusal nofun ?_)
  refine bind_ne_error ?_ fun _ => refuseIf_ne_error nofun
  unfold NewWorkCommand.validateTarget
  split <;> exact refuseIf_ne_error nofun

variable (written) in
theorem recordRequest_exec (valid : request.validate now = .ok ()) (hashed : request.digest platform.toPlatform = .ok digest)
    (found : t.commands.find? ⟨request.tenantId, request.repositoryId, request.assignedCommandId platform.toPlatform⟩ = some row) :
    (recordRequest platform.toPlatform request now).exec look t written = (replayOrConflict row digest).exec look t written := by
  have there : t.look (.command ⟨request.tenantId, request.repositoryId, request.assignedCommandId platform.toPlatform⟩) = some row := found
  rw [recordRequest, valid]
  simp only [bind, Except.bind, hashed, existingCommand, Transaction.exec_bind, select, Transaction.exec_read, there, Transaction.exec_pure]

theorem recordRequest_invalid {error : WorkCommandStoreError} (invalid : request.validate now = .error error) :
    (recordRequest platform.toPlatform request now).exec look t written = .error error := by
  rw [recordRequest, invalid]
  rfl

theorem bytes_ok (dated : 0 ≤ request.expiresAt) : ∃ bytes, request.bytes = .ok bytes := by
  simp only [NewWorkCommand.bytes, appendTimestamp, if_neg (Int.not_lt.mpr dated)]
  exact ⟨_, rfl⟩

theorem bytes_undated (undated : request.expiresAt < 0) : request.bytes = .error .invalidTimestamp := by
  simp only [NewWorkCommand.bytes, appendTimestamp, if_pos undated]
  rfl

theorem recordRequest_undated (valid : request.validate now = .ok ()) (undated : request.expiresAt < 0) :
    (recordRequest platform.toPlatform request now).exec look t written = .error .invalidTimestamp := by
  rw [recordRequest, valid, NewWorkCommand.digest, bytes_undated undated]
  rfl

theorem assignedCommandId_eq {platform : Platform} (same : NewWorkCommand.identity other = NewWorkCommand.identity request) :
    (⟨other.tenantId, other.repositoryId, other.assignedCommandId platform⟩ : CommandKey) =
      ⟨request.tenantId, request.repositoryId, request.assignedCommandId platform⟩ := by
  obtain ⟨tenantId, repositoryId, principalId, key⟩ := CommandIdentity.mk.inj same
  rw [NewWorkCommand.assignedCommandId, NewWorkCommand.assignedCommandId, tenantId, repositoryId, principalId, key]

def NewWorkCommand.Unlike (platform : Platform) (request other : NewWorkCommand) : Prop :=
  ∀ bytes bytes', request.bytes = .ok bytes → other.bytes = .ok bytes' → platform.sha256 bytes = platform.sha256 bytes' → bytes = bytes'

/-- A request under the key of one that was accepted gets the first one's record where it is the same, and a
conflict where it is not. -/
def RetriesRequest (platform : DirectivePlatform) (t : CommandStore) (request : NewWorkCommand) (row : WorkCommandRow)
    (principal : VerifiedWorkCommandPrincipal) (other : NewWorkCommand) (now : Int) : Prop :=
  (other = request → ∃ directiveId, (CommandCall.program platform (.submit principal other now)).attempt look t =
      (.ok (.submitted ⟨{ row with directiveId }, true⟩), t)) ∧
    (other ≠ request → (CommandCall.program platform (.submit principal other now)).attempt look t =
      (.error (.command .idempotencyConflict), t))

theorem request_retried {principal : VerifiedWorkCommandPrincipal} {now' : Int} {directiveId : Option String}
    (valid : request.validate now = .ok ()) (hashed : request.digest platform.toPlatform = .ok digest)
    (stored : row.requestDigest = digest)
    (there : t.commands.find? ⟨request.tenantId, request.repositoryId, request.assignedCommandId platform.toPlatform⟩ =
      some { row with directiveId })
    (same : NewWorkCommand.identity other = NewWorkCommand.identity request) (entitled : principal.refusalFor other = none)
    (typed : request.Typed) (typed' : other.Typed) (unlike : request.Unlike platform.toPlatform other) :
    RetriesRequest platform t request row principal other now' ↔ other.validate now' = .ok () ∧ 0 ≤ other.expiresAt := by
  have refused {error : WorkCommandStoreError} (failed : (recordRequest platform.toPlatform other now').exec look t t = .error error) :
      (CommandCall.program platform (.submit principal other now')).attempt look t = (.error (.command error), t) := by
    refine Transaction.attempt_failed ?_
    simp only [CommandCall.program, entitled, Transaction.bind_eq, Transaction.exec_bind, Transaction.exec_mapError, failed]
    rfl
  obtain ⟨bytes, bytesOf, hashes⟩ := bind_ok hashed
  constructor
  · intro retries
    have unfailing {error : WorkCommandStoreError} (other_ : error ≠ .idempotencyConflict)
        (failed : (recordRequest platform.toPlatform other now').exec look t t = .error error) : False := by
      by_cases its : other = request
      · obtain ⟨_, replayed⟩ := retries.1 its
        cases (refused failed).symm.trans replayed
      · cases (refused failed).symm.trans (retries.2 its)
        exact other_ rfl
    have valid' : other.validate now' = .ok () := by
      cases checked : other.validate now' with
      | ok => rfl
      | error error =>
        refine (unfailing (fun conflict => ?_) (recordRequest_invalid checked)).elim
        exact validate_ne_conflict (conflict ▸ checked)
    refine ⟨valid', Int.not_lt.mp fun undated => ?_⟩
    refine unfailing ?_ (recordRequest_undated valid' undated)
    simp
  · rintro ⟨valid', dated⟩
    obtain ⟨bytes', bytesOf'⟩ := bytes_ok dated
    have hashed' : other.digest platform.toPlatform = .ok (platform.sha256 bytes') := by
      rw [NewWorkCommand.digest, bytesOf']
      rfl
    rw [← assignedCommandId_eq same] at there
    have found := recordRequest_exec t valid' hashed' there
    refine ⟨fun its => ⟨directiveId, ?_⟩, fun apart => refused ?_⟩
    · subst its
      cases bytesOf.symm.trans bytesOf'
      refine Transaction.attempt_ok ?_
      simp only [CommandCall.program, entitled, Transaction.bind_eq, Transaction.exec_bind, Transaction.exec_mapError, found, replayOrConflict]
      rw [if_neg (not_not.mpr (stored.trans (Except.ok.inj hashes).symm))]
      rfl
    · rw [found, replayOrConflict, if_pos]
      · rfl
      intro collides
      have alike := unlike bytes bytes' bytesOf bytesOf' ((Except.ok.inj hashes).trans (stored.symm.trans collides))
      subst alike
      exact apart (NewWorkCommand.eq_of_bytes (NewWorkCommand.countable valid' typed') (NewWorkCommand.countable valid typed) bytesOf' bytesOf)

end

section
variable {directive other : V1.AgentDirective} {record : DirectiveRecord} {requirement : DirectiveRequirement}
  {expiresAt : Int}

theorem requireIdentifier_ne_conflict (field value : String) : Directive.requireIdentifier field value ≠ .error .idempotencyConflict :=
  refuseIf_ne_error nofun

theorem parseTimestamp_ne_conflict {platform : EnrollmentPlatform} (value : String) :
    parseTimestamp platform value ≠ .error .idempotencyConflict := by
  unfold parseTimestamp
  split
  · exact fun same => by cases same
  split
  next => exact fun same => by cases same
  next => exact fun same => by cases same

theorem directive_validate_ne_conflict : validate platform directive now ≠ .error .idempotencyConflict := by
  refine bind_ne_error (forM_ne_error fun _ => requireIdentifier_ne_conflict _ _) fun _ => ?_
  refine past_refusal nofun ?_
  refine bind_ne_error (forM_ne_error fun _ => refuseIf_ne_error nofun) fun _ => ?_
  refine bind_ne_error (forM_ne_error fun _ => ?_) fun _ => ?_
  · exact past_refusal nofun (forM_ne_error fun _ => requireIdentifier_ne_conflict _ _)
  refine past_refusal nofun (past_refusal nofun (past_refusal nofun ?_))
  split
  · exact nofun
  refine past_refusal nofun (past_refusal nofun ?_)
  refine past_refusal nofun (bind_ne_error (parseTimestamp_ne_conflict _) fun _ => ?_)
  exact past_refusal nofun nofun

theorem enqueue_invalid {error : DirectiveStoreError} (invalid : validate platform directive now = .error error) :
    (DirectiveStore.enqueueInTransaction platform directive now).exec look t written = .error error := by
  rw [DirectiveStore.enqueueInTransaction, invalid]
  rfl

theorem targetCapabilities_exec : (DirectiveStore.targetCapabilities directive).exec look t written =
    match t.sessions.find? directive.session with
    | none => .error .unknownSupervisorSession
    | some session =>
      if session.nodeId ≠ directive.targetNodeId then .error .targetNodeMismatch
      else session.capabilities.validate.mapError .supervisor >>= fun _ => .ok (session.capabilities, written) := by
  simp only [DirectiveStore.targetCapabilities, Transaction.bind_eq, Transaction.exec_bind, select, Transaction.exec_read, look, Except.bind]
  cases t.sessions.find? directive.session with
  | none => rfl
  | some session =>
    by_cases node : session.nodeId = directive.targetNodeId
    · simp only [node, ne_eq, not_true_eq_false, if_false]
      cases session.capabilities.validate <;> rfl
    · simp only [node, ne_eq, not_false_eq_true, if_true]
      rfl

theorem enqueue_incapable (valid : validate platform directive now = .ok (requirement, expiresAt))
    (incapable : ¬t.Capable directive requirement) : ∃ error, error ≠ .idempotencyConflict ∧
      (DirectiveStore.enqueueInTransaction platform directive now).exec look t written = .error error := by
  rw [DirectiveStore.enqueueInTransaction, valid]
  simp only [Transaction.bind_eq, Transaction.exec_bind, targetCapabilities_exec]
  cases found : t.sessions.find? directive.session with
  | none => exact ⟨.unknownSupervisorSession, nofun, rfl⟩
  | some session =>
    by_cases node : session.nodeId = directive.targetNodeId
    · cases checked : session.capabilities.validate with
      | error error =>
        refine ⟨.supervisor error, nofun, ?_⟩
        simp only [node, checked, ne_eq, not_true_eq_false, if_false, Except.mapError, Except.bind, bind]
      | ok =>
        refine ⟨.capabilityMissing, nofun, ?_⟩
        have missing : requirement.capability ∉ session.capabilities.supportedDirectives :=
          fun advertised => incapable ⟨session, found, node, checked, advertised⟩
        simp only [node, checked, missing, ne_eq, not_true_eq_false, not_false_eq_true, if_false, if_true, Except.mapError, Except.bind, bind,
          Transaction.exec_fail]
    · refine ⟨.targetNodeMismatch, nofun, ?_⟩
      simp only [node, ne_eq, not_false_eq_true, if_true, Except.bind]

variable (written) in
theorem enqueue_found (valid : validate platform directive now = .ok (requirement, expiresAt))
    (capable : t.Capable directive requirement) (found : t.directives.find? directive.key = some record ∨
      t.directives.find? directive.key = none ∧ t.look (.directiveOf directive.stream directive.idempotencyKey) = some record) :
    (DirectiveStore.enqueueInTransaction platform directive now).exec look t written =
      (DirectiveStore.replayOrConflict record (requestDigest platform directive)).exec look t written := by
  obtain ⟨session, addressed, node, checked, advertised⟩ := capable
  rw [DirectiveStore.enqueueInTransaction, valid]
  simp only [Transaction.exec_bind, targetCapabilities_exec, addressed, node, checked, advertised, ne_eq,
    not_true_eq_false, if_false, Except.mapError, Except.bind, bind, select, Transaction.exec_read]
  rcases found with there | ⟨absent, there⟩
  · have there : t.look (.directive directive.key) = some record := there
    simp only [there]
  · have absent : t.look (.directive directive.key) = none := absent
    simp only [absent, there, Transaction.exec_bind, Transaction.exec_read, Except.bind]

def CommandStore.Unlike (platform : DirectivePlatform) (t : CommandStore) (directive : V1.AgentDirective) : Prop :=
  ∀ row ∈ t.directives.rows, Directive.requestDigest platform row.requested = Directive.requestDigest platform directive →
    row.requested = directive

def V1.AgentDirective.SameKey (directive other : V1.AgentDirective) : Prop :=
  directive.key = other.key ∨ directive.stream = other.stream ∧ directive.idempotencyKey = other.idempotencyKey

/-- A directive under a key of one that was accepted gets that one's record where it is the same, and a conflict
where it is not. -/
def RetriesDirective (platform : DirectivePlatform) (t : CommandStore) (original : V1.AgentDirective) (record : DirectiveRecord)
    (directive : V1.AgentDirective) (now : Int) : Prop :=
  (directive = original →
      (CommandCall.program platform (.enqueue directive now)).attempt look t = (.ok (.enqueued ⟨record, true⟩), t)) ∧
    (directive ≠ original →
      (CommandCall.program platform (.enqueue directive now)).attempt look t = (.error (.directive .idempotencyConflict), t))

theorem found_by_key (sequenced : t.Sequenced platform) (member : record ∈ t.directives.rows) (same : directive.SameKey record.requested) :
    ∃ found, (t.directives.find? directive.key = some found ∨ t.directives.find? directive.key = none ∧
        t.look (.directiveOf directive.stream directive.idempotencyKey) = some found) ∧
      found ∈ t.directives.rows ∧ (directive.key = record.requested.key ∨ found.requested = directive → found = record) := by
  have stored := find?_of_mem member
  cases there : t.directives.find? directive.key with
  | some found =>
    obtain ⟨inside, named⟩ := mem_of_find? there
    have keyed (key : directive.key = record.requested.key) : found = record := by
      rw [key] at there
      exact some.inj (there.symm.trans stored)
    refine ⟨found, .inl rfl, inside, fun either => either.elim keyed fun its => ?_⟩
    rcases same with key | ⟨stream, idempotencyKey⟩
    · exact keyed key
    · refine sequenced.alone found inside record member ?_ ?_
      · exact (congrArg V1.AgentDirective.stream its).trans stream
      · exact (congrArg V1.AgentDirective.idempotencyKey its).trans idempotencyKey
  | none =>
    rcases same with key | ⟨stream, idempotencyKey⟩
    · rw [key] at there
      cases there.symm.trans stored
    · have found : t.look (.directiveOf directive.stream directive.idempotencyKey) = some record := by
        have some : (t.directives.rows.find? fun row => row.directive.stream = directive.stream ∧
            row.directive.idempotencyKey = directive.idempotencyKey).isSome :=
          List.find?_isSome.mpr ⟨record, member, decide_eq_true ⟨stream.symm, idempotencyKey.symm⟩⟩
        obtain ⟨other, here⟩ := isSome_iff_exists.mp some
        have its := List.find?_some here
        rw [decide_eq_true_eq] at its
        rw [sequenced.alone other (List.mem_of_find?_eq_some here) record member (its.1.trans stream) (its.2.trans idempotencyKey)] at here
        exact here
      exact ⟨record, .inr ⟨rfl, found⟩, member, fun _ => rfl⟩

theorem directive_retried (sequenced : t.Sequenced platform) (member : record ∈ t.directives.rows) (same : directive.SameKey record.requested)
    (unlike : t.Unlike platform directive) :
    RetriesDirective platform t record.requested record directive now ↔ ∃ requirement expiresAt,
      validate platform directive (normalizeTimestamp now) = .ok (requirement, expiresAt) ∧
        t.Capable directive requirement := by
  have refused {error : DirectiveStoreError}
      (failed : (DirectiveStore.enqueueInTransaction platform directive (normalizeTimestamp now)).exec look t t = .error error) :
      (CommandCall.program platform (.enqueue directive now)).attempt look t = (.error (.directive error), t) := by
    refine Transaction.attempt_failed ?_
    simp only [CommandCall.program, DirectiveStore.enqueue, Transaction.bind_eq, Transaction.exec_bind, Transaction.exec_mapError, failed]
    rfl
  constructor
  · intro retries
    have unfailing {error : DirectiveStoreError} (other : error ≠ .idempotencyConflict)
        (failed : (DirectiveStore.enqueueInTransaction platform directive (normalizeTimestamp now)).exec look t t = .error error) :
        False := by
      by_cases its : directive = record.requested
      · cases (refused failed).symm.trans (retries.1 its)
      · cases (refused failed).symm.trans (retries.2 its)
        exact other rfl
    cases checked : validate platform directive (normalizeTimestamp now) with
    | error error => exact (unfailing (fun conflict => directive_validate_ne_conflict (conflict ▸ checked)) (enqueue_invalid checked)).elim
    | ok passed =>
      by_cases capable : t.Capable directive passed.1
      · exact ⟨passed.1, passed.2, rfl, capable⟩
      · obtain ⟨error, other, failed⟩ := enqueue_incapable checked capable
        exact (unfailing other failed).elim
  · rintro ⟨requirement, expiresAt, valid, capable⟩
    obtain ⟨found, there, inside, its⟩ := found_by_key sequenced member same
    have exec := enqueue_found t valid capable there
    have stored := (sequenced.checked found inside).digest
    refine ⟨fun retried => ?_, fun apart => refused ?_⟩
    · have same : found = record := its (.inl (congrArg V1.AgentDirective.key retried))
      subst same
      refine Transaction.attempt_ok ?_
      simp only [CommandCall.program, DirectiveStore.enqueue, Transaction.bind_eq, Transaction.exec_bind, Transaction.exec_mapError, exec,
        DirectiveStore.replayOrConflict]
      rw [if_neg (not_not.mpr (stored.trans (congrArg (requestDigest platform) retried.symm)))]
      rfl
    · rw [exec, DirectiveStore.replayOrConflict, if_pos]
      · rfl
      · intro collides
        have alike := unlike found inside (stored.symm.trans collides)
        exact apart (its (.inr alike) ▸ alike.symm)

end

section
variable {creation other : WorkCreation} {row : WorkTaskRow} {event : WorkTaskHistoryRow}

theorem recordNodeTask_exec (platform : DirectivePlatform) (written : CommandStore) (now : Int)
    (there : t.work.history.find? (creation.key.stream, creation.eventId) = some event) :
    (recordNodeTask platform.toPlatform creation now).exec look t written =
      (event.replay (workDigestsOf platform.toPlatform) creation).bind fun _ =>
        match t.work.tasks.find? creation.key with
        | none => .error creation.conflict
        | some row => (row.replay (workDigestsOf platform.toPlatform) creation).map fun outcome => (outcome, written) := by
  simp only [recordNodeTask, existingCreation, Transaction.bind_eq, Transaction.exec_bind, select, Transaction.exec_read, there, look, Except.bind]
  cases event.replay (workDigestsOf platform.toPlatform) creation with
  | error => rfl
  | ok =>
    simp only [Transaction.exec_bind, Transaction.exec_read, look, Except.bind]
    cases t.work.tasks.find? creation.key with
    | none => rfl
    | some row =>
      dsimp only
      cases row.replay (workDigestsOf platform.toPlatform) creation <;> rfl

/-- A creation under the id of an event that is there gets its task where it is the same, and a conflict where it is not. -/
def RetriesCreation (platform : DirectivePlatform) (t : CommandStore) (creation other : WorkCreation) (now : Int) : Prop :=
  (other = creation → ∃ row task, t.work.tasks.find? creation.key = some row ∧ row.toTask = .ok task ∧
      (CommandCall.program platform (.recordNodeTask other now)).attempt look t = (.ok (.recorded ⟨task, true⟩), t)) ∧
    (other ≠ creation →
      (CommandCall.program platform (.recordNodeTask other now)).attempt look t = (.error (.work other.conflict), t))

theorem event_replay (its : event.event = creation.event (workDigestsOf platform.toPlatform) now) (same : other.key.stream = creation.key.stream) :
    event.replay (workDigestsOf platform.toPlatform) other = .error other.conflict ∨
      event.replay (workDigestsOf platform.toPlatform) other = .ok () ∧ other.key = creation.key ∧
        other.task.publishedBy = creation.task.publishedBy ∧
          other.task.sourceDigest (workDigestsOf platform.toPlatform) = creation.task.sourceDigest (workDigestsOf platform.toPlatform) := by
  unfold WorkTaskHistoryRow.replay
  rw [its]
  split
  · exact .inl rfl
  rename_i passes
  simp only [WorkCreation.event, not_or, ne_eq, not_not] at passes
  obtain ⟨taskId, _, _, _, actor, digest⟩ := passes
  refine .inr ⟨rfl, ?_, actor.symm, digest.symm⟩
  obtain ⟨tenantId, repositoryId⟩ := Stream.mk.inj same
  exact TaskKey.mk.injEq .. |>.mpr ⟨tenantId, repositoryId, taskId.symm⟩

theorem event_replay_self (its : event.event = creation.event (workDigestsOf platform.toPlatform) now) :
    event.replay (workDigestsOf platform.toPlatform) creation = .ok () := by
  unfold WorkTaskHistoryRow.replay
  rw [its]
  refine if_neg ?_
  simp [WorkCreation.event, WorkCreation.key, NewWorkTask.key]

theorem fromI16_open {value : Int} {state : WorkTaskState} (known : WorkTaskState.fromI16 value = .ok state) :
    state = .open ↔ value = WorkTaskState.open.asI16 := by
  unfold WorkTaskState.fromI16 at known
  split at known <;> cases known <;> decide

theorem row_replay (published : row.published = (creation.task, creation.task.sourceDigest (workDigestsOf platform.toPlatform)))
    (known : StateKnown row.state) :
    ∃ task, row.toTask = .ok task ∧ row.replay (workDigestsOf platform.toPlatform) creation =
      if row.state = WorkTaskState.open.asI16 then .ok ⟨task, true⟩ else .error creation.conflict := by
  obtain ⟨state, known⟩ := known
  obtain ⟨content, digest⟩ := Prod.mk.inj published
  have opened := fromI16_open known
  rw [WorkTaskRow.replay, WorkTaskRow.toTask, known]
  refine ⟨_, rfl, ?_⟩
  simp only [bind, Except.bind, ← content, digest, opened, ne_eq, not_true_eq_false, false_or, or_false, ite_not]

theorem row_replay_other (published : row.published = (creation.task, creation.task.sourceDigest (workDigestsOf platform.toPlatform)))
    (known : StateKnown row.state) (key : other.key = creation.key) (publisher : other.task.publishedBy = creation.task.publishedBy)
    (eventId : other.eventId = creation.eventId) (apart : other ≠ creation) :
    row.replay (workDigestsOf platform.toPlatform) other = .error other.conflict := by
  obtain ⟨state, known⟩ := known
  obtain ⟨content, _⟩ := Prod.mk.inj published
  rw [WorkTaskRow.replay, WorkTaskRow.toTask, known]
  refine if_pos (by_contra fun passes => apart ?_)
  simp only [not_or, not_not, ne_eq] at passes
  obtain ⟨_, title, acceptance, goalId, _, paths, symbols, _⟩ := passes
  have tenantId : other.task.tenantId = row.key.tenantId :=
    (congrArg TaskKey.tenantId key).trans (congrArg NewWorkTask.tenantId content).symm
  have repositoryId : other.task.repositoryId = row.key.repositoryId :=
    (congrArg TaskKey.repositoryId key).trans (congrArg NewWorkTask.repositoryId content).symm
  have taskId : other.task.taskId = row.key.taskId := (congrArg TaskKey.taskId key).trans (congrArg NewWorkTask.taskId content).symm
  have same : other.task = creation.task := by
    change (⟨other.task.tenantId, other.task.repositoryId, other.task.taskId, other.task.title, other.task.acceptance, other.task.goalId,
      other.task.declaredPaths, other.task.declaredSymbols, other.task.publishedBy⟩ : NewWorkTask) = creation.task
    rw [tenantId, repositoryId, taskId, ← title, ← acceptance, ← goalId, ← paths, ← symbols, publisher,
      ← congrArg NewWorkTask.publishedBy content]
    exact content
  change (⟨other.task, other.eventId⟩ : WorkCreation) = ⟨creation.task, creation.eventId⟩
  rw [same, eventId]

theorem creation_retried {now' : Int} (there : t.work.history.find? (creation.key.stream, creation.eventId) = some event)
    (its : event.event = creation.event (workDigestsOf platform.toPlatform) now) (task : t.work.tasks.find? creation.key = some row)
    (published : row.published = (creation.task, creation.task.sourceDigest (workDigestsOf platform.toPlatform)))
    (known : StateKnown row.state) (stream : other.key.stream = creation.key.stream) (eventId : other.eventId = creation.eventId) :
    RetriesCreation platform t creation other now' ↔ (other = creation → row.state = WorkTaskState.open.asI16) := by
  have refused (failed : (recordNodeTask platform.toPlatform other now').exec look t t = .error other.conflict) :
      (CommandCall.program platform (.recordNodeTask other now')).attempt look t = (.error (.work other.conflict), t) := by
    refine Transaction.attempt_failed ?_
    simp only [CommandCall.program, Transaction.bind_eq, Transaction.exec_bind, Transaction.exec_mapError, failed]
    rfl
  have exec := recordNodeTask_exec platform t now' (show t.work.history.find? (other.key.stream, other.eventId) = some event by rwa [stream, eventId])
  by_cases same : other = creation
  · subst same
    obtain ⟨stored, read, replays⟩ := row_replay published known
    rw [event_replay_self its, Except.bind, task] at exec
    dsimp only at exec
    rw [replays] at exec
    constructor
    · intro retries _
      by_contra moved
      rw [if_neg moved] at exec
      obtain ⟨_, _, _, _, replayed⟩ := retries.1 rfl
      cases (refused exec).symm.trans replayed
    · intro opened
      rw [if_pos (opened rfl)] at exec
      refine ⟨fun _ => ⟨row, stored, task, read, Transaction.attempt_ok ?_⟩, fun apart => absurd rfl apart⟩
      simp only [CommandCall.program, Transaction.bind_eq, Transaction.exec_bind, Transaction.exec_mapError, exec]
      rfl
  · refine iff_of_true ⟨fun its => absurd its same, fun _ => refused ?_⟩ fun its => absurd its same
    rcases event_replay its stream with conflict | ⟨passes, key, publisher, _⟩
    · rw [exec, conflict]
      rfl
    · rw [exec, passes, key, Except.bind, task]
      dsimp only
      rw [row_replay_other published known key publisher eventId same]
      rfl

end

def WorkTables.Readable (tables : WorkTables) : Prop := ∀ key row, tables.tasks.find? key = some row → StateKnown row.state

namespace WorkTables
variable {before after : WorkTables}

theorem Records.readable {event : WorkEvent} {row : WorkTaskRow} (records : before.Records after event row) (readable : before.Readable)
    (known : StateKnown event.toState) : after.Readable := by
  intro key other found
  rw [records.tasks] at found
  split at found
  next =>
    cases found
    rw [records.state]
    exact known
  next => exact readable key other found

theorem Moved.readable {noted : Prop} (moved : Moved noted before after) (readable : before.Readable) : after.Readable := by
  cases moved with
  | stays tasks =>
    rw [Readable, tasks]
    exact readable
  | creates records _ _ known => exact records.readable readable known
  | changes records found _ _ _ known => exact records.readable readable (known (readable _ _ found))
  | @notes event row old _ records found _ same =>
    refine records.readable readable ?_
    have steady : row.state = old.state := (congrArg WorkTaskRow.state same).trans rfl
    rw [← records.state, steady]
    exact readable _ _ found

end WorkTables

namespace CommandCall
variable {order : CommandStore → CommandStore → Prop} {seen : CommandStore → Prop} {s after : CommandStore}

theorem Does.submitted {principal : VerifiedWorkCommandPrincipal} {request : NewWorkCommand} {now : Int} {row : WorkCommandRow}
    (does : Does platform order seen s (.submit principal request now) after (.submitted ⟨row, false⟩)) :
    request.validate now = .ok () ∧ ∃ digest, request.digest platform.toPlatform = .ok digest ∧ row.requestDigest = digest ∧
      after.commands.find? ⟨request.tenantId, request.repositoryId, request.assignedCommandId platform.toPlatform⟩ = some row := by
  cases does with
  | submit _ valid hashed records =>
    cases records with
    | inserts free =>
      refine ⟨valid, _, hashed, rfl, find?_insertOrIgnore_self (request.row platform.toPlatform _ now) ?_⟩
      cases found : s.commands.find? (request.row platform.toPlatform _ now).key with
      | none => rfl
      | some taken =>
        obtain ⟨member, named⟩ := mem_of_find? found
        rw [look, Bool.not_eq_true', List.any_eq_false] at free
        exact absurd (decide_eq_true (.inl named)) (free taken member)

theorem Does.enqueued {directive : V1.AgentDirective} {now : Int} {record : DirectiveRecord}
    (does : Does platform order seen s (.enqueue directive now) after (.enqueued ⟨record, false⟩)) :
    record.requested = directive ∧ record ∈ after.directives.rows := by
  cases does with
  | enqueue _ _ valid enqueues =>
    cases enqueues with
    | appends _ _ sequences =>
      refine ⟨record_requested valid, (mem_of_find? (find?_insertOrIgnore_self _ ?_)).1⟩
      exact sequences.fresh

theorem Does.recorded {creation : WorkCreation} {now : Int} {task : WorkTask}
    (does : Does platform order seen s (.recordNodeTask creation now) after (.recorded ⟨task, false⟩)) :
    (∃ event, after.work.history.find? (creation.key.stream, creation.eventId) = some event ∧
        event.event = creation.event (workDigestsOf platform.toPlatform) now) ∧
      ∃ row, after.work.tasks.find? creation.key = some row ∧
        row.published = (creation.task, creation.task.sourceDigest (workDigestsOf platform.toPlatform)) := by
  cases does with
  | replayNodeTask _ again => cases again
  | recordNodeTask creates =>
    refine ⟨⟨_, find?_insertOrIgnore_self _ ?_, rfl⟩, _, find?_insertOrIgnore_self _ ?_, rfl⟩
    · exact creates.accepts.fresh
    · exact creates.absent

end CommandCall

section
variable {τ : Type} [DecidableEq τ] {history : List (WorkStep τ)} {state : WorkControl τ}

theorem readable_empty : CommandStore.empty.work.Readable := fun _ _ found => by cases found

/-- What a request, a directive or a node's creation comes to that is sent again, or that goes by the key of an
accepted one, in whatever store the calls have led to since. -/
theorem retries_are_stable (run : (workControl platform τ .empty).Run history state) (entry : WorkStep τ) (member : entry ∈ history) :
    (∀ principal request now row, entry.before.Committing entry.op (.submit principal request now) (.submitted ⟨row, false⟩) →
      request.Typed → ∀ principal other now', NewWorkCommand.identity other = NewWorkCommand.identity request →
        principal.refusalFor other = none → other.Typed → request.Unlike platform.toPlatform other →
          (RetriesRequest platform state.store request row principal other now' ↔ other.validate now' = .ok () ∧ 0 ≤ other.expiresAt)) ∧
      (∀ directive now record, entry.before.Committing entry.op (.enqueue directive now) (.enqueued ⟨record, false⟩) →
        ∀ other now', other.SameKey directive → state.store.Unlike platform other →
          (RetriesDirective platform state.store directive record other now' ↔ ∃ requirement expiresAt,
            Directive.validate platform other (Directive.normalizeTimestamp now') = .ok (requirement, expiresAt) ∧
              state.store.Capable other requirement)) ∧
      ∀ creation now task, entry.before.Committing entry.op (.recordNodeTask creation now) (.recorded ⟨task, false⟩) →
        ∀ other now', other.key.stream = creation.key.stream → other.eventId = creation.eventId →
          (RetriesCreation platform state.store creation other now' ↔
            (other = creation → ∀ row, state.store.work.tasks.find? creation.key = some row → row.state = WorkTaskState.open.asI16)) := by
  obtain ⟨⟨⟨sequenced, readable⟩, visited⟩, steps⟩ := Interleaving.run_steps run (CommandCall.program_within platform)
    (fun s => s.Sequenced platform ∧ s.work.Readable) CommandStore.Grows .refl .trans ⟨sequenced_empty platform, readable_empty⟩
    fun entry member call answer known committing commits => by
      have does := CommandCall.program_does commits
      exact ⟨⟨known.1.directs does.directs, does.moved.readable known.2⟩, does.grows⟩
  have grows : entry.after.store.Grows state.store :=
    (visited entry.after (List.mem_append_left _ (List.mem_map_of_mem member))).2
  obtain ⟨_, _, moved⟩ := steps entry member
  refine ⟨?_, ?_, ?_⟩
  · intro principal request now row committing typed principal' other now' same entitled typed' unlike
    obtain ⟨valid, digest, hashed, stored, there⟩ := (CommandCall.program_does (moved.committed committing)).submitted
    obtain ⟨directiveId, there⟩ := grows.ledger.commands _ _ there
    exact request_retried valid hashed stored there same entitled typed typed' unlike
  · intro directive now record committing other now' same unlike
    obtain ⟨rfl, there⟩ := (CommandCall.program_does (moved.committed committing)).enqueued
    exact directive_retried sequenced (Table.mem_of_find? (grows.ledger.directives _ _ (Table.find?_of_mem there))).1 same unlike
  · intro creation now task committing other now' stream eventId
    obtain ⟨⟨event, there, its⟩, row, task, published⟩ := (CommandCall.program_does (moved.committed committing)).recorded
    obtain ⟨row', task', kept⟩ := grows.work.tasks _ _ task
    rw [creation_retried (grows.work.history _ _ there) its task' (kept.trans published) (readable _ _ task') stream eventId]
    refine forall_congr' fun _ => ⟨fun opened row found => ?_, fun opened => opened row' task'⟩
    cases task'.symm.trans found
    exact opened

end

section

def routeRequest : NewWorkCommand := workRequest "human:ada" "key-1" 1 routing

def routeCalls : List CommandCall := [.createTask openTask (seconds 1), submitting "human:ada" "key-1" 1 routing]

def CommandAnswer.commanded : CommandAnswer → Option WorkCommandWriteOutcome
  | .submitted outcome => some outcome
  | _ => none

theorem submitted_of_any {result : Except CommandError CommandAnswer}
    (commanded : ((result.toOption.bind CommandAnswer.commanded).any fun outcome => !outcome.idempotentReplay) = true) :
    ∃ row, result = .ok (.submitted ⟨row, false⟩) := by
  obtain ⟨outcome, its, fresh⟩ := (any_eq_true _ _).mp commanded
  obtain ⟨answer, answered, here⟩ := bind_eq_some_iff.mp its
  cases result with
  | error => cases answered
  | ok =>
    cases answered
    cases answer <;> cases here
    obtain ⟨row, replay⟩ := outcome
    cases replay with
    | false => exact ⟨row, rfl⟩
    | true => cases fresh

theorem route_requested :
    (((((CommandCall.program wire (submitting "human:ada" "key-1" 1 routing)).attempt look
        (afterCalls (routeCalls.take 1))).1).toOption.bind CommandAnswer.commanded).any fun outcome => !outcome.idempotentReplay) ∧
      ((CommandCall.program wire (.submit (workPrincipal "human:ada") routeRequest (seconds 61))).attempt look (afterCalls routeCalls)).1 =
        .error (.command .invalidExpiry) ∧ routeRequest.validate (seconds 2) = .ok () ∧ 0 ≤ routeRequest.expiresAt := by decide +kernel

theorem routed_run : ∃ history standing row, (workControl wire Nat .empty).Run history ⟨afterCalls routeCalls, fun _ => none, standing⟩ ∧
    ∃ entry ∈ history, entry.before.Committing entry.op (.submit (workPrincipal "human:ada") routeRequest (seconds 1))
      (.submitted ⟨row, false⟩) := by
  obtain ⟨history, standing, run, _, entries, _⟩ := Interleaving.serial_run look guards (CommandCall.program wire) .empty routeCalls
  obtain ⟨entry, member, serves⟩ := entries (routeCalls.take 1) (submitting "human:ada" "key-1" 1 routing) [] rfl
  obtain ⟨row, answered⟩ := submitted_of_any route_requested.1
  exact ⟨history, standing, row, run, entry, member, (serves.commits _ _).mpr ⟨rfl, answered⟩⟩

/-- The request is sent again when its time has passed. -/
theorem late_retry_counterexample : ¬∀ history state, (workControl wire Nat .empty).Run history state →
    ∀ entry ∈ history, ∀ principal request now row, entry.before.Committing entry.op (.submit principal request now)
      (.submitted ⟨row, false⟩) → ∀ now', now ≤ now' → RetriesRequest wire state.store request row principal request now' := by
  intro retries
  obtain ⟨history, standing, row, run, entry, member, committing⟩ := routed_run
  obtain ⟨directiveId, replayed⟩ := (retries history _ run entry member _ _ _ row committing (seconds 61) (by decide)).1 rfl
  cases route_requested.2.1.symm.trans (congrArg Prod.fst replayed)

/-- In time the request gets its record again. -/
theorem route_retried : ∃ history state row, (workControl wire Nat .empty).Run history state ∧
    RetriesRequest wire state.store routeRequest row (workPrincipal "human:ada") routeRequest (seconds 2) := by
  obtain ⟨history, standing, row, run, entry, member, committing⟩ := routed_run
  refine ⟨history, _, row, run, ((retries_are_stable run entry member).1 _ _ _ row committing ?_ _ routeRequest (seconds 2) rfl ?_ ?_ ?_).mpr ?_⟩
  · exact ⟨by decide, by decide⟩
  · decide
  · exact ⟨by decide, by decide⟩
  · intro bytes bytes' its its' _
    exact Except.ok.inj (its.symm.trans its')
  · exact route_requested.2.2

end

end MindLeak.Ackplane
