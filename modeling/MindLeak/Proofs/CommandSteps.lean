import Mathlib
import MindLeak.Proofs.CommandLocks

/-! What the authority's calls do that go through: which rows they find as they commit, and what they
make of the store. -/

namespace MindLeak.Ackplane

open CommandStore Transaction Option Table Bool Directive DirectiveStore

variable {ε : Type} {grows : CommandStore → CommandStore → Prop} {seen : CommandStore → Prop} {s written after : CommandStore}

variable {platform : Platform} {now : Int}

section
variable {creation : WorkCreation}

def CommandStore.Accepts (s : CommandStore) (event : WorkEvent) : Prop :=
  s.look (.eventSlot event.key.stream event.eventId (s.work.headPosition event.key.stream + 1)) = true

theorem sourced_key (position : Int) (row : WorkTaskRow) :
    ({ row with sourceEventPosition := some position } : WorkTaskRow).key = row.key := rfl

def CommandStore.recorded (written : CommandStore) (event : WorkEvent) (position : Int) : CommandStore :=
  ((written.advance event.key.stream position).insertEvent event position).updateTask event.key
    (fun row => { row with sourceEventPosition := some position }) (sourced_key position)

theorem allocateStreamPosition_runs {stream : Stream} {position : Int}
    (runs : (allocateStreamPosition stream : CommandTransaction ε Int).Runs look s grows seen written after position) :
    position = s.work.headPosition stream + 1 ∧ after = written.advance stream position := by
  obtain ⟨rfl, rfl⟩ := runs.lock.store
  exact ⟨rfl, rfl⟩

theorem insertEvent_runs {database : ε} {event : WorkEvent} {position : Int} {answer : Unit}
    (runs : (insertEvent database event position).Runs look s grows seen written after answer) :
    s.look (.eventSlot event.key.stream event.eventId position) = true ∧ after = written.insertEvent event position := by
  rcases runs.lockOn with ⟨_ | _, free, ⟨⟩, done⟩ | ⟨_ | _, _, _, _, ⟨⟩, done⟩
  · exact ⟨free, done.1⟩
  · exact done.elim

theorem row_replays {row : WorkTaskRow} {digests : WorkDigests} {outcome : WorkTaskCreationOutcome}
    (replays : row.replay digests creation = .ok outcome) : outcome.idempotentReplay = true := by
  obtain ⟨_, _, replays⟩ := bind_ok replays
  obtain ⟨_, replays⟩ := ite_else replays
  cases replays
  rfl

theorem existingCreation_runs {answer : Option WorkTaskCreationOutcome}
    (runs : (existingCreation platform creation).Runs look s grows seen written after answer) :
    after = written ∧ ∀ outcome, answer = some outcome → outcome.idempotentReplay = true := by
  obtain ⟨_ | _, _, _, _, done⟩ := runs.readAs
  · obtain ⟨rfl, rfl⟩ := done
    exact ⟨rfl, fun _ same => by cases same⟩
  dsimp only at done
  split at done
  · exact done.elim
  obtain ⟨_ | _, _, _, _, done⟩ := done.readAs
  · exact done.elim
  dsimp only at done
  split at done
  · exact done.elim
  rename_i replays
  obtain ⟨rfl, rfl⟩ := done
  refine ⟨rfl, fun outcome same => ?_⟩
  cases same
  exact row_replays replays

def CommandStore.created (written : CommandStore) (platform : Platform) (creation : WorkCreation) (position now : Int) :
    CommandStore :=
  ((written.advance creation.key.stream position).insertTask
    { creation.row (workDigestsOf platform) now with sourceEventPosition := some position }).insertEvent
      (creation.event (workDigestsOf platform) now) position

structure CommandStore.Creates (s : CommandStore) (platform : Platform) (creation : WorkCreation) (now : Int) : Prop where
  absent : s.work.tasks.find? creation.key = none
  fits : (creation.row (workDigestsOf platform) now).Fits
  accepts : s.Accepts (creation.event (workDigestsOf platform) now)

theorem createTask_runs {answer : WorkTask}
    (runs : (createTask platform creation now).Runs look s grows seen written after answer) :
    s.Creates platform creation now ∧ answer = creation.created (s.work.headPosition creation.key.stream + 1) now ∧
      after = written.created platform creation (s.work.headPosition creation.key.stream + 1) now := by
  obtain ⟨_, _, first, done⟩ := runs.bind
  obtain ⟨rfl, rfl⟩ := allocateStreamPosition_runs first
  obtain ⟨fits, done⟩ := done.past
  rcases done.lockOn with ⟨_ | _, absent, ⟨⟩, done⟩ | ⟨_ | _, _, _, _, ⟨⟩, done⟩
  · obtain ⟨_, _, first, done⟩ := done.bind
    obtain ⟨accepts, rfl⟩ := insertEvent_runs first.store
    obtain ⟨rfl, rfl⟩ := done
    exact ⟨⟨absent, not_not.mp fits, accepts⟩, rfl, rfl⟩
  · exact done.elim

theorem createNodeTask_runs {answer : WorkTaskCreationOutcome}
    (runs : (createNodeTask platform creation now).Runs look s grows seen written after answer) :
    s.Creates platform creation now ∧ answer = ⟨creation.created (s.work.headPosition creation.key.stream + 1) now, false⟩ ∧
        after = written.created platform creation (s.work.headPosition creation.key.stream + 1) now ∨
      answer.idempotentReplay = true ∧ after = written.advance creation.key.stream (s.work.headPosition creation.key.stream + 1) := by
  obtain ⟨_, _, first, done⟩ := runs.bind
  obtain ⟨rfl, rfl⟩ := allocateStreamPosition_runs first
  obtain ⟨fits, done⟩ := done.past
  rcases done.lockOn with ⟨_ | _, absent, ⟨⟩, done⟩ | ⟨_ | _, _, _, _, ⟨⟩, done⟩
  · obtain ⟨_, _, first, done⟩ := done.bind
    obtain ⟨accepts, rfl⟩ := insertEvent_runs first.store
    obtain ⟨rfl, rfl⟩ := done
    exact .inl ⟨⟨absent, not_not.mp fits, accepts⟩, rfl, rfl⟩
  · obtain ⟨_, _ | _, first, done⟩ := done.bind
    · exact done.elim
    obtain ⟨rfl, again⟩ := existingCreation_runs first
    obtain ⟨rfl, rfl⟩ := done
    exact .inr ⟨again _ rfl, rfl⟩

theorem recordNodeTask_runs {answer : WorkTaskCreationOutcome}
    (runs : (recordNodeTask platform creation now).Runs look s grows seen written after answer) :
    s.Creates platform creation now ∧ answer = ⟨creation.created (s.work.headPosition creation.key.stream + 1) now, false⟩ ∧
        after = written.created platform creation (s.work.headPosition creation.key.stream + 1) now ∨
      answer.idempotentReplay = true ∧
        (after = written.advance creation.key.stream (s.work.headPosition creation.key.stream + 1) ∨ after = written) := by
  obtain ⟨_, _ | _, first, done⟩ := runs.bind <;> obtain ⟨rfl, again⟩ := existingCreation_runs first
  · exact (createNodeTask_runs done).imp_right fun ⟨again, lost⟩ => ⟨again, .inl lost⟩
  · obtain ⟨rfl, rfl⟩ := done
    exact .inr ⟨again _ rfl, .inr rfl⟩

end

def StateKnown (value : Int) : Prop := ∃ state, WorkTaskState.fromI16 value = .ok state

def WorkTaskRow.published (row : WorkTaskRow) : NewWorkTask × Bytes :=
  (⟨row.key.tenantId, row.key.repositoryId, row.key.taskId, row.title, row.acceptance, row.goalId, row.declaredPaths,
    row.declaredSymbols, row.publishedBy⟩, row.sourceDigest)

variable {command : WorkCommandRow} {outcome : ExecutionOutcome}

namespace WorkCommands

theorem appendTaskEvent_runs {event : WorkEvent} {answer : Unit}
    (runs : (appendTaskEvent event).Runs look s grows seen written after answer) :
    s.Accepts event ∧ after = written.recorded event (s.work.headPosition event.key.stream + 1) := by
  obtain ⟨_, _, first, done⟩ := runs.bind
  obtain ⟨rfl, rfl⟩ := allocateStreamPosition_runs first
  obtain ⟨_, _, first, done⟩ := done.bind
  obtain ⟨accepts, rfl⟩ := insertEvent_runs first
  exact ⟨accepts, done.1⟩

theorem changeTask_runs {event : WorkEvent} {set : WorkTaskRow → WorkTaskRow} {keeps : ∀ row, (set row).key = row.key} {answer : Unit}
    (runs : (changeTask event set keeps).Runs look s grows seen written after answer) :
    s.Accepts event ∧
      after = (written.updateTask event.key set keeps).recorded event (s.work.headPosition event.key.stream + 1) :=
  appendTaskEvent_runs runs.store

theorem lockTask_runs {key : TaskKey} {found : Option LockedTask}
    (runs : (lockTask key).Runs look s grows seen written after found) :
    after = written ∧ ((∃ row, s.work.tasks.find? key = some row ∧ found = some ⟨row.state, row.version⟩) ∨
      found = none ∧ ∃ earlier, seen earlier ∧ earlier.work.tasks.find? key = none) := by
  rcases runs.lockOn with ⟨_ | row, found, ⟨⟩, done⟩ | ⟨_ | _, earlier, known, absent, ⟨⟩, done⟩
  · exact ⟨done.1, .inl ⟨row, found, done.2⟩⟩
  · exact ⟨done.1, .inr ⟨done.2, earlier, known, absent⟩⟩

section

inductive Expecting (command : WorkCommandRow) (grows : CommandStore → CommandStore → Prop) (seen : CommandStore → Prop)
    (s written : CommandStore) (next : String → LockedTask → CommandTransaction WorkCommandStoreError ExecutionOutcome) :
    CommandStore → ExecutionOutcome → Prop where
  | untargeted (no : command.taskId = none ∨ command.expectedTaskVersion = none) :
      Expecting command grows seen s written next written .taskNotFound
  | absent {taskId : String} {earlier : CommandStore} (named : command.taskId = some taskId) (known : seen earlier)
      (missing : earlier.work.tasks.find? (command.taskKey taskId) = none) :
      Expecting command grows seen s written next written .taskNotFound
  | stale {taskId : String} {version : Int} {row : WorkTaskRow} (named : command.taskId = some taskId)
      (expected : command.expectedTaskVersion = some version) (found : s.work.tasks.find? (command.taskKey taskId) = some row)
      (other : row.version ≠ version) :
      Expecting command grows seen s written next written (.taskVersionConflict row.version)
  | current {taskId : String} {row : WorkTaskRow} {after : CommandStore} {outcome : ExecutionOutcome}
      (named : command.taskId = some taskId) (expected : command.expectedTaskVersion = some row.version)
      (found : s.work.tasks.find? (command.taskKey taskId) = some row)
      (runs : (next taskId ⟨row.state, row.version⟩).Runs look s grows seen written after outcome) :
      Expecting command grows seen s written next after outcome

variable {next : String → LockedTask → CommandTransaction WorkCommandStoreError ExecutionOutcome}

theorem onExpectedTask_runs
    (runs : (onExpectedTask command next).Runs look s grows seen written after outcome) :
    Expecting command grows seen s written next after outcome := by
  unfold onExpectedTask at runs
  split at runs
  next taskId version named expected =>
    obtain ⟨_, _, first, done⟩ := runs.bind
    obtain ⟨rfl, ⟨row, found, rfl⟩ | ⟨rfl, earlier, known, absent⟩⟩ := lockTask_runs first
    · dsimp only at done
      split at done
      next other =>
        obtain ⟨rfl, rfl⟩ := done
        exact .stale named expected found other
      next same => exact .current named (by rw [expected, not_not.mp same]) found done
    · obtain ⟨rfl, rfl⟩ := done
      exact .absent named known absent
  next unnamed =>
    obtain ⟨rfl, rfl⟩ := runs
    refine .untargeted ?_
    cases named : command.taskId with
    | none => exact .inl rfl
    | some taskId =>
      cases expected : command.expectedTaskVersion with
      | none => exact .inr rfl
      | some version => exact (unnamed taskId version named expected).elim

inductive Changed (s written : CommandStore) (event : WorkEvent) (old : WorkTaskRow) : CommandStore → Prop where
  | mk {base : CommandStore} {set : WorkTaskRow → WorkTaskRow} {keeps : ∀ row, (set row).key = row.key}
      (beside : base = written ∨ (∃ key set keeps, base = written.updateWait key set keeps) ∨ ∃ change, base = written.withClaims change)
      (found : s.work.tasks.find? event.key = some old) (accepts : s.Accepts event) (chained : event.fromState = some old.state)
      (reached : (set old).state = event.toState) (bumped : (set old).version = old.version + 1)
      (kept : (set old).published = old.published) (known : StateKnown old.state → StateKnown event.toState) :
      Changed s written event old
        ((base.updateTask event.key set keeps).recorded event (s.work.headPosition event.key.stream + 1))

inductive Applies (platform : Platform) (command : WorkCommandRow) (now : Int) (s written : CommandStore) (kind : WorkCommandKind) :
    CommandStore → ExecutionOutcome → Prop where
  | leaves {outcome : ExecutionOutcome} (idle : outcome ≠ .applied) (unissued : ∀ directiveId, outcome ≠ .directiveIssued directiveId) :
      Applies platform command now s written kind written outcome
  | changes {taskId : String} {old : WorkTaskRow} {eventKind next : Int} {after : CommandStore} (named : command.taskId = some taskId)
      (its : old.key = command.taskKey taskId)
      (expected : kind ≠ .releaseLease → command.expectedTaskVersion = some old.version)
      (steady : next = old.state ∨ old.state = 2 ∨ kind = .submitReview)
      (changed : Changed s written (eventOf platform command now taskId eventKind old.state next) old after) :
      Applies platform command now s written kind after .applied

theorem Applies.idle {kind : WorkCommandKind} {given : ExecutionOutcome} (left : after = written ∧ outcome = given)
    (idle : given ≠ .applied := by simp) (unissued : ∀ directiveId, given ≠ .directiveIssued directiveId := by simp) :
    Applies platform command now s written kind after outcome := by
  obtain ⟨rfl, rfl⟩ := left
  exact .leaves idle unissued

theorem Expecting.applies
    {kind : WorkCommandKind} (expecting : Expecting command grows seen s written next after outcome)
    (goes : ∀ taskId row after outcome, command.taskId = some taskId → s.work.tasks.find? (command.taskKey taskId) = some row →
      command.expectedTaskVersion = some row.version →
      (next taskId ⟨row.state, row.version⟩).Runs look s grows seen written after outcome →
        Applies platform command now s written kind after outcome) :
    Applies platform command now s written kind after outcome := by
  cases expecting with
  | untargeted | absent | stale => exact .leaves nofun nofun
  | current named expected found runs => exact goes _ _ _ _ named found expected runs

theorem routeWork_runs {payload : RouteWorkPayload} (runs : (routeWork platform command now payload).Runs look s grows seen written after outcome) :
    Applies platform command now s written .routeWork after outcome := by
  refine (onExpectedTask_runs runs).applies fun taskId row after outcome named found expected runs => ?_
  obtain ⟨_, runs⟩ := runs.past
  obtain ⟨_, _, first, done⟩ := runs.bind
  obtain ⟨accepts, rfl⟩ := changeTask_runs first
  obtain ⟨rfl, rfl⟩ := done
  exact .changes named (mem_of_find? found).2 (fun _ => expected) (.inl rfl) (.mk (.inl rfl) found accepts rfl rfl rfl rfl id)

theorem answerFound_runs {payload : AnswerWaitPayload} {taskId : String} {row : WorkTaskRow} {wait : Option WorkTaskWait}
    (named : command.taskId = some taskId) (found : s.work.tasks.find? (command.taskKey taskId) = some row)
    (expected : command.expectedTaskVersion = some row.version)
    (runs : (answerFound platform command now payload taskId ⟨row.state, row.version⟩ wait).Runs look s grows seen written after outcome) :
    Applies platform command now s written .answerWait after outcome := by
  unfold answerFound at runs
  split at runs
  · exact .idle runs
  split at runs
  · exact .idle runs
  split at runs
  · exact .idle runs
  next =>
    obtain ⟨_, _, first, done⟩ := runs.store.bind
    obtain ⟨accepts, rfl⟩ := changeTask_runs first
    obtain ⟨rfl, rfl⟩ := done
    exact .changes named (mem_of_find? found).2 (fun _ => expected) (.inl rfl)
      (.mk (.inr (.inl ⟨_, _, _, rfl⟩)) found accepts rfl rfl rfl rfl id)

theorem answerWait_runs {payload : AnswerWaitPayload}
    (runs : (answerWait platform command now payload).Runs look s grows seen written after outcome) :
    Applies platform command now s written .answerWait after outcome := by
  refine (onExpectedTask_runs runs).applies fun taskId row after outcome named found expected runs => ?_
  rcases runs.lockOn with ⟨_, _, _, done⟩ | ⟨_, _, _, _, _, done⟩ <;> exact answerFound_runs named found expected done

theorem submitReview_runs (payload : SubmitReviewPayload)
    (runs : (submitReview platform command now payload).Runs look s grows seen written after outcome) :
    Applies platform command now s written .submitReview after outcome := by
  refine (onExpectedTask_runs runs).applies fun taskId row after outcome named found expected runs => ?_
  obtain ⟨_, _, first, done⟩ := runs.bind
  obtain ⟨accepts, rfl⟩ := changeTask_runs first
  obtain ⟨rfl, rfl⟩ := done
  exact .changes named (mem_of_find? found).2 (fun _ => expected) (.inr (.inr rfl))
    (.mk (.inl rfl) found accepts rfl rfl rfl rfl fun _ => ⟨.inReview, rfl⟩)

theorem releaseTask_runs {taskId : String} {base : CommandStore} {change : DelegatedClaims → DelegatedClaims}
    (named : command.taskId = some taskId) (claims : base = written.withClaims change)
    (runs : (releaseTask platform command now taskId).Runs look s grows seen base after outcome) :
    Applies platform command now s written .releaseLease after outcome ∧ outcome = .applied := by
  obtain ⟨_, _, first, done⟩ := runs.bind
  obtain ⟨rfl, ⟨row, found, rfl⟩ | ⟨rfl, _⟩⟩ := lockTask_runs first
  · obtain ⟨_, _, first, done⟩ := done.bind
    obtain ⟨accepts, rfl⟩ := changeTask_runs first
    obtain ⟨rfl, rfl⟩ := done
    refine ⟨.changes named (mem_of_find? found).2 (fun other => absurd rfl other) ?_
      (.mk (.inr (.inr ⟨change, claims⟩)) found accepts rfl rfl rfl rfl fun known => ?_), rfl⟩
    · dsimp only
      split
      next claimed => exact .inr (.inl claimed)
      next => exact .inl rfl
    · dsimp only [eventOf, WorkCommand.event]
      split
      next => exact ⟨.open, rfl⟩
      next => exact known
  · exact done.elim

theorem releaseLease_runs {payload : ReleaseLeasePayload}
    (runs : (releaseLease platform command now payload).Runs look s grows seen written after outcome) :
    Applies platform command now s written .releaseLease after outcome := by
  unfold releaseLease at runs
  split at runs
  · exact .idle runs
  next taskId named =>
    have goes (claim : Option DelegatedClaim)
        (runs : (releaseFound platform command now payload taskId claim).Runs look s grows seen written after outcome) :
        Applies platform command now s written .releaseLease after outcome := by
      unfold releaseFound at runs
      split at runs
      · exact .idle runs
      split at runs
      · exact .idle runs
      split at runs
      · exact .idle runs
      next => exact (releaseTask_runs named rfl runs.store).1
    rcases runs.lockOn with ⟨_, _, _, done⟩ | ⟨_, _, _, _, _, done⟩ <;> exact goes _ done

theorem createWork_runs {payload : CreateWorkPayload}
    (runs : (createWork platform command now payload).Runs look s grows seen written after outcome) :
    outcome = .taskAlreadyExists ∧ after = written ∨
      outcome = .applied ∧ s.work.tasks.find? (command.taskKey payload.taskId) = none ∧
        s.Accepts (eventOf platform command now payload.taskId 1 1 1) ∧
        after = (written.insertTask (payload.row (workDigestsOf platform) command.toWorkCommand now)).recorded
          (eventOf platform command now payload.taskId 1 1 1) (s.work.headPosition (command.taskKey payload.taskId).stream + 1) := by
  unfold createWork at runs
  dsimp only at runs
  obtain ⟨_, runs⟩ := runs.past
  rcases runs.lockOn with ⟨_ | _, absent, ⟨⟩, done⟩ | ⟨_ | _, _, _, _, ⟨⟩, done⟩
  · obtain ⟨_, _, first, done⟩ := done.store.bind
    obtain ⟨accepts, rfl⟩ := appendTaskEvent_runs first
    obtain ⟨rfl, rfl⟩ := done
    exact .inr ⟨rfl, absent, accepts, rfl⟩
  · exact .inl ⟨done.2, done.1⟩

end

end WorkCommands

section
variable {platform : DirectivePlatform} {directive : V1.AgentDirective} {error : DirectiveStoreError}
  {outcome : DirectiveWriteOutcome} {expiresAt : Int}

def V1.AgentDirective.record (directive : V1.AgentDirective) (platform : DirectivePlatform) (position : Int) (createdAt : String)
    (now expiresAt : Int) : DirectiveRecord :=
  ⟨DirectiveStore.sequenced directive position createdAt, Directive.requestDigest platform directive, now, expiresAt⟩

structure CommandStore.Sequences (s : CommandStore) (platform : DirectivePlatform) (directive : V1.AgentDirective) (createdAt : String) :
    Prop where
  positive : 0 < s.directivePosition directive.stream + 1
  bounded : s.directivePosition directive.stream + 1 ≤ I64_MAX
  fits : DirectiveStore.Fits platform (DirectiveStore.sequenced directive (s.directivePosition directive.stream + 1) createdAt)
  free : s.look (.directiveSlot directive.key directive.stream directive.idempotencyKey
    (s.directivePosition directive.stream + 1).toNat) = true

inductive Enqueues (platform : DirectivePlatform) (directive : V1.AgentDirective) (expiresAt now : Int) (seen : CommandStore → Prop)
    (s written : CommandStore) : CommandStore → DirectiveWriteOutcome → Prop where
  | replays {record : DirectiveRecord} {earlier after : CommandStore} (known : seen earlier)
      (there : earlier.directives.find? directive.key = some record ∨ earlier.look (.directiveOf directive.stream directive.idempotencyKey) =
        some record)
      (same : record.requestDigest = Directive.requestDigest platform directive)
      (idle : after = written ∨ after = written.advanceDirectives directive.stream (s.directivePosition directive.stream)) :
      Enqueues platform directive expiresAt now seen s written after ⟨record, true⟩
  | appends {requirement : DirectiveRequirement} {createdAt : String}
      (valid : Directive.validate platform directive now = .ok (requirement, expiresAt))
      (dated : Directive.formatTimestamp platform now = .ok createdAt) (sequences : s.Sequences platform directive createdAt) :
      Enqueues platform directive expiresAt now seen s written
        (((written.advanceDirectives directive.stream (s.directivePosition directive.stream)).insertDirective
          (directive.record platform (s.directivePosition directive.stream + 1) createdAt now expiresAt)).advanceDirectives
            directive.stream (s.directivePosition directive.stream + 1))
        ⟨directive.record platform (s.directivePosition directive.stream + 1) createdAt now expiresAt, false⟩

theorem lockStream_runs {stream : DirectiveStream} {position : Int}
    (runs : (lockStream stream).Runs look s grows seen written after position) :
    position = s.directivePosition stream ∧ after = written.advanceDirectives stream position := by
  obtain ⟨rfl, rfl⟩ := runs.lock.store
  exact ⟨rfl, rfl⟩

theorem append_runs {requirement : DirectiveRequirement}
    (valid : validate platform directive now = .ok (requirement, expiresAt))
    (runs : (append platform directive expiresAt now).Runs look s grows seen written after outcome) :
    Enqueues platform directive expiresAt now seen s written after outcome := by
  obtain ⟨_, _, first, done⟩ := runs.bind
  obtain ⟨rfl, rfl⟩ := lockStream_runs first
  obtain ⟨within, done⟩ := done.past
  split at done
  · exact done.elim
  rename_i createdAt dated
  unfold insertAt at done
  dsimp only at done
  obtain ⟨fits, done⟩ := done.past
  rcases done.lockOn with ⟨_ | _, free, ⟨⟩, done⟩ | ⟨_ | _, _, _, _, ⟨⟩, done⟩
  · obtain ⟨rfl, rfl⟩ := done
    exact .appends valid dated ⟨by omega, by omega, not_not.mp fits, free⟩
  · obtain ⟨_ | record, earlier, known, found, done⟩ := done.readAs
    · obtain ⟨_ | record, earlier, known, found, done⟩ := done.readAs
      · exact done.elim
      · obtain ⟨same, rfl, rfl⟩ := done.past
        exact .replays known (.inr found) (not_not.mp same) (.inr rfl)
    · obtain ⟨same, rfl, rfl⟩ := done.past
      exact .replays known (.inl found) (not_not.mp same) (.inr rfl)

theorem targetCapabilities_runs {capabilities : SupervisorCapabilities}
    (runs : (targetCapabilities directive).Runs look s grows seen written after capabilities) :
    after = written ∧ ∃ earlier session, seen earlier ∧ earlier.sessions.find? directive.session = some session ∧
      session.nodeId = directive.targetNodeId ∧ session.capabilities.validate = .ok () ∧ capabilities = session.capabilities := by
  obtain ⟨_ | session, earlier, known, found, done⟩ := runs.readAs
  · exact done.elim
  obtain ⟨same, done⟩ := done.past
  split at done
  · exact done.elim
  rename_i valid
  exact ⟨done.1, earlier, session, known, found, not_not.mp same, valid, done.2⟩

def CommandStore.Capable (s : CommandStore) (directive : V1.AgentDirective) (requirement : DirectiveRequirement) : Prop :=
  ∃ session, s.sessions.find? directive.session = some session ∧ session.nodeId = directive.targetNodeId ∧
    session.capabilities.validate = .ok () ∧ requirement.capability ∈ session.capabilities.supportedDirectives

theorem enqueueInTransaction_runs
    (runs : (enqueueInTransaction platform directive now).Runs look s grows seen written after outcome) :
    ∃ requirement expiresAt, validate platform directive now = .ok (requirement, expiresAt) ∧
      (∃ earlier, seen earlier ∧ earlier.Capable directive requirement) ∧
      Enqueues platform directive expiresAt now seen s written after outcome := by
  unfold enqueueInTransaction at runs
  split at runs
  · exact runs.elim
  rename_i requirement expiresAt valid
  obtain ⟨_, capabilities, first, done⟩ := runs.bind
  obtain ⟨rfl, earlier, session, known, found, node, checked, rfl⟩ := targetCapabilities_runs first
  obtain ⟨advertised, done⟩ := done.past
  refine ⟨requirement, expiresAt, valid, ⟨earlier, known, session, found, node, checked, not_not.mp advertised⟩, ?_⟩
  obtain ⟨_ | record, earlier, known, found, done⟩ := done.readAs
  · obtain ⟨_ | record, earlier, known, found, done⟩ := done.readAs
    · exact append_runs valid done
    · obtain ⟨same, rfl, rfl⟩ := done.past
      exact .replays known (.inr found) (not_not.mp same) (.inl rfl)
  · obtain ⟨same, rfl, rfl⟩ := done.past
    exact .replays known (.inl found) (not_not.mp same) (.inl rfl)

def Sequencing (error : DirectiveStoreError) : Prop :=
  error = .sequenceExhausted ∨ error = .invalidTimestamp ∨ error = .database ∨ error = .idempotencyConflict

theorem replayOrConflict_raises {record : DirectiveRecord} {digest : Bytes}
    (raises : (replayOrConflict record digest).Raises look error) : Sequencing error := by
  unfold replayOrConflict at raises
  split at raises
  · exact .inr (.inr (.inr raises))
  · exact raises.elim

theorem insertAt_raises {position : Int} {createdAt : String}
    (raises : (insertAt platform directive expiresAt now position createdAt).Raises look error) :
    Sequencing error := by
  unfold insertAt at raises
  dsimp only at raises
  split at raises
  next => exact .inr (.inr (.inl raises))
  obtain ⟨s, raises⟩ := raises.ask
  split at raises
  next => exact raises.elim
  obtain ⟨s, raises⟩ := raises.ask
  split at raises
  next => exact replayOrConflict_raises raises
  obtain ⟨s, raises⟩ := raises.ask
  split at raises
  next => exact replayOrConflict_raises raises
  next => exact .inr (.inr (.inr raises))

theorem append_raises (raises : (append platform directive expiresAt now).Raises look error) :
    Sequencing error := by
  rcases raises.bind with first | ⟨current, raises⟩
  · exact first.ask.elim fun _ none => none.elim
  split at raises
  next => exact .inl raises
  split at raises
  next failed =>
    cases raises
    unfold formatTimestamp at failed
    split at failed
    · exact .inr (.inl (Except.error.inj failed).symm)
    · cases failed
  next => exact insertAt_raises raises

theorem targetCapabilities_fails {ε : Type}
    (runs : ((targetCapabilities directive).result : CommandTransaction ε _).Runs look s grows seen written after
      (.error error)) : after = written := by
  rcases runs.result_bind with ⟨_, _, first⟩ | ⟨_, session, first, done⟩
  · exact first.raises.elim fun _ none => none.elim
  obtain ⟨_, _, rfl, _⟩ := first.read
  split at done
  next => exact done.1
  split at done
  next => exact done.1
  split at done
  next => exact done.1
  next => cases done.2

theorem enqueueInTransaction_fails {ε : Type}
    (runs : ((enqueueInTransaction platform directive now).result : CommandTransaction ε _).Runs look s grows seen
      written after (.error error)) : Sequencing error ∨ after = written := by
  unfold enqueueInTransaction at runs
  split at runs
  · exact .inr runs.1
  rcases runs.result_bind with ⟨_, _, first⟩ | ⟨_, capabilities, first, done⟩
  · exact .inr (targetCapabilities_fails first)
  obtain ⟨rfl, _⟩ := targetCapabilities_runs first
  split at done
  next => exact .inr done.1
  refine .inl ?_
  obtain ⟨s, raises⟩ := done.raises.ask
  split at raises
  next => exact replayOrConflict_raises raises
  obtain ⟨s, raises⟩ := raises.ask
  split at raises
  next => exact replayOrConflict_raises raises
  next => exact append_raises raises

end

def NewWorkCommandReceipt.row (receipt : NewWorkCommandReceipt) (digest : Bytes) (now : Int) :
    WorkCommandReceipt := { receipt with receiptDigest := digest, recordedAt := now }

def WorkCommandKind.addressed : WorkCommandKind → Bool
  | .assign | .steer | .pause | .resume | .drain => true
  | .createWork | .routeWork | .releaseLease | .answerWait | .submitReview => false

namespace WorkCommands

section
variable {platform : DirectivePlatform}

structure Issued (command : WorkCommandRow) (directive : V1.AgentDirective) : Prop where
  key : directive.key = ⟨command.tenantId, command.repositoryId, command.directiveIdFor⟩
  idempotencyKey : directive.idempotencyKey = command.idempotencyKey

theorem boundDirective_issued {target : DirectiveTarget} {kind : V1.DirectiveKind} {payload : V1.DirectivePayload} {taskId : String}
    {expiresAt : Int} {directive : V1.AgentDirective}
    (bound : boundDirective platform command target kind payload taskId expiresAt = .ok directive) : Issued command directive := by
  obtain ⟨expiry, _, bound⟩ := bind_ok bound
  dsimp only at bound
  split at bound
  next => cases bound
  split at bound
  · cases bound
  cases bound
  exact ⟨rfl, rfl⟩

inductive Issues (platform : DirectivePlatform) (command : WorkCommandRow) (now : Int) (seen : CommandStore → Prop)
    (s written : CommandStore) : CommandStore → ExecutionOutcome → Prop where
  | leaves {outcome : ExecutionOutcome} (idle : outcome ≠ .applied) (unissued : ∀ directiveId, outcome ≠ .directiveIssued directiveId) :
      Issues platform command now seen s written written outcome
  | issues {directive : V1.AgentDirective} {expiresAt : Int} {middle : CommandStore} {outcome : DirectiveWriteOutcome}
      (its : Issued command directive) (enqueues : Enqueues platform directive expiresAt now seen s written middle outcome)
      (issuer : s.look (.issuerSlot command.key ⟨command.tenantId, command.repositoryId, outcome.record.directive.directiveId⟩) = none) :
      Issues platform command now seen s written (middle.issue command.key outcome.record.directive.directiveId)
        (.directiveIssued outcome.record.directive.directiveId)

theorem Issues.idle {given : ExecutionOutcome} (left : after = written ∧ outcome = given) (idle : given ≠ .applied := by nofun)
    (unissued : ∀ directiveId, given ≠ .directiveIssued directiveId := by nofun) :
    Issues platform command now seen s written after outcome := by
  obtain ⟨rfl, rfl⟩ := left
  exact .leaves idle unissued

theorem persistDirectiveId_runs {directiveId : String} {answer : Unit}
    (runs : (persistDirectiveId command directiveId).Runs look s grows seen written after answer) :
    s.look (.issuerSlot command.key ⟨command.tenantId, command.repositoryId, directiveId⟩) = none ∧
      after = written.issue command.key directiveId := by
  rcases runs.lockOn with ⟨_ | _, absent, ⟨⟩, done⟩ | ⟨_ | _, _, _, _, ⟨⟩, done⟩
  · exact ⟨absent, done.1⟩
  · exact done.elim

theorem issue_runs {target : DirectiveTarget} {kind : V1.DirectiveKind} {payload : V1.DirectivePayload} {expiresAt : Int}
    (runs : (issue platform command now target kind payload expiresAt).Runs look s grows seen written after outcome) :
    Issues platform command now seen s written after outcome := by
  unfold issue at runs
  split at runs
  · exact .idle runs
  split at runs
  · exact runs.elim
  rename_i directive bound
  obtain ⟨_, answer, first, done⟩ := runs.bind
  unfold issued at done
  split at done
  next =>
    obtain ⟨_, _, _, _, enqueues⟩ := enqueueInTransaction_runs first.result_ok
    obtain ⟨_, _, first, done⟩ := done.bind
    obtain ⟨issuer, rfl⟩ := persistDirectiveId_runs first
    obtain ⟨rfl, rfl⟩ := done
    exact .issues (boundDirective_issued bound) enqueues issuer
  iterate 3
    · obtain rfl := (enqueueInTransaction_fails first).resolve_left (by simp [Sequencing])
      exact .idle done
  next => exact done.elim
  next => exact done.elim

inductive Effect (platform : DirectivePlatform) (command : WorkCommandRow) (now : Int) (seen : CommandStore → Prop)
    (s written : CommandStore) : WorkCommandPayload → CommandStore → ExecutionOutcome → Prop where
  | refuses {payload : CreateWorkPayload} : Effect platform command now seen s written (.createWork payload) written .taskAlreadyExists
  | creates {payload : CreateWorkPayload} (absent : s.work.tasks.find? (command.taskKey payload.taskId) = none)
      (accepts : s.Accepts (eventOf platform.toPlatform command now payload.taskId 1 1 1)) :
      Effect platform command now seen s written (.createWork payload)
        ((written.insertTask (payload.row (workDigestsOf platform.toPlatform) command.toWorkCommand now)).recorded
          (eventOf platform.toPlatform command now payload.taskId 1 1 1)
          (s.work.headPosition (command.taskKey payload.taskId).stream + 1)) .applied
  | applies {payload : WorkCommandPayload} {after : CommandStore} {outcome : ExecutionOutcome}
      (existing : payload.kind ≠ .createWork) (direct : payload.kind.addressed = false)
      (applies : Applies platform.toPlatform command now s written payload.kind after outcome) :
      Effect platform command now seen s written payload after outcome
  | issues {payload : WorkCommandPayload} {after : CommandStore} {outcome : ExecutionOutcome}
      (addressed : payload.kind.addressed = true)
      (issues : Issues platform command now seen s written after outcome) :
      Effect platform command now seen s written payload after outcome

theorem applyEffect_runs {payload : WorkCommandPayload}
    (runs : (applyEffect platform command now payload).Runs look s grows seen written after outcome) :
    Effect platform command now seen s written payload after outcome := by
  cases payload with
  | createWork payload =>
    rcases createWork_runs runs with ⟨rfl, rfl⟩ | ⟨rfl, absent, accepts, rfl⟩
    · exact .refuses
    · exact .creates absent accepts
  | routeWork => exact .applies nofun rfl (routeWork_runs runs)
  | releaseLease => exact .applies nofun rfl (releaseLease_runs runs)
  | answerWait => exact .applies nofun rfl (answerWait_runs runs)
  | submitReview payload => exact .applies nofun rfl (submitReview_runs payload runs)
  | assign | steer | pause | resume => exact .issues rfl (issue_runs runs)
  | drain payload =>
    simp only [applyEffect, drain] at runs
    split at runs
    · exact runs.elim
    exact .issues rfl (issue_runs runs)

end

section
variable {receipt : NewWorkCommandReceipt} {digest : Bytes} {outcome : WorkCommandReceiptWriteOutcome}

inductive Receipted (receipt : NewWorkCommandReceipt) (digest : Bytes) (now : Int) (seen : CommandStore → Prop)
    (s written : CommandStore) : CommandStore → WorkCommandReceiptWriteOutcome → Prop where
  | inserts (free : s.look (.receiptSlot receipt.key receipt.commandKey digest) = true) :
      Receipted receipt digest now seen s written (written.insertReceipt (receipt.row digest now)) ⟨receipt.row digest now, false⟩
  | replays {existing : WorkCommandReceipt} {earlier : CommandStore} (known : seen earlier)
      (there : earlier.receipts.find? receipt.key = some existing ∨ existing ∈ earlier.receipts.rows ∧ existing.commandKey = receipt.commandKey)
      (same : existing.receiptDigest = digest) : Receipted receipt digest now seen s written written ⟨existing, true⟩

theorem existingReceipt_runs {found : Option WorkCommandReceipt}
    (runs : (existingReceipt receipt digest).Runs look s grows seen written after found) :
    after = written ∧ ∀ existing, found = some existing → ∃ earlier, seen earlier ∧
      (earlier.receipts.find? receipt.key = some existing ∨
        existing ∈ earlier.receipts.rows ∧ existing.commandKey = receipt.commandKey) := by
  obtain ⟨earlier, known, done⟩ := runs.read
  split at done
  next existing there =>
    obtain ⟨rfl, rfl⟩ := done
    refine ⟨rfl, fun _ same => ⟨earlier, known, .inl ?_⟩⟩
    cases same
    exact there
  next =>
    obtain ⟨earlier, known, rfl, rfl⟩ := Runs.read_only done
    refine ⟨rfl, fun existing same => ⟨earlier, known, .inr ?_⟩⟩
    have found : earlier.receipts.rows.find? (fun row => row.commandKey = receipt.commandKey ∧ row.receiptDigest = digest) =
      some existing := same
    have its := List.find?_some found
    rw [decide_eq_true_eq] at its
    exact ⟨List.mem_of_find?_eq_some found, its.1⟩

theorem insertReceipt_runs (runs : (insertReceipt receipt digest now).Runs look s grows seen written after outcome) :
    Receipted receipt digest now seen s written after outcome := by
  rcases runs.lockOn with ⟨_ | _, free, ⟨⟩, done⟩ | ⟨_ | _, _, _, _, ⟨⟩, done⟩
  · obtain ⟨rfl, rfl⟩ := done
    exact .inserts free
  · obtain ⟨_, _ | existing, first, rest⟩ := done.bind <;> obtain ⟨rfl, there⟩ := existingReceipt_runs first
    · exact rest.elim
    · obtain ⟨same, rfl, rfl⟩ := rest.past
      obtain ⟨earlier, known, here⟩ := there existing rfl
      exact .replays known here (not_not.mp same)

theorem appendReceiptInTransaction_runs
    (runs : (appendReceiptInTransaction platform receipt now).Runs look s grows seen written after outcome) :
    receipt.validate now = .ok () ∧ ∃ digest, receipt.digest platform = .ok digest ∧
      (∃ earlier command, seen earlier ∧ earlier.commands.find? receipt.commandKey = some command) ∧
      Receipted receipt digest now seen s written after outcome := by
  unfold appendReceiptInTransaction at runs
  split at runs
  · exact runs.elim
  rename_i digest checked
  obtain ⟨_, valid, hashed⟩ := bind_ok checked
  refine ⟨valid, digest, hashed, ?_⟩
  obtain ⟨_ | command, earlier, known, found, done⟩ := runs.readAs
  · exact done.elim
  refine ⟨⟨earlier, command, known, found⟩, ?_⟩
  obtain ⟨_, _ | existing, first, rest⟩ := done.bind <;> obtain ⟨rfl, there⟩ := existingReceipt_runs first
  · exact insertReceipt_runs rest
  · obtain ⟨same, rfl, rfl⟩ := rest.past
    obtain ⟨earlier, known, here⟩ := there existing rfl
    exact .replays known here (not_not.mp same)

end

section
variable {platform : DirectivePlatform} {payload : WorkCommandPayload}

structure Timely (platform : DirectivePlatform) (command : WorkCommandRow) (payload : WorkCommandPayload) (now : Int) : Prop where
  early : now < command.expiresAt
  kind : payload.kind = command.kind
  digest : payload.digest platform.toPlatform = .ok command.payloadDigest

theorem confirmedOutcome_runs {outcome : ExecutionOutcome}
    (runs : (confirmedOutcome platform command payload now).Runs look s grows seen written after outcome) :
    ¬Timely platform command payload now ∧ after = written ∧ (outcome = .expired ∨ outcome = .payloadMismatch) ∨
      Timely platform command payload now ∧
        (applyEffect platform command now payload).Runs look s grows seen written after outcome := by
  unfold confirmedOutcome at runs
  split at runs
  next late => exact .inl ⟨fun timely => Int.not_lt.mpr late timely.early, runs.1, .inl runs.2⟩
  rename_i early
  split at runs
  next other => exact .inl ⟨fun timely => other timely.kind, runs.1, .inr runs.2⟩
  rename_i kind
  split at runs
  · exact runs.elim
  rename_i digest hashed
  split at runs
  next same => exact .inr ⟨⟨Int.not_le.mp early, not_not.mp kind, hashed.trans (congrArg _ same)⟩, runs⟩
  rename_i other
  refine .inl ⟨fun timely => other ?_, runs.1, .inr runs.2⟩
  exact Except.ok.inj (hashed.symm.trans timely.digest)

inductive Executes (platform : DirectivePlatform) (command : WorkCommandRow) (payload : WorkCommandPayload) (now : Int)
    (grows : CommandStore → CommandStore → Prop) (seen : CommandStore → Prop) (s written : CommandStore) :
    CommandStore → WorkCommandReceiptWriteOutcome → Prop where
  | replays {existing : WorkCommandReceipt} {earlier : CommandStore} (known : seen earlier)
      (there : earlier.receipts.find? ⟨command.tenantId, command.repositoryId, command.confirmReceiptId⟩ = some existing) :
      Executes platform command payload now grows seen s written written ⟨existing, true⟩
  | confirms {middle after : CommandStore} {outcome : ExecutionOutcome} {digest : Bytes} {answer : WorkCommandReceiptWriteOutcome}
      (decided : (confirmedOutcome platform command payload now).Runs look s grows seen written middle outcome)
      (valid : (command.confirmReceipt outcome now).validate now = .ok ())
      (hashed : (command.confirmReceipt outcome now).digest platform.toPlatform = .ok digest)
      (receipted : Receipted (command.confirmReceipt outcome now) digest now seen s middle after answer) :
      Executes platform command payload now grows seen s written after answer

theorem executeConfirmed_runs {answer : WorkCommandReceiptWriteOutcome}
    (runs : (executeConfirmed platform command payload now).Runs look s grows seen written after answer) :
    Executes platform command payload now grows seen s written after answer := by
  obtain ⟨_ | existing, earlier, known, there, done⟩ := runs.readAs
  · obtain ⟨_, _, decided, rest⟩ := done.bind
    obtain ⟨valid, digest, hashed, _, receipted⟩ := appendReceiptInTransaction_runs rest
    exact .confirms decided valid hashed receipted
  · obtain ⟨rfl, rfl⟩ := done
    exact .replays known there

end

section

inductive Reflects (platform : Platform) (command : WorkCommandRow) (outcome : WorkCommandOutcome) (now : Int) (s written : CommandStore) :
    CommandStore → Prop where
  | leaves : Reflects platform command outcome now s written written
  | notes {taskId : String} {old : WorkTaskRow} (unapplied : outcome ≠ .applied) (named : command.taskId = some taskId)
      (found : s.work.tasks.find? (command.taskKey taskId) = some old)
      (accepts : s.Accepts (eventOf platform command now taskId command.kind.asI16 old.state old.state)) :
      Reflects platform command outcome now s written
        (written.recorded (eventOf platform command now taskId command.kind.asI16 old.state old.state)
          (s.work.headPosition (command.taskKey taskId).stream + 1))
  | changes {taskId : String} {old : WorkTaskRow} {next : Int} {after : CommandStore} (applied : outcome = .applied)
      (named : command.taskId = some taskId) (its : old.key = command.taskKey taskId) (running : old.state ≠ 7 ∧ old.state ≠ 8)
      (changed : Changed s written (eventOf platform command now taskId command.kind.asI16 old.state next) old after) :
      Reflects platform command outcome now s written after

theorem applyTaskEffect_runs {answer : Unit}
    (runs : (applyTaskEffect platform command now).Runs look s grows seen written after answer) :
    Reflects platform command .applied now s written after := by
  unfold applyTaskEffect at runs
  split at runs
  next =>
    obtain ⟨rfl, _⟩ := runs
    exact .leaves
  next taskId named =>
    obtain ⟨_, _, first, done⟩ := runs.bind
    obtain ⟨rfl, ⟨row, found, rfl⟩ | ⟨rfl, _⟩⟩ := lockTask_runs first
    · dsimp only at done
      split at done
      next =>
        obtain ⟨rfl, _⟩ := done
        exact .leaves
      next running =>
        obtain ⟨accepts, rfl⟩ := changeTask_runs done
        refine .changes rfl named (mem_of_find? found).2 (not_or.mp running)
          (.mk (.inl rfl) found accepts rfl ?_ ?_ ?_ fun known => ?_)
        · split <;> rfl
        · split <;> rfl
        · split <;> rfl
        · dsimp only [eventOf, WorkCommand.event]
          split
          next => exact ⟨.paused, rfl⟩
          next => exact ⟨.claimed, rfl⟩
          next => exact ⟨.claimed, rfl⟩
          next => exact ⟨.open, rfl⟩
          next => exact known
    · obtain ⟨rfl, _⟩ := done
      exact .leaves

theorem reflect_runs {outcome : WorkCommandOutcome} {answer : Unit}
    (runs : (reflect platform command now outcome).Runs look s grows seen written after answer) :
    Reflects platform command outcome now s written after := by
  unfold reflect at runs
  split at runs
  next applied =>
    subst applied
    exact applyTaskEffect_runs runs
  next unapplied =>
    unfold noteAttempt at runs
    split at runs
    next =>
      obtain ⟨rfl, _⟩ := runs
      exact .leaves
    next taskId named =>
      obtain ⟨_, _, first, done⟩ := runs.bind
      obtain ⟨rfl, ⟨row, found, rfl⟩ | ⟨rfl, _⟩⟩ := lockTask_runs first
      · obtain ⟨accepts, rfl⟩ := appendTaskEvent_runs done
        exact .notes unapplied named found accepts
      · obtain ⟨rfl, _⟩ := done
        exact .leaves

inductive Reports (platform : Platform) (receipt : V1.DirectiveReceipt) (now : Int) (seen : CommandStore → Prop) (s written : CommandStore) :
    CommandStore → Option WorkCommandReceiptWriteOutcome → Prop where
  | idle (unfinished : receipt.terminalOutcome = none) : Reports platform receipt now seen s written written none
  | unissued {earlier : CommandStore} (known : seen earlier) (missing : earlier.look (.issuer receipt.directiveKey) = none) :
      Reports platform receipt now seen s written written none
  | replays {outcome : WorkCommandOutcome} {command : WorkCommandRow} {existing : WorkCommandReceipt}
      (finished : receipt.terminalOutcome = some outcome) (issuer : s.look (.issuer receipt.directiveKey) = some command)
      (there : s.receipts.find? command.key.report = some existing) :
      Reports platform receipt now seen s written written (some ⟨existing, true⟩)
  | reports {outcome : WorkCommandOutcome} {command : WorkCommandRow} {middle after : CommandStore} {digest : Bytes}
      {answer : WorkCommandReceiptWriteOutcome} (finished : receipt.terminalOutcome = some outcome)
      (issuer : s.look (.issuer receipt.directiveKey) = some command) (absent : s.receipts.find? command.key.report = none)
      (reflects : Reflects platform command outcome now s written middle)
      (valid : (command.directiveReceipt receipt outcome now).validate now = .ok ())
      (hashed : (command.directiveReceipt receipt outcome now).digest platform = .ok digest)
      (receipted : Receipted (command.directiveReceipt receipt outcome now) digest now seen s middle after answer) :
      Reports platform receipt now seen s written after (some answer)

theorem applyDirectiveReceipt_runs {receipt : V1.DirectiveReceipt} {answer : Option WorkCommandReceiptWriteOutcome}
    (runs : (applyDirectiveReceipt platform now receipt).Runs look s grows seen written after answer) :
    Reports platform receipt now seen s written after answer := by
  unfold applyDirectiveReceipt at runs
  split at runs
  next unfinished =>
    obtain ⟨rfl, rfl⟩ := runs
    exact .idle unfinished
  next outcome finished =>
    rcases runs.lockOn with ⟨_ | command, issuer, ⟨⟩, done⟩ | ⟨_ | _, _, known, missing, ⟨⟩, done⟩
    · have done := done.lock
      split at done
      next existing there =>
        obtain ⟨rfl, rfl⟩ := done
        exact .replays finished issuer there
      next absent =>
        obtain ⟨_, _, first, rest⟩ := done.bind
        obtain ⟨_, _, second, rest⟩ := rest.bind
        obtain ⟨rfl, rfl⟩ := rest
        obtain ⟨valid, digest, hashed, _, receipted⟩ := appendReceiptInTransaction_runs second
        exact .reports finished issuer absent (reflect_runs first) valid hashed receipted
    · obtain ⟨rfl, rfl⟩ := done
      exact .unissued known missing

end

section
variable {request : NewWorkCommand} {outcome : WorkCommandWriteOutcome}

inductive Records (platform : Platform) (request : NewWorkCommand) (digest : Bytes) (now : Int) (seen : CommandStore → Prop)
    (s written : CommandStore) : CommandStore → WorkCommandWriteOutcome → Prop where
  | inserts (free : s.look (.commandSlot (request.row platform digest now).key (request.row platform digest now).identity) = true)
      (targets : ∀ taskId, request.taskId = some taskId → ∃ earlier, seen earlier ∧
        (earlier.work.tasks.find? ⟨request.tenantId, request.repositoryId, taskId⟩).isSome) :
      Records platform request digest now seen s written (written.insertCommand (request.row platform digest now))
        ⟨request.row platform digest now, false⟩
  | replays {existing : WorkCommandRow} {earlier : CommandStore} (known : seen earlier) (there : existing ∈ earlier.commands.rows)
      (same : existing.requestDigest = digest) : Records platform request digest now seen s written written ⟨existing, true⟩

theorem existingCommand_runs {found : Option WorkCommandRow}
    (runs : (existingCommand platform request).Runs look s grows seen written after found) :
    after = written ∧ ∀ existing, found = some existing → ∃ earlier, seen earlier ∧ existing ∈ earlier.commands.rows := by
  obtain ⟨earlier, known, done⟩ := runs.read
  split at done
  next existing there =>
    obtain ⟨rfl, rfl⟩ := done
    refine ⟨rfl, fun _ same => ⟨earlier, known, ?_⟩⟩
    cases same
    exact (mem_of_find? there).1
  next =>
    obtain ⟨earlier, known, rfl, rfl⟩ := Runs.read_only done
    refine ⟨rfl, fun existing same => ⟨earlier, known, ?_⟩⟩
    exact List.mem_of_find?_eq_some (show earlier.commands.rows.find? _ = some existing from same)

theorem requireTask_runs {answer : Unit} (runs : (requireTask request).Runs look s grows seen written after answer) :
    after = written ∧ ∀ taskId, request.taskId = some taskId → ∃ earlier, seen earlier ∧
      (earlier.work.tasks.find? ⟨request.tenantId, request.repositoryId, taskId⟩).isSome := by
  unfold requireTask at runs
  split at runs
  next none => exact ⟨runs.1, fun _ named => by cases none.symm.trans named⟩
  rename_i taskId named
  obtain ⟨_ | row, earlier, known, found, done⟩ := runs.readAs
  · exact done.elim
  refine ⟨done.1, fun other same => ⟨earlier, known, ?_⟩⟩
  cases named.symm.trans same
  exact isSome_iff_exists.mpr ⟨row, found⟩

theorem insertCommand_runs {digest : Bytes}
    (runs : (insertCommand platform request digest now).Runs look s grows seen written after outcome) :
    Records platform request digest now seen s written after outcome := by
  unfold insertCommand at runs
  dsimp only at runs
  rcases runs.lockOn with ⟨_ | _, free, ⟨⟩, done⟩ | ⟨_ | _, _, _, _, ⟨⟩, done⟩
  · obtain ⟨_, _, first, rest⟩ := done.bind
    obtain ⟨rfl, targets⟩ := requireTask_runs first
    obtain ⟨rfl, rfl⟩ := rest
    exact .inserts free targets
  · obtain ⟨_, _ | existing, first, rest⟩ := done.bind <;> obtain ⟨rfl, there⟩ := existingCommand_runs first
    · exact rest.elim
    · obtain ⟨same, rfl, rfl⟩ := rest.past
      obtain ⟨earlier, known, here⟩ := there existing rfl
      exact .replays known here (not_not.mp same)

theorem recordRequest_runs (runs : (recordRequest platform request now).Runs look s grows seen written after outcome) :
    request.validate now = .ok () ∧ ∃ digest, request.digest platform = .ok digest ∧
      Records platform request digest now seen s written after outcome := by
  unfold recordRequest at runs
  split at runs
  · exact runs.elim
  rename_i digest checked
  obtain ⟨_, valid, hashed⟩ := bind_ok checked
  refine ⟨valid, digest, hashed, ?_⟩
  obtain ⟨_, _ | existing, first, rest⟩ := runs.bind <;> obtain ⟨rfl, there⟩ := existingCommand_runs first
  · exact insertCommand_runs rest
  · obtain ⟨same, rfl, rfl⟩ := rest.past
    obtain ⟨earlier, known, here⟩ := there existing rfl
    exact .replays known here (not_not.mp same)

end

end WorkCommands

section
variable {platform : DirectivePlatform} {receipt : V1.DirectiveReceipt} {outcome : DirectiveReceiptOutcome}

inductive ReceiptTaken (platform : DirectivePlatform) (receipt : V1.DirectiveReceipt) (seen : CommandStore → Prop) (s written : CommandStore) :
    CommandStore → DirectiveReceiptOutcome → Prop where
  | inserts {earlier : CommandStore} {record : DirectiveRecord} {occurredAt : Int} (known : seen earlier)
      (directive : earlier.directives.find? receipt.directiveKey = some record)
      (valid : receipt.validate platform record.directive record.createdAt = .ok occurredAt)
      (absent : s.directiveReceipts.find? (receipt.directiveKey, receipt.digest platform) = none) :
      ReceiptTaken platform receipt seen s written (written.insertDirectiveReceipt ⟨receipt, receipt.digest platform⟩)
        ⟨⟨receipt, receipt.digest platform⟩, false⟩
  | replays {existing : DirectiveReceiptRecord} : ReceiptTaken platform receipt seen s written written ⟨existing, true⟩

theorem recordReceipt_runs (runs : (recordReceipt platform receipt).Runs look s grows seen written after outcome) :
    ReceiptTaken platform receipt seen s written after outcome := by
  obtain ⟨_ | record, earlier, known, directive, done⟩ := runs.readAs
  · exact done.elim
  dsimp only at done
  split at done
  · exact done.elim
  rename_i occurredAt valid
  rcases done.lockOn with ⟨_ | _, missing, ⟨⟩, done⟩ | ⟨_ | _, _, _, _, ⟨⟩, done⟩
  · obtain ⟨rfl, rfl⟩ := done
    exact .inserts known directive valid missing
  · obtain ⟨rfl, rfl⟩ := done
    exact .replays

end

namespace CommandCall
variable {platform : DirectivePlatform}

theorem onClaim_runs {call : ClaimCall} {answer : ClaimAnswer} (runs : (onClaim call now).Runs look s grows seen written after answer) :
    ∃ change, after = written.withClaims change := by
  unfold onClaim at runs
  split at runs
  · exact runs.elim
  have done := runs.lock
  split at done
  · exact ⟨_, done.1⟩
  split at done
  · exact done.elim
  exact ⟨_, done.1⟩

theorem insertOnce_runs {view : View} {taken : view.Value → Bool} {update : CommandStore → CommandStore} {answer : CommandAnswer}
    (runs : (insertOnce view taken update).Runs look s grows seen written after answer) :
    after = written ∨ taken (s.look view) = false ∧ after = update written := by
  rcases runs.lockIf with ⟨free, done⟩ | ⟨_, _, full, done⟩
  · rw [not_eq_true'] at free
    rw [if_neg (by rw [free]; exact false_ne_true)] at done
    exact .inr ⟨free, done.1⟩
  · rw [not_eq_false'] at full
    rw [if_pos full] at done
    exact .inl done.1

inductive Confirms (platform : DirectivePlatform) (principal : VerifiedWorkCommandPrincipal) (key : CommandKey)
    (payload : WorkCommandPayload) (now : Int) (grows : CommandStore → CommandStore → Prop) (seen : CommandStore → Prop)
    (s written : CommandStore) : CommandStore → WorkCommandServiceOutcome → Prop where
  | unknown : Confirms platform principal key payload now grows seen s written written .commandNotFound
  | refused {reason : WorkCommandRefusal} : Confirms platform principal key payload now grows seen s written written (.refused reason)
  | executes {earlier after : CommandStore} {command : WorkCommandRow} {outcome : WorkCommandReceiptWriteOutcome} (known : seen earlier)
      (found : earlier.commands.find? key = some command) (its : principal.Issued command)
      (executes : WorkCommands.Executes platform command payload now grows (fun later => seen later ∧ grows earlier later) s written
        after outcome) : Confirms platform principal key payload now grows seen s written after (.executed command outcome)

theorem confirmation_runs {principal : VerifiedWorkCommandPrincipal} {key : CommandKey} {payload : WorkCommandPayload}
    {outcome : WorkCommandServiceOutcome}
    (runs : (confirmation platform principal key payload now).Runs look s grows seen written after outcome) :
    Confirms platform principal key payload now grows seen s written after outcome := by
  obtain ⟨earlier, known, done⟩ := runs.readOn
  split at done
  next =>
    obtain ⟨rfl, rfl⟩ := done
    exact .unknown
  next command found =>
    unfold confirmCommand at done
    split at done
    next =>
      obtain ⟨rfl, rfl⟩ := done
      exact .refused
    next its =>
      obtain ⟨_, _, first, rest⟩ := done.bind
      obtain ⟨rfl, rfl⟩ := rest
      exact .executes known found (not_not.mp its) (WorkCommands.executeConfirmed_runs first)

inductive Does (platform : DirectivePlatform) (grows : CommandStore → CommandStore → Prop) (seen : CommandStore → Prop) (s : CommandStore) :
    CommandCall → CommandStore → CommandAnswer → Prop where
  | createTask {creation : WorkCreation} {now : Int} (creates : s.Creates platform.toPlatform creation now) :
      Does platform grows seen s (.createTask creation now)
        (s.created platform.toPlatform creation (s.work.headPosition creation.key.stream + 1) now)
        (.created (creation.created (s.work.headPosition creation.key.stream + 1) now))
  | recordNodeTask {creation : WorkCreation} {now : Int} (creates : s.Creates platform.toPlatform creation now) :
      Does platform grows seen s (.recordNodeTask creation now)
        (s.created platform.toPlatform creation (s.work.headPosition creation.key.stream + 1) now)
        (.recorded ⟨creation.created (s.work.headPosition creation.key.stream + 1) now, false⟩)
  | replayNodeTask {creation : WorkCreation} {now : Int} {after : CommandStore} {outcome : WorkTaskCreationOutcome}
      (idle : after = s.advance creation.key.stream (s.work.headPosition creation.key.stream + 1) ∨ after = s)
      (again : outcome.idempotentReplay = true) :
      Does platform grows seen s (.recordNodeTask creation now) after (.recorded outcome)
  | submit {principal : VerifiedWorkCommandPrincipal} {request : NewWorkCommand} {now : Int} {digest : Bytes} {after : CommandStore}
      {outcome : WorkCommandWriteOutcome} (entitled : principal.refusalFor request = none) (valid : request.validate now = .ok ())
      (hashed : request.digest platform.toPlatform = .ok digest)
      (records : WorkCommands.Records platform.toPlatform request digest now seen s s after outcome) :
      Does platform grows seen s (.submit principal request now) after (.submitted outcome)
  | recordPending {request : NewWorkCommand} {command : WorkCommandRow} {now : Int} {digest : Bytes} {after : CommandStore}
      {outcome : WorkCommandReceiptWriteOutcome} (valid : (request.pendingReceipt command).validate now = .ok ())
      (hashed : (request.pendingReceipt command).digest platform.toPlatform = .ok digest)
      (receipted : WorkCommands.Receipted (request.pendingReceipt command) digest now seen s s after outcome) :
      Does platform grows seen s (.recordPending request command now) after (.receipted outcome)
  | confirm {principal : VerifiedWorkCommandPrincipal} {key : CommandKey} {payload : WorkCommandPayload} {now : Int}
      {after : CommandStore} {outcome : WorkCommandServiceOutcome}
      (confirms : Confirms platform principal key payload now grows seen s s after outcome) :
      Does platform grows seen s (.confirm principal key payload now) after (.confirmed outcome)
  | applyDirectiveReceipt {receipt : V1.DirectiveReceipt} {now : Int} {after : CommandStore}
      {outcome : Option WorkCommandReceiptWriteOutcome}
      (reports : WorkCommands.Reports platform.toPlatform receipt now seen s s after outcome) :
      Does platform grows seen s (.applyDirectiveReceipt receipt now) after (.applied outcome)
  | enqueue {directive : V1.AgentDirective} {now : Int} {requirement : DirectiveRequirement} {expiresAt : Int}
      {earlier after : CommandStore} {outcome : DirectiveWriteOutcome} (known : seen earlier) (capable : earlier.Capable directive requirement)
      (valid : Directive.validate platform directive (Directive.normalizeTimestamp now) = .ok (requirement, expiresAt))
      (enqueues : Enqueues platform directive expiresAt (Directive.normalizeTimestamp now) seen s s after outcome) :
      Does platform grows seen s (.enqueue directive now) after (.enqueued outcome)
  | recordDirectiveReceipt {receipt : V1.DirectiveReceipt} {after : CommandStore} {outcome : DirectiveReceiptOutcome}
      (received : ReceiptTaken platform receipt seen s s after outcome) :
      Does platform grows seen s (.recordDirectiveReceipt receipt) after (.directiveReceipted outcome)
  | claim {call : ClaimCall} {now : Int} {change : DelegatedClaims → DelegatedClaims} {answer : ClaimAnswer} :
      Does platform grows seen s (.claim call now) (s.withClaims change) (.claimed answer)
  | ask {wait : WorkTaskWait} {after : CommandStore} {answer : CommandAnswer} (asks : after = s ∨ after = s.insertWait wait) :
      Does platform grows seen s (.ask wait) after answer
  | recordSession {session : SupervisorSessionRow} {after : CommandStore} {answer : CommandAnswer}
      (records : after = s ∨ s.sessions.find? session.key = none ∧ after = s.insertSession session) :
      Does platform grows seen s (.recordSession session) after answer

theorem program_does {call : CommandCall} {answer : CommandAnswer}
    (runs : (program platform call).Runs look s grows seen s after answer) : Does platform grows seen s call after answer := by
  cases call with
  | createTask creation now =>
    obtain ⟨_, _, first, rfl, rfl⟩ := Runs.bind runs
    obtain ⟨creates, rfl, rfl⟩ := createTask_runs first.mapError
    exact .createTask creates
  | recordNodeTask creation now =>
    obtain ⟨_, _, first, rfl, rfl⟩ := Runs.bind runs
    rcases recordNodeTask_runs first.mapError with ⟨creates, rfl, rfl⟩ | ⟨again, idle⟩
    · exact .recordNodeTask creates
    · exact .replayNodeTask idle again
  | submit principal request now =>
    simp only [program] at runs
    split at runs
    · exact runs.elim
    rename_i entitled
    obtain ⟨_, _, first, rfl, rfl⟩ := Runs.bind runs
    obtain ⟨valid, digest, hashed, records⟩ := WorkCommands.recordRequest_runs first.mapError
    exact .submit entitled valid hashed records
  | recordPending request command now =>
    obtain ⟨_, _, first, rfl, rfl⟩ := Runs.bind runs
    obtain ⟨valid, digest, hashed, _, receipted⟩ := WorkCommands.appendReceiptInTransaction_runs first.mapError
    exact .recordPending valid hashed receipted
  | confirm principal key payload now =>
    obtain ⟨_, _, first, rfl, rfl⟩ := Runs.bind runs
    exact .confirm (confirmation_runs first.mapError)
  | applyDirectiveReceipt receipt now =>
    obtain ⟨_, _, first, rfl, rfl⟩ := Runs.bind runs
    exact .applyDirectiveReceipt (WorkCommands.applyDirectiveReceipt_runs first.mapError)
  | enqueue directive now =>
    obtain ⟨_, _, first, rfl, rfl⟩ := Runs.bind runs
    obtain ⟨requirement, expiresAt, valid, ⟨earlier, known, capable⟩, enqueues⟩ := enqueueInTransaction_runs first.mapError
    exact .enqueue known capable valid enqueues
  | recordDirectiveReceipt receipt =>
    obtain ⟨_, _, first, rfl, rfl⟩ := Runs.bind runs
    exact .recordDirectiveReceipt (recordReceipt_runs first.mapError)
  | claim call now =>
    obtain ⟨_, _, first, rfl, rfl⟩ := Runs.bind runs
    obtain ⟨change, rfl⟩ := onClaim_runs first.mapError
    exact .claim
  | ask wait => exact .ask ((insertOnce_runs runs).imp_right And.right)
  | recordSession session =>
    refine .recordSession ((insertOnce_runs runs).imp_right fun both => ⟨?_, both.2⟩)
    exact not_isSome_iff_eq_none.mp (eq_false_iff.mp both.1)

end CommandCall

end MindLeak.Ackplane
