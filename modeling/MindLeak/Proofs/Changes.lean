import MindLeak.Proofs.Frames

/-! The abstract coordination step. Whatever an operation of a local store does
to tasks, log, handoffs and records is one of the changes listed here, with the
guards that let it happen; invariants are proved against this list alone. -/

namespace MindLeak.Lodestar

open Table Option

/-- The writes that move one row and leave handoffs and records alone. -/
inductive Rewrite where
  | claim (agent : String) (branch : Option String) (leaseSecs : Int)
  | renew (agent : String) (leaseSecs : Int)
  | touch (agent : String) (leaseSecs : Int)
  | release (agent : String)
  | recover (expectedOwner target : String) (priorStatus : TaskStatus) (leaseSecs : Int)
  | ask (agent : String)
  | answer (leaseSecs : Int)
  | pause (agent : String)
  | resume (agent : String) (leaseSecs : Int)
  | reconnect (successor : String)
  | reopen

variable {now : Int}

namespace Rewrite

def write (now : Int) : Rewrite → TaskWrite
  | claim agent branch leaseSecs => claimWrite agent branch leaseSecs now
  | renew agent leaseSecs => renewWrite agent leaseSecs now
  | touch agent leaseSecs => touchWrite agent leaseSecs now
  | release agent => releaseWrite agent now
  | recover expectedOwner target priorStatus leaseSecs => recoverWrite expectedOwner target priorStatus leaseSecs now
  | ask agent => askWrite agent now
  | answer leaseSecs => answerWrite leaseSecs now
  | pause agent => pauseWrite agent now
  | resume agent leaseSecs => resumeWrite agent leaseSecs now
  | reconnect successor => reconnectWrite successor now
  | reopen => reopenWrite now

def kind : Rewrite → TaskEventKind
  | claim .. => .claimed
  | renew .. | touch .. => .leaseRenewed
  | release .. => .released
  | recover .. => .claimRecovered
  | ask .. => .questioned
  | answer .. => .answered
  | pause .. => .paused
  | resume .. => .resumed
  | reconnect .. => .clauseReconnected
  | reopen => .reopened

/-- Which operation issues which write, to which row and when. -/
inductive Issues : Op → String → Int → Rewrite → Prop
  | claim {id agent branch leaseSecs paths symbols now} :
      Issues (.claim id agent leaseSecs paths symbols now) id now (.claim agent branch leaseSecs)
  | renew {id agent leaseSecs now} : Issues (.renew id agent leaseSecs now) id now (.renew agent leaseSecs)
  | touch {id agent leaseSecs now} : Issues (.touch id agent leaseSecs now) id now (.touch agent leaseSecs)
  | release {id agent now} : Issues (.release id agent now) id now (.release agent)
  | recover {id expectedOwner recovering why reviewer leaseSecs now priorStatus} :
      Issues (.recover id expectedOwner recovering why reviewer leaseSecs now) id now
        (.recover expectedOwner recovering.agent priorStatus leaseSecs)
  | ask {id agent question audience now} : Issues (.ask id agent question audience now) id now (.ask agent)
  | answer {id answer author leaseSecs now} : Issues (.answer id answer author leaseSecs now) id now (.answer leaseSecs)
  | pause {id agent why now} : Issues (.pause id agent why now) id now (.pause agent)
  | resume {id agent leaseSecs now} : Issues (.resume id agent leaseSecs now) id now (.resume agent leaseSecs)
  | reconnect {id agent now successor} : Issues (.reconnect id agent now) id now (.reconnect successor)
  | reopen {id now} : Issues (.reopen id now) id now .reopen

/-- What was checked of the row besides the write's own guard. -/
def Admits (now : Int) (task : Task) : Rewrite → Prop
  | recover _ _ priorStatus _ => priorStatus = task.status ∧ Store.Recoverable now task
  | reconnect _ => task.status = .claimed ∧ task.leaseExpiresAt.any (fun expires => decide (now < expires)) = true
  | reopen => task.status = .inReview ∨ (task.status = .blocked ∧ task.blockedBy = none)
  | _ => True

def takesFrom : Rewrite → List TaskStatus
  | claim .. => [.open, .claimed, .needsInput, .paused]
  | recover .. => [.claimed, .needsInput, .paused]
  | renew .. | touch .. | release .. | ask .. | pause .. | reconnect .. => [.claimed]
  | answer .. => [.needsInput]
  | resume .. => [.paused]
  | reopen => [.inReview, .blocked]

def leadsTo : Rewrite → TaskStatus
  | claim .. | renew .. | touch .. | recover .. | answer .. | resume .. | reconnect .. => .claimed
  | release .. | reopen => .open
  | ask .. => .needsInput
  | pause .. => .paused

variable {rewrite : Rewrite} {task : Task}

section
variable (taken : (rewrite.write now).takes task = true)
include taken

theorem takes_from (admitted : rewrite.Admits now task) :
    task.status ∈ rewrite.takesFrom := by
  cases rewrite with
  | claim agent branch leaseSecs =>
    simp only [write, claimWrite, Bool.and_eq_true, Bool.or_eq_true, decide_eq_true_eq] at taken
    simp only [takesFrom, List.mem_cons, List.not_mem_nil, or_false]
    rcases taken.2 with ((free | lapsed) | own) | parked
    · exact .inl free
    · exact .inr (.inl lapsed.1)
    · exact .inr (.inl own.1)
    · exact .inr (.inr parked.1)
  | recover expectedOwner target priorStatus leaseSecs =>
    rcases admitted.2 with lapsed | parked
    · simp [takesFrom, lapsed.1]
    · simpa [takesFrom] using .inr parked
  | reopen =>
    rcases admitted with review | gate
    · simp [takesFrom, review]
    · simp [takesFrom, gate.1]
  | reconnect successor => simp [takesFrom, admitted.1]
  | renew | touch | release | ask | answer | pause | resume =>
    simp_all [write, takesFrom, renewWrite, touchWrite, releaseWrite, askWrite, answerWrite, pauseWrite, resumeWrite]

theorem leads_to (admitted : rewrite.Admits now task) :
    ((rewrite.write now).leaves task).status = rewrite.leadsTo := by
  cases rewrite with
  | reconnect successor => exact admitted.1
  | renew | touch => exact List.mem_singleton.mp (takes_from taken admitted)
  | _ => rfl

theorem unfinished (admitted : rewrite.Admits now task) :
    task.status.isFinished = false ∧ ((rewrite.write now).leaves task).status.isFinished = false := by
  have running : ∀ status ∈ rewrite.takesFrom, status.isFinished = false := by
    cases rewrite <;> simp [takesFrom, TaskStatus.isFinished]
  refine ⟨running _ (takes_from taken admitted), ?_⟩
  rw [leads_to taken admitted]
  cases rewrite <;> rfl

end

end Rewrite

namespace Store

inductive Change (env : Env) (s : Store) : Op → Store → Prop
  | aside {op after} (same : s.SameWork after) : Change env s op after
  | checked {seen evidence requested inputs now checkedAt after} (record : ConformanceRecord)
      (numbered : record.id = s.conformanceSeq + 1)
      (done : after = { s with
        conformance := s.conformance.insertOrIgnore record, conformanceSeq := s.conformanceSeq + 1 }) :
      Change env s (.check seen evidence requested inputs now checkedAt) after
  | noted {id agent alsoServes now after task note} (middle : Store) (found : s.getTask id = some task)
      (claimed : task.status = .claimed) (same : s.SameWork middle) (kind : note.kind = .coverageDeclared)
      (done : after = middle.appendEvent now task note) :
      Change env s (.declareCoverage id agent alsoServes now) after
  | rewrote {op id now after middle note task} (rewrite : Rewrite) (issued : Rewrite.Issues op id now rewrite)
      (found : s.getTask id = some task) (taken : (rewrite.write now).takes task = true)
      (admitted : rewrite.Admits now task) (kind : note.kind = rewrite.kind)
      (wrote : middle = s.moved id now (rewrite.write now) note task) (beside : middle.Beside after) :
      Change env s op after
  | blocked {id blockedBy why actor now task middle after} (found : s.getTask id = some task)
      (unfinished : task.status.isFinished = false)
      (awaits : ∀ predecessor, blockedBy = some predecessor → s.Awaits id predecessor false)
      (wrote : middle = s.moved id now (blockWrite blockedBy now) ⟨.blocked, some actor, detailOf why⟩ task)
      (beside : Beside { middle with
        handoffs := (blockedBy.map fun predecessor =>
          s.handoffs.insertOrIgnore ⟨predecessor, id, now⟩).getD s.handoffs } after) :
      Change env s (.block id blockedBy why actor now) after
  | completed {seen id agent evidence check lessons now owner record task middle after}
      (resolved : resolveAgent agent = .ok owner)
      (validated : seen.validateCompletion env id owner evidence check lessons now = .ok ())
      (stored : s.conformance.find? check.id = some record) (named : record.taskId = some id)
      (agrees : record.verdict = check.verdict) (found : s.getTask id = some task)
      (taken : (completeWrite owner check.verdict.targetStatus now).takes task = true)
      (wrote : middle = s.moved id now (completeWrite owner check.verdict.targetStatus now)
        ⟨.conformanceRecorded, some owner, .verdict check.verdict check.id⟩ task)
      (done : after = if check.verdict.targetStatus = .done then middle.opened id now else middle) :
      Change env s (.complete seen id agent evidence check lessons now) after
  | abandoned {seen id acknowledgeBranch now task middle after} (found : s.getTask id = some task)
      (allowed : refuseAbandon task now = .ok ())
      (wrote : middle = s.moved id now (abandonWrite now) ⟨.abandoned, none, .empty⟩ task)
      (beside : (middle.opened id now).Beside after) :
      Change env s (.abandon seen id acknowledgeBranch now) after
  | resolved {id resolver now task middle note overruled after} (found : s.getTask id = some task)
      (waiting : task.status = .inReview) (kind : note.kind = .resolved)
      (wrote : middle = s.moved id now (resolveWrite resolver overruled now) note task)
      (beside : (middle.opened id now).Beside after) :
      Change env s (.resolve id resolver now) after
  | created {goalId title acceptance parent predecessor alsoServes now task after}
      (created : s.Created after task predecessor now) :
      Change env s (.createTask goalId title acceptance parent predecessor alsoServes now) after
  | materialized {drafts now after} (created : Relation.ReflTransGen (CreatedFree now) s after) :
      Change env s (.materialize drafts now) after
  | amended {active outgoing incoming draftId amendedBy approvedBy rationale now before staged after amendment}
      (committed : amendConstitution env (amendmentReads active outgoing incoming draftId) s draftId amendedBy approvedBy
        rationale now = .ok (amendment, after))
      (read : (amendmentReads active outgoing incoming draftId).before = some before) (apart : before ≠ draftId)
      (setup : staged = (((s.retireVersion before).promote draftId (Text.trim amendedBy) now).carryControls draftId
        |>.linkSuccessors before draftId).carryBindings before)
      (tasks : after.tasks = (staged.carryTasks before now).tasks) (events : after.taskEvents = s.taskEvents)
      (handoffs : after.handoffs = s.handoffs) (conformance : after.conformance = s.conformance)
      (counter : after.conformanceSeq = s.conformanceSeq) :
      Change env s (.amend active outgoing incoming draftId amendedBy approvedBy rationale now) after
  | reset {confirmation} (confirmed : confirmation = "RESET LODESTAR") : Change env s (.reset confirmation) s.cleared

theorem carryTasks_rows (staged : Store) (before : String) (now : Int) :
    ∃ carry : Task → Task, (∀ task, ∃ goalId updatedAt, carry task = { task with goalId := goalId, updatedAt := updatedAt }) ∧
      ∀ key, (staged.carryTasks before now).getTask key = (staged.getTask key).map carry := by
  refine ⟨_, ?_, fun key => find?_update staged.tasks (staged.followsClause before) (fun task =>
    { task with goalId := (staged.movedTo before task.goalId).getD task.goalId, updatedAt := now }) (fun _ => rfl) key⟩
  intro task
  split
  · exact ⟨_, _, rfl⟩
  · exact ⟨task.goalId, task.updatedAt, rfl⟩

variable {env : Env}

theorem settle_change {s : Store} {op : Op} {result : Result Store}
    (each : ∀ after, result = .ok after → Change env s op after) : Change env s op (s.settle result) := by
  cases result with
  | error failure => exact .aside (.refl s)
  | ok after => exact each after rfl

theorem settled_change {α : Type} {s : Store} {op : Op} {result : Result (α × Store)}
    (each : ∀ value after, result = .ok (value, after) → Change env s op after) :
    Change env s op (s.settled result) := by
  rcases result with failure | ⟨value, after⟩
  · exact .aside (.refl s)
  · exact each value after rfl

theorem settled_error {s : Store} {α : Type} {result : Result (α × Store)} {failure : LodestarError}
    (failed : result = .error failure) : s.settled result = s := by
  rw [failed]
  rfl

variable {s after : Store}

theorem settled_ok {α : Type} {result : Result (α × Store)} {value : α}
    (done : result = .ok (value, after)) : s.settled result = after := by
  rw [done]
  rfl

variable {won : Bool} {id : String}

theorem answered_change {op : Op} {note : EventNote}
    (rewrite : Rewrite) (issued : Rewrite.Issues op id now rewrite)
    (admitted : ∀ task, s.getTask id = some task → rewrite.Admits now task) (kind : note.kind = rewrite.kind)
    (answered : s.Answered id now (rewrite.write now) note won after) : Change env s op after := by
  rcases answered with ⟨_, rfl, _⟩ | ⟨_, middle, ⟨task, found, taken, wrote⟩, beside⟩
  · exact .aside (.refl after)
  · exact .rewrote rewrite issued found taken (admitted task found) kind wrote beside

theorem recover_change {id expectedOwner why : String} {recovering : RecoveringSession}
    {reviewer : Option String} {leaseSecs now : Int}
    (done : s.recoverClaimAuthorized id expectedOwner recovering why reviewer leaseSecs now = .ok (won, after)) :
    Change env s (.recover id expectedOwner recovering why reviewer leaseSecs now) after := by
  obtain ⟨prior, note, found, recoverable, answered, kind, _⟩ := recoverClaimAuthorized_ok done
  refine answered_change (.recover expectedOwner recovering.agent prior.status leaseSecs) .recover ?_ kind
    answered
  intro task also
  cases found.symm.trans also
  exact ⟨rfl, recoverable⟩

theorem reconnect_change {id agent successor : String}
    (done : s.reconnectClaimClause id agent now = .ok (successor, after)) :
    Change env s (.reconnect id agent now) after := by
  obtain ⟨task, note, found, claimed, _, unexpired, kind, moves⟩ := reconnectClaimClause_ok done
  refine answered_change (.reconnect successor) .reconnect ?_ kind (.inr ⟨rfl, moves⟩)
  intro task also
  cases found.symm.trans also
  exact ⟨claimed, unexpired⟩

theorem reopen_change
    (done : s.reopenTask id now = .ok (won, after)) : Change env s (.reopen id now) after := by
  obtain ⟨task, found, ready, moves⟩ := reopenTask_ok done
  refine answered_change .reopen .reopen ?_ rfl (.inr ⟨rfl, moves⟩)
  intro task also
  cases found.symm.trans also
  exact ready

theorem block_change {blockedBy why : Option String} {actor : String}
    (done : s.blockTask id blockedBy why actor now = .ok (won, after)) :
    Change env s (.block id blockedBy why actor now) after := by
  obtain ⟨task, found, unfinished, awaits, middle, ⟨also, stored, _, wrote⟩, beside⟩ := blockTask_ok done
  cases found.symm.trans stored
  subst wrote
  exact .blocked found unfinished awaits rfl beside

theorem abandon_change {seen s after : Store} {acknowledgeBranch : Bool}
    (done : s.abandonTask (recordedBranches (seen.eventsOf id)) id acknowledgeBranch now = .ok (won, after)) :
    Change env s (.abandon seen id acknowledgeBranch now) after := by
  obtain ⟨task, middle, found, allowed, ⟨also, stored, _, wrote⟩, beside⟩ := abandonTask_ok done
  cases found.symm.trans stored
  exact .abandoned found allowed wrote beside

theorem resolve_change {id resolver : String}
    (done : s.resolveInReview id resolver now = .ok (won, after)) : Change env s (.resolve id resolver now) after := by
  obtain ⟨task, middle, note, overruled, found, waiting, kind, ⟨also, stored, _, wrote⟩, beside⟩ :=
    resolveInReview_ok done
  cases found.symm.trans stored
  exact .resolved found waiting kind wrote beside

theorem complete_change {seen s after : Store} {id agent : String} {evidence : ConformanceEvidence}
    {check : ConformanceCheck} {lessons : List Lesson} {result : ConformanceResult}
    (done : completeTask env seen s id agent evidence check lessons now = .ok (result, after)) :
    Change env s (.complete seen id agent evidence check lessons now) after := by
  obtain ⟨owner, record, middle, resolved, validated, stored, named, agrees, ⟨task, found, taken, wrote⟩, done⟩ :=
    completeTask_ok done
  exact .completed resolved validated stored named agrees found taken wrote done

theorem amend_change {active outgoing incoming s after : Store}
    {draftId amendedBy approvedBy rationale : String} {amendment : ConstitutionAmendment}
    (done : amendConstitution env (amendmentReads active outgoing incoming draftId) s draftId amendedBy approvedBy
      rationale now = .ok (amendment, after)) :
    Change env s (.amend active outgoing incoming draftId amendedBy approvedBy rationale now) after := by
  obtain ⟨before, staged, amendments, read, apart, setup, _, _, _, _, _, same⟩ := amendConstitution_ok done
  subst same setup
  exact .amended done read apart rfl rfl rfl rfl rfl rfl

theorem reset_change {confirmation : String}
    (done : s.resetDatabase confirmation = .ok after) : Change env s (.reset confirmation) after := by
  obtain ⟨confirmed, done⟩ := ite_else done
  cases done
  exact .reset (not_not.mp confirmed)

theorem perform_change (env : Env) (s : Store) (op : Op) : Change env s op (s.perform env op) := by
  have apart := perform_sameWork env s op
  cases op with
  | createTask => exact settled_change fun _ _ done => .created (createTaskAfterOn_ok done)
  | materialize => exact settle_change fun _ done => .materialized (materializeTasks_ok done)
  | claim => exact settled_change fun _ _ done => answered_change _ .claim (fun _ _ => trivial) rfl (claimTask_ok done)
  | renew => exact settled_change fun _ _ done => answered_change _ .renew (fun _ _ => trivial) rfl (attempt_ok done)
  | touch => exact settled_change fun _ _ done => answered_change _ .touch (fun _ _ => trivial) rfl (attempt_ok done)
  | release => exact settled_change fun _ _ done => answered_change _ .release (fun _ _ => trivial) rfl (attempt_ok done)
  | recover => exact settled_change fun _ _ done => recover_change done
  | ask =>
    exact settled_change fun _ _ done =>
      answered_change _ .ask (fun _ _ => trivial) rfl (.inr ⟨rfl, askQuestion_ok done⟩)
  | answer =>
    exact settled_change fun _ _ done => answered_change _ .answer (fun _ _ => trivial) rfl (answerQuestion_ok done)
  | pause => exact settled_change fun _ _ done => answered_change _ .pause (fun _ _ => trivial) rfl (pauseTask_ok done)
  | resume => exact settled_change fun _ _ done => answered_change _ .resume (fun _ _ => trivial) rfl (attempt_ok done)
  | declareCoverage =>
    refine settled_change fun _ _ done => ?_
    obtain ⟨task, coverage, found, claimed, done⟩ := declareCoverage_ok done
    exact .noted { s with goalCoverage := coverage } found claimed ⟨rfl, rfl, rfl, rfl, rfl⟩ rfl done
  | reconnect => exact settled_change fun _ _ done => reconnect_change done
  | block => exact settled_change fun _ _ done => block_change done
  | reopen => exact settled_change fun _ _ done => reopen_change done
  | abandon => exact settled_change fun _ _ done => abandon_change done
  | resolve => exact settled_change fun _ _ done => resolve_change done
  | check =>
    refine settled_change fun _ _ done => ?_
    obtain ⟨record, numbered, done⟩ := checkConformance_ok done
    exact .checked record numbered done
  | complete => exact settled_change fun _ _ done => complete_change done
  | amend => exact settled_change fun _ _ done => amend_change done
  | reset => exact settle_change fun _ done => reset_change done
  -- the others write nothing of coordination
  | _ => exact .aside (apart (by simp [Op.writes]))

end Store

/-! What adopting a version does to the clauses, row by row: the outgoing
version's active clauses retire, the draft's become active, and an outgoing
clause learns its successor by slug. -/

def GoalRow.restated (versionId : String) (fromStatus toStatus : GoalStatus) (row : GoalRow) : GoalRow :=
  if row.constitutionVersion = some versionId ∧ row.status = fromStatus then { row with status := toStatus } else row

section
variable {versionId : String} {fromStatus toStatus : GoalStatus} (row : GoalRow)

@[simp] theorem GoalRow.restated_id : (row.restated versionId fromStatus toStatus).id = row.id := by
  unfold restated
  split <;> rfl

@[simp] theorem GoalRow.restated_slug : (row.restated versionId fromStatus toStatus).slug = row.slug := by
  unfold restated
  split <;> rfl

@[simp] theorem GoalRow.restated_version :
    (row.restated versionId fromStatus toStatus).constitutionVersion = row.constitutionVersion := by
  unfold restated
  split <;> rfl

@[simp] theorem GoalRow.restated_supersededBy :
    (row.restated versionId fromStatus toStatus).supersededBy = row.supersededBy := by
  unfold restated
  split <;> rfl

end

/-- A clause row once the outgoing version is retired and the draft promoted. -/
def GoalRow.handedOver (before draftId : String) (row : GoalRow) : GoalRow :=
  (row.restated before .active .superseded).restated draftId .draft .active

section
variable {before draftId : String} (row : GoalRow)

@[simp] theorem GoalRow.handedOver_id : (row.handedOver before draftId).id = row.id := by simp [handedOver]

@[simp] theorem GoalRow.handedOver_slug : (row.handedOver before draftId).slug = row.slug := by simp [handedOver]

@[simp] theorem GoalRow.handedOver_version :
    (row.handedOver before draftId).constitutionVersion = row.constitutionVersion := by simp [handedOver]

@[simp] theorem GoalRow.handedOver_supersededBy :
    (row.handedOver before draftId).supersededBy = row.supersededBy := by simp [handedOver]

theorem GoalRow.handedOver_active {row : GoalRow} (active : (row.handedOver before draftId).status = .active) :
    (row.status = .draft ∧ row.constitutionVersion = some draftId) ∨
      (row.status = .active ∧ row.constitutionVersion ≠ some before) := by
  unfold handedOver at active
  by_cases outgoing : row.constitutionVersion = some before ∧ row.status = .active
  · simp [restated, outgoing] at active
  have kept : row.restated before .active .superseded = row := if_neg outgoing
  rw [kept] at active
  by_cases drafted : row.constitutionVersion = some draftId ∧ row.status = .draft
  · exact .inl ⟨drafted.2, drafted.1⟩
  · have same : row.restated draftId .draft .active = row := if_neg drafted
    rw [same] at active
    exact .inr ⟨active, fun version => outgoing ⟨version, active⟩⟩

end

namespace Store

theorem find?_setClauses (s : Store) (versionId key : String) (fromStatus toStatus : GoalStatus) :
    (s.setClauses versionId fromStatus toStatus).goals.find? key =
      (s.goals.find? key).map fun row => row.restated versionId fromStatus toStatus := by
  simp only [setClauses, find?_update, GoalRow.restated, Bool.and_eq_true, decide_eq_true_eq]

theorem find?_handedOver (s : Store) (before draftId amendedBy key : String) (now : Int) :
    ((s.retireVersion before).promote draftId amendedBy now).goals.find? key =
      (s.goals.find? key).map fun row => row.handedOver before draftId := by
  rw [promote, find?_setClauses]
  have retired : (((s.retireVersion before).setVersion draftId (fun row => decide (row.status = .draft)) fun row =>
      { row with status := .active, activatedBy := some amendedBy, activatedAt := some now }).goals.find? key) =
      (s.goals.find? key).map fun row => row.restated before .active .superseded := by
    exact find?_setClauses _ before key .active .superseded
  rw [retired, map_map]
  rfl

theorem mem_handedOver {s : Store} {before draftId amendedBy : String} {now : Int} {row : GoalRow} :
    row ∈ ((s.retireVersion before).promote draftId amendedBy now).goals.rows ↔
      ∃ old ∈ s.goals.rows, row = old.handedOver before draftId := by
  constructor
  · intro member
    have found := find?_of_mem member
    rw [find?_handedOver] at found
    obtain ⟨old, stored, same⟩ := map_eq_some_iff.mp found
    exact ⟨old, (mem_of_find? stored).1, same.symm⟩
  · rintro ⟨old, member, rfl⟩
    have found := find?_of_mem member
    have moved := find?_handedOver s before draftId amendedBy (Row.key old) now
    rw [found] at moved
    exact (mem_of_find? moved).1

theorem find?_linkSuccessors (s : Store) (before draftId key : String) :
    (s.linkSuccessors before draftId).goals.find? key = (s.goals.find? key).map fun row =>
      if row.constitutionVersion = some before ∧ row.supersededBy = none ∧ (s.successorOf draftId row.slug).isSome then
        { row with supersededBy := s.successorOf draftId row.slug } else row := by
  simp only [linkSuccessors, find?_update, Bool.and_eq_true, decide_eq_true_eq, isNone_iff_eq_none, and_assoc]

theorem successorOf_isSome {s : Store} {versionId slug : String} :
    (s.successorOf versionId slug).isSome = true ↔
      ∃ row ∈ s.goals.rows, row.constitutionVersion = some versionId ∧ row.status = .active ∧ row.slug = slug := by
  simp only [successorOf, isSome_map, List.find?_isSome, Bool.and_eq_true, decide_eq_true_eq, and_assoc]

end Store

def redrafted : List (Store → Op) :=
  [fun s => .draftClause s "constitution:v2" .objective "Ship" "It ships daily" 5,
    fun s => .proposeAmendment s none 4,
    fun _ => .createTask "goal:ship@constitution:v1" "first" "works" none none [] 3,
    fun _ => .activate "constitution:v1" "ann" 2,
    fun s => .draftClause s "constitution:v1" .objective "Ship" "It ships" 1,
    fun s => .proposeConstitution s none 0]

theorem redrafted_ready : Ready redrafted := by simp +contextual [redrafted, Op.enabled, Op.reads]

/-- The draft adopted, by an amendment that reads what it then replaces. -/
def amendedOnce : List (Store → Op) :=
  (fun s => .amend s s s "constitution:v2" "ann" "bob" "daily" 6) :: redrafted

theorem amendedOnce_ready : Ready amendedOnce := by simp +contextual [amendedOnce, redrafted_ready, Op.enabled, Op.reads]

end MindLeak.Lodestar
