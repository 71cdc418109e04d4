import MindLeak.Proofs.Rows

/-! One law an operation: what a successful answer says about the row it found
and the store it left. Callers cite these and never unfold an operation again. -/

namespace MindLeak.Lodestar

open Option

namespace Store
variable {s after : Store} {now leaseSecs : Int} {id agent goalId successor : String} {won : Bool} {env : Env}
  {alsoServes : List String} {task : Task} {predecessor : Option String}

/-- A write of one row with nothing but declared scope and dialogue beside it. -/
def Moves (s : Store) (id : String) (now : Int) (write : TaskWrite) (note : EventNote) (after : Store) : Prop :=
  ∃ middle, s.Wrote id now write note middle ∧ middle.Beside after

theorem Wrote.moves {write : TaskWrite} {note : EventNote} (wrote : s.Wrote id now write note after) :
    s.Moves id now write note after := ⟨after, wrote, .refl after⟩

/-- An answer of false changed nothing; true wrote the row it found. -/
def Answered (s : Store) (id : String) (now : Int) (write : TaskWrite) (note : EventNote) (won : Bool)
    (after : Store) : Prop :=
  (won = false ∧ after = s ∧ s.Refused id write) ∨ (won = true ∧ s.Moves id now write note after)

theorem attempt_ok {write : TaskWrite} {note : EventNote} (done : s.attempt id now write note = .ok (won, after)) :
    s.Answered id now write note won after := by
  simp only [attempt, transition_eq, ok_bind, pure_eq] at done
  split at done
  next missed =>
    cases done
    exact .inl ⟨rfl, rfl, refused_of_none missed⟩
  next middle committed =>
    cases done
    exact .inr ⟨rfl, (wrote_of_taken committed).moves⟩

theorem claimTask_ok {paths symbols : Option (List String)}
    (done : s.claimTask env id agent leaseSecs paths symbols now = .ok (won, after)) :
    s.Answered id now (claimWrite agent (s.declaredBranch agent) leaseSecs now)
      ⟨.claimed, some agent, .leaseSecs leaseSecs⟩ won after := by
  obtain ⟨paths, _, done⟩ := bind_ok done
  obtain ⟨_, _, done⟩ := bind_ok done
  simp only [transition_eq, ok_bind, pure_eq] at done
  split at done
  next missed =>
    cases done
    exact .inl ⟨rfl, rfl, refused_of_none missed⟩
  next middle committed =>
    obtain ⟨first, declared, done⟩ := bind_ok done
    obtain ⟨second, also, done⟩ := bind_ok done
    cases done
    exact .inr ⟨rfl, middle, wrote_of_taken committed, (Beside.replaceDeclared declared).trans (.replaceDeclared also)⟩

theorem askQuestion_ok {question : String} {audience : Option String}
    (done : s.askQuestion id agent question audience now = .ok (won, after)) :
    s.Moves id now (askWrite agent now)
      ⟨.questioned, some agent, ((normalizeAudience audience).map EventDetail.audience).getD .empty⟩ after := by
  simp only [askQuestion, throw_eq, error_bind, transition_eq, ok_bind, pure_eq] at done
  obtain ⟨_, done⟩ := ite_else done
  split at done
  · split at done <;> cases done
  rename_i middle committed
  cases done
  exact ⟨middle, wrote_of_taken committed, .appendQa middle _⟩

theorem answerQuestion_ok {answer author : String}
    (done : s.answerQuestion id answer author leaseSecs now = .ok (won, after)) :
    s.Answered id now (answerWrite leaseSecs now) ⟨.answered, some author, .leaseSecs leaseSecs⟩ won after := by
  simp only [answerQuestion, transition_eq, ok_bind, pure_eq] at done
  split at done
  next missed =>
    cases done
    exact .inl ⟨rfl, rfl, refused_of_none missed⟩
  next middle committed =>
    cases done
    exact .inr ⟨rfl, middle, wrote_of_taken committed, .appendQa middle _⟩

theorem pauseTask_ok {why : Option String} (done : s.pauseTask id agent why now = .ok (won, after)) :
    s.Answered id now (pauseWrite agent now) ⟨.paused, some agent, detailOf why⟩ won after := by
  simp only [pauseTask, transition_eq, ok_bind, pure_eq] at done
  split at done
  next missed =>
    cases done
    exact .inl ⟨rfl, rfl, refused_of_none missed⟩
  next middle committed =>
    cases done
    exact .inr ⟨rfl, middle, wrote_of_taken committed, .appendNote middle _ _ _ _⟩

/-- A recovery is allowed of a parked row, or of a claim whose lease ran out. -/
def Recoverable (now : Int) (task : Task) : Prop :=
  (task.status = .claimed ∧ lapsed now task = true) ∨ task.status = .needsInput ∨ task.status = .paused

theorem authorizeRecovery_ok {prior : Task} {expectedOwner : String} {recovering : RecoveringSession}
    {reviewer : Option String} (done : authorizeRecovery prior expectedOwner recovering reviewer
      (decide (prior.status = .paused) && prior.parkedAt.any fun parked => decide (now ≤ parked + PARKING_GRACE_SECS))
      now = .ok ()) : Recoverable now prior := by
  generalize early : (decide (prior.status = .paused) &&
    prior.parkedAt.any fun parked => decide (now ≤ parked + PARKING_GRACE_SECS)) = parkedBeforeGrace at done
  cases parkedBeforeGrace with
  | true =>
    rw [Bool.and_eq_true, decide_eq_true_eq] at early
    exact .inr (.inr early.1)
  | false =>
    obtain ⟨_, done⟩ := ite_else done
    cases status : prior.status <;> simp only [status] at done
    case claimed =>
      cases out : lapsed now prior with
      | true => exact .inl ⟨status, out⟩
      | false => simp [out] at done
    case needsInput => exact .inr (.inl status)
    case paused => exact .inr (.inr status)
    all_goals simp at done

theorem recoverClaimAuthorized_ok {expectedOwner : String} {recovering : RecoveringSession} {why : String}
    {reviewer : Option String}
    (done : s.recoverClaimAuthorized id expectedOwner recovering why reviewer leaseSecs now = .ok (won, after)) :
    ∃ prior note, s.getTask id = some prior ∧ Recoverable now prior ∧
      s.Answered id now (recoverWrite expectedOwner recovering.agent prior.status leaseSecs now) note won after ∧
      note.kind = .claimRecovered ∧ ∃ text by_, note.detail = .recovered expectedOwner prior.status text by_ := by
  unfold recoverClaimAuthorized at done
  simp only [throw_eq, error_bind, pure_eq, transition_eq, ok_bind] at done
  obtain ⟨_, done⟩ := ite_else done
  split at done
  · cases done
  rename_i prior owner located
  obtain ⟨stored, found, owned⟩ := bind_eq_some_iff.mp located
  obtain ⟨_, owned, same⟩ := map_eq_some_iff.mp owned
  cases same
  obtain ⟨expected, done⟩ := ite_else done
  cases not_not.mp expected
  obtain ⟨_, authorised, done⟩ := bind_ok done
  have recoverable := authorizeRecovery_ok authorised
  obtain ⟨_, done⟩ := ite_else done
  split at done
  next missed =>
    cases done
    exact ⟨prior, ⟨.claimRecovered, none, .recovered _ prior.status why none⟩, found, recoverable,
      .inl ⟨rfl, rfl, refused_of_none missed⟩, rfl, _, _, rfl⟩
  next middle committed =>
    have wrote := wrote_of_taken committed
    split at done <;> cases done
    · exact ⟨prior, _, found, recoverable, .inr ⟨rfl, wrote.moves⟩, rfl, _, _, rfl⟩
    · exact ⟨prior, _, found, recoverable, .inr ⟨rfl, middle, wrote, .appendQa middle _⟩, rfl, _, _, rfl⟩

theorem reconnectClaimClause_ok (done : s.reconnectClaimClause id agent now = .ok (successor, after)) :
    ∃ task note, s.getTask id = some task ∧ task.status = .claimed ∧ heldBy agent task = true ∧
      (task.leaseExpiresAt.any fun expires => decide (now < expires)) = true ∧ note.kind = .clauseReconnected ∧
      s.Moves id now (reconnectWrite successor now) note after := by
  unfold reconnectClaimClause at done
  simp only [throw_eq, error_bind, pure_eq, transition_eq, ok_bind] at done
  split at done
  · cases done
  rename_i task found
  obtain ⟨held, done⟩ := ite_else done
  simp only [Bool.not_eq_true', Bool.not_eq_false, Bool.and_eq_true, decide_eq_true_eq] at held
  split at done
  · cases done
  split at done
  · cases done
  split at done
  · cases done
  rename_i middle committed
  cases done
  exact ⟨task, _, found, held.1.1, held.1.2, held.2, rfl, (wrote_of_taken committed).moves⟩
  next => cases done

theorem reopenTask_ok (done : s.reopenTask id now = .ok (won, after)) : ∃ task, s.getTask id = some task ∧
      (task.status = .inReview ∨ (task.status = .blocked ∧ task.blockedBy = none)) ∧
      s.Moves id now (reopenWrite now) ⟨.reopened, none, .empty⟩ after := by
  simp only [reopenTask, throw_eq, error_bind] at done
  split at done
  · cases done
  rename_i task found
  have taken (answered : s.Answered id now (reopenWrite now) ⟨.reopened, none, .empty⟩ won after) :
      s.Moves id now (reopenWrite now) ⟨.reopened, none, .empty⟩ after := by
    rcases answered with ⟨_, _, refused⟩ | ⟨_, moves⟩
    · cases refused task found
    · exact moves
  split at done
  next status => exact ⟨task, found, .inl status, taken (attempt_ok done)⟩
  next status free => exact ⟨task, found, .inr ⟨status, free⟩, taken (attempt_ok done)⟩
  next => cases done
  next => cases done

structure Awaits (s : Store) (successor predecessor : String) (complete : Bool) : Prop where
  apart : successor ≠ predecessor
  found : ∃ blocker, s.getTask predecessor = some blocker ∧ (complete = true ↔ blocker.status.isFinished = true)
  source : ∀ other, s.handoffs.Linked predecessor other → other = successor
  target : ∀ other, s.handoffs.Linked other successor → other = predecessor
  unseen : predecessor ∉ s.handoffs.chain successor

theorem to?_predecessor {predecessor : String} (linked : s.handoffs.Linked predecessor successor) :
    (s.handoffs.to? successor).map Handoff.predecessorId = some predecessor := by
  obtain ⟨row, member, rfl, target⟩ := linked
  rw [Links.to?_eq_some_iff.mpr ⟨member, target⟩]
  rfl

theorem requireLinear_ok {recorded : Option String} {asked : String} {message : String → String}
    (done : requireLinear recorded asked message = .ok ()) {existing : String} (known : recorded = some existing) :
    existing = asked := by
  by_contra different
  simp [requireLinear, known, different] at done

theorem predecessorComplete_ok {blocker : Task} {complete : Bool} (done : s.predecessorComplete blocker = .ok complete) :
    complete = true ↔ blocker.status.isFinished = true := by
  unfold predecessorComplete at done
  split at done
  on_goal 2 => cases done
  rename_i status
  dsimp only at done
  split at done <;> cases done
  simp [status, TaskStatus.isFinished]
  next running abandoned =>
    cases status : blocker.status <;> simp_all [TaskStatus.isFinished]

theorem validateDependencyOn_ok {taskId blockerId : String} {complete : Bool}
    (done : s.validateDependencyOn taskId goalId blockerId = .ok complete) : s.Awaits taskId blockerId complete := by
  obtain ⟨apart, done⟩ := ite_else done
  split at done
  · cases done
  rename_i blocker found
  obtain ⟨_, done⟩ := ite_else done
  obtain ⟨_, source, done⟩ := bind_ok done
  obtain ⟨_, target, done⟩ := bind_ok done
  obtain ⟨unseen, done⟩ := ite_else done
  exact {
    apart
    found := ⟨blocker, found, predecessorComplete_ok done⟩
    source := fun _ linked => requireLinear_ok source (Links.next?_eq_some_iff.mpr linked)
    target := fun _ linked => requireLinear_ok target (to?_predecessor linked)
    unseen }

theorem blockTask_ok {blockedBy why : Option String} {actor : String}
    (done : s.blockTask id blockedBy why actor now = .ok (won, after)) :
    ∃ task, s.getTask id = some task ∧ task.status.isFinished = false ∧
      (∀ predecessor, blockedBy = some predecessor → s.Awaits id predecessor false) ∧
      ∃ middle, s.Wrote id now (blockWrite blockedBy now) ⟨.blocked, some actor, detailOf why⟩ middle ∧
        Beside { middle with
          handoffs := (blockedBy.map fun predecessor =>
            middle.handoffs.insertOrIgnore ⟨predecessor, id, now⟩).getD middle.handoffs } after := by
  simp only [blockTask, throw_eq, error_bind, pure_eq, transition_eq, ok_bind] at done
  split at done
  · cases done
  rename_i task found
  obtain ⟨unfinished, done⟩ := ite_else done
  have taken : (s.getTask id).filter (blockWrite blockedBy now).takes = some task := by simp [found, blockWrite]
  rw [taken] at done
  have wrote : s.Wrote id now (blockWrite blockedBy now) ⟨.blocked, some actor, detailOf why⟩
      (s.moved id now (blockWrite blockedBy now) ⟨.blocked, some actor, detailOf why⟩ task) :=
    ⟨task, found, rfl, rfl⟩
  refine ⟨task, found, by simpa using unfinished, ?_⟩
  cases blockedBy with
  | none =>
    cases done
    exact ⟨by simp, _, wrote, .appendNote _ _ _ _ _⟩
  | some predecessor =>
    obtain ⟨_, done⟩ := ite_else done
    obtain ⟨complete, awaits, done⟩ := bind_ok done
    obtain ⟨waiting, done⟩ := ite_else done
    cases done
    have awaits := validateDependencyOn_ok awaits
    rw [Bool.not_eq_true] at waiting
    subst waiting
    exact ⟨by rintro _ ⟨⟩; exact awaits, _, wrote, .appendNote _ _ _ _ _⟩

theorem refuseAbandon_ok (done : refuseAbandon task now = .ok ()) :
    task.status.isFinished = false ∧ task.status ≠ .needsInput ∧ task.status ≠ .paused ∧
      (task.status = .claimed → lapsed now task = true) := by
  unfold refuseAbandon at done
  cases status : task.status <;> simp only [status] at done
  case claimed =>
    refine ⟨rfl, by simp, by simp, fun _ => ?_⟩
    cases lease : task.leaseExpiresAt with
    | none => simp [lease] at done
    | some lease' => simpa [lapsed, lease] using done
  case «open» => simp [TaskStatus.isFinished]
  case inReview => simp [TaskStatus.isFinished]
  case blocked => simp [TaskStatus.isFinished]
  all_goals cases done

theorem abandonTask_ok {branches : List String} {acknowledgeBranch : Bool}
    (done : s.abandonTask branches id acknowledgeBranch now = .ok (won, after)) :
    ∃ task middle, s.getTask id = some task ∧ refuseAbandon task now = .ok () ∧
      s.Wrote id now (abandonWrite now) ⟨.abandoned, none, .empty⟩ middle ∧ (middle.opened id now).Beside after := by
  simp only [abandonTask, throw_eq, error_bind, pure_eq] at done
  split at done
  · cases done
  rename_i task found
  obtain ⟨_, allowed, done⟩ := bind_ok done
  obtain ⟨_, done⟩ := ite_else done
  obtain ⟨⟨abandoned, last⟩, written, done⟩ := bind_ok done
  rw [openBlockedSuccessorOn_eq, ok_bind] at done
  cases done
  rcases attempt_ok written with ⟨_, _, refused⟩ | ⟨_, middle, wrote, beside⟩
  · cases refused task found
  · exact ⟨task, middle, found, allowed, wrote, beside.opened id now⟩

theorem resolveInReview_ok {resolver : String} (done : s.resolveInReview id resolver now = .ok (won, after)) :
    ∃ task middle note overruled, s.getTask id = some task ∧ task.status = .inReview ∧ note.kind = .resolved ∧
      s.Wrote id now (resolveWrite resolver overruled now) note middle ∧ (middle.opened id now).Beside after := by
  simp only [resolveInReview, throw_eq, error_bind, pure_eq, transition_eq, ok_bind, openBlockedSuccessorOn_eq] at done
  split at done
  · cases done
  rename_i task found
  obtain ⟨waiting, done⟩ := ite_else done
  rw [not_not] at waiting
  split at done
  next missed =>
    have refused := refused_of_none missed task found
    simp [resolveWrite, waiting] at refused
  next middle committed =>
    have wrote := wrote_of_taken committed
    cases done
    exact ⟨task, middle, _, _, found, waiting, rfl, wrote, (Beside.appendNote middle _ _ _ _).opened id now⟩

theorem completeTask_ok {seen : Store} {evidence : ConformanceEvidence} {check : ConformanceCheck} {lessons : List Lesson}
    {result : ConformanceResult}
    (done : completeTask env seen s id agent evidence check lessons now = .ok (result, after)) :
    ∃ owner record middle, resolveAgent agent = .ok owner ∧
      seen.validateCompletion env id owner evidence check lessons now = .ok () ∧
      s.conformance.find? check.id = some record ∧ record.taskId = some id ∧ record.verdict = check.verdict ∧
      s.Wrote id now (completeWrite owner check.verdict.targetStatus now)
        ⟨.conformanceRecorded, some owner, .verdict check.verdict check.id⟩ middle ∧
      after = if check.verdict.targetStatus = .done then middle.opened id now else middle := by
  obtain ⟨owner, resolved, done⟩ := bind_ok done
  obtain ⟨_, validated, done⟩ := bind_ok done
  obtain ⟨⟨won, last⟩, transitioned, done⟩ := bind_ok done
  simp only [transitionWithCheckedConformance, throw_eq, error_bind, pure_eq, transition_eq, ok_bind,
    openBlockedSuccessorOn_eq, ne_eq, not_true_eq_false, if_false] at transitioned
  obtain ⟨stored, transitioned⟩ := ite_else transitioned
  rw [not_not, map_eq_some_iff] at stored
  obtain ⟨record, stored, same⟩ := stored
  obtain ⟨stored, named⟩ := filter_eq_some_iff.mp stored
  split at transitioned
  next =>
    cases transitioned
    simp [throw_eq] at done
  next middle committed =>
    refine ⟨owner, record, middle, resolved, validated, stored, by simpa using named, same,
      wrote_of_taken committed, ?_⟩
    split at transitioned
    next target =>
      cases transitioned
      cases done
      rw [if_pos target]
    next target =>
      cases transitioned
      cases done
      rw [if_neg target]

theorem checkConformance_ok {seen : Store} {evidence : ConformanceEvidence} {requested : Option String}
    {inputs : CheckInputs} {checkedAt : Int} {check : ConformanceCheck}
    (done : checkConformance env seen s evidence requested inputs now checkedAt = .ok (check, after)) :
    ∃ record : ConformanceRecord, record.id = s.conformanceSeq + 1 ∧ after = { s with
        conformance := s.conformance.insertOrIgnore record, conformanceSeq := s.conformanceSeq + 1 } := by
  obtain ⟨⟨task, result⟩, _, done⟩ := bind_ok done
  obtain ⟨token, _, done⟩ := bind_ok done
  cases done
  exact ⟨_, rfl, rfl⟩

theorem insertCoverageOn_ok {taskId : String} (done : s.insertCoverageOn taskId goalId alsoServes now = .ok after) :
    ∃ coverage, after = { s with goalCoverage := coverage } := by
  refine foldlM_ok (fun middle : Store => ∃ coverage, middle = { s with goalCoverage := coverage }) done ⟨s.goalCoverage, rfl⟩ ?_
  intro before covered middle earlier one
  obtain ⟨coverage, rfl⟩ := earlier
  obtain ⟨_, one⟩ := ite_else one
  obtain ⟨_, one⟩ := ite_else one
  cases one
  exact ⟨_, rfl⟩

theorem freeTaskId_ok {basis : String} {fuel discriminator : Nat} {first : String}
    (done : s.freeTaskId env basis fuel discriminator first = .ok id) : s.getTask id = none := by
  induction fuel generalizing discriminator first with
  | zero => cases done
  | succ fuel ih =>
    rw [freeTaskId] at done
    split at done
    · exact ih done
    rename_i free
    cases done
    simpa using free

theorem linkHandoff_ok (done : s.linkHandoff successor now predecessor = .ok after) : ∃ handoffs, after = { s with handoffs } := by
  unfold linkHandoff at done
  split at done
  next =>
    cases done
    exact ⟨_, rfl⟩
  next =>
    split at done <;> cases done
    exact ⟨_, rfl⟩

theorem createTaskAfterOn_steps {title acceptance : String} {parent : Option String}
    (done : s.createTaskAfterOn env goalId title acceptance parent predecessor alsoServes now = .ok (task, after)) :
    s.goalExists goalId = true ∧ ∃ id gate tasks handoffs goalCoverage, s.getTask id = none ∧
      s.gateOn id goalId predecessor = .ok gate ∧ task = newTask id goalId title acceptance parent gate now ∧
      s.tasks.insert? task = some tasks ∧
      ({ s with tasks } : Store).linkHandoff id now predecessor = .ok { s with tasks, handoffs } ∧
      ({ s with tasks, handoffs } : Store).insertCoverageOn id goalId alsoServes now =
        .ok { s with tasks, handoffs, goalCoverage } ∧
      after = ({ s with tasks, handoffs, goalCoverage } : Store).appendEvent now task ⟨.created, none, .empty⟩ := by
  obtain ⟨known, done⟩ := ite_else done
  obtain ⟨id, free, done⟩ := bind_ok done
  obtain ⟨gate, gated, done⟩ := bind_ok done
  obtain ⟨inserted, stored, done⟩ := bind_ok done
  obtain ⟨linked, link, done⟩ := bind_ok done
  obtain ⟨covered, coverage, done⟩ := bind_ok done
  cases done
  unfold insertTask at stored
  split at stored
  · cases stored
  rename_i tasks fresh
  cases stored
  obtain ⟨handoffs, rfl⟩ := linkHandoff_ok link
  obtain ⟨goalCoverage, rfl⟩ := insertCoverageOn_ok coverage
  exact ⟨by simpa using known, id, gate, tasks, handoffs, goalCoverage, freeTaskId_ok free, gated, rfl, fresh, link,
    coverage, rfl⟩

structure Created (s after : Store) (task : Task) (predecessor : Option String) (now : Int) : Prop where
  fresh : s.getTask task.id = none
  row : ∃ id goalId title acceptance parent gate, task = newTask id goalId title acceptance parent gate now
  gate : ∀ gate, predecessor = some gate → ∃ complete, s.Awaits task.id gate complete ∧
    task.blockedBy = if complete then none else some gate
  ungated : predecessor = none → task.blockedBy = none
  tasks : s.tasks.insert? task = some after.tasks
  handoffs : match predecessor with
    | none => after.handoffs = s.handoffs
    | some gate => s.handoffs.insert? ⟨gate, task.id, now⟩ = some after.handoffs
  events : ∃ event, after.taskEvents = s.taskEvents ++ [event] ∧ event.taskId = task.id ∧ event.after = task ∧
    event.kind = .created ∧ event.recordedAt = now
  conformance : after.conformance = s.conformance
  counter : after.conformanceSeq = s.conformanceSeq
  policy : s.SamePolicy after

theorem createTaskAfterOn_ok {title acceptance : String} {parent : Option String}
    (done : s.createTaskAfterOn env goalId title acceptance parent predecessor alsoServes now = .ok (task, after)) :
    s.Created after task predecessor now := by
  obtain ⟨_, id, gate, tasks, handoffs, goalCoverage, free, gated, rfl, fresh, link, _, rfl⟩ := createTaskAfterOn_steps done
  cases predecessor with
  | none =>
    cases gated
    cases link
    exact ⟨free, ⟨_, _, _, _, _, _, rfl⟩, by simp, fun _ => rfl, fresh, rfl, ⟨_, rfl, rfl, rfl, rfl, rfl⟩, rfl, rfl,
      rfl, rfl, rfl⟩
  | some predecessor =>
    obtain ⟨complete, awaits, gated⟩ := bind_ok gated
    cases gated
    unfold linkHandoff at link
    dsimp only at link
    split at link
    · cases link
    rename_i linked inserted
    cases link
    refine ⟨free, ⟨_, _, _, _, _, _, rfl⟩, ?_, by simp, fresh, inserted, ⟨_, rfl, rfl, rfl, rfl, rfl⟩, rfl, rfl,
      rfl, rfl, rfl⟩
    rintro _ ⟨⟩
    exact ⟨complete, validateDependencyOn_ok awaits, rfl⟩

def CreatedFree (now : Int) (s after : Store) : Prop := ∃ task, s.Created after task none now

theorem materializeTasks_keeps {drafts : List TaskDraft} (good : Store → Prop)
    (done : s.materializeTasks env drafts now = .ok after) (initial : good s)
    (keeps : ∀ (before : Store) (draft : TaskDraft) task created, good before →
      before.createTaskAfterOn env draft.goalId draft.title draft.acceptance none none [] now = .ok (task, created) →
        good created) : good after := by
  refine foldlM_ok good done initial ?_
  intro before draft middle earlier one
  unfold materializeDraft at one
  split at one
  next =>
    cases one
    exact earlier
  next =>
    obtain ⟨⟨task, created⟩, made, one⟩ := bind_ok one
    cases one
    exact keeps before draft task _ earlier made

theorem materializeTasks_ok {drafts : List TaskDraft} (done : s.materializeTasks env drafts now = .ok after) :
    Relation.ReflTransGen (CreatedFree now) s after := by
  refine materializeTasks_keeps (Relation.ReflTransGen (CreatedFree now) s) done .refl ?_
  intro before draft task created earlier made
  exact earlier.tail ⟨task, createTaskAfterOn_ok made⟩

theorem declareCoverage_ok {serves : List String} (done : s.declareCoverage id agent alsoServes now = .ok (serves, after)) :
    ∃ task coverage, s.getTask id = some task ∧ task.status = .claimed ∧
      after = { s with goalCoverage := coverage }.appendEvent now task
        ⟨.coverageDeclared, some agent, .coverage alsoServes⟩ := by
  simp only [declareCoverage, throw_eq, error_bind, pure_eq] at done
  split at done
  · cases done
  rename_i task found
  obtain ⟨held, done⟩ := ite_else done
  obtain ⟨_, done⟩ := ite_else done
  obtain ⟨covered, declared, done⟩ := bind_ok done
  obtain ⟨coverage, rfl⟩ := insertCoverageOn_ok declared
  obtain ⟨last, logged, done⟩ := bind_ok done
  cases done
  unfold record at logged
  split at logged
  · cases logged
  rename_i other also
  cases logged
  cases found.symm.trans also
  exact ⟨task, coverage, found, by simpa using (not_or.mp held).1, rfl⟩

end Store
end MindLeak.Lodestar
