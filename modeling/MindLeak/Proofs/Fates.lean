import MindLeak.Proofs.Handoffs

/-! One operation seen from one task. Its row is left alone, written once,
carried to another clause, born or gone, and its log gains the event of a write. -/

namespace MindLeak.Lodestar

def Op.time : Op → Option Int
  | .createTask _ _ _ _ _ _ now | .materialize _ now | .claim _ _ _ _ _ now | .renew _ _ _ now | .touch _ _ _ now
  | .release _ _ now | .recover _ _ _ _ _ _ now | .ask _ _ _ _ now | .answer _ _ _ _ now | .pause _ _ _ now
  | .resume _ _ _ now | .declareCoverage _ _ _ now | .reconnect _ _ now | .block _ _ _ _ now | .reopen _ now
  | .abandon _ _ _ now | .resolve _ _ now | .check _ _ _ _ _ now | .complete _ _ _ _ _ _ now
  | .declareSession _ _ now | .grantWaiver _ _ now | .revokeWaiver _ _ _ now | .defineGoal _ _ _ _ now
  | .importGoals _ _ now | .supersede _ _ _ _ now | .retire _ _ _ now | .retireControl _ _ now | .registerPack _ now
  | .proposePack _ _ _ _ now | .reviewPack _ _ _ _ _ now | .proposeConstitution _ _ now | .proposeAmendment _ _ now
  | .draftClause _ _ _ _ _ now | .activate _ _ now | .amend _ _ _ _ _ _ _ now => some now
  | .contract .. | .link .. | .unlink .. | .registerControl .. | .copyClause .. | .reset .. => none

theorem Rewrite.Issues.time {op : Op} {id : String} {now : Int} {rewrite : Rewrite}
    (issued : Rewrite.Issues op id now rewrite) : op.time = some now := by
  cases issued <;> rfl

inductive Cause (after : Store) (op : Op) (id : String) (now : Int) (row : Task) : TaskWrite → TaskEventKind → Prop
  | rewrite (rewrite : Rewrite) (issued : Rewrite.Issues op id now rewrite) (admitted : rewrite.Admits now row) :
      Cause after op id now row (rewrite.write now) rewrite.kind
  | block {blockedBy why actor} (issued : op = .block id blockedBy why actor now)
      (unfinished : row.status.isFinished = false) : Cause after op id now row (blockWrite blockedBy now) .blocked
  | complete {seen agent evidence check lessons owner} (issued : op = .complete seen id agent evidence check lessons now) :
      Cause after op id now row (completeWrite owner check.verdict.targetStatus now) .conformanceRecorded
  | abandon {seen acknowledgeBranch} (issued : op = .abandon seen id acknowledgeBranch now)
      (allowed : Store.refuseAbandon row now = .ok ()) : Cause after op id now row (abandonWrite now) .abandoned
  | resolve {resolver overruled} (issued : op = .resolve id resolver now) (waiting : row.status = .inReview) :
      Cause after op id now row (resolveWrite resolver overruled now) .resolved
  | unblock {predecessor ended} (acts : op.time = some now) (found : after.getTask predecessor = some ended)
      (finished : ended.status.isFinished = true) : Cause after op id now row (unblockWrite predecessor now) .reopened

namespace Store

variable {s after : Store}

section

theorem eventsOf_append {event : TaskEvent} (events : after.taskEvents = s.taskEvents ++ [event]) (id : String) :
    after.eventsOf id = if event.taskId = id then s.eventsOf id ++ [event] else s.eventsOf id := by
  unfold eventsOf
  rw [events, List.filter_append]
  by_cases same : event.taskId = id
  · simp [same]
  · simp [same]

theorem eventsOf_congr (events : after.taskEvents = s.taskEvents) (id : String) : after.eventsOf id = s.eventsOf id := by
  unfold eventsOf
  rw [events]

end

structure Alone (s after : Store) (id : String) : Prop where
  row : after.getTask id = s.getTask id
  log : after.eventsOf id = s.eventsOf id

structure Written (s after : Store) (id : String) (now : Int) (kind : TaskEventKind) (before : Option Task)
    (row : Task) : Prop where
  found : s.getTask id = before
  left : after.getTask id = some row
  log : ∃ event : TaskEvent, event.kind = kind ∧ event.recordedAt = now ∧ event.after = row ∧
    after.eventsOf id = s.eventsOf id ++ [event]

variable {middle : Store} {id key : String} {now : Int}

section
variable {kind : TaskEventKind} {before : Option Task} {row : Task}

theorem Alone.refl (s : Store) (id : String) : s.Alone s id := ⟨rfl, rfl⟩

theorem Alone.trans (first : s.Alone middle id) (second : middle.Alone after id) : s.Alone after id :=
  ⟨second.row.trans first.row, second.log.trans first.log⟩

theorem SameWork.alone (same : s.SameWork after) (id : String) : s.Alone after id :=
  ⟨same.getTask id, eventsOf_congr same.events id⟩

theorem Written.then_alone (written : s.Written middle id now kind before row) (rest : middle.Alone after id) :
    s.Written after id now kind before row := by
  obtain ⟨event, named, acted, image, log⟩ := written.log
  exact ⟨written.found, rest.row.trans written.left, event, named, acted, image, rest.log.trans log⟩

theorem Alone.then_written (first : s.Alone middle id) (written : middle.Written after id now kind before row) :
    s.Written after id now kind before row := by
  obtain ⟨event, named, acted, image, log⟩ := written.log
  exact ⟨first.row.symm.trans written.found, written.left, event, named, acted, image, first.log ▸ log⟩

variable {write : TaskWrite} {note : EventNote} {task : Task}

theorem moved_written (found : s.getTask id = some task) (taken : write.takes task = true) :
    s.Written (s.moved id now write note task) id now note.kind (some task) (write.leaves task) := by
  have subject : (write.leaves task).id = id := (write.keeps task).trans (getTask_id found)
  refine ⟨found, (moved_oneRow now note found taken).here,
    ⟨s.taskEvents.length + 1, (write.leaves task).id, note.kind, note.actor, now, write.leaves task, note.detail⟩,
    rfl, rfl, rfl, ?_⟩
  exact (eventsOf_append rfl id).trans (if_pos subject)

theorem noted_written (same : s.SameWork middle) (found : s.getTask id = some task) :
    s.Written (middle.appendEvent now task note) id now note.kind (some task) task := by
  refine ⟨found, (same.getTask id).trans found,
    ⟨middle.taskEvents.length + 1, task.id, note.kind, note.actor, now, task, note.detail⟩, rfl, rfl, rfl, ?_⟩
  rw [← eventsOf_congr same.events]
  exact (eventsOf_append rfl id).trans (if_pos (getTask_id found))

theorem moved_alone (found : s.getTask key = some task) (taken : write.takes task = true) (apart : id ≠ key) :
    s.Alone (s.moved key now write note task) id := by
  refine ⟨(moved_oneRow now note found taken).elsewhere apart, (eventsOf_append rfl id).trans (if_neg ?_)⟩
  intro same
  exact apart (same.symm.trans ((write.keeps task).trans (getTask_id found)))

theorem opened_alone (idle : ∀ task, s.getTask id = some task → task.status ≠ .blocked) :
    s.Alone (s.opened key now) id := by
  rcases s.opened_cases key now with ⟨same, _⟩ | ⟨successor, _, task, found, taken, wrote⟩
  · rw [same]
    exact .refl s id
  · rw [wrote]
    apply moved_alone found taken
    rintro rfl
    simp only [unblockWrite, Bool.and_eq_true, decide_eq_true_eq] at taken
    exact idle task found taken.2

theorem Created.alone {predecessor : Option String} (created : s.Created after task predecessor now)
    (other : task.id ≠ id) : s.Alone after id := by
  obtain ⟨event, events, subject, _⟩ := created.events
  have log := eventsOf_append events id
  rw [subject, if_neg other] at log
  have row := created.getTask id
  rw [if_neg other] at row
  exact ⟨row, log⟩

theorem Created.written {predecessor : Option String} (created : s.Created after task predecessor now) :
    s.Written after task.id now .created none task := by
  obtain ⟨event, events, subject, image, kind, acted⟩ := created.events
  have log := eventsOf_append events task.id
  rw [subject, if_pos rfl] at log
  have row := created.getTask task.id
  rw [if_pos rfl] at row
  exact ⟨created.fresh, row, event, kind, acted, image, log⟩

end

def Fresh (row : Task) (now : Int) : Prop :=
  ∃ id goalId title acceptance parent gate, row = newTask id goalId title acceptance parent gate now

inductive Fate (s : Store) (op : Op) (after : Store) (id : String) : Prop
  | still (alone : s.Alone after id)
  | wrote {now row write kind} (acts : op.time = some now) (taken : write.takes row = true)
      (cause : Cause after op id now row write kind) (written : s.Written after id now kind (some row) (write.leaves row))
  | noted {now row} (acts : op.time = some now) (claimed : row.status = .claimed)
      (written : s.Written after id now .coverageDeclared (some row) row)
  | carried {row goalId updatedAt} (found : s.getTask id = some row)
      (left : after.getTask id = some { row with goalId := goalId, updatedAt := updatedAt })
      (log : after.eventsOf id = s.eventsOf id)
  | born {now row} (acts : op.time = some now) (fresh : Fresh row now) (written : s.Written after id now .created none row)
  | gone (left : after.getTask id = none) (log : after.eventsOf id = s.eventsOf id)

section
variable {env : Env} {op : Op}

theorem ended_fate {write : TaskWrite} {note : EventNote} {task : Task} (acts : op.time = some now)
    (found : s.getTask key = some task) (taken : write.takes task = true)
    (finished : (write.leaves task).status.isFinished = true)
    (beside : ((s.moved key now write note task).opened key now).Beside after)
    (cause : Cause after op key now task write note.kind) : s.Fate op after id := by
  have own : s.Written (s.moved key now write note task) key now note.kind (some task) (write.leaves task) :=
    moved_written found taken
  have idle : ∀ row, (s.moved key now write note task).getTask key = some row → row.status ≠ .blocked := by
    intro row here blocked
    cases own.left.symm.trans here
    rw [blocked] at finished
    cases finished
  have settled : (s.moved key now write note task).Alone after key :=
    (opened_alone idle).trans (beside.sameWork.alone key)
  by_cases same : id = key
  · subst same
    exact .wrote acts taken cause (own.then_alone settled)
  · have first : s.Alone (s.moved key now write note task) id := moved_alone found taken same
    rcases (s.moved key now write note task).opened_cases key now with
      ⟨unlifted, _⟩ | ⟨successor, _, waiter, waits, lifted, opened⟩
    · rw [unlifted] at beside
      exact .still (first.trans (beside.sameWork.alone id))
    · rw [opened] at beside
      by_cases next : id = successor
      · subst next
        refine .wrote acts lifted (.unblock acts (settled.row.trans own.left) finished) ?_
        exact first.then_written ((moved_written waits lifted).then_alone (beside.sameWork.alone id))
      · exact .still ((first.trans (moved_alone waits lifted next)).trans (beside.sameWork.alone id))

theorem materialized_fate (created : Relation.ReflTransGen (CreatedFree now) s after) :
    s.Alone after id ∨ ∃ row, Fresh row now ∧ s.Written after id now .created none row := by
  induction created with
  | refl => exact .inl (.refl s id)
  | @tail middle after _ last ih =>
    obtain ⟨task, last⟩ := last
    by_cases here : task.id = id
    · subst here
      rcases ih with alone | ⟨row, _, written⟩
      · exact .inr ⟨task, last.row, alone.then_written last.written⟩
      · have taken := last.fresh
        cases written.left.symm.trans taken
    · have rest : middle.Alone after id := Created.alone last here
      rcases ih with alone | ⟨row, fresh, written⟩
      · exact .inl (alone.trans rest)
      · exact .inr ⟨row, fresh, written.then_alone rest⟩

/-- Whatever a local store does, each task meets one of these fates. -/
theorem Change.fate (change : Change env s op after) (id : String) : s.Fate op after id := by
  cases change with
  | aside same => exact .still (same.alone id)
  | checked record numbered done =>
    subst done
    exact .still ⟨rfl, rfl⟩
  | @noted key agent alsoServes now after task note middle found claimed same kind done =>
    subst done
    by_cases here : id = key
    · subst here
      exact .noted rfl claimed (kind ▸ noted_written same found)
    · refine .still ((same.alone id).trans ⟨rfl, (eventsOf_append rfl id).trans (if_neg ?_)⟩)
      intro subject
      exact here (subject.symm.trans (getTask_id found))
  | @rewrote op key now after middle note task rewrite issued found taken admitted kind wrote beside =>
    subst wrote
    have rest := beside.sameWork.alone id
    by_cases here : id = key
    · subst here
      refine .wrote issued.time taken (.rewrite rewrite issued admitted) ?_
      rw [← kind]
      exact (moved_written found taken).then_alone rest
    · exact .still ((moved_alone found taken here).trans rest)
  | @blocked key blockedBy why actor now task middle after found unfinished awaits wrote beside =>
    subst wrote
    have taken : (blockWrite blockedBy now).takes task = true := rfl
    have rest : (s.moved key now (blockWrite blockedBy now) ⟨.blocked, some actor, detailOf why⟩ task).Alone after id :=
      ⟨beside.sameWork.getTask id, eventsOf_congr beside.sameWork.events id⟩
    by_cases here : id = key
    · subst here
      exact .wrote rfl taken (.block rfl unfinished) ((moved_written found taken).then_alone rest)
    · exact .still ((moved_alone found taken here).trans rest)
  | @completed seen key agent evidence check lessons now owner record task middle after resolved validated stored named
      agrees found taken wrote done =>
    subst wrote
    split at done
    next finishes =>
      subst done
      refine ended_fate rfl found taken ?_ (.refl _) (.complete rfl)
      simp [completeWrite, finishes, TaskStatus.isFinished]
    next =>
      subst done
      by_cases here : id = key
      · subst here
        exact .wrote rfl taken (.complete rfl) (moved_written found taken)
      · exact .still (moved_alone found taken here)
  | @abandoned seen key acknowledgeBranch now task middle after found allowed wrote beside =>
    subst wrote
    exact ended_fate rfl found rfl rfl beside (.abandon rfl allowed)
  | @resolved key resolver now task middle note overruled after found review kind wrote beside =>
    subst wrote
    refine ended_fate rfl found (decide_eq_true review) rfl beside ?_
    rw [kind]
    exact .resolve rfl review
  | created created =>
    rename_i task
    by_cases here : task.id = id
    · subst here
      exact .born rfl created.row created.written
    · exact .still (Created.alone created here)
  | materialized created =>
    rcases materialized_fate created with alone | ⟨row, fresh, written⟩
    · exact .still alone
    · exact .born rfl fresh written
  | amended committed read apart setup tasks events handoffs conformance counter =>
    subst setup
    obtain ⟨carry, keeps, rows⟩ := carryTasks_rows _ _ _
    have row : after.getTask id = (s.getTask id).map carry := by
      rw [Store.getTask, tasks]
      exact rows id
    cases found : s.getTask id with
    | none =>
      rw [found] at row
      exact .gone row (eventsOf_congr events id)
    | some task =>
      obtain ⟨goalId, updatedAt, same⟩ := keeps task
      rw [found, Option.map_some, same] at row
      exact .carried found row (eventsOf_congr events id)
  | reset confirmed => exact .gone rfl rfl

end
end Store
end MindLeak.Lodestar
