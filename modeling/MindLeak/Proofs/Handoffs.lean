import MindLeak.Proofs.Changes

/-! Handoffs over whole runs: the links stay simple paths, a wait always has a
live predecessor, and the gate holds unless a reopen lifts it by hand. -/

namespace MindLeak.Lodestar

open Option Rewrite

namespace Store

def Anchored (s : Store) : Prop :=
  ∀ first second, s.handoffs.Linked first second →
    (s.getTask first).isSome = true ∧ (s.getTask second).isSome = true

def Unfinished (s : Store) (id : String) : Prop := ∃ task, s.getTask id = some task ∧ task.status.isFinished = false

/-- Links form paths over existing tasks, and whoever waits is linked behind
work that has not ended. -/
structure Waiting (s : Store) : Prop where
  acyclic : s.handoffs.Acyclic
  anchored : s.Anchored
  gated : ∀ id task, s.getTask id = some task → task.status = .blocked → ∀ predecessor,
    task.blockedBy = some predecessor → s.handoffs.Linked predecessor id ∧ s.Unfinished predecessor

theorem Waiting.start : Waiting {} where
  acyclic := Links.Acyclic.empty
  anchored := by
    rintro _ _ ⟨_, member, _⟩
    cases member
  gated := by
    intro _ _ found
    cases found

variable {s after : Store} {id key : String} {row row' : Task}

section
variable {now : Int} {task : Task} {predecessor : Option String}

theorem Unfinished.oneRow (running : s.Unfinished key) (one : s.OneRow after id row row')
    (open' : row'.status.isFinished = false ∨ key ≠ id) : after.Unfinished key := by
  obtain ⟨task, found, unfinished⟩ := running
  by_cases same : key = id
  · subst same
    exact ⟨row', one.here, open'.resolve_right (not_not.mpr rfl)⟩
  · exact ⟨task, (one.elsewhere same).trans found, unfinished⟩

theorem Anchored.oneRow (anchored : s.Anchored) (one : s.OneRow after id row row')
    (links : after.handoffs = s.handoffs) : after.Anchored := by
  intro first second linked
  rw [links] at linked
  exact ⟨one.isSome (anchored _ _ linked).1, one.isSome (anchored _ _ linked).2⟩

/-- One row moves between unfinished states and waits on nobody new. -/
theorem Waiting.oneRow (waiting : s.Waiting) (one : s.OneRow after id row row') (links : after.handoffs = s.handoffs)
    (running : row'.status.isFinished = false) (free : row'.status = .blocked → row'.blockedBy = none) :
    after.Waiting where
  acyclic := links ▸ waiting.acyclic
  anchored := waiting.anchored.oneRow one links
  gated := by
    intro key task found blocked predecessor waits
    rw [links]
    rcases one.cases found with ⟨rfl, rfl⟩ | ⟨_, found⟩
    · rw [free blocked] at waits
      cases waits
    · obtain ⟨linked, unfinished⟩ := waiting.gated key task found blocked predecessor waits
      exact ⟨linked, unfinished.oneRow one (.inl running)⟩

theorem Waiting.ended {middle : Store} (waiting : s.Waiting) (one : s.OneRow middle id row row')
    (links : middle.handoffs = s.handoffs) (done : row'.status.isFinished = true) :
    (middle.opened id now).Waiting := by
  -- Before the gate is lifted, only a wait on the ended row itself is out of order.
  have left (key : String) (task : Task) (found : middle.getTask key = some task) (blocked : task.status = .blocked)
      (predecessor : String) (waits : task.blockedBy = some predecessor) :
      s.handoffs.Linked predecessor key ∧ s.Unfinished predecessor := by
    rcases one.cases found with ⟨rfl, rfl⟩ | ⟨_, found⟩
    · simp [blocked, TaskStatus.isFinished] at done
    · exact waiting.gated key task found blocked predecessor waits
  have anchored := waiting.anchored.oneRow one links
  rcases middle.opened_cases id now with ⟨same, none_waits⟩ | ⟨successor, linked, task, found, taken, wrote⟩
  · rw [same]
    refine ⟨links ▸ waiting.acyclic, anchored, ?_⟩
    intro key task found blocked predecessor waits
    obtain ⟨linked, unfinished⟩ := left key task found blocked predecessor waits
    rw [links]
    refine ⟨linked, unfinished.oneRow one (.inr ?_)⟩
    rintro rfl
    have missed := none_waits key task (links ▸ linked) found
    simp [unblockWrite, blocked, waits] at missed
  · have opens := moved_oneRow now ⟨.reopened, none, .unblockedBy id⟩ found taken
    rw [← wrote] at opens
    have links' : (middle.opened id now).handoffs = s.handoffs := (middle.opened_handoffs id now).trans links
    refine ⟨links' ▸ waiting.acyclic, anchored.oneRow opens (middle.opened_handoffs id now), ?_⟩
    intro key other here blocked predecessor waits
    rw [links']
    rcases opens.cases here with ⟨rfl, rfl⟩ | ⟨apart, here⟩
    · cases blocked
    obtain ⟨behind, unfinished⟩ := left key other here blocked predecessor waits
    refine ⟨behind, (unfinished.oneRow one (.inr ?_)).oneRow opens (.inl rfl)⟩
    rintro rfl
    exact apart (behind.next_unique (links ▸ linked))

theorem Unfinished.frame (running : s.Unfinished key) (rows : ∀ other, after.getTask other = s.getTask other) :
    after.Unfinished key := by
  obtain ⟨task, found, unfinished⟩ := running
  exact ⟨task, (rows key).trans found, unfinished⟩

theorem Waiting.frame (waiting : s.Waiting) (rows : ∀ key, after.getTask key = s.getTask key)
    (links : after.handoffs = s.handoffs) : after.Waiting where
  acyclic := links ▸ waiting.acyclic
  anchored first second linked := by
    rw [links] at linked
    rw [rows, rows]
    exact waiting.anchored first second linked
  gated key task found blocked predecessor waits := by
    rw [rows] at found
    obtain ⟨linked, unfinished⟩ := waiting.gated key task found blocked predecessor waits
    exact ⟨links ▸ linked, unfinished.frame rows⟩

theorem Waiting.carried {carry : Task → Task} (waiting : s.Waiting) (links : after.handoffs = s.handoffs)
    (keeps : ∀ task, ∃ goalId updatedAt, carry task = { task with goalId := goalId, updatedAt := updatedAt })
    (rows : ∀ key, after.getTask key = (s.getTask key).map carry) : after.Waiting where
  acyclic := links ▸ waiting.acyclic
  anchored first second linked := by
    rw [links] at linked
    simpa [rows] using waiting.anchored first second linked
  gated key task found blocked predecessor waits := by
    rw [rows] at found
    obtain ⟨row, stored, rfl⟩ := map_eq_some_iff.mp found
    obtain ⟨goalId, updatedAt, same⟩ := keeps row
    rw [same] at blocked waits
    obtain ⟨linked, other, known, unfinished⟩ := waiting.gated key row stored blocked predecessor waits
    obtain ⟨_, _, also⟩ := keeps other
    refine ⟨links ▸ linked, carry other, ?_, ?_⟩
    · rw [rows, known]
      rfl
    · rw [also]
      exact unfinished

theorem Awaits.linked {predecessor successor : String} {complete : Bool} (awaits : s.Awaits successor predecessor complete)
    (now : Int) :
    (s.handoffs.insertOrIgnore ⟨predecessor, successor, now⟩).Linked predecessor successor ∧
      ∀ first second, (s.handoffs.insertOrIgnore ⟨predecessor, successor, now⟩).Linked first second →
        s.handoffs.Linked first second ∨ (first = predecessor ∧ second = successor) := by
  rcases s.handoffs.insertOrIgnore_cases ⟨predecessor, successor, now⟩ with
    ⟨links, inserted, same⟩ | ⟨same, ⟨other, linked⟩ | ⟨other, linked⟩⟩
  · rw [same]
    refine ⟨(Links.linked_insert inserted _ _).mpr (.inr ⟨rfl, rfl⟩), ?_⟩
    intro first second linked
    rcases (Links.linked_insert inserted _ _).mp linked with old | ⟨rfl, rfl⟩
    · exact .inl old
    · exact .inr ⟨rfl, rfl⟩
  · rw [same]
    cases awaits.source other linked
    exact ⟨linked, fun _ _ => .inl⟩
  · rw [same]
    cases awaits.target other linked
    exact ⟨linked, fun _ _ => .inl⟩

theorem Awaits.acyclic {predecessor successor : String} {complete : Bool}
    (awaits : s.Awaits successor predecessor complete) (acyclic : s.handoffs.Acyclic) (now : Int) :
    (s.handoffs.insertOrIgnore ⟨predecessor, successor, now⟩).Acyclic := by
  rcases s.handoffs.insertOrIgnore_cases ⟨predecessor, successor, now⟩ with ⟨links, inserted, same⟩ | ⟨same, _⟩
  · rw [same]
    exact acyclic.insert inserted awaits.apart awaits.unseen
  · rw [same]
    exact acyclic

theorem Waiting.blocked {blockedBy : Option String} (waiting : s.Waiting) (one : s.OneRow after id row row')
    (status : row'.status = .blocked) (gate : row'.blockedBy = blockedBy)
    (awaits : ∀ predecessor, blockedBy = some predecessor → s.Awaits id predecessor false)
    (links : after.handoffs = (blockedBy.map fun predecessor =>
      s.handoffs.insertOrIgnore ⟨predecessor, id, now⟩).getD s.handoffs) : after.Waiting := by
  have running : row'.status.isFinished = false := by rw [status]; rfl
  have kept (first second : String) (linked : s.handoffs.Linked first second) : after.handoffs.Linked first second := by
    rw [links]
    cases blockedBy with
    | none => exact linked
    | some predecessor =>
      rcases s.handoffs.insertOrIgnore_cases ⟨predecessor, id, now⟩ with ⟨grown, inserted, same⟩ | ⟨same, _⟩
      · rw [map_some, getD_some, same]
        exact (Links.linked_insert inserted _ _).mpr (.inl linked)
      · rw [map_some, getD_some, same]
        exact linked
  refine ⟨?_, ?_, ?_⟩
  · rw [links]
    cases blockedBy with
    | none => exact waiting.acyclic
    | some predecessor => exact (awaits predecessor rfl).acyclic waiting.acyclic now
  · intro first second linked
    have ends : (s.getTask first).isSome = true ∧ (s.getTask second).isSome = true := by
      rw [links] at linked
      cases blockedBy with
      | none => exact waiting.anchored first second linked
      | some predecessor =>
        rcases ((awaits predecessor rfl).linked now).2 first second linked with old | ⟨rfl, rfl⟩
        · exact waiting.anchored first second old
        · obtain ⟨blocker, found, _⟩ := (awaits first rfl).found
          exact ⟨by rw [found]; rfl, by rw [one.found]; rfl⟩
    exact ⟨one.isSome ends.1, one.isSome ends.2⟩
  · intro key task found blocked predecessor waits
    rcases one.cases found with ⟨rfl, rfl⟩ | ⟨_, found⟩
    · have named : blockedBy = some predecessor := gate.symm.trans waits
      subst named
      have awaits := awaits predecessor rfl
      obtain ⟨blocker, stored, complete⟩ := awaits.found
      refine ⟨?_, Unfinished.oneRow ⟨blocker, stored, ?_⟩ one (.inl running)⟩
      · rw [links]
        exact (awaits.linked now).1
      · simpa using complete
    · obtain ⟨linked, unfinished⟩ := waiting.gated key task found blocked predecessor waits
      exact ⟨kept _ _ linked, unfinished.oneRow one (.inl running)⟩

section
variable (created : s.Created after task predecessor now)
include created

theorem Created.getTask (key : String) :
    after.getTask key = if task.id = key then some task else s.getTask key := Table.find?_insert created.tasks key

theorem Created.status :
    task.status = if task.blockedBy.isSome then .blocked else .open := by
  obtain ⟨_, _, _, _, _, _, rfl⟩ := created.row
  rfl

theorem Created.kept {stored : Task}
    (found : s.getTask key = some stored) :
    after.getTask key = some stored := by
  rw [created.getTask, if_neg, found]
  rintro rfl
  cases created.fresh.symm.trans found

theorem Created.linked (first second : String) :
    after.handoffs.Linked first second ↔
      s.handoffs.Linked first second ∨ (predecessor = some first ∧ second = task.id) := by
  have inserted := created.handoffs
  cases predecessor with
  | none => simp [inserted]
  | some gate =>
    rw [Links.linked_insert inserted]
    simp [eq_comm]

end

theorem Waiting.created (waiting : s.Waiting) (created : s.Created after task predecessor now) : after.Waiting := by
  refine ⟨?_, ?_, ?_⟩
  · have inserted := created.handoffs
    cases predecessor with
    | none => exact inserted ▸ waiting.acyclic
    | some gate =>
      obtain ⟨complete, awaits, _⟩ := created.gate gate rfl
      exact waiting.acyclic.insert inserted awaits.apart awaits.unseen
  · have known (key : String) (stored : (s.getTask key).isSome = true) : (after.getTask key).isSome = true := by
      obtain ⟨row, found⟩ := isSome_iff_exists.mp stored
      rw [created.kept found]
      rfl
    intro first second linked
    rcases (created.linked first second).mp linked with old | ⟨rfl, rfl⟩
    · exact ⟨known _ (waiting.anchored _ _ old).1, known _ (waiting.anchored _ _ old).2⟩
    obtain ⟨complete, awaits, _⟩ := created.gate first rfl
    obtain ⟨blocker, found, _⟩ := awaits.found
    refine ⟨known _ (by rw [found]; rfl), ?_⟩
    rw [created.getTask, if_pos rfl]
    rfl
  · intro key row found blocked gate waits
    rw [created.getTask] at found
    split at found
    next same =>
      cases found
      subst same
      cases predecessor with
      | none =>
        rw [created.ungated rfl] at waits
        cases waits
      | some first =>
        obtain ⟨complete, awaits, behind⟩ := created.gate first rfl
        obtain ⟨blocker, stored, finished⟩ := awaits.found
        cases complete with
        | true =>
          cases behind.symm.trans waits
        | false =>
          cases behind.symm.trans waits
          refine ⟨(created.linked _ _).mpr (.inr ⟨rfl, rfl⟩), blocker, created.kept stored, ?_⟩
          simpa using finished
    next =>
      obtain ⟨linked, other, stored, unfinished⟩ := waiting.gated key row found blocked gate waits
      exact ⟨(created.linked _ _).mpr (.inl linked), other, created.kept stored, unfinished⟩

end

inductive GateStep (op : Op) (s : Store) : Store → Prop
  | still {after : Store} (rows : ∀ key, after.getTask key = s.getTask key) (links : after.handoffs = s.handoffs) :
      GateStep op s after
  | moved {id : String} {row row' : Task} {after : Store} (one : s.OneRow after id row row')
      (links : after.handoffs = s.handoffs) (running : row.status.isFinished = false)
      (goesOn : row'.status.isFinished = false) (free : row'.status = .blocked → row'.blockedBy = none)
      (lifted : row.status = .blocked → row.blockedBy = none ∧ ∃ now, op = .reopen id now) : GateStep op s after
  | gated {id : String} {row row' : Task} {blockedBy : Option String} {now : Int} {after : Store}
      (one : s.OneRow after id row row') (running : row.status.isFinished = false) (status : row'.status = .blocked)
      (gate : row'.blockedBy = blockedBy) (awaits : ∀ predecessor, blockedBy = some predecessor → s.Awaits id predecessor false)
      (links : after.handoffs = (blockedBy.map fun predecessor =>
        s.handoffs.insertOrIgnore ⟨predecessor, id, now⟩).getD s.handoffs) : GateStep op s after
  | ended {id : String} {row row' : Task} {now : Int} {middle after : Store} (one : s.OneRow middle id row row')
      (links : middle.handoffs = s.handoffs) (running : row.status.isFinished = false)
      (finished : row'.status.isFinished = true) (left : row'.status = .abandoned ∨ row.status ≠ .blocked)
      (rows : ∀ key, after.getTask key = (middle.opened id now).getTask key)
      (links' : after.handoffs = (middle.opened id now).handoffs) : GateStep op s after
  | created {after : Store}
      (created : Relation.ReflTransGen (fun before next => ∃ task predecessor now,
        before.Created next task predecessor now) s after) : GateStep op s after
  | carried {carry : Task → Task} {after : Store}
      (keeps : ∀ task, ∃ goalId updatedAt, carry task = { task with goalId := goalId, updatedAt := updatedAt })
      (rows : ∀ key, after.getTask key = (s.getTask key).map carry) (links : after.handoffs = s.handoffs) :
      GateStep op s after
  | cleared {after : Store} (rows : ∀ key, after.getTask key = none) (links : after.handoffs = default) :
      GateStep op s after

theorem refuseAbandon_unfinished {task : Task} {now : Int} (allowed : refuseAbandon task now = .ok ()) :
    task.status.isFinished = false := by
  unfold refuseAbandon at allowed
  cases status : task.status <;> simp_all [TaskStatus.isFinished]

theorem Change.gateStep {env : Env} {s after : Store} {op : Op} (change : Change env s op after) :
    GateStep op s after := by
  cases change with
  | aside same => exact .still same.getTask same.handoffs
  | checked record numbered done =>
    subst done
    exact .still (fun _ => rfl) rfl
  | noted middle found claimed same kind done =>
    subst done
    exact .still same.getTask same.handoffs
  | @rewrote op id now after middle note task rewrite issued found taken admitted kind wrote beside =>
    subst wrote
    have one := moved_oneRow now note found taken
    refine .moved ⟨found, fun key => (beside.sameWork.getTask key).trans (one.rows key)⟩ beside.sameWork.handoffs
      (unfinished taken admitted).1 (unfinished taken admitted).2 ?_ ?_
    · intro blocked
      rw [leads_to taken admitted] at blocked
      cases rewrite <;> cases blocked
    · intro blocked
      have from_ := takes_from taken admitted
      rw [blocked] at from_
      cases issued with
      | reopen =>
        rcases admitted with review | ⟨_, free⟩
        · cases blocked.symm.trans review
        · exact ⟨free, now, rfl⟩
      | _ => simp [takesFrom] at from_
  | @blocked id blockedBy why actor now task middle after found unfinished awaits wrote beside =>
    subst wrote
    have taken : (blockWrite blockedBy now).takes task = true := rfl
    have one := moved_oneRow now ⟨.blocked, some actor, detailOf why⟩ found taken
    exact .gated ⟨found, fun key => (beside.sameWork.getTask key).trans (one.rows key)⟩ unfinished rfl rfl awaits
      beside.sameWork.handoffs
  | @completed seen id agent evidence check lessons now owner record task middle after resolved validated stored named
      agrees found taken wrote done =>
    subst wrote
    have one := moved_oneRow now ⟨.conformanceRecorded, some owner, .verdict check.verdict check.id⟩ found taken
    simp only [completeWrite, Bool.and_eq_true, decide_eq_true_eq, isNone_iff_eq_none] at taken
    obtain ⟨⟨⟨_, claimed⟩, _⟩, free⟩ := taken
    have running : task.status.isFinished = false := by rw [claimed]; rfl
    have held : task.status ≠ .blocked := by rw [claimed]; intro same; cases same
    split at done
    next finishes =>
      subst done
      exact .ended one rfl running (by rw [completeWrite, finishes]; rfl) (.inr held) (fun _ => rfl) rfl
    next goesOn =>
      subst done
      refine .moved one rfl running ?_ (fun _ => free) fun blocked => absurd blocked held
      cases verdict : check.verdict <;> simp_all [completeWrite, Verdict.targetStatus, TaskStatus.isFinished]
  | @abandoned seen id acknowledgeBranch now task middle after found allowed wrote beside =>
    subst wrote
    have taken : (abandonWrite now).takes task = true := rfl
    exact .ended (moved_oneRow now ⟨.abandoned, none, .empty⟩ found taken) rfl (refuseAbandon_unfinished allowed) rfl
      (.inl rfl) beside.sameWork.getTask beside.sameWork.handoffs
  | @resolved id resolver now task middle note overruled after found review kind wrote beside =>
    subst wrote
    have taken : (resolveWrite resolver overruled now).takes task = true := decide_eq_true review
    exact .ended (moved_oneRow now note found taken) rfl (by rw [review]; rfl) rfl
      (.inr (by rw [review]; intro same; cases same)) beside.sameWork.getTask beside.sameWork.handoffs
  | created created => exact .created (.single ⟨_, _, _, created⟩)
  | materialized created =>
    refine .created (created.lift id ?_)
    rintro _ _ ⟨task, created⟩
    exact ⟨task, none, _, created⟩
  | amended committed read apart setup tasks events handoffs conformance counter =>
    subst setup
    obtain ⟨carry, keeps, rows⟩ := carryTasks_rows _ _ _
    refine .carried keeps (fun key => ?_) handoffs
    rw [getTask, tasks]
    exact rows key
  | reset confirmed => exact .cleared (fun _ => rfl) rfl

theorem Waiting.perform {env : Env} {s : Store} (waiting : s.Waiting) (op : Op) : (s.perform env op).Waiting := by
  have step := (perform_change env s op).gateStep
  generalize s.perform env op = after at step
  cases step with
  | still rows links => exact waiting.frame rows links
  | moved one links running goesOn free lifted => exact waiting.oneRow one links goesOn free
  | gated one running status gate awaits links => exact waiting.blocked one status gate awaits links
  | ended one links running finished left rows links' => exact (waiting.ended one links finished).frame rows links'
  | created created =>
    induction created with
    | refl => exact waiting
    | tail _ last ih =>
      obtain ⟨_, _, _, last⟩ := last
      exact ih.created last
  | carried keeps rows links => exact waiting.carried links keeps rows
  | cleared rows links =>
    refine ⟨links ▸ Links.Acyclic.empty, ?_, ?_⟩
    · rintro _ _ ⟨_, member, _⟩
      rw [links] at member
      cases member
    · intro key task found
      rw [rows] at found
      cases found

def Finished (s : Store) (id : String) : Prop := ∃ task, s.getTask id = some task ∧ task.status.isFinished = true

section
variable {op : Op}

theorem Unfinished.not_finished (running : s.Unfinished id) : ¬ s.Finished id := by
  rintro ⟨task, found, finished⟩
  obtain ⟨also, stored, unfinished⟩ := running
  cases found.symm.trans stored
  simp [finished] at unfinished

theorem Finished.frame (finished : s.Finished key) (rows : ∀ other, after.getTask other = s.getTask other) :
    after.Finished key := by
  obtain ⟨task, found, ended⟩ := finished
  exact ⟨task, (rows key).trans found, ended⟩

theorem Finished.oneRow (finished : s.Finished key) (one : s.OneRow after id row row')
    (running : row.status.isFinished = false) : after.Finished key := by
  obtain ⟨task, found, ended⟩ := finished
  refine ⟨task, (one.elsewhere ?_).trans found, ended⟩
  rintro rfl
  cases found.symm.trans one.found
  simp [ended] at running

theorem opened_row (s : Store) (id : String) (now : Int) : s.opened id now = s ∨
    ∃ successor row row', s.OneRow (s.opened id now) successor row row' ∧ s.handoffs.Linked id successor ∧
      row.status = .blocked ∧ row'.status = .open := by
  rcases s.opened_cases id now with ⟨same, _⟩ | ⟨successor, linked, task, found, taken, wrote⟩
  · exact .inl same
  refine .inr ⟨successor, task, (unblockWrite id now).leaves task, ?_, linked, ?_, rfl⟩
  · rw [wrote]
    exact moved_oneRow now ⟨.reopened, none, .unblockedBy id⟩ found taken
  · simp only [unblockWrite, Bool.and_eq_true, decide_eq_true_eq] at taken
    exact taken.2

theorem Finished.opened (finished : s.Finished key) (id : String) (now : Int) : (s.opened id now).Finished key := by
  rcases s.opened_row id now with same | ⟨_, row, _, one, _, blocked, _⟩
  · rwa [same]
  · exact finished.oneRow one (by rw [blocked]; rfl)

theorem Unfinished.opened (running : s.Unfinished key) (id : String) (now : Int) :
    (s.opened id now).Unfinished key := by
  rcases s.opened_row id now with same | ⟨_, _, row', one, _, _, opens⟩
  · rwa [same]
  · exact running.oneRow one (.inl (by rw [opens]; rfl))

theorem GateStep.finished_kept (step : GateStep op s after) (finished : s.Finished key) :
    after.Finished key ∨ ∀ other, after.getTask other = none := by
  cases step with
  | still rows links => exact .inl (finished.frame rows)
  | moved one links running | gated one running => exact .inl (finished.oneRow one running)
  | ended one links running ends left rows links' => exact .inl (((finished.oneRow one running).opened _ _).frame rows)
  | created created =>
    refine .inl ?_
    induction created with
    | refl => exact finished
    | tail _ last ih =>
      obtain ⟨_, _, _, last⟩ := last
      obtain ⟨task, found, ended⟩ := ih
      exact ⟨task, last.kept found, ended⟩
  | carried keeps rows links =>
    obtain ⟨task, found, ended⟩ := finished
    obtain ⟨goalId, updatedAt, same⟩ := keeps task
    refine .inl ⟨_, by rw [rows, found]; rfl, ?_⟩
    rw [same]
    exact ended
  | cleared rows links => exact .inr rows

theorem Waiting.opens {middle : Store} {successor : String} {waits : Task} (waiting : s.Waiting)
    (one : s.OneRow middle id row row') (links : middle.handoffs = s.handoffs) (now : Int)
    (found : s.getTask successor = some waits) (blocked : waits.status = .blocked) (gate : waits.blockedBy = some id) :
    ∃ task, (middle.opened id now).getTask successor = some task ∧ task.status = .open := by
  obtain ⟨linked, _⟩ := waiting.gated successor waits found blocked id gate
  have apart : successor ≠ id := by
    rintro rfl
    exact waiting.acyclic successor (.single linked)
  have still : middle.getTask successor = some waits := (one.elsewhere apart).trans found
  rcases middle.opened_cases id now with ⟨_, none_waits⟩ | ⟨other, also, task, stored, taken, wrote⟩
  · have missed := none_waits successor waits (links ▸ linked) still
    simp [unblockWrite, blocked, gate] at missed
  · rw [links] at also
    cases also.next_unique linked
    refine ⟨(unblockWrite id now).leaves task, ?_, rfl⟩
    rw [wrote]
    exact (moved_oneRow now ⟨.reopened, none, .unblockedBy id⟩ stored taken).here

theorem Waiting.ends_open {predecessor successor : String} {waits : Task} (waiting : s.Waiting)
    (step : GateStep op s after) (found : s.getTask successor = some waits) (blocked : waits.status = .blocked)
    (gate : waits.blockedBy = some predecessor) (ended : after.Finished predecessor) :
    ∃ task, after.getTask successor = some task ∧ task.status = .open := by
  obtain ⟨_, running⟩ := waiting.gated successor waits found blocked predecessor gate
  by_cases lasts : after.Unfinished predecessor
  · exact absurd ended lasts.not_finished
  cases step with
  | still rows links => exact absurd (running.frame rows) lasts
  | moved one links _ goesOn free lifted => exact absurd (running.oneRow one (.inl goesOn)) lasts
  | gated one _ status gate awaits links => exact absurd (running.oneRow one (.inl (by rw [status]; rfl))) lasts
  | @ended id row row' now middle after one links _ finishes left rows links' =>
    by_cases same : predecessor = id
    · subst same
      rw [rows]
      exact waiting.opens one links now found blocked gate
    · exact absurd (((running.oneRow one (.inr same)).opened id now).frame rows) lasts
  | created created =>
    refine absurd ?_ lasts
    clear ended lasts
    induction created with
    | refl => exact running
    | tail _ last ih =>
      obtain ⟨_, _, _, last⟩ := last
      obtain ⟨task, stored, unfinished⟩ := ih
      exact ⟨task, last.kept stored, unfinished⟩
  | carried keeps rows links =>
    obtain ⟨task, stored, unfinished⟩ := running
    obtain ⟨goalId, updatedAt, same⟩ := keeps task
    refine absurd ⟨_, (rows predecessor).trans (by rw [stored]; rfl), ?_⟩ lasts
    rw [same]
    exact unfinished
  | cleared rows links =>
    obtain ⟨task, stored, _⟩ := ended
    rw [rows] at stored
    cases stored

end

end Store
end MindLeak.Lodestar
