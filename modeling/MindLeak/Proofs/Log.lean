import MindLeak.Proofs.Projections

/-! The log against the table: as long as every write of a row is recorded, the
last after-image of each task is its row. Two writers record nothing, and the
condition names when they write. -/

namespace MindLeak.Lodestar

open List Env

namespace Store

def lastImage (events : List TaskEvent) (id : String) : Option Task :=
  ((events.filter fun event => decide (event.taskId = id)).getLast?).map TaskEvent.after

theorem lastImage_append (events : List TaskEvent) (event : TaskEvent) (id : String) :
    lastImage (events ++ [event]) id = if event.taskId = id then some event.after else lastImage events id := by
  unfold lastImage
  by_cases same : event.taskId = id
  · simp [same]
  · simp [same]

theorem projectEvents_append (events : List TaskEvent) (event : TaskEvent) :
    projectEvents (events ++ [event]) = SortedMap.insert event.taskId event.after (projectEvents events) := by
  simp [projectEvents, foldl_append]

theorem projectEvents_ascending (events : List TaskEvent) : SortedMap.Ascending (projectEvents events) := by
  induction events using List.reverseRecOn with
  | nil => exact List.Pairwise.nil
  | append_singleton events event ih =>
    rw [projectEvents_append]
    exact ih.insert event.taskId event.after

theorem mem_projectEvents (events : List TaskEvent) (id : String) (task : Task) :
    (id, task) ∈ projectEvents events ↔ lastImage events id = some task := by
  induction events using List.reverseRecOn with
  | nil => simp [projectEvents, lastImage]
  | append_singleton events event ih =>
    rw [projectEvents_append, SortedMap.mem_insert (projectEvents_ascending events), ih, lastImage_append]
    by_cases same : event.taskId = id
    · simp [same, eq_comm]
    · have apart : id ≠ event.taskId := Ne.symm same
      simp [same, apart]

def LogAgrees (s : Store) : Prop := ∀ id, lastImage s.taskEvents id = s.getTask id

theorem LogAgrees.projectTasks {s : Store} (agrees : s.LogAgrees) : s.projectTasks.Perm s.tasks.rows := by
  have members (task : Task) : task ∈ s.projectTasks ↔ task ∈ s.tasks.rows := by
    unfold Store.projectTasks
    rw [mem_map]
    constructor
    · rintro ⟨⟨id, projected⟩, member, rfl⟩
      rw [mem_projectEvents, agrees] at member
      exact getTask_mem member
    · intro member
      refine ⟨(task.id, task), ?_, rfl⟩
      rw [mem_projectEvents, agrees]
      exact mem_getTask member
  have distinct : s.projectTasks.Nodup := by
    refine Nodup.map_on ?_ (projectEvents_ascending s.taskEvents).nodup.of_map
    rintro ⟨first, task⟩ member ⟨second, other⟩ also rfl
    rw [mem_projectEvents, agrees] at member also
    rw [← getTask_id member, ← getTask_id also]
  exact (perm_ext_iff_of_nodup distinct s.tasks.unique.of_map).mpr members

inductive Logged (s : Store) : Store → Prop
  | still {after : Store} (rows : ∀ key, after.getTask key = s.getTask key) (events : after.taskEvents = s.taskEvents) :
      Logged s after
  | wrote {after : Store} {id : String} {row : Task} {event : TaskEvent}
      (rows : ∀ key, after.getTask key = if key = id then some row else s.getTask key)
      (events : after.taskEvents = s.taskEvents ++ [event]) (subject : event.taskId = id) (image : event.after = row) :
      Logged s after

section
variable {env : Env} {s middle after : Store} {op : Op}

theorem LogAgrees.logged (agrees : s.LogAgrees) (logged : s.Logged after) : after.LogAgrees := by
  intro key
  cases logged with
  | still rows events => rw [rows, events, agrees]
  | @wrote id row event rows events subject image =>
    rw [rows, events, lastImage_append, subject, image, agrees]
    by_cases same : key = id
    · simp [same]
    · simp [same, Ne.symm same]

theorem LogAgrees.all (agrees : s.LogAgrees) (logged : Relation.ReflTransGen Logged s after) : after.LogAgrees := by
  induction logged with
  | refl => exact agrees
  | tail _ last ih => exact ih.logged last

theorem Logged.frame (same : s.SameWork after) : s.Logged after := .still same.getTask same.events

variable {now : Int}

theorem moved_logged {id : String} {write : TaskWrite} {note : EventNote} {task : Task}
    (found : s.getTask id = some task) (taken : write.takes task = true) : s.Logged (s.moved id now write note task) :=
  .wrote (s.getTask_moved found taken) rfl ((write.keeps task).trans (getTask_id found)) rfl

theorem opened_logged (s : Store) (id : String) (now : Int) : s.Logged (s.opened id now) := by
  rcases s.opened_cases id now with ⟨same, _⟩ | ⟨successor, _, task, found, taken, wrote⟩
  · rw [same]
    exact .still (fun _ => rfl) rfl
  · rw [wrote]
    exact moved_logged found taken

theorem Created.logged {task : Task} {predecessor : Option String}
    (created : s.Created after task predecessor now) : s.Logged after := by
  obtain ⟨event, events, subject, image, _, _⟩ := created.events
  refine .wrote (fun key => ?_) events subject image
  rw [Store.getTask, Table.find?_insert created.tasks key]
  by_cases same : key = task.id
  · simp [same, Row.key]
  · have apart : task.id ≠ key := Ne.symm same
    simp [same, apart, Row.key, Store.getTask]

def MovesClause (s : Store) (before draftId clauseId : String) : Prop :=
  ∃ clause, s.goals.find? clauseId = some clause ∧ clause.constitutionVersion = some before ∧
    (clause.supersededBy.isSome = true ∨ ∃ row ∈ s.goals.rows, row.constitutionVersion = some draftId ∧
      row.slug = clause.slug ∧ (row.status = .draft ∨ row.status = .active))

theorem movesClause_of_movedTo {before draftId amendedBy goalId : String}
    (moved : (((((s.retireVersion before).promote draftId amendedBy now).carryControls draftId).linkSuccessors before
      draftId).movedTo before goalId).isSome = true) : s.MovesClause before draftId goalId := by
  obtain ⟨target, moved⟩ := Option.isSome_iff_exists.mp moved
  obtain ⟨clause, outgoing, superseded⟩ := Option.bind_eq_some_iff.mp moved
  obtain ⟨found, version⟩ := Option.filter_eq_some_iff.mp outgoing
  rw [find?_linkSuccessors] at found
  obtain ⟨middle, here, rfl⟩ := Option.map_eq_some_iff.mp found
  have handed : ((s.retireVersion before).promote draftId amendedBy now).goals.find? goalId = some middle := here
  rw [find?_handedOver] at handed
  obtain ⟨old, stored, rfl⟩ := Option.map_eq_some_iff.mp handed
  refine ⟨old, stored, ?_, ?_⟩
  · rw [decide_eq_true_eq] at version
    split at version
    · simpa using version
    · simpa using version
  · split at superseded
    next linked =>
      obtain ⟨row, member, governs, active, slug⟩ := successorOf_isSome.mp linked.2.2
      obtain ⟨draft, known, rfl⟩ := mem_handedOver.mp member
      refine .inr ⟨draft, known, by simpa using governs, by simpa using slug, ?_⟩
      rcases GoalRow.handedOver_active active with drafted | kept
      · exact .inl drafted.1
      · exact .inr kept.1
    next =>
      refine .inl ?_
      rw [GoalRow.handedOver_supersededBy] at superseded
      rw [superseded]
      rfl

/-- What a step may do and still be recorded whole: an amendment that commits
moves no unfinished task, and a reset finds an empty log. -/
def LogsWrites (env : Env) (s : Store) : Op ⊕ FederatedOp → Prop
  | .inl (.amend active outgoing incoming draftId amendedBy approvedBy rationale now) =>
    ∀ result, amendConstitution env (amendmentReads active outgoing incoming draftId) s draftId amendedBy approvedBy
        rationale now = .ok result →
      ∀ before, (active.activeConstitutionVersion.map ConstitutionVersion.id) = some before →
        ∀ task ∈ s.tasks.rows, task.status.isFinished = false → ¬ s.MovesClause before draftId task.goalId
  | .inl (.reset confirmation) => confirmation = "RESET LODESTAR" → s.taskEvents = []
  | _ => True

theorem carryTasks_still {staged : Store} {before : String}
    (stays : ∀ task ∈ staged.tasks.rows, staged.followsClause before task = false) (key : String) :
    (staged.carryTasks before now).getTask key = staged.getTask key := by
  rw [getTask, carryTasks, Table.find?_update, ← getTask]
  cases found : staged.getTask key with
  | none => rfl
  | some task => simp [stays task (getTask_mem found)]

theorem Change.logged (change : Change env s op after) (logs : s.LogsWrites env (.inl op)) (agrees : s.LogAgrees) :
    Relation.ReflTransGen Logged s after := by
  cases change with
  | aside same => exact .single (.frame same)
  | checked record numbered done =>
    subst done
    exact .single (.still (fun _ => rfl) rfl)
  | @noted id agent alsoServes now after task note middle found claimed same kind done =>
    subst done
    have rows (key : String) : (middle.appendEvent now task note).getTask key =
        if key = id then some task else s.getTask key := by
      have row : (middle.appendEvent now task note).getTask key = s.getTask key := same.getTask key
      rw [row]
      split
      next here => rw [here, found]
      next => rfl
    exact .single (.wrote rows (congrArg (· ++ _) same.events) (getTask_id found) rfl)
  | rewrote rewrite issued found taken admitted kind wrote beside =>
    subst wrote
    exact .head (moved_logged found taken) (.single (.frame beside.sameWork))
  | @blocked id blockedBy why actor now task middle after found unfinished awaits wrote beside =>
    subst wrote
    have taken : (blockWrite blockedBy now).takes task = true := rfl
    have moved : s.Logged (s.moved id now (blockWrite blockedBy now) ⟨.blocked, some actor, detailOf why⟩ task) :=
      moved_logged found taken
    exact .head moved (.single (.still beside.sameWork.getTask beside.sameWork.events))
  | completed resolved validated stored named agrees found taken wrote done =>
    subst wrote
    split at done
    · subst done
      exact .head (moved_logged found taken) (.single (opened_logged _ _ _))
    · subst done
      exact .single (moved_logged found taken)
  | @abandoned seen id acknowledgeBranch now task middle after found allowed wrote beside =>
    subst wrote
    have taken : (abandonWrite now).takes task = true := rfl
    exact .head (moved_logged found taken) (.head (opened_logged _ _ _) (.single (.frame beside.sameWork)))
  | @resolved id resolver now task middle note overruled after found review kind wrote beside =>
    subst wrote
    have taken : (resolveWrite resolver overruled now).takes task = true := decide_eq_true review
    exact .head (moved_logged found taken) (.head (opened_logged _ _ _) (.single (.frame beside.sameWork)))
  | created created => exact .single created.logged
  | materialized created =>
    refine created.lift id ?_
    rintro _ _ ⟨task, created⟩
    exact Created.logged created
  | @amended active outgoing incoming draftId amendedBy approvedBy rationale now before staged after amendment committed
      read apart setup tasks events handoffs conformance counter =>
    refine .single (.still (fun key => ?_) events)
    have stays : ∀ task ∈ staged.tasks.rows, staged.followsClause before task = false := by
      intro task member
      subst setup
      by_contra follows
      simp only [followsClause, Bool.not_eq_false, Bool.and_eq_true, Bool.not_eq_eq_eq_not, Bool.not_true] at follows
      exact logs _ committed before read task member follows.1 (movesClause_of_movedTo follows.2)
    rw [getTask, tasks]
    refine (carryTasks_still stays key).trans ?_
    rw [setup]
    rfl
  | reset confirmed =>
    refine .single (.still (fun key => ?_) rfl)
    have empty := agrees key
    rw [logs confirmed] at empty
    exact empty

theorem performFederated_logged (s : Store) (op : FederatedOp) :
    Relation.ReflTransGen Logged s (s.performFederated op) := by
  rcases s.performFederated_ok op with same | ⟨now, write, note, middle, ⟨task, found, taken, rfl⟩, beside⟩
  · rw [same]
  · exact .head (moved_logged found taken) (.single (.frame beside.sameWork))

end
end Store

theorem redrafted_run : (anyStore plain).Replays (anyOps redrafted) :=
  Machine.replay_run redrafted_ready.any

theorem amendedOnce_run : (anyStore plain).Replays (anyOps amendedOnce) :=
  Machine.replay_run amendedOnce_ready.any

/-- While amendments move no live task and a reset finds nothing logged, the log
replayed is the task table. -/
theorem log_is_the_table {env : Env} {history : List (Entry Store (Op ⊕ FederatedOp))} {state : Store}
    (run : (anyStore env).Run history state) (logs : ∀ entry ∈ history, entry.before.LogsWrites env entry.op) :
    state.projectTasks.Perm state.tasks.rows := by
  refine Store.LogAgrees.projectTasks ?_
  refine run.invariant_of_steps Store.LogAgrees (fun _ => rfl) (Store.LogsWrites env) logs ?_
  intro before op met agrees
  cases op with
  | inl op => exact agrees.all ((Store.perform_change env before op).logged met agrees)
  | inr op => exact agrees.all (before.performFederated_logged op)

theorem log_is_the_table_redrafted : ((anyStore Env.plain).replay (anyOps redrafted)).2.projectTasks.Perm
      ((anyStore Env.plain).replay (anyOps redrafted)).2.tasks.rows := by
  refine log_is_the_table redrafted_run ?_
  intro entry member
  simp only [anyOps, redrafted, List.map, Machine.replay, mem_cons, not_mem_nil, or_false] at member
  rcases member with rfl | rfl | rfl | rfl | rfl | rfl <;> trivial

/-- An amendment that moves a live task leaves the log behind. -/
theorem amendment_outruns_log :
    ¬ ∀ env history state, (anyStore env).Run history state → state.projectTasks.Perm state.tasks.rows := by
  intro always
  have same := always Env.plain _ _ amendedOnce_run
  have apart : ¬ ((anyStore Env.plain).replay (anyOps amendedOnce)).2.projectTasks.Perm
      ((anyStore Env.plain).replay (anyOps amendedOnce)).2.tasks.rows := by decide +kernel
  exact apart same

end MindLeak.Lodestar
