import MindLeak.Proofs.Account
import MindLeak.Proofs.Evidence
import MindLeak.Proofs.Fates

/-! Which columns a task row fills in which status, over whole runs. Every write
keeps the shape but the block of a parked row, which leaves `parked_at` behind. -/

namespace MindLeak.Lodestar

open Option List Bool

def TaskStatus.isParked : TaskStatus → Bool
  | .needsInput | .paused => true
  | _ => false

/-- The columns a status calls for, and no others. A finished row keeps no owner. -/
structure Task.Shaped (task : Task) : Prop where
  parked : task.parkedAt.isSome = task.status.isParked
  leased : task.leaseExpiresAt.isSome = decide (task.status = .claimed)
  owned : task.owner.isSome = task.status.isHeld
  started : task.claimStartedAt.isSome = task.status.isHeld
  gated : task.blockedBy.isSome = true → task.status = .blocked

variable {task row : Task}

namespace Task.Shaped

theorem working (status : task.status = .claimed) (parked : task.parkedAt = none)
    (leased : task.leaseExpiresAt.isSome = true) (owned : task.owner.isSome = true)
    (started : task.claimStartedAt.isSome = true) (ungated : task.blockedBy = none) : task.Shaped := by
  constructor
  · rw [parked, status]
    rfl
  · simp [leased, status]
  · simp [owned, status, TaskStatus.isHeld]
  · simp [started, status, TaskStatus.isHeld]
  · simp [ungated]

theorem waiting (status : task.status.isParked = true) (parked : task.parkedAt.isSome = true)
    (leased : task.leaseExpiresAt = none) (owned : task.owner.isSome = true)
    (started : task.claimStartedAt.isSome = true) (ungated : task.blockedBy = none) : task.Shaped := by
  have held : task.status.isHeld = true ∧ task.status ≠ .claimed := by
    cases named : task.status <;> simp_all [TaskStatus.isParked, TaskStatus.isHeld]
  constructor
  · rw [parked, status]
  · simp [leased, held.2]
  · rw [owned, held.1]
  · rw [started, held.1]
  · simp [ungated]

theorem cleared (status : task.status.isHeld = false) (parked : task.parkedAt = none) (leased : task.leaseExpiresAt = none)
    (owned : task.owner = none) (started : task.claimStartedAt = none)
    (gated : task.blockedBy.isSome = true → task.status = .blocked) : task.Shaped := by
  have idle : task.status.isParked = false ∧ task.status ≠ .claimed := by
    cases named : task.status <;> simp_all [TaskStatus.isParked, TaskStatus.isHeld]
  constructor
  · rw [parked, idle.1]
    rfl
  · simp [leased, idle.2]
  · rw [owned, status]
    rfl
  · rw [started, status]
    rfl
  · exact gated

theorem unparked (shaped : task.Shaped) (status : task.status.isParked = false) : task.parkedAt = none := by
  apply not_isSome_iff_eq_none.mp
  rw [shaped.parked, status]
  exact false_ne_true

theorem claim (shaped : task.Shaped) (status : task.status.isHeld = true) :
    task.owner.isSome = true ∧ task.claimStartedAt.isSome = true :=
  ⟨shaped.owned.trans status, shaped.started.trans status⟩

theorem ungated (shaped : task.Shaped) (status : task.status ≠ .blocked) : task.blockedBy = none := by
  cases gate : task.blockedBy with
  | none => rfl
  | some predecessor => exact absurd (shaped.gated (by simp [gate])) status

end Task.Shaped

variable {now : Int}

section

theorem Rewrite.shaped {rewrite : Rewrite} (shaped : row.Shaped) (taken : (rewrite.write now).takes row = true)
    (admitted : rewrite.Admits now row) : ((rewrite.write now).leaves row).Shaped := by
  have from_ := rewrite.takes_from taken admitted
  cases rewrite with
  | claim agent branch leaseSecs =>
    simp only [write, claimWrite, and_eq_true, isNone_iff_eq_none] at taken
    refine .working rfl rfl rfl rfl ?_ taken.1.1
    simp only [write, claimWrite]
    split
    next same =>
      rw [and_eq_true, decide_eq_true_eq] at same
      rw [shaped.started, same.1]
      rfl
    next => rfl
  | recover expectedOwner target priorStatus leaseSecs =>
    refine .working rfl rfl rfl rfl rfl (shaped.ungated ?_)
    intro blocked
    simp [takesFrom, blocked] at from_
  | renew agent leaseSecs | reconnect successor | touch agent leaseSecs =>
    have claimed := mem_singleton.mp from_
    obtain ⟨owned, started⟩ := shaped.claim (by rw [claimed]; rfl)
    refine .working claimed (shaped.unparked (by rw [claimed]; rfl)) ?_ owned started (shaped.ungated (by simp [claimed]))
    simp [write, renewWrite, touchWrite, reconnectWrite, shaped.leased, claimed]
  | release agent =>
    have claimed := mem_singleton.mp from_
    refine .cleared rfl (shaped.unparked (by rw [claimed]; rfl)) rfl rfl rfl ?_
    intro gated
    have blocked := shaped.gated gated
    cases claimed.symm.trans blocked
  | ask agent | pause agent =>
    have claimed := mem_singleton.mp from_
    obtain ⟨owned, started⟩ := shaped.claim (by rw [claimed]; rfl)
    exact .waiting rfl rfl rfl owned started (shaped.ungated (by simp [claimed]))
  | answer leaseSecs | resume agent leaseSecs =>
    have parked := mem_singleton.mp from_
    obtain ⟨owned, started⟩ := shaped.claim (by rw [parked]; rfl)
    exact .working rfl rfl rfl owned started (shaped.ungated (by simp [parked]))
  | reopen =>
    refine .cleared rfl (shaped.unparked ?_) rfl rfl rfl (by simp [write, reopenWrite])
    rcases admitted with review | blocked
    · rw [review]
      rfl
    · rw [blocked.1]
      rfl

theorem Cause.shaped {after : Store} {op : Op} {id : String} {write : TaskWrite} {kind : TaskEventKind}
    (cause : Cause after op id now row write kind) (shaped : row.Shaped) (taken : write.takes row = true)
    (spared : ∀ blockedBy why actor now, op = .block id blockedBy why actor now → row.status.isParked = false) :
    (write.leaves row).Shaped := by
  cases cause with
  | rewrite rewrite issued admitted => exact rewrite.shaped shaped taken admitted
  | block issued unfinished =>
    exact .cleared rfl (shaped.unparked (spared _ _ _ _ issued)) rfl rfl rfl fun _ => rfl
  | @complete seen agent evidence check lessons owner issued =>
    simp only [completeWrite, and_eq_true, decide_eq_true_eq, isNone_iff_eq_none] at taken
    obtain ⟨⟨⟨_, claimed⟩, _⟩, ungated⟩ := taken
    refine .cleared ?_ (shaped.unparked (by rw [claimed]; rfl)) rfl rfl rfl (by simp [completeWrite, ungated])
    cases check.verdict <;> rfl
  | resolve issued review =>
    exact .cleared rfl (shaped.unparked (by rw [review]; rfl)) rfl rfl rfl (by simp [resolveWrite])
  | abandon => exact .cleared rfl rfl rfl rfl rfl (by simp [abandonWrite])
  | unblock => exact .cleared rfl rfl rfl rfl rfl (by simp [unblockWrite])

end

namespace Store

def Shaped (s : Store) : Prop := ∀ id task, s.getTask id = some task → task.Shaped

/-- What `block_task` asks of the predecessor it is given. -/
def Blockable (s : Store) (task : Task) : Option String → Prop
  | none => True
  | some predecessor => (((s.handoffs.to? task.id).map Handoff.predecessorId).any fun other => decide (other ≠ predecessor)) = false ∧
      s.validateDependencyOn task.id task.goalId predecessor = .ok false

def SparesParked (s : Store) : Op → Prop
  | .block id blockedBy _ _ _ => ∀ task ∈ s.getTask id, task.status.isParked = true → ¬ s.Blockable task blockedBy
  | _ => True

instance (s : Store) (task : Task) (blockedBy : Option String) : Decidable (s.Blockable task blockedBy) := by
  cases blockedBy <;> (dsimp only [Blockable]; infer_instance)

instance (s : Store) : ∀ op : Op, Decidable (s.SparesParked op) := by
  rintro ⟨⟩ <;> (dsimp only [SparesParked]; infer_instance)

section
variable {env : Env} {s after : Store} {op : Op} {id : String}

theorem Fate.shaped (fate : s.Fate op after id) (shaped : s.Shaped)
    (spared : ∀ task, s.getTask id = some task → ∀ blockedBy why actor now, op = .block id blockedBy why actor now →
      task.status.isParked = false) (found : after.getTask id = some task) : task.Shaped := by
  cases fate with
  | still alone => exact shaped id task (alone.row.symm.trans found)
  | wrote acts taken cause written =>
    cases written.left.symm.trans found
    exact cause.shaped (shaped id _ written.found) taken (spared _ written.found)
  | noted acts claimed written =>
    cases written.left.symm.trans found
    exact shaped id task written.found
  | @carried row goalId updatedAt kept left log =>
    cases left.symm.trans found
    have before := shaped id row kept
    exact ⟨before.parked, before.leased, before.owned, before.started, before.gated⟩
  | born acts fresh written =>
    obtain ⟨_, _, _, _, _, gate, rfl⟩ := fresh
    cases written.left.symm.trans found
    refine .cleared ?_ rfl rfl rfl rfl ?_
    · cases gate <;> rfl
    · intro gated
      exact if_pos gated
  | gone left log =>
    cases left.symm.trans found

theorem perform_unblockable {blockedBy why : Option String} {actor : String}
    (found : s.getTask id = some task) (refused : ¬ s.Blockable task blockedBy) :
    s.perform env (.block id blockedBy why actor now) = s := by
  have same := getTask_id found
  cases blockedBy with
  | none => exact absurd trivial refused
  | some predecessor =>
    suffices failed : ∃ failure, s.blockTask id (some predecessor) why actor now = .error failure by
      obtain ⟨failure, failed⟩ := failed
      exact settled_error failed
    simp only [blockTask, found, throw_eq, error_bind]
    split
    · exact ⟨_, rfl⟩
    split
    · exact ⟨_, rfl⟩
    next linear =>
      cases depends : s.validateDependencyOn id task.goalId predecessor with
      | error failure => exact ⟨failure, rfl⟩
      | ok complete =>
        cases complete with
        | true => exact ⟨_, rfl⟩
        | false =>
          refine absurd ⟨?_, ?_⟩ refused
          · rw [same]
            simpa using linear
          · rw [same]
            exact depends

theorem perform_blockable {blockedBy why : Option String} {actor : String}
    (found : s.getTask id = some task) (unfinished : task.status.isFinished = false) (allowed : s.Blockable task blockedBy) :
    (s.perform env (.block id blockedBy why actor now)).getTask id = some ((blockWrite blockedBy now).leaves task) := by
  have same := getTask_id found
  have one : s.OneRow (s.moved id now (blockWrite blockedBy now) ⟨.blocked, some actor, detailOf why⟩ task) id task
      ((blockWrite blockedBy now).leaves task) := moved_oneRow now _ found rfl
  suffices done : ∃ after, s.blockTask id blockedBy why actor now = .ok (true, after) ∧
      after.getTask id = some ((blockWrite blockedBy now).leaves task) by
    obtain ⟨after, done, row⟩ := done
    change (s.settled (s.blockTask id blockedBy why actor now)).getTask id = _
    rw [settled_ok done]
    exact row
  simp only [blockTask, found, throw_eq, error_bind, pure_eq, unfinished, false_eq_true, if_false, transition_eq,
    ok_bind]
  cases blockedBy with
  | none => exact ⟨_, rfl, ((Beside.appendNote _ id why actor now).sameWork.getTask id).trans one.here⟩
  | some predecessor =>
    obtain ⟨linear, depends⟩ := allowed
    rw [same] at linear depends
    simp only [linear, depends, ok_bind, false_eq_true, if_false]
    exact ⟨_, rfl, ((Beside.appendNote _ id why actor now).sameWork.getTask id).trans one.here⟩

theorem Shaped.step (shaped : s.Shaped) (spares : s.SparesParked op) : (s.perform env op).Shaped := by
  by_cases refused : ∃ id blockedBy why actor now task, op = .block id blockedBy why actor now ∧
      s.getTask id = some task ∧ ¬ s.Blockable task blockedBy
  · obtain ⟨id, blockedBy, why, actor, now, task, rfl, found, refused⟩ := refused
    rw [perform_unblockable found refused]
    exact shaped
  · intro id task left
    refine ((perform_change env s op).fate id).shaped shaped ?_ left
    rintro row found blockedBy why actor now rfl
    have allowed : s.Blockable row blockedBy := by
      by_contra denied
      exact refused ⟨id, blockedBy, why, actor, now, row, rfl, found, denied⟩
    have spared : row.status.isParked = true → ¬ s.Blockable row blockedBy := spares row found
    exact not_eq_true _ ▸ fun parked => spared parked allowed

theorem Shaped.spares (shaped : s.Shaped) (kept : (s.perform env op).Shaped) : s.SparesParked op := by
  cases op with
  | block id blockedBy why actor now =>
    intro task found parked allowed
    have unfinished : task.status.isFinished = false := by
      cases status : task.status <;> simp_all [TaskStatus.isParked, TaskStatus.isFinished]
    have left : (s.perform env (.block id blockedBy why actor now)).getTask id =
        some ((blockWrite blockedBy now).leaves task) := perform_blockable found unfinished allowed
    have stale := (kept id _ left).parked
    have filled := (shaped id task found).parked
    rw [parked] at filled
    simp [blockWrite, filled, TaskStatus.isParked] at stale
  | _ => trivial

end
end Store

/-- Every state of a run has its rows in shape exactly when no block that went
through found a parked row. -/
theorem rows_keep_their_shape {env : Env} {history : List (Entry Store Op)} {state : Store}
    (run : (localStore env).Run history state) :
    (∀ seen ∈ (localStore env).visited history, seen.Shaped) ↔ ∀ entry ∈ history, entry.before.SparesParked entry.op := by
  refine run.visited_good_iff Store.Shaped (fun before op => before.SparesParked op) ?_ ?_
  · intro id task found
    cases found
  · intro before op shaped
    exact ⟨shaped.spares, shaped.step⟩

/-- Paused and resumed, then blocked: nothing is left behind. -/
def blockedWhileClaimed : List (Store → Op) :=
  [fun _ => Op.block "task:goal:ship@constitution:v1|first|6" none none "human" 10,
    fun _ => Op.resume "task:goal:ship@constitution:v1|first|6" "ann" 100 9,
    fun _ => Op.pause "task:goal:ship@constitution:v1|first|6" "ann" none 8] ++ claimedByAnn

theorem blockedWhileClaimed_ready : Ready blockedWhileClaimed := by simp +contextual [blockedWhileClaimed, claimedByAnn_ready, Op.enabled, Op.reads]

theorem rows_keep_their_shape_resumed :
    (((localStore Env.plain).replay blockedWhileClaimed).2.getTask "task:goal:ship@constitution:v1|first|6").map
        (·.status) = some .blocked ∧
      ∀ seen ∈ (localStore Env.plain).visited ((localStore Env.plain).replay blockedWhileClaimed).1, seen.Shaped := by
  refine ⟨by decide +kernel, (rows_keep_their_shape blockedWhileClaimed_ready.run).mpr ?_⟩
  decide +kernel

def blockedWhilePaused : List (Store → Op) :=
  [fun _ => Op.reopen "task:goal:ship@constitution:v1|first|6" 10,
    fun _ => Op.block "task:goal:ship@constitution:v1|first|6" none none "human" 9,
    fun _ => Op.pause "task:goal:ship@constitution:v1|first|6" "ann" none 8] ++ claimedByAnn

theorem blockedWhilePaused_ready : Ready blockedWhilePaused := by simp +contextual [blockedWhilePaused, claimedByAnn_ready, Op.enabled, Op.reads]

/-- The reopened task is open and still says when it was parked. -/
theorem parking_outlives_block : ¬ ∀ env history state, (localStore env).Run history state → state.Shaped := by
  intro always
  have run : (localStore Env.plain).Replays blockedWhilePaused := blockedWhilePaused_ready.run
  have found : ((localStore Env.plain).replay blockedWhilePaused).2.getTask "task:goal:ship@constitution:v1|first|6" =
      some { taskOfAnn with
        status := .open, owner := none, claimStartedAt := none, leaseExpiresAt := none
        parkedAt := some 8, updatedAt := 10 } := by
    decide +kernel
  have parked := (always Env.plain _ _ run _ _ found).parked
  cases parked

end MindLeak.Lodestar
