import MindLeak.Proofs.Account
import MindLeak.Proofs.Evidence
import MindLeak.Proofs.Fates

/-! Unleased time over whole runs: what each operation does to one task's row and
log, and when the log's total is the time the run spent past the task's lease. -/

namespace MindLeak.Lodestar

open Rewrite Bool

/-- How long, up to a moment, the task was claimed past its lease within its
latest window of this key. -/
def lapsedTime (id : String) (key : WindowKey) : List (Entry Store Op) → Int → Int :=
  Machine.spent Op.time (fun s => decide ((s.getTask id).map Task.windowKey = some key))
    fun s since moment => ((s.getTask id).map fun task => task.lapsedBetween since moment).getD 0

variable {s : Store} {id : String} {now : Int}

namespace Store

/-- What an operation must find to account for every lapse: a holder who asks or
pauses does so on a lease that still runs, and the lease a holder claims again
past had not run out when it was written. -/
def Accountable (s : Store) (id : String) : Op → Prop
  | .ask target agent _ _ now | .pause target agent _ now => target = id → ∀ row ∈ s.getTask id,
      row.status = .claimed → row.owner = some agent → ∀ lease ∈ row.leaseExpiresAt,
        now ≤ lease ∨ lastGrant (s.eventsOf id) = some now
  | .claim target agent _ _ _ now => target = id → ∀ row ∈ s.getTask id,
      row.status = .claimed → row.owner = some agent → ∀ lease ∈ row.leaseExpiresAt, lease < now →
        ∀ grant ∈ lastGrant (s.eventsOf id), grant ≤ lease
  | _ => True

instance (s : Store) (id : String) : ∀ op : Op, Decidable (s.Accountable id op) := by
  rintro ⟨⟩ <;> (dsimp only [Accountable]; infer_instance)

def Affects (s after : Store) (id : String) (now : Int) : Prop :=
  Effect now (s.eventsOf id) (s.getTask id) (after.getTask id) (after.eventsOf id)

section

theorem Accountable.paid {row : Task} {agent : String} (held : row.status = .claimed)
    (owned : row.owner = some agent)
    (running : row.owner = some agent → ∀ lease ∈ row.leaseExpiresAt,
      now ≤ lease ∨ lastGrant (s.eventsOf id) = some now) :
    row.lapsedBetween ((lastGrant (s.eventsOf id)).getD now) now = 0 := by
  cases lease : row.leaseExpiresAt with
  | none => simp [Task.lapsedBetween, held, lease]
  | some until_ =>
    rcases running owned until_ lease with current | granted
    · rw [Task.lapsedBetween_claimed held lease]
      exact beyond_eq_zero (.inl current)
    · rw [granted, Option.getD_some, Task.lapsedBetween_self]

end
end Store

section
variable {op : Op} {rewrite : Rewrite} {row : Task}

theorem Rewrite.native (rewrite : Rewrite) : rewrite.kind ≠ .imported := by
  cases rewrite <;> (intro same; cases same)

theorem Rewrite.Issues.claim_write (issued : Rewrite.Issues op id now rewrite) (accountable : s.Accountable id op)
    (found : s.getTask id = some row) (taken : (rewrite.write now).takes row = true) (admitted : rewrite.Admits now row) :
    ClaimWrite (lastGrant (s.eventsOf id)) now row ((rewrite.write now).leaves row) rewrite.kind := by
  cases issued with
  | @claim _ agent branch leaseSecs =>
    by_cases held : row.status = .claimed ∧ row.owner = some agent
    · obtain ⟨claimed, owned⟩ := held
      have same : (decide (row.status = .claimed) && heldBy agent row) = true := by simp [heldBy, claimed, owned]
      refine .reclaimed claimed rfl ?_ rfl ?_
      · simp only [write, claimWrite, Task.windowKey, same, if_true, owned]
      · intro lease until_ ran_out grant granted
        exact accountable rfl row found claimed owned lease until_ ran_out grant granted
    · have other : (decide (row.status = .claimed) && heldBy agent row) = false := by
        simpa [heldBy] using held
      refine .taken rfl (by simp [write, claimWrite]) ?_ rfl ?_
      · simp only [write, claimWrite, other, false_eq_true, if_false]
      · intro _ same claimed
        exact held ⟨claimed, (congrArg Prod.fst same).symm⟩
  | renew =>
    simp only [write, renewWrite, and_eq_true, decide_eq_true_eq] at taken
    obtain ⟨⟨⟨_, claimed⟩, running⟩, _⟩ := taken
    exact .leased (by rw [claimed]; rfl) claimed rfl (by simp [kind]) rfl (Task.lapsedBetween_live running)
  | touch =>
    simp only [write, touchWrite, and_eq_true, decide_eq_true_eq] at taken
    obtain ⟨⟨⟨_, claimed⟩, running⟩, _⟩ := taken
    exact .leased (by rw [claimed]; rfl) claimed rfl (by simp [kind]) rfl (Task.lapsedBetween_live running)
  | release => exact .freed rfl rfl rfl (by simp [kind])
  | recover => exact .taken rfl (by simp [write, recoverWrite]) rfl rfl (by intro kind; cases kind)
  | ask =>
    simp only [write, askWrite, heldBy, and_eq_true, decide_eq_true_eq] at taken
    obtain ⟨owned, claimed⟩ := taken
    have paid := Store.Accountable.paid claimed owned (accountable rfl row found claimed)
    exact .parked claimed (by simp [write, askWrite]) rfl rfl (by simp [kind]) paid
  | pause =>
    simp only [write, pauseWrite, heldBy, and_eq_true, decide_eq_true_eq] at taken
    obtain ⟨owned, claimed⟩ := taken
    have paid := Store.Accountable.paid claimed owned (accountable rfl row found claimed)
    exact .parked claimed (by simp [write, pauseWrite]) rfl rfl (by simp [kind]) paid
  | answer =>
    simp only [write, answerWrite, decide_eq_true_eq] at taken
    refine .leased (by rw [taken]; rfl) rfl rfl (by simp [kind]) rfl (Task.lapsedBetween_unclaimed ?_)
    simp [taken]
  | resume =>
    simp only [write, resumeWrite, and_eq_true, decide_eq_true_eq] at taken
    refine .leased (by rw [taken.2]; rfl) rfl rfl (by simp [kind]) rfl (Task.lapsedBetween_unclaimed ?_)
    simp [taken.2]
  | reconnect => exact .noted rfl rfl rfl (by simp [kind]) rfl
  | reopen => exact .freed rfl rfl rfl (by simp [kind])

end

theorem Cause.claim_write {s after : Store} {op : Op} {id : String} {now : Int} {row : Task} {write : TaskWrite}
    {kind : TaskEventKind} (cause : Cause after op id now row write kind) (accountable : s.Accountable id op)
    (found : s.getTask id = some row) (taken : write.takes row = true) :
    kind ≠ .imported ∧ ClaimWrite (lastGrant (s.eventsOf id)) now row (write.leaves row) kind := by
  cases cause with
  | rewrite rewrite issued admitted => exact ⟨rewrite.native, issued.claim_write accountable found taken admitted⟩
  | @complete seen agent evidence check lessons owner issued =>
    refine ⟨by simp, .freed ?_ rfl rfl (by simp)⟩
    cases check.verdict <;> rfl
  | block | abandon | resolve | unblock => exact ⟨by simp, .freed rfl rfl rfl (by simp)⟩

namespace Store

theorem Fate.affects {s after : Store} {op : Op} {id : String} (fate : s.Fate op after id)
    (accountable : s.Accountable id op) (moment : Int) : s.Affects after id (op.time.getD moment) := by
  unfold Affects
  cases fate with
  | still alone =>
    rw [alone.row, alone.log]
    exact .still fun row' found => ⟨row', found, rfl, rfl, rfl⟩
  | wrote acts taken cause written =>
    obtain ⟨event, named, acted, image, log⟩ := written.log
    obtain ⟨native, claim⟩ := cause.claim_write accountable written.found taken
    rw [acts, log, written.found, written.left]
    subst named
    exact .wrote native image acted claim
  | noted acts claimed written =>
    obtain ⟨event, named, acted, image, log⟩ := written.log
    rw [acts, log, written.found, written.left]
    refine .wrote ?_ image acted (.noted rfl rfl rfl ?_ ?_) <;> rw [named]
    · simp
    · simp
    · rfl
  | carried found left log =>
    rw [found, left, log]
    refine .still fun row' same => ?_
    cases same
    exact ⟨_, rfl, rfl, rfl, rfl⟩
  | born acts fresh written =>
    obtain ⟨event, named, acted, image, log⟩ := written.log
    obtain ⟨_, _, _, _, _, gate, rfl⟩ := fresh
    rw [acts, log, written.found, written.left]
    refine .born (by rw [named]; simp) (by rw [named]; simp) image ?_ rfl rfl
    cases gate <;> rfl
  | gone left log =>
    rw [left, log]
    refine .still fun row' same => ?_
    cases same

end Store

section
variable {env : Env} {history : List (Entry Store Op)} {state : Store} {moment : Int}

theorem lapsedTime_cons (entry : Entry Store Op) (history : List (Entry Store Op)) (id : String) (key : WindowKey)
    (moment : Int) : lapsedTime id key (entry :: history) moment =
      ((entry.after.getTask id).map fun row => lasting row (entry.op.time.getD moment) moment
        (fun key => lapsedTime id key history (entry.op.time.getD moment)) key).getD 0 := by
  rw [lapsedTime, Machine.spent]
  cases found : entry.after.getTask id with
  | none => simp
  | some row => by_cases here : row.windowKey = key <;> simp [lasting, here, lapsedTime]

/-- In every clocked run of accountable steps the log's total and the time lived
past the lease stay in balance. -/
theorem run_account (run : (localStore env).Run history state)
    (steps : ∀ entry ∈ history, entry.before.Accountable id entry.op)
    (clocked : Machine.Clocked Op.time history moment) :
    Account (state.eventsOf id) (state.getTask id) (fun key => lapsedTime id key history moment) moment := by
  refine run.timed (fun s op => s.Accountable id op) (fun history state moment =>
    Account (state.eventsOf id) (state.getTask id) (fun key => lapsedTime id key history moment) moment) ?_ ?_ steps clocked
  · intro moment
    exact .empty moment
  · intro history before op moment met later account
    have effect : before.Affects (before.perform env op) id (op.time.getD moment) :=
      ((Store.perform_change env before op).fate id).affects met moment
    have stepped := Account.step account effect later
    simp only [lapsedTime_cons]
    exact stepped

/-- Every lapse of the task's window is on the books: outside an open lapse the
log's unleased seconds are the time lived past the lease, and no check at all
aligns over any such time. -/
structure Accounted (history : List (Entry Store Op)) (state : Store) (id : String) (moment : Int) : Prop where
  counted : ∀ task, state.getTask id = some task → ¬ (task.status = .claimed ∧ lapsed moment task = true) →
    (state.claimWindow id).unleasedSeconds = lapsedTime id task.windowKey history moment ∧
      (0 < lapsedTime id task.windowKey history moment → 1 ≤ (state.claimWindow id).lapses)
  certified : ∀ evidence requested inputs task result,
    state.judgeEvidence evidence requested inputs moment = .ok (some task, result) → task.id = id →
      result.verdict = .aligned → lapsedTime id task.windowKey history moment = 0

/-- In a run whose steps all leave the lapses on record, they are accounted for. -/
theorem lapses_are_accounted (run : (localStore env).Run history state)
    (clocked : Machine.Clocked Op.time history moment)
    (steps : ∀ entry ∈ history, entry.before.Accountable id entry.op) : Accounted history state id moment := by
  have account := run_account run steps clocked
  have sound := account.sound
  have scan : (state.claimWindow id).unleasedSeconds = (scanned (state.eventsOf id)).unleased ∧
      (state.claimWindow id).lapses = (scanned (state.eventsOf id)).lapses := ⟨rfl, rfl⟩
  have settled (task : Task) (found : state.getTask id = some task)
      (closed : ¬ (task.status = .claimed ∧ lapsed moment task = true)) :
      lapsedTime id task.windowKey history moment = (scanned (state.eventsOf id)).unleased := by
    have meter := (account.metered task found).meter task.windowKey
    rw [if_pos rfl] at meter
    have beyond_lease : task.lapsedBetween ((lastGrant (state.eventsOf id)).getD moment) moment = 0 := by
      by_cases claimed : task.status = .claimed
      · cases lease : task.leaseExpiresAt with
        | none => simp [Task.lapsedBetween, claimed, lease]
        | some until_ =>
          have current : ¬ until_ < moment := by
            intro ran_out
            exact closed ⟨claimed, by simp [lapsed, lease, ran_out]⟩
          rw [Task.lapsedBetween_claimed claimed lease]
          exact beyond_eq_zero (.inl (by omega))
      · exact Task.lapsedBetween_unclaimed claimed
    omega
  refine ⟨?_, ?_⟩
  · intro task found closed
    rw [scan.1, scan.2, settled task found closed]
    refine ⟨rfl, fun some => sound.counted (by omega)⟩
  · rintro evidence requested inputs task result judged rfl aligned
    obtain ⟨found, _, _, claim, evaluated⟩ := Store.judgeEvidence_ok judged
    obtain ⟨base, returned, verdict⟩ := Store.evaluateConformance_ok evaluated
    have continuous := Store.aligned_continuous returned (verdict ▸ aligned)
    have closed : ¬ (task.status = .claimed ∧ lapsed moment task = true) := by
      rintro ⟨_, ran_out⟩
      have running := claim.live
      cases lease : task.leaseExpiresAt with
      | none => simp [lapsed, lease] at ran_out
      | some until_ =>
        simp only [lapsed, live, lease, Option.any_some, decide_eq_true_eq] at ran_out running
        omega
    rw [settled task found closed]
    by_contra some
    have lapses := sound.counted some
    omega

end

/-- A claim picked up again past its lease, paused in time and resumed. -/
def reclaimedByAnn : List (Store → Op) :=
  [fun _ => Op.resume "task:goal:ship@constitution:v1|first|6" "ann" 100 201,
    fun _ => Op.pause "task:goal:ship@constitution:v1|first|6" "ann" none 200,
    fun _ => Op.claim "task:goal:ship@constitution:v1|first|6" "ann" 100 none none 150] ++ claimedByAnn

theorem reclaimedByAnn_ready : Ready reclaimedByAnn := by simp +contextual [reclaimedByAnn, claimedByAnn_ready, Op.enabled, Op.reads]

theorem lapses_are_accounted_reclaimed : Accounted ((localStore Env.plain).replay reclaimedByAnn).1
    ((localStore Env.plain).replay reclaimedByAnn).2 "task:goal:ship@constitution:v1|first|6" 201 := by
  refine lapses_are_accounted reclaimedByAnn_ready.run ?_ ?_
  · decide +kernel
  · decide +kernel

def pausedLate : List (Store → Op) :=
  [fun _ => Op.resume "task:goal:ship@constitution:v1|first|6" "ann" 100 201,
    fun _ => Op.pause "task:goal:ship@constitution:v1|first|6" "ann" none 200] ++ claimedByAnn

theorem pausedLate_ready : Ready pausedLate := by simp +contextual [pausedLate, claimedByAnn_ready, Op.enabled, Op.reads]

/-- Pausing past the lease and resuming leaves no trace of the lapse. -/
theorem pause_erases_lapse : ¬ ∀ env history state id moment, (localStore env).Run history state →
    Machine.Clocked Op.time history moment → Accounted history state id moment := by
  intro always
  have run : (localStore Env.plain).Replays pausedLate := pausedLate_ready.run
  have accounted := always Env.plain _ _ "task:goal:ship@constitution:v1|first|6" 201 run (by decide +kernel)
  have found : ((localStore Env.plain).replay pausedLate).2.getTask "task:goal:ship@constitution:v1|first|6" =
      some { taskOfAnn with leaseExpiresAt := some 301, updatedAt := 201 } := by
    decide +kernel
  have counted := (accounted.counted _ found (by decide)).1
  have erased : (((localStore Env.plain).replay pausedLate).2.claimWindow
      "task:goal:ship@constitution:v1|first|6").unleasedSeconds = 0 := by
    decide +kernel
  have lived : lapsedTime "task:goal:ship@constitution:v1|first|6" (some "ann", some 7)
      ((localStore Env.plain).replay pausedLate).1 201 = 93 := by
    decide +kernel
  have zero : (0 : Int) = 93 := erased.symm.trans (counted.trans lived)
  omega

end MindLeak.Lodestar
