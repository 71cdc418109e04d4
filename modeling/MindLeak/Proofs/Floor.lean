import MindLeak.Lodestar.Waits
import MindLeak.Proofs.Evidence
import MindLeak.Proofs.Fates

/-! How far back a claim's evidence may reach. The floor is found by the owner's
name in the history of recoveries, whichever way the window at hand was opened. -/

namespace MindLeak.Lodestar

open List Rewrite

inductive OpenedByRecovery (owner : String) : List TaskEvent → Prop
  | recovered {events event} (kind : event.kind = .claimRecovered) (target : event.after.owner = some owner) :
      OpenedByRecovery owner (events ++ [event])
  | wentOn {events last event} (opened : OpenedByRecovery owner events) (before : events.getLast? = some last)
      (same : event.after.windowKey = last.after.windowKey) (held : event.kind = .claimed → last.after.status = .claimed) :
      OpenedByRecovery owner (events ++ [event])

theorem OpenedByRecovery.past_claim {owner : String} {events : List TaskEvent} {event : TaskEvent}
    (opened : OpenedByRecovery owner events) (latest : events.getLast? = some event) (claimed : event.kind = .claimed) :
    ∃ last, events.dropLast.getLast? = some last ∧ last.after.status = .claimed := by
  cases opened with
  | recovered kind target =>
    rw [List.getLast?_concat] at latest
    cases latest
    cases kind.symm.trans claimed
  | wentOn opened before same held =>
    rw [List.getLast?_concat] at latest
    cases latest
    rw [dropLast_concat]
    exact ⟨_, before, held claimed⟩

theorem loggedTransfers_append {previous : Option TaskEvent} {events : List TaskEvent} {event : TaskEvent}
    (other : event.kind ≠ .claimRecovered) : loggedTransfers previous (events ++ [event]) = loggedTransfers previous events := by
  induction events generalizing previous with
  | nil => simp [loggedTransfers, other]
  | cons first rest ih =>
    rw [cons_append, loggedTransfers, loggedTransfers, ih]

/-- Nobody recovered this task to the owner: the walk ends where it starts. -/
theorem authorisingStart_unrecovered {history : List ClaimTransfer} {steps : Nat} {owner : String} {earliest : Option Int}
    (unrecovered : ∀ transfer ∈ history, transfer.toOwner ≠ owner) :
    authorisingStart history (steps + 1) owner earliest = .ok earliest := by
  have none_found : (history.reverse.find? fun transfer => decide (transfer.toOwner = owner)) = none := by
    apply List.find?_eq_none.mpr
    intro transfer member
    simpa using unrecovered transfer (mem_reverse.mp member)
  rw [authorisingStart, none_found]

variable {s : Store} {now : Int}

namespace Store

def Unrecovered (s : Store) (id owner : String) : Prop := ∀ transfer ∈ s.claimTransferHistory id, transfer.toOwner ≠ owner

/-- A claim that opens a window is by an agent the task was never recovered to. -/
def ClaimsUnrecovered (s : Store) : Op → Prop
  | .claim id agent leaseSecs _ _ now => ∀ task ∈ s.getTask id, (claimWrite agent none leaseSecs now).takes task = true →
      ¬ (task.status = .claimed ∧ task.owner = some agent) → s.Unrecovered id agent
  | _ => True

instance (s : Store) : ∀ op : Op, Decidable (s.ClaimsUnrecovered op) := by
  rintro ⟨⟩ <;> (dsimp only [ClaimsUnrecovered, Unrecovered]; infer_instance)

structure Traced (s : Store) (id : String) (task : Task) : Prop where
  last : ∃ event, (s.eventsOf id).getLast? = some event ∧ event.after.windowKey = task.windowKey ∧
    event.after.status = task.status
  floor : ∀ owner, task.owner = some owner → OpenedByRecovery owner (s.eventsOf id) ∨ s.Unrecovered id owner

structure Grounded (s : Store) : Prop where
  archive : s.claimTransfers = []
  traced : ∀ id task, s.getTask id = some task → s.Traced id task

section
variable {env : Env} {after : Store} {op : Op} {id owner : String} {row row' : Task} {kind : TaskEventKind}

theorem unrecovered_iff (archive : s.claimTransfers = []) :
    s.Unrecovered id owner ↔ ∀ transfer ∈ loggedTransfers none (s.eventsOf id), transfer.toOwner ≠ owner := by
  unfold Unrecovered claimTransferHistory
  simp only [(perm_insertionSort _ _).mem_iff, archive, filter_nil, nil_append]

variable {before : Option Task}

theorem Unrecovered.written (unrecovered : s.Unrecovered id owner) (archive : s.claimTransfers = [])
    (archive' : after.claimTransfers = []) (written : s.Written after id now kind before row')
    (other : kind ≠ .claimRecovered) : after.Unrecovered id owner := by
  obtain ⟨event, named, _, _, log⟩ := written.log
  rw [unrecovered_iff archive'] at ⊢
  rw [unrecovered_iff archive] at unrecovered
  rw [log, loggedTransfers_append (named ▸ other)]
  exact unrecovered

theorem Written.last (written : s.Written after id now kind before row') :
    ∃ event, (after.eventsOf id).getLast? = some event ∧ event.after.windowKey = row'.windowKey ∧
      event.after.status = row'.status := by
  obtain ⟨event, _, _, image, log⟩ := written.log
  exact ⟨event, by rw [log, List.getLast?_concat], by rw [image], by rw [image]⟩

theorem Written.unowned (written : s.Written after id now kind before row')
    (unowned : row'.owner = none) : after.Traced id row' := by
  refine ⟨written.last, ?_⟩
  intro owner owned
  cases unowned.symm.trans owned

theorem Traced.goesOn (traced : s.Traced id row) (archive : s.claimTransfers = []) (archive' : after.claimTransfers = [])
    (written : s.Written after id now kind (some row) row') (same : row'.windowKey = row.windowKey)
    (other : kind ≠ .claimRecovered) (held : kind = .claimed → row.status = .claimed) : after.Traced id row' := by
  refine ⟨written.last, ?_⟩
  intro owner owned
  have owned_before : row.owner = some owner := (congrArg Prod.fst same).symm.trans owned
  rcases traced.floor owner owned_before with opened | unrecovered
  · left
    obtain ⟨last, latest, key, status⟩ := traced.last
    obtain ⟨event, named, _, image, log⟩ := written.log
    rw [log]
    apply opened.wentOn latest
    · rw [image, same, key]
    · intro claimed
      rw [status]
      exact held (named.symm.trans claimed)
  · right
    exact unrecovered.written archive archive' written other

theorem Fate.traced (fate : s.Fate op after id) (grounded : s.Grounded) (archive : after.claimTransfers = [])
    (met : s.ClaimsUnrecovered op) (found : after.getTask id = some row') : after.Traced id row' := by
  cases fate with
  | still alone =>
    have before := grounded.traced id row' (alone.row.symm.trans found)
    refine ⟨by rw [alone.log]; exact before.last, fun owner owned => ?_⟩
    rw [alone.log, unrecovered_iff archive, alone.log, ← unrecovered_iff grounded.archive]
    exact before.floor owner owned
  | @wrote now row write kind acts taken cause written =>
    cases written.left.symm.trans found
    have before := grounded.traced id row written.found
    cases cause with
    | rewrite rewrite issued admitted =>
      cases issued with
      | @claim _ agent branch leaseSecs paths symbols =>
        by_cases held : row.status = .claimed ∧ row.owner = some agent
        · apply before.goesOn grounded.archive archive written
          · simp [write, claimWrite, Task.windowKey, heldBy, held]
          · simp [kind]
          · exact fun _ => held.1
        · refine ⟨written.last, ?_⟩
          intro owner owned
          cases Option.some.inj owned
          have unrecovered := met row written.found taken held
          exact .inr (unrecovered.written grounded.archive archive written (by simp [kind]))
      | recover =>
        refine ⟨written.last, ?_⟩
        intro owner owned
        obtain ⟨event, named, _, image, log⟩ := written.log
        left
        rw [log]
        exact .recovered named (image ▸ owned)
      | release | reopen => exact written.unowned rfl
      | renew | touch | ask | answer | pause | resume | reconnect =>
        exact before.goesOn grounded.archive archive written rfl (by simp [kind]) (by simp [kind])
    | block | complete | abandon | resolve | unblock => exact written.unowned rfl
  | noted acts claimed written =>
    cases written.left.symm.trans found
    have before := grounded.traced id row' written.found
    exact before.goesOn grounded.archive archive written rfl (by simp) (by simp)
  | @carried row goalId updatedAt kept left log =>
    cases left.symm.trans found
    have before := grounded.traced id row kept
    refine ⟨by rw [log]; exact before.last, fun owner owned => ?_⟩
    rw [log, unrecovered_iff archive, log, ← unrecovered_iff grounded.archive]
    exact before.floor owner owned
  | born acts fresh written =>
    obtain ⟨_, _, _, _, _, gate, rfl⟩ := fresh
    cases written.left.symm.trans found
    exact written.unowned rfl
  | gone left log =>
    cases left.symm.trans found

theorem Grounded.step (grounded : s.Grounded) (met : s.ClaimsUnrecovered op) : (s.perform env op).Grounded := by
  have archive : (s.perform env op).claimTransfers = [] := by
    rcases perform_transfers env s op with same | cleared
    · exact same.trans grounded.archive
    · exact cleared
  refine ⟨archive, ?_⟩
  intro id task found
  exact ((perform_change env s op).fate id).traced grounded archive met found

end
end Store

/-- In a run where a fresh claim is only by agents the task was never recovered
to, evidence older than the window is admitted only in a recovery's window. -/
theorem earlier_floor_needs_recovery {env : Env} {history : List (Entry Store Op)} {state : Store} {id agent : String}
    {task : Task} {evidence : ConformanceEvidence} {now start : Int} (run : (localStore env).Run history state)
    (steps : ∀ entry ∈ history, entry.before.ClaimsUnrecovered entry.op) (found : state.getTask id = some task)
    (admitted : state.validateClaimEvidence task agent evidence now = .ok ()) (opened : task.claimStartedAt = some start)
    (older : evidence.startedAt < start) : OpenedByRecovery agent (state.eventsOf id) := by
  have grounded : state.Grounded := by
    refine run.invariant_of_steps Store.Grounded ?_ (fun s op => s.ClaimsUnrecovered op) steps ?_
    · exact ⟨rfl, fun id task missing => by cases missing⟩
    · intro before op met grounded
      exact grounded.step met
  have same := Store.getTask_id found
  obtain ⟨by_, _, claim⟩ := Store.validateClaimEvidence_ok admitted
  have owned : task.owner = some agent := by_ ▸ claim.owned
  rcases (grounded.traced id task found).floor agent owned with recovery | unrecovered
  · exact recovery
  obtain ⟨begun, authorised, started, window, inside⟩ := claim.opened
  cases opened.symm.trans started
  have floor : authorised = some start := by
    rw [by_, Store.authorisingWindowStart, same, authorisingStart_unrecovered unrecovered, found] at window
    simp only [Option.bind_some, owned, if_true, opened] at window
    cases window
    rfl
  rw [floor, Option.getD_some, min_self] at inside
  omega

def sessionOfAnn : RecoveringSession := ⟨"session:v1:0123456789abcdef0123456789abcdef", "ann"⟩

def recoveredFromAnn : List (Store → Op) :=
  [fun _ => Op.recover "task:goal:ship@constitution:v1|first|6" "ann" sessionOfAnn "stranded" none 100 200] ++ claimedByAnn

theorem recoveredFromAnn_ready : Ready recoveredFromAnn := by simp +contextual [recoveredFromAnn, claimedByAnn_ready, Op.enabled, Op.reads]

def claimedAfterRelease : List (Store → Op) :=
  [fun _ => Op.claim "task:goal:ship@constitution:v1|first|6" sessionOfAnn.agent 100 none none 300,
    fun _ => Op.release "task:goal:ship@constitution:v1|first|6" sessionOfAnn.agent 210] ++ recoveredFromAnn

theorem claimedAfterRelease_ready : Ready claimedAfterRelease := by simp +contextual [claimedAfterRelease, recoveredFromAnn_ready, Op.enabled, Op.reads]

/-- Work done under ann's own window, submitted by the session. -/
def workOfAnn (endedAt : Int) : ConformanceEvidence :=
  { citesWaiver with agentId := sessionOfAnn.agent, startedAt := 8, endedAt, provenance := [] }

theorem earlier_floor_needs_recovery_recovered : OpenedByRecovery sessionOfAnn.agent
    (((localStore Env.plain).replay recoveredFromAnn).2.eventsOf "task:goal:ship@constitution:v1|first|6") := by
  obtain ⟨found, admitted, unrecovered⟩ : let s := ((localStore Env.plain).replay recoveredFromAnn).2
      s.getTask "task:goal:ship@constitution:v1|first|6" =
      some { taskOfAnn with
        owner := some sessionOfAnn.agent, claimStartedAt := some 200, leaseExpiresAt := some 300, updatedAt := 200 } ∧
      s.validateClaimEvidence { taskOfAnn with
        owner := some sessionOfAnn.agent, claimStartedAt := some 200, leaseExpiresAt := some 300, updatedAt := 200 }
        sessionOfAnn.agent (workOfAnn 9) 201 = .ok () ∧
      ∀ entry ∈ ((localStore Env.plain).replay recoveredFromAnn).1, entry.before.ClaimsUnrecovered entry.op := by
    decide +kernel
  exact earlier_floor_needs_recovery recoveredFromAnn_ready.run unrecovered found admitted rfl (by decide)

/-- Released and claimed afresh, the session still inherits ann's window. -/
theorem recovery_outlives_release : ¬ ∀ env history state id agent task evidence now start,
    (localStore env).Run history state → state.getTask id = some task →
      state.validateClaimEvidence task agent evidence now = .ok () → task.claimStartedAt = some start →
        evidence.startedAt < start → OpenedByRecovery agent (state.eventsOf id) := by
  intro always
  have run : (localStore Env.plain).Replays claimedAfterRelease := claimedAfterRelease_ready.run
  obtain ⟨found, log, admitted⟩ : let s := ((localStore Env.plain).replay claimedAfterRelease).2
      s.getTask "task:goal:ship@constitution:v1|first|6" =
      some { taskOfAnn with
        owner := some sessionOfAnn.agent, claimStartedAt := some 300, leaseExpiresAt := some 400, updatedAt := 300 } ∧
      (s.eventsOf "task:goal:ship@constitution:v1|first|6").map (fun event => (event.kind, event.after.status)) =
        [(.created, .open), (.claimed, .claimed), (.claimRecovered, .claimed), (.released, .open), (.claimed, .claimed)] ∧
      s.validateClaimEvidence { taskOfAnn with
        owner := some sessionOfAnn.agent, claimStartedAt := some 300, leaseExpiresAt := some 400, updatedAt := 300 }
        sessionOfAnn.agent (workOfAnn 9) 301 = .ok () := by
    decide +kernel
  have opened := always Env.plain _ _ _ sessionOfAnn.agent _ (workOfAnn 9) 301 300 run found admitted rfl (by decide)
  generalize ((localStore Env.plain).replay claimedAfterRelease).2.eventsOf "task:goal:ship@constitution:v1|first|6" =
    events at opened log
  have latest : (events.getLast?).map (fun event => (event.kind, event.after.status)) = some (.claimed, .claimed) := by
    rw [← List.getLast?_map, log]
    rfl
  have before : (events.dropLast.getLast?).map (fun event => (event.kind, event.after.status)) = some (.released, .open) := by
    rw [← List.getLast?_map, map_dropLast, log]
    rfl
  obtain ⟨event, latest, named⟩ := Option.map_eq_some_iff.mp latest
  obtain ⟨last, previous, held⟩ := opened.past_claim latest (congrArg Prod.fst named)
  rw [previous] at before
  have free : last.after.status = .open := congrArg Prod.snd (Option.some.inj before)
  cases held.symm.trans free

/-! What the board offers next, and who can take it. The offer goes by the row alone; a claim also
asks whether a registered session would take over a legacy owner's row. -/

theorem claimWrite_takes {task : Task} {agent : String} {branch : Option String} {leaseSecs now : Int} (free : offered now task = true) :
    (claimWrite agent branch leaseSecs now).takes task = !legacyGuard agent task := by
  obtain ⟨ungated, open_⟩ := Bool.and_eq_true_iff.mp free
  rw [Bool.or_eq_true] at open_
  have eligible : (decide (task.status = .open) || (decide (task.status = .claimed) && lapsed now task) ||
      (decide (task.status = .claimed) && heldBy agent task) ||
      ((decide (task.status = .needsInput) || decide (task.status = .paused)) &&
        task.parkedAt.any fun parked => decide (parked < now - PARKING_GRACE_SECS))) = true := by
    rcases open_ with unparked | parked
    · rw [unparked, Bool.true_or, Bool.true_or]
    · rw [parked, Bool.or_true]
  unfold claimWrite
  dsimp only
  rw [eligible, ungated, Bool.true_and, Bool.and_true]

namespace Store
variable {task : Task} {agent : String}

theorem nextTask_offered (next : s.nextTask now = some task) : s.getTask task.id = some task ∧ offered now task = true := by
  have listed := (mem_insertionSort _).mp (mem_of_mem_head? next)
  obtain ⟨member, free⟩ := mem_filter.mp listed
  exact ⟨mem_getTask member, free⟩

theorem refuseBeyondClaimLimit_under (id : String) (under : (s.heldClaims agent).length < MAX_CONCURRENT_CLAIMS) :
    s.refuseBeyondClaimLimit id agent = .ok () := by
  unfold refuseBeyondClaimLimit
  split
  · rfl
  · exact if_pos under

theorem claimTask_wins (env : Env) (leaseSecs : Int) (found : s.getTask task.id = some task)
    (under : (s.heldClaims agent).length < MAX_CONCURRENT_CLAIMS) :
    (∃ after, s.claimTask env task.id agent leaseSecs (some []) (some []) now = .ok (true, after)) ↔
      (claimWrite agent (s.declaredBranch agent) leaseSecs now).takes task = true := by
  have paths : normalizeDeclared env (some []) = .ok (some []) := rfl
  simp only [claimTask, paths, refuseBeyondClaimLimit_under task.id under, transition_eq, found, ok_bind, pure_eq, Option.filter_some]
  cases taken : (claimWrite agent (s.declaredBranch agent) leaseSecs now).takes task with
  | false => simp
  | true => exact iff_of_true ⟨_, rfl⟩ rfl

end Store

/-- The task that the board offers next is one that an agent under the cap can claim, unless the row is a legacy owner's and the agent a
registered session. -/
theorem next_task_claimable_iff (env : Env) {s : Store} {task : Task} {agent : String} {now : Int} (leaseSecs : Int)
    (next : s.nextTask now = some task) (under : (s.heldClaims agent).length < MAX_CONCURRENT_CLAIMS) :
    (∃ after, s.claimTask env task.id agent leaseSecs (some []) (some []) now = .ok (true, after)) ↔ legacyGuard agent task = false := by
  obtain ⟨found, free⟩ := Store.nextTask_offered next
  rw [Store.claimTask_wins env leaseSecs found under, claimWrite_takes free, Bool.not_eq_true']

theorem claimedByAnn_offers : let s := ((localStore Env.plain).replay claimedByAnn).2
    s.nextTask 200 = some taskOfAnn ∧ (s.heldClaims "bob").length < MAX_CONCURRENT_CLAIMS ∧ legacyGuard "bob" taskOfAnn = false ∧
    (s.heldClaims sessionOfAnn.agent).length < MAX_CONCURRENT_CLAIMS ∧
    (s.claimTask Env.plain taskOfAnn.id sessionOfAnn.agent 100 (some []) (some []) 200).toOption.map Prod.fst = some false := by decide +kernel

theorem next_task_claimable_claimed : ∃ after, ((localStore Env.plain).replay claimedByAnn).2.claimTask Env.plain
    "task:goal:ship@constitution:v1|first|6" "bob" 100 (some []) (some []) 200 = .ok (true, after) := by
  obtain ⟨next, few, free, _⟩ := claimedByAnn_offers
  exact (next_task_claimable_iff Env.plain 100 next few).mpr free

/-- Out of lease, ann's task is offered to sessions that cannot take it. -/
theorem legacy_task_offered : ¬∀ env history state now task agent leaseSecs, (localStore env).Run history state →
    state.nextTask now = some task → (state.heldClaims agent).length < MAX_CONCURRENT_CLAIMS →
      ∃ after, state.claimTask env task.id agent leaseSecs (some []) (some []) now = .ok (true, after) := by
  intro always
  obtain ⟨next, _, _, few, lost⟩ := claimedByAnn_offers
  obtain ⟨after, won⟩ := always Env.plain _ _ 200 taskOfAnn sessionOfAnn.agent 100 claimedByAnn_ready.run next few
  rw [won] at lost
  cases lost

end MindLeak.Lodestar
