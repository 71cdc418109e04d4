import MindLeak.Proofs.CommandOnce

/-! A command that expects another version of its task than it finds changes nothing, unless it releases
a claim. -/

namespace MindLeak.Ackplane

open CommandStore WorkCommands List Option Interleaving

def CommandStore.Targeted (s : CommandStore) : Prop :=
  ∀ row ∈ s.commands.rows, row.kind ≠ .createWork → ∃ taskId version task, row.taskId = some taskId ∧
    row.expectedTaskVersion = some version ∧ s.work.tasks.find? (row.taskKey taskId) = some task

theorem targeted_empty : CommandStore.empty.Targeted := by
  intro row member
  cases member

theorem NewWorkCommand.validateTarget_ok {request : NewWorkCommand} {now : Int} (valid : request.validate now = .ok ())
    (existing : request.kind ≠ .createWork) :
    (∃ taskId, request.taskId = some taskId) ∧ ∃ version, request.expectedTaskVersion = some version := by
  obtain ⟨_, _, valid⟩ := bind_ok valid
  obtain ⟨_, _, valid⟩ := bind_ok valid
  obtain ⟨_, _, valid⟩ := bind_ok valid
  obtain ⟨_, _, valid⟩ := bind_ok valid
  obtain ⟨_, _, valid⟩ := bind_ok valid
  obtain ⟨_, _, valid⟩ := bind_ok valid
  obtain ⟨_, target, _⟩ := bind_ok valid
  unfold NewWorkCommand.validateTarget at target
  split at target
  next its => exact absurd its existing
  obtain ⟨named, expected⟩ := not_or.mp (refuseIf_ok.mp target)
  exact ⟨ne_none_iff_exists'.mp named, ne_none_iff_exists'.mp expected⟩

variable {platform : DirectivePlatform} {order : CommandStore → CommandStore → Prop} {seen : CommandStore → Prop}
  {s after : CommandStore}

namespace CommandCall
variable {call : CommandCall} {answer : CommandAnswer}

theorem Does.commands (does : Does platform order seen s call after answer) {row : WorkCommandRow} (member : row ∈ after.commands.rows) :
    (∃ old ∈ s.commands.rows, row = { old with directiveId := row.directiveId }) ∨
      ∃ request digest now, NewWorkCommand.validate request now = .ok () ∧ row = request.row platform.toPlatform digest now ∧
        ∀ taskId, request.taskId = some taskId → ∃ earlier, seen earlier ∧
          (earlier.work.tasks.find? ⟨request.tenantId, request.repositoryId, taskId⟩).isSome := by
  have kept (same : after.commands = s.commands) : ∃ old ∈ s.commands.rows, row = { old with directiveId := row.directiveId } :=
    ⟨row, same ▸ member, rfl⟩
  cases does with
  | createTask | recordNodeTask | claim => exact .inl (kept rfl)
  | replayNodeTask idle => rcases idle with rfl | rfl <;> exact .inl (kept rfl)
  | ask asks => rcases asks with rfl | rfl <;> exact .inl (kept rfl)
  | recordSession records => rcases records with rfl | ⟨_, rfl⟩ <;> exact .inl (kept rfl)
  | enqueue _ _ _ enqueues => exact .inl (kept enqueues.commands.1)
  | recordDirectiveReceipt received => cases received <;> exact .inl (kept rfl)
  | recordPending _ _ receipted => exact .inl (kept receipted.commands)
  | submit _ valid _ records =>
    cases records with
    | replays => exact .inl (kept rfl)
    | inserts _ targets =>
      rcases Table.mem_insertOrIgnore member with old | rfl
      · exact .inl ⟨row, old, rfl⟩
      · exact .inr ⟨_, _, _, valid, rfl, targets⟩
  | confirm confirms =>
    cases confirms with
    | unknown | refused => exact .inl (kept rfl)
    | executes _ _ _ executes =>
      cases executes with
      | replays => exact .inl (kept rfl)
      | confirms decided _ _ receipted =>
        rw [receipted.commands] at member
        rcases decided_cases decided with ⟨_, _, base, _, _, enqueues, _, _, rfl⟩ | ⟨same, _⟩
        · obtain ⟨old, inside, rfl⟩ := mem_map.mp member
          refine .inl ⟨old, enqueues.commands.1 ▸ inside, ?_⟩
          split <;> rfl
        · exact .inl ⟨row, same ▸ member, rfl⟩
  | applyDirectiveReceipt reports =>
    cases reports with
    | idle | unissued | replays => exact .inl (kept rfl)
    | reports _ _ _ reflects _ _ receipted =>
      exact .inl (kept (receipted.commands.trans (congrArg Ledger.commands reflects.ledger)))

theorem Does.targeted (targeted : s.Targeted) (grown : ∀ earlier, seen earlier → earlier.Grows s)
    (does : Does platform order seen s call after answer) : after.Targeted := by
  intro row member existing
  rcases does.commands member with ⟨old, inside, same⟩ | ⟨request, digest, now, valid, rfl, targets⟩
  · rw [same] at existing ⊢
    obtain ⟨taskId, version, task, named, expected, found⟩ := targeted old inside existing
    obtain ⟨task', there, _⟩ := does.grows.work.tasks _ _ found
    exact ⟨taskId, version, task', named, expected, there⟩
  · obtain ⟨⟨taskId, named⟩, version, expected⟩ := NewWorkCommand.validateTarget_ok valid existing
    obtain ⟨earlier, known, there⟩ := targets taskId named
    obtain ⟨task, found⟩ := isSome_iff_exists.mp there
    obtain ⟨_, still, _⟩ := (grown earlier known).work.tasks _ _ found
    obtain ⟨task', kept, _⟩ := does.grows.work.tasks _ _ still
    exact ⟨taskId, version, task', named, expected, kept⟩

end CommandCall

def CommandStore.Current (s : CommandStore) (command : WorkCommandRow) : Prop :=
  ∃ taskId task, command.taskId = some taskId ∧ s.work.tasks.find? (command.taskKey taskId) = some task ∧
    command.expectedTaskVersion = some task.version

def WorkCommandRow.claimKey (command : WorkCommandRow) (taskId : String) : ClaimKey := ⟨command.tenantId, command.repositoryId, taskId⟩

def CommandStore.Disowned (s : CommandStore) (command : WorkCommandRow) (payload : WorkCommandPayload) : Prop :=
  ∃ taskId release claim, command.taskId = some taskId ∧ payload = .releaseLease release ∧
    s.claims.find? (command.claimKey taskId) = some claim ∧
    (claim.ownerId ≠ release.expectedOwnerId ∨ claim.leaseExpiresAt ≠ release.expectedLeaseExpiresAt)

structure CommandStore.Untouched (s after : CommandStore) : Prop where
  work : after.work = s.work
  waits : after.waits = s.waits
  claims : after.claims = s.claims

theorem CommandStore.Kept.untouched {s after : CommandStore} (kept : s.Kept after) : s.Untouched after := by
  rw [kept.same]
  exact ⟨rfl, rfl, rfl⟩

variable {command : WorkCommandRow} {payload : WorkCommandPayload} {now : Int}

namespace WorkCommands
variable {outcome : ExecutionOutcome} {taskId : String}

theorem applyEffect_expects (existing : command.kind ≠ .createWork) (unaddressed : command.kind.addressed = false)
    (held : command.kind ≠ .releaseLease) (its : payload.kind = command.kind)
    (runs : (applyEffect platform command now payload).Runs look s order seen s after outcome) :
    ∃ next, Expecting command order seen s s next after outcome := by
  rw [← its] at existing unaddressed held
  cases payload with
  | routeWork | answerWait | submitReview => exact ⟨_, onExpectedTask_runs runs⟩
  | createWork => exact absurd rfl existing
  | releaseLease => exact absurd rfl held
  | assign | steer | pause | resume | drain => cases unaddressed

theorem Expecting.compares {next : String → LockedTask → CommandTransaction WorkCommandStoreError ExecutionOutcome} {version : Int}
    (named : command.taskId = some taskId) (expected : command.expectedTaskVersion = some version)
    (there : ∀ earlier, seen earlier → (earlier.work.tasks.find? (command.taskKey taskId)).isSome)
    (expecting : Expecting command order seen s s next after outcome) :
    s.Current command ∨ after = s ∧ (outcome.describe now).1 = .conflicted := by
  cases expecting with
  | untargeted no =>
    rw [named, expected] at no
    simp at no
  | absent its known missing =>
    cases named.symm.trans its
    have present := there _ known
    rw [missing] at present
    cases present
  | stale => exact .inr ⟨rfl, rfl⟩
  | current its compared found => exact .inl ⟨_, _, its, found, compared⟩

theorem releaseLease_disowned {release : ReleaseLeasePayload} (disowned : s.Disowned command (.releaseLease release))
    (there : ∀ taskId, command.taskId = some taskId → ∀ earlier, seen earlier → (earlier.claims.find? (command.claimKey taskId)).isSome)
    (runs : (releaseLease platform.toPlatform command now release).Runs look s order seen s after outcome) :
    after = s ∧ (outcome.describe now).1 = .conflicted := by
  obtain ⟨taskId, _, claim, named, ⟨⟩, found, other⟩ := disowned
  unfold releaseLease at runs
  rw [named] at runs
  rcases runs.lockIf with ⟨_, done⟩ | ⟨earlier, known, missing, _⟩
  · rw [show s.look (.claim ⟨command.tenantId, command.repositoryId, taskId⟩) = some claim from found] at done
    unfold releaseFound at done
    dsimp only at done
    split at done
    · exact ⟨done.1, by rw [done.2]; rfl⟩
    rename_i owned
    rw [if_pos (other.resolve_left owned)] at done
    exact ⟨done.1, by rw [done.2]; rfl⟩
  · have present := there taskId named earlier known
    exact absurd (present.symm.trans missing) (by decide)

end WorkCommands

namespace CommandCall
variable {principal : VerifiedWorkCommandPrincipal} {key : CommandKey} {outcome : WorkCommandReceiptWriteOutcome}

def Guarded (platform : DirectivePlatform) (seen : CommandStore → Prop) (s : CommandStore) (command : WorkCommandRow)
    (payload : WorkCommandPayload) (now : Int) : Prop :=
  command.kind = .releaseLease → Timely platform command payload now → s.receipts.find? command.key.confirm = none →
    s.Current command ∨ s.Disowned command payload ∧ ∀ earlier, seen earlier → (earlier.commands.find? command.key).isSome →
      ∀ taskId, command.taskId = some taskId → (earlier.claims.find? (command.claimKey taskId)).isSome

theorem Does.guarded (settled : s.Settled platform.toPlatform) (grown : ∀ earlier, seen earlier → earlier.Follows s)
    (targeted : ∀ earlier, seen earlier → earlier.Targeted)
    (distinct : ∀ receipt, Asks platform s (.confirm principal key payload now) receipt → s.Distinct platform.toPlatform receipt)
    (existing : command.kind ≠ .createWork) (unaddressed : command.kind.addressed = false)
    (guarded : Guarded platform seen s command payload now)
    (does : Does platform CommandStore.Follows seen s (.confirm principal key payload now) after (.confirmed (.executed command outcome))) :
    s.Current command ∨ s.Untouched after ∧
      (Timely platform command payload now → outcome.idempotentReplay = false → outcome.receipt.outcome = .conflicted) := by
  cases does with
  | confirm confirms =>
    cases confirms with
    | @executes earlier _ _ _ known found its executes =>
      obtain ⟨rfl, _⟩ := found_still (grown _ known).grows found
      cases Does.once settled grown distinct known found executes with
      | again _ kept => exact .inr ⟨kept.untouched, fun _ replayed => by cases replayed⟩
      | @first middle decision digest absent decided _ _ written =>
        subst written
        suffices left : Timely platform command payload now →
            s.Current command ∨ middle = s ∧ (decision.describe now).1 = .conflicted by
          rcases confirmedOutcome_runs decided with ⟨untimely, rfl, _⟩ | ⟨timely, _⟩
          · exact .inr ⟨⟨rfl, rfl, rfl⟩, fun timely => absurd timely untimely⟩
          · rcases left timely with current | ⟨rfl, told⟩
            · exact .inl current
            · exact .inr ⟨⟨rfl, rfl, rfl⟩, fun _ _ => told⟩
        intro timely
        rcases confirmedOutcome_runs decided with ⟨untimely, _⟩ | ⟨_, runs⟩
        · exact absurd timely untimely
        obtain ⟨member, _⟩ := Table.mem_of_find? found
        obtain ⟨taskId, version, task, named, expected, there⟩ := targeted earlier known command member existing
        by_cases release : command.kind = .releaseLease
        · rcases guarded release timely absent with current | ⟨disowned, held⟩
          · exact .inl current
          have given := disowned
          obtain ⟨_, _, _, _, rfl, _⟩ := given
          refine .inr (releaseLease_disowned disowned (fun taskId named later known => ?_) runs)
          obtain ⟨_, still⟩ := known.2.grows.ledger.commands _ _ found
          exact held later known.1 (isSome_iff_exists.mpr ⟨_, still⟩) taskId named
        · obtain ⟨next, expecting⟩ := applyEffect_expects existing unaddressed release timely.kind runs
          refine expecting.compares named expected fun later known => ?_
          obtain ⟨_, still, _⟩ := known.2.grows.work.tasks _ _ there
          rw [still]
          rfl

end CommandCall

section
variable {τ : Type} [DecidableEq τ] {history : List (WorkStep τ)} {state : WorkControl τ}

def Executing (entry : WorkStep τ) (payload : WorkCommandPayload) (now : Int) (command : WorkCommandRow)
    (outcome : WorkCommandReceiptWriteOutcome) : Prop :=
  ∃ principal key, entry.before.Committing entry.op (.confirm principal key payload now) (.confirmed (.executed command outcome))

def WasStore (platform : DirectivePlatform) (history : List (WorkStep τ)) (store : CommandStore) : Prop :=
  ∃ seen ∈ (workControl platform τ .empty).visited history, seen.store = store

/-- A confirmed command on a task that it does not create has an effect only at the version it expects;
behind any other it leaves tasks, history, waits and claims, and its receipt is a conflict, so long as
every release is guarded. -/
theorem stale_command_changes_nothing (run : (workControl platform τ .empty).Run history state) (apart : Collisionless platform history)
    (guarded : ∀ entry ∈ history, ∀ payload now command outcome, Executing entry payload now command outcome →
      CommandCall.Guarded platform (WasStore platform history) entry.before.store command payload now) :
    ∀ entry ∈ history, ∀ payload now command outcome, Executing entry payload now command outcome → command.kind ≠ .createWork →
      command.kind.addressed = false → entry.before.store.Current command ∨ entry.before.store.Untouched entry.after.store ∧
        (Timely platform command payload now → outcome.idempotentReplay = false → outcome.receipt.outcome = .conflicted) := by
  obtain ⟨_, steps⟩ := Interleaving.run_steps run (CommandCall.program_within platform)
    (fun store => store.Settled platform.toPlatform ∧ store.Targeted ∧ WasStore platform history store) CommandStore.Follows .refl .trans
    ⟨settled_empty _, targeted_empty, _, mem_append_right _ (mem_singleton_self _), rfl⟩
    fun entry member call answer ⟨settled, targeted, _⟩ committing commits => by
      have does := CommandCall.program_does commits
      obtain ⟨follows, fine⟩ := does.settled settled (fun _ known => known.2) fun receipt asks =>
        apart entry member call answer receipt committing asks
      refine ⟨⟨fine, does.targeted targeted fun _ known => known.2.grows, entry.after, ?_, rfl⟩, follows⟩
      exact mem_append_left _ (mem_map_of_mem member)
  intro entry member payload now command outcome executing existing unaddressed
  have released := guarded entry member payload now command outcome executing
  obtain ⟨principal, key, committing⟩ := executing
  obtain ⟨⟨settled, _, _⟩, _, moved⟩ := steps entry member
  refine (CommandCall.program_does (moved.committed committing)).guarded settled (fun _ known => known.2) (fun _ known => known.1.2.1)
    (fun receipt asks => apart entry member _ _ receipt committing asks) existing unaddressed fun release timely absent => ?_
  exact (released release timely absent).imp_right fun ⟨disowned, held⟩ => ⟨disowned, fun earlier known => held earlier known.1.2.2⟩

end

section

def CommandAnswer.executed : CommandAnswer → Option (WorkCommandRow × WorkCommandReceiptWriteOutcome)
  | .confirmed (.executed command outcome) => some (command, outcome)
  | _ => none

theorem executed_of_any {result : Except CommandError CommandAnswer} {passes : WorkCommandRow × WorkCommandReceiptWriteOutcome → Bool}
    (any : (result.toOption.bind CommandAnswer.executed).any passes = true) :
    ∃ command outcome, result = .ok (.confirmed (.executed command outcome)) ∧ passes (command, outcome) = true := by
  obtain ⟨⟨command, outcome⟩, its, passed⟩ := (any_eq_true _ _).mp any
  obtain ⟨answer, answered, here⟩ := bind_eq_some_iff.mp its
  refine ⟨command, outcome, ?_, passed⟩
  cases result with
  | error => cases answered
  | ok =>
    cases answered
    cases answer with
    | confirmed given => cases given <;> cases here; rfl
    | _ => cases here

/-- What the first execution of a command on the task came to, that expected another version than it found. -/
def Stale (payload : WorkCommandPayload) (outcome : WorkCommandOutcome) (expected version now : Int) (s : CommandStore)
    (executed : WorkCommandRow × WorkCommandReceiptWriteOutcome) : Bool :=
  executed.1.kind = payload.kind ∧ executed.1.taskId = some "task-1" ∧ executed.1.taskKey "task-1" = openTask.key ∧
    executed.1.expectedTaskVersion = some expected ∧ now < executed.1.expiresAt ∧
    (payload.digest wire.toPlatform).toOption = some executed.1.payloadDigest ∧ executed.2.idempotentReplay = false ∧
    executed.2.receipt.outcome = outcome ∧ (s.work.tasks.find? openTask.key).map WorkTaskRow.version = some version

def routing : WorkCommandPayload := .routeWork ⟨"route-9"⟩

def releasing : WorkCommandPayload := .releaseLease ⟨"agent-a", seconds 61⟩

def routedCalls : List CommandCall :=
  [.createTask openTask (seconds 1), .claim (.delegate ⟨"acme", "repo", "task-1", "agent-a", "node-1", "main", 60000000000, [], []⟩) (seconds 1),
    submitting "human:ada" "key-1" 1 releasing, submitting "human:bob" "key-2" 1 routing, confirming "human:bob" "key-2" 1 routing (seconds 2)]

def lateCalls : List CommandCall := [.createTask openTask (seconds 1), submitting "human:ada" "key-1" 7 routing]

theorem stale_release : ((((CommandCall.program wire (confirming "human:ada" "key-1" 1 releasing (seconds 3))).attempt look
    (afterCalls routedCalls)).1).toOption.bind CommandAnswer.executed).any
      (Stale releasing .applied 1 2 (seconds 3) (afterCalls routedCalls)) = true := by
  delta Stale afterCalls routedCalls submitting confirming commandKeyOf workRequest
  rw [wire_unrolled]
  decide +kernel

theorem stale_route : ((((CommandCall.program wire (confirming "human:ada" "key-1" 7 routing (seconds 2))).attempt look
    (afterCalls lateCalls)).1).toOption.bind CommandAnswer.executed).any
      (Stale routing .conflicted 7 1 (seconds 2) (afterCalls lateCalls)) = true := by
  delta Stale afterCalls lateCalls submitting confirming commandKeyOf workRequest
  rw [wire_unrolled]
  decide +kernel

variable {outcome : WorkCommandOutcome} {expected version : Int} {given : WorkCommandReceiptWriteOutcome}

theorem not_current_of_stale (stale : Stale payload outcome expected version now s (command, given) = true) (other : version ≠ expected) :
    ¬s.Current command := by
  rintro ⟨taskId, task, named, found, same⟩
  obtain ⟨_, named', key, expects, _, _, _, _, versions⟩ := of_decide_eq_true stale
  cases named.symm.trans named'
  rw [← key, found, map_some] at versions
  rw [expects] at same
  exact other (((Option.some.inj same).trans (Option.some.inj versions)).symm)

theorem timely_of_stale (stale : Stale payload outcome expected version now s (command, given) = true) : Timely wire command payload now := by
  obtain ⟨kind, _, _, _, early, digest, _⟩ := of_decide_eq_true stale
  refine ⟨early, kind.symm, ?_⟩
  cases hashed : payload.digest wire.toPlatform with
  | error => rw [hashed] at digest; cases digest
  | ok bytes =>
    rw [hashed] at digest
    exact congrArg Except.ok (Option.some.inj digest)

/-- A release is applied at another version than it expects. -/
theorem stale_release_counterexample : ¬∀ history state, (workControl wire Nat .empty).Run history state →
    ∀ entry ∈ history, ∀ payload now command outcome, Executing entry payload now command outcome → command.kind ≠ .createWork →
      command.kind.addressed = false → entry.before.store.Current command ∨ entry.before.store.Untouched entry.after.store ∧
        (Timely wire command payload now → outcome.idempotentReplay = false → outcome.receipt.outcome = .conflicted) := by
  intro guards'
  obtain ⟨history, standing, run, _, entries, _⟩ := Interleaving.serial_run look guards (CommandCall.program wire) .empty
    (routedCalls ++ [confirming "human:ada" "key-1" 1 releasing (seconds 3)])
  obtain ⟨entry, member, serves⟩ := entries routedCalls _ [] rfl
  obtain ⟨command, given, answered, stale⟩ := executed_of_any stale_release
  have before : entry.before.store = afterCalls routedCalls := serves.before
  have executing : Executing entry releasing (seconds 3) command given := ⟨_, _, (serves.commits _ _).mpr ⟨rfl, answered⟩⟩
  obtain ⟨kind, _, _, _, _, _, fresh, applied, _⟩ := of_decide_eq_true stale
  rcases guards' history _ run entry member _ _ command given executing (by rw [kind]; decide) (by rw [kind]; rfl) with current | ⟨_, told⟩
  · rw [before] at current
    exact not_current_of_stale stale (by decide) current
  · have conflicted := told (timely_of_stale stale) fresh
    cases applied.symm.trans conflicted

theorem late_receipts : (afterCalls lateCalls).receipts.rows = [] := by decide +kernel

theorem late_apart (earlier : List CommandCall) (call : CommandCall) (later : List CommandCall)
    (split : lateCalls ++ [confirming "human:ada" "key-1" 7 routing (seconds 2)] = earlier ++ call :: later) : ApartBehind earlier call := by
  revert earlier call later
  refine forall_split_cons.mpr ⟨(fun _ asks => nomatch asks), ?_⟩
  refine forall_split_cons.mpr ⟨(fun _ asks => nomatch asks), ?_⟩
  exact forall_split_cons.mpr ⟨fun _ _ => distinct_of_nil late_receipts, forall_split_nil⟩

/-- A command that comes too late for the version it expects. -/
theorem late_route_conflicts : ∃ history state, (workControl wire Nat .empty).Run history state ∧ ∃ entry ∈ history, ∃ command outcome,
    Executing entry routing (seconds 2) command outcome ∧ entry.before.store.Untouched entry.after.store ∧
      outcome.receipt.outcome = .conflicted := by
  obtain ⟨history, state, run, apart, entries, calls⟩ := serial_collisionless _ late_apart
  have routes : ∀ entry ∈ history, ∀ payload now command outcome, Executing entry payload now command outcome →
      CommandCall.Guarded wire (WasStore wire history) entry.before.store command payload now := by
    rintro entry member payload now command outcome ⟨principal, key, committing⟩ release timely
    have asked := calls entry member _ _ committing
    simp only [lateCalls, submitting, confirming, cons_append, nil_append, mem_cons, reduceCtorEq, false_or,
      not_mem_nil, or_false, CommandCall.confirm.injEq] at asked
    obtain ⟨_, _, rfl, _⟩ := asked
    cases release.symm.trans timely.kind.symm
  obtain ⟨entry, member, serves⟩ := entries lateCalls _ [] rfl
  obtain ⟨command, given, answered, stale⟩ := executed_of_any stale_route
  have before : entry.before.store = afterCalls lateCalls := serves.before
  have executing : Executing entry routing (seconds 2) command given := ⟨_, _, (serves.commits _ _).mpr ⟨rfl, answered⟩⟩
  obtain ⟨kind, _, _, _, _, _, fresh, _⟩ := of_decide_eq_true stale
  refine ⟨history, state, run, entry, member, command, given, executing, ?_⟩
  rcases stale_command_changes_nothing run apart routes entry member _ _ command given executing (by rw [kind]; decide)
    (by rw [kind]; rfl) with current | ⟨same, told⟩
  · rw [before] at current
    exact absurd current (not_current_of_stale stale (by decide))
  · exact ⟨same, told (timely_of_stale stale) fresh⟩

end

end MindLeak.Ackplane
