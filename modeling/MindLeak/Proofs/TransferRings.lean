import MindLeak.Library.Succession
import MindLeak.Proofs.Floor

/-! When the walk back through a task's recoveries ends. It goes by the name of the holder, so it runs round where an agent gets a
task back that was recovered from it before. -/

namespace MindLeak.Lodestar
open Relation List Option

section
variable {α : Type} {r : α → α → Prop} [DecidableRel r] [Std.Total r] [IsTrans α r] {early late items : List α} {item last : α}

omit [Std.Total r] in
theorem orderedInsert_around (below : ∀ other ∈ late, r last other) :
    ∃ early' late', (early ++ late).orderedInsert r item = early' ++ late' ∧
      (early ++ last :: late).orderedInsert r item = early' ++ last :: late' := by
  induction early with
  | nil =>
    by_cases before : r item last
    · refine ⟨[item], late, ?_, orderedInsert_cons_of_le r late before⟩
      cases late with
      | nil => rfl
      | cons other late => exact orderedInsert_cons_of_le r late (trans_of r before (below other mem_cons_self))
    · exact ⟨[], late.orderedInsert r item, rfl, orderedInsert_of_not_le r late before⟩
  | cons first early ih =>
    by_cases before : r item first
    · exact ⟨item :: first :: early, late, orderedInsert_cons_of_le r _ before, orderedInsert_cons_of_le r _ before⟩
    obtain ⟨early', late', one, other⟩ := ih
    refine ⟨first :: early', late', ?_, ?_⟩
    · rw [cons_append, orderedInsert_of_not_le r _ before, one, cons_append]
    · rw [cons_append, orderedInsert_of_not_le r _ before, other, cons_append]

theorem insertionSort_append_singleton : ∃ early late, items.insertionSort r = early ++ late ∧
    (items ++ [last]).insertionSort r = early ++ last :: late := by
  induction items with
  | nil => exact ⟨[], [], rfl, rfl⟩
  | cons item items ih =>
    obtain ⟨early, late, without, sorted⟩ := ih
    have ascending := pairwise_insertionSort r (items ++ [last])
    rw [sorted] at ascending
    have below := (pairwise_cons.mp (pairwise_append.mp ascending).2.1).1
    rw [cons_append, insertionSort_cons, insertionSort_cons, without, sorted]
    exact orderedInsert_around below

end

/-- Whom each agent has the task from: who gave it up in the last transfer to that agent. -/
def takenFrom (history : List ClaimTransfer) : Succession String := fun holder =>
  some ((history.reverse.find? fun transfer => decide (transfer.toOwner = holder)).map ClaimTransfer.fromOwner)

def followed (history : List ClaimTransfer) : Nat → String → List ClaimTransfer
  | 0, _ => []
  | steps + 1, holder =>
    match history.reverse.find? fun transfer => decide (transfer.toOwner = holder) with
    | none => []
    | some transfer => transfer :: followed history steps transfer.fromOwner

section
variable {history early late : List ClaimTransfer} {transfer : ClaimTransfer} {holder giver name : String} {steps : Nat} {earliest : Option Int}

theorem follows_iff : (takenFrom history).Follows holder giver ↔
    ∃ transfer, (history.reverse.find? fun transfer => decide (transfer.toOwner = holder)) = some transfer ∧ transfer.fromOwner = giver := by
  unfold Succession.Follows takenFrom
  rw [some.injEq, map_eq_some_iff]

theorem followed_leads (inside : transfer ∈ followed history steps holder) :
    (takenFrom history).Leads holder transfer.toOwner ∧ transfer ∈ history := by
  induction steps generalizing holder with
  | zero => cases inside
  | succ steps ih =>
    unfold followed at inside
    split at inside
    · cases inside
    rename_i first found
    rcases mem_cons.mp inside with rfl | later
    · have named : transfer.toOwner = holder := by simpa using List.find?_some found
      rw [named]
      exact ⟨.refl, mem_reverse.mp (mem_of_find?_eq_some found)⟩
    · obtain ⟨leads, member⟩ := ih later
      exact ⟨.head (follows_iff.mpr ⟨first, found, rfl⟩) leads, member⟩

theorem followed_nodup (apart : ∀ name, (takenFrom history).Leads holder name → ¬TransGen (takenFrom history).Follows name name) :
    (followed history steps holder).Nodup := by
  induction steps generalizing holder with
  | zero => exact .nil
  | succ steps ih =>
    unfold followed
    split
    · exact .nil
    rename_i first found
    have taken : (takenFrom history).Follows holder first.fromOwner := follows_iff.mpr ⟨first, found, rfl⟩
    have named : first.toOwner = holder := by simpa using List.find?_some found
    refine nodup_cons.mpr ⟨fun again => ?_, ih fun name leads => apart name (.head taken leads)⟩
    have back := (followed_leads again).1
    rw [named] at back
    exact apart holder .refl (TransGen.head' taken back)

/-- A walk that is not done has followed a transfer in every turn. -/
theorem authorisingStart_error {failure : LodestarError} (failed : authorisingStart history steps holder earliest = .error failure) :
    (followed history steps holder).length = steps := by
  induction steps generalizing holder earliest with
  | zero => rfl
  | succ steps ih =>
    unfold authorisingStart at failed
    unfold followed
    split at failed
    · cases failed
    rename_i first found
    split at failed
    · cases failed
    · simp only [found, length_cons, ih failed]

theorem authorisingStart_returns (apart : ∀ name, (takenFrom history).Leads holder name → ¬TransGen (takenFrom history).Follows name name) :
    ∃ start, authorisingStart history (history.length + 1) holder earliest = .ok start := by
  cases walked : authorisingStart history (history.length + 1) holder earliest with
  | ok start => exact ⟨start, rfl⟩
  | error failure =>
    have once : (followed history (history.length + 1) holder).Nodup := followed_nodup apart
    have within := (once.subperm fun _ inside => (followed_leads inside).2).length_le
    rw [authorisingStart_error walked] at within
    omega

theorem authorisingStart_runs_round (leads : (takenFrom history).Leads holder name) (ring : TransGen (takenFrom history).Follows name name) :
    authorisingStart history steps holder earliest = .error .neverReturns := by
  induction steps generalizing holder earliest with
  | zero => rfl
  | succ steps ih =>
    have onward {agent : String} (leads : (takenFrom history).Leads agent name) :
        ∃ giver, (takenFrom history).Follows agent giver ∧ (takenFrom history).Leads giver name := by
      rcases ReflTransGen.cases_head leads with rfl | onward
      · exact TransGen.head'_iff.mp ring
      · exact onward
    obtain ⟨giver, taken, leads⟩ := onward leads
    obtain ⟨transfer, found, rfl⟩ := follows_iff.mp taken
    obtain ⟨_, further, _⟩ := onward leads
    obtain ⟨earlier, there, _⟩ := follows_iff.mp further
    have given : earlier.toOwner = transfer.fromOwner := by simpa using List.find?_some there
    have more : (history.all fun other => decide (other.toOwner ≠ transfer.fromOwner)) = false := by
      refine all_eq_false.mpr ⟨earlier, mem_reverse.mp (mem_of_find?_eq_some there), ?_⟩
      simp [given]
    unfold authorisingStart
    rw [found]
    dsimp only
    rw [more]
    exact ih leads

theorem takenFrom_insert (holder : String) : takenFrom (early ++ transfer :: late) holder = takenFrom (early ++ late) holder ∨
    holder = transfer.toOwner ∧ takenFrom (early ++ transfer :: late) holder = some (some transfer.fromOwner) := by
  unfold takenFrom
  rw [reverse_append, reverse_append, reverse_cons, append_assoc, List.find?_append, List.find?_append, List.find?_append]
  cases later : late.reverse.find? fun transfer => decide (transfer.toOwner = holder) with
  | some other => exact .inl rfl
  | none =>
    by_cases here : transfer.toOwner = holder
    · refine .inr ⟨here.symm, ?_⟩
      simp [here]
    · refine .inl ?_
      simp [here]

end

namespace Store

/-- A recovery is by an agent whom the holder does not have the task from, at however many removes. -/
def RecoversOnward (s : Store) : Op → Prop
  | .recover id _ recovering _ _ _ _ => ∀ task ∈ s.getTask id, ∀ holder ∈ task.owner,
      ¬(takenFrom (s.claimTransferHistory id)).Leads holder recovering.agent
  | _ => True

/-- No agents of any task's history have it from one another in a ring. -/
structure Unringed (s : Store) : Prop where
  archive : s.claimTransfers = []
  apart : ∀ id name, ¬TransGen (takenFrom (s.claimTransferHistory id)).Follows name name

section
variable {env : Env} {s after : Store} {op : Op} {id name : String} {row : Task} {now : Int} {write : TaskWrite} {kind : TaskEventKind}

instance : Std.Total fun left right : ClaimTransfer => left.transferredAt ≤ right.transferredAt :=
  ⟨fun left right => le_total left.transferredAt right.transferredAt⟩

instance : IsTrans ClaimTransfer fun left right => left.transferredAt ≤ right.transferredAt := ⟨fun _ _ _ => le_trans⟩

theorem claimTransferHistory_logged (archive : s.claimTransfers = []) : s.claimTransferHistory id =
    (loggedTransfers none (s.eventsOf id)).insertionSort fun left right => left.transferredAt ≤ right.transferredAt := by
  unfold claimTransferHistory
  rw [archive, filter_nil, nil_append]

theorem Unringed.start : Unringed {} where
  archive := rfl
  apart id name ring := by
    obtain ⟨_, follows, _⟩ := TransGen.head'_iff.mp ring
    cases follows

theorem loggedTransfers_recovered (previous : Option TaskEvent) (events : List TaskEvent) {event : TaskEvent}
    (recovered : event.kind = .claimRecovered) : ∃ transfer,
      loggedTransfers previous (events ++ [event]) = loggedTransfers previous events ++ [transfer] ∧
        transfer.fromOwner = event.detail.transferTexts.1 ∧ transfer.toOwner = event.after.owner.getD "" := by
  induction events generalizing previous with
  | nil =>
    refine ⟨event.transfer previous, ?_, rfl, rfl⟩
    simp only [nil_append, loggedTransfers, recovered, if_true]
  | cons first events ih =>
    obtain ⟨transfer, logged, texts⟩ := ih (some first)
    refine ⟨transfer, ?_, texts⟩
    simp only [cons_append, loggedTransfers, logged]
    split
    · rw [cons_append]
    · rfl

theorem Fate.transfers (fate : s.Fate op after id) (other : ∀ expectedOwner recovering why reviewer leaseSecs now,
    op ≠ .recover id expectedOwner recovering why reviewer leaseSecs now) :
    loggedTransfers none (after.eventsOf id) = loggedTransfers none (s.eventsOf id) := by
  have kept {now : Int} {kind : TaskEventKind} {before : Option Task} {row : Task} (written : s.Written after id now kind before row)
      (plain : kind ≠ .claimRecovered) : loggedTransfers none (after.eventsOf id) = loggedTransfers none (s.eventsOf id) := by
    obtain ⟨event, named, _, _, log⟩ := written.log
    rw [log, loggedTransfers_append (named ▸ plain)]
  cases fate with
  | still alone => rw [alone.log]
  | wrote acts taken cause written =>
    refine kept written ?_
    cases cause with
    | rewrite rewrite issued admitted =>
      cases issued with
      | recover => exact absurd rfl (other _ _ _ _ _ _)
      | claim | renew | touch | release | ask | answer | pause | resume | reconnect | reopen => simp [Rewrite.kind]
    | block | complete | abandon | resolve | unblock => simp
  | noted acts claimed written => exact kept written (by simp)
  | carried found left log => rw [log]
  | born acts fresh written => exact kept written (by simp)
  | gone left log => rw [log]

theorem recover_transfers {expectedOwner why : String} {recovering : RecoveringSession} {reviewer : Option String} {leaseSecs : Int}
    {won : Bool} (done : s.recoverClaimAuthorized id expectedOwner recovering why reviewer leaseSecs now = .ok (won, after)) :
    after = s ∨ ∃ prior transfer, s.getTask id = some prior ∧ prior.owner = some expectedOwner ∧
      transfer.fromOwner = expectedOwner ∧ transfer.toOwner = recovering.agent ∧
        loggedTransfers none (after.eventsOf id) = loggedTransfers none (s.eventsOf id) ++ [transfer] := by
  obtain ⟨prior, note, found, _, answered, kind, text, by_, detail⟩ := recoverClaimAuthorized_ok done
  rcases answered with ⟨_, same, _⟩ | ⟨_, middle, ⟨task, also, taken, wrote⟩, beside⟩
  · exact .inl same
  cases found.symm.trans also
  subst wrote
  have log : ∃ event : TaskEvent, event.kind = note.kind ∧ event.detail = note.detail ∧ event.after.owner = some recovering.agent ∧
      after.eventsOf id = s.eventsOf id ++ [event] := by
    refine ⟨⟨s.taskEvents.length + 1, id, note.kind, note.actor, now,
      (recoverWrite expectedOwner recovering.agent prior.status leaseSecs now).leaves prior, note.detail⟩, rfl, rfl, rfl, ?_⟩
    rw [eventsOf_congr beside.sameWork.events]
    have subject : prior.id = id := getTask_id found
    subst subject
    exact (eventsOf_append rfl _).trans (if_pos rfl)
  obtain ⟨event, kinds, details, taken_by, log⟩ := log
  obtain ⟨transfer, logged, giver, taker⟩ := loggedTransfers_recovered none (s.eventsOf id) (kinds.trans kind)
  have owned : prior.owner = some expectedOwner := by
    simp only [recoverWrite, heldBy, Bool.and_eq_true, decide_eq_true_eq] at taken
    exact taken.1
  refine .inr ⟨prior, transfer, found, owned, ?_, ?_, log ▸ logged⟩
  · rw [giver, details, detail]
    rfl
  · rw [taker, taken_by, getD_some]

theorem Unringed.step (unringed : s.Unringed) (onward : s.RecoversOnward op) : (s.perform env op).Unringed := by
  have archive : (s.perform env op).claimTransfers = [] := by
    rcases perform_transfers env s op with same | cleared
    · exact same.trans unringed.archive
    · exact cleared
  refine ⟨archive, fun id => ?_⟩
  have kept (same : loggedTransfers none ((s.perform env op).eventsOf id) = loggedTransfers none (s.eventsOf id)) (name : String) :
      ¬TransGen (takenFrom ((s.perform env op).claimTransferHistory id)).Follows name name := by
    rw [claimTransferHistory_logged archive, same, ← claimTransferHistory_logged unringed.archive]
    exact unringed.apart id name
  by_cases recovers : ∃ expectedOwner recovering why reviewer leaseSecs now,
      op = .recover id expectedOwner recovering why reviewer leaseSecs now
  · obtain ⟨expectedOwner, recovering, why, reviewer, leaseSecs, now, rfl⟩ := recovers
    rcases result : s.recoverClaimAuthorized id expectedOwner recovering why reviewer leaseSecs now with failure | ⟨won, after⟩
    · have left : s.perform env (.recover id expectedOwner recovering why reviewer leaseSecs now) = s := settled_error result
      exact kept (by rw [left])
    · have left : s.perform env (.recover id expectedOwner recovering why reviewer leaseSecs now) = after := settled_ok result
      rcases recover_transfers result with same | ⟨prior, transfer, found, owned, giver, taker, logged⟩
      · exact kept (by rw [left, same])
      obtain ⟨early, late, before, sorted⟩ : ∃ early late, (loggedTransfers none (s.eventsOf id)).insertionSort
            (fun left right => left.transferredAt ≤ right.transferredAt) = early ++ late ∧
          (loggedTransfers none (s.eventsOf id) ++ [transfer]).insertionSort
            (fun left right => left.transferredAt ≤ right.transferredAt) = early ++ transfer :: late :=
        insertionSort_append_singleton
      have apart := unringed.apart id
      have next := onward prior found expectedOwner owned
      rw [claimTransferHistory_logged unringed.archive, before] at apart next
      rw [claimTransferHistory_logged archive, left, logged, sorted]
      refine Succession.acyclic_relink apart takenFrom_insert ?_
      rw [giver, taker]
      exact next
  · refine kept (((perform_change env s op).fate id).transfers fun expectedOwner recovering why reviewer leaseSecs now same => ?_)
    exact recovers ⟨expectedOwner, recovering, why, reviewer, leaseSecs, now, same⟩

end
end Store

/-- While nobody recovers a task from those who have it from them, the walk back from any owner of any task ends, and follows no transfer
twice. -/
theorem transfer_walk_ends {env : Env} {history : List (Entry Store Op)} {state : Store} (run : (localStore env).Run history state)
    (steps : ∀ entry ∈ history, entry.before.RecoversOnward entry.op) (id owner : String) :
    (∃ start, state.authorisingWindowStart id owner = .ok start) ∧ ∀ turns, (followed (state.claimTransferHistory id) turns owner).Nodup := by
  have unringed : state.Unringed :=
    run.invariant_of_steps Store.Unringed .start (fun s op => s.RecoversOnward op) steps fun _ _ met unringed => unringed.step met
  exact ⟨authorisingStart_returns fun name _ => unringed.apart id name, fun _ => followed_nodup fun name _ => unringed.apart id name⟩

def recoveredInTurns : List (Store → Op) :=
  [fun _ => Op.recover "task:goal:ship@constitution:v1|first|6" "session:v1:fedcba9876543210fedcba9876543210" sessionOfAnn "back" (some "rob")
      100 240,
    fun _ => Op.pause "task:goal:ship@constitution:v1|first|6" "session:v1:fedcba9876543210fedcba9876543210" none 230,
    fun _ => Op.recover "task:goal:ship@constitution:v1|first|6" sessionOfAnn.agent
      ⟨"session:v1:fedcba9876543210fedcba9876543210", "bob"⟩ "handed over" (some "rob") 100 220,
    fun _ => Op.pause "task:goal:ship@constitution:v1|first|6" sessionOfAnn.agent none 210] ++ recoveredFromAnn

theorem recovered_reads : let past := (localStore Env.plain).replay claimedByAnn
    let log := ((localStore Env.plain).replay recoveredInTurns).2.claimTransferHistory "task:goal:ship@constitution:v1|first|6"
    (∀ task ∈ past.2.getTask "task:goal:ship@constitution:v1|first|6", ∀ holder ∈ task.owner,
      takenFrom (past.2.claimTransferHistory "task:goal:ship@constitution:v1|first|6") holder = some none ∧
        sessionOfAnn.agent ≠ holder) ∧
    (∀ entry ∈ past.1, (match entry.op with
      | .recover .. => false
      | _ => true) = true) ∧
    takenFrom log sessionOfAnn.agent = some (some "session:v1:fedcba9876543210fedcba9876543210") ∧
      takenFrom log "session:v1:fedcba9876543210fedcba9876543210" = some (some sessionOfAnn.agent) := by
  decide +kernel

theorem transfer_walk_ends_recovered : ∃ start, ((localStore Env.plain).replay recoveredFromAnn).2.authorisingWindowStart
    "task:goal:ship@constitution:v1|first|6" sessionOfAnn.agent = .ok start := by
  refine (transfer_walk_ends recoveredFromAnn_ready.run ?_ _ _).1
  intro entry member
  rcases mem_cons.mp member with rfl | earlier
  · intro task found holder owned leads
    obtain ⟨last, other⟩ := recovered_reads.1 task found holder owned
    exact other (Succession.leads_of_last last leads)
  · have other := recovered_reads.2.1 entry earlier
    obtain ⟨before, op, after⟩ := entry
    cases op with
    | recover => cases other
    | _ => trivial

theorem recoveredInTurns_ready : Ready recoveredInTurns := by simp +contextual [recoveredInTurns, recoveredFromAnn_ready, Op.enabled, Op.reads]

/-- Whoever has the task back asks for ever where its window starts. -/
theorem transfers_run_round : ¬∀ env history state id owner, (localStore env).Run history state →
    ∃ turns start, authorisingStart (state.claimTransferHistory id) turns owner ((state.getTask id).bind Task.claimStartedAt) = .ok start := by
  intro always
  have run : (localStore Env.plain).Replays recoveredInTurns := recoveredInTurns_ready.run
  obtain ⟨turns, start, returned⟩ := always Env.plain _ _ "task:goal:ship@constitution:v1|first|6" sessionOfAnn.agent run
  obtain ⟨_, _, first, second⟩ := recovered_reads
  cases returned.symm.trans (authorisingStart_runs_round .refl (.tail (.single first) second))

end MindLeak.Lodestar
