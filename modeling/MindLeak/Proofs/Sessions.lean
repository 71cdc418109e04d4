import MindLeak.Ackplane.SupervisorStore
import MindLeak.Library.Numbering
import MindLeak.Library.Serial

/-! A session's current state is that of its latest receipt, whatever calls come and whichever of
them go through first. -/

namespace MindLeak.Ackplane

open List Option Table Interleaving

variable {platform : SupervisorPlatform} {s after : SupervisorStore}

namespace SupervisorStore
open Transaction

variable {held : List Lock}

section

theorem covers_insertRegistration {row : SupervisorRegistrationRow} (mine : .registration row.registration.key ∈ held) :
    Covers look guards held (·.insertRegistration row) := by
  intro s view free
  cases view with
  | registration => exact find?_insertOrIgnore_free Lock.registration mine free
  | _ => rfl

theorem covers_beat {key : SupervisorKey} {observedAt : Int} (mine : .registration key ∈ held) :
    Covers look guards held (·.beat key observedAt) := by
  intro s view free
  cases view with
  | registration other =>
    have apart := ne_of_free Lock.registration mine free
    exact (find?_update_one s.registrations key other (·.beat observedAt) fun _ => rfl).trans (if_neg apart)
  | _ => rfl

theorem covers_putOutboxPosition {row : StoredOutboxPosition} (mine : .outboxPosition row.key ∈ held) :
    Covers look guards held (·.putOutboxPosition row) := by
  intro s view free
  cases view with
  | outboxPosition other =>
    have apart : Row.key row ≠ other := ne_of_free Lock.outboxPosition mine free
    simp only [look, putOutboxPosition, find?_put, if_neg apart]
  | _ => rfl

theorem covers_insertSession {row : StoredSession} (mine : .session row.key ∈ held) :
    Covers look guards held (·.insertSession row) := by
  intro s view free
  cases view with
  | session => exact find?_insertOrIgnore_free Lock.session mine free
  | _ => rfl

theorem covers_advanceSession {key : SessionKey} {receipt : SupervisorLifecycleReceipt} (mine : .session key ∈ held) :
    Covers look guards held (·.advanceSession key receipt) := by
  intro s view free
  cases view with
  | session other =>
    have apart := ne_of_free Lock.session mine free
    exact (find?_update_one s.sessions key other (·.advance receipt) fun _ => rfl).trans (if_neg apart)
  | _ => rfl

variable {row : StoredLifecycleReceipt}

theorem receiptsOf_insertReceipt {s : SupervisorStore} (absent : s.receipts.find? row.key = none)
    (session : SessionKey) : (s.insertReceipt row).receiptsOf session =
      s.receiptsOf session ++ if row.key.session = session then [row] else [] := by
  unfold receiptsOf insertReceipt
  rw [insertOrIgnore_rows absent, filter_append]
  congr 1
  by_cases its : row.key.session = session
  · rw [if_pos its, filter_singleton, decide_eq_true its, cond_true]
  · rw [if_neg its, filter_singleton, decide_eq_false its, cond_false]

theorem insertReceipt_present {s : SupervisorStore} (there : s.receipts.find? row.key ≠ none) :
    s.insertReceipt row = s := by
  rw [insertReceipt, insertOrIgnore_taken there]

theorem covers_insertReceipt (mine : .receipt row.key ∈ held) (its : .session row.key.session ∈ held) :
    Covers look guards held (·.insertReceipt row) := by
  intro s view free
  cases view with
  | receipt => exact find?_insertOrIgnore_free Lock.receipt mine free
  | lastPosition session =>
    have apart : row.key.session ≠ session := fun same => free _ (mem_singleton_self _) (same ▸ its)
    have same : (s.insertReceipt row).receiptsOf session = s.receiptsOf session := by
      cases found : s.receipts.find? row.key with
      | none => rw [receiptsOf_insertReceipt found, if_neg apart, append_nil]
      | some => rw [insertReceipt_present (found ▸ some_ne_none _)]
    simp only [look, same]
  | _ => rfl

end

section
variable {α : Type} {post : α → List Lock → Prop}

theorem within_lift {checked : Except SupervisorStoreError α} {β : Type} {next : α → SupervisorTransaction β}
    {post : β → List Lock → Prop} (rest : ∀ value, checked = .ok value → (next value).Within look guards held post) :
    (SupervisorTransaction.lift checked >>= next).Within look guards held post := by
  cases checked with
  | error => trivial
  | ok value => exact rest value rfl

end

variable {request : SupervisorLifecycleReceiptRequest}

section

theorem register_within {registration : SupervisorRegistration} :
    (register platform registration).Guarded look guards held := by
  refine within_lift fun digest _ => within_selectIf fun s => ?_
  cases s.look (.registration registration.key) with
  | none => exact within_execute (covers_insertRegistration mem_cons_self) trivial
  | some =>
    refine within_selectLocked fun s => ?_
    cases s.look (.registration registration.key) with
    | none => trivial
    | some stored =>
      dsimp only
      split <;> trivial

theorem recordHeartbeatAt_within {key : SupervisorKey} {observedAt : Int} :
    (recordHeartbeatAt key observedAt).Guarded look guards held := by
  refine within_lift fun _ _ => within_selectIf fun s => ?_
  cases s.look (.registration key) with
  | none => trivial
  | some => exact ⟨covers_beat mem_cons_self, trivial⟩

theorem recordOutboxSequence_within {key : SupervisorKey} {sequence : Nat} :
    (recordOutboxSequence key sequence).Guarded look guards held := by
  refine within_lift fun _ _ => within_select fun s => ?_
  cases s.look (.registration key) with
  | none => trivial
  | some => exact within_selectLocked fun _ => within_execute (covers_putOutboxPosition mem_cons_self) trivial

theorem recordSession_within {tenantId repositoryId : String} {session : SupervisorSession} :
    (recordSession platform tenantId repositoryId session).Guarded look guards held := by
  refine within_lift fun digest _ => within_select fun s => ?_
  cases s.look (.registration ⟨tenantId, repositoryId, session.supervisorId⟩) with
  | none => trivial
  | some =>
    refine within_lift fun _ _ => within_selectIf fun s => ?_
    cases s.look (.session (initialSession tenantId repositoryId session digest).key) with
    | none => exact within_execute (covers_insertSession mem_cons_self) (within_lift fun _ _ => trivial)
    | some =>
      refine within_selectLocked fun s => ?_
      cases s.look (.session (initialSession tenantId repositoryId session digest).key) with
      | none => trivial
      | some stored =>
        dsimp only
        split
        · trivial
        · exact within_lift fun _ _ => trivial

theorem insertLifecycle_within {digest : Bytes} {skipped : Nat} (mine : .session request.session ∈ held) :
    (insertLifecycle request digest skipped).Within look guards held fun _ after => .session request.session ∈ after := by
  refine within_selectIf fun s => ?_
  cases s.look (.receipt request.key) with
  | none =>
    refine within_selectLocked fun s => within_execute (covers_insertReceipt ?_ ?_) (within_lift fun _ _ => ?_)
    · exact mem_cons_of_mem _ mem_cons_self
    · exact mem_cons_self
    · exact mem_cons_self
  | some =>
    refine within_selectLocked fun s => ?_
    cases s.look (.receipt request.key) with
    | none => trivial
    | some stored =>
      dsimp only
      split
      · trivial
      · exact within_lift fun _ _ => mem_cons_of_mem _ mine

theorem recordLifecycle_within {skipped : Nat} :
    (recordLifecycle platform request skipped).Guarded look guards held := by
  refine within_lift fun digest _ => within_selectIf fun s => ?_
  cases s.look (.session request.session) with
  | none => trivial
  | some row =>
    refine within_lift fun current _ => ?_
    dsimp only
    split
    · trivial
    split
    · trivial
    refine (insertLifecycle_within mem_cons_self).bind fun done after mine => ?_
    unfold project
    split
    · exact within_execute (covers_advanceSession mine) (within_lift fun _ _ => trivial)
    · trivial

end

theorem program_within (platform : SupervisorPlatform) (call : SupervisorCall) :
    (call.program platform).Guarded look guards [] := by
  cases call with
  | register => exact register_within.bind fun _ _ _ => trivial
  | recordHeartbeatAt => exact recordHeartbeatAt_within.bind fun _ _ _ => trivial
  | recordOutboxSequence => exact recordOutboxSequence_within.bind fun _ _ _ => trivial
  | recordSession => exact recordSession_within.bind fun _ _ _ => trivial
  | recordLifecycle => exact recordLifecycle_within.bind fun _ _ _ => trivial

section
variable {grows : SupervisorStore → SupervisorStore → Prop} {seen : SupervisorStore → Prop}
  {written : SupervisorStore}

theorem lift_runs {α β : Type} {checked : Except SupervisorStoreError α} {next : α → SupervisorTransaction β} {answer : β}
    (runs : (SupervisorTransaction.lift checked >>= next).Runs look s grows seen written after answer) :
    ∃ value, checked = .ok value ∧ (next value).Runs look s grows seen written after answer := by
  cases checked with
  | error => exact runs.elim
  | ok value => exact ⟨value, rfl, runs⟩

theorem recordSession_runs {tenantId repositoryId : String} {session : SupervisorSession} {outcome : SupervisorSessionOutcome}
    (runs : (recordSession platform tenantId repositoryId session).Runs look s grows seen written after outcome) :
    ∃ digest, sessionDigest platform tenantId repositoryId session = .ok digest ∧
      ((outcome.idempotentReplay = true ∧ after = written ∧ ∃ stored,
          s.sessions.find? ⟨tenantId, repositoryId, session.sessionId⟩ = some stored ∧ stored.payloadDigest = digest) ∨
        (outcome.idempotentReplay = false ∧ s.sessions.find? ⟨tenantId, repositoryId, session.sessionId⟩ = none ∧
          after = written.insertSession (initialSession tenantId repositoryId session digest))) := by
  obtain ⟨digest, digested, runs⟩ := lift_runs runs
  refine ⟨digest, digested, ?_⟩
  obtain ⟨_ | _, _, _, _, done⟩ := runs.readAs
  · exact done.elim
  obtain ⟨_, _, done⟩ := lift_runs done
  rcases done.lockOn with ⟨_ | _, absent, ⟨⟩, done⟩ | ⟨_ | _, _, _, _, ⟨⟩, done⟩
  · obtain ⟨projection, _, same, rfl⟩ := lift_runs done.store
    exact .inr ⟨rfl, absent, same⟩
  · have done := done.lock
    split at done
    · exact done.elim
    rename_i stored there
    obtain ⟨same, done⟩ := done.past
    obtain ⟨projection, _, its, rfl⟩ := lift_runs done
    exact .inl ⟨rfl, its, stored, there, not_not.mp same⟩

variable {skipped : Nat}

theorem insertLifecycle_runs {digest : Bytes} {record : SupervisorLifecycleReceiptRecord} {replay : Bool}
    (runs : (insertLifecycle request digest skipped).Runs look s grows seen written after (record, replay)) :
    (replay = true ∧ after = written ∧ ∃ stored, s.receipts.find? request.key = some stored ∧ stored.payloadDigest = digest) ∨
      (replay = false ∧ s.receipts.find? request.key = none ∧ record.receipt = request.receipt ∧
        ∃ position, (∀ row ∈ s.receiptsOf request.session, row.receiptPosition < position) ∧
          after = written.insertReceipt (request.row digest position)) := by
  rcases runs.lockOn with ⟨_ | _, absent, ⟨⟩, done⟩ | ⟨_ | _, _, _, _, ⟨⟩, done⟩
  · obtain ⟨_, recorded, its, same⟩ := lift_runs done.lock.store
    cases same
    refine .inr ⟨rfl, absent, ?_, _, fun row member => ?_, its⟩
    · obtain ⟨_, _, recorded⟩ := bind_ok recorded
      cases recorded
      rfl
    · have most : row.receiptPosition ≤ s.look (.lastPosition request.session) := le_foldr_max (mem_map_of_mem member)
      omega
  · have done := done.lock
    split at done
    · exact done.elim
    rename_i stored there
    obtain ⟨same, done⟩ := done.past
    obtain ⟨_, _, its, answered⟩ := lift_runs done
    cases answered
    exact .inl ⟨rfl, its, stored, there, not_not.mp same⟩

def received (s : SupervisorStore) (row : StoredSession) (request : SupervisorLifecycleReceiptRequest) (digest : Bytes) (position : Nat) :
    SupervisorStore :=
  if row.currentOccurredAt ≤ request.receipt.occurredAt then
    (s.insertReceipt (request.row digest position)).advanceSession request.session request.receipt
  else s.insertReceipt (request.row digest position)

theorem recordLifecycle_runs {outcome : SupervisorLifecycleOutcome}
    (runs : (recordLifecycle platform request skipped).Runs look s grows seen s after outcome) :
    ∃ digest row, receiptDigest platform request = .ok digest ∧ s.sessions.find? request.session = some row ∧
      row.startedAt ≤ request.receipt.occurredAt ∧
      ((outcome.idempotentReplay = true ∧ after = s ∧ ∃ stored, s.receipts.find? request.key = some stored ∧
          stored.payloadDigest = digest) ∨
        (outcome.idempotentReplay = false ∧ s.receipts.find? request.key = none ∧
          ∃ position, (∀ row ∈ s.receiptsOf request.session, row.receiptPosition < position) ∧
            after = s.received row request digest position)) := by
  obtain ⟨digest, digested, runs⟩ := lift_runs runs
  rcases runs.lockOn with ⟨_ | row, there, ⟨⟩, done⟩ | ⟨_ | _, _, _, _, ⟨⟩, done⟩
  · obtain ⟨current, projected, done⟩ := lift_runs done
    obtain ⟨_, done⟩ := done.past
    obtain ⟨since, done⟩ := done.past
    obtain ⟨_, _, projected⟩ := bind_ok projected
    cases projected
    refine ⟨digest, row, digested, there, Int.not_lt.mp since, ?_⟩
    obtain ⟨middle, ⟨record, replay⟩, inserts, projects⟩ := done.bind
    unfold project at projects
    rcases insertLifecycle_runs inserts with ⟨rfl, rfl, stored⟩ | ⟨rfl, absent, its, position, behind, rfl⟩
    · dsimp only at projects
      obtain ⟨rfl, rfl⟩ := projects
      exact .inl ⟨rfl, rfl, stored⟩
    · refine .inr ?_
      dsimp only at projects
      rw [its] at projects
      split at projects
      next advances =>
        obtain ⟨_, _, rfl, rfl⟩ := lift_runs projects.store
        exact ⟨rfl, absent, position, behind, (if_pos advances.2).symm⟩
      next stays =>
        obtain ⟨rfl, rfl⟩ := projects
        exact ⟨rfl, absent, position, behind, (if_neg fun later => stays ⟨rfl, later⟩).symm⟩
  · exact done.elim

def Apart (s after : SupervisorStore) : Prop := after.sessions = s.sessions ∧ after.receipts = s.receipts

theorem register_runs {registration : SupervisorRegistration} {answer : SupervisorRegistrationRow × Bool}
    (runs : (register platform registration).Runs look s grows seen written after answer) :
    written.Apart after ∧ after.outboxPositions = written.outboxPositions := by
  obtain ⟨digest, _, runs⟩ := lift_runs runs
  rcases runs.lockOn with ⟨_ | _, _, ⟨⟩, done⟩ | ⟨_ | _, _, _, _, ⟨⟩, done⟩
  · obtain ⟨rfl, _⟩ := done.store
    exact ⟨⟨rfl, rfl⟩, rfl⟩
  · have done := done.lock
    split at done
    · exact done.elim
    obtain ⟨_, rfl, _⟩ := done.past
    exact ⟨⟨rfl, rfl⟩, rfl⟩

theorem recordHeartbeatAt_runs {key : SupervisorKey} {observedAt : Int} {answer : Unit}
    (runs : (recordHeartbeatAt key observedAt).Runs look s grows seen written after answer) :
    written.Apart after ∧ after.outboxPositions = written.outboxPositions := by
  obtain ⟨_, _, runs⟩ := lift_runs runs
  rcases runs.lockOn with ⟨_ | _, _, ⟨⟩, done⟩ | ⟨_ | _, _, _, _, ⟨⟩, done⟩
  · obtain ⟨rfl, _⟩ := done
    exact ⟨⟨rfl, rfl⟩, rfl⟩
  · exact done.elim

theorem recordOutboxSequence_runs {key : SupervisorKey} {sequence accepted : Nat}
    (runs : (recordOutboxSequence key sequence).Runs look s grows seen written after accepted) :
    accepted = max (((s.outboxPositions.find? key).map StoredOutboxPosition.acceptedSequence).getD sequence) sequence ∧
      after = written.putOutboxPosition ⟨key, accepted⟩ := by
  obtain ⟨_, _, runs⟩ := lift_runs runs
  obtain ⟨_ | _, _, _, _, done⟩ := runs.readAs
  · exact done.elim
  obtain ⟨rfl, rfl⟩ := done.lock.store
  exact ⟨rfl, rfl⟩

end

end SupervisorStore

/-- All others of the receipts occurred before, or at the same time at an earlier position. -/
def Latest (receipts : List StoredLifecycleReceipt) (latest : StoredLifecycleReceipt) : Prop :=
  latest ∈ receipts ∧ ∀ other ∈ receipts, other = latest ∨ other.occurredAt < latest.occurredAt ∨
    other.occurredAt = latest.occurredAt ∧ other.receiptPosition < latest.receiptPosition

variable {receipts : List StoredLifecycleReceipt}

theorem Latest.occurred {latest other : StoredLifecycleReceipt} (last : Latest receipts latest)
    (member : other ∈ receipts) : other.occurredAt ≤ latest.occurredAt := by
  rcases last.2 other member with rfl | before | ⟨same, _⟩
  · exact Int.le_refl _
  · exact Int.le_of_lt before
  · exact Int.le_of_eq same

theorem Latest.added {added : StoredLifecycleReceipt}
    (behind : ∀ row ∈ receipts, row.receiptPosition < added.receiptPosition) (newer : ∀ row ∈ receipts, row.occurredAt ≤ added.occurredAt) :
    Latest (receipts ++ [added]) added := by
  refine ⟨mem_append_right _ (mem_singleton_self _), fun other member => ?_⟩
  rcases mem_append.mp member with earlier | its
  · rcases Int.lt_or_eq_of_le (newer other earlier) with before | same
    · exact .inr (.inl before)
    · exact .inr (.inr ⟨same, behind other earlier⟩)
  · exact .inl (mem_singleton.mp its)

theorem Latest.kept {latest added : StoredLifecycleReceipt} (last : Latest receipts latest)
    (older : added.occurredAt < latest.occurredAt) : Latest (receipts ++ [added]) latest := by
  refine ⟨mem_append_left _ last.1, fun other member => ?_⟩
  rcases mem_append.mp member with earlier | its
  · exact last.2 other earlier
  · cases mem_singleton.mp its
    exact .inr (.inl older)

namespace StoredSession

def current (row : StoredSession) : SupervisorWorkerState × Option SupervisorLifecycleReason × Int :=
  (row.currentState, row.currentReason, row.currentOccurredAt)

def Declares (row : StoredSession) (session : SupervisorSession) : Prop :=
  row.key.sessionId = session.sessionId ∧ row.supervisorId = session.supervisorId ∧ row.workerId = session.workerId ∧
    row.runtime = session.runtime ∧ row.startedAt = session.startedAt

def Projects (row : StoredSession) (session : SupervisorSession) (receipts : List StoredLifecycleReceipt) : Prop :=
  (receipts = [] ∧ row.current = (session.state, none, session.startedAt)) ∨
    ∃ latest, Latest receipts latest ∧ row.current = (latest.state, latest.reason, latest.occurredAt)

variable {row : StoredSession} {session : SupervisorSession} {added : StoredLifecycleReceipt}

theorem Projects.occurred (projects : row.Projects session receipts) : ∀ other ∈ receipts, other.occurredAt ≤ row.currentOccurredAt := by
  intro other member
  rcases projects with ⟨rfl, _⟩ | ⟨latest, last, current⟩
  · cases member
  · have at_ : row.currentOccurredAt = latest.occurredAt := congrArg (·.2.2) current
    rw [at_]
    exact last.occurred member

theorem Projects.advance (projects : row.Projects session receipts) {receipt : SupervisorLifecycleReceipt}
    (behind : ∀ row ∈ receipts, row.receiptPosition < added.receiptPosition)
    (its : (added.state, added.reason, added.occurredAt) = (receipt.state, receipt.reason, receipt.occurredAt))
    (newer : row.currentOccurredAt ≤ receipt.occurredAt) : (row.advance receipt).Projects session (receipts ++ [added]) := by
  have occurred : added.occurredAt = receipt.occurredAt := congrArg (·.2.2) its
  refine .inr ⟨added, .added behind fun other member => ?_, its.symm⟩
  rw [occurred]
  exact Int.le_trans (projects.occurred other member) newer

theorem Projects.keep (projects : row.Projects session receipts) (declared : row.Declares session)
    (since : row.startedAt ≤ added.occurredAt) (older : added.occurredAt < row.currentOccurredAt) :
    row.Projects session (receipts ++ [added]) := by
  rcases projects with ⟨rfl, current⟩ | ⟨latest, last, current⟩
  · have at_ : row.currentOccurredAt = session.startedAt := congrArg (·.2.2) current
    have started := declared.2.2.2.2
    omega
  · have at_ : row.currentOccurredAt = latest.occurredAt := congrArg (·.2.2) current
    exact .inr ⟨latest, last.kept (at_ ▸ older), current⟩

end StoredSession

namespace SupervisorStore

structure Faithful (declared : SessionKey → SupervisorSession → Prop) (s : SupervisorStore) : Prop where
  known : ∀ key, s.sessions.find? key = none → s.receiptsOf key = []
  projects : ∀ key row, s.sessions.find? key = some row →
    ∃ session, declared key session ∧ row.Declares session ∧ row.Projects session (s.receiptsOf key)

theorem receiptsOf_received (s : SupervisorStore) (row : StoredSession) {request : SupervisorLifecycleReceiptRequest} (digest : Bytes)
    (position : Nat) (absent : s.receipts.find? request.key = none) (key : SessionKey) :
    (s.received row request digest position).receiptsOf key =
      s.receiptsOf key ++ if request.session = key then [request.row digest position] else [] := by
  have inserted : (s.insertReceipt (request.row digest position)).receiptsOf key = _ := receiptsOf_insertReceipt absent key
  unfold received
  split <;> exact inserted

namespace Faithful
variable {declared more : SessionKey → SupervisorSession → Prop}

theorem empty : SupervisorStore.empty.Faithful declared := ⟨fun _ _ => rfl, fun _ _ found => by cases found⟩

section
variable (faithful : s.Faithful declared)
include faithful

theorem mono (wider : ∀ key session, declared key session → more key session) : s.Faithful more := by
  refine ⟨faithful.known, fun key row found => ?_⟩
  obtain ⟨session, its, declares, projects⟩ := faithful.projects key row found
  exact ⟨session, wider key session its, declares, projects⟩

theorem apart (apart : s.Apart after) : after.Faithful declared := by
  obtain ⟨sessions, receipts⟩ := apart
  have same (key : SessionKey) : after.receiptsOf key = s.receiptsOf key := by simp only [receiptsOf, receipts]
  refine ⟨fun key absent => ?_, fun key row found => ?_⟩
  · rw [same]
    exact faithful.known key (sessions ▸ absent)
  · rw [same]
    exact faithful.projects key row (sessions ▸ found)

theorem insertSession {tenantId repositoryId : String} {session : SupervisorSession} {digest : Bytes}
    (absent : s.sessions.find? ⟨tenantId, repositoryId, session.sessionId⟩ = none)
    (its : declared ⟨tenantId, repositoryId, session.sessionId⟩ session) :
    (s.insertSession (initialSession tenantId repositoryId session digest)).Faithful declared := by
  refine ⟨fun key free => faithful.known key ?_, fun key row found => ?_⟩
  · simp only [SupervisorStore.insertSession, find?_insertOrIgnore] at free
    split at free
    · cases free
    · exact free
  · simp only [SupervisorStore.insertSession, find?_insertOrIgnore] at found
    split at found
    next same =>
      subst same
      rw [show s.sessions.find? (Row.key (initialSession tenantId repositoryId session digest)) = none from absent] at found
      cases found
      exact ⟨session, its, ⟨rfl, rfl, rfl, rfl, rfl⟩, .inl ⟨faithful.known _ absent, rfl⟩⟩
    next => exact faithful.projects key row found

theorem received {request : SupervisorLifecycleReceiptRequest} {row : StoredSession} {digest : Bytes}
    {position : Nat} (found : s.sessions.find? request.session = some row) (absent : s.receipts.find? request.key = none)
    (since : row.startedAt ≤ request.receipt.occurredAt)
    (behind : ∀ row ∈ s.receiptsOf request.session, row.receiptPosition < position) :
    (s.received row request digest position).Faithful declared := by
  have receipts := s.receiptsOf_received row digest position absent
  have sessions (key : SessionKey) : (s.received row request digest position).sessions.find? key =
      if request.session = key then some (if row.currentOccurredAt ≤ request.receipt.occurredAt then row.advance request.receipt else row)
      else s.sessions.find? key := by
    unfold SupervisorStore.received
    split
    next newer =>
      refine (find?_update_one s.sessions request.session key (·.advance request.receipt) fun _ => rfl).trans ?_
      split
      next =>
        rw [found]
        rfl
      next => rfl
    next older =>
      split
      next same => exact same ▸ found
      next => rfl
  refine ⟨fun key free => ?_, fun key other there => ?_⟩
  · rw [sessions] at free
    obtain ⟨other, free⟩ := else_of_ne free (by simp)
    rw [receipts, if_neg other, append_nil, faithful.known key free]
  · rw [sessions] at there
    rw [receipts]
    split at there
    next same =>
      subst same
      obtain ⟨session, its, declares, projects⟩ := faithful.projects _ row found
      rw [if_pos rfl]
      split at there
      next newer =>
        cases there
        exact ⟨session, its, declares, projects.advance behind rfl newer⟩
      next older =>
        cases there
        exact ⟨session, its, declares, projects.keep declares since (Int.not_le.mp older)⟩
    next apart =>
      rw [if_neg apart, append_nil]
      exact faithful.projects key other there

end

end Faithful
end SupervisorStore

section
variable {τ : Type} [DecidableEq τ]

abbrev SupervisorCalls (τ : Type) : Type :=
  Interleaving τ SupervisorStore SupervisorStore.View SupervisorStore.Lock SupervisorStore.View.Value SupervisorStoreError
    SupervisorAnswer SupervisorCall

variable {history : List (Entry (SupervisorCalls τ) (TransactionOp τ SupervisorCall))} {state : SupervisorCalls τ}

def Recorded (history : List (Entry (SupervisorCalls τ) (TransactionOp τ SupervisorCall))) (key : SessionKey)
    (session : SupervisorSession) : Prop :=
  ∃ entry ∈ history, ∃ outcome, entry.before.Committing entry.op (.recordSession key.tenantId key.repositoryId session) (.session outcome) ∧
    outcome.idempotentReplay = false

theorem sessions_faithful (run : (supervisorCalls platform τ .empty).Run history state) :
    state.store.Faithful (Recorded history) := by
  refine run_commits run (SupervisorStore.program_within platform)
    (fun history store => store.Faithful (Recorded history)) .empty ?_ ?_
  · intro history entry faithful same
    rw [same]
    exact faithful.mono fun key session ⟨made, member, its⟩ => ⟨made, mem_cons_of_mem _ member, its⟩
  · intro history entry call answer faithful committing done
    have before : entry.before.store.Faithful (Recorded (entry :: history)) :=
      faithful.mono fun key session ⟨made, member, its⟩ => ⟨made, mem_cons_of_mem _ member, its⟩
    cases call with
    | register =>
      obtain ⟨_, _, done, rfl, _⟩ := Transaction.Runs.bind done
      exact before.apart (SupervisorStore.register_runs done).1
    | recordHeartbeatAt =>
      obtain ⟨_, _, done, rfl, _⟩ := Transaction.Runs.bind done
      exact before.apart (SupervisorStore.recordHeartbeatAt_runs done).1
    | recordOutboxSequence =>
      obtain ⟨_, _, done, rfl, _⟩ := Transaction.Runs.bind done
      rw [(SupervisorStore.recordOutboxSequence_runs done).2]
      exact before.apart ⟨rfl, rfl⟩
    | recordSession tenantId repositoryId session =>
      obtain ⟨_, outcome, went, rfl, rfl⟩ := Transaction.Runs.bind done
      obtain ⟨digest, _, ⟨_, same, _⟩ | ⟨new, absent, same⟩⟩ := SupervisorStore.recordSession_runs went
      · rwa [same]
      · rw [same]
        exact before.insertSession absent ⟨entry, mem_cons_self, outcome, committing, new⟩
    | recordLifecycle request skipped =>
      obtain ⟨_, outcome, went, rfl, rfl⟩ := Transaction.Runs.bind done
      obtain ⟨digest, row, _, found, since, ⟨_, same, _⟩ | ⟨_, absent, position, behind, same⟩⟩ :=
        SupervisorStore.recordLifecycle_runs went
      · rwa [same]
      · rw [same]
        exact before.received found absent since behind

/-- A receipt that is not there yet is kept, behind the others of its session. One that is there changes nothing, and
one that is older than the current state leaves it. -/
def AppendsReceipt (before after : SupervisorStore) (request : SupervisorLifecycleReceiptRequest) : Prop :=
  (before.receipts.find? request.key ≠ none → after = before) ∧
    (before.receipts.find? request.key = none → ∃ digest position,
      after.receiptsOf request.session = before.receiptsOf request.session ++ [request.row digest position]) ∧
    ∀ row, before.sessions.find? request.session = some row → request.receipt.occurredAt < row.currentOccurredAt →
      after.sessions = before.sessions

theorem recordLifecycle_appends {s after : SupervisorStore} {request : SupervisorLifecycleReceiptRequest} {skipped : Nat}
    {outcome : SupervisorLifecycleOutcome} {grows : SupervisorStore → SupervisorStore → Prop} {seen : SupervisorStore → Prop}
    (runs : (SupervisorStore.recordLifecycle platform request skipped).Runs SupervisorStore.look s grows seen s after outcome) :
    AppendsReceipt s after request := by
  obtain ⟨digest, row, _, found, _, ⟨_, rfl, stored, there, _⟩ | ⟨_, absent, position, _, rfl⟩⟩ := SupervisorStore.recordLifecycle_runs runs
  · exact ⟨fun _ => rfl, fun absent => (some_ne_none _ (there.symm.trans absent)).elim, fun _ _ _ => rfl⟩
  refine ⟨fun there => absurd absent there, fun _ => ⟨digest, position, ?_⟩, fun other its older => ?_⟩
  · rw [s.receiptsOf_received row digest position absent, if_pos rfl]
  · cases found.symm.trans its
    rw [SupervisorStore.received, if_neg (Int.not_le.mpr older)]
    rfl

/-- Whatever calls are made, at one time and in whatever order they go through: the current state of each
session is that of its latest receipt, or as it was declared while it has none. What fails changes
nothing, and nor does what is there already. -/
theorem session_projects_latest (run : (supervisorCalls platform τ .empty).Run history state) :
    (∀ key row, state.store.sessions.find? key = some row →
      ∃ session, Recorded history key session ∧ row.Declares session ∧ row.Projects session (state.store.receiptsOf key)) ∧
    ∀ entry ∈ history,
      ((∀ call answer, ¬entry.before.Committing entry.op call answer) → entry.after.store = entry.before.store) ∧
      (∀ tenantId repositoryId session answer, entry.before.Committing entry.op (.recordSession tenantId repositoryId session) answer →
        entry.before.store.sessions.find? ⟨tenantId, repositoryId, session.sessionId⟩ ≠ none → entry.after.store = entry.before.store) ∧
      ∀ request skipped answer, entry.before.Committing entry.op (.recordLifecycle request skipped) answer →
        AppendsReceipt entry.before.store entry.after.store request := by
  refine ⟨(sessions_faithful run).projects, fun entry member => ?_⟩
  obtain ⟨silent, done⟩ := Interleaving.run_entry run (SupervisorStore.program_within platform) member
  refine ⟨silent, fun tenantId repositoryId session answer committing there => ?_, fun request skipped answer committing => ?_⟩
  · obtain ⟨_, outcome, went, same, _⟩ := Transaction.Runs.bind (done _ _ committing)
    obtain ⟨_, _, ⟨_, replayed, _⟩ | ⟨_, absent, _⟩⟩ := SupervisorStore.recordSession_runs went
    · exact same.trans replayed
    · exact absurd absent there
  · obtain ⟨_, outcome, went, same, _⟩ := Transaction.Runs.bind (done _ _ committing)
    exact same ▸ recordLifecycle_appends went

section

def jsonText (text : String) : String := "\"" ++ text ++ "\""

def jsonObject (fields : List (String × String)) : String :=
  "\x7b" ++ String.intercalate "," (fields.map fun (name, value) => jsonText name ++ ":" ++ value) ++ "\x7d"

def SupervisorWorkerState.json : SupervisorWorkerState → String
  | .started => "\"started\""
  | .checkpointed => "\"checkpointed\""
  | .paused => "\"paused\""
  | .draining => "\"draining\""
  | .terminated => "\"terminated\""
  | .failed => "\"failed\""
  | .disconnected => "\"disconnected\""
  | .reconnected => "\"reconnected\""
  | .completed => "\"completed\""

def notifyingJson : String :=
  jsonObject [("supported_directives", "[\"notify\"]"), ("supports_checkpoint", "false"), ("supports_force_termination", "false"),
    ("outbox_durability", "\"persistent\""), ("recoverable_outbox", "true")]

/-- For supervisors with the sample's capabilities and workers on local machines whose receipts have no reasons. -/
def jsonPlatform : SupervisorPlatform where
  sha256 := Sha256.digest
  ed25519 _ _ _ := false
  debug := jsonText
  capabilitiesJson _ := notifyingJson.toUTF8.data.toList
  registrationJson registration := (jsonObject [("supervisor_id", jsonText registration.supervisorId),
    ("identity", jsonObject [("tenant_id", jsonText registration.identity.tenantId),
      ("repository_id", jsonText registration.identity.repositoryId), ("node_id", jsonText registration.identity.nodeId)]),
    ("supervisor_version", jsonText registration.supervisorVersion), ("protocol_version", jsonText registration.protocolVersion),
    ("capabilities", notifyingJson)]).toUTF8.data.toList
  sessionJson session := (jsonObject [("session_id", jsonText session.sessionId), ("supervisor_id", jsonText session.supervisorId),
    ("worker_id", jsonText session.workerId), ("runtime", "\"local_machine\""), ("started_at", toString session.startedAt),
    ("state", session.state.json)]).toUTF8.data.toList
  receiptJson receipt := (jsonObject [("supervisor_id", jsonText receipt.supervisorId), ("session_id", jsonText receipt.sessionId),
    ("worker_id", jsonText receipt.workerId), ("occurred_at", toString receipt.occurredAt), ("state", receipt.state.json),
    ("reason", "null")]).toUTF8.data.toList

def enrolled : SupervisorRegistration where
  supervisorId := "supervisor"
  identity := ⟨"acme", "repo", "node-1"⟩
  supervisorVersion := "1"
  protocolVersion := "v1"
  capabilities := ⟨[.notify], false, false, .persistent, true⟩

def pausedWorkerSession : SupervisorSession := ⟨"session-1", "supervisor", "worker", .localMachine, 10, .started⟩

def lifecycleAt (occurredAt : Int) (state : SupervisorWorkerState) (idempotencyKey : String) : SupervisorLifecycleReceiptRequest :=
  ⟨"acme", "repo", ⟨"supervisor", "session-1", "worker", occurredAt, state, none⟩, idempotencyKey⟩

def pausingCalls : List SupervisorCall :=
  [.register enrolled, .recordSession "acme" "repo" pausedWorkerSession, .recordLifecycle (lifecycleAt 30 .paused "paused") 0,
    .recordLifecycle (lifecycleAt 20 .checkpointed "checkpointed") 0]

def afterPausing : SupervisorStore :=
  Interleaving.serial SupervisorStore.look (SupervisorCall.program jsonPlatform) .empty pausingCalls

theorem late_checkpoint : (afterPausing.receiptsOf ⟨"acme", "repo", "session-1"⟩).map StoredLifecycleReceipt.state = [.paused, .checkpointed] ∧
    (afterPausing.sessions.find? ⟨"acme", "repo", "session-1"⟩).map StoredSession.current = some (.paused, none, 30) := by decide +kernel

theorem pausing_run : ∃ history standing, (supervisorCalls jsonPlatform Nat .empty).Run history ⟨afterPausing, fun _ => none, standing⟩ := by
  obtain ⟨history, standing, run, _⟩ := serial_run SupervisorStore.look SupervisorStore.guards
    (SupervisorCall.program jsonPlatform) .empty pausingCalls
  exact ⟨history, standing, run⟩

end

theorem paused_session_projects : ∃ history : List (Entry (SupervisorCalls Nat) (TransactionOp Nat SupervisorCall)), ∃ row session,
    afterPausing.sessions.find? ⟨"acme", "repo", "session-1"⟩ = some row ∧
      Recorded history ⟨"acme", "repo", "session-1"⟩ session ∧
      row.Projects session (afterPausing.receiptsOf ⟨"acme", "repo", "session-1"⟩) := by
  obtain ⟨history, standing, run⟩ := pausing_run
  obtain ⟨row, found, _⟩ := map_eq_some_iff.mp late_checkpoint.2
  generalize afterPausing = store at run found
  obtain ⟨session, recorded, _, its⟩ := (session_projects_latest run).1 _ row found
  exact ⟨history, row, session, found, recorded, its⟩

end

end MindLeak.Ackplane
