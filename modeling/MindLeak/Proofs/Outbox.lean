import MindLeak.Ackplane.Outbox
import MindLeak.Library.Numbering

/-! What a supervisor's outbox has of the frames that were ever queued, over every run: which are
pending, which were acknowledged, and what is sent again on a new connection. -/

namespace MindLeak.Ackplane

open List

def QueuedFrame.stored (codec : FrameCodec) (item : QueuedFrame) : StoredFrame := ⟨item.sequence, codec.encode item.frame⟩

abbrev QueuedFrame.isLifecycleReceipt (item : QueuedFrame) : Bool := item.frame.isLifecycleReceipt

def QueuedFrame.Legible (codec : FrameCodec) (item : QueuedFrame) : Prop :=
  codec.decode (codec.encode item.frame) = some item.frame

def OutboxState.queues (codec : FrameCodec) (s : OutboxState) (op : OutboxOp) : Option QueuedFrame :=
  match (s.step codec op).2 with
  | .queued item => some item
  | _ => none

variable {codec : FrameCodec}

namespace OutboxTables

variable {tables after : OutboxTables}

section
variable {outbox : SupervisorOutbox} {sequence : Nat} {frame : V1.SupervisorFrame}

theorem nextSequence_ok (next : tables.nextSequence = .ok sequence) : ∃ last, tables.lastSequence = some last ∧ sequence = last + 1 := by
  unfold nextSequence at next
  split at next
  · cases next
  rename_i last its
  obtain ⟨_, next⟩ := ite_then next
  cases next
  exact ⟨last, its, rfl⟩

theorem storeOutboundFrame_ok {bytes : Bytes} (stores : tables.storeOutboundFrame sequence bytes = .ok after) :
    after = { tables with outboundFrames := after.outboundFrames, lastSequence := tables.lastSequence.map fun _ => sequence } ∧
      after.outboundFrames.rows = tables.outboundFrames.rows ++ [⟨sequence, bytes⟩] := by
  unfold storeOutboundFrame at stores
  split at stores
  · cases stores
  rename_i inserted
  cases stores
  exact ⟨rfl, (Table.insert?_rows inserted).1⟩

theorem enqueue_ok {outcome : QueueOutcome} (done : tables.enqueue codec sequence frame = .ok (outcome, after)) :
    outcome = .replayed ∧ after = tables ∨ outcome = .queued ∧ tables.nextSequence = .ok sequence ∧
      tables.storeOutboundFrame sequence (codec.encode frame) = .ok after := by
  obtain ⟨positive, checked, done⟩ := bind_ok done
  obtain ⟨_, _, checked⟩ := bind_ok checked
  obtain ⟨_, _, checked⟩ := bind_ok checked
  cases checked
  split at done
  next =>
    obtain ⟨_, done⟩ := ite_then done
    cases done
    exact .inl ⟨rfl, rfl⟩
  next =>
    obtain ⟨expected, next, done⟩ := bind_ok done
    obtain ⟨_, contiguous, done⟩ := bind_ok done
    obtain ⟨stored, stores, done⟩ := bind_ok done
    rw [refuseIf_ok, not_not] at contiguous
    cases done
    exact .inr ⟨rfl, contiguous ▸ next, stores⟩

theorem recordStop_ok {marker : Option Bytes} (done : tables.recordStop codec outbox marker sequence frame = .ok after) :
    after = { tables with stoppedWorkerRun := after.stoppedWorkerRun } := by
  unfold recordStop at done
  split at done
  next =>
    cases done
    rfl
  next =>
    obtain ⟨_, _, done⟩ := bind_ok done
    obtain ⟨_, done⟩ := ite_then done
    cases done
    rfl

theorem enqueueWithStop_ok {marker : Option Bytes} {item : QueuedFrame}
    (done : tables.enqueueWithStop codec outbox frame marker = .ok (item, after)) :
    tables.nextSequence = .ok item.sequence ∧ ∃ stopped,
      { tables with stoppedWorkerRun := stopped }.storeOutboundFrame item.sequence (codec.encode item.frame) = .ok after := by
  obtain ⟨sequence, next, done⟩ := bind_ok done
  split at done
  · cases done
  obtain ⟨marked, records, done⟩ := bind_ok done
  obtain ⟨stored, stores, done⟩ := bind_ok done
  cases done
  refine ⟨next, marked.stoppedWorkerRun, ?_⟩
  rwa [← recordStop_ok records]

theorem acknowledgeThrough_ok {removed : Nat} (done : tables.acknowledgeThrough codec sequence = .ok (removed, after)) :
    (tables.pendingFrames.filter fun stored => stored.sequence ≤ sequence).foldlM (retain codec) tables.acknowledgedLifecycleReceipts =
        .ok after.acknowledgedLifecycleReceipts ∧
      after = { tables with
        outboundFrames := tables.outboundFrames.delete fun stored => stored.sequence ≤ sequence
        acknowledgedLifecycleReceipts := after.acknowledgedLifecycleReceipts } := by
  obtain ⟨positive, checked, done⟩ := bind_ok done
  obtain ⟨_, _, checked⟩ := bind_ok checked
  obtain ⟨_, _, checked⟩ := bind_ok checked
  cases checked
  obtain ⟨retained, retains, done⟩ := bind_ok done
  cases done
  exact ⟨retains, rfl⟩

end

/-- What is stored of all frames, the first `gone` of which are acknowledged. -/
structure Holds (codec : FrameCodec) (log : List QueuedFrame) (gone : Nat) (tables : OutboxTables) : Prop where
  numbered : Numbered QueuedFrame.sequence 1 log
  last : tables.lastSequence.getD 0 = log.length
  within : gone ≤ log.length
  outbound : tables.outboundFrames.rows = (log.drop gone).map (QueuedFrame.stored codec)
  retained : tables.acknowledgedLifecycleReceipts.rows =
    ((log.take gone).filter QueuedFrame.isLifecycleReceipt).map (QueuedFrame.stored codec)

namespace Holds
variable {log : List QueuedFrame} {gone : Nat}

theorem empty : OutboxTables.empty.Holds codec [] 0 := ⟨.nil, rfl, Nat.le_refl 0, rfl, rfl⟩

section
variable (holds : tables.Holds codec log gone)
include holds

theorem left : Numbered QueuedFrame.sequence (gone + 1) (log.drop gone) :=
  Nat.add_comm 1 gone ▸ holds.numbered.drop gone

theorem pendingFrames : tables.pendingFrames = (log.drop gone).map (QueuedFrame.stored codec) := by
  have ordered : ((log.drop gone).map (QueuedFrame.stored codec)).Pairwise fun a b => a.sequence ≤ b.sequence :=
    pairwise_map.mpr holds.left.ordered
  rw [OutboxTables.pendingFrames, holds.outbound]
  exact ordered.insertionSort_eq

theorem congr (outbound : after.outboundFrames = tables.outboundFrames)
    (retained : after.acknowledgedLifecycleReceipts = tables.acknowledgedLifecycleReceipts)
    (last : after.lastSequence.getD 0 = tables.lastSequence.getD 0) : after.Holds codec log gone :=
  ⟨holds.numbered, last.trans holds.last, holds.within, outbound ▸ holds.outbound, retained ▸ holds.retained⟩

theorem configure : tables.configure.Holds codec log gone := by
  refine holds.congr rfl rfl ?_
  cases counted : tables.lastSequence with
  | some last => simp only [OutboxTables.configure, counted, Option.getD_some]
  | none =>
    have nothing : log = [] := length_eq_zero_iff.mp (by rw [← holds.last, counted]; rfl)
    have rows := holds.outbound
    rw [nothing, drop_nil, map_nil] at rows
    simp only [OutboxTables.configure, counted, rows, map_nil, foldr_nil, Option.getD_none, Option.getD_some]

theorem positions (counted : tables.lastSequence ≠ none) :
    tables.positions = .ok ⟨gone, log.length⟩ := by
  obtain ⟨last, its⟩ := Option.ne_none_iff_exists'.mp counted
  have length := holds.last
  rw [its, Option.getD_some] at length
  have sequences : tables.outboundFrames.rows.map StoredFrame.sequence = (log.drop gone).map QueuedFrame.sequence := by
    rw [holds.outbound, map_map]
    rfl
  simp only [OutboxTables.positions, its, sequences, holds.left.min?, length]
  split
  next oldest there =>
    obtain ⟨_, there⟩ := else_of_ne there nofun
    cases there
    rfl
  next there =>
    obtain ⟨nothing, there⟩ := then_of_ne there nofun
    have passed : gone = log.length := Nat.le_antisymm holds.within (drop_eq_nil_iff.mp nothing)
    rw [passed]

theorem unacknowledged :
    (log.filter fun item => decide (gone < item.sequence)) = log.drop gone := holds.numbered.filter_lt gone

theorem pending (legible : ∀ item ∈ log, item.Legible codec) {limit : Nat} (positive : limit ≠ 0) :
    tables.pending codec limit = .ok ((log.drop gone).take limit) := by
  have reads : ∀ items : List QueuedFrame, (∀ item ∈ items, item.Legible codec) →
      (items.map (QueuedFrame.stored codec)).mapM (decodeQueued codec) = .ok items := by
    intro items readable
    induction items with
    | nil => rfl
    | cons first rest ih =>
      obtain ⟨here, others⟩ := forall_mem_cons.mp readable
      have reads : codec.decode (codec.encode first.frame) = some first.frame := here
      have one : decodeQueued codec (first.stored codec) = .ok first := by
        simp only [decodeQueued, QueuedFrame.stored, reads, if_true]
      rw [map_cons, mapM_cons, one, ih others]
      rfl
  rw [OutboxTables.pending, if_neg positive, holds.pendingFrames, ← map_take]
  exact reads _ fun item member => legible item (mem_of_mem_drop (mem_of_mem_take member))

end

end Holds

/-- The frames behind what is acknowledged are there, one number after another and as they were first
stored, and of the others the reports of a lifecycle. -/
structure Keeps (codec : FrameCodec) (log : List QueuedFrame) (tables : OutboxTables) (positions : OutboxPositions) : Prop where
  ordered : positions.acknowledged ≤ positions.lastEnqueued
  interval : tables.pendingFrames.map StoredFrame.sequence =
    List.range' (positions.acknowledged + 1) (positions.lastEnqueued - positions.acknowledged)
  pending : tables.pendingFrames =
    (log.filter fun item => decide (positions.acknowledged < item.sequence)).map (QueuedFrame.stored codec)
  readable : ∀ limit, limit ≠ 0 →
    tables.pending codec limit = .ok ((log.filter fun item => decide (positions.acknowledged < item.sequence)).take limit)
  once : (log.map QueuedFrame.sequence).Nodup
  kept : ∀ item ∈ log, item.sequence ≤ positions.acknowledged ∨ item.stored codec ∈ tables.pendingFrames
  retained : ∀ item ∈ log, item.sequence ≤ positions.acknowledged → item.isLifecycleReceipt = true →
    item.stored codec ∈ tables.acknowledgedLifecycleReceipts.rows

theorem Holds.keeps {codec : FrameCodec} {tables : OutboxTables} {log : List QueuedFrame} {gone : Nat}
    (holds : tables.Holds codec log gone) (legible : ∀ item ∈ log, item.Legible codec) : tables.Keeps codec log ⟨gone, log.length⟩ where
  ordered := holds.within
  interval := by
    have numbered : (log.drop gone).map QueuedFrame.sequence = List.range' (gone + 1) (log.drop gone).length := holds.left
    rw [holds.pendingFrames, map_map, ← length_drop, ← numbered]
    rfl
  pending := by rw [holds.unacknowledged, holds.pendingFrames]
  readable limit positive := by rw [holds.unacknowledged, holds.pending legible positive]
  once := holds.numbered.nodup
  kept item member := by
    rcases Nat.lt_or_ge gone item.sequence with behind | gone
    · right
      rw [holds.pendingFrames, ← holds.unacknowledged]
      exact mem_map_of_mem (mem_filter.mpr ⟨member, decide_eq_true behind⟩)
    · exact .inl gone
  retained item member before lifecycle := by
    have inside : item ∈ log.take gone := by
      rw [← Nat.add_sub_cancel gone 1, ← holds.numbered.filter_le]
      exact mem_filter.mpr ⟨member, decide_eq_true before⟩
    rw [holds.retained]
    exact mem_map_of_mem (mem_filter.mpr ⟨inside, lifecycle⟩)

end OutboxTables

namespace OutboxState

inductive Moves (codec : FrameCodec) (s : OutboxState) : OutboxOp → OutboxTables → Option QueuedFrame → Prop where
  | stays {op : OutboxOp} : Moves codec s op s.tables none
  | configures {op : OutboxOp} {binding : Option InboxBinding} : Moves codec s op { s.tables.configure with binding } none
  | queues {op : OutboxOp} {tables : OutboxTables} {item : QueuedFrame} {stopped : Option StoppedWorkerRun}
      (next : s.tables.nextSequence = .ok item.sequence)
      (stores : { s.tables with stoppedWorkerRun := stopped }.storeOutboundFrame item.sequence (codec.encode item.frame) = .ok tables) :
      Moves codec s op tables (some item)
  | acknowledges {tables : OutboxTables} {sequence removed : Nat}
      (done : s.tables.acknowledgeThrough codec sequence = .ok (removed, tables)) :
      Moves codec s (.acknowledgeThrough sequence) tables none

theorem ensured {tables after : OutboxTables} {registration : SupervisorRegistration} {session bound : SupervisorSession}
    (ensures : tables.ensureSupervisorIdentity registration session = .ok (bound, after)) :
    after = { tables with binding := after.binding } := by
  unfold OutboxTables.ensureSupervisorIdentity at ensures
  split at ensures
  next =>
    cases ensures
    rfl
  next =>
    obtain ⟨_, ensures⟩ := ite_else ensures
    split at ensures
    · cases ensures
    obtain ⟨_, ensures⟩ := ite_then ensures
    cases ensures
    rfl

theorem fromConnection_tables (tables : OutboxTables) (registration : SupervisorRegistration) (session : SupervisorSession) :
    (SupervisorOutbox.fromConnection tables registration session).2 = tables ∨
      ∃ binding, (SupervisorOutbox.fromConnection tables registration session).2 = { tables.configure with binding } := by
  unfold SupervisorOutbox.fromConnection
  dsimp only
  split
  · exact .inl rfl
  split
  next => exact .inr ⟨_, rfl⟩
  next ensures => exact .inr ⟨_, ensured ensures⟩

theorem step_moves (codec : FrameCodec) (s : OutboxState) (op : OutboxOp) :
    s.Moves codec op (s.step codec op).1.tables (s.queues codec op) := by
  obtain ⟨tables, process⟩ := s
  cases op with
  | «open» registration session =>
    cases process with
    | some => exact .stays
    | none =>
      have opened := fromConnection_tables tables registration session
      unfold queues
      simp only [step]
      split
      all_goals
        next same =>
          rw [same] at opened
          rcases opened with rfl | ⟨binding, rfl⟩
          · exact .stays
          · exact .configures
  | enqueue sequence frame =>
    cases process with
    | none => exact .stays
    | some outbox =>
      unfold queues
      simp only [step]
      split
      next => exact .stays
      next done =>
        obtain ⟨same, _⟩ | ⟨_, next, stores⟩ := OutboxTables.enqueue_ok done
        · cases same
        · exact .queues next stores
      next done =>
        obtain ⟨_, rfl⟩ | ⟨same, _⟩ := OutboxTables.enqueue_ok done
        · exact .stays
        · cases same
  | enqueueWithStop frame marker =>
    cases process with
    | none => exact .stays
    | some outbox =>
      unfold queues
      simp only [step]
      split
      · exact .stays
      rename_i done
      obtain ⟨next, _, stores⟩ := OutboxTables.enqueueWithStop_ok done
      exact .queues next stores
  | acknowledgeThrough sequence =>
    cases process with
    | none => exact .stays
    | some outbox =>
      unfold queues
      simp only [step]
      split
      next => exact .stays
      next done => exact .acknowledges done
  | crash => exact .stays

theorem Moves.counted {codec : FrameCodec} {s : OutboxState} {op : OutboxOp} {tables : OutboxTables} {queued : Option QueuedFrame}
    (moves : s.Moves codec op tables queued) (counted : s.tables.lastSequence ≠ none) : tables.lastSequence ≠ none := by
  cases moves with
  | stays => exact counted
  | configures => exact Option.some_ne_none _
  | queues _ stores =>
    rw [(OutboxTables.storeOutboundFrame_ok stores).1]
    simpa using counted
  | acknowledges done =>
    rw [(OutboxTables.acknowledgeThrough_ok done).2]
    exact counted

end OutboxState

section
variable {history : List (Entry OutboxState OutboxOp)} {state : OutboxState} {accepted : Nat → Prop}

section
open Protobuf

end

end

end MindLeak.Ackplane
