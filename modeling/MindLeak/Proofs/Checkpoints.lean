import MindLeak.Ackplane.Directive
import MindLeak.Proofs.Appends
import MindLeak.Proofs.ProjectedFacts

/-! The checkpoint of a projection under any interleaving of appends and rebuilds. What is committed
behind a stream's head stands at later positions, and so what a worker has read stays all there is up to
its last position; nobody else writes the stream's rows before it commits. -/

namespace MindLeak.Ackplane

open List Function

variable {stream : Stream} {ledger : LedgerStore} {p after : Projection} {rows : List LedgerRecord}
  {fromSlice : Bytes → Option StructuralFact}

namespace LedgerStore
variable {after : LedgerStore}
variable {row : LedgerRecord} {stream : Stream}

def factsUpTo (ledger : LedgerStore) (stream : Stream) (position : Int) : List LedgerRecord :=
  (ledger.structuralRecords stream).filter fun row => row.streamPosition ≤ position

def isStructural (stream : Stream) (row : LedgerRecord) : Bool :=
  decide (row.envelope.key.stream = stream) && decide (row.envelope.payloadType = STRUCTURAL_FACT_PAYLOAD_TYPE)

theorem Numbered.ordered (numbered : ledger.Numbered) (stream : Stream) :
    (ledger.records.rows.filter (isStructural stream)).Pairwise fun first second => first.streamPosition < second.streamPosition := by
  obtain ⟨n, _, counts⟩ := numbered.positions stream
  have increasing : (counted n).Pairwise (· < ·) := by
    rw [counted, pairwise_map]
    exact pairwise_lt_range.imp fun less => by omega
  rw [← counts, LedgerStore.positions, pairwise_map] at increasing
  have within : ledger.records.rows.filter (isStructural stream) =
      (ledger.records.rows.filter fun row => decide (row.envelope.key.stream = stream)).filter
        fun row => decide (row.envelope.payloadType = STRUCTURAL_FACT_PAYLOAD_TYPE) := by
    rw [filter_filter]
    exact filter_congr fun row _ => Bool.and_comm _ _
  rw [within]
  exact increasing.filter _

theorem Numbered.structuralRecords_eq (numbered : ledger.Numbered) (stream : Stream) :
    ledger.structuralRecords stream = ledger.records.rows.filter (isStructural stream) :=
  Pairwise.insertionSort_eq ((numbered.ordered stream).imp Int.le_of_lt)

theorem mem_structuralRecords_iff :
    row ∈ ledger.structuralRecords stream ↔ row ∈ ledger.records.rows ∧ isStructural stream row = true := by
  unfold structuralRecords
  rw [mem_insertionSort, mem_filter]
  rfl

theorem stream_of_isStructural (structural : isStructural stream row = true) :
    row.envelope.key.stream = stream := by
  unfold isStructural at structural
  rw [Bool.and_eq_true, decide_eq_true_eq] at structural
  exact structural.1

theorem Numbered.structural_bounded (numbered : ledger.Numbered) (member : row ∈ ledger.structuralRecords stream) :
    0 < row.streamPosition ∧ row.streamPosition ≤ ledger.headPosition stream := by
  obtain ⟨there, structural⟩ := mem_structuralRecords_iff.mp member
  obtain rfl := stream_of_isStructural structural
  obtain ⟨n, head, counts⟩ := numbered.positions row.envelope.key.stream
  have listed : row.streamPosition ∈ ledger.positions row.envelope.key.stream :=
    mem_map.mpr ⟨row, mem_filter.mpr ⟨there, decide_eq_true rfl⟩, rfl⟩
  rw [counts] at listed
  obtain ⟨i, inside, its⟩ := mem_map.mp listed
  have bound := mem_range.mp inside
  omega

theorem Numbered.factsUpTo_zero (numbered : ledger.Numbered) (stream : Stream) : ledger.factsUpTo stream 0 = [] := by
  refine filter_eq_nil_iff.mpr fun row member inside => ?_
  have positive := (numbered.structural_bounded member).1
  have bound : row.streamPosition ≤ 0 := of_decide_eq_true inside
  omega

theorem Numbered.le_lastPosition (numbered : ledger.Numbered) (member : row ∈ ledger.structuralRecords stream) :
    row.streamPosition ≤ Projection.lastPosition (ledger.structuralRecords stream) := by
  have ordered : (ledger.structuralRecords stream).Pairwise fun first second => first.streamPosition < second.streamPosition := by
    rw [numbered.structuralRecords_eq]
    exact numbered.ordered stream
  revert member ordered
  unfold Projection.lastPosition
  rcases eq_nil_or_concat (ledger.structuralRecords stream) with none | ⟨earlier, last, same⟩
  · rw [none]
    exact fun member => by cases member
  · rw [same, concat_eq_append, List.getLast?_concat]
    intro member ordered
    rcases mem_append.mp member with before | here
    · exact Int.le_of_lt ((pairwise_append.mp ordered).2.2 row before last (mem_singleton_self last))
    · exact Int.le_of_eq (congrArg LedgerRecord.streamPosition (mem_singleton.mp here))

/-- What was committed up to a head stays all there is up to it. -/
structure Extends (ledger after : LedgerStore) : Prop where
  heads : ∀ stream, ledger.headPosition stream ≤ after.headPosition stream
  facts : ∀ stream position, position ≤ ledger.headPosition stream → after.factsUpTo stream position = ledger.factsUpTo stream position
  records : ∀ row ∈ ledger.records.rows, row ∈ after.records.rows

theorem Extends.refl (ledger : LedgerStore) : Extends ledger ledger := ⟨fun _ => Int.le_refl _, fun _ _ _ => rfl, fun _ => id⟩

theorem Extends.trans {first middle last : LedgerStore} (one : Extends first middle) (other : Extends middle last) : Extends first last where
  heads stream := Int.le_trans (one.heads stream) (other.heads stream)
  facts stream position bound :=
    (other.facts stream position (Int.le_trans bound (one.heads stream))).trans (one.facts stream position bound)
  records row member := other.records row (one.records row member)

theorem Extends.of_append (before : ledger.Numbered) (numbered : after.Numbered)
    (rows : after.records.rows = ledger.records.rows ++ [row])
    (next : row.streamPosition = ledger.headPosition row.envelope.key.stream + 1)
    (heads : ∀ stream, stream ≠ row.envelope.key.stream → after.headPosition stream = ledger.headPosition stream) :
    Extends ledger after where
  heads stream := by
    by_cases own : stream = row.envelope.key.stream
    · have inside : row ∈ after.records.rows := rows ▸ mem_append_right _ (mem_singleton_self row)
      have bound := numbered.bounded inside
      rw [own]
      omega
    · exact Int.le_of_eq (heads stream own).symm
  facts stream position bound := by
    have left : ([row].filter (isStructural stream)).filter (fun row => decide (row.streamPosition ≤ position)) = [] := by
      refine filter_eq_nil_iff.mpr fun other member inside => ?_
      obtain ⟨here, structural⟩ := mem_filter.mp member
      cases mem_singleton.mp here
      have beyond : row.streamPosition ≤ position := of_decide_eq_true inside
      rw [next, stream_of_isStructural structural] at beyond
      omega
    unfold factsUpTo
    rw [numbered.structuralRecords_eq, before.structuralRecords_eq, rows, filter_append, filter_append, left, append_nil]
  records other member := rows ▸ mem_append_left _ member

end LedgerStore

theorem Appends.Sound.apply_extends {τ : Type} [DecidableEq τ] {s : Appends τ} (sound : s.Sound) (op : AppendOp τ) :
    s.ledger.Extends (s.apply op).ledger := by
  rcases s.apply_ledger op with same | ⟨transaction, envelope, nextPosition, advanced, committed, _⟩
  · rw [same]
    exact .refl _
  · obtain ⟨numbered, rows, heads⟩ := sound.commit_ledger advanced
    have holding : (s.phase transaction).holding = some ⟨envelope, nextPosition⟩ := by rw [advanced]; rfl
    rw [committed]
    exact .of_append sound.numbered numbered rows (sound.held _ _ holding).2 heads

def RebuildPhase.rows? : RebuildPhase → Option (Stream × List LedgerRecord)
  | .read stream _ rows | .replayed stream _ rows => some (stream, rows)
  | _ => none

theorem RebuildPhase.holding_of_rows? {phase : RebuildPhase} (read : phase.rows? = some (stream, rows)) :
    phase.holding = some stream := by
  cases phase <;> cases read <;> rfl

open Projection

structure Settled (fromSlice : Bytes → Option StructuralFact) (ledger : LedgerStore) (p : Projection) (stream : Stream) : Prop where
  bounded : (p.checkpoint? stream).getD 0 ≤ ledger.headPosition stream
  reached : (p.checkpoint? stream).getD 0 = 0 ∨
    ∃ row ∈ ledger.structuralRecords stream, row.streamPosition = (p.checkpoint? stream).getD 0
  shown : ∃ facts, decoded fromSlice (ledger.factsUpTo stream ((p.checkpoint? stream).getD 0)) = some facts ∧ p.Shows stream facts

structure Reading (ledger : LedgerStore) (p : Projection) (stream : Stream) (rows : List LedgerRecord) : Prop where
  all : rows = ledger.factsUpTo stream (lastPosition rows)
  bounded : lastPosition rows ≤ ledger.headPosition stream
  further : (p.checkpoint? stream).getD 0 ≤ lastPosition rows

namespace Projecting
variable {τ ω : Type} [DecidableEq τ] [DecidableEq ω] {fromSlice : Bytes → Option StructuralFact} {s : Projecting τ ω}
  {worker : ω} {stream : Stream}

structure Sound (fromSlice : Bytes → Option StructuralFact) (s : Projecting τ ω) : Prop where
  appends : s.appends.Sound
  held : ∀ worker stream, (s.phase worker).holding = some stream → s.locks stream = some worker
  reading : ∀ worker stream rows, (s.phase worker).rows? = some (stream, rows) → Reading s.appends.ledger s.projection stream rows
  settled : ∀ stream, Settled fromSlice s.appends.ledger s.projection stream

end Projecting

theorem Settled.extends {after : LedgerStore} (settled : Settled fromSlice ledger p stream) (grown : ledger.Extends after) :
    Settled fromSlice after p stream where
  bounded := Int.le_trans settled.bounded (grown.heads stream)
  reached := by
    refine settled.reached.imp_right ?_
    rintro ⟨row, member, its⟩
    obtain ⟨there, structural⟩ := LedgerStore.mem_structuralRecords_iff.mp member
    exact ⟨row, LedgerStore.mem_structuralRecords_iff.mpr ⟨grown.records row there, structural⟩, its⟩
  shown := by
    rw [grown.facts stream _ settled.bounded]
    exact settled.shown

theorem Reading.extends {after : LedgerStore} (reading : Reading ledger p stream rows) (grown : ledger.Extends after) :
    Reading after p stream rows where
  all := by
    rw [grown.facts stream _ reading.bounded]
    exact reading.all
  bounded := Int.le_trans reading.bounded (grown.heads stream)
  further := reading.further

theorem Settled.beside {written : Stream} (settled : Settled fromSlice ledger p stream) (beside : Beside written p after)
    (apart : stream ≠ written) :
    Settled fromSlice ledger after stream := by
  obtain ⟨facts, decodes, shown⟩ := settled.shown
  have same := beside.checkpoints stream apart
  refine ⟨by rw [same]; exact settled.bounded, by rw [same]; exact settled.reached, facts, by rw [same]; exact decodes, ?_⟩
  exact ⟨by rw [beside.nodes stream apart]; exact shown.nodes, by rw [beside.edges stream apart]; exact shown.edges⟩

theorem Reading.beside {written : Stream} (reading : Reading ledger p stream rows) (beside : Beside written p after)
    (apart : stream ≠ written) :
    Reading ledger after stream rows :=
  ⟨reading.all, reading.bounded, by rw [beside.checkpoints stream apart]; exact reading.further⟩

theorem Settled.read (settled : Settled fromSlice ledger p stream) (numbered : ledger.Numbered) :
    Reading ledger p stream (ledger.structuralRecords stream) where
  all := (filter_eq_self.mpr fun _ member => decide_eq_true (numbered.le_lastPosition member)).symm
  bounded := by
    unfold lastPosition
    cases final : (ledger.structuralRecords stream).getLast? with
    | none =>
      obtain ⟨n, head, _⟩ := numbered.positions stream
      rw [Option.map_none, Option.getD_none, head]
      omega
    | some last => exact (numbered.structural_bounded (mem_of_getLast? final)).2
  further := by
    rcases settled.reached with start | ⟨row, member, its⟩
    · rw [start]
      unfold lastPosition
      cases final : (ledger.structuralRecords stream).getLast? with
      | none => exact Int.le_refl _
      | some last => exact Int.le_of_lt (numbered.structural_bounded (mem_of_getLast? final)).1
    · rw [← its]
      exact numbered.le_lastPosition member

theorem Reading.settled {now last : Int} (reading : Reading ledger p stream rows)
    (rebuilt : p.rebuild fromSlice stream now rows = .ok (after, last)) : Settled fromSlice ledger after stream := by
  obtain ⟨facts, decodes, shown, rfl, checkpoint, _⟩ := rebuild_ok rebuilt
  refine ⟨by rw [checkpoint]; exact reading.bounded, ?_, facts, ?_, shown⟩
  · rw [checkpoint, Option.getD_some]
    unfold lastPosition
    cases final : rows.getLast? with
    | none => exact .inl rfl
    | some row =>
      have member := mem_of_getLast? final
      rw [reading.all] at member
      exact .inr ⟨row, (mem_filter.mp member).1, rfl⟩
  · rw [checkpoint, Option.getD_some, ← reading.all]
    exact decodes

namespace Projecting
variable {τ ω : Type} [DecidableEq τ] [DecidableEq ω] {fromSlice : Bytes → Option StructuralFact} {s : Projecting τ ω}
  {worker : ω} {stream : Stream}
variable {now : Int} {rows : List LedgerRecord}

omit [DecidableEq τ] in
theorem Sound.moveTo (sound : s.Sound fromSlice) {phase : RebuildPhase} {locks : Stream → Option ω}
    (keeps : ∀ stream holder, holder ≠ worker → s.locks stream = some holder → locks stream = some holder)
    (own : ∀ stream, phase.holding = some stream → locks stream = some worker)
    (reads : ∀ stream rows, phase.rows? = some (stream, rows) → Reading s.appends.ledger s.projection stream rows) :
    ({ s.moveTo worker phase with locks } : Projecting τ ω).Sound fromSlice where
  appends := sound.appends
  held other stream holding := by
    change (Function.update s.phase worker phase other).holding = some stream at holding
    by_cases same : other = worker
    · subst same
      rw [update_self] at holding
      exact own stream holding
    · rw [update_of_ne same] at holding
      exact keeps stream other same (sound.held other stream holding)
  reading other stream rows read := by
    change (Function.update s.phase worker phase other).rows? = some (stream, rows) at read
    by_cases same : other = worker
    · subst same
      rw [update_self] at read
      exact reads stream rows read
    · rw [update_of_ne same] at read
      exact sound.reading other stream rows read
  settled := sound.settled

omit [DecidableEq τ] in
theorem Sound.on (sound : s.Sound fromSlice) {phase : RebuildPhase} (holding : (s.phase worker).holding = some stream)
    (same : phase.holding = some stream)
    (reads : ∀ rows, phase.rows? = some (stream, rows) → Reading s.appends.ledger s.projection stream rows) :
    (s.moveTo worker phase).Sound fromSlice := by
  refine sound.moveTo (fun _ _ _ => id) (fun other held => ?_) fun other rows read => ?_
  · cases same.symm.trans held
    exact sound.held worker stream holding
  · cases same.symm.trans (RebuildPhase.holding_of_rows? read)
    exact reads rows read

omit [DecidableEq τ] in
theorem Sound.finish (sound : s.Sound fromSlice) (stream : Stream) (answer : Option (Except ProjectionError (ProjectionSummary × Bool))) :
    (s.finish worker stream answer).Sound fromSlice := by
  refine sound.moveTo (fun other holder apart locked => ?_) (fun _ held => by cases held) fun _ _ read => by cases read
  split
  next holding =>
    rw [update_of_ne ?_]
    · exact locked
    · rintro rfl
      exact apart (Option.some.inj (locked.symm.trans (sound.held worker other holding)))
  next => exact locked

omit [DecidableEq τ] [DecidableEq ω] in
theorem Sound.project (sound : s.Sound fromSlice) {projection : Projection} (beside : Beside stream s.projection projection)
    (nobody : ∀ worker, (s.phase worker).holding ≠ some stream) (settled : Settled fromSlice s.appends.ledger projection stream) :
    ({ s with projection } : Projecting τ ω).Sound fromSlice where
  appends := sound.appends
  held := sound.held
  reading other read rows its := by
    refine (sound.reading other read rows its).beside beside ?_
    rintro rfl
    exact nobody other (RebuildPhase.holding_of_rows? its)
  settled other := by
    by_cases same : other = stream
    · exact same ▸ settled
    · exact (sound.settled other).beside beside same

omit [DecidableEq τ] in
theorem Sound.commit (sound : s.Sound fromSlice) (replayed : s.phase worker = .replayed stream now rows)
    (answer : Option (Except ProjectionError (ProjectionSummary × Bool))) :
    ((s.commit fromSlice stream now rows).1.finish worker stream answer).Sound fromSlice := by
  have reading := sound.reading worker stream rows (by rw [replayed]; rfl)
  unfold Projecting.commit
  split
  next projection last rebuilt =>
    have ended : (s.finish worker stream answer).Sound fromSlice := sound.finish stream answer
    refine ended.project (rebuild_ok rebuilt).choose_spec.2.2.2.2 (fun other holding => ?_) (reading.settled rebuilt)
    change (Function.update s.phase worker (.finished stream answer) other).holding = some stream at holding
    by_cases same : other = worker
    · rw [same, update_self] at holding
      cases holding
    · rw [update_of_ne same] at holding
      have own := sound.held worker stream (by rw [replayed]; rfl)
      exact same (Option.some.inj ((sound.held other stream holding).symm.trans own))
  next => exact sound.finish stream answer

omit [DecidableEq τ] in
theorem Sound.begin (sound : s.Sound fromSlice) (worker : ω) (stream : Stream) (onlyIfStale : Bool) (now : Int) :
    (s.begin worker stream onlyIfStale now).Sound fromSlice := by
  have moved : (s.moveTo worker (.begun stream onlyIfStale now)).Sound fromSlice :=
    sound.moveTo (fun _ _ _ => id) (fun _ held => by cases held) fun _ _ read => by cases read
  unfold Projecting.begin
  split
  · exact moved
  · exact moved
  · exact sound

omit [DecidableEq τ] in
theorem Sound.step (sound : s.Sound fromSlice) (worker : ω) : (s.step fromSlice worker).Sound fromSlice := by
  unfold Projecting.step
  split
  next => exact sound
  next => exact sound
  next stream onlyIfStale now begun =>
    split
    · exact sound
    rename_i free
    refine sound.moveTo (fun other holder _ locked => ?_) (fun other held => ?_) fun _ _ read => by cases read
    · rw [update_of_ne ?_]
      · exact locked
      · rintro rfl
        cases free.symm.trans locked
    · cases held
      exact update_self ..
  next stream now locked => exact sound.on (by rw [locked]; rfl) rfl fun _ read => by cases read
  next stream now locked =>
    split
    next => exact sound.on (by rw [locked]; rfl) rfl fun _ read => by cases read
    next => exact sound.on (by rw [locked]; rfl) rfl fun _ read => by cases read
  next stream summary current => exact sound.finish stream _
  next stream now cleared =>
    refine sound.on (by rw [cleared]; rfl) rfl fun rows read => ?_
    cases read
    exact (sound.settled stream).read sound.appends.numbered
  next stream now rows read =>
    split
    · exact sound.finish stream _
    refine sound.on (by rw [read]; rfl) rfl fun others its => ?_
    cases its
    exact sound.reading worker stream rows (by rw [read]; rfl)
  next stream now rows replayed => exact sound.commit replayed _

theorem Sound.apply (sound : s.Sound fromSlice) (op : ProjectionOp τ ω) : (s.apply fromSlice op).Sound fromSlice := by
  cases op with
  | append op =>
    have grown := sound.appends.apply_extends op
    exact ⟨sound.appends.apply op, sound.held, fun worker stream rows read => (sound.reading worker stream rows read).extends grown,
      fun stream => (sound.settled stream).extends grown⟩
  | rebuild worker stream now => exact sound.begin worker stream false now
  | scan worker =>
    simp only [Projecting.apply]
    split
    · exact ⟨sound.appends, sound.held, sound.reading, sound.settled⟩
    · exact ⟨sound.appends, sound.held, sound.reading, sound.settled⟩
    · exact sound
  | next worker now =>
    simp only [Projecting.apply]
    split
    next stream rest _ =>
      have begun := sound.begin worker stream true now
      exact ⟨begun.appends, begun.held, begun.reading, begun.settled⟩
    next => exact sound
  | retry worker now =>
    simp only [Projecting.apply]
    split
    next stream _ => exact sound.begin worker stream true now
    next => exact sound
  | step worker => exact sound.step worker
  | fail worker =>
    simp only [Projecting.apply]
    split
    next stream _ => exact sound.finish stream _
    next => exact sound
  | commitUnheard worker =>
    simp only [Projecting.apply]
    split
    next stream now rows replayed => exact sound.commit replayed none
    next => exact sound

theorem sound_start : (projecting fromSlice τ ω).start.Sound fromSlice where
  appends := Appends.sound_start
  held _ _ holding := by cases holding
  reading _ _ _ read := by cases read
  settled stream := by
    refine ⟨Int.le_refl 0, .inl rfl, [], rfl, ⟨fun _ => rfl, fun _ => rfl⟩⟩

omit [DecidableEq τ] [DecidableEq ω] in
theorem commit_projection (s : Projecting τ ω) (fromSlice : Bytes → Option StructuralFact) (stream : Stream) (now : Int) (rows : List LedgerRecord) :
    (s.commit fromSlice stream now rows).1.appends = s.appends ∧
      ((s.commit fromSlice stream now rows).1.projection = s.projection ∨
        ∃ after last, s.projection.rebuild fromSlice stream now rows = .ok (after, last) ∧
          (s.commit fromSlice stream now rows).1.projection = after) := by
  unfold Projecting.commit
  split
  next after last rebuilt => exact ⟨rfl, .inr ⟨after, last, rebuilt, rfl⟩⟩
  next => exact ⟨rfl, .inl rfl⟩

inductive Changes (fromSlice : Bytes → Option StructuralFact) (s after : Projecting τ ω) : Prop
  | none (ledger : after.appends = s.appends) (projection : after.projection = s.projection)
  | append (op : AppendOp τ) (ledger : after.appends = s.appends.apply op) (projection : after.projection = s.projection)
  | rebuild (worker : ω) (stream : Stream) (now : Int) (rows : List LedgerRecord) (last : Int) (ledger : after.appends = s.appends)
      (replayed : s.phase worker = .replayed stream now rows)
      (rebuilt : s.projection.rebuild fromSlice stream now rows = .ok (after.projection, last))

theorem Changes.commit (replayed : s.phase worker = .replayed stream now rows)
    (answer : Option (Except ProjectionError (ProjectionSummary × Bool))) :
    Changes fromSlice s ((s.commit fromSlice stream now rows).1.finish worker stream answer) := by
  obtain ⟨ledger, same | ⟨after, last, rebuilt, its⟩⟩ := s.commit_projection fromSlice stream now rows
  · exact .none ledger same
  · subst its
    exact .rebuild worker stream now rows last ledger replayed rebuilt

omit [DecidableEq τ] in
theorem begin_changes (s : Projecting τ ω) (worker : ω) (stream : Stream) (onlyIfStale : Bool) (now : Int) :
    (s.begin worker stream onlyIfStale now).appends = s.appends ∧ (s.begin worker stream onlyIfStale now).projection = s.projection := by
  unfold Projecting.begin
  split <;> exact ⟨rfl, rfl⟩

theorem step_changes (s : Projecting τ ω) (fromSlice : Bytes → Option StructuralFact) (worker : ω) : Changes fromSlice s (s.step fromSlice worker) := by
  unfold Projecting.step
  split
  next => exact .none rfl rfl
  next => exact .none rfl rfl
  next => split <;> exact .none rfl rfl
  next => exact .none rfl rfl
  next => split <;> exact .none rfl rfl
  next => exact .none rfl rfl
  next => exact .none rfl rfl
  next => split <;> exact .none rfl rfl
  next stream now rows replayed => exact .commit replayed _

theorem apply_changes (s : Projecting τ ω) (fromSlice : Bytes → Option StructuralFact) (op : ProjectionOp τ ω) : Changes fromSlice s (s.apply fromSlice op) := by
  cases op with
  | append op => exact .append op rfl rfl
  | rebuild worker stream now =>
    obtain ⟨ledger, projection⟩ := s.begin_changes worker stream false now
    exact .none ledger projection
  | step worker => exact s.step_changes fromSlice worker
  | scan worker =>
    simp only [Projecting.apply]
    split <;> exact .none rfl rfl
  | next worker now =>
    simp only [Projecting.apply]
    split
    next stream _ _ =>
      obtain ⟨ledger, projection⟩ := s.begin_changes worker stream true now
      exact .none ledger projection
    next => exact .none rfl rfl
  | retry worker now =>
    simp only [Projecting.apply]
    split
    next stream _ =>
      obtain ⟨ledger, projection⟩ := s.begin_changes worker stream true now
      exact .none ledger projection
    next => exact .none rfl rfl
  | fail worker =>
    simp only [Projecting.apply]
    split <;> exact .none rfl rfl
  | commitUnheard worker =>
    simp only [Projecting.apply]
    split
    next stream now rows replayed => exact .commit replayed none
    next => exact .none rfl rfl

structure Grows (s after : Projecting τ ω) : Prop where
  ledger : s.appends.ledger.Extends after.appends.ledger
  checkpoints : ∀ stream position, s.projection.checkpoint? stream = some position →
    ∃ later, after.projection.checkpoint? stream = some later ∧ position ≤ later

omit [DecidableEq τ] [DecidableEq ω] in
theorem Grows.refl (s : Projecting τ ω) : Grows s s := ⟨.refl _, fun _ position there => ⟨position, there, Int.le_refl _⟩⟩

omit [DecidableEq τ] [DecidableEq ω] in
theorem Grows.trans {first middle last : Projecting τ ω} (one : Grows first middle) (other : Grows middle last) : Grows first last where
  ledger := one.ledger.trans other.ledger
  checkpoints stream position there := by
    obtain ⟨between, reached, before⟩ := one.checkpoints stream position there
    obtain ⟨later, now, behind⟩ := other.checkpoints stream between reached
    exact ⟨later, now, Int.le_trans before behind⟩

theorem Sound.apply_grows (sound : s.Sound fromSlice) (op : ProjectionOp τ ω) : Grows s (s.apply fromSlice op) := by
  cases s.apply_changes fromSlice op with
  | none ledger projection =>
    refine ⟨by rw [ledger]; exact .refl _, fun stream position there => ?_⟩
    rw [projection]
    exact ⟨position, there, Int.le_refl _⟩
  | append append ledger projection =>
    refine ⟨by rw [ledger]; exact sound.appends.apply_extends append, fun stream position there => ?_⟩
    rw [projection]
    exact ⟨position, there, Int.le_refl _⟩
  | rebuild worker written now rows last ledger replayed rebuilt =>
    refine ⟨by rw [ledger]; exact .refl _, fun stream position there => ?_⟩
    obtain ⟨_, _, _, rfl, checkpoint, beside⟩ := rebuild_ok rebuilt
    by_cases own : stream = written
    · subst own
      have further := (sound.reading worker stream rows (by rw [replayed]; rfl)).further
      rw [there, Option.getD_some] at further
      exact ⟨_, checkpoint, further⟩
    · exact ⟨position, (beside.checkpoints stream own).trans there, Int.le_refl _⟩

theorem Sound.apply_current (sound : s.Sound fromSlice) (op : ProjectionOp τ ω)
    (current : ∀ row ∈ s.appends.ledger.structuralRecords stream, row.streamPosition ≤ (s.projection.checkpoint? stream).getD 0) :
    (s.apply fromSlice op).projection.nodeContent stream = s.projection.nodeContent stream ∧
      (s.apply fromSlice op).projection.edgeContent stream = s.projection.edgeContent stream := by
  cases s.apply_changes fromSlice op with
  | none _ projection | append _ _ projection =>
    rw [projection]
    exact ⟨rfl, rfl⟩
  | rebuild worker written now rows last _ replayed rebuilt =>
    obtain ⟨facts, decodes, shown, _, _, beside⟩ := rebuild_ok rebuilt
    by_cases own : stream = written
    · subst own
      have reading := sound.reading worker stream rows (by rw [replayed]; rfl)
      obtain ⟨before, known, showed⟩ := (sound.settled stream).shown
      have all (bound : Int) (least : (s.projection.checkpoint? stream).getD 0 ≤ bound) :
          s.appends.ledger.factsUpTo stream bound = s.appends.ledger.structuralRecords stream :=
        filter_eq_self.mpr fun row member => decide_eq_true (Int.le_trans (current row member) least)
      rw [all _ (Int.le_refl _)] at known
      rw [reading.all, all _ reading.further, known] at decodes
      cases decodes
      exact ⟨funext fun nodeId => (shown.nodes nodeId).trans (showed.nodes nodeId).symm,
        funext fun key => (shown.edges key).trans (showed.edges key).symm⟩
    · exact ⟨beside.nodes stream own, beside.edges stream own⟩

omit [DecidableEq τ] in
theorem step_malformed (read : s.phase worker = .read stream now rows) {row : LedgerRecord} (member : row ∈ rows)
    (malformed : fromSlice row.envelope.payload = none) :
    (s.step fromSlice worker).projection = s.projection ∧ ∃ other ∈ rows, fromSlice other.envelope.payload = none ∧
      (s.step fromSlice worker).phase worker = .finished stream (some (.error (.malformedFact other.streamPosition))) := by
  unfold Projecting.step
  rw [read]
  dsimp only
  cases rebuilt : s.projection.rebuild fromSlice stream now rows with
  | ok done =>
    obtain ⟨facts, decodes, _⟩ := rebuild_ok rebuilt
    obtain ⟨fact, _, its⟩ := decoded_isSome_of_mem decodes member
    cases malformed.symm.trans its
  | error error =>
    obtain ⟨other, inside, its, rfl⟩ := rebuild_error rebuilt
    exact ⟨rfl, other, inside, its, update_self ..⟩

end Projecting

section
variable {fromSlice : Bytes → Option StructuralFact} {τ ω : Type} [DecidableEq τ] [DecidableEq ω]
  {history : List (Entry (Projecting τ ω) (ProjectionOp τ ω))} {state : Projecting τ ω}

section
variable (run : (projecting fromSlice τ ω).Run history state)
include run

theorem projecting_sound : state.Sound fromSlice :=
  run.invariant (Projecting.Sound fromSlice) Projecting.sound_start fun _ op sound => sound.apply op

theorem projecting_visited :
    ∀ seen ∈ (projecting fromSlice τ ω).visited history, seen.Sound fromSlice :=
  run.visited_good (Projecting.Sound fromSlice) Projecting.sound_start fun _ op sound => sound.apply op

theorem projecting_grows :
    ∀ seen ∈ (projecting fromSlice τ ω).visited history, seen.Grows state := by
  induction run with
  | start =>
    intro seen member
    cases mem_singleton.mp member
    exact .refl _
  | @step history before past op ready ih =>
    intro seen member
    rcases mem_cons.mp member with rfl | earlier
    · exact .refl _
    · exact (ih seen earlier).trans ((projecting_sound past).apply_grows op)

end

def Projecting.counted? (fromSlice : Bytes → Option StructuralFact) (s : Projecting τ ω) (stream : Stream) (position : Int) :
    Option (List StructuralFact) := decoded fromSlice (s.appends.ledger.factsUpTo stream position)

structure TruthfulCheckpoint (fromSlice : Bytes → Option StructuralFact) (history : List (Entry (Projecting τ ω) (ProjectionOp τ ω)))
    (state : Projecting τ ω) : Prop where
  latest : ∀ stream position, state.projection.checkpoint? stream = some position →
    ∃ facts, state.counted? fromSlice stream position = some facts ∧ state.projection.Latest stream facts
  unprojected : ∀ stream, state.projection.checkpoint? stream = none → state.projection.Latest stream []
  settled : ∀ seen ∈ (projecting fromSlice τ ω).visited history, ∀ stream position, seen.projection.checkpoint? stream = some position →
    state.appends.ledger.factsUpTo stream position = seen.appends.ledger.factsUpTo stream position ∧
      ∃ later, state.projection.checkpoint? stream = some later ∧ position ≤ later
  repeated : ∀ entry ∈ history, ∀ stream,
    (∀ row ∈ entry.before.appends.ledger.structuralRecords stream,
      row.streamPosition ≤ (entry.before.projection.checkpoint? stream).getD 0) →
    entry.after.projection.nodeContent stream = entry.before.projection.nodeContent stream ∧
      entry.after.projection.edgeContent stream = entry.before.projection.edgeContent stream
  malformed : ∀ entry ∈ history, ∀ worker stream now rows, entry.op = .step worker → entry.before.phase worker = .read stream now rows →
    ∀ row ∈ rows, fromSlice row.envelope.payload = none →
      entry.after.projection = entry.before.projection ∧ ∃ other ∈ rows, fromSlice other.envelope.payload = none ∧
        entry.after.phase worker = .finished stream (some (.error (.malformedFact other.streamPosition)))

end

section

def mainStream : Stream := ⟨"acme", "repo"⟩

def fileFact : StructuralFact where
  nodeId := "artifact:lib.rs"
  nodeType := "artifact"
  label := "lib.rs"
  edges := [⟨"symbol:lib.rs:main", "contains", 0x3FF0000000000000, 0x4065000000000000⟩]

def emptiedFact : StructuralFact := { fileFact with edges := [] }

def filePayload : Bytes := utf8 ("\x7b\"node_id\":\"artifact:lib.rs\",\"node_type\":\"artifact\",\"label\":\"lib.rs\",\"edges\":[\x7b" ++
  "\"target_id\":\"symbol:lib.rs:main\",\"relation\":\"contains\",\"base_weight\":1.0,\"half_life_hours\":168.0\x7d]\x7d")

def emptiedPayload : Bytes := utf8 "\x7b\"node_id\":\"artifact:lib.rs\",\"node_type\":\"artifact\",\"label\":\"lib.rs\"\x7d"

def fromFileSlice (payload : Bytes) : Option StructuralFact :=
  if payload = filePayload then some fileFact else if payload = emptiedPayload then some emptiedFact else none

def factEnvelope (producerSequence : Int) (payload : Bytes) : EventEnvelope where
  key := ⟨mainStream.tenantId, mainStream.repositoryId, "node-1", producerSequence⟩
  payload := payload
  payloadDigest := [1]
  schemaVersion := "v1"
  occurredAt := 0
  payloadType := STRUCTURAL_FACT_PAYLOAD_TYPE
  previousEnvelopeDigest := none
  signingKeyId := none
  signature := none
  provenance := .enrolledNode

def appendOps (transaction : Nat) (envelope : EventEnvelope) : List (Projecting Nat Nat → ProjectionOp Nat Nat) :=
  List.replicate 6 (fun _ => ProjectionOp.append (.step transaction)) ++ [fun _ => ProjectionOp.append (.start transaction envelope)]

def rebuildOps (worker : Nat) : List (Projecting Nat Nat → ProjectionOp Nat Nat) :=
  List.replicate 5 (fun _ => ProjectionOp.step worker) ++ [fun _ => ProjectionOp.rebuild worker mainStream 0]

theorem checkpoint_truthful_iff {fromSlice : Bytes → Option StructuralFact} {τ ω : Type} [DecidableEq τ] [DecidableEq ω]
    {history : List (Entry (Projecting τ ω) (ProjectionOp τ ω))} {state : Projecting τ ω}
    (run : (projecting fromSlice τ ω).Run history state) : TruthfulCheckpoint fromSlice history state ↔
      ∀ stream position facts, state.projection.checkpoint? stream = some position →
        state.counted? fromSlice stream position = some facts → DropsNothing facts := by
  have sound := projecting_sound run
  constructor
  · intro truthful stream position facts there counts
    obtain ⟨others, counts', latest⟩ := truthful.latest stream position there
    cases counts.symm.trans counts'
    obtain ⟨shownFacts, decodes, shown⟩ := (sound.settled stream).shown
    rw [there, Option.getD_some] at decodes
    cases counts.symm.trans decodes
    exact shown.latest_iff.mp latest
  · intro keeps
    refine ⟨fun stream position there => ?_, fun stream there => ?_, fun seen member stream position there => ?_,
      fun entry member stream current => ?_, fun entry member worker stream now rows its read row inside malformed => ?_⟩
    · obtain ⟨facts, decodes, shown⟩ := (sound.settled stream).shown
      rw [there, Option.getD_some] at decodes
      exact ⟨facts, decodes, shown.latest_iff.mpr (keeps stream position facts there decodes)⟩
    · obtain ⟨facts, decodes, shown⟩ := (sound.settled stream).shown
      rw [there, Option.getD_none, sound.appends.numbered.factsUpTo_zero] at decodes
      cases decodes
      exact shown.latest_iff.mpr fun _ member => by cases member
    · have grown := projecting_grows run seen member
      have bound := ((projecting_visited run seen member).settled stream).bounded
      rw [there, Option.getD_some] at bound
      exact ⟨grown.ledger.facts stream position bound, grown.checkpoints stream position there⟩
    · obtain ⟨before, left⟩ := run.entry_good (Projecting.Sound fromSlice) Projecting.sound_start (fun _ op sound => sound.apply op) member
      rw [left]
      exact before.apply_current entry.op current
    · obtain ⟨_, left⟩ := run.entry_good (Projecting.Sound fromSlice) Projecting.sound_start (fun _ op sound => sound.apply op) member
      rw [left, its]
      exact Projecting.step_malformed read inside malformed

def reported : List (Projecting Nat Nat → ProjectionOp Nat Nat) :=
  rebuildOps 0 ++ appendOps 1 (factEnvelope 2 filePayload) ++ rebuildOps 0 ++ appendOps 0 (factEnvelope 1 filePayload)

theorem reported_truthful : TruthfulCheckpoint fromFileSlice ((projecting fromFileSlice Nat Nat).replay reported).1
    ((projecting fromFileSlice Nat Nat).replay reported).2 := by
  refine (checkpoint_truthful_iff (Machine.replay_run fun _ _ _ _ _ => trivial)).mpr fun stream position facts there counts => ?_
  obtain ⟨stands, reads⟩ : let s := ((projecting fromFileSlice Nat Nat).replay reported).2
      s.projection.states.rows = [⟨mainStream, 2, 0⟩] ∧
      s.counted? fromFileSlice mainStream 2 = some [fileFact, fileFact] := by
    decide +kernel
  obtain ⟨row, found, rfl⟩ := Option.map_eq_some_iff.mp there
  obtain ⟨member, rfl⟩ := Table.mem_of_find? found
  rw [stands] at member
  cases mem_singleton.mp member
  cases reads.symm.trans counts
  decide

def emptied : List (Projecting Nat Nat → ProjectionOp Nat Nat) :=
  rebuildOps 0 ++ appendOps 1 (factEnvelope 2 emptiedPayload) ++ appendOps 0 (factEnvelope 1 filePayload)

/-- The edge of the first stays. -/
theorem dropped_edge_counterexample : ∃ history state, (projecting fromFileSlice Nat Nat).Run history state ∧
    state.projection.checkpoint? mainStream = some 2 ∧
    state.projection.edgeContent mainStream ⟨"artifact:lib.rs", "symbol:lib.rs:main", "contains"⟩ =
      some (0x3FF0000000000000, 0x4065000000000000) ∧
    ¬TruthfulCheckpoint fromFileSlice history state := by
  obtain ⟨there, edge, counts⟩ : let s := ((projecting fromFileSlice Nat Nat).replay emptied).2
      s.projection.checkpoint? mainStream = some 2 ∧
      s.projection.edgeContent mainStream ⟨"artifact:lib.rs", "symbol:lib.rs:main", "contains"⟩ =
        some (0x3FF0000000000000, 0x4065000000000000) ∧
      s.counted? fromFileSlice mainStream 2 = some [fileFact, emptiedFact] := by
    decide +kernel
  refine ⟨_, _, Machine.replay_run fun _ _ _ _ _ => trivial, there, edge, fun truthful => ?_⟩
  obtain ⟨facts, counts', latest⟩ := truthful.latest mainStream 2 there
  cases counts.symm.trans counts'
  have none := latest.edges ⟨"artifact:lib.rs", "symbol:lib.rs:main", "contains"⟩
  rw [edge] at none
  revert none
  decide +kernel

end

end MindLeak.Ackplane
