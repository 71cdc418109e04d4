import MindLeak.Ackplane.Types
import MindLeak.Library.Runs

/-! The ledger's tables and the append transaction, its statements one by one. -/

namespace MindLeak.Ackplane

structure Stream where
  (tenantId repositoryId : String)
  deriving DecidableEq

def DedupKey.stream (key : DedupKey) : Stream := ⟨key.tenantId, key.repositoryId⟩

structure StreamHead where
  stream : Stream
  position : Int

instance : Row StreamHead Stream := ⟨StreamHead.stream⟩

structure LedgerRecord where
  envelope : EventEnvelope
  streamPosition : Int
  deriving DecidableEq

instance : Row LedgerRecord DedupKey := ⟨fun row => row.envelope.key⟩

structure LedgerReceipt where
  key : DedupKey
  streamPosition : Int
  disposition : V1.ReceiptDisposition
  payloadDigest : Bytes

instance : Row LedgerReceipt DedupKey := ⟨LedgerReceipt.key⟩

structure LedgerStore where
  heads : Table StreamHead
  records : Table LedgerRecord
  receipts : Table LedgerReceipt

namespace LedgerStore

def empty : LedgerStore := ⟨.empty, .empty, .empty⟩

/-- What a same-key retry is answered from. -/
def existing (ledger : LedgerStore) (envelope : EventEnvelope) : Option (Except AppendError AppendOutcome) :=
  (ledger.records.find? envelope.key).map fun row =>
    if row.envelope.payloadDigest = envelope.payloadDigest then .ok (.duplicate row.streamPosition)
    else .error (.conflict envelope.key.producerId envelope.key.producerSequence)

def headPosition (ledger : LedgerStore) (stream : Stream) : Int :=
  ((ledger.heads.find? stream).map StreamHead.position).getD 0

def lockHead (ledger : LedgerStore) (stream : Stream) : LedgerStore :=
  { ledger with heads := ledger.heads.insertOrIgnore ⟨stream, 0⟩ }

def taken (ledger : LedgerStore) (row : LedgerRecord) : Bool :=
  ledger.records.rows.any fun other =>
    decide (other.envelope.key = row.envelope.key) ||
      (decide (other.envelope.key.stream = row.envelope.key.stream) && decide (other.streamPosition = row.streamPosition))

def insertRecord (ledger : LedgerStore) (row : LedgerRecord) : Except AppendError LedgerStore :=
  if ledger.taken row then .error .database
  else .ok { ledger with records := ledger.records.insertOrIgnore row }

def insertReceipt (ledger : LedgerStore) (row : LedgerReceipt) : Except AppendError LedgerStore :=
  match ledger.receipts.insert? row with
  | none => .error .database
  | some receipts => .ok { ledger with receipts }

def advanceHead (ledger : LedgerStore) (stream : Stream) (position : Int) : LedgerStore :=
  { ledger with heads := ledger.heads.update (fun head => decide (head.stream = stream)) fun head => { head with position } }

def write (ledger : LedgerStore) (envelope : EventEnvelope) (nextPosition : Int) : Except AppendError LedgerStore := do
  let ledger ← (ledger.lockHead envelope.key.stream).insertRecord ⟨envelope, nextPosition⟩
  let ledger ← ledger.insertReceipt ⟨envelope.key, nextPosition, .accepted, envelope.payloadDigest⟩
  return ledger.advanceHead envelope.key.stream nextPosition

/-- The whole transaction with nothing between its statements; an error rolls it back. -/
def append (ledger : LedgerStore) (envelope : EventEnvelope) : Except AppendError (AppendOutcome × LedgerStore) :=
  match ledger.existing envelope with
  | some answer => answer.map fun outcome => (outcome, ledger)
  | none =>
    let nextPosition := ledger.headPosition envelope.key.stream + 1
    (ledger.write envelope nextPosition).map fun after => (.accepted nextPosition, after)

def Holds (ledger : LedgerStore) (envelope : EventEnvelope) : Prop :=
  ∃ row ∈ ledger.records.rows, row.envelope.key = envelope.key ∧ row.envelope.payloadDigest = envelope.payloadDigest

instance (ledger : LedgerStore) (envelope : EventEnvelope) : Decidable (ledger.Holds envelope) :=
  inferInstanceAs (Decidable (∃ row ∈ ledger.records.rows, _))

section
variable {ledger after : LedgerStore} {envelope : EventEnvelope} {nextPosition : Int} {outcome : AppendOutcome}

theorem insertRecord_ok {row : LedgerRecord} (inserted : ledger.insertRecord row = .ok after) :
    (∀ other ∈ ledger.records.rows, other.envelope.key ≠ row.envelope.key) ∧
      after.records.rows = ledger.records.rows ++ [row] ∧ after.heads = ledger.heads ∧ after.receipts = ledger.receipts := by
  obtain ⟨free, inserted⟩ := ite_else inserted
  cases inserted
  have fresh : ∀ other ∈ ledger.records.rows, other.envelope.key ≠ row.envelope.key := by
    intro other member same
    refine free (List.any_eq_true.mpr ⟨other, member, ?_⟩)
    rw [Bool.or_eq_true]
    exact .inl (decide_eq_true same)
  have absent : ledger.records.find? (Row.key row) = none := by
    rw [Table.find?_eq_none_iff, List.mem_map]
    rintro ⟨other, member, same⟩
    exact fresh other member same
  obtain ⟨records, done⟩ := Table.insert?_of_fresh absent
  refine ⟨fresh, ?_, rfl, rfl⟩
  simp only [Table.insertOrIgnore, done, Option.getD_some, (Table.insert?_rows done).1]

theorem insertReceipt_ok {row : LedgerReceipt} (inserted : ledger.insertReceipt row = .ok after) :
    after.receipts.rows = ledger.receipts.rows ++ [row] ∧ after.records = ledger.records ∧ after.heads = ledger.heads := by
  unfold insertReceipt at inserted
  split at inserted
  · cases inserted
  rename_i receipts done
  cases inserted
  exact ⟨(Table.insert?_rows done).1, rfl, rfl⟩

theorem write_ok (written : ledger.write envelope nextPosition = .ok after) :
    (∀ other ∈ ledger.records.rows, other.envelope.key ≠ envelope.key) ∧
      after.records.rows = ledger.records.rows ++ [⟨envelope, nextPosition⟩] ∧
      after.receipts.rows = ledger.receipts.rows ++ [⟨envelope.key, nextPosition, .accepted, envelope.payloadDigest⟩] ∧
      after.heads = ((ledger.lockHead envelope.key.stream).advanceHead envelope.key.stream nextPosition).heads := by
  obtain ⟨recorded, first, written⟩ := bind_ok written
  obtain ⟨received, second, written⟩ := bind_ok written
  cases written
  obtain ⟨fresh, records, heads, receipts⟩ := insertRecord_ok first
  obtain ⟨receipts', records', heads'⟩ := insertReceipt_ok second
  refine ⟨fresh, ?_, ?_, ?_⟩
  · rw [advanceHead, records', records]
    rfl
  · rw [advanceHead, receipts', receipts]
    rfl
  · simp only [advanceHead, heads', heads]

theorem existing_eq_some {answer : Except AppendError AppendOutcome} :
    ledger.existing envelope = some answer ↔ ∃ row, ledger.records.find? envelope.key = some row ∧
      answer = if row.envelope.payloadDigest = envelope.payloadDigest then .ok (.duplicate row.streamPosition)
        else .error (.conflict envelope.key.producerId envelope.key.producerSequence) := by
  unfold existing
  rw [Option.map_eq_some_iff]
  exact exists_congr fun row => and_congr_right fun _ => eq_comm

section
variable (appended : ledger.append envelope = .ok (outcome, after))
include appended

theorem append_ok :
    (∃ row, ledger.records.find? envelope.key = some row ∧ row.envelope.payloadDigest = envelope.payloadDigest ∧
        outcome = .duplicate row.streamPosition ∧ after = ledger) ∨
      ledger.records.find? envelope.key = none ∧ outcome = .accepted (ledger.headPosition envelope.key.stream + 1) ∧
        ledger.write envelope (ledger.headPosition envelope.key.stream + 1) = .ok after := by
  unfold append at appended
  split at appended
  next answer there =>
    left
    obtain ⟨row, found, rfl⟩ := existing_eq_some.mp there
    split at appended
    on_goal 2 => cases appended
    rename_i same
    cases appended
    exact ⟨row, found, same, rfl, rfl⟩
  next absent =>
    right
    have fresh : ledger.records.find? envelope.key = none := by simpa [existing] using absent
    cases written : ledger.write envelope (ledger.headPosition envelope.key.stream + 1) with
    | error => simp [written, Except.map] at appended
    | ok later =>
      simp only [written, Except.map, Except.ok.injEq, Prod.mk.injEq] at appended
      exact ⟨fresh, appended.1.symm, appended.2 ▸ rfl⟩

theorem append_keeps {row : LedgerRecord}
    (member : row ∈ ledger.records.rows) : row ∈ after.records.rows := by
  rcases append_ok appended with ⟨_, _, _, _, rfl⟩ | ⟨_, _, written⟩
  · exact member
  · rw [(write_ok written).2.1]
    exact List.mem_append_left _ member

theorem append_holds : after.Holds envelope := by
  rcases append_ok appended with ⟨row, found, same, _, rfl⟩ | ⟨_, _, written⟩
  · obtain ⟨member, key⟩ := Table.mem_of_find? found
    exact ⟨row, member, key, same⟩
  · refine ⟨⟨envelope, ledger.headPosition envelope.key.stream + 1⟩, ?_, rfl, rfl⟩
    rw [(write_ok written).2.1]
    exact List.mem_append_right _ (List.mem_singleton.mpr rfl)

end

theorem find?_of_holds (held : ledger.Holds envelope) : ∃ row, ledger.records.find? envelope.key = some row ∧
    row.envelope.payloadDigest = envelope.payloadDigest := by
  obtain ⟨row, member, key, digest⟩ := held
  exact ⟨row, Table.find?_eq_some_iff.mpr ⟨member, key⟩, digest⟩

end

end LedgerStore

/-! Append transactions of any number of senders, statement by statement. Each
statement reads what is committed when it runs; what a transaction writes is
committed at once at its end. -/

inductive AppendEnd where
  | answered (outcome : AppendOutcome)
  | conflict
  /-- A unique index refused a row. -/
  | violated
  /-- The pool, a statement or the connection failed, and everything was rolled back. -/
  | failed
  /-- It was committed, but the answer was lost. -/
  | unanswered
  deriving DecidableEq

/-- What the caller is told. -/
def AppendEnd.answer (envelope : EventEnvelope) : AppendEnd → Except AppendError AppendOutcome
  | .answered outcome => .ok outcome
  | .conflict => .error (.conflict envelope.key.producerId envelope.key.producerSequence)
  | .violated | .failed | .unanswered => .error .database

/-- Behind which of its statements a transaction stands. -/
inductive AppendPhase where
  | idle
  | begun (envelope : EventEnvelope)
  /-- The check found no record of the key. -/
  | unseen (envelope : EventEnvelope)
  | locked (envelope : EventEnvelope) (position : Int)
  | recorded (envelope : EventEnvelope) (nextPosition : Int)
  | receipted (envelope : EventEnvelope) (nextPosition : Int)
  | advanced (envelope : EventEnvelope) (nextPosition : Int)
  | finished (envelope : EventEnvelope) (ending : AppendEnd)
  deriving DecidableEq

namespace AppendPhase

def holding : AppendPhase → Option LedgerRecord
  | .locked envelope position => some ⟨envelope, position + 1⟩
  | .recorded envelope nextPosition | .receipted envelope nextPosition | .advanced envelope nextPosition =>
    some ⟨envelope, nextPosition⟩
  | _ => none

def envelope? : AppendPhase → Option EventEnvelope
  | .begun envelope | .unseen envelope | .locked envelope _ | .recorded envelope _ | .receipted envelope _
  | .advanced envelope _ => some envelope
  | .idle | .finished _ _ => none

end AppendPhase

structure Appends (τ : Type) where
  ledger : LedgerStore
  locks : Stream → Option τ
  phase : τ → AppendPhase

inductive AppendOp (τ : Type) where
  | start (transaction : τ) (envelope : EventEnvelope)
  /-- The transaction's next statement, or its commit. -/
  | step (transaction : τ)
  | fail (transaction : τ)
  /-- The commit, and nobody hears of it. -/
  | commitUnheard (transaction : τ)

namespace Appends
variable {τ : Type} [DecidableEq τ]

def moveTo (s : Appends τ) (transaction : τ) (phase : AppendPhase) : Appends τ :=
  { s with phase := Function.update s.phase transaction phase }

def finish (s : Appends τ) (transaction : τ) (envelope : EventEnvelope) (ending : AppendEnd) : Appends τ :=
  { s.moveTo transaction (.finished envelope ending) with
    locks := if (s.phase transaction).holding.isSome then Function.update s.locks envelope.key.stream none else s.locks }

/-- The writes of a transaction, together. -/
def commit (s : Appends τ) (envelope : EventEnvelope) (nextPosition : Int) : Appends τ :=
  { s with ledger := (s.ledger.write envelope nextPosition).toOption.getD s.ledger }

/-- The next statement. An uncommitted row that could stand against an insert is of the
same stream, and so its transaction has the head; what is committed is all there is to check. -/
def step (s : Appends τ) (transaction : τ) : Appends τ :=
  match s.phase transaction with
  | .idle => s
  | .begun envelope =>
    match s.ledger.existing envelope with
    | some (.ok outcome) => s.finish transaction envelope (.answered outcome)
    | some (.error _) => s.finish transaction envelope .conflict
    | none => s.moveTo transaction (.unseen envelope)
  | .unseen envelope =>
    let stream := envelope.key.stream
    match s.locks stream with
    -- Another transaction has the head: this one waits.
    | some _ => s
    | none =>
      { s.moveTo transaction (.locked envelope (s.ledger.headPosition stream)) with
        locks := Function.update s.locks stream (some transaction) }
  | .locked envelope position =>
    if s.ledger.taken ⟨envelope, position + 1⟩ then s.finish transaction envelope .violated
    else s.moveTo transaction (.recorded envelope (position + 1))
  | .recorded envelope nextPosition =>
    if (s.ledger.receipts.find? envelope.key).isSome then s.finish transaction envelope .violated
    else s.moveTo transaction (.receipted envelope nextPosition)
  | .receipted envelope nextPosition => s.moveTo transaction (.advanced envelope nextPosition)
  | .advanced envelope nextPosition =>
    (s.commit envelope nextPosition).finish transaction envelope (.answered (.accepted nextPosition))
  | .finished _ _ => s

def apply (s : Appends τ) : AppendOp τ → Appends τ
  | .start transaction envelope =>
    match s.phase transaction with
    | .idle => s.moveTo transaction (.begun envelope)
    | _ => s
  | .step transaction => s.step transaction
  | .fail transaction =>
    match (s.phase transaction).envelope? with
    | some envelope => s.finish transaction envelope .failed
    | none => s
  | .commitUnheard transaction =>
    match s.phase transaction with
    | .advanced envelope nextPosition => (s.commit envelope nextPosition).finish transaction envelope .unanswered
    | _ => s

end Appends

def appends (τ : Type) [DecidableEq τ] : Machine (Appends τ) (AppendOp τ) where
  start := ⟨.empty, fun _ => none, fun _ => .idle⟩
  enabled _ _ := True
  apply := Appends.apply

end MindLeak.Ackplane
