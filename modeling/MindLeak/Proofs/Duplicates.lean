import MindLeak.Proofs.Appends

/-! Which resubmissions the ledger answers as duplicates. It compares the digest of
the payload; the digest says nothing of what else was signed. -/

namespace MindLeak.Ackplane

structure EventEnvelope.Agrees (stored sent : EventEnvelope) : Prop where
  payload : stored.payload = sent.payload
  payloadType : stored.payloadType = sent.payloadType
  schemaVersion : stored.schemaVersion = sent.schemaVersion
  occurredAt : stored.occurredAt = sent.occurredAt
  previousEnvelopeDigest : stored.previousEnvelopeDigest = sent.previousEnvelopeDigest
  provenance : stored.provenance = sent.provenance

/-- A record that comes again under its key, with its payload's digest, as another record. -/
structure EventEnvelope.Recast (stored sent : EventEnvelope) : Prop where
  key : stored.key = sent.key
  payloadDigest : stored.payloadDigest = sent.payloadDigest
  differs : ¬stored.Agrees sent

namespace LedgerStore
variable {ledger : LedgerStore} {envelope : EventEnvelope}

structure Deduplicates (ledger : LedgerStore) (envelope : EventEnvelope) : Prop where
  duplicate : ∀ position after, ledger.append envelope = .ok (.duplicate position, after) →
    ∃ row ∈ ledger.records.rows, row.envelope.key = envelope.key ∧ row.streamPosition = position ∧
      row.envelope.Agrees envelope
  conflict : ∀ row ∈ ledger.records.rows, row.envelope.key = envelope.key → ¬row.envelope.Agrees envelope →
    ledger.append envelope = .error (.conflict envelope.key.producerId envelope.key.producerSequence)

theorem append_existing {row : LedgerRecord} (member : row ∈ ledger.records.rows) (key : row.envelope.key = envelope.key) :
    ledger.append envelope = if row.envelope.payloadDigest = envelope.payloadDigest then .ok (.duplicate row.streamPosition, ledger)
      else .error (.conflict envelope.key.producerId envelope.key.producerSequence) := by
  have found : ledger.records.find? envelope.key = some row := Table.find?_eq_some_iff.mpr ⟨member, key⟩
  have there := existing_eq_some.mpr ⟨row, found, rfl⟩
  rw [append, there]
  simp only
  split <;> rfl

theorem deduplicates_iff : ledger.Deduplicates envelope ↔ ∀ row ∈ ledger.records.rows, ¬row.envelope.Recast envelope := by
  constructor
  · intro deduplicates row member recast
    have answered := append_existing member recast.key
    rw [if_pos recast.payloadDigest, deduplicates.conflict row member recast.key recast.differs] at answered
    cases answered
  · intro never
    refine ⟨?_, ?_⟩
    · intro position after answered
      rcases append_ok answered with ⟨row, found, digest, outcome, _⟩ | ⟨_, outcome, _⟩
      · cases outcome
        obtain ⟨member, key⟩ := Table.mem_of_find? found
        exact ⟨row, member, key, rfl, by_contra fun differs => never row member ⟨key, digest, differs⟩⟩
      · cases outcome
    · intro row member key differs
      rw [append_existing member key, if_neg fun digest => never row member ⟨key, digest, differs⟩]

end LedgerStore

def retypedEnvelope : EventEnvelope := { sentEnvelope with payloadType := "retraction" }

theorem retyped_record_is_duplicate : ¬∀ (ledger : LedgerStore) (envelope : EventEnvelope), ledger.Deduplicates envelope := by
  intro always
  obtain ⟨after, appended⟩ : ∃ after, LedgerStore.empty.append sentEnvelope = .ok (.accepted 1, after) := ⟨_, rfl⟩
  have rows : after.records.rows = [⟨sentEnvelope, 1⟩] := by
    rcases LedgerStore.append_ok appended with ⟨_, _, _, outcome, _⟩ | ⟨_, _, written⟩
    · cases outcome
    · exact (LedgerStore.write_ok written).2.1
  have member : ⟨sentEnvelope, 1⟩ ∈ after.records.rows := by
    rw [rows]
    exact List.mem_cons_self
  have answered : after.append retypedEnvelope = _ := LedgerStore.append_existing member rfl
  obtain ⟨row, inside, _, _, agrees⟩ := (always after retypedEnvelope).duplicate 1 after answered
  rw [rows] at inside
  cases List.mem_singleton.mp inside
  exact absurd agrees.payloadType (by decide)

end MindLeak.Ackplane
