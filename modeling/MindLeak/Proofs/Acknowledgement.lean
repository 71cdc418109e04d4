import MindLeak.Proofs.Streams

/-! What a batch's answer says of the ledger. Receipts go out with a batch that went
through, and are lost with one that did not. -/

namespace MindLeak.Ackplane

open List World

def Receipted (responses : List V1.AckplaneFrame) (key : DedupKey) : Prop :=
  ∃ receipts, V1.AckplaneFrame.batchReceipt receipts ∈ responses ∧ ∃ receipt ∈ receipts, receipt.recordId = recordIdentity key

/-- What is in the ledger when a batch has been handled is what its answer says, and no
record that went in loses its receipt to another. -/
structure AcknowledgesExactly (platform : Platform) (events : List V1.EventEnvelope) (world : World) : Prop where
  held_iff : ∀ wire ∈ events, ∀ envelope, translate platform wire = .ok envelope →
    ((handleBatch World.ports platform events world).2.ledger.Holds envelope ↔
      Receipted (handleBatch World.ports platform events world).1 envelope.key)
  kept : ∀ visit ∈ Batch.met (acceptEvent World.ports platform) events world, ∀ receipt,
    (acceptEvent World.ports platform visit.1 visit.2).1 = .ok receipt →
      ∃ receipts, V1.AckplaneFrame.batchReceipt receipts ∈ (handleBatch World.ports platform events world).1 ∧
        receipt ∈ receipts

/-- A record that is let in, and that the ledger answers for. -/
def GoesThrough (platform : Platform) (wire : V1.EventEnvelope) (world : World) : Prop :=
  ∃ envelope, Admits platform wire world envelope ∧ world.asked.next.fault = none ∧
    ∃ answer, world.asked.turned.ledger.append envelope = .ok answer

/-- A record that is refused with nothing written, in the world that others then have made. -/
inductive Stops (platform : Platform) (wire : V1.EventEnvelope) (world : World) : World → Prop
  | malformed {rejection : V1.Rejection} (refused : translate platform wire = .error rejection) : Stops platform wire world world
  | unverified {envelope : EventEnvelope} (translated : translate platform wire = .ok envelope)
      (refused : ¬Admits platform wire world envelope) : Stops platform wire world world.asked
  | failed {envelope : EventEnvelope} (admitted : Admits platform wire world envelope)
      (failed : world.asked.next.fault = some .refused ∨
        ∃ error, world.asked.turned.ledger.append envelope = .error error) : Stops platform wire world world.asked.turned

/-- The first record stops the batch, and none of its records is in the ledger by then. -/
def StopsEmpty (platform : Platform) (events : List V1.EventEnvelope) (world : World) : Prop :=
  ∃ wire rest after, events = wire :: rest ∧ Stops platform wire world after ∧
    ∀ other ∈ events, ∀ envelope, translate platform other = .ok envelope → ¬after.ledger.Holds envelope

section
variable {platform : Platform} {wire : V1.EventEnvelope} {world after : World} {envelope : EventEnvelope}
  {events : List V1.EventEnvelope} {answer : V1.RecordReceipt}

theorem Stops.refuses (stops : Stops platform wire world after) :
    ∃ rejection, acceptEvent ports platform wire world = (.error rejection, after) := by
  cases stops with
  | @malformed rejection refused => exact ⟨rejection, by simp only [acceptEvent, refused]⟩
  | @unverified envelope translated refused =>
    have never : ∀ other, ¬Admits platform wire world other := by
      intro other admitted
      have same := admitted.translated
      cases translated.symm.trans same
      exact refused admitted
    obtain ⟨rejection, left, did, ⟨_, malformed, bad⟩ | ⟨rfl, _⟩, _⟩ := acceptEvent_refused never
    · cases translated.symm.trans bad
    · exact ⟨rejection, did⟩
  | @failed envelope admitted failed =>
    rcases world.asked.append_cases envelope with ⟨left, ⟨error, said⟩, _⟩ | ⟨responsive, outcome, ledger, done, _⟩
    · exact ⟨rejection envelope.key error, acceptEvent_failed admitted (Prod.ext said left)⟩
    rcases failed with refused | ⟨error, failed⟩
    · exact absurd refused responsive
    · cases done.symm.trans failed

theorem acceptEvent_fate (platform : Platform) (wire : V1.EventEnvelope) (world : World) :
    (GoesThrough platform wire world ∧ ∃ answer after, acceptEvent ports platform wire world = (.ok answer, after) ∧
        ∀ envelope, translate platform wire = .ok envelope →
          after.ledger.Holds envelope ∧ answer.recordId = recordIdentity envelope.key) ∨
      (∃ after, Stops platform wire world after) ∨
      ∃ envelope rejection after, translate platform wire = .ok envelope ∧
        acceptEvent ports platform wire world = (.error rejection, after) ∧ after.ledger.Holds envelope := by
  cases translated : translate platform wire with
  | error rejection => exact .inr (.inl ⟨world, .malformed translated⟩)
  | ok envelope =>
    by_cases admitted : Admits platform wire world envelope
    · rcases world.asked.append_cases envelope with ⟨_, _, failed⟩ | ⟨responsive, outcome, ledger, done, left, said⟩
      · refine .inr (.inl ⟨world.asked.turned, .failed admitted ?_⟩)
        by_cases refused : world.asked.next.fault = some .refused
        · exact .inl refused
        · exact .inr (failed refused)
      · have held : (world.asked.append envelope).2.ledger.Holds envelope := by
          rw [left]
          exact LedgerStore.append_holds done
        by_cases lost : world.asked.next.fault = some .unanswered
        · rw [if_pos lost] at said
          exact .inr (.inr ⟨envelope, _, _, rfl, acceptEvent_failed admitted (Prod.ext said rfl), held⟩)
        · rw [if_neg lost] at said
          have answering : world.asked.next.fault = none := by
            cases fault : world.asked.next.fault with
            | none => rfl
            | some fault' =>
              cases fault' with
              | refused => exact absurd fault responsive
              | unanswered => exact absurd fault lost
          refine .inl ⟨⟨envelope, admitted, answering, _, done⟩, _, _,
            acceptEvent_answered admitted (Prod.ext said rfl), ?_⟩
          intro other same
          cases same
          exact ⟨held, rfl⟩
    · exact .inr (.inl ⟨world.asked, .unverified translated admitted⟩)

theorem acceptEvent_ok (did : acceptEvent ports platform wire world = (.ok answer, after)) :
    GoesThrough platform wire world ∧ ∀ envelope, translate platform wire = .ok envelope →
      after.ledger.Holds envelope ∧ answer.recordId = recordIdentity envelope.key := by
  rcases acceptEvent_fate platform wire world with ⟨goes, _, _, same, held⟩ | ⟨_, stops⟩ | ⟨_, _, _, _, failed, _⟩
  · cases did.symm.trans same
    exact ⟨goes, held⟩
  · obtain ⟨_, refused⟩ := stops.refuses
    cases did.symm.trans refused
  · cases did.symm.trans failed

theorem GoesThrough.answers (goes : GoesThrough platform wire world) :
    ∃ answer after, acceptEvent ports platform wire world = (.ok answer, after) := by
  obtain ⟨envelope, admitted, answering, answer, done⟩ := goes
  rcases world.asked.append_cases envelope with ⟨_, _, failed⟩ | ⟨_, outcome, ledger, _, _, said⟩
  · obtain ⟨error, failed⟩ := failed (by rw [answering]; simp)
    cases done.symm.trans failed
  · rw [if_neg (by rw [answering]; simp)] at said
    exact ⟨_, _, acceptEvent_answered admitted (Prod.ext said rfl)⟩

theorem not_receipted (refusal : V1.Rejection) (key : DedupKey) : ¬Receipted [.rejection refusal] key := by
  rintro ⟨receipts, member, _⟩
  cases mem_singleton.mp member

theorem handleBatch_ok {receipts : List V1.RecordReceipt}
    (passes : Batch.Passes (acceptEvent ports platform) events world receipts after) :
    handleBatch ports platform events world = ([.batchReceipt receipts], after) := by
  have done : Batch.process (acceptEvent ports platform) events [] world = (.ok receipts, after) :=
    Batch.process_ok_iff.mpr ⟨receipts, rfl, passes⟩
  simp only [handleBatch, done]

theorem handleBatch_error {refusal : V1.Rejection}
    (done : Batch.process (acceptEvent ports platform) events [] world = (.error refusal, after)) :
    handleBatch ports platform events world = ([.rejection refusal], after) := by
  simp only [handleBatch, done]

theorem passes_acknowledges {receipts : List V1.RecordReceipt}
    (passes : Batch.Passes (acceptEvent ports platform) events world receipts after) :
    AcknowledgesExactly platform events world := by
  have done := handleBatch_ok passes
  constructor
  · intro wire member envelope translated
    rw [done]
    obtain ⟨found, answer, middle, rest, later, _, listed, did, onward⟩ := passes.item member
    obtain ⟨held, named⟩ := (acceptEvent_ok did).2 envelope translated
    have grown : middle.Grows after := onward.keeps middle.Grows
      (fun wire found grown => grown.trans (acceptEvent_grows platform wire found)) (.refl middle)
    exact iff_of_true (grown.holds held) ⟨receipts, mem_singleton.mpr rfl, answer, listed, named⟩
  · intro visit member receipt did
    obtain ⟨answer, listed, same⟩ := passes.answered visit member
    cases did.symm.trans same
    rw [done]
    exact ⟨receipts, mem_singleton.mpr rfl, listed⟩

/-- A batch is acknowledged exactly when all of it goes through, or its first record stops
it with none of it in the ledger. -/
theorem batch_acknowledged_exactly (platform : Platform) (events : List V1.EventEnvelope) (world : World) :
    AcknowledgesExactly platform events world ↔
      (∀ visit ∈ Batch.met (acceptEvent World.ports platform) events world, GoesThrough platform visit.1 visit.2) ∨
        StopsEmpty platform events world := by
  cases done : Batch.process (acceptEvent World.ports platform) events [] world with
  | mk result after =>
    cases result with
    | ok receipts =>
      obtain ⟨given, rfl, passes⟩ := Batch.process_ok_iff.mp done
      refine iff_of_true (passes_acknowledges passes) (.inl fun visit member => ?_)
      obtain ⟨answer, _, did⟩ := passes.answered visit member
      exact (acceptEvent_ok (Prod.ext did rfl)).1
    | error refusal =>
      obtain ⟨before, stopped, rest, given, found, split, passes, refused⟩ := Batch.process_error_iff.mp done
      have answered := handleBatch_error done
      constructor
      · intro acknowledged
        have none_held : ∀ wire ∈ events, ∀ envelope, translate platform wire = .ok envelope →
            ¬after.ledger.Holds envelope := by
          intro wire member envelope translated held
          have receipted := (acknowledged.held_iff wire member envelope translated).mp (by rw [answered]; exact held)
          rw [answered] at receipted
          exact not_receipted refusal envelope.key receipted
        subst split
        cases passes with
        | nil =>
          rcases acceptEvent_fate platform stopped world with ⟨_, _, _, did, _⟩ | ⟨left, stops⟩ | ⟨envelope, _, _, translated, lost, held⟩
          · rw [refused] at did
            cases did
          · obtain ⟨_, did⟩ := stops.refuses
            rw [refused] at did
            cases did
            exact .inr ⟨stopped, rest, after, rfl, stops, none_held⟩
          · rw [refused] at lost
            cases lost
            exact absurd held (none_held stopped mem_cons_self envelope translated)
        | @cons item _ _ _ _ middle _ first later =>
          -- What went in ahead of the refused record is still there.
          obtain ⟨⟨envelope, admitted, _⟩, held⟩ := acceptEvent_ok first
          have grown : middle.Grows after := by
            have onward := later.keeps middle.Grows
              (fun wire found grown => grown.trans (acceptEvent_grows platform wire found)) (.refl middle)
            have last := acceptEvent_grows platform stopped found
            rw [refused] at last
            exact onward.trans last
          exact absurd (grown.holds (held envelope admitted.translated).1)
            (none_held item mem_cons_self envelope admitted.translated)
      · rintro (goes | ⟨wire, tail, left, rfl, stops, absent⟩)
        · have visited : (stopped, found) ∈ Batch.met (acceptEvent World.ports platform) events world :=
            Batch.mem_met.mpr ⟨before, rest, given, split, passes⟩
          obtain ⟨_, _, did⟩ := (goes _ visited).answers
          rw [refused] at did
          cases did
        · obtain ⟨refusal', first⟩ := stops.refuses
          rw [Batch.process, first] at done
          cases done
          constructor
          · intro other member envelope translated
            rw [answered]
            exact iff_of_false (absent other member envelope translated) (not_receipted refusal envelope.key)
          · intro visit member receipt did
            rw [Batch.met, first] at member
            cases mem_singleton.mp member
            rw [first] at did
            cases did

end

def spoiltRecord : V1.EventEnvelope := { enrolledRecord with producerSequence := 2, schemaVersion := "" }

theorem batch_loses_receipts : ¬ ∀ platform events world, AcknowledgesExactly platform events world := by
  intro acknowledged
  obtain ⟨receipts, sent, _⟩ := (acknowledged plainPlatform [enrolledRecord, spoiltRecord] ⟨.empty, enrolledKeys, [], []⟩).kept
    _ mem_cons_self ⟨"acme/repo/node-1@1", 1, .accepted⟩ (by decide +kernel)
  cases mem_singleton.mp sent

end MindLeak.Ackplane
