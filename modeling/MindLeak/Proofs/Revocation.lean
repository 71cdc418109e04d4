import MindLeak.Proofs.Streams

/-! When a revoked key ends a stream. The rejection that closes it comes from a
record's own key, and only from a record whose signature is looked at. -/

namespace MindLeak.Ackplane

open List

/-- A batch that comes to a record refused as revoked, behind records that the ledger
has already. -/
inductive CutOff (platform : Platform) : List V1.EventEnvelope → World → Prop
  | refused {wire : V1.EventEnvelope} {rest : List V1.EventEnvelope} {world : World}
      (revoked : RefusedAsRevoked platform wire world) : CutOff platform (wire :: rest) world
  | repeated {wire : V1.EventEnvelope} {rest : List V1.EventEnvelope} {world : World} {envelope : EventEnvelope}
      (admitted : Admits platform wire world envelope) (answering : world.asked.next.fault = none)
      (held : world.asked.turned.ledger.Holds envelope) (later : CutOff platform rest world.asked.turned) :
      CutOff platform (wire :: rest) world

def Session.KeyRevoked (session : Session) : Prop :=
  ∃ authentication ∈ session.authentication, session.world.Revoked authentication.signingKeyId

instance (session : Session) : Decidable session.KeyRevoked :=
  inferInstanceAs (Decidable (∃ authentication ∈ session.authentication, _))

def OnceRevoked (history : List (Entry Session StreamOp))
    (holds : Entry Session StreamOp → List V1.EventEnvelope → List Turn → Prop) : Prop :=
  ∀ entry ∈ history, ∀ identity events schedule, entry.op = .frame ⟨some (.eventBatch events)⟩ schedule →
    entry.before.running = true → entry.before.state = .authenticated identity → entry.before.KeyRevoked →
      holds entry events schedule

variable {world : World} {envelope : EventEnvelope}

namespace World
variable {after : World} {outcome : AppendOutcome}

theorem append_repeated (answering : world.next.fault = none) (held : world.turned.ledger.Holds envelope) :
    ∃ position, world.append envelope = (.ok (.duplicate position), world.turned) := by
  obtain ⟨row, found, same⟩ := LedgerStore.find?_of_holds held
  have answer : world.turned.ledger.append envelope = .ok (.duplicate row.streamPosition, world.turned.ledger) := by
    simp only [LedgerStore.append, LedgerStore.existing, found, Option.map_some, same, if_true, Except.map]
  have left : ({ world.turned with appended := world.appended } : World) = world.turned := by rw [← turned_appended]
  exact ⟨row.streamPosition, by simp [append, answering, answer, left]⟩

theorem append_answered (answered : world.append envelope = (.ok outcome, after)) : world.next.fault = none ∧
    (world.turned.ledger.Holds envelope ∧ after = world.turned ∨
      ¬world.turned.ledger.Holds envelope ∧ after.appended = world.appended ++ [envelope]) := by
  rcases world.append_cases envelope with ⟨_, ⟨error, failed⟩, _⟩ | ⟨responsive, given, ledger, done, left, said⟩
  · rw [answered] at failed
    cases failed
  · rw [answered] at left said
    have answering : world.next.fault = none := by
      cases fault : world.next.fault with
      | none => rfl
      | some fault' =>
        cases fault' with
        | refused => exact absurd fault responsive
        | unanswered => simp [fault] at said
    refine ⟨answering, ?_⟩
    have after' : after = _ := left
    rcases LedgerStore.append_ok done with ⟨row, found, same, rfl, rfl⟩ | ⟨fresh, rfl, _⟩
    · obtain ⟨member, key⟩ := Table.mem_of_find? found
      refine .inl ⟨⟨row, member, key, same⟩, ?_⟩
      simp only [after', AppendOutcome.disposition, reduceCtorEq, if_false, append_nil]
      rw [← turned_appended]
    · refine .inr ⟨fun held => ?_, by simp [after', AppendOutcome.disposition]⟩
      obtain ⟨row, found, _⟩ := LedgerStore.find?_of_holds held
      cases fresh.symm.trans found

end World

section
variable {platform : Platform} {wire : V1.EventEnvelope}

theorem Admits.not_refused (admitted : Admits platform wire world envelope) : ¬RefusedAsRevoked platform wire world := by
  rintro ⟨other, resolution, translated, resolved, refused⟩
  obtain ⟨resolution', resolved', stands⟩ := admitted.verified
  cases admitted.translated.symm.trans translated
  cases resolved'.symm.trans resolved
  cases stands.symm.trans refused

theorem process_cutOff (events : List V1.EventEnvelope) (receipts : List V1.RecordReceipt) (world : World) :
    (∃ rejection after, Batch.process (acceptEvent World.ports platform) events receipts world = (.error rejection, after) ∧
      rejection.reason = .nodeRevoked ∧ after.appended = world.appended) ↔ CutOff platform events world := by
  induction events generalizing receipts world with
  | nil =>
    constructor
    · rintro ⟨_, _, done, _⟩
      cases done
    · intro cut
      cases cut
  | cons wire rest ih =>
    rw [Batch.process]
    by_cases possible : ∃ envelope, Admits platform wire world envelope
    · obtain ⟨envelope, admitted⟩ := possible
      have same {other : EventEnvelope} (also : Admits platform wire world other) : other = envelope := by
        have translated := also.translated
        rw [admitted.translated] at translated
        exact (Except.ok.inj translated).symm
      rw [acceptEvent_admitted admitted]
      cases given : world.asked.append envelope with
      | mk answer after =>
        cases answer with
        | error error =>
          refine iff_of_false ?_ fun cut => ?_
          · rintro ⟨_, _, done, reason, _⟩
            cases done
            exact rejection_reason envelope.key error reason
          · cases cut with
            | refused revoked => exact admitted.not_refused revoked
            | repeated also answering held =>
              obtain ⟨position, answered⟩ := World.append_repeated answering held
              rw [same also, given] at answered
              cases answered
        | ok outcome =>
          obtain ⟨answering, ⟨held, rfl⟩ | ⟨absent, written⟩⟩ := World.append_answered given
          · have quiet : world.asked.turned.appended = world.appended := by simp
            have onward := ih (receipts ++ [receipt envelope.key outcome]) world.asked.turned
            rw [quiet] at onward
            refine onward.trans ⟨fun later => .repeated admitted answering held later, fun cut => ?_⟩
            cases cut with
            | refused revoked => exact absurd revoked admitted.not_refused
            | repeated _ _ _ later => exact later
          · refine iff_of_false ?_ fun cut => ?_
            · rintro ⟨rejection, last, done, _, kept⟩
              have grown := (process_grows platform rest (receipts ++ [receipt envelope.key outcome]) after).appended
              have done' : Batch.process (acceptEvent World.ports platform) rest
                  (receipts ++ [receipt envelope.key outcome]) after = (.error rejection, last) := done
              rw [done', kept, written, World.asked_appended] at grown
              have longer := grown.length_le
              rw [length_append, length_singleton] at longer
              omega
            · cases cut with
              | refused revoked => exact admitted.not_refused revoked
              | repeated also _ held =>
                rw [same also] at held
                exact absent held
    · obtain ⟨rejection, after, did, left, revoked⟩ := acceptEvent_refused (not_exists.mp possible)
      have quiet : after.appended = world.appended := by rcases left with ⟨rfl, _⟩ | ⟨rfl, _⟩ <;> simp
      rw [did]
      constructor
      · rintro ⟨_, _, done, reason, _⟩
        cases done
        exact .refused (revoked.mp reason)
      · intro cut
        cases cut with
        | refused refused => exact ⟨rejection, after, rfl, revoked.mpr refused, quiet⟩
        | repeated admitted => exact absurd ⟨_, admitted⟩ possible

theorem handleBatch_cutOff (events : List V1.EventEnvelope) (world : World) :
    (handleBatch World.ports platform events world).2.appended = world.appended ∧
        mustTerminateAfter (handleBatch World.ports platform events world).1 = true ↔ CutOff platform events world := by
  rw [← process_cutOff events [] world]
  unfold handleBatch
  split
  next receipts after done =>
    refine iff_of_false (fun ⟨_, closes⟩ => ?_) ?_
    · simp [mustTerminateAfter] at closes
    · rintro ⟨_, _, refused, _⟩
      cases done.symm.trans refused
  next rejection after done =>
    rw [done]
    simp only [mustTerminateAfter, any_cons, any_nil, Bool.or_false, decide_eq_true_eq]
    constructor
    · rintro ⟨kept, reason⟩
      exact ⟨rejection, after, rfl, reason, kept⟩
    · rintro ⟨_, _, same, reason, kept⟩
      cases same
      exact ⟨kept, reason⟩

end

section
variable {service : Service} {session : Session}

/-- Every batch taken after a revocation writes nothing and ends the stream, exactly when each
of them is cut off. -/
theorem revocation_ends_the_stream {ledger : LedgerStore} {keys : SigningKeys} {history : List (Entry Session StreamOp)}
    (run : (synchronize service ledger keys).Run history session) :
    (OnceRevoked history fun entry _ _ =>
        entry.after.world.appended = entry.before.world.appended ∧ entry.after.running = false) ↔
      OnceRevoked history fun entry events schedule =>
        CutOff service.platform events (entry.before.scheduled schedule).world := by
  refine forall₂_congr fun entry member => forall₃_congr fun identity events schedule => ?_
  refine forall_congr' fun framed => forall_congr' fun running => forall_congr' fun opened => forall_congr' fun _ => ?_
  have left := (run.entry_good (fun _ => True) trivial (fun _ _ _ => trivial) member).2
  have moved : entry.after = (entry.before.scheduled schedule).receive service ⟨some (.eventBatch events)⟩ := by
    rw [left, framed]
    exact Session.perform_frame running
  have opened' : (entry.before.scheduled schedule).state = .authenticated identity := opened
  beta_reduce
  rw [moved, receive_batch service opened', ← handleBatch_cutOff]
  refine and_congr Iff.rfl ?_
  simp [Session.answer, opened]

end

def revoking : Session → StreamOp := fun _ => .outside (.revoke ⟨"key:1", "leaked"⟩ 0)

theorem revocation_ends_a_signing_stream :
    ((synchronize plainService .empty enrolledKeys).replay [revoking, answering, greeting]).2.KeyRevoked ∧
      OnceRevoked ((synchronize plainService .empty enrolledKeys).replay
          [sending [enrolledRecord], revoking, answering, greeting]).1 fun entry _ _ =>
        entry.after.world.appended = entry.before.world.appended ∧ entry.after.running = false := by
  refine ⟨by decide +kernel, (revocation_ends_the_stream (synchronize_replay _ _ _ _)).mpr ?_⟩
  refine forall_mem_cons.mpr ⟨?_, forall_mem_cons.mpr ⟨?_, forall_mem_cons.mpr ⟨?_,
    forall_mem_cons.mpr ⟨?_, ?_⟩⟩⟩⟩
  · intro identity events schedule framed _ _ _
    cases framed
    obtain ⟨envelope, translated⟩ : ∃ envelope, translate plainPlatform enrolledRecord = .ok envelope := ⟨_, rfl⟩
    obtain ⟨key, classed⟩ := translate_ok translated
    have enrolled : envelope.provenance = .enrolledNode := (Option.some.inj classed).symm
    refine .refused ⟨envelope, .revoked, translated, ?_, ?_⟩
    · rw [key]
      decide +kernel
    · rw [enrolled]
      decide +kernel
  · intro identity events schedule framed
    cases framed
  · intro identity events schedule framed
    cases framed
  · intro identity events schedule framed
    cases framed
  · intro entry member
    cases member

def unverifiedRecord : V1.EventEnvelope := { enrolledRecord with signingKeyId := "", signature := [], provenance := 1 }

theorem revoked_stream_writes_on :
    ¬ ∀ service ledger keys history session, (synchronize service ledger keys).Run history session →
      OnceRevoked history fun entry _ _ =>
        entry.after.world.appended = entry.before.world.appended ∧ entry.after.running = false := by
  intro ends
  have run := synchronize_replay plainService .empty enrolledKeys [sending [unverifiedRecord], revoking, answering, greeting]
  have quiet := (ends _ _ _ _ _ run _ mem_cons_self ⟨"acme", "repo", "node-1"⟩ _ _ rfl (by decide +kernel)
    (by decide +kernel) (by decide +kernel)).1
  exact absurd quiet (by decide +kernel)

end MindLeak.Ackplane
