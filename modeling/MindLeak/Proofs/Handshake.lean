import MindLeak.Proofs.Streams

/-! The gate before a stream: who greets, is challenged and answers, in that order
and with nothing between. -/

namespace MindLeak.Ackplane

open List Session

def ConnectionState.expects : ConnectionState → V1.NodeFrame → Bool
  | .awaitingHello, ⟨some (.hello _)⟩ => true
  | .awaitingChallengeResponse _ _ _ _, ⟨some (.challengeResponse _)⟩ => true
  | .authenticated _, ⟨some (.hello _)⟩ => false
  | .authenticated _, ⟨some (.challengeResponse _)⟩ => false
  | .authenticated _, ⟨some _⟩ => true
  | _, _ => false

def taken (history : List (Entry Session StreamOp)) : List (Entry Session StreamOp) :=
  history.reverse.filter fun entry =>
    match entry.op with
    | .frame _ _ => entry.before.running
    | _ => false

def Answers (platform : Platform) (world : World) (binding : ConnectionChallengeBinding) (response : V1.ChallengeResponse) :
    Prop :=
  ∃ row ∈ world.asked.keys.rows, row.lifecycle.record.signingKeyId = binding.signingKeyId ∧
    row.lifecycle.InForce binding.identity world.next.clock ∧
    verifyConnectionChallenge platform row.lifecycle.record.publicKey response.signature binding = true

/-- The stream began with a greeting, and right behind it an answer to its challenge. -/
def ShookHands (service : Service) (history : List (Entry Session StreamOp)) : Prop :=
  ∃ first second rest hello response nonce firstTurns turns, taken history = first :: second :: rest ∧
    first.op = .frame ⟨some (.hello hello)⟩ firstTurns ∧
    second.op = .frame ⟨some (.challengeResponse response)⟩ turns ∧ second.before.sent = [.connectionChallenge nonce] ∧
    Answers service.platform (second.before.scheduled turns).world
      ⟨nonce, ⟨hello.tenantId, hello.repositoryId, hello.producerId⟩, hello.signingKeyId⟩ response

structure HandshakeGate (service : Service) (history : List (Entry Session StreamOp)) (session : Session) : Prop where
  gate : session.world.appended ≠ [] ∨ session.served ≠ [] → ShookHands service history
  order : ∀ entry ∈ history, ∀ frame schedule, entry.op = .frame frame schedule → entry.before.running = true →
    entry.before.state.expects frame = false → entry.after.state = .rejected
  absorbing : ∀ before frame, before.state = .rejected →
    Session.receive service before frame = { before with running := false }

def Payloads (history : List (Entry Session StreamOp)) : Prop :=
  ∀ entry ∈ history, ∀ frame schedule, entry.op = .frame frame schedule → entry.before.running = true → frame.frame.isSome

section
variable {service : Service} {session after : Session} {frame : V1.NodeFrame} {history : List (Entry Session StreamOp)}

theorem receive_rejected (service : Service) (frame : V1.NodeFrame) (rejected : session.state = .rejected) :
    session.receive service frame = { session with running := false } := by
  have silent : handleFrame World.ports service.platform frame service.flowControl .rejected session.world =
      (.rejected, [], session.world) := by
    obtain ⟨content⟩ := frame
    cases content with
    | none => rfl
    | some inner => cases inner <;> rfl
  have own : session.receive service frame = session.handle service frame := by
    simp only [receive, rejected]
  rw [own, handle_eq, rejected, silent]
  simp [moved, answer, ConnectionState.proves, rejected]

theorem routed_expected {inner : V1.Frame} (identity : Identity) (routed : service.route inner ≠ .connection) :
    (ConnectionState.authenticated identity).expects ⟨some inner⟩ = true := by
  cases inner with
  | hello | challengeResponse => exact absurd rfl routed
  | _ => rfl

theorem Received.unexpected (received : Received service session frame after) (payload : frame.frame.isSome)
    (out : session.state.expects frame = false) : after.state = .rejected := by
  cases received with
  | empty => cases payload
  | challenged waiting | proved waiting => simp [ConnectionState.expects, waiting] at out
  | refused => rfl
  | ended rejected => exact rejected
  | heartbeat opened | batch opened => simp [ConnectionState.expects, opened] at out
  | @store identity inner opened route | @unavailable identity inner _ opened route =>
    rw [opened, routed_expected identity (by rw [route]; simp)] at out
    cases out

theorem Received.silent (received : Received service session ⟨none⟩ after) : after.state = session.state := by
  cases received with
  | empty | ended => rfl

theorem lookup_resolved {world : World} {signingKeyId : String} {identity : Identity} {record : SigningKeyRecord}
    (resolved : world.resolution signingKeyId identity = .ok (.resolved record)) :
    ∃ row ∈ world.asked.keys.rows, row.lifecycle.record.signingKeyId = signingKeyId ∧
      row.lifecycle.InForce identity world.next.clock ∧ record = row.lifecycle.record := by
  obtain ⟨_, resolved⟩ := ite_else resolved
  have found := Except.ok.inj resolved
  unfold SigningKeys.resolve at found
  split at found
  · cases found
  rename_i row there
  obtain ⟨member, named⟩ := Table.mem_of_find? there
  obtain ⟨same, inForce⟩ := judge_resolved found
  exact ⟨row, member, named, inForce, same⟩

theorem ShookHands.later {entry : Entry Session StreamOp} (shook : ShookHands service history) :
    ShookHands service (entry :: history) := by
  obtain ⟨first, second, rest, hello, response, nonce, firstTurns, turns, began, proof⟩ := shook
  have kept : ∃ more, taken (entry :: history) = taken history ++ more := by
    unfold taken
    rw [reverse_cons, filter_append]
    exact ⟨_, rfl⟩
  obtain ⟨more, later⟩ := kept
  exact ⟨first, second, rest ++ more, hello, response, nonce, firstTurns, turns, by rw [later, began]; rfl, proof⟩

/-- How far the handshake has come, by where the stream stands. -/
def Progress (service : Service) (history : List (Entry Session StreamOp)) (session : Session) : Prop :=
  match session.state with
  | .awaitingHello => taken history = [] ∧ session.sent = []
  | .awaitingChallengeResponse nonce identity signingKeyId _ =>
    (∃ first hello turns, taken history = [first] ∧ first.op = .frame ⟨some (.hello hello)⟩ turns ∧
      identity = ⟨hello.tenantId, hello.repositoryId, hello.producerId⟩ ∧ signingKeyId = hello.signingKeyId) ∧
      session.sent = [.connectionChallenge nonce]
  | .authenticated _ => ShookHands service history
  | .rejected => session.authentication.isSome → ShookHands service history

theorem Progress.shook (progress : Progress service history session) (sound : session.Sound)
    (proved : session.authentication.isSome) : ShookHands service history := by
  unfold Progress at progress
  unfold Session.Sound at sound
  split at progress
  next waiting =>
    simp only [waiting] at sound
    rw [sound.1] at proved
    cases proved
  next waiting =>
    simp only [waiting] at sound
    rw [sound.1] at proved
    cases proved
  next => exact progress
  next => exact progress proved

theorem Progress.kept {identity : Identity} {entry : Entry Session StreamOp} (progress : Progress service history session)
    (opened : session.state = .authenticated identity) (same : after.state = session.state) :
    Progress service (entry :: history) after := by
  simp only [Progress, opened] at progress
  simp only [Progress, same, opened]
  exact progress.later

theorem taken_frame (history : List (Entry Session StreamOp)) (frame : V1.NodeFrame) (schedule : List Turn)
    {before : Session} (after : Session) (running : before.running = true) :
    taken (⟨before, .frame frame schedule, after⟩ :: history) =
      taken history ++ [⟨before, .frame frame schedule, after⟩] := by
  simp [taken, running]

theorem Progress.received {schedule : List Turn} (sound : session.Sound) (running : session.running = true)
    (payload : frame.frame.isSome) (progress : Progress service history session)
    (received : Received service (session.scheduled schedule) frame after) :
    Progress service (⟨session, .frame frame schedule, after⟩ :: history) after := by
  have recorded := taken_frame history frame schedule after running
  cases received with
  | empty => cases payload
  | @challenged hello nonce waiting =>
    rw [scheduled_state] at waiting
    simp only [Progress, waiting] at progress
    rw [progress.1, nil_append] at recorded
    refine ⟨⟨_, hello, schedule, recorded, rfl, rfl, rfl⟩, ?_⟩
    rw [answer_sent, scheduled_sent, progress.2, nil_append]
  | @proved response nonce identity signingKeyId _ record waiting resolved signed =>
    rw [scheduled_state] at waiting
    simp only [Progress, waiting] at progress
    obtain ⟨⟨first, hello, turns, began, greeting, rfl, rfl⟩, sent⟩ := progress
    obtain ⟨row, member, named, inForce, rfl⟩ := lookup_resolved resolved
    rw [began, singleton_append] at recorded
    exact ⟨first, _, [], hello, response, nonce, turns, schedule, recorded, greeting, rfl, sent, row, member, named, inForce,
      signed⟩
  | refused => exact fun proved => (progress.shook sound proved).later
  | ended rejected =>
    simp only [Session.Sound, show session.state = .rejected from rejected, running] at sound
    cases sound.1
  | heartbeat opened | batch opened | store opened | unavailable opened => exact progress.kept opened rfl

theorem Progress.unmoved {later : List (Entry Session StreamOp)} (progress : Progress service history session)
    (same : taken later = taken history) (state : after.state = session.state) (sent : after.sent = session.sent)
    (authentication : after.authentication = session.authentication) : Progress service later after := by
  unfold Progress ShookHands at *
  rw [state, sent, authentication, same]
  exact progress

theorem progress_of_run {ledger : LedgerStore} {keys : SigningKeys}
    (run : (synchronize service ledger keys).Run history session) (payloads : Payloads history) :
    session.Sound ∧ Progress service history session := by
  induction run with
  | start => exact ⟨⟨rfl, rfl, rfl⟩, rfl, rfl⟩
  | @step history session past op ready ih =>
    obtain ⟨sound, progress⟩ := ih fun entry member => payloads entry (mem_cons_of_mem _ member)
    refine ⟨sound.perform op, ?_⟩
    have now := payloads _ mem_cons_self
    cases op with
    | outside | hangUp => exact progress.unmoved (by simp [taken]) rfl rfl rfl
    | frame frame schedule =>
      by_cases running : session.running = true
      · have received := receive_received service (session.scheduled schedule) frame
        have same : (synchronize service ledger keys).apply session (.frame frame schedule) =
            (session.scheduled schedule).receive service frame := perform_frame running
        rw [same]
        exact progress.received sound running (now frame schedule rfl running) received
      · have same : (synchronize service ledger keys).apply session (.frame frame schedule) = session :=
          if_neg running
        rw [same]
        exact progress.unmoved (by simp [taken, running]) rfl rfl rfl

/-- A stream keeps its gate exactly when every frame that it takes has a payload. -/
theorem handshake_gates_the_stream {ledger : LedgerStore} {keys : SigningKeys}
    (run : (synchronize service ledger keys).Run history session) :
    HandshakeGate service history session ↔ Payloads history := by
  have moves : ∀ entry ∈ history, ∀ frame schedule, entry.op = .frame frame schedule → entry.before.running = true →
      entry.before.Sound ∧ entry.after = (entry.before.scheduled schedule).receive service frame := by
    intro entry member frame schedule framed running
    obtain ⟨sound, left⟩ := run.entry_good Session.Sound ⟨rfl, rfl, rfl⟩ (fun before op kept => kept.perform op) member
    refine ⟨sound, ?_⟩
    rw [left, framed]
    exact Session.perform_frame running
  constructor
  · intro gated entry member frame schedule framed running
    by_contra absent
    obtain ⟨sound, left⟩ := moves entry member frame schedule framed running
    obtain ⟨content⟩ := frame
    cases Option.not_isSome_iff_eq_none.mp absent
    have unexpected : entry.before.state.expects ⟨none⟩ = false := by cases entry.before.state <;> rfl
    have rejected := gated.order entry member ⟨none⟩ schedule framed running unexpected
    rw [left, (receive_received service (entry.before.scheduled schedule) ⟨none⟩).silent] at rejected
    simp only [Session.Sound, show entry.before.state = .rejected from rejected, running] at sound
    cases sound.1
  · intro payloads
    obtain ⟨sound, progress⟩ := progress_of_run run payloads
    refine ⟨fun passed => ?_, ?_, fun before frame => receive_rejected service frame⟩
    · refine progress.shook sound ?_
      by_contra unproved
      obtain ⟨appended, served⟩ := sound.unproved (Option.not_isSome_iff_eq_none.mp unproved)
      exact passed.elim (absurd appended) (absurd served)
    · intro entry member frame schedule framed running unexpected
      rw [(moves entry member frame schedule framed running).2]
      exact (receive_received service _ frame).unexpected (payloads entry member frame schedule framed running) unexpected

end

theorem handshake_gates_a_brief_stream :
    ((synchronize plainService .empty enrolledKeys).replay briefStream).2.world.appended.length = 1 ∧
      HandshakeGate plainService ((synchronize plainService .empty enrolledKeys).replay briefStream).1
        ((synchronize plainService .empty enrolledKeys).replay briefStream).2 := by
  refine ⟨briefStream_reads.1, (handshake_gates_the_stream (synchronize_replay _ _ _ briefStream)).mpr ?_⟩
  refine forall_mem_cons.mpr ⟨?_, forall_mem_cons.mpr ⟨?_, forall_mem_cons.mpr ⟨?_, ?_⟩⟩⟩
  · intro frame schedule framed _
    cases framed
    rfl
  · intro frame schedule framed _
    cases framed
    rfl
  · intro frame schedule framed _
    cases framed
    rfl
  · intro entry member
    cases member

def interruptedStream : List (Session → StreamOp) :=
  [sending [enrolledRecord], answering, fun _ => .frame ⟨none⟩ [], greeting]

theorem stream_passes_over_empty_frames :
    ¬ ∀ service ledger keys history session, (synchronize service ledger keys).Run history session →
      HandshakeGate service history session := by
  intro gated
  have run := synchronize_replay plainService .empty enrolledKeys interruptedStream
  obtain ⟨appended, order⟩ : let session := (synchronize plainService .empty enrolledKeys).replay interruptedStream
      session.2.world.appended ≠ [] ∧ (taken session.1)[1]?.map Entry.op = some (.frame ⟨none⟩ []) := by decide +kernel
  obtain ⟨first, second, rest, hello, response, nonce, firstTurns, turns, began, _, answered, _⟩ :=
    (gated _ _ _ _ _ run).gate (.inl appended)
  rw [began] at order
  cases answered.symm.trans (Option.some.inj order)

end MindLeak.Ackplane
