import MindLeak.Proofs.Batches

/-! What one frame can do to a stream. -/

namespace MindLeak.Ackplane

open Option World

variable {session : Session}

namespace Session
variable {responses : List V1.AckplaneFrame}

@[simp] theorem answer_world : (session.answer responses).world = session.world := rfl
@[simp] theorem answer_state : (session.answer responses).state = session.state := rfl
@[simp] theorem answer_sent : (session.answer responses).sent = session.sent ++ responses := rfl
@[simp] theorem scheduled_state (schedule : List Turn) : (session.scheduled schedule).state = session.state := rfl
@[simp] theorem scheduled_sent (schedule : List Turn) : (session.scheduled schedule).sent = session.sent := rfl

end Session

/-- The world after a refusal: asked or not, nothing was written. -/
def Untouched (before after : World) : Prop := after = before ∨ after = before.turned ∨ after = before.asked

inductive Received (service : Service) (session : Session) : V1.NodeFrame → Session → Prop
  | empty : Received service session ⟨none⟩ (session.answer [])
  | challenged {hello : V1.Hello} {nonce : Bytes} (waiting : session.state = .awaitingHello)
      (drawn : session.world.next.nonce = some nonce) :
      Received service session ⟨some (.hello hello)⟩
        ({ session with
          world := session.world.turned
          state := .awaitingChallengeResponse nonce ⟨hello.tenantId, hello.repositoryId, hello.producerId⟩
            hello.signingKeyId hello.lastAcceptedPosition }.answer [.connectionChallenge nonce])
  | proved {response : V1.ChallengeResponse} {nonce : Bytes} {identity : Identity} {signingKeyId : String}
      {lastAcceptedPosition : UInt64} {record : SigningKeyRecord}
      (waiting : session.state = .awaitingChallengeResponse nonce identity signingKeyId lastAcceptedPosition)
      (resolved : session.world.resolution signingKeyId identity = .ok (.resolved record))
      (signed : verifyConnectionChallenge service.platform record.publicKey response.signature
        ⟨nonce, identity, signingKeyId⟩ = true) :
      Received service session ⟨some (.challengeResponse response)⟩
        ({ session with
          world := session.world.asked
          state := .authenticated identity
          authentication := some ⟨identity, signingKeyId⟩ }.answer
            [.helloAccepted lastAcceptedPosition [], .flowControl service.flowControl])
  | refused {frame : V1.Frame} {world : World} {refusal : V1.Rejection} (untouched : Untouched session.world world) :
      Received service session ⟨some frame⟩ ({ session with world, state := .rejected }.answer [.rejection refusal])
  | ended {frame : V1.NodeFrame} (rejected : session.state = .rejected) :
      Received service session frame (session.answer [])
  | heartbeat {identity : Identity} {lastAcceptedPosition : UInt64} (opened : session.state = .authenticated identity) :
      Received service session ⟨some (.heartbeat lastAcceptedPosition)⟩ (session.answer [])
  | batch {identity : Identity} {events : List V1.EventEnvelope} (opened : session.state = .authenticated identity) :
      Received service session ⟨some (.eventBatch events)⟩
        ({ session with world := (handleBatch World.ports service.platform events session.world).2 }.answer
          (handleBatch World.ports service.platform events session.world).1)
  | store {identity : Identity} {frame : V1.Frame} (opened : session.state = .authenticated identity)
      (route : service.route frame = .store) :
      Received service session ⟨some frame⟩
        ({ session with
          world := session.world.turned
          served := session.served ++ [(identity, frame)] }.answer session.world.next.replies)
  | unavailable {identity : Identity} {frame : V1.Frame} {refusal : V1.AckplaneFrame}
      (opened : session.state = .authenticated identity) (route : service.route frame = .unavailable refusal) :
      Received service session ⟨some frame⟩ (session.answer [refusal])

variable {service : Service} {frame : V1.NodeFrame}

section
variable {inner : V1.Frame}

def Session.moved (session : Session) (step : ConnectionState × List V1.AckplaneFrame × World) : Session :=
  { session with
    world := step.2.2
    state := step.1
    authentication := (session.state.proves step.1).or session.authentication }.answer step.2.1

theorem Session.handle_eq (service : Service) (session : Session) (frame : V1.NodeFrame) : session.handle service frame =
    session.moved (handleFrame ports service.platform frame service.flowControl session.state session.world) := rfl

theorem Session.moved_same (session : Session) (responses : List V1.AckplaneFrame) :
    session.moved (session.state, responses, session.world) = session.answer responses := by
  have none : session.state.proves session.state = none := by cases session.state <;> rfl
  simp only [moved, none, none_or]

theorem Session.moved_rejected (session : Session) {world : World} (refusal : V1.Rejection)
    (untouched : Untouched session.world world) :
    Received service session ⟨some inner⟩ (session.moved (.rejected, [.rejection refusal], world)) := by
  have none : session.state.proves .rejected = none := by cases session.state <;> rfl
  simp only [moved, none, none_or]
  exact .refused untouched

theorem hello_received {hello : V1.Hello} (waiting : session.state = .awaitingHello) :
    Received service session ⟨some (.hello hello)⟩ (session.moved (handleHello ports hello session.world)) := by
  unfold handleHello
  split
  · exact session.moved_rejected _ (.inl rfl)
  cases drawn : session.world.next.nonce with
  | none =>
    simp only [ports, drawn]
    exact session.moved_rejected _ (.inr (.inl rfl))
  | some nonce =>
    simp only [ports, drawn, Session.moved, waiting, ConnectionState.proves, none_or]
    exact .challenged waiting drawn

theorem response_received {response : V1.ChallengeResponse} {nonce : Bytes} {identity : Identity} {signingKeyId : String}
    {lastAcceptedPosition : UInt64}
    (waiting : session.state = .awaitingChallengeResponse nonce identity signingKeyId lastAcceptedPosition) :
    Received service session ⟨some (.challengeResponse response)⟩
      (session.moved (handleChallengeResponse ports service.platform response nonce identity signingKeyId
        lastAcceptedPosition service.flowControl session.world)) := by
  unfold handleChallengeResponse
  rw [lookup_eq]
  cases resolved : session.world.resolution signingKeyId identity with
  | error => exact session.moved_rejected _ (.inr (.inr rfl))
  | ok resolution =>
    cases resolution with
    | resolved record =>
      simp only
      split
      next signed =>
        simp only [Session.moved, waiting, ConnectionState.proves, some_or]
        exact .proved waiting resolved signed
      next => exact session.moved_rejected _ (.inr (.inr rfl))
    | _ => exact session.moved_rejected _ (.inr (.inr rfl))

theorem handle_received (own : ∀ identity inner, session.state = .authenticated identity → frame.frame = some inner →
    service.route inner = .connection) : Received service session frame (session.handle service frame) := by
  obtain ⟨content⟩ := frame
  rw [Session.handle_eq]
  cases content with
  | none =>
    simp only [handleFrame, Session.moved_same]
    exact .empty
  | some inner =>
    cases state : session.state with
    | awaitingHello =>
      cases inner with
      | hello => exact hello_received state
      | _ => exact session.moved_rejected _ (.inl rfl)
    | awaitingChallengeResponse =>
      cases inner with
      | challengeResponse => exact response_received state
      | _ => exact session.moved_rejected _ (.inl rfl)
    | authenticated identity =>
      have route := own identity inner state rfl
      cases inner with
      | hello | challengeResponse => exact session.moved_rejected _ (.inl rfl)
      | heartbeat =>
        simp only [handleFrame, ← state, Session.moved_same]
        exact .heartbeat state
      | eventBatch =>
        simp only [handleFrame, Session.moved, state, ConnectionState.proves, none_or]
        rw [← state]
        exact .batch state
      | _ => simp only [Service.route] at route; split at route <;> cases route
    | rejected =>
      have same : handleFrame ports service.platform ⟨some inner⟩ service.flowControl .rejected session.world =
          (session.state, [], session.world) := by
        rw [state]
        cases inner <;> rfl
      rw [same, Session.moved_same]
      exact .ended state

theorem receive_received (service : Service) (session : Session) (frame : V1.NodeFrame) :
    Received service session frame (session.receive service frame) := by
  unfold Session.receive
  split
  next identity inner opened content =>
    obtain ⟨content'⟩ := frame
    cases content
    split
    next route => exact .store opened route
    next refusal route => exact .unavailable opened route
    rename_i route
    refine handle_received fun other given _ same => ?_
    cases same
    exact route
  next apart =>
    exact handle_received fun identity inner opened content => absurd content (apart identity inner opened)

theorem receive_batch {identity : Identity} (service : Service) (opened : session.state = .authenticated identity)
    (events : List V1.EventEnvelope) : session.receive service ⟨some (.eventBatch events)⟩ =
      { session with world := (handleBatch ports service.platform events session.world).2 }.answer
        (handleBatch ports service.platform events session.world).1 := by
  simp only [Session.receive, opened, Service.route, Session.handle_eq, handleFrame, Session.moved, ConnectionState.proves,
    none_or]

end

/-- A stream writes nothing, and hands nothing on, before it is authenticated. -/
def Session.Sound (session : Session) : Prop :=
  match session.state with
  | .awaitingHello | .awaitingChallengeResponse _ _ _ _ =>
    session.authentication = none ∧ session.world.appended = [] ∧ session.served = []
  | .authenticated identity => ∃ signingKeyId, session.authentication = some ⟨identity, signingKeyId⟩
  | .rejected => session.running = false ∧
    (session.authentication = none → session.world.appended = [] ∧ session.served = [])

section
variable {after : Session}

theorem Untouched.appended {before after : World} (untouched : Untouched before after) :
    after.appended = before.appended := by
  rcases untouched with rfl | rfl | rfl <;> simp

theorem Received.appended (received : Received service session frame after)
    (quiet : ∀ identity events, session.state = .authenticated identity → frame ≠ ⟨some (.eventBatch events)⟩) :
    after.world.appended = session.world.appended := by
  cases received with
  | challenged | proved | store => simp
  | refused untouched => exact untouched.appended
  | @batch identity events opened => exact absurd rfl (quiet identity events opened)
  | empty | ended | heartbeat | unavailable => rfl

theorem Received.authentication (received : Received service session frame after) :
    after.authentication = session.authentication ∨
      ∃ nonce identity signingKeyId position, session.state = .awaitingChallengeResponse nonce identity signingKeyId position := by
  cases received with
  | proved waiting => exact .inr ⟨_, _, _, _, waiting⟩
  | _ => exact .inl rfl

theorem Session.Sound.answer (sound : session.Sound) (responses : List V1.AckplaneFrame) : (session.answer responses).Sound := by
  unfold Sound at sound ⊢
  cases state : session.state with
  | rejected =>
    simp only [state, answer_state] at sound ⊢
    exact ⟨by simp [Session.answer, state], sound.2⟩
  | _ =>
    simp only [state, answer_state] at sound ⊢
    exact sound

theorem Session.Sound.unproved (sound : session.Sound) (unproved : session.authentication = none) :
    session.world.appended = [] ∧ session.served = [] := by
  unfold Sound at sound
  split at sound
  · exact sound.2
  · exact sound.2
  · obtain ⟨signingKeyId, proved⟩ := sound
    cases unproved.symm.trans proved
  · exact sound.2 unproved

theorem Session.Sound.received (sound : session.Sound) (received : Received service session frame after) : after.Sound := by
  cases received with
  | empty => exact sound.answer []
  | challenged waiting =>
    simp only [Sound, waiting] at sound
    refine Sound.answer ?_ _
    exact ⟨sound.1, by simpa using sound.2.1, sound.2.2⟩
  | @proved _ _ identity signingKeyId _ _ waiting =>
    refine Sound.answer ?_ _
    exact ⟨signingKeyId, rfl⟩
  | refused untouched =>
    refine ⟨by simp [Session.answer], fun unproved => ?_⟩
    obtain ⟨appended, served⟩ := sound.unproved unproved
    exact ⟨untouched.appended.trans appended, served⟩
  | ended | heartbeat => exact sound.answer []
  | batch opened | store opened =>
    refine Sound.answer ?_ _
    simpa only [Sound, opened] using sound
  | unavailable => exact sound.answer _

theorem Session.perform_frame {schedule : List Turn} (running : session.running = true) :
    session.perform service (.frame frame schedule) = (session.scheduled schedule).receive service frame := by
  rw [perform, if_pos running]

theorem Session.Sound.perform (sound : session.Sound) (op : StreamOp) : (session.perform service op).Sound := by
  cases op with
  | outside action =>
    have same := (session.world.perform_grows action).2
    unfold Sound at sound ⊢
    simp only [Session.perform, same]
    exact sound
  | frame frame schedule =>
    have scheduled : (session.scheduled schedule).Sound := sound
    simp only [Session.perform]
    split
    next =>
      exact scheduled.received (receive_received service _ frame)
    next => exact sound
  | hangUp =>
    unfold Sound at sound ⊢
    simp only [Session.perform]
    cases state : session.state with
    | rejected =>
      simp only [state] at sound ⊢
      exact ⟨trivial, sound.2⟩
    | _ =>
      simp only [state] at sound ⊢
      exact sound

end

theorem synchronize_replay (service : Service) (ledger : LedgerStore) (keys : SigningKeys) (ops : List (Session → StreamOp)) :
    (synchronize service ledger keys).Replays ops :=
  Machine.replay_run fun _ _ _ _ _ => trivial

/-! One enrolled node, for runs on fixed input. -/

/-- Digests as the empty payload has them; the signatures that verify are those of the
records and answers below. -/
def plainPlatform : Platform where
  sha256 _ :=
    [0xe3, 0xb0, 0xc4, 0x42, 0x98, 0xfc, 0x1c, 0x14, 0x9a, 0xfb, 0xf4, 0xc8, 0x99, 0x6f, 0xb9, 0x24,
      0x27, 0xae, 0x41, 0xe4, 0x64, 0x9b, 0x93, 0x4c, 0xa4, 0x95, 0x99, 0x1b, 0x78, 0x52, 0xb8, 0x55]
  ed25519 _ _ signature := decide (signature = List.replicate 64 7)
  debug text := text

def plainService : Service := ⟨plainPlatform, ⟨4, 65536⟩, false, false, false, false⟩

def enrolledKeys : SigningKeys :=
  Table.empty.insertOrIgnore ⟨⟨⟨"key:1", "acme", "repo", "node-1", List.replicate 32 1, "fp:1", 0, none⟩, none, none⟩, none⟩

def greeting : Session → StreamOp := fun _ =>
  .frame ⟨some (.hello ⟨"acme", "repo", "node-1", 0, [], "key:1"⟩)⟩ [{ nonce := some (List.replicate 32 9) }]

def answering : Session → StreamOp := fun _ => .frame ⟨some (.challengeResponse ⟨List.replicate 64 7⟩)⟩ []

def sending (events : List V1.EventEnvelope) : Session → StreamOp := fun _ => .frame ⟨some (.eventBatch events)⟩ []

def enrolledRecord : V1.EventEnvelope where
  tenantId := "acme"
  repositoryId := "repo"
  producerId := "node-1"
  producerSequence := 1
  payload := []
  payloadDigest := plainPlatform.sha256 []
  schemaVersion := "v1"
  occurredAt := "2026-08-13T00:00:00Z"
  payloadType := "structural_fact"
  previousEnvelopeDigest := []
  signingKeyId := "key:1"
  signature := List.replicate 64 7
  provenance := 2

def briefStream : List (Session → StreamOp) := [sending [enrolledRecord], answering, greeting]

theorem briefStream_reads : ((synchronize plainService .empty enrolledKeys).replay briefStream).2.world.appended.length = 1 ∧
    ((synchronize plainService .empty enrolledKeys).replay [answering, greeting]).2.state =
      .authenticated ⟨"acme", "repo", "node-1"⟩ := by
  decide +kernel

end MindLeak.Ackplane
