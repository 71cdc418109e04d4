import MindLeak.Ackplane.Ledger
import MindLeak.Ackplane.Signing
import MindLeak.Ackplane.Sync
import MindLeak.Library.Batch

/-! One connection's frames: the handshake that authenticates it and the batches
it then may send. -/

namespace MindLeak.Ackplane

/-- Where a stream stands in its handshake. -/
inductive ConnectionState where
  | awaitingHello
  | awaitingChallengeResponse (nonce : Bytes) (identity : Identity) (signingKeyId : String) (lastAcceptedPosition : UInt64)
  | authenticated (identity : Identity)
  | rejected
  deriving DecidableEq

/-- What a connection asks of its surroundings. The clock, the random source, the
key registry and the ledger answer out of a state that others share. -/
structure Ports (σ : Type) where
  now : σ → Int × σ
  nonce : σ → Option Bytes × σ
  resolveKey : EnvelopeBinding → σ → Except SigningKeyError KeyResolution × σ
  append : EventEnvelope → σ → Except AppendError AppendOutcome × σ

def connectionRefused (diagnostic : String) : V1.AckplaneFrame := .rejection ⟨"", .unauthenticated, false, diagnostic⟩

def unauthenticated (key : DedupKey) (refusal : SignatureRefusal) : V1.Rejection :=
  ⟨recordIdentity key, refusal.reason, false, refusal.diagnostic⟩

/-- Whether the connection that these frames answer must be closed. -/
def mustTerminateAfter (frames : List V1.AckplaneFrame) : Bool :=
  frames.any fun
    | .rejection rejection => decide (rejection.reason = .nodeRevoked)
    | _ => false

section
variable {σ : Type} (ports : Ports σ) (platform : Platform)

def handleHello (hello : V1.Hello) (world : σ) : ConnectionState × List V1.AckplaneFrame × σ :=
  if hello.signingKeyId.isEmpty then
    (.rejected, [connectionRefused "Hello must name the signing_key_id this connection will authenticate with"], world)
  else
    match ports.nonce world with
    | (none, world) => (.rejected, [connectionRefused "could not generate a connection challenge nonce"], world)
    | (some nonce, world) =>
      (.awaitingChallengeResponse nonce ⟨hello.tenantId, hello.repositoryId, hello.producerId⟩ hello.signingKeyId
        hello.lastAcceptedPosition, [.connectionChallenge nonce], world)

/-- A key is judged as of now, which is before its registry answers. -/
def lookup (signingKeyId : String) (identity : Identity) (world : σ) : Except SigningKeyError KeyResolution × σ :=
  let (acceptedAt, world) := ports.now world
  ports.resolveKey (.of signingKeyId identity acceptedAt) world

def handleChallengeResponse (response : V1.ChallengeResponse) (nonce : Bytes) (identity : Identity)
    (signingKeyId : String) (lastAcceptedPosition : UInt64) (flowControl : V1.FlowControl) (world : σ) :
    ConnectionState × List V1.AckplaneFrame × σ :=
  match lookup ports signingKeyId identity world with
  | (.error _, world) =>
    (.rejected, [.rejection ⟨"", .unavailable, true, "the key registry was unavailable; retry the connection"⟩], world)
  | (.ok (.resolved record), world) =>
    if verifyConnectionChallenge platform record.publicKey response.signature ⟨nonce, identity, signingKeyId⟩ then
      (.authenticated identity, [.helloAccepted lastAcceptedPosition [], .flowControl flowControl], world)
    else
      (.rejected, [connectionRefused "the connection challenge response does not verify under the named key"], world)
  | (.ok .revoked, world) =>
    (.rejected, [.rejection ⟨"", .nodeRevoked, false, "this node's signing key has been revoked"⟩], world)
  | (.ok _, world) =>
    (.rejected,
      [connectionRefused "the named signing_key_id is not an active, enrolled key for this tenant/repository/node"], world)

def acceptEvent (wire : V1.EventEnvelope) (world : σ) : Except V1.Rejection V1.RecordReceipt × σ :=
  match translate platform wire with
  | .error rejection => (.error rejection, world)
  | .ok envelope =>
    let key := envelope.key
    match lookup ports wire.signingKeyId key.identity world with
    | (.error _, world) =>
      (.error ⟨recordIdentity key, .unavailable, true, "the key registry was unavailable; retry with backoff"⟩, world)
    | (.ok resolution, world) =>
      match verify platform wire envelope.provenance resolution with
      | .error refusal => (.error (unauthenticated key refusal), world)
      | .ok () =>
        match ports.append envelope world with
        | (.ok outcome, world) => (.ok (receipt key outcome), world)
        | (.error error, world) => (.error (rejection key error), world)

def handleBatch (events : List V1.EventEnvelope) (world : σ) : List V1.AckplaneFrame × σ :=
  match Batch.process (acceptEvent ports platform) events [] world with
  | (.ok receipts, world) => ([.batchReceipt receipts], world)
  | (.error rejection, world) => ([.rejection rejection], world)

def handleFrame (frame : V1.NodeFrame) (flowControl : V1.FlowControl) (state : ConnectionState) (world : σ) :
    ConnectionState × List V1.AckplaneFrame × σ :=
  match frame.frame with
  | none => (state, [], world)
  | some inner =>
    match state, inner with
    | .awaitingHello, .hello hello => handleHello ports hello world
    | .awaitingHello, _ => (.rejected, [connectionRefused "a connection must send Hello first"], world)
    | .awaitingChallengeResponse nonce identity signingKeyId lastAcceptedPosition, .challengeResponse response =>
      handleChallengeResponse ports platform response nonce identity signingKeyId lastAcceptedPosition flowControl world
    | .awaitingChallengeResponse _ _ _ _, _ =>
      (.rejected, [connectionRefused "expected a ChallengeResponse to the issued connection challenge"], world)
    | .authenticated identity, .heartbeat _ => (.authenticated identity, [], world)
    | .authenticated identity, .eventBatch events =>
      let (responses, world) := handleBatch ports platform events world
      (.authenticated identity, responses, world)
    | .authenticated _, _ =>
      (.rejected,
        [connectionRefused "Hello and the connection challenge are only valid once, at the start of the connection"], world)
    | .rejected, _ => (.rejected, [], world)

end

/-! A `Synchronize` stream among everything else that uses the ledger and the key
registry. What others do comes in turns, one before each answer that the stream
waits for. -/

/-- Other connections append; enrolment and administrators change the keys. -/
inductive Outside where
  | append (envelope : EventEnvelope)
  | register (record : SigningKeyRecord)
  | retire (signingKeyId : String) (retiredAt : Int)
  | revoke (revocation : KeyRevocation) (revokedAt : Int)
  deriving DecidableEq

inductive Fault where
  /-- The pool or a statement fails, and nothing is written. -/
  | refused
  /-- The answer is lost behind the work it answers for. -/
  | unanswered
  deriving DecidableEq

structure Turn where
  others : List Outside := []
  clock : Int := 0
  nonce : Option Bytes := none
  fault : Option Fault := none
  /-- What another service's store makes of a frame. -/
  replies : List V1.AckplaneFrame := []
  deriving DecidableEq

structure World where
  ledger : LedgerStore
  keys : SigningKeys
  schedule : List Turn
  /-- What this stream has written. -/
  appended : List EventEnvelope

namespace World

def perform (world : World) : Outside → World
  | .append envelope =>
    match world.ledger.append envelope with
    | .ok (_, ledger) => { world with ledger }
    | .error _ => world
  | .register record => { world with keys := (world.keys.register record).getD world.keys }
  | .retire signingKeyId retiredAt => { world with keys := world.keys.retire signingKeyId retiredAt }
  | .revoke revocation revokedAt => { world with keys := (world.keys.revoke revocation revokedAt).2 }

def next (world : World) : Turn := world.schedule.headD {}

def turned (world : World) : World :=
  { world.next.others.foldl perform world with schedule := world.schedule.tail }

/-- The statements of one append, and whether its sender hears of them. -/
def append (envelope : EventEnvelope) (world : World) : Except AppendError AppendOutcome × World :=
  let after := world.turned
  match world.next.fault with
  | some .refused => (.error .database, after)
  | fault =>
    match after.ledger.append envelope with
    | .error error => (.error error, after)
    | .ok (outcome, ledger) =>
      let written := match outcome with
        | .accepted _ => [envelope]
        | .duplicate _ => []
      (if fault = some .unanswered then .error .database else .ok outcome,
        { after with ledger, appended := after.appended ++ written })

def resolveKey (binding : EnvelopeBinding) (world : World) : Except SigningKeyError KeyResolution × World :=
  let after := world.turned
  (if world.next.fault.isSome then .error .database else .ok (after.keys.resolve binding), after)

def ports : Ports World where
  now world := (world.next.clock, world.turned)
  nonce world := (world.next.nonce, world.turned)
  resolveKey := resolveKey
  append := append

end World

/-- How the service was built: which of its other stores it has. -/
structure Service where
  platform : Platform
  flowControl : V1.FlowControl
  (supervisor directives work context : Bool)

inductive Route where
  /-- A frame of the connection itself. -/
  | connection
  | store
  | unavailable (refusal : V1.AckplaneFrame)

def unavailableFrame (diagnostic : String) : V1.AckplaneFrame := .rejection ⟨"", .unavailable, true, diagnostic⟩

def Service.route (service : Service) : V1.Frame → Route
  | .contextPacketRequest _ | .contextPacketUseReport _ =>
    if service.context then .store
    else .unavailable (unavailableFrame "supervisor ingestion is not configured for this NodeSync service")
  | .supervisorRegistration _ | .supervisorHeartbeat _ | .supervisorSession _ | .supervisorLifecycleReceipt _ =>
    if service.supervisor then .store
    else .unavailable (unavailableFrame "supervisor ingestion is not configured for this NodeSync service")
  | .directiveReceipt _ =>
    if service.supervisor && service.directives then .store
    else .unavailable (unavailableFrame "directive receipt ingestion is not configured for this NodeSync service")
  | .workTaskCreate _ =>
    if service.work then .store
    else .unavailable (unavailableFrame "native Work ingress is not configured for this NodeSync service")
  | .hello _ | .eventBatch _ | .heartbeat _ | .challengeResponse _ => .connection

/-- What a challenge has proved of a connection. -/
structure Authentication where
  identity : Identity
  signingKeyId : String

def ConnectionState.proves : ConnectionState → ConnectionState → Option Authentication
  | .awaitingChallengeResponse _ identity signingKeyId _, .authenticated _ => some ⟨identity, signingKeyId⟩
  | _, _ => none

structure Session where
  world : World
  state : ConnectionState
  running : Bool
  sent : List V1.AckplaneFrame
  /-- What the other services were handed, and in whose name. -/
  served : List (Identity × V1.Frame)
  authentication : Option Authentication

namespace Session

def opened (world : World) : Session := ⟨world, .awaitingHello, true, [], [], none⟩

def answer (session : Session) (responses : List V1.AckplaneFrame) : Session :=
  { session with
    sent := session.sent ++ responses
    running := !(mustTerminateAfter responses || decide (session.state = .rejected)) }

def handle (service : Service) (session : Session) (frame : V1.NodeFrame) : Session :=
  let (state, responses, world) :=
    handleFrame World.ports service.platform frame service.flowControl session.state session.world
  { session with
    world, state
    authentication := (session.state.proves state).or session.authentication }.answer responses

def receive (service : Service) (session : Session) (frame : V1.NodeFrame) : Session :=
  match session.state, frame.frame with
  | .authenticated identity, some inner =>
    match service.route inner with
    | .store =>
      { session with
        world := session.world.turned
        served := session.served ++ [(identity, inner)] }.answer session.world.next.replies
    | .unavailable refusal => session.answer [refusal]
    | .connection => session.handle service frame
  | _, _ => session.handle service frame

end Session

inductive StreamOp where
  /-- Something happens while the stream waits for a frame. -/
  | outside (action : Outside)
  | frame (frame : V1.NodeFrame) (schedule : List Turn)
  | hangUp
  deriving DecidableEq

namespace Session

/-- With the turns that others will have while a frame is handled. -/
def scheduled (session : Session) (schedule : List Turn) : Session :=
  { session with world := { session.world with schedule } }

def perform (service : Service) (session : Session) : StreamOp → Session
  | .outside action => { session with world := session.world.perform action }
  | .frame frame schedule => if session.running then (session.scheduled schedule).receive service frame else session
  | .hangUp => { session with running := false }

end Session

def synchronize (service : Service) (ledger : LedgerStore) (keys : SigningKeys) : Machine Session StreamOp where
  start := .opened ⟨ledger, keys, [], []⟩
  enabled _ _ := True
  apply := Session.perform service

end MindLeak.Ackplane
