import MindLeak.Ackplane.SupervisorIngress
import MindLeak.Ackplane.Sync
import MindLeak.Proofs.Sessions

/-! The position that the server tells a supervisor: which frames stand behind it. -/

namespace MindLeak.Ackplane

open List Transaction

def SupervisorStore.position (s : SupervisorStore) (key : SupervisorKey) : Option Nat :=
  (s.outboxPositions.find? key).map StoredOutboxPosition.acceptedSequence

namespace SupervisorStore
variable {s : SupervisorStore} {key : SupervisorKey}

theorem position_put (other : SupervisorKey) (accepted : Nat) :
    (s.putOutboxPosition ⟨key, accepted⟩).position other = if key = other then some accepted else s.position other := by
  have found : (s.putOutboxPosition ⟨key, accepted⟩).outboxPositions.find? other =
      if key = other then some ⟨key, accepted⟩ else s.outboxPositions.find? other := Table.find?_put _ _ _
  rw [position, found]
  split <;> rfl

def Leaves {α : Type} (program : SupervisorTransaction α) : Prop :=
  ∀ s, (program.attempt look s).2.outboxPositions = s.outboxPositions

theorem leaves_of_runs {α : Type} {program : SupervisorTransaction α}
    (runs : ∀ s after answer, program.Runs look s (fun _ _ => True) (fun _ => True) s after answer → after.outboxPositions = s.outboxPositions) :
    Leaves program := by
  intro s
  cases ends : program.attempt look s with
  | mk answer after =>
    cases answer with
    | ok answer => exact runs s after answer (attempt_runs (fun _ => trivial) trivial ends)
    | error error =>
      have same := attempt_error (congrArg Prod.fst ends)
      rw [ends] at same
      rw [same]

section
variable {platform : SupervisorPlatform}

theorem register_leaves (registration : SupervisorRegistration) : Leaves (register platform registration) :=
  leaves_of_runs fun _ _ _ runs => (register_runs runs).2

theorem recordHeartbeatAt_leaves (key : SupervisorKey) (observedAt : Int) : Leaves (recordHeartbeatAt key observedAt) :=
  leaves_of_runs fun _ _ _ runs => (recordHeartbeatAt_runs runs).2

theorem acceptedOutboxSequence_leaves (key : SupervisorKey) : Leaves (acceptedOutboxSequence key) := fun _ => rfl

theorem recordSession_leaves (tenantId repositoryId : String) (session : SupervisorSession) :
    Leaves (recordSession platform tenantId repositoryId session) := by
  refine leaves_of_runs fun s after outcome runs => ?_
  obtain ⟨_, _, ⟨_, rfl, _⟩ | ⟨_, _, rfl⟩⟩ := recordSession_runs runs
  · rfl
  · rfl

theorem recordLifecycle_leaves (request : SupervisorLifecycleReceiptRequest) (skipped : Nat) :
    Leaves (recordLifecycle platform request skipped) := by
  refine leaves_of_runs fun s after outcome runs => ?_
  obtain ⟨digest, row, _, _, _, ⟨_, rfl, _⟩ | ⟨_, _, position, _, rfl⟩⟩ := recordLifecycle_runs runs
  · rfl
  · unfold received
    split <;> rfl

end

theorem recordOutboxSequence_attempt (key : SupervisorKey) (sequence : Nat) (s : SupervisorStore) :
    (∃ error, (recordOutboxSequence key sequence).attempt look s = (.error error, s)) ∨
      (recordOutboxSequence key sequence).attempt look s =
        (.ok (max ((s.position key).getD sequence) sequence), s.putOutboxPosition ⟨key, max ((s.position key).getD sequence) sequence⟩) := by
  cases ends : (recordOutboxSequence key sequence).attempt look s with
  | mk answer after =>
    cases answer with
    | error error =>
      have same := attempt_error (congrArg Prod.fst ends)
      rw [ends] at same
      exact .inl ⟨error, congrArg (Prod.mk _) same⟩
    | ok accepted =>
      obtain ⟨rfl, rfl⟩ := recordOutboxSequence_runs
        (@Transaction.attempt_runs _ _ _ _ _ _ (fun _ _ => True) (fun _ => True) _ _ _ _ (fun _ => trivial) trivial ends)
      exact .inr rfl

end SupervisorStore

namespace Ingress
variable {σ ε α β : Type}

theorem run_bind (first : Ingress σ ε α) (next : α → Ingress σ ε β) (world : IngressWorld σ) :
    (first >>= next).run world = match first.run world with
      | (.ok value, after) => (next value).run after
      | (.error error, after) => (.error error, after) := by
  show (match first.run world with | (answer, after) => ExceptT.bindCont next answer after) = _
  cases first.run world with
  | mk answer after => cases answer <;> rfl

theorem run_ok {first : Ingress σ ε α} {next : α → Ingress σ ε β} {world after : IngressWorld σ} {answer : β}
    (ran : (first >>= next).run world = (.ok answer, after)) :
    ∃ value between, first.run world = (.ok value, between) ∧ (next value).run between = (.ok answer, after) := by
  rw [run_bind] at ran
  cases begun : first.run world with
  | mk middle between =>
    rw [begun] at ran
    cases middle with
    | error error => cases ran
    | ok value => exact ⟨value, between, rfl, ran⟩

theorem run_adapt {ε' : Type} (wrap : ε → ε') (handler : Ingress σ ε α) (world : IngressWorld σ) :
    (ExceptT.adapt wrap handler : Ingress σ ε' α).run world = ((handler.run world).1.mapError wrap, (handler.run world).2) := rfl

@[simp] theorem run_read (view : SupervisorStore → α) (world : IngressWorld σ) :
    (read view : Ingress σ ε α).run world = (.ok (view world.supervisors), world) := rfl

@[simp] theorem run_ask (port : σ → α × σ) (world : IngressWorld σ) :
    (ask port : Ingress σ ε α).run world = (.ok (port world.others).1, { world with others := (port world.others).2 }) := rfl

@[simp] theorem run_lift (checked : Except ε α) (world : IngressWorld σ) : (lift checked : Ingress σ ε α).run world = (checked, world) := rfl

def Keeps (handler : Ingress σ ε α) : Prop :=
  ∀ world, (handler.run world).2.supervisors.outboxPositions = world.supervisors.outboxPositions

theorem Keeps.bind {first : Ingress σ ε α} {next : α → Ingress σ ε β} (keeps : first.Keeps) (then_ : ∀ value, (next value).Keeps) :
    Ingress.Keeps (first >>= next) := by
  intro world
  have here := keeps world
  rw [run_bind]
  revert here
  cases first.run world with
  | mk answer after =>
    intro here
    cases answer with
    | error error => exact here
    | ok value => exact (then_ value after).trans here

theorem Keeps.adapt {ε' : Type} {wrap : ε → ε'} {handler : Ingress σ ε α} (keeps : handler.Keeps) :
    Ingress.Keeps (ExceptT.adapt wrap handler : Ingress σ ε' α) := keeps

theorem keeps_pure (value : α) : Ingress.Keeps (pure value : Ingress σ ε α) := fun _ => rfl

theorem keeps_throw (error : ε) : Ingress.Keeps (throw error : Ingress σ ε α) := fun _ => rfl

theorem keeps_ask (port : σ → α × σ) : Ingress.Keeps (ask port : Ingress σ ε α) := fun _ => rfl

theorem keeps_lift (checked : Except ε α) : Ingress.Keeps (lift checked : Ingress σ ε α) := fun _ => rfl

theorem keeps_read (view : SupervisorStore → α) : Ingress.Keeps (read view : Ingress σ ε α) := fun _ => rfl

theorem keeps_refuse {bad : Prop} [Decidable bad] (error : ε) : Ingress.Keeps (refuse bad error : Ingress σ ε Unit) := fun _ => rfl

theorem run_call (ports : IngressPorts σ) (program : SupervisorTransaction α) (world : IngressWorld σ) :
    (call ports program).run world = match (ports.fate world.others).1 with
      | .answered => ((program.attempt SupervisorStore.look world.supervisors).1,
          ⟨(program.attempt SupervisorStore.look world.supervisors).2, (ports.fate world.others).2⟩)
      | .failed => (.error .database, ⟨world.supervisors, (ports.fate world.others).2⟩)
      | .unheard => (.error .database,
          ⟨(program.attempt SupervisorStore.look world.supervisors).2, (ports.fate world.others).2⟩) := rfl

theorem keeps_call {ports : IngressPorts σ} {program : SupervisorTransaction α} (leaves : SupervisorStore.Leaves program) :
    (call ports program).Keeps := by
  intro world
  have same := leaves world.supervisors
  rw [run_call]
  cases (ports.fate world.others).1 with
  | answered => exact same
  | failed => rfl
  | unheard => exact same

end Ingress

def SupervisorReply.told (identity : Identity) : SupervisorReply → Option (SupervisorKey × Nat)
  | .receipt message => message.acceptedOutboxSequence.map fun accepted => (identity.supervisor message.supervisorId, accepted)
  | _ => none

section
variable {σ : Type} (ports : IngressPorts σ) (platform : SupervisorPlatform) (identity : Identity)
variable {world after : IngressWorld σ} {history : List (Entry (IngressWorld σ) (IngressEvent σ))}

def SupervisorFrame.accepted (world : IngressWorld σ) : SupervisorFrame → Option (SupervisorKey × Nat)
  | .lifecycleReceipt wire =>
    match (acceptLifecycle ports platform identity wire).run world with
    | (.ok _, _) => wire.outboxSequence.map fun sequence => (identity.supervisor wire.supervisorId, sequence)
    | _ => none
  | .directiveReceipt receipt =>
    match (recordAuthenticatedReceipt ports identity receipt).run world with
    | (.ok accepted, after) =>
      match after.supervisors.session (identity.session accepted.outcome.record.receipt.agentSessionId) with
      | .ok (some projection) =>
        accepted.declaredOutboxSequence.map fun sequence => (identity.supervisor projection.session.supervisorId, sequence)
      | _ => none
    | _ => none
  | .contextPacketUse report =>
    match (acceptUse ports identity report).run world with
    | (.ok (_, supervisorId), _) => report.outboxSequence.map fun sequence => (identity.supervisor supervisorId, sequence)
    | _ => none
  | _ => none

variable {ports platform identity}

def Held (world after : IngressWorld σ) (told : Option (SupervisorKey × Nat)) : Prop :=
  after.supervisors.outboxPositions = world.supervisors.outboxPositions ∧
    ∀ key accepted, told = some (key, accepted) → world.supervisors.position key = some accepted

/-- The position of a supervisor moved to what a frame declared, or stayed ahead of it. -/
def Advanced (world after : IngressWorld σ) (declared : SupervisorKey × Nat) (told : Option (SupervisorKey × Nat)) : Prop :=
  let accepted := max ((world.supervisors.position declared.1).getD declared.2) declared.2
  after.supervisors.outboxPositions = (world.supervisors.putOutboxPosition ⟨declared.1, accepted⟩).outboxPositions ∧
    ∀ answer, told = some answer → answer = (declared.1, accepted)

theorem Held.silent (same : after.supervisors.outboxPositions = world.supervisors.outboxPositions) :
    Held world after none := ⟨same, fun _ _ told => by cases told⟩

theorem declare_run (supervisorId : String) (declared : Option Nat) (world : IngressWorld σ) :
    ((declare ports identity supervisorId declared).run world).2.supervisors.outboxPositions = world.supervisors.outboxPositions ∧
        (((declare ports identity supervisorId declared).run world).1 = .ok none ∨
          ∃ error, ((declare ports identity supervisorId declared).run world).1 = .error error) ∨
      ∃ sequence, declared = some sequence ∧
        let accepted := max ((world.supervisors.position (identity.supervisor supervisorId)).getD sequence) sequence
        ((declare ports identity supervisorId declared).run world).2.supervisors.outboxPositions =
            (world.supervisors.putOutboxPosition ⟨identity.supervisor supervisorId, accepted⟩).outboxPositions ∧
          (((declare ports identity supervisorId declared).run world).1 = .ok (some accepted) ∨
            ∃ error, ((declare ports identity supervisorId declared).run world).1 = .error error) := by
  cases declared with
  | none => exact .inl ⟨rfl, .inl rfl⟩
  | some sequence =>
    have ran : (declare ports identity supervisorId (some sequence)).run world =
        match (Ingress.call ports (SupervisorStore.recordOutboxSequence (identity.supervisor supervisorId) sequence)).run world with
        | (.ok accepted, after) => (.ok (some accepted), after)
        | (.error error, after) => (.error error, after) := by
      rw [declare, Ingress.run_bind]
      rcases (Ingress.call ports _).run world with ⟨_ | _, _⟩ <;> rfl
    rw [ran, Ingress.run_call]
    rcases SupervisorStore.recordOutboxSequence_attempt (identity.supervisor supervisorId) sequence world.supervisors with
      ⟨error, refused⟩ | moved
    · rw [refused]
      cases (ports.fate world.others).1 with
      | answered => exact .inl ⟨rfl, .inr ⟨error, rfl⟩⟩
      | failed | unheard => exact .inl ⟨rfl, .inr ⟨_, rfl⟩⟩
    · rw [moved]
      cases (ports.fate world.others).1 with
      | answered => exact .inr ⟨sequence, rfl, rfl, .inl rfl⟩
      | failed => exact .inl ⟨rfl, .inr ⟨_, rfl⟩⟩
      | unheard => exact .inr ⟨sequence, rfl, rfl, .inr ⟨_, rfl⟩⟩

theorem fact_keeps {α : Type} {program : SupervisorTransaction α} (leaves : SupervisorStore.Leaves program) :
    (fact ports program).Keeps := (Ingress.keeps_call leaves).adapt

theorem belongs_keeps (supervisorId : String) : (belongs identity supervisorId : Ingress σ IngressError Unit).Keeps :=
  (Ingress.keeps_read _).bind fun _ => (Ingress.keeps_lift _).bind fun _ => Ingress.keeps_refuse _

theorem acceptLifecycle_keeps (wire : V1.SupervisorLifecycleReceipt) : (acceptLifecycle ports platform identity wire).Keeps :=
  (belongs_keeps _).bind fun _ => (Ingress.keeps_lift _).bind fun request => (Ingress.keeps_ask _).bind fun skipped =>
    fact_keeps (SupervisorStore.recordLifecycle_leaves request skipped)

theorem recordAuthenticatedReceipt_keeps (receipt : V1.DirectiveReceipt) :
    (recordAuthenticatedReceipt ports identity receipt).Keeps :=
  (Ingress.keeps_refuse _).bind fun _ => (Ingress.keeps_ask _).bind fun _ => (Ingress.keeps_lift _).bind fun _ => Ingress.keeps_pure _

theorem acceptUse_keeps (report : V1.ContextPacketUseReport) : (acceptUse ports identity report).Keeps := by
  refine (Ingress.keeps_refuse _).bind fun _ => (Ingress.keeps_lift _).bind fun receipt => (Ingress.keeps_refuse _).bind fun _ =>
    (Ingress.keeps_read _).bind fun _ => (Ingress.keeps_lift _).bind fun session => ?_
  cases session with
  | none => exact Ingress.keeps_throw _
  | some projection =>
    exact (Ingress.keeps_read _).bind fun _ => (Ingress.keeps_lift _).bind fun _ => (Ingress.keeps_refuse _).bind fun _ =>
      (Ingress.keeps_ask _).bind fun _ => (Ingress.keeps_refuse _).bind fun _ => Ingress.keeps_pure _

theorem heartbeatReceipt_keeps (supervisorId : String) : (heartbeatReceipt ports identity supervisorId).Keeps :=
  (belongs_keeps _).bind fun _ => (Ingress.keeps_ask _).bind fun _ => (Ingress.keeps_lift _).bind fun observedAt =>
    (fact_keeps (SupervisorStore.recordHeartbeatAt_leaves _ observedAt)).bind fun _ => Ingress.keeps_pure _

theorem sessionReceipt_keeps (wire : V1.SupervisorSession) : (sessionReceipt ports platform identity wire).Keeps :=
  (belongs_keeps _).bind fun _ => (Ingress.keeps_lift _).bind fun session =>
    (fact_keeps (SupervisorStore.recordSession_leaves _ _ session)).bind fun _ => Ingress.keeps_pure _

theorem Held.before {between : IngressWorld σ} {told : Option (SupervisorKey × Nat)} (held : Held between after told)
    (same : between.supervisors.outboxPositions = world.supervisors.outboxPositions) : Held world after told := by
  unfold Held SupervisorStore.position at held ⊢
  rwa [same] at held

theorem Advanced.before {between : IngressWorld σ} {declared : SupervisorKey × Nat} {told : Option (SupervisorKey × Nat)}
    (advanced : Advanced between after declared told)
    (same : between.supervisors.outboxPositions = world.supervisors.outboxPositions) : Advanced world after declared told := by
  unfold Advanced SupervisorStore.position SupervisorStore.putOutboxPosition at advanced ⊢
  rwa [same] at advanced

section
variable {ε α β : Type} {tell : α → SupervisorReply} {refused : ε → V1.Rejection}

theorem answer_bind (first : Ingress σ ε β) (next : β → Ingress σ ε α) (world : IngressWorld σ) :
    (first >>= next : Ingress σ ε α).answer tell refused world = match first.run world with
      | (.ok value, after) => (next value).answer tell refused after
      | (.error error, after) => (.rejection (refused error), after) := by
  unfold Ingress.answer
  rw [Ingress.run_bind]
  rcases first.run world with ⟨_ | _, _⟩ <;> rfl

theorem answer_held {handler : Ingress σ ε α} (keeps : handler.Keeps) (world : IngressWorld σ)
    (tells : ∀ value after, handler.run world = (.ok value, after) → ∀ key accepted, (tell value).told identity = some (key, accepted) →
      world.supervisors.position key = some accepted) :
    Held world (handler.answer tell refused world).2 ((handler.answer tell refused world).1.told identity) := by
  have same := keeps world
  unfold Ingress.answer
  cases ran : handler.run world with
  | mk answer after =>
    rw [ran] at same
    cases answer with
    | error error => exact .silent same
    | ok value => exact ⟨same, tells value after ran⟩

theorem answer_declared {ε' : Type} (wrap : SupervisorStoreError → ε') {refused : ε' → V1.Rejection} (supervisorId : String)
    (declared : Option Nat) (last : Option Nat → α) (world : IngressWorld σ)
    (tells : ∀ accepted answer, (tell (last accepted)).told identity = some answer →
      accepted = some answer.2 ∧ answer.1 = identity.supervisor supervisorId) :
    let ends := (do
      let accepted ← ExceptT.adapt wrap (declare ports identity supervisorId declared)
      pure (last accepted) : Ingress σ ε' α).answer tell refused world
    Held world ends.2 (ends.1.told identity) ∨
      ∃ sequence, declared = some sequence ∧ Advanced world ends.2 (identity.supervisor supervisorId, sequence) (ends.1.told identity) := by
  intro ends
  have split : ends = match ((declare ports identity supervisorId declared).run world) with
      | (.ok accepted, after) => (tell (last accepted), after)
      | (.error error, after) => (.rejection (refused (wrap error)), after) := by
    show Ingress.answer _ tell refused world = _
    rw [answer_bind, Ingress.run_adapt]
    rcases (declare ports identity supervisorId declared).run world with ⟨_ | _, _⟩ <;> rfl
  rw [split]
  have moves := @declare_run _ ports identity supervisorId declared world
  rcases ran : (declare ports identity supervisorId declared).run world with ⟨answer, after⟩
  rw [ran] at moves
  rcases moves with ⟨same, rfl | ⟨error, rfl⟩⟩ | ⟨sequence, rfl, moved, rfl | ⟨error, rfl⟩⟩
  · exact .inl ⟨same, fun key accepted told => by cases (tells none _ told).1⟩
  · exact .inl (.silent same)
  · refine .inr ⟨sequence, rfl, moved, fun answer told => ?_⟩
    obtain ⟨its, mine⟩ := tells _ answer told
    exact Prod.ext mine (Option.some.inj its).symm
  · exact .inr ⟨sequence, rfl, moved, fun answer told => by cases told⟩

end

theorem told_receipt {message : V1.SupervisorFrameReceipt} {answer : SupervisorKey × Nat}
    (told : (SupervisorReply.receipt message).told identity = some answer) :
    message.acceptedOutboxSequence = some answer.2 ∧ answer.1 = identity.supervisor message.supervisorId := by
  obtain ⟨accepted, there, same⟩ := Option.map_eq_some_iff.mp told
  cases same
  exact ⟨there, rfl⟩

theorem acknowledgement_moves (accepted : AcceptedReceipt) (world : IngressWorld σ) :
    let ends := (acknowledgement ports identity accepted).answer .receipt IngressError.rejection world
    Held world ends.2 (ends.1.told identity) ∨ ∃ projection sequence,
        world.supervisors.session (identity.session accepted.outcome.record.receipt.agentSessionId) = .ok (some projection) ∧
        accepted.declaredOutboxSequence = some sequence ∧
        Advanced world ends.2 (identity.supervisor projection.session.supervisorId, sequence) (ends.1.told identity) := by
  dsimp only [acknowledgement]
  rw [answer_bind, Ingress.run_read]
  dsimp only
  rw [answer_bind, Ingress.run_lift]
  cases found : world.supervisors.session (identity.session accepted.outcome.record.receipt.agentSessionId) with
  | error error => exact .inl (.silent rfl)
  | ok session =>
    cases session with
    | none => exact .inl (.silent rfl)
    | some projection =>
      have last := fun between : IngressWorld σ => @answer_declared _ ports identity _ SupervisorReply.receipt _
        (fun _ => .unavailable "supervisor outbox position store is unavailable") IngressError.rejection
        projection.session.supervisorId accepted.declaredOutboxSequence
        (fun position => ⟨.directiveReceipt, projection.session.supervisorId, accepted.outcome.record.receipt.agentSessionId,
          accepted.outcome.idempotentReplay, !accepted.outcome.idempotentReplay, position⟩)
        between (fun _ _ told => told_receipt told)
      dsimp only [Except.mapError]
      cases ports.applyDirectiveReceipt with
      | none =>
        rcases last world with held | ⟨sequence, its, advanced⟩
        · exact .inl held
        · exact .inr ⟨projection, sequence, rfl, its, advanced⟩
      | some apply =>
        rw [answer_bind, Ingress.run_ask]
        dsimp only
        rw [answer_bind, Ingress.refuse, Ingress.run_lift]
        cases (apply accepted.outcome.record world.others).1 with
        | false => exact .inl (.silent rfl)
        | true =>
          rcases last { world with others := (apply accepted.outcome.record world.others).2 } with held | ⟨sequence, its, advanced⟩
          · exact .inl (held.before rfl)
          · exact .inr ⟨projection, sequence, rfl, its, advanced.before rfl⟩

theorem registrationReceipt_held (wire : V1.SupervisorRegistration) (world : IngressWorld σ) :
    let ends := (registrationReceipt ports platform identity wire).answer .receipt IngressError.rejection world
    Held world ends.2 (ends.1.told identity) := by
  refine answer_held ?_ world fun value after ran key accepted told => ?_
  · exact (Ingress.keeps_lift _).bind fun registration => (fact_keeps (SupervisorStore.register_leaves registration)).bind fun _ =>
      (fact_keeps (SupervisorStore.acceptedOutboxSequence_leaves _)).bind fun _ => Ingress.keeps_pure _
  · obtain ⟨registration, first, checked, ran⟩ := Ingress.run_ok ran
    obtain rfl : world = first := congrArg Prod.snd checked
    obtain ⟨⟨row, replay⟩, between, registered, ran⟩ := Ingress.run_ok ran
    obtain ⟨position, last, read, ran⟩ := Ingress.run_ok ran
    have same := @fact_keeps _ ports _ _ (@SupervisorStore.register_leaves platform registration) world
    rw [registered] at same
    have its : position = between.supervisors.position (identity.supervisor wire.supervisorId) := by
      unfold fact at read
      rw [Ingress.run_adapt, Ingress.run_call] at read
      revert read
      cases (ports.fate between.others).1 with
      | answered =>
        intro read
        cases read
        rfl
      | failed | unheard =>
        intro read
        cases read
    cases ran
    unfold SupervisorReply.told at told
    rw [Option.map_eq_some_iff] at told
    obtain ⟨_, there, same'⟩ := told
    cases same'
    rw [SupervisorStore.position, ← same]
    exact its.symm.trans there

theorem SupervisorFrame.handle_moves (frame : SupervisorFrame) (world : IngressWorld σ) :
    Held world (frame.handle ports platform identity world).2 ((frame.handle ports platform identity world).1.told identity) ∨
      ∃ declared, frame.accepted ports platform identity world = some declared ∧
        Advanced world (frame.handle ports platform identity world).2 declared
          ((frame.handle ports platform identity world).1.told identity) := by
  cases frame with
  | registration wire => exact .inl (registrationReceipt_held wire world)
  | heartbeat supervisorId =>
    refine .inl (answer_held (heartbeatReceipt_keeps supervisorId) world fun value after ran key accepted told => ?_)
    obtain ⟨_, _, _, ran⟩ := Ingress.run_ok ran
    obtain ⟨_, _, _, ran⟩ := Ingress.run_ok ran
    obtain ⟨_, _, _, ran⟩ := Ingress.run_ok ran
    obtain ⟨_, _, _, ran⟩ := Ingress.run_ok ran
    cases ran
    cases told
  | session wire =>
    refine .inl (answer_held (sessionReceipt_keeps wire) world fun value after ran key accepted told => ?_)
    obtain ⟨_, _, _, ran⟩ := Ingress.run_ok ran
    obtain ⟨_, _, _, ran⟩ := Ingress.run_ok ran
    obtain ⟨_, _, _, ran⟩ := Ingress.run_ok ran
    cases ran
    cases told
  | lifecycleReceipt wire =>
    have same := @acceptLifecycle_keeps _ ports platform identity wire world
    simp only [handle, SupervisorFrame.accepted, Ackplane.lifecycleReceipt]
    rw [answer_bind]
    cases stored : (acceptLifecycle ports platform identity wire).run world with
    | mk answer between =>
      rw [stored] at same
      cases answer with
      | error error => exact .inl (.silent same)
      | ok outcome =>
        rcases @answer_declared _ ports identity _ SupervisorReply.receipt _
          SupervisorStoreError.ingress IngressError.rejection wire.supervisorId wire.outboxSequence
          (fun accepted => ⟨.lifecycle, wire.supervisorId, wire.sessionId, outcome.idempotentReplay, outcome.projectionAdvanced, accepted⟩)
          between (fun accepted answer told => told_receipt told) with held | ⟨sequence, its, advanced⟩
        · exact .inl (held.before same)
        · exact .inr ⟨_, congrArg (Option.map _) its, advanced.before same⟩
  | directiveReceipt receipt =>
    have same := @recordAuthenticatedReceipt_keeps _ ports identity receipt world
    simp only [handle, SupervisorFrame.accepted]
    rw [answer_bind]
    cases stored : (recordAuthenticatedReceipt ports identity receipt).run world with
    | mk answer between =>
      rw [stored] at same
      cases answer with
      | error error => exact .inl (.silent same)
      | ok outcome =>
        rcases acknowledgement_moves outcome between with held | ⟨projection, sequence, found, its, advanced⟩
        · exact .inl (held.before same)
        refine .inr ⟨_, ?_, advanced.before same⟩
        dsimp only
        rw [found, its]
        rfl
  | contextPacketUse report =>
    have same := @acceptUse_keeps _ ports identity report world
    simp only [handle, SupervisorFrame.accepted, recordUse]
    rw [answer_bind]
    cases stored : (acceptUse ports identity report).run world with
    | mk answer between =>
      rw [stored] at same
      cases answer with
      | error error => exact .inl (.silent same)
      | ok both =>
        obtain ⟨receipt, supervisorId⟩ := both
        rcases @answer_declared _ ports identity _ SupervisorReply.contextPacketUseAck _
          ContextServiceError.supervisor ContextServiceError.rejection supervisorId report.outboxSequence
          (fun _ => receipt.packetId) between (fun accepted answer told => by cases told) with held | ⟨sequence, its, advanced⟩
        · exact .inl (held.before same)
        · exact .inr ⟨_, congrArg (Option.map _) its, advanced.before same⟩

def IngressEvent.accepted (ports : IngressPorts σ) (platform : SupervisorPlatform) (world : IngressWorld σ) :
    IngressEvent σ → Option (SupervisorKey × Nat)
  | .frame identity sent => sent.accepted ports platform identity world
  | .elsewhere _ => none

def IngressEvent.told (ports : IngressPorts σ) (platform : SupervisorPlatform) (world : IngressWorld σ) :
    IngressEvent σ → Option (SupervisorKey × Nat)
  | .frame identity sent => (sent.handle ports platform identity world).1.told identity
  | .elsewhere _ => none

/-- The numbers that the supervisor's stored frames declared, the newest first. -/
def declared (ports : IngressPorts σ) (platform : SupervisorPlatform) (key : SupervisorKey)
    (history : List (Entry (IngressWorld σ) (IngressEvent σ))) : List Nat :=
  history.filterMap fun entry => (entry.op.accepted ports platform entry.before).bind fun (supervisor, sequence) =>
    if supervisor = key then some sequence else none

structure Truthful (ports : IngressPorts σ) (platform : SupervisorPlatform) (history : List (Entry (IngressWorld σ) (IngressEvent σ)))
    (world : IngressWorld σ) : Prop where
  held : ∀ key accepted, world.supervisors.position key = some accepted → accepted ∈ declared ports platform key history
  told : ∀ key sequence, ∀ entry ∈ history, entry.op.told ports platform entry.before = some (key, sequence) →
    ∃ accepted, world.supervisors.position key = some accepted ∧ sequence ≤ accepted

theorem mem_declared {key : SupervisorKey} {entry : Entry (IngressWorld σ) (IngressEvent σ)} {sequence : Nat}
    (member : entry ∈ history) (its : entry.op.accepted ports platform entry.before = some (key, sequence)) :
    sequence ∈ declared ports platform key history :=
  mem_filterMap.mpr ⟨entry, member, by rw [its]; exact if_pos rfl⟩

theorem declared_cons {key : SupervisorKey} {sequence : Nat} (entry : Entry (IngressWorld σ) (IngressEvent σ))
    (member : sequence ∈ declared ports platform key history) :
    sequence ∈ declared ports platform key (entry :: history) := by
  obtain ⟨earlier, there, its⟩ := mem_filterMap.mp member
  exact mem_filterMap.mpr ⟨earlier, mem_cons_of_mem _ there, its⟩

theorem event_moves (world : IngressWorld σ) (event : IngressEvent σ) (others : σ) :
    let after := (supervisorIngress ports platform others).apply world event
    (after.supervisors.outboxPositions = world.supervisors.outboxPositions ∧
        ∀ key accepted, event.told ports platform world = some (key, accepted) → after.supervisors.position key = some accepted) ∨
      ∃ key sequence, event.accepted ports platform world = some (key, sequence) ∧
        (∀ other, after.supervisors.position other =
          if key = other then some (max ((world.supervisors.position key).getD sequence) sequence) else world.supervisors.position other) ∧
        ∀ answer, event.told ports platform world = some answer →
          answer = (key, max ((world.supervisors.position key).getD sequence) sequence) := by
  cases event with
  | elsewhere others => exact .inl ⟨rfl, fun _ _ told => by cases told⟩
  | frame identity sent =>
    rcases @SupervisorFrame.handle_moves _ ports platform identity sent world with
      ⟨same, tells⟩ | ⟨⟨key, sequence⟩, stored, moved, tells⟩
    · refine .inl ⟨same, fun key accepted told => ?_⟩
      rw [SupervisorStore.position, show ((supervisorIngress ports platform others).apply world (.frame identity sent)).supervisors.outboxPositions =
        world.supervisors.outboxPositions from same]
      exact tells key accepted told
    · refine .inr ⟨key, sequence, stored, fun other => ?_, tells⟩
      rw [← SupervisorStore.position_put, SupervisorStore.position, SupervisorStore.position,
        show ((supervisorIngress ports platform others).apply world (.frame identity sent)).supervisors.outboxPositions = _ from moved]

theorem Truthful.step (truthful : Truthful ports platform history world) (event : IngressEvent σ) (others : σ) :
    Truthful ports platform (⟨world, event, (supervisorIngress ports platform others).apply world event⟩ :: history)
      ((supervisorIngress ports platform others).apply world event) := by
  rcases @event_moves _ ports platform world event others with ⟨same, tells⟩ | ⟨key, sequence, stored, moved, tells⟩
  · refine ⟨fun key accepted there => ?_, fun key sequence entry member told => ?_⟩
    · rw [SupervisorStore.position, same] at there
      exact declared_cons _ (truthful.held key accepted there)
    · rcases mem_cons.mp member with rfl | earlier
      · exact ⟨sequence, tells key sequence told, Nat.le_refl _⟩
      · rw [SupervisorStore.position, same]
        exact truthful.told key sequence entry earlier told
  · refine ⟨fun other accepted there => ?_, fun other told entry member tells' => ?_⟩
    · rw [moved] at there
      split at there
      next mine =>
        subst mine
        cases there
        rcases Nat.le_total ((world.supervisors.position key).getD sequence) sequence with newer | ahead
        · rw [Nat.max_eq_right newer]
          exact mem_declared mem_cons_self stored
        · rw [Nat.max_eq_left ahead]
          cases held : world.supervisors.position key with
          | none => exact mem_declared mem_cons_self stored
          | some accepted => exact declared_cons _ (truthful.held key accepted held)
      next => exact declared_cons _ (truthful.held other accepted there)
    · rw [moved]
      rcases mem_cons.mp member with rfl | earlier
      · cases tells _ tells'
        exact ⟨_, if_pos rfl, Nat.le_refl _⟩
      · obtain ⟨accepted, there, below⟩ := truthful.told other told entry earlier tells'
        split
        next mine =>
          subst mine
          rw [there, Option.getD_some]
          exact ⟨_, rfl, Nat.le_trans below (Nat.le_max_left _ _)⟩
        next => exact ⟨accepted, there, below⟩

theorem positions_truthful {others : σ} (run : (supervisorIngress ports platform others).Run history world) :
    Truthful ports platform history world := by
  induction run with
  | start => exact ⟨fun _ _ there => (by cases there), fun _ _ _ member => (by cases member)⟩
  | step past event ready ih => exact ih.step event others

end

section

/-- Directives, packets and Work are not asked, and every call is answered. -/
def calmPorts : IngressPorts Unit where
  unixTimestamp text := (Rfc3339.parse text).map (· / 1000000000)
  serverNowSeconds := fun _ => (.ok 10, ())
  fate := fun _ => (.answered, ())
  skipped := fun _ => (0, ())
  recordReceipt _ := fun _ => (.error .unknownDirective, ())
  applyDirectiveReceipt := none
  readUseReceipt _ := none
  recordUse _ := fun _ => (false, ())

def nodeOne : Identity := ⟨"acme", "repo", "node-1"⟩

def pausedFrame (occurredAt idempotencyKey : String) (outboxSequence : Nat) : SupervisorFrame :=
  .lifecycleReceipt ⟨"supervisor", "session-1", "worker", occurredAt, 3, 0, idempotencyKey, some outboxSequence⟩

def announced : List SupervisorFrame :=
  [.session ⟨"session-1", "supervisor", "worker", 1, "1970-01-01T00:00:10Z", 1⟩,
    .registration ⟨"supervisor", "node-1", "1", "v1", [1], false, false, 1, true⟩]

def connection (frames : List SupervisorFrame) : List (IngressWorld Unit → IngressEvent Unit) := frames.map fun sent _ => .frame nodeOne sent

def calm := supervisorIngress calmPorts jsonPlatform ()

theorem connection_run (frames : List SupervisorFrame) : calm.Replays (connection frames) :=
  Machine.replay_run fun _ _ _ _ _ => trivial

/-- The position that the newest frame's reply tells, and the numbers declared so far. -/
def toldLast (frames : List SupervisorFrame) : Option (Option (SupervisorKey × Nat) × List Nat) :=
  (calm.replay (connection frames)).1.head?.map fun entry =>
    (entry.op.told calmPorts jsonPlatform entry.before,
      declared calmPorts jsonPlatform ⟨"acme", "repo", "supervisor"⟩ (calm.replay (connection frames)).1)

theorem told_first : toldLast (pausedFrame "1970-01-01T00:00:20Z" "paused" 5 :: announced) =
    some (some (⟨"acme", "repo", "supervisor"⟩, 5), [5]) := by decide +kernel

theorem told_second : toldLast (pausedFrame "1970-01-01T00:00:30Z" "again" 2 :: pausedFrame "1970-01-01T00:00:20Z" "paused" 1 :: announced) =
    some (some (⟨"acme", "repo", "supervisor"⟩, 2), [2, 1]) := by decide +kernel

theorem toldLast_entry {first : SupervisorFrame} {rest : List SupervisorFrame} {answer : SupervisorKey × Nat} {numbers : List Nat}
    (told : toldLast (first :: rest) = some (some answer, numbers)) :
    ∃ entry earlier world, calm.Run (entry :: earlier) world ∧ entry.op.told calmPorts jsonPlatform entry.before = some answer ∧
      declared calmPorts jsonPlatform ⟨"acme", "repo", "supervisor"⟩ (entry :: earlier) = numbers := by
  have run := connection_run (first :: rest)
  unfold Machine.Replays at run
  unfold toldLast at told
  generalize calm.replay (connection (first :: rest)) = replayed at run told
  obtain ⟨history, world⟩ := replayed
  cases history with
  | nil => cases told
  | cons entry earlier =>
    obtain ⟨its, all⟩ := Prod.ext_iff.mp (Option.some.inj told)
    exact ⟨entry, earlier, world, run, its, all⟩

end

section
variable {σ : Type} {ports : IngressPorts σ} {platform : SupervisorPlatform} {others : σ}

/-- A position that the server tells was declared by a frame of the supervisor that it has stored. No
later one is smaller. Where every frame that it stores of the supervisor declares at most the next
number, frames with every number up to the position are stored. -/
theorem told_positions_truthful {later earlier : List (Entry (IngressWorld σ) (IngressEvent σ))}
    {entry : Entry (IngressWorld σ) (IngressEvent σ)} {world : IngressWorld σ} {key : SupervisorKey} {accepted : Nat}
    (run : (supervisorIngress ports platform others).Run (later ++ entry :: earlier) world)
    (told : entry.op.told ports platform entry.before = some (key, accepted)) :
    accepted ∈ declared ports platform key (entry :: earlier) ∧
      (∀ older ∈ earlier, ∀ before, older.op.told ports platform older.before = some (key, before) → before ≤ accepted) ∧
      (Gapless (declared ports platform key (entry :: earlier)) →
        ∀ number, 1 ≤ number → number ≤ accepted → number ∈ declared ports platform key (entry :: earlier)) := by
  obtain ⟨middle, past⟩ := run.past
  have truthful := positions_truthful past
  have held : middle.supervisors.position key = some accepted := by
    cases past with
    | step before event ready =>
      rcases @event_moves _ ports platform _ event others with ⟨_, tells⟩ | ⟨_, _, _, moved, tells⟩
      · exact tells key accepted told
      · cases tells _ told
        rw [moved, if_pos rfl]
  have stored := truthful.held key accepted held
  refine ⟨stored, fun older member before toldBefore => ?_, fun gapless number positive bounded => ?_⟩
  · obtain ⟨position, there, below⟩ := truthful.told key before older (mem_cons_of_mem _ member) toldBefore
    cases held.symm.trans there
    exact below
  · exact gapless.mem positive (Nat.le_trans bounded (le_foldr_max stored))

end

theorem two_paused_truthful : ∃ entry : Entry (IngressWorld Unit) (IngressEvent Unit), ∃ earlier,
    entry.op.told calmPorts jsonPlatform entry.before = some (⟨"acme", "repo", "supervisor"⟩, 2) ∧
      2 ∈ declared calmPorts jsonPlatform ⟨"acme", "repo", "supervisor"⟩ (entry :: earlier) ∧
      ∀ number, 1 ≤ number → number ≤ 2 →
        number ∈ declared calmPorts jsonPlatform ⟨"acme", "repo", "supervisor"⟩ (entry :: earlier) := by
  obtain ⟨entry, earlier, world, run, told, numbers⟩ := toldLast_entry told_second
  obtain ⟨stored, _, all⟩ := @told_positions_truthful _ _ _ _ [] _ _ _ _ _ run told
  rw [numbers] at all
  exact ⟨entry, earlier, told, stored, fun number positive bounded => numbers ▸ all ⟨by decide, by decide, trivial⟩ number positive bounded⟩

/-- The first frame of a supervisor declares 5, and 5 is told: none declared 1. -/
theorem first_frame_counterexample : ¬∀ (history : List (Entry (IngressWorld Unit) (IngressEvent Unit))) (world : IngressWorld Unit)
    (entry : Entry (IngressWorld Unit) (IngressEvent Unit)) (key : SupervisorKey) (accepted : Nat),
    (supervisorIngress calmPorts jsonPlatform ()).Run (entry :: history) world →
      entry.op.told calmPorts jsonPlatform entry.before = some (key, accepted) →
      ∀ number, 1 ≤ number → number ≤ accepted → number ∈ declared calmPorts jsonPlatform key (entry :: history) := by
  intro covered
  obtain ⟨entry, earlier, world, run, told, numbers⟩ := toldLast_entry told_first
  have first := covered earlier world entry _ _ run told 1 (by decide) (by decide)
  rw [numbers] at first
  exact absurd first (by decide)

end MindLeak.Ackplane
