import MindLeak.Proofs.InboxSteps

/-! A directive takes effect at most once, and what was answered of it is answered again. -/

namespace MindLeak.Ackplane

open List Table Option

abbrev InboxStep : Type := Entry InboxState InboxOp

def InboxState.asked (s : InboxState) : InboxOp → Option V1.AgentDirective
  | .receive directive _ | .apply directive _ _ => some directive
  | .open _ _ | .record | .run _ | .report | .fail | .crash =>
    match s.phase with
    | .accepted _ directive _ _ _ | .recorded _ directive _ _ | .ran _ directive _ => some directive
    | .closed | .ready _ => none

/-- The step runs the directive's effect, which was asked for at `now`. -/
def Effecting (entry : InboxStep) (directive : V1.AgentDirective) (now : Int) : Prop :=
  ∃ result inbox receipt, entry.op = .run result ∧ entry.before.phase = .recorded inbox directive now receipt

def Returning (platform : DirectivePlatform) (entry : InboxStep) (directive : V1.AgentDirective) (receipt : V1.DirectiveReceipt) : Prop :=
  entry.before.asked entry.op = some directive ∧ (entry.before.step platform entry.op).2 = some (.ok receipt)

def InboxPhase.Trying (directiveId : String) : InboxPhase → Prop
  | .recorded _ directive _ _ | .ran _ directive _ => directive.directiveId = directiveId
  | .closed | .ready _ | .accepted _ _ _ _ _ => False

def InboxState.Spent (s : InboxState) (directiveId : String) : Prop :=
  (s.tables.effects.find? directiveId).isSome ∧
    ∀ inbox directive now receipt, s.phase = .recorded inbox directive now receipt → directive.directiveId ≠ directiveId

structure InboxState.Answers (platform : DirectivePlatform) (s : InboxState) (directive : V1.AgentDirective)
    (receipt : V1.DirectiveReceipt) : Prop where
  stored : ∃ stored, s.tables.receipts.find? directive.directiveId = some stored ∧ stored.payloadDigest = directive.payloadDigest ∧
    s.tables.receiptOf stored = receipt
  bound : ∃ inbox : SupervisorInbox, inbox.Bound s.tables ∧ inbox.admissible platform directive = .ok ()
  concluded : receipt.status ≠ V1.DirectiveReceiptStatus.accepted.asI32
  ended : ¬s.phase.Trying directive.directiveId

variable {directiveId : String}

namespace InboxTables
variable {tables : InboxTables} {stored : StoredReceipt} {other : String}

theorem receiptOf_congr {after : InboxTables} (same : after.effects = tables.effects) (stored : StoredReceipt) :
    after.receiptOf stored = tables.receiptOf stored := by rw [receiptOf, receiptOf, same]

theorem receiptOf_storeEffect (found : tables.receipts.find? directiveId = some stored) (receipt : V1.DirectiveReceipt) :
    (tables.storeEffect other receipt).receiptOf stored = if other = directiveId then receipt else tables.receiptOf stored := by
  have named : stored.directiveId = directiveId := (mem_of_find? found).2
  have found? : (tables.storeEffect other receipt).effects.find? stored.directiveId =
      if other = directiveId then some ⟨other, receipt⟩ else tables.effects.find? stored.directiveId := by
    rw [named]
    exact find?_put _ _ _
  rw [receiptOf, found?]
  by_cases same : other = directiveId
  · rw [if_pos same, if_pos same]
  · rw [if_neg same, if_neg same]
    rfl

end InboxTables

variable {platform : DirectivePlatform} {s after : InboxState} {op : InboxOp} {answer : Option InboxAnswer}
  {directive : V1.AgentDirective}

namespace InboxState
variable {receipt : V1.DirectiveReceipt}

section
variable (moves : s.Moves platform op after answer)
include moves

theorem Moves.spent (spent : s.Spent directiveId) : after.Spent directiveId := by
  obtain ⟨tried, elsewhere⟩ := spent
  refine ⟨moves.grows.effects _ tried, ?_⟩
  cases moves with
  | stays => exact elsewhere
  | opens | receives | applied | accepts | replays | runs | reports | fails | crashes => exact fun _ _ _ _ phase => by cases phase
  | records _ untried =>
    rintro _ _ _ _ ⟨⟩ rfl
    rw [untried] at tried
    cases tried

theorem Moves.effected (sound : s.Sound platform) {now : Int}
    (effecting : ∃ result inbox receipt, op = .run result ∧ s.phase = .recorded inbox directive now receipt) :
    after.Spent directive.directiveId ∧ ¬s.Spent directive.directiveId := by
  obtain ⟨result, inbox, receipt, rfl, phase⟩ := effecting
  refine ⟨?_, fun spent => spent.2 _ _ _ _ phase rfl⟩
  have knows := sound.knows
  rw [phase] at knows
  refine ⟨moves.grows.effects _ knows.2.2.1, ?_⟩
  cases moves with
  | stays _ ineffective => exact absurd phase (ineffective result rfl _ _ _ _)
  | runs => exact fun _ _ _ _ phase => by cases phase

theorem Moves.answered (sound : s.Sound platform)
    (returning : s.asked op = some directive ∧ answer = some (.ok receipt)) (concluded : receipt.status ≠ V1.DirectiveReceiptStatus.accepted.asI32) :
    after.Answers platform directive receipt := by
  obtain ⟨its, rfl⟩ := returning
  have sound' := moves.sound sound
  have knows := sound.knows
  cases moves with
  | stays unreceipted => exact absurd rfl (unreceipted receipt)
  | receives ready admitted received | applied ready admitted received =>
    cases its
    obtain ⟨stored, found, same, told⟩ := received.stored sound.tables
    exact ⟨⟨stored, found, same, told.symm⟩, ⟨_, sound'.knows, admitted⟩, concluded, id⟩
  | replays phase tried =>
    simp only [asked, phase, some.injEq] at its
    subst its
    rw [phase] at knows
    obtain ⟨bound, admitted, stored, ⟨found, same, _⟩, _⟩ := knows
    refine ⟨⟨stored, found, same, ?_⟩, ⟨_, bound, admitted⟩, concluded, id⟩
    have named : stored.directiveId = _ := (mem_of_find? found).2
    rw [InboxTables.receiptOf, named, tried]
  | reports phase =>
    simp only [asked, phase, some.injEq] at its
    subst its
    rw [phase] at knows
    obtain ⟨bound, admitted, _, stored, _, _, ⟨found, same, _⟩, _⟩ := knows
    refine ⟨⟨stored, found, same, ?_⟩, ⟨_, bound, admitted⟩, concluded, id⟩
    rw [InboxTables.receiptOf_storeEffect found, if_pos rfl]

theorem Moves.answers (sound : s.Sound platform) (answers : s.Answers platform directive receipt) :
    after.Answers platform directive receipt := by
  have grows := moves.grows
  obtain ⟨⟨stored, found, same, told⟩, ⟨inbox, bound, admitted⟩, concluded, ended⟩ := answers
  have knows := sound.knows
  have keep (tables : after.tables.effects = s.tables.effects) (ended : ¬after.phase.Trying directive.directiveId) :
      after.Answers platform directive receipt :=
    ⟨⟨stored, grows.receipts _ _ found, same, (InboxTables.receiptOf_congr tables stored).trans told⟩,
      ⟨inbox, grows.binding _ bound, admitted⟩, concluded, ended⟩
  cases moves with
  | stays => exact keep rfl ended
  | opens _ opened =>
    obtain ⟨_, same, _⟩ := SupervisorInbox.fromConnection_bound opened
    refine keep ?_ id
    rw [same]
  | receives _ _ received | applied _ _ received | accepts _ _ received =>
    refine keep ?_ id
    cases received <;> rfl
  | replays | fails | crashes => exact keep rfl id
  | runs phase =>
    refine keep rfl fun trying => ended ?_
    rw [phase]
    exact trying
  | @records other tried _ _ _ phase untried =>
    have apart : tried.directiveId ≠ directive.directiveId := by
      intro its
      rw [phase] at knows
      obtain ⟨_, _, stored', ⟨found', _, accepted⟩, _⟩ := knows
      rw [its] at found' untried
      cases found.symm.trans found'
      have named : stored.directiveId = directive.directiveId := (mem_of_find? found).2
      refine concluded ?_
      rw [← told, InboxTables.receiptOf, named, untried]
      exact accepted
    refine ⟨⟨stored, found, same, ?_⟩, ⟨inbox, bound, admitted⟩, concluded, apart⟩
    rw [InboxTables.receiptOf_storeEffect found, if_neg apart, told]
  | @reports _ tried _ phase =>
    have apart : tried.directiveId ≠ directive.directiveId := by
      rw [phase] at ended
      exact ended
    refine ⟨⟨stored, found, same, ?_⟩, ⟨inbox, bound, admitted⟩, concluded, id⟩
    rw [InboxTables.receiptOf_storeEffect found, if_neg apart, told]

end

theorem Answers.again (answers : s.Answers platform directive receipt) (sound : s.Sound platform) {inbox : SupervisorInbox}
    (ready : s.phase = .ready inbox) (now : Int) (evidenceRefs : List String) :
    s.step platform (.receive directive now) = (s, some (.ok receipt)) ∧
      s.step platform (.apply directive now evidenceRefs) = (s, some (.ok receipt)) := by
  obtain ⟨⟨stored, found, same, told⟩, ⟨other, bound, admitted⟩, concluded, _⟩ := answers
  obtain ⟨tables, phase⟩ := s
  cases ready
  have admitted : inbox.admissible platform directive = .ok () := (SupervisorInbox.admissible_congr sound.knows bound directive).trans admitted
  have received := receive_again now admitted found same
  rw [told] at received
  constructor
  · simp only [step, received]
  · simp only [step, received]
    rw [if_pos concluded]

end InboxState

/-- What an operation on the tables leaves, and what an acceptance adds to them. -/
def InboxTables.Accepts (before after : InboxTables) (directiveId : String) : Prop :=
  after = before ∨ ∃ stored : StoredReceipt, stored.directiveId = directiveId ∧ stored.status = V1.DirectiveReceiptStatus.accepted.asI32 ∧
    after = { before with receipts := before.receipts.insertOrIgnore stored }

/-- The `apply` that got as far as its acceptance. -/
structure Accepting (entry : InboxStep) (directive : V1.AgentDirective) (now : Int) (evidenceRefs : List String) : Prop where
  asked : entry.op = .apply directive now evidenceRefs
  keeps : entry.before.tables.Accepts entry.after.tables directive.directiveId

theorem InboxState.Moves.accepting {platform : DirectivePlatform} {s after : InboxState} {op : InboxOp} {answer : Option InboxAnswer}
    (moves : s.Moves platform op after answer) {inbox : SupervisorInbox} {directive : V1.AgentDirective} {now : Int}
    {evidenceRefs : List String} {receipt : V1.DirectiveReceipt}
    (phase : after.phase = .accepted inbox directive now evidenceRefs receipt) :
    after = s ∨ Accepting ⟨s, op, after⟩ directive now evidenceRefs := by
  cases moves with
  | stays => exact .inl rfl
  | opens | receives | applied | replays | records | runs | reports | fails | crashes => cases phase
  | accepts _ _ received accepted =>
    cases phase
    refine .inr ⟨rfl, ?_⟩
    cases received with
    | replays => exact .inl rfl
    | stores _ _ _ _ _ its => exact .inr ⟨_, congrArg StoredReceipt.directiveId its, accepted, rfl⟩

variable {history : List InboxStep} {state : InboxState}

section

theorem accepting_began (run : (supervisorInbox platform).Run history state) {directive : V1.AgentDirective} {now : Int}
    {evidenceRefs : List String} {inbox : SupervisorInbox} {receipt : V1.DirectiveReceipt} :
    (state.phase = .accepted inbox directive now evidenceRefs receipt →
        ∃ applying ∈ history, applying.after = state ∧ Accepting applying directive now evidenceRefs) ∧
      ∀ entry ∈ history, entry.before.phase = .accepted inbox directive now evidenceRefs receipt →
        ∃ applying ∈ history, applying.after = entry.before ∧ Accepting applying directive now evidenceRefs := by
  induction run with
  | start => exact ⟨fun phase => by (cases phase), fun _ member => by (cases member)⟩
  | @step history state past op ready ih =>
    have later {s : InboxState} : (∃ applying ∈ history, applying.after = s ∧ Accepting applying directive now evidenceRefs) →
        ∃ applying ∈ (⟨state, op, (supervisorInbox platform).apply state op⟩ : InboxStep) :: history,
          applying.after = s ∧ Accepting applying directive now evidenceRefs :=
      fun ⟨applying, member, its⟩ => ⟨applying, mem_cons_of_mem _ member, its⟩
    constructor
    · intro phase
      rcases (state.step_moves platform op).accepting phase with same | accepting
      · have here : (supervisorInbox platform).apply state op = state := same
        rw [here] at phase ⊢
        have held := later (ih.1 phase)
        rwa [here] at held
      · exact ⟨_, mem_cons_self, rfl, accepting⟩
    · intro entry member phase
      rcases mem_cons.mp member with rfl | earlier
      · exact later (ih.1 phase)
      · exact later (ih.2 entry earlier phase)

/-- Through any deliveries, crashes and openings of the inbox. -/
theorem directive_takes_effect_once (run : (supervisorInbox platform).Run history state) :
    (history.Pairwise fun later earlier => ∀ first now second now', Effecting earlier first now → Effecting later second now' →
        first.directiveId ≠ second.directiveId) ∧
      (∀ seen ∈ (supervisorInbox platform).visited history,
        seen.tables.receipts.rows.map StoredReceipt.sequence = List.range' 1 seen.tables.receipts.rows.length) ∧
      (history.Pairwise fun later earlier => ∀ directive receipt, Returning platform earlier directive receipt →
        receipt.status ≠ V1.DirectiveReceiptStatus.accepted.asI32 → ∀ inbox, later.before.phase = .ready inbox → ∀ now evidenceRefs,
          later.before.step platform (.receive directive now) = (later.before, some (.ok receipt)) ∧
            later.before.step platform (.apply directive now evidenceRefs) = (later.before, some (.ok receipt))) ∧
      ∀ entry ∈ history, ∀ error, (entry.before.step platform entry.op).2 = some (.error error) →
        entry.after.tables = entry.before.tables ∧
          ∀ inbox directive now evidenceRefs receipt, entry.before.phase = .accepted inbox directive now evidenceRefs receipt →
            ∃ applying ∈ history, applying.after = entry.before ∧ Accepting applying directive now evidenceRefs := by
  refine ⟨?_, fun seen visited => (inbox_sound run seen visited).tables.numbered, ?_, ?_⟩
  · -- An effect leaves its directive spent, and spent it stays.
    have spent := (run.pairwise_held (fun directiveId entry => ∃ directive now, Effecting entry directive now ∧ directive.directiveId = directiveId)
      (fun directiveId s => s.Spent directiveId) ?_ ?_).1
    · refine spent.imp_of_mem fun {later earlier} inLater _ held first now second now' one other same => ?_
      obtain ⟨sound, moved⟩ := inbox_moves run inLater
      exact (moved.effected sound other).2 (held _ ⟨first, now, one, same⟩)
    · rintro _ entry member ⟨directive, now, effecting, rfl⟩
      obtain ⟨sound, moved⟩ := inbox_moves run member
      exact (moved.effected sound effecting).1
    · intro _ entry member held
      exact (inbox_moves run member).2.spent held
  · have answers := (run.pairwise_held (fun (asked : V1.AgentDirective × V1.DirectiveReceipt) entry =>
        Returning platform entry asked.1 asked.2 ∧ asked.2.status ≠ V1.DirectiveReceiptStatus.accepted.asI32)
      (fun asked s => s.Answers platform asked.1 asked.2) ?_ ?_).1
    · refine answers.imp_of_mem fun {later earlier} inLater _ held directive receipt returning concluded inbox ready now evidenceRefs => ?_
      exact (held (directive, receipt) ⟨returning, concluded⟩).again (inbox_moves run inLater).1 ready now evidenceRefs
    · rintro ⟨directive, receipt⟩ entry member ⟨returning, concluded⟩
      obtain ⟨sound, moved⟩ := inbox_moves run member
      exact moved.answered sound returning concluded
    · intro asked entry member held
      obtain ⟨sound, moved⟩ := inbox_moves run member
      exact moved.answers sound held
  · intro entry member error refused
    refine ⟨?_, fun inbox directive now evidenceRefs receipt phase => (accepting_began run).2 entry member phase⟩
    have moved := (inbox_moves run member).2
    rw [refused] at moved
    generalize entry.op = op, entry.after = after at moved
    cases moved with
    | stays | fails => rfl

end

section

def notifying : SupervisorRegistration where
  supervisorId := "supervisor"
  identity := ⟨"acme", "repo", "node-1"⟩
  supervisorVersion := "1"
  protocolVersion := "v1"
  capabilities := ⟨[.notify], false, false, .persistent, true⟩

def notifiedSession : SupervisorSession := ⟨"session-1", "supervisor", "worker", .localMachine, 0, .started⟩

def unsignedNotice : V1.AgentDirective where
  directiveId := "directive:1"
  tenantId := "acme"
  projectId := "project"
  repositoryId := "repo"
  targetNodeId := "node-1"
  targetAgentSessionId := "session-1"
  kind := V1.DirectiveKind.notify.asI32
  schemaVersion := "v1"
  issuingPrincipalId := "human:ada"
  rationale := "asked"
  taskId := ""
  goalId := ""
  contextPacketId := ""
  createdAt := "1970-01-01T00:00:01Z"
  expiresAt := "1970-01-01T00:00:05Z"
  sequence := 1
  idempotencyKey := "key"
  payloadDigest := []
  requiredCapability := "notify.v1"
  policyRefs := []
  knowledgeRefs := []
  evidenceRefs := []
  payload := some (.notify "hello")

def notice : V1.AgentDirective :=
  { unsignedNotice with payloadDigest := (directivePayloadDigest wire unsignedNotice).getD [] }

abbrev inboxHistory (ops : List InboxOp) : List InboxStep := ((supervisorInbox wire).replay (ops.map fun op _ => op)).1
abbrev inboxAfter (ops : List InboxOp) : InboxState := ((supervisorInbox wire).replay (ops.map fun op _ => op)).2

theorem inbox_run (ops : List InboxOp) : (supervisorInbox wire).Run (inboxHistory ops) (inboxAfter ops) :=
  Machine.replay_run fun _ _ _ _ _ => trivial

theorem inbox_entry (op : InboxOp) (later earlier : List InboxOp) :
    ⟨inboxAfter earlier, op, inboxAfter (op :: earlier)⟩ ∈ inboxHistory (later ++ op :: earlier) := by
  have member := (supervisorInbox wire).replay_entry (fun _ => op) (later.map fun op _ => op) (earlier.map fun op _ => op)
  rwa [← map_cons (f := fun op (_ : InboxState) => op), ← map_append] at member

theorem inbox_ops {ops : List InboxOp} {good : InboxOp → Prop} (each : ∀ op ∈ ops, good op) : ∀ entry ∈ inboxHistory ops, good entry.op := by
  induction ops with
  | nil => exact fun _ member => by cases member
  | cons op rest ih =>
    obtain ⟨here, others⟩ := forall_mem_cons.mp each
    exact forall_mem_cons.mpr ⟨here, ih others⟩

def applies : List InboxOp := [.apply notice (seconds 2) [], .open notifying notifiedSession]

def InboxPhase.idle : InboxPhase → Option SupervisorInbox
  | .ready inbox => some inbox
  | _ => none

theorem InboxPhase.ready_of_idle {phase : InboxPhase} (idle : phase.idle.isSome = true) : ∃ inbox, phase = .ready inbox := by
  cases phase with
  | ready inbox => exact ⟨inbox, rfl⟩
  | closed | accepted | recorded | ran => cases idle

/-- What is to be run next, and the time that it was asked for. -/
def InboxPhase.effect : InboxPhase → Option (V1.AgentDirective × Int)
  | .recorded _ directive now _ => some (directive, now)
  | _ => none

theorem InboxPhase.recorded_of_effect {phase : InboxPhase} {now : Int}
    (effect : phase.effect = some (directive, now)) : ∃ inbox receipt, phase = .recorded inbox directive now receipt := by
  cases phase with
  | recorded inbox _ _ receipt =>
    cases effect
    exact ⟨inbox, receipt, rfl⟩
  | closed | ready | accepted | ran => cases effect

theorem effecting_of_effect {earlier : List InboxOp} {now : Int}
    (effect : (inboxAfter earlier).phase.effect = some (directive, now)) (result : Except AdapterError Unit) :
    Effecting ⟨inboxAfter earlier, .run result, inboxAfter (.run result :: earlier)⟩ directive now := by
  obtain ⟨inbox, receipt, phase⟩ := InboxPhase.recorded_of_effect effect
  exact ⟨result, inbox, receipt, rfl, phase⟩

theorem returning_of_recorded {earlier : List InboxOp} {inbox : SupervisorInbox} {now : Int}
    {receipt : V1.DirectiveReceipt} (phase : (inboxAfter earlier).phase = .recorded inbox directive now receipt)
    (result : Except AdapterError Unit) : Returning wire ⟨inboxAfter (.run result :: earlier), .report,
      inboxAfter (.report :: .run result :: earlier)⟩ directive (receipt.conclude result) := by
  have ran : inboxAfter (.run result :: earlier) = ⟨(inboxAfter earlier).tables, .ran inbox directive (receipt.conclude result)⟩ := by
    change ((inboxAfter earlier).step wire (.run result)).1 = _
    generalize inboxAfter earlier = s at phase
    obtain ⟨tables, _⟩ := s
    cases phase
    rfl
  rw [ran]
  exact ⟨rfl, rfl⟩

def InboxState.told (s : InboxState) (op : InboxOp) : Option V1.DirectiveReceipt := (s.step wire op).2.bind Except.toOption

theorem InboxState.answered_of_told {s : InboxState} {op : InboxOp} {receipt : V1.DirectiveReceipt} (told : s.told op = some receipt) :
    (s.step wire op).2 = some (.ok receipt) := by
  obtain ⟨answer, answered, its⟩ := bind_eq_some_iff.mp told
  rw [answered]
  cases answer with
  | error => cases its
  | ok => exact congrArg (some ∘ Except.ok) (some.inj its)

def noticed : List InboxOp := .run (.ok ()) :: .record :: applies

/-- The notice is accepted at its second second, the process stops, and the next one applies it at the ninth. -/
def appliesLate : List InboxOp :=
  [.record, .apply notice (seconds 9) [], .open notifying notifiedSession, .crash, .receive notice (seconds 2), .open notifying notifiedSession]

theorem notice_reads :
    (((inboxAfter applies).step wire .fail).2.any fun answer => answer.toOption.isNone) = true ∧
      (inboxAfter (.record :: applies)).phase.effect = some (notice, seconds 2) ∧
      ((inboxAfter noticed).told .report).any (fun receipt => receipt.status = V1.DirectiveReceiptStatus.applied.asI32) = true ∧
      (inboxAfter noticed).asked .report = some notice ∧ (inboxAfter (.report :: noticed)).phase.idle.isSome = true ∧
      (inboxAfter appliesLate).phase.effect = some (notice, seconds 9) ∧ wire.parseRfc3339 notice.expiresAt = some (seconds 5) ∧
      (inboxAfter applies.tail).tables.receipts.find? notice.directiveId = none ∧
      (inboxAfter (.fail :: .apply notice (seconds 2) [] :: applies.tail)).tables.receipts.rows ≠
        (inboxAfter applies.tail).tables.receipts.rows := by
  decide +kernel

/-- The database fails between the acceptance and what is written ahead of the effect. -/
theorem failed_apply_counterexample : ¬∀ history state, (supervisorInbox wire).Run history state →
    ∀ newer older applying failing directive now evidenceRefs error, history = newer ++ failing :: applying :: older →
      applying.op = .apply directive now evidenceRefs → (∀ result, failing.op ≠ .run result) →
        (failing.before.step wire failing.op).2 = some (.error error) →
          failing.after.tables.receipts.rows = applying.before.tables.receipts.rows := by
  intro unchanged
  obtain ⟨failed, _, _, _, _, _, _, _, grown⟩ := notice_reads
  obtain ⟨answer, answered, refused⟩ := (Option.any_eq_true _ _).mp failed
  cases answer with
  | ok => cases refused
  | error error =>
    have kept (directive : V1.AgentDirective) (earlier : List InboxOp)
        (answered : ((inboxAfter (.apply directive (seconds 2) [] :: earlier)).step wire .fail).2 = some (.error error)) :
        (inboxAfter (.fail :: .apply directive (seconds 2) [] :: earlier)).tables.receipts.rows = (inboxAfter earlier).tables.receipts.rows := by
      have same := unchanged _ _ (inbox_run (.fail :: .apply directive (seconds 2) [] :: earlier)) [] _ _ _ directive (seconds 2) [] error
        rfl rfl nofun answered
      exact same
    exact grown (kept notice applies.tail answered)

/-- Asked for again behind its time, the notice is told of as before. -/
theorem notice_told_again : ∃ receipt, receipt.status = V1.DirectiveReceiptStatus.applied.asI32 ∧
    (inboxAfter (.report :: noticed)).step wire (.apply notice (seconds 9) []) = (inboxAfter (.report :: noticed), some (.ok receipt)) := by
  obtain ⟨_, _, told, asked, idle, _⟩ := notice_reads
  obtain ⟨earlier, same⟩ : ∃ earlier, noticed = earlier := ⟨_, rfl⟩
  rw [same] at told asked idle ⊢
  obtain ⟨receipt, its, status⟩ := (Option.any_eq_true _ _).mp told
  have status : receipt.status = V1.DirectiveReceiptStatus.applied.asI32 := of_decide_eq_true status
  obtain ⟨inbox, ready⟩ := InboxPhase.ready_of_idle idle
  have again := (directive_takes_effect_once (inbox_run (.receive notice (seconds 9) :: .report :: earlier))).2.2.1
  have pair := (pairwise_cons.mp again).1 _ (inbox_entry .report [] earlier) notice receipt
  refine ⟨receipt, status, (pair ⟨asked, InboxState.answered_of_told its⟩ ?_ inbox ready (seconds 9) []).2⟩
  rw [status]
  decide

end

/-! When an effect can run behind its directive's expiry. The clock is read as a directive comes in, and
not again where an acceptance is found in the tables. -/

def V1.AgentDirective.Live (platform : DirectivePlatform) (directive : V1.AgentDirective) (now : Int) : Prop :=
  ∃ expiresAt, platform.parseRfc3339 directive.expiresAt = some expiresAt ∧ now < expiresAt

def InboxPhase.Live (platform : DirectivePlatform) : InboxPhase → Prop
  | .accepted _ directive now _ _ | .recorded _ directive now _ => directive.Live platform now
  | .closed | .ready _ | .ran _ _ _ => True

/-- Whatever was accepted, and not tried since, is applied in time. -/
def InboxState.Timely (platform : DirectivePlatform) (s : InboxState) : InboxOp → Prop
  | .apply directive now _ => ∀ stored, s.tables.receipts.find? directive.directiveId = some stored →
      stored.status = V1.DirectiveReceiptStatus.accepted.asI32 → s.tables.effects.find? directive.directiveId = none →
        directive.Live platform now
  | .open _ _ | .receive _ _ | .record | .run _ | .report | .fail | .crash => True

theorem SupervisorInbox.decision_accepted {inbox : SupervisorInbox} {requirement : DirectiveRequirement} {expiresAt now : Int}
    (accepted : (inbox.decision requirement expiresAt now).1.asI32 = V1.DirectiveReceiptStatus.accepted.asI32) : now < expiresAt := by
  unfold decision at accepted
  split at accepted
  · cases accepted
  rename_i live
  exact Int.not_le.mp live

namespace InboxState

theorem Moves.live (moves : s.Moves platform op after answer) (sound : s.Sound platform) (timely : s.Timely platform op)
    (live : s.phase.Live platform) : after.phase.Live platform := by
  cases moves with
  | stays => exact live
  | opens | receives | applied | replays | runs | reports | fails | crashes => exact trivial
  | records phase =>
    rw [phase] at live
    exact live
  | accepts _ _ received accepted =>
    cases received with
    | replays found =>
      obtain ⟨untried, plain⟩ := sound.tables.untried found accepted
      rw [plain] at accepted
      exact timely _ found accepted untried
    | stores _ _ _ parsed _ its =>
      subst its
      exact ⟨_, parsed, SupervisorInbox.decision_accepted accepted⟩

end InboxState

section

/-- An expired directive never acts, if none is applied that was accepted and has expired since. -/
theorem expired_directives_never_act (run : (supervisorInbox platform).Run history state)
    (timely : ∀ entry ∈ history, entry.before.Timely platform entry.op) :
    ∀ entry ∈ history, ∀ directive now, Effecting entry directive now → directive.Live platform now := by
  suffices both : (∀ entry ∈ history, ∀ directive now, Effecting entry directive now → directive.Live platform now) ∧
      state.phase.Live platform from both.1
  induction run with
  | start => exact ⟨fun _ member => by (cases member), trivial⟩
  | @step history state past op ready ih =>
    obtain ⟨here, earlier⟩ := forall_mem_cons.mp timely
    obtain ⟨acted, live⟩ := ih earlier
    have sound := inbox_sound past state past.current_visited
    refine ⟨forall_mem_cons.mpr ⟨?_, acted⟩, (state.step_moves platform op).live sound here live⟩
    rintro directive now ⟨_, inbox, receipt, _, phase⟩
    rw [phase] at live
    exact live

end

section

theorem late_effect_counterexample : ¬∀ history state, (supervisorInbox wire).Run history state →
    ∀ entry ∈ history, ∀ directive now, Effecting entry directive now → directive.Live wire now := by
  intro live
  obtain ⟨_, _, _, _, _, effect, parsed, _⟩ := notice_reads
  generalize appliesLate = earlier at effect
  obtain ⟨expiresAt, its, before⟩ := live _ _ (inbox_run (.run (.ok ()) :: earlier)) _ (inbox_entry (.run (.ok ())) [] earlier) _ _
    (effecting_of_effect effect (.ok ()))
  cases parsed.symm.trans its
  exact absurd before (by decide)

/-- Applied as it comes in. -/
theorem notice_in_time : notice.Live wire (seconds 2) := by
  obtain ⟨_, effect, _, _, _, _, _, absent, _⟩ := notice_reads
  refine expired_directives_never_act (inbox_run (.run (.ok ()) :: .record :: applies)) ?_ _ (inbox_entry (.run (.ok ())) [] _) _ _
    (effecting_of_effect effect (.ok ()))
  refine forall_mem_cons.mpr ⟨trivial, forall_mem_cons.mpr ⟨trivial, forall_mem_cons.mpr ⟨?_, ?_⟩⟩⟩
  · intro stored found
    cases absent.symm.trans found
  · exact forall_mem_singleton.mpr trivial

end

end MindLeak.Ackplane
