import MindLeak.Ackplane.Inbox

/-! What each operation does to a supervisor's inbox, and what the inbox and its process agree on. -/

namespace MindLeak.Ackplane

open Table List

/-- The receipt for a directive is there already, or it is new and takes the next number. -/
inductive SupervisorInbox.Receives (platform : DirectivePlatform) (inbox : SupervisorInbox) (tables : InboxTables)
    (directive : V1.AgentDirective) (now : Int) : V1.DirectiveReceipt → InboxTables → Prop where
  | replays {stored : StoredReceipt} (found : tables.receipts.find? directive.directiveId = some stored)
      (same : stored.payloadDigest = directive.payloadDigest) :
      Receives platform inbox tables directive now (tables.receiptOf stored) tables
  | stores {requirement : DirectiveRequirement} {expiresAt : Int} {occurredAt : String}
      (absent : tables.receipts.find? directive.directiveId = none) (required : directiveRequirement directive = some requirement)
      (next : tables.nextSequence = .ok directive.sequence) (parsed : platform.parseRfc3339 directive.expiresAt = some expiresAt)
      (formatted : platform.formatRfc3339 now = some occurredAt) {stored : StoredReceipt}
      (its : stored = inbox.receiptFor directive (inbox.decision requirement expiresAt now).1 (inbox.decision requirement expiresAt now).2
        occurredAt) :
      Receives platform inbox tables directive now stored.intoReceipt
        { tables with receipts := tables.receipts.insertOrIgnore stored }

variable {platform : DirectivePlatform} {inbox : SupervisorInbox} {tables after : InboxTables}
  {directive : V1.AgentDirective} {now : Int} {receipt : V1.DirectiveReceipt}

section

theorem receive_ok (received : inbox.receive platform tables directive now = .ok (receipt, after)) :
    inbox.admissible platform directive = .ok () ∧ inbox.Receives platform tables directive now receipt after := by
  obtain ⟨_, admitted, received⟩ := bind_ok received
  refine ⟨admitted, ?_⟩
  split at received
  next stored found =>
    obtain ⟨same, received⟩ := ite_then received
    cases received
    exact .replays found same
  next absent =>
    unfold SupervisorInbox.receiveNew at received
    split at received
    · cases received
    rename_i requirement required
    obtain ⟨_, _, received⟩ := bind_ok received
    obtain ⟨_, _, received⟩ := bind_ok received
    obtain ⟨_, _, received⟩ := bind_ok received
    obtain ⟨expected, next, received⟩ := bind_ok received
    obtain ⟨_, contiguous, received⟩ := bind_ok received
    rw [refuseIf_ok, not_not] at contiguous
    split at received
    · cases received
    rename_i expiresAt parsed
    split at received
    · cases received
    rename_i occurredAt formatted
    cases received
    exact .stores absent required (contiguous ▸ next) parsed formatted rfl

variable (now) in
theorem receive_again {stored : StoredReceipt} (admitted : inbox.admissible platform directive = .ok ())
    (found : tables.receipts.find? directive.directiveId = some stored) (same : stored.payloadDigest = directive.payloadDigest) :
    inbox.receive platform tables directive now = .ok (tables.receiptOf stored, tables) := by
  simp only [SupervisorInbox.receive, admitted, bind, Except.bind, found]
  exact if_pos same

end

namespace InboxState

inductive Moves (platform : DirectivePlatform) (s : InboxState) : InboxOp → InboxState → Option InboxAnswer → Prop where
  | stays {op : InboxOp} {answer : Option InboxAnswer} (unreceipted : ∀ receipt, answer ≠ some (.ok receipt))
      (ineffective : ∀ result, op = .run result → ∀ inbox directive now receipt, s.phase ≠ .recorded inbox directive now receipt) :
      Moves platform s op s answer
  | opens {registration : SupervisorRegistration} {session : SupervisorSession} {inbox : SupervisorInbox} {tables : InboxTables}
      (closed : s.phase = .closed) (opened : SupervisorInbox.fromConnection s.tables registration session = .ok (inbox, tables)) :
      Moves platform s (.open registration session) ⟨tables, .ready inbox⟩ none
  | receives {directive : V1.AgentDirective} {now : Int} {inbox : SupervisorInbox} {receipt : V1.DirectiveReceipt} {tables : InboxTables}
      (ready : s.phase = .ready inbox) (admitted : inbox.admissible platform directive = .ok ())
      (received : inbox.Receives platform s.tables directive now receipt tables) :
      Moves platform s (.receive directive now) ⟨tables, .ready inbox⟩ (some (.ok receipt))
  | applied {directive : V1.AgentDirective} {now : Int} {evidenceRefs : List String} {inbox : SupervisorInbox}
      {receipt : V1.DirectiveReceipt} {tables : InboxTables} (ready : s.phase = .ready inbox)
      (admitted : inbox.admissible platform directive = .ok ()) (received : inbox.Receives platform s.tables directive now receipt tables)
      (passed : receipt.status ≠ V1.DirectiveReceiptStatus.accepted.asI32) :
      Moves platform s (.apply directive now evidenceRefs) ⟨tables, .ready inbox⟩ (some (.ok receipt))
  | accepts {directive : V1.AgentDirective} {now : Int} {evidenceRefs : List String} {inbox : SupervisorInbox}
      {receipt : V1.DirectiveReceipt} {tables : InboxTables} (ready : s.phase = .ready inbox)
      (admitted : inbox.admissible platform directive = .ok ()) (received : inbox.Receives platform s.tables directive now receipt tables)
      (accepted : receipt.status = V1.DirectiveReceiptStatus.accepted.asI32) :
      Moves platform s (.apply directive now evidenceRefs) ⟨tables, .accepted inbox directive now evidenceRefs receipt⟩ none
  | replays {inbox : SupervisorInbox} {directive : V1.AgentDirective} {now : Int} {evidenceRefs : List String}
      {receipt : V1.DirectiveReceipt} {stored : StoredEffect} (phase : s.phase = .accepted inbox directive now evidenceRefs receipt)
      (found : s.tables.effects.find? directive.directiveId = some stored) :
      Moves platform s .record ⟨s.tables, .ready inbox⟩ (some (.ok stored.receipt))
  | records {inbox : SupervisorInbox} {directive : V1.AgentDirective} {now : Int} {evidenceRefs : List String}
      {receipt : V1.DirectiveReceipt} (phase : s.phase = .accepted inbox directive now evidenceRefs receipt)
      (untried : s.tables.effects.find? directive.directiveId = none) :
      Moves platform s .record ⟨s.tables.storeEffect directive.directiveId (receipt.unconfirmed evidenceRefs),
        .recorded inbox directive now (receipt.unconfirmed evidenceRefs)⟩ none
  | runs {inbox : SupervisorInbox} {directive : V1.AgentDirective} {now : Int} {receipt : V1.DirectiveReceipt}
      {result : Except AdapterError Unit} (phase : s.phase = .recorded inbox directive now receipt) :
      Moves platform s (.run result) ⟨s.tables, .ran inbox directive (receipt.conclude result)⟩ none
  | reports {inbox : SupervisorInbox} {directive : V1.AgentDirective} {receipt : V1.DirectiveReceipt}
      (phase : s.phase = .ran inbox directive receipt) :
      Moves platform s .report ⟨s.tables.storeEffect directive.directiveId receipt, .ready inbox⟩ (some (.ok receipt))
  | fails {inbox : SupervisorInbox} (phase : (∃ directive now evidenceRefs receipt, s.phase = .accepted inbox directive now evidenceRefs receipt) ∨
      ∃ directive receipt, s.phase = .ran inbox directive receipt) :
      Moves platform s .fail ⟨s.tables, .ready inbox⟩ (some (.error .database))
  | crashes : Moves platform s .crash ⟨s.tables, .closed⟩ none

section
variable {platform : DirectivePlatform} {s : InboxState} {op : InboxOp}

theorem stays_unasked (silent : ∀ result, op ≠ .run result := by simp) : s.Moves platform op s none :=
  .stays (fun _ given => by cases given) fun result same => absurd same (silent result)

theorem stays_refused {failure : InboxError} (silent : ∀ result, op ≠ .run result := by simp) :
    s.Moves platform op s (some (.error failure)) :=
  .stays (fun _ given => by cases given) fun result same => absurd same (silent result)

end

theorem step_moves (s : InboxState) (platform : DirectivePlatform) (op : InboxOp) :
    s.Moves platform op (s.step platform op).1 (s.step platform op).2 := by
  obtain ⟨tables, phase⟩ := s
  cases op with
  | «open» registration session =>
    cases phase with
    | ready | accepted | recorded | ran => exact stays_unasked
    | closed =>
      simp only [step]
      split
      next => exact stays_refused
      next opened => exact .opens rfl opened
  | receive directive now =>
    cases phase with
    | closed | accepted | recorded | ran => exact stays_unasked
    | ready inbox =>
      simp only [step]
      split
      · exact stays_refused
      rename_i done
      obtain ⟨admitted, received⟩ := receive_ok done
      exact .receives rfl admitted received
  | apply directive now evidenceRefs =>
    cases phase with
    | closed | accepted | recorded | ran => exact stays_unasked
    | ready inbox =>
      simp only [step]
      split
      · exact stays_refused
      rename_i done
      obtain ⟨admitted, received⟩ := receive_ok done
      split
      next passed => exact .applied rfl admitted received passed
      next accepted => exact .accepts rfl admitted received (not_not.mp accepted)
  | record =>
    cases phase with
    | closed | ready | recorded | ran => exact stays_unasked
    | accepted =>
      simp only [step]
      split
      next found => exact .replays rfl found
      next untried => exact .records rfl untried
  | run result =>
    cases phase with
    | closed | ready | accepted | ran => exact .stays (fun _ given => by cases given) fun _ _ _ _ _ _ phase => by cases phase
    | recorded => exact .runs rfl
  | report =>
    cases phase with
    | closed | ready | accepted | recorded => exact stays_unasked
    | ran => exact .reports rfl
  | fail =>
    cases phase with
    | closed | ready => exact stays_refused
    | recorded => exact stays_unasked
    | accepted => exact .fails (.inl ⟨_, _, _, _, rfl⟩)
    | ran => exact .fails (.inr ⟨_, _, rfl⟩)
  | crash => exact .crashes

end InboxState

namespace SupervisorInbox

def Bound (inbox : SupervisorInbox) (tables : InboxTables) : Prop :=
  tables.binding = some ⟨inbox.registration.identity, inbox.registration.supervisorId, inbox.session.sessionId, some inbox.session⟩

theorem fromConnection_bound {tables after : InboxTables} {registration : SupervisorRegistration} {session : SupervisorSession}
    {inbox : SupervisorInbox} (opened : fromConnection tables registration session = .ok (inbox, after)) :
    inbox.Bound after ∧ after = { tables with binding := after.binding } ∧ (∀ bound, tables.binding = some bound → after = tables) := by
  obtain ⟨_, _, opened⟩ := bind_ok opened
  obtain ⟨_, _, opened⟩ := bind_ok opened
  obtain ⟨_, _, opened⟩ := bind_ok opened
  obtain ⟨bound, ensured, opened⟩ := bind_ok opened
  cases opened
  unfold InboxTables.ensureSupervisorIdentity at ensured
  split at ensured
  next unbound =>
    cases ensured
    exact ⟨rfl, rfl, fun _ bound => by cases unbound.symm.trans bound⟩
  next stored its =>
    obtain ⟨same, ensured⟩ := ite_else ensured
    simp only [not_or, ne_eq, not_not] at same
    split at ensured
    · cases ensured
    rename_i declared session'
    obtain ⟨here, ensured⟩ := ite_then ensured
    cases ensured
    refine ⟨?_, rfl, fun _ _ => rfl⟩
    obtain ⟨identity, supervisorId, sessionId⟩ := same
    rw [Bound, its, ← identity, ← supervisorId, ← sessionId, ← here, ← session']

theorem admissible_congr {platform : DirectivePlatform} {inbox other : SupervisorInbox} {tables : InboxTables} (bound : inbox.Bound tables)
    (bound' : other.Bound tables) (directive : V1.AgentDirective) : inbox.admissible platform directive = other.admissible platform directive := by
  obtain ⟨identity, _, sessionId, _⟩ := InboxBinding.mk.inj (Option.some.inj (bound.symm.trans bound'))
  simp only [admissible, validateTarget, identity, sessionId]

end SupervisorInbox

namespace InboxTables

structure Sound (tables : InboxTables) : Prop where
  numbered : tables.receipts.rows.map StoredReceipt.sequence = List.range' 1 tables.receipts.rows.length
  tried : ∀ directiveId effect, tables.effects.find? directiveId = some effect →
    effect.receipt.status ≠ V1.DirectiveReceiptStatus.accepted.asI32 ∧ ∃ stored, tables.receipts.find? directiveId = some stored ∧
      stored.status = V1.DirectiveReceiptStatus.accepted.asI32

theorem sound_empty : empty.Sound where
  numbered := rfl
  tried _ _ found := by cases found

/-- What is there stays, but that an effect's receipt may be told anew. -/
structure Grows (before after : InboxTables) : Prop where
  binding : ∀ bound, before.binding = some bound → after.binding = some bound
  receipts : before.receipts.Extends after.receipts
  effects : ∀ directiveId, (before.effects.find? directiveId).isSome → (after.effects.find? directiveId).isSome

theorem Grows.refl (tables : InboxTables) : tables.Grows tables := ⟨fun _ => id, .refl _, fun _ => id⟩

theorem foldr_max_range (n : Nat) : (range' 1 n).foldr max 0 = n := by
  have bounded (start : Nat) (positive : 0 < start) : (range' start n).foldr max 0 = if n = 0 then 0 else start + n - 1 := by
    induction n generalizing start with
    | zero => rfl
    | succ n ih =>
      rw [range'_succ, foldr_cons, ih (start + 1) (Nat.succ_pos _), if_neg (Nat.succ_ne_zero n)]
      split <;> omega
  rw [bounded 1 Nat.one_pos]
  split <;> omega

theorem Sound.nextSequence_ok {tables : InboxTables} (sound : tables.Sound) {expected : Nat} (next : tables.nextSequence = .ok expected) :
    expected = tables.receipts.rows.length + 1 := by
  unfold nextSequence at next
  rw [sound.numbered, foldr_max_range] at next
  obtain ⟨_, next⟩ := ite_then next
  exact (Except.ok.inj next).symm

theorem storeEffect_found (tables : InboxTables) (directiveId : String) (receipt : V1.DirectiveReceipt) :
    (tables.storeEffect directiveId receipt).effects.find? directiveId = some ⟨directiveId, receipt⟩ :=
  (find?_put _ _ _).trans (if_pos rfl)

theorem storeEffect_grows (tables : InboxTables) (directiveId : String) (receipt : V1.DirectiveReceipt) :
    tables.Grows (tables.storeEffect directiveId receipt) := by
  refine ⟨fun _ => id, .refl _, fun other there => ?_⟩
  rw [storeEffect, find?_put]
  split
  next => rfl
  next => exact there

theorem Sound.storeEffect {tables : InboxTables} (sound : tables.Sound) {directiveId : String} {receipt : V1.DirectiveReceipt}
    (unaccepted : receipt.status ≠ V1.DirectiveReceiptStatus.accepted.asI32)
    (there : ∃ stored, tables.receipts.find? directiveId = some stored ∧ stored.status = V1.DirectiveReceiptStatus.accepted.asI32) :
    (tables.storeEffect directiveId receipt).Sound where
  numbered := sound.numbered
  tried other effect found := by
    rw [InboxTables.storeEffect, find?_put] at found
    split at found
    next same =>
      cases found
      exact ⟨unaccepted, same ▸ there⟩
    next => exact sound.tried other effect found

end InboxTables

theorem V1.DirectiveReceipt.conclude_ne_accepted (receipt : V1.DirectiveReceipt) (result : Except AdapterError Unit) :
    (receipt.conclude result).status ≠ V1.DirectiveReceiptStatus.accepted.asI32 := by
  cases result with
  | ok => exact nofun
  | error error => cases error <;> exact nofun

namespace SupervisorInbox

theorem receives_rows {stored : StoredReceipt} (absent : tables.receipts.find? directive.directiveId = none)
    (its : stored.directiveId = directive.directiveId) :
    (tables.receipts.insertOrIgnore stored).rows = tables.receipts.rows ++ [stored] := by
  refine insertOrIgnore_rows ?_
  rw [← its] at absent
  exact absent

section
variable (receives : inbox.Receives platform tables directive now receipt after)
include receives

theorem Receives.grows : tables.Grows after := by
  cases receives with
  | replays => exact .refl _
  | stores => exact ⟨fun _ => id, extends_insertOrIgnore _ _, fun _ => id⟩

theorem Receives.sound (sound : tables.Sound) : after.Sound := by
  cases receives with
  | replays => exact sound
  | stores absent required next parsed formatted its =>
    subst its
    refine ⟨?_, fun directiveId effect found => ?_⟩
    · dsimp only
      rw [receives_rows absent rfl, map_append, sound.numbered, length_append, length_singleton, range'_1_concat,
        Nat.add_comm 1, ← sound.nextSequence_ok next]
      rfl
    · obtain ⟨unaccepted, stored, there, accepted⟩ := sound.tried directiveId effect found
      exact ⟨unaccepted, stored, extends_insertOrIgnore _ _ _ _ there, accepted⟩

theorem Receives.stored (sound : tables.Sound) :
    ∃ stored, after.receipts.find? directive.directiveId = some stored ∧ stored.payloadDigest = directive.payloadDigest ∧
      receipt = after.receiptOf stored := by
  cases receives with
  | replays found same => exact ⟨_, found, same, rfl⟩
  | @stores requirement expiresAt occurredAt absent _ _ _ _ stored its =>
    have named : stored.directiveId = directive.directiveId := congrArg StoredReceipt.directiveId its
    refine ⟨stored, ?_, congrArg StoredReceipt.payloadDigest its, ?_⟩
    · rw [← named] at absent ⊢
      exact find?_insertOrIgnore_self _ absent
    · unfold InboxTables.receiptOf
      split
      next effect found =>
        obtain ⟨_, _, there, _⟩ := sound.tried _ effect found
        rw [named] at there
        cases absent.symm.trans there
      next => rfl

end

end SupervisorInbox

namespace InboxTables

theorem Sound.untried {tables : InboxTables} (sound : tables.Sound) {stored : StoredReceipt} {directiveId : String}
    (found : tables.receipts.find? directiveId = some stored)
    (accepted : (tables.receiptOf stored).status = V1.DirectiveReceiptStatus.accepted.asI32) :
    tables.effects.find? directiveId = none ∧ tables.receiptOf stored = stored.intoReceipt := by
  have named : stored.directiveId = directiveId := (mem_of_find? found).2
  subst named
  unfold receiptOf at accepted ⊢
  cases there : tables.effects.find? stored.directiveId with
  | none => exact ⟨rfl, rfl⟩
  | some effect =>
    rw [there] at accepted
    exact absurd accepted (sound.tried _ effect there).1

structure Applying (tables : InboxTables) (directive : V1.AgentDirective) (stored : StoredReceipt) : Prop where
  found : tables.receipts.find? directive.directiveId = some stored
  same : stored.payloadDigest = directive.payloadDigest
  accepted : stored.status = V1.DirectiveReceiptStatus.accepted.asI32

end InboxTables

def InboxPhase.Knows (platform : DirectivePlatform) (tables : InboxTables) : InboxPhase → Prop
  | .closed => True
  | .ready inbox => inbox.Bound tables
  | .accepted inbox directive _ _ receipt =>
    inbox.Bound tables ∧ inbox.admissible platform directive = .ok () ∧ ∃ stored, tables.Applying directive stored ∧ receipt = stored.intoReceipt
  | .recorded inbox directive _ receipt =>
    inbox.Bound tables ∧ inbox.admissible platform directive = .ok () ∧ (tables.effects.find? directive.directiveId).isSome ∧
      ∃ stored evidenceRefs, tables.Applying directive stored ∧ receipt = stored.intoReceipt.unconfirmed evidenceRefs
  | .ran inbox directive receipt =>
    inbox.Bound tables ∧ inbox.admissible platform directive = .ok () ∧ (tables.effects.find? directive.directiveId).isSome ∧
      ∃ stored evidenceRefs result, tables.Applying directive stored ∧ receipt = (stored.intoReceipt.unconfirmed evidenceRefs).conclude result

namespace InboxState
variable {s after : InboxState} {op : InboxOp} {answer : Option InboxAnswer}

structure Sound (platform : DirectivePlatform) (s : InboxState) : Prop where
  tables : s.tables.Sound
  knows : s.phase.Knows platform s.tables

theorem sound_empty (platform : DirectivePlatform) : empty.Sound platform := ⟨InboxTables.sound_empty, trivial⟩

theorem Moves.grows (moves : s.Moves platform op after answer) : s.tables.Grows after.tables := by
  cases moves with
  | stays | replays | runs | fails | crashes => exact .refl _
  | opens closed opened =>
    obtain ⟨_, same, kept⟩ := SupervisorInbox.fromConnection_bound opened
    refine ⟨fun bound its => by rw [kept bound its]; exact its, ?_, ?_⟩
    · rw [same]
      exact .refl _
    · rw [same]
      exact fun _ => id
  | receives _ _ received | applied _ _ received | accepts _ _ received => exact received.grows
  | records | reports => exact InboxTables.storeEffect_grows _ _ _

theorem Moves.sound (moves : s.Moves platform op after answer) (sound : s.Sound platform) : after.Sound platform := by
  have grows := moves.grows
  obtain ⟨tables, knows⟩ := sound
  cases moves with
  | stays => exact ⟨tables, knows⟩
  | crashes => exact ⟨tables, trivial⟩
  | opens closed opened =>
    obtain ⟨bound, same, _⟩ := SupervisorInbox.fromConnection_bound opened
    refine ⟨?_, bound⟩
    rw [same]
    exact ⟨tables.numbered, tables.tried⟩
  | receives ready _ received | applied ready _ received =>
    rw [ready] at knows
    exact ⟨received.sound tables, grows.binding _ knows⟩
  | accepts ready admitted received accepted =>
    rw [ready] at knows
    obtain ⟨stored, found, same, rfl⟩ := received.stored tables
    obtain ⟨_, plain⟩ := (received.sound tables).untried found accepted
    rw [plain] at accepted
    exact ⟨received.sound tables, grows.binding _ knows, admitted, stored, ⟨found, same, accepted⟩, plain⟩
  | replays phase =>
    rw [phase] at knows
    exact ⟨tables, knows.1⟩
  | records phase untried =>
    rw [phase] at knows
    obtain ⟨bound, admitted, stored, applying, rfl⟩ := knows
    refine ⟨tables.storeEffect nofun ⟨stored, applying.found, applying.accepted⟩, bound, admitted, ?_, stored, _, ?_, rfl⟩
    · exact Option.isSome_iff_exists.mpr ⟨_, InboxTables.storeEffect_found _ _ _⟩
    · exact ⟨applying.found, applying.same, applying.accepted⟩
  | runs phase =>
    rw [phase] at knows
    obtain ⟨bound, admitted, tried, stored, evidenceRefs, applying, rfl⟩ := knows
    exact ⟨tables, bound, admitted, tried, stored, evidenceRefs, _, applying, rfl⟩
  | reports phase =>
    rw [phase] at knows
    obtain ⟨bound, _, tried, stored, evidenceRefs, result, applying, rfl⟩ := knows
    exact ⟨tables.storeEffect (V1.DirectiveReceipt.conclude_ne_accepted _ _) ⟨stored, applying.found, applying.accepted⟩, bound⟩
  | fails phase =>
    refine ⟨tables, ?_⟩
    rcases phase with ⟨_, _, _, _, phase⟩ | ⟨_, _, phase⟩ <;> rw [phase] at knows <;> exact knows.1

end InboxState

section
variable {history : List (Entry InboxState InboxOp)} {state : InboxState}

theorem inbox_sound (run : (supervisorInbox platform).Run history state) :
    ∀ seen ∈ (supervisorInbox platform).visited history, seen.Sound platform :=
  run.visited_good (·.Sound platform) (InboxState.sound_empty platform) fun before op => (before.step_moves platform op).sound

theorem inbox_moves (run : (supervisorInbox platform).Run history state) {entry : Entry InboxState InboxOp} (member : entry ∈ history) :
    entry.before.Sound platform ∧
      entry.before.Moves platform entry.op entry.after (entry.before.step platform entry.op).2 := by
  obtain ⟨sound, same⟩ := run.entry_good (·.Sound platform) (InboxState.sound_empty platform)
    (fun before op => (before.step_moves platform op).sound) member
  rw [same]
  exact ⟨sound, entry.before.step_moves platform entry.op⟩

end

end MindLeak.Ackplane
