import MindLeak.Proofs.CommandBytes
import MindLeak.Proofs.CommandGrowth

/-! A Work command takes effect once: its receipt is written with its effect, and whoever comes later
finds both, as long as no two receipts have one digest. -/

namespace MindLeak.Ackplane

open CommandStore WorkCommands List Table Interleaving Except

def CommandKey.confirm (key : CommandKey) : ReceiptKey := ⟨key.tenantId, key.repositoryId, key.commandId ++ ":confirm"⟩

def CommandKey.stream (key : CommandKey) : Stream := ⟨key.tenantId, key.repositoryId⟩

theorem confirm_injective {first second : CommandKey} (same : first.confirm = second.confirm) : first = second := by
  obtain ⟨tenantId, repositoryId, commandId⟩ := first
  simp only [CommandKey.confirm, ReceiptKey.mk.injEq, String.append_left_inj] at same
  obtain ⟨rfl, rfl, rfl⟩ := same
  rfl

theorem report_ne_confirm (first second : CommandKey) : first.report ≠ second.confirm := by
  intro same
  exact Text.append_ne_append rfl rfl (by decide) (congrArg ReceiptKey.receiptId same)

theorem pendingReceipt_ne_confirm (request : NewWorkCommand) (row : WorkCommandRow) (command : CommandKey) :
    (request.pendingReceipt row).key ≠ command.confirm := by
  intro same
  exact Text.append_ne_append rfl rfl (by decide) (congrArg ReceiptKey.receiptId same)

def issuedReason (directiveId : String) : String := ((ExecutionOutcome.directiveIssued directiveId).describe 0).2

theorem issuedReason_injective {first second : String} (same : issuedReason first = issuedReason second) : first = second := by
  simp only [issuedReason, ExecutionOutcome.describe, String.append_left_inj, String.append_right_inj] at same
  exact same

variable {outcome : ExecutionOutcome} {now : Int}

namespace ExecutionOutcome

theorem describe_applied (told : (outcome.describe now).1 = .applied) : outcome = .applied := by
  cases outcome <;> first | rfl | cases told

theorem describe_pendingDelivery (told : (outcome.describe now).1 = .pendingDelivery) :
    ∃ directiveId, outcome = .directiveIssued directiveId := by
  cases outcome <;> first | exact ⟨_, rfl⟩ | cases told

end ExecutionOutcome

def CommandStore.Distinct (platform : Platform) (s : CommandStore) (receipt : NewWorkCommandReceipt) : Prop :=
  ∀ row ∈ s.receipts.rows, ∀ bytes bytes', receipt.bytes = .ok bytes → row.toNewWorkCommandReceipt.bytes = .ok bytes' →
    platform.sha256 bytes = platform.sha256 bytes' → bytes = bytes'

structure CommandStore.Backs (s : CommandStore) (key : CommandKey) (receipt : WorkCommandReceipt) : Prop where
  applied : receipt.outcome = .applied → ∃ event, s.work.history.find? (key.stream, key.commandId) = some event
  issued : receipt.outcome = .pendingDelivery → ∃ command directiveId record, s.commands.find? key = some command ∧
    command.directiveId = some directiveId ∧ s.directives.find? ⟨key.tenantId, key.repositoryId, directiveId⟩ = some record ∧
    receipt.reason = issuedReason directiveId

def CommandStore.Confirmed (s : CommandStore) (command : WorkCommandRow) : Prop :=
  ∀ directiveId, command.directiveId = some directiveId → ∃ receipt, s.receipts.find? command.key.confirm = some receipt ∧
    receipt.outcome = .pendingDelivery ∧ receipt.reason = issuedReason directiveId

def WorkCommandReceipt.Hashed (platform : Platform) (row : WorkCommandReceipt) : Prop :=
  row.toNewWorkCommandReceipt.Countable ∧ row.toNewWorkCommandReceipt.digest platform = .ok row.receiptDigest

structure CommandStore.Settled (platform : Platform) (s : CommandStore) : Prop where
  hashed : ∀ row ∈ s.receipts.rows, row.Hashed platform
  backed : ∀ key receipt, s.receipts.find? key.confirm = some receipt → s.Backs key receipt
  confirmed : ∀ command ∈ s.commands.rows, s.Confirmed command
  alone : ∀ first ∈ s.commands.rows, ∀ second ∈ s.commands.rows, ∀ directive, first.issued = some directive →
    second.issued = some directive → first.key = second.key

theorem settled_empty (platform : Platform) : CommandStore.empty.Settled platform where
  hashed _ member := by cases member
  backed _ _ found := by cases found
  confirmed _ member := by cases member
  alone _ member := by cases member

structure CommandStore.Follows (before after : CommandStore) : Prop where
  grows : before.Grows after
  issued : ∀ row ∈ before.commands.rows, row.directiveId.isSome → row ∈ after.commands.rows

theorem CommandStore.Follows.refl (s : CommandStore) : s.Follows s := ⟨.refl s, fun _ member _ => member⟩

theorem CommandStore.Follows.trans {first middle last : CommandStore} (one : first.Follows middle) (other : middle.Follows last) :
    first.Follows last :=
  ⟨one.grows.trans other.grows, fun row member issued => other.issued row (one.issued row member issued) issued⟩

variable {s after : CommandStore}

namespace CommandStore
variable {platform : Platform}

section
variable (settled : s.Settled platform)
include settled

theorem Settled.step (follows : s.Follows after)
    (receipts : ∀ row ∈ after.receipts.rows, row ∈ s.receipts.rows ∨ row.Hashed platform ∧
      ∀ key : CommandKey, row.key = key.confirm → after.Backs key row)
    (commands : ∀ row ∈ after.commands.rows, row ∈ s.commands.rows ∨ after.Confirmed row)
    (alone : ∀ first ∈ after.commands.rows, ∀ second ∈ after.commands.rows, ∀ directive, first.issued = some directive →
      second.issued = some directive → first ∉ s.commands.rows → first.key = second.key) : after.Settled platform where
  hashed row member := (receipts row member).elim (settled.hashed row) And.left
  backed key receipt found := by
    obtain ⟨member, named⟩ := mem_of_find? found
    rcases receipts receipt member with old | new
    · obtain ⟨applied, issued⟩ := settled.backed key receipt (Table.find?_eq_some_iff.mpr ⟨old, named⟩)
      refine ⟨fun told => ?_, fun told => ?_⟩
      · obtain ⟨event, there⟩ := applied told
        exact ⟨event, follows.grows.work.history _ _ there⟩
      · obtain ⟨command, directiveId, record, there, its, directive, reason⟩ := issued told
        obtain ⟨inside, same⟩ := mem_of_find? there
        refine ⟨command, directiveId, record, ?_, its, follows.grows.ledger.directives _ _ directive, reason⟩
        exact Table.find?_eq_some_iff.mpr ⟨follows.issued command inside (by rw [its]; rfl), same⟩
    · exact new.2 key named
  confirmed command member := by
    rcases commands command member with old | new
    · intro directiveId its
      obtain ⟨receipt, there, told⟩ := settled.confirmed command old directiveId its
      exact ⟨receipt, follows.grows.ledger.receipts _ _ there, told⟩
    · exact new
  alone first member second member' directive its its' := by
    by_cases old : first ∈ s.commands.rows
    · by_cases old' : second ∈ s.commands.rows
      · exact settled.alone first old second old' directive its its'
      · exact (alone second member' first member directive its' its old').symm
    · exact alone first member second member' directive its its' old

theorem Settled.keep (grows : s.Grows after) (commands : after.commands = s.commands)
    (receipts : ∀ row ∈ after.receipts.rows, row ∈ s.receipts.rows ∨ row.Hashed platform ∧
      ∀ key : CommandKey, row.key = key.confirm → after.Backs key row) : s.Follows after ∧ after.Settled platform := by
  have follows : s.Follows after := ⟨grows, fun _ member _ => commands ▸ member⟩
  refine ⟨follows, settled.step follows receipts (fun _ member => .inl (commands ▸ member)) ?_⟩
  exact fun first member _ _ _ _ _ new => absurd (commands ▸ member : first ∈ s.commands.rows) new

theorem Settled.same (grows : s.Grows after) (commands : after.commands = s.commands)
    (receipts : after.receipts = s.receipts) : s.Follows after ∧ after.Settled platform :=
  settled.keep grows commands fun _ member => .inl (receipts ▸ member)

theorem Settled.issuer_iff {directive : DirectiveKey} {command : WorkCommandRow} :
    s.look (.issuer directive) = some command ↔ command ∈ s.commands.rows ∧ command.issued = some directive := by
  constructor
  · intro found
    have its := List.find?_some found
    exact ⟨mem_of_find?_eq_some found, of_decide_eq_true its⟩
  · rintro ⟨member, its⟩
    have there : (s.commands.rows.find? fun row => row.issued = some directive).isSome :=
      List.find?_isSome.mpr ⟨command, member, decide_eq_true its⟩
    obtain ⟨other, found⟩ := Option.isSome_iff_exists.mp there
    have inside := mem_of_find?_eq_some found
    have its' := List.find?_some found
    have same := settled.alone other inside command member directive (of_decide_eq_true its') its
    have here : s.commands.find? (Row.key command) = some other := Table.find?_eq_some_iff.mpr ⟨inside, same⟩
    rw [Table.find?_of_mem member] at here
    cases here
    exact found

end

structure Kept (s after : CommandStore) : Prop where
  same : after = { s with directiveHeads := after.directiveHeads }
  heads : ∀ stream, after.directivePosition stream = s.directivePosition stream

theorem Kept.refl (s : CommandStore) : s.Kept s := ⟨rfl, fun _ => rfl⟩

theorem Kept.commands (kept : s.Kept after) : after.commands = s.commands := by rw [kept.same]

theorem Kept.receipts (kept : s.Kept after) : after.receipts = s.receipts := by rw [kept.same]

theorem directivePosition_advance (s : CommandStore) (stream other : DirectiveStream) (position : Int) :
    (s.advanceDirectives stream position).directivePosition other = if stream = other then position else s.directivePosition other := by
  rw [directivePosition, advanceDirectives, Table.find?_put]
  change ((if stream = other then _ else _ : Option DirectiveStreamHead).map _).getD 0 = _
  split
  next => rfl
  next => rfl

theorem kept_advance (s : CommandStore) (stream : DirectiveStream) :
    s.Kept (s.advanceDirectives stream (s.directivePosition stream)) := by
  refine ⟨rfl, fun other => ?_⟩
  rw [directivePosition_advance]
  split
  next same => rw [same]
  next => rfl

end CommandStore

variable {seen : CommandStore → Prop} {platform : DirectivePlatform}

namespace WorkCommands

variable {middle : CommandStore} {digest : Bytes} {answer : WorkCommandReceiptWriteOutcome}

section
variable {platform : Platform} {receipt : NewWorkCommandReceipt}

theorem Receipted.new_or_there (settled : s.Settled platform) (distinct : s.Distinct platform receipt)
    (grown : ∀ earlier, seen earlier → earlier.Grows s) (valid : receipt.validate now = .ok ())
    (hashed : receipt.digest platform = .ok digest) (receipted : Receipted receipt digest now seen s middle after answer) :
    (s.receipts.find? receipt.key = none ∧ answer = ⟨receipt.row digest now, false⟩ ∧
        after = middle.insertReceipt (receipt.row digest now)) ∨
      ∃ existing, s.receipts.find? receipt.key = some existing ∧ answer = ⟨existing, true⟩ ∧ after = middle ∧
        existing.outcome = receipt.outcome ∧ existing.reason = receipt.reason := by
  cases receipted with
  | inserts free =>
    refine .inl ⟨?_, rfl, rfl⟩
    cases found : s.receipts.find? receipt.key with
    | none => rfl
    | some taken =>
      obtain ⟨member, named⟩ := mem_of_find? found
      rw [look, Bool.not_eq_true', any_eq_false] at free
      exact absurd (decide_eq_true (.inl named)) (free taken member)
  | @replays existing earlier known there same =>
    have member : existing ∈ s.receipts.rows := by
      rcases there with found | ⟨member, _⟩
      · exact (mem_of_find? ((grown earlier known).ledger.receipts _ _ found)).1
      · exact (mem_of_find? ((grown earlier known).ledger.receipts _ _ (Table.find?_of_mem member))).1
    obtain ⟨countable, stored⟩ := settled.hashed existing member
    obtain ⟨bytes, its, sealed⟩ := bind_ok hashed
    obtain ⟨bytes', its', sealed'⟩ := bind_ok stored
    have collides := distinct existing member bytes bytes' its its'
      ((ok.inj sealed).trans (same.symm.trans (ok.inj sealed').symm))
    subst collides
    have alike := NewWorkCommandReceipt.eq_of_bytes countable (NewWorkCommandReceipt.countable valid) its' its
    refine .inr ⟨existing, Table.find?_eq_some_iff.mpr ⟨member, ?_⟩, rfl, rfl, ?_, ?_⟩
    · exact (congrArg NewWorkCommandReceipt.key alike).trans rfl
    · exact (congrArg NewWorkCommandReceipt.outcome alike).trans rfl
    · exact (congrArg NewWorkCommandReceipt.reason alike).trans rfl

end

variable {command : WorkCommandRow} {payload : WorkCommandPayload}

section

theorem recorded_event (base : CommandStore) (event : WorkEvent) (position : Int) :
    ∃ row, (base.recorded event position).work.history.find? (event.key.stream, event.eventId) = some row :=
  ⟨_, (Table.find?_insertOrIgnore base.work.history ⟨event, position⟩ _).trans (if_pos rfl)⟩

theorem Effect.event (effect : Effect platform command now seen s s payload after outcome) (applied : outcome = .applied) :
    s.work.history.find? (command.key.stream, command.commandId) = none ∧
      ∃ row, after.work.history.find? (command.key.stream, command.commandId) = some row := by
  cases effect with
  | refuses => cases applied
  | creates _ accepts => exact ⟨accepts.fresh, recorded_event _ _ _⟩
  | applies _ _ applies =>
    cases applies with
    | leaves idle => exact absurd applied idle
    | changes _ _ _ _ changed =>
      cases changed with
      | mk _ _ accepts => exact ⟨accepts.fresh, recorded_event _ _ _⟩
  | issues _ issues =>
    cases issues with
    | leaves idle => exact absurd applied idle
    | issues => cases applied

theorem Effect.directive {directiveId : String}
    (effect : Effect platform command now seen s s payload after (.directiveIssued directiveId)) :
    ∃ directive expiresAt middle written, Issued command directive ∧ Enqueues platform directive expiresAt now seen s s middle written ∧
      written.record.directive.directiveId = directiveId ∧
      s.look (.issuerSlot command.key ⟨command.tenantId, command.repositoryId, directiveId⟩) = none ∧
      after = middle.issue command.key directiveId := by
  cases effect with
  | applies _ _ applies =>
    cases applies with
    | leaves _ unissued => exact absurd rfl (unissued directiveId)
  | issues _ issues =>
    cases issues with
    | leaves _ unissued => exact absurd rfl (unissued directiveId)
    | issues its enqueues issuer => exact ⟨_, _, _, _, its, enqueues, rfl, issuer, rfl⟩

theorem Effect.idle (effect : Effect platform command now seen s s payload after outcome)
    (unapplied : (outcome.describe now).1 ≠ .applied) (undelivered : (outcome.describe now).1 ≠ .pendingDelivery) : after = s := by
  cases effect with
  | refuses => rfl
  | creates => exact absurd rfl unapplied
  | applies _ _ applies =>
    cases applies with
    | leaves => rfl
    | changes => exact absurd rfl unapplied
  | issues _ issues =>
    cases issues with
    | leaves => rfl
    | issues => exact absurd rfl undelivered

theorem issue_self {key : CommandKey} {row : WorkCommandRow} {directiveId : String} (found : s.commands.find? key = some row)
    (its : row.directiveId = some directiveId) : s.issue key directiveId = s := by
  have same : s.commands.update (fun row => row.key = key) (fun row => row.issue directiveId) (fun row => row.issue_key directiveId) =
      s.commands := by
    refine update_eq_self fun other member selected => ?_
    have here : s.commands.find? key = some other := Table.find?_eq_some_iff.mpr ⟨member, of_decide_eq_true selected⟩
    cases found.symm.trans here
    rw [WorkCommandRow.issue, ← its]
  rw [CommandStore.issue, same]

theorem Effect.kept {existing : WorkCommandReceipt} (settled : s.Settled platform.toPlatform)
    (there : s.receipts.find? command.key.confirm = some existing) (outcomes : existing.outcome = (outcome.describe now).1)
    (reasons : existing.reason = (outcome.describe now).2)
    (effect : Effect platform command now seen s s payload after outcome) : s.Kept after := by
  have backs := settled.backed _ _ there
  by_cases applied : outcome = .applied
  · obtain ⟨row, found⟩ := backs.applied (by rw [outcomes, applied]; rfl)
    cases (effect.event applied).1.symm.trans found
  cases effect with
  | refuses => exact .refl s
  | creates => exact absurd rfl applied
  | applies _ _ applies =>
    cases applies with
    | leaves => exact .refl s
    | changes => exact absurd rfl applied
  | issues _ issues =>
    cases issues with
    | leaves => exact .refl s
    | @issues directive _ middle written its enqueues =>
      obtain ⟨row, directiveId, record, found, issued, taken, reason⟩ := backs.issued outcomes
      have same : directiveId = written.record.directive.directiveId := issuedReason_injective (reason.symm.trans reasons)
      subst same
      cases enqueues with
      | replays _ _ _ idle =>
        rcases idle with rfl | rfl
        · rw [issue_self found issued]
          exact .refl _
        · rw [issue_self (s := s.advanceDirectives _ _) found issued]
          exact kept_advance s _
      | appends _ dated sequences =>
        obtain ⟨member, named⟩ := mem_of_find? taken
        have free := sequences.free
        rw [look, Bool.not_eq_true', any_eq_false] at free
        refine absurd (decide_eq_true (.inl (named.trans ?_))) (free record member)
        rw [its.key]
        exact congrArg (fun key : DirectiveKey => (⟨command.tenantId, command.repositoryId, key.directiveId⟩ : DirectiveKey)) its.key

end

section
variable {order : CommandStore → CommandStore → Prop}

/-- A confirmation that is the first writes its receipt; any other finds it, and keeps everything. -/
inductive Once (platform : DirectivePlatform) (command : WorkCommandRow) (payload : WorkCommandPayload) (now : Int)
    (order : CommandStore → CommandStore → Prop) (seen : CommandStore → Prop) (s after : CommandStore) :
    WorkCommandReceiptWriteOutcome → Prop where
  | first {middle : CommandStore} {outcome : ExecutionOutcome} {digest : Bytes} (absent : s.receipts.find? command.key.confirm = none)
      (decided : (confirmedOutcome platform command payload now).Runs look s order seen s middle outcome)
      (valid : (command.confirmReceipt outcome now).validate now = .ok ())
      (hashed : (command.confirmReceipt outcome now).digest platform.toPlatform = .ok digest)
      (written : after = middle.insertReceipt ((command.confirmReceipt outcome now).row digest now)) :
      Once platform command payload now order seen s after ⟨(command.confirmReceipt outcome now).row digest now, false⟩
  | again {existing : WorkCommandReceipt} (there : s.receipts.find? command.key.confirm = some existing) (kept : s.Kept after) :
      Once platform command payload now order seen s after ⟨existing, true⟩

theorem Executes.once (settled : s.Settled platform.toPlatform) (grown : ∀ earlier, seen earlier → earlier.Grows s)
    (distinct : ∀ middle outcome, (confirmedOutcome platform command payload now).Runs look s order seen s middle outcome →
      s.Distinct platform.toPlatform (command.confirmReceipt outcome now))
    (executes : Executes platform command payload now order seen s s after answer) :
    Once platform command payload now order seen s after answer := by
  cases executes with
  | replays known there => exact .again ((grown _ known).ledger.receipts _ _ there) (.refl s)
  | @confirms middle _ outcome digest _ decided valid hashed receipted =>
    rcases receipted.new_or_there settled (distinct middle outcome decided) grown valid hashed with
      ⟨absent, rfl, written⟩ | ⟨existing, there, rfl, rfl, outcomes, reasons⟩
    · exact .first absent decided valid hashed written
    · refine .again there ?_
      rcases confirmedOutcome_runs decided with ⟨_, rfl, _⟩ | ⟨_, runs⟩
      · exact .refl _
      · exact (applyEffect_runs runs).kept settled there outcomes reasons

variable (digest) in
theorem backs_first (grown : ∀ earlier, seen earlier → earlier.Grows s)
    (decided : (confirmedOutcome platform command payload now).Runs look s order seen s middle outcome)
    (asked : ∃ row, s.commands.find? command.key = some row) :
    (middle.insertReceipt ((command.confirmReceipt outcome now).row digest now)).Backs command.key
      ((command.confirmReceipt outcome now).row digest now) := by
  rcases confirmedOutcome_runs decided with ⟨_, _, rfl | rfl⟩ | ⟨_, runs⟩
  · exact ⟨nofun, nofun⟩
  · exact ⟨nofun, nofun⟩
  refine ⟨fun told => ?_, fun told => ?_⟩
  · obtain rfl := ExecutionOutcome.describe_applied told
    exact ((applyEffect_runs runs).event rfl).2
  · obtain ⟨directiveId, rfl⟩ := ExecutionOutcome.describe_pendingDelivery told
    obtain ⟨directive, _, base, written, its, enqueues, rfl, _, rfl⟩ := (applyEffect_runs runs).directive
    obtain ⟨row, found⟩ := asked
    have there := enqueues.there grown
    refine ⟨row.issue written.record.directive.directiveId, _, written.record, ?_, rfl, ?_, rfl⟩
    · refine (Table.find?_update_one base.commands command.key command.key _ fun row => row.issue_key _).trans ?_
      rw [if_pos rfl, enqueues.commands.1, found]
      rfl
    · obtain ⟨tenantId, repositoryId, _⟩ := DirectiveKey.mk.inj its.key
      rw [tenantId, repositoryId] at there
      exact there

theorem unissued_of_absent (settled : s.Settled platform.toPlatform) (absent : s.receipts.find? command.key.confirm = none)
    {row : WorkCommandRow} (member : row ∈ s.commands.rows) (its : row.key = command.key) : row.directiveId = none := by
  cases here : row.directiveId with
  | none => rfl
  | some other =>
    obtain ⟨receipt, there, _⟩ := settled.confirmed row member other here
    rw [its, absent] at there
    cases there

theorem mem_issue {base : CommandStore} {directiveId : String} {row : WorkCommandRow} (commands : base.commands = s.commands)
    (member : row ∈ (base.issue command.key directiveId).commands.rows) :
    row ∈ s.commands.rows ∧ row.key ≠ command.key ∨ row.key = command.key ∧ row.directiveId = some directiveId := by
  obtain ⟨old, inside, rfl⟩ := mem_map.mp member
  rw [commands] at inside
  by_cases its : old.key = command.key
  · rw [if_pos (decide_eq_true its)]
    exact .inr ⟨its, rfl⟩
  · rw [if_neg (by simpa using its)]
    exact .inl ⟨inside, its⟩

theorem decided_cases (decided : (confirmedOutcome platform command payload now).Runs look s order seen s middle outcome) :
    (∃ directive expiresAt base written, Issued command directive ∧
        Enqueues platform directive expiresAt now seen s s base written ∧ outcome = .directiveIssued written.record.directive.directiveId ∧
        s.look (.issuerSlot command.key ⟨command.tenantId, command.repositoryId, written.record.directive.directiveId⟩) = none ∧
        middle = base.issue command.key written.record.directive.directiveId) ∨
      middle.commands = s.commands ∧ middle.receipts = s.receipts := by
  by_cases issued : ∃ directiveId, outcome = .directiveIssued directiveId
  · obtain ⟨directiveId, rfl⟩ := issued
    rcases confirmedOutcome_runs decided with ⟨_, _, its | its⟩ | ⟨_, runs⟩
    · cases its
    · cases its
    obtain ⟨directive, expiresAt, base, written, its, enqueues, rfl, issuer, same⟩ := (applyEffect_runs runs).directive
    exact .inl ⟨directive, expiresAt, base, written, its, enqueues, rfl, issuer, same⟩
  · have same : middle.ledger = s.ledger := by
      rcases confirmedOutcome_runs decided with ⟨_, rfl, _⟩ | ⟨_, runs⟩
      · rfl
      · exact (applyEffect_runs runs).ledger_eq fun directiveId its => issued ⟨directiveId, its⟩
    exact .inr ⟨congrArg Ledger.commands same, congrArg Ledger.receipts same⟩

theorem settled_first (settled : s.Settled platform.toPlatform) (grown : ∀ earlier, seen earlier → earlier.Grows s)
    (absent : s.receipts.find? command.key.confirm = none)
    (decided : (confirmedOutcome platform command payload now).Runs look s order seen s middle outcome)
    (valid : (command.confirmReceipt outcome now).validate now = .ok ())
    (hashed : (command.confirmReceipt outcome now).digest platform.toPlatform = .ok digest)
    (asked : ∃ row, s.commands.find? command.key = some row)
    (grows : s.Grows (middle.insertReceipt ((command.confirmReceipt outcome now).row digest now))) :
    s.Follows (middle.insertReceipt ((command.confirmReceipt outcome now).row digest now)) ∧
      (middle.insertReceipt ((command.confirmReceipt outcome now).row digest now)).Settled platform.toPlatform := by
  have backs := backs_first digest grown decided asked
  have receipts (same : middle.receipts = s.receipts) (row : WorkCommandReceipt)
      (member : row ∈ (middle.receipts.insertOrIgnore ((command.confirmReceipt outcome now).row digest now)).rows) :
      row ∈ s.receipts.rows ∨ row.Hashed platform.toPlatform ∧ ∀ key : CommandKey, row.key = key.confirm →
        (middle.insertReceipt ((command.confirmReceipt outcome now).row digest now)).Backs key row := by
    rcases mem_insertOrIgnore member with old | rfl
    · exact .inl (same ▸ old)
    · refine .inr ⟨⟨NewWorkCommandReceipt.countable valid, hashed⟩, fun key its => ?_⟩
      obtain rfl : command.key = key := confirm_injective its
      exact backs
  rcases decided_cases decided with ⟨directive, _, base, written, _, enqueues, rfl, issuer, rfl⟩ | ⟨commands, same⟩
  · obtain ⟨commands, kept⟩ := enqueues.commands
    have follows : s.Follows ((base.issue command.key written.record.directive.directiveId).insertReceipt
        ((command.confirmReceipt (.directiveIssued written.record.directive.directiveId) now).row digest now)) := by
      refine ⟨grows, fun row member its => mem_map.mpr ⟨row, commands ▸ member, ?_⟩⟩
      refine if_neg fun selected => ?_
      rw [unissued_of_absent settled absent member (of_decide_eq_true selected)] at its
      cases its
    refine ⟨follows, settled.step follows (receipts kept) (fun row member => ?_) ?_⟩
    · rcases mem_issue commands member with ⟨old, _⟩ | ⟨its, issued⟩
      · exact .inl old
      refine .inr fun other same => ?_
      cases issued.symm.trans same
      refine ⟨(command.confirmReceipt (.directiveIssued written.record.directive.directiveId) now).row digest now, ?_, rfl, rfl⟩
      rw [its]
      exact Table.find?_insertOrIgnore_self _ (kept ▸ absent : base.receipts.find? _ = none)
    · intro one member other member' named its its' new
      obtain ⟨mine, issued⟩ := (mem_issue commands member).resolve_left fun old => new old.1
      rcases mem_issue commands member' with ⟨old, apart⟩ | ⟨same, _⟩
      · have taken : s.commands.rows.find? (fun row => row.key ≠ command.key ∧
            row.issued = some ⟨command.tenantId, command.repositoryId, written.record.directive.directiveId⟩) = none := issuer
        refine absurd (decide_eq_true ⟨apart, ?_⟩) (List.find?_eq_none.mp taken other old)
        rw [its', ← its, WorkCommandRow.issued, issued]
        obtain ⟨tenantId, repositoryId, _⟩ := CommandKey.mk.inj mine
        rw [tenantId, repositoryId]
        rfl
      · exact mine.trans same.symm
  · exact settled.keep grows commands (receipts same)

end

section

theorem Receipted.settled {receipt : NewWorkCommandReceipt} {digest : Bytes} {now : Int} {seen : CommandStore → Prop}
    {answer : WorkCommandReceiptWriteOutcome} (settled : s.Settled platform.toPlatform) (grows : s.Grows after)
    (commands : middle.commands = s.commands) (receipts : middle.receipts = s.receipts) (valid : receipt.validate now = .ok ())
    (hashed : receipt.digest platform.toPlatform = .ok digest) (other : ∀ key : CommandKey, receipt.key ≠ key.confirm)
    (receipted : Receipted receipt digest now seen s middle after answer) : s.Follows after ∧ after.Settled platform.toPlatform := by
  cases receipted with
  | replays => exact settled.same grows commands receipts
  | inserts =>
    refine settled.keep grows commands fun row member => ?_
    rcases mem_insertOrIgnore member with old | rfl
    · exact .inl (receipts ▸ old)
    · exact .inr ⟨⟨NewWorkCommandReceipt.countable valid, hashed⟩, fun key its => absurd its (other key)⟩

end

end WorkCommands

namespace CommandCall
variable {call : CommandCall} {answer : CommandAnswer}

/-- The receipt that a call would have stored: its confirmation's, as it is decided, or the one that a
supervisor's answer becomes. -/
inductive Asks (platform : DirectivePlatform) (s : CommandStore) : CommandCall → NewWorkCommandReceipt → Prop where
  | confirm {principal : VerifiedWorkCommandPrincipal} {key : CommandKey} {payload : WorkCommandPayload} {now : Int}
      {earlier middle : CommandStore} {command : WorkCommandRow} {outcome : ExecutionOutcome} (known : earlier.Follows s)
      (found : earlier.commands.find? key = some command)
      (decided : (confirmedOutcome platform command payload now).Runs look s CommandStore.Follows (·.Follows s) s middle outcome) :
      Asks platform s (.confirm principal key payload now) (command.confirmReceipt outcome now)
  | report {receipt : V1.DirectiveReceipt} {now : Int} {outcome : WorkCommandOutcome} {command : WorkCommandRow}
      (finished : receipt.terminalOutcome = some outcome) (issuer : s.look (.issuer receipt.directiveKey) = some command) :
      Asks platform s (.applyDirectiveReceipt receipt now) (command.directiveReceipt receipt outcome now)

theorem found_still {earlier : CommandStore} {key : CommandKey} {command : WorkCommandRow} (grown : earlier.Grows s)
    (found : earlier.commands.find? key = some command) : command.key = key ∧ ∃ row, s.commands.find? command.key = some row := by
  have named : command.key = key := (mem_of_find? found).2
  obtain ⟨directiveId, there⟩ := grown.ledger.commands _ _ found
  exact ⟨named, _, named ▸ there⟩

theorem Does.once {principal : VerifiedWorkCommandPrincipal} {key : CommandKey} {payload : WorkCommandPayload} {now : Int}
    {earlier : CommandStore} {command : WorkCommandRow} {outcome : WorkCommandReceiptWriteOutcome}
    (settled : s.Settled platform.toPlatform) (grown : ∀ earlier, seen earlier → earlier.Follows s)
    (distinct : ∀ receipt, Asks platform s (.confirm principal key payload now) receipt → s.Distinct platform.toPlatform receipt)
    (known : seen earlier) (found : earlier.commands.find? key = some command)
    (executes : Executes platform command payload now CommandStore.Follows (fun later => seen later ∧ earlier.Follows later) s s after
      outcome) : Once platform command payload now CommandStore.Follows (fun later => seen later ∧ earlier.Follows later) s after outcome := by
  refine executes.once settled (fun later there => (grown later there.1).grows) fun middle outcome decided => ?_
  exact distinct _ (.confirm (grown earlier known) found (decided.mono fun later there => grown later there.1))

theorem Does.settled (settled : s.Settled platform.toPlatform) (grown : ∀ earlier, seen earlier → earlier.Follows s)
    (distinct : ∀ receipt, call.Asks platform s receipt → s.Distinct platform.toPlatform receipt)
    (does : Does platform CommandStore.Follows seen s call after answer) : s.Follows after ∧ after.Settled platform.toPlatform := by
  have grows := does.grows
  cases does with
  | createTask | recordNodeTask | claim => exact settled.same grows rfl rfl
  | replayNodeTask idle => rcases idle with rfl | rfl <;> exact settled.same grows rfl rfl
  | ask asks => rcases asks with rfl | rfl <;> exact settled.same grows rfl rfl
  | recordSession records => rcases records with rfl | ⟨_, rfl⟩ <;> exact settled.same grows rfl rfl
  | enqueue _ _ _ enqueues => exact settled.same grows enqueues.commands.1 enqueues.commands.2
  | recordDirectiveReceipt received => cases received <;> exact settled.same grows rfl rfl
  | recordPending valid hashed receipted =>
    exact receipted.settled settled grows rfl rfl valid hashed fun key => pendingReceipt_ne_confirm _ _ key
  | submit _ _ _ records =>
    cases records with
    | replays => exact settled.same grows rfl rfl
    | inserts =>
      have follows : s.Follows (s.insertCommand _) := ⟨grows, fun row member _ => insertOrIgnore_keeps member⟩
      refine ⟨follows, settled.step follows (fun _ member => .inl member) (fun row member => ?_) fun row member _ _ _ its _ new => ?_⟩
      · rcases mem_insertOrIgnore member with old | rfl
        · exact .inl old
        · exact .inr nofun
      · rcases mem_insertOrIgnore member with old | rfl
        · exact absurd old new
        · cases its
  | confirm confirms =>
    cases confirms with
    | unknown | refused => exact settled.same grows rfl rfl
    | executes known found _ executes =>
      have once := Does.once settled grown distinct known found executes
      cases once with
      | again _ kept =>
        exact settled.same grows kept.commands kept.receipts
      | first absent decided valid hashed written =>
        subst written
        exact settled_first settled (fun later there => (grown later there.1).grows) absent decided valid hashed
          (found_still (grown _ known).grows found).2 grows
  | applyDirectiveReceipt reports =>
    cases reports with
    | idle | unissued | replays => exact settled.same grows rfl rfl
    | @reports _ command _ _ _ _ _ _ _ reflects valid hashed receipted =>
      refine receipted.settled settled grows (congrArg Ledger.commands reflects.ledger) (congrArg Ledger.receipts reflects.ledger) valid
        hashed fun key => report_ne_confirm command.key key

end CommandCall

namespace CommandStore

/-- What a confirmation of a command leaves: nothing, its effect and its receipt, or the receipt that was
there. -/
inductive Confirms (s after : CommandStore) (key : CommandKey) : WorkCommandServiceOutcome → Prop where
  | unknown (same : after = s) : Confirms s after key .commandNotFound
  | refused {reason : WorkCommandRefusal} (same : after = s) : Confirms s after key (.refused reason)
  | first {command : WorkCommandRow} {receipt : WorkCommandReceipt} (absent : s.receipts.find? key.confirm = none)
      (stored : after.receipts.find? key.confirm = some receipt) (backs : after.Backs key receipt)
      (idle : receipt.outcome ≠ .applied → receipt.outcome ≠ .pendingDelivery → after = s.insertReceipt receipt) :
      Confirms s after key (.executed command ⟨receipt, false⟩)
  | again {command : WorkCommandRow} {receipt : WorkCommandReceipt} (there : s.receipts.find? key.confirm = some receipt)
      (kept : s.Kept after) : Confirms s after key (.executed command ⟨receipt, true⟩)

inductive Reports (platform : Platform) (s after : CommandStore) (directive : DirectiveKey) :
    Option WorkCommandReceiptWriteOutcome → Prop where
  | nothing (same : after = s) : Reports platform s after directive none
  | first {command : WorkCommandRow} {middle : CommandStore} {receipt : WorkCommandReceipt} {now : Int}
      (issuer : s.look (.issuer directive) = some command) (absent : s.receipts.find? command.key.report = none)
      (reflects : Reflects platform command receipt.outcome now s s middle) (stored : after = middle.insertReceipt receipt)
      (there : after.receipts.find? command.key.report = some receipt) : Reports platform s after directive (some ⟨receipt, false⟩)
  | again {command : WorkCommandRow} {receipt : WorkCommandReceipt} (issuer : s.look (.issuer directive) = some command)
      (there : s.receipts.find? command.key.report = some receipt) (same : after = s) :
      Reports platform s after directive (some ⟨receipt, true⟩)

theorem Confirms.stored {key : CommandKey} {command : WorkCommandRow} {outcome : WorkCommandReceiptWriteOutcome}
    (confirms : s.Confirms after key (.executed command outcome)) : after.receipts.find? key.confirm = some outcome.receipt := by
  cases confirms with
  | first _ stored => exact stored
  | again there kept =>
    rw [kept.receipts]
    exact there

theorem Confirms.later {key : CommandKey} {receipt : WorkCommandReceipt} {outcome : WorkCommandServiceOutcome}
    (confirms : s.Confirms after key outcome) (there : s.receipts.find? key.confirm = some receipt) :
    s.Kept after ∧ ∀ command given, outcome = .executed command given → given = ⟨receipt, true⟩ := by
  cases confirms with
  | unknown same | refused same =>
    subst same
    exact ⟨.refl _, fun _ _ same => by cases same⟩
  | first absent => cases absent.symm.trans there
  | again found kept =>
    cases found.symm.trans there
    refine ⟨kept, fun _ given same => ?_⟩
    cases same
    rfl

theorem Reports.stored {directive : DirectiveKey} {outcome : WorkCommandReceiptWriteOutcome}
    (reports : s.Reports platform.toPlatform after directive (some outcome)) :
    ∃ command, s.look (.issuer directive) = some command ∧ after.receipts.find? command.key.report = some outcome.receipt := by
  cases reports with
  | first issuer _ _ _ there => exact ⟨_, issuer, there⟩
  | again issuer there same =>
    subst same
    exact ⟨_, issuer, there⟩

theorem Reports.later {directive : DirectiveKey} {command : WorkCommandRow} {receipt : WorkCommandReceipt}
    {answer : Option WorkCommandReceiptWriteOutcome} (reports : s.Reports platform.toPlatform after directive answer)
    (issuer : s.look (.issuer directive) = some command) (there : s.receipts.find? command.key.report = some receipt) :
    after = s ∧ ∀ given ∈ answer, given = ⟨receipt, true⟩ := by
  cases reports with
  | nothing same => exact ⟨same, fun _ given => by cases given⟩
  | first its absent =>
    cases its.symm.trans issuer
    cases absent.symm.trans there
  | again its found same =>
    cases its.symm.trans issuer
    cases found.symm.trans there
    refine ⟨same, fun given member => ?_⟩
    cases member
    rfl

end CommandStore

namespace CommandCall

theorem Does.confirms {principal : VerifiedWorkCommandPrincipal} {key : CommandKey} {payload : WorkCommandPayload} {now : Int}
    {outcome : WorkCommandServiceOutcome} (settled : s.Settled platform.toPlatform)
    (grown : ∀ earlier, seen earlier → earlier.Follows s)
    (distinct : ∀ receipt, Asks platform s (.confirm principal key payload now) receipt → s.Distinct platform.toPlatform receipt)
    (does : Does platform CommandStore.Follows seen s (.confirm principal key payload now) after (.confirmed outcome)) :
    s.Confirms after key outcome := by
  obtain ⟨_, fine⟩ := does.settled settled grown distinct
  cases does with
  | confirm confirms =>
    cases confirms with
    | unknown => exact .unknown rfl
    | refused => exact .refused rfl
    | @executes _ _ command _ known found _ executes =>
      obtain ⟨rfl, _⟩ := found_still (grown _ known).grows found
      cases Does.once settled grown distinct known found executes with
      | again there kept => exact .again there kept
      | @first middle outcome digest absent decided valid hashed written =>
        subst written
        have stored : (middle.insertReceipt ((command.confirmReceipt outcome now).row digest now)).receipts.find? command.key.confirm =
            some ((command.confirmReceipt outcome now).row digest now) := by
          refine Table.find?_insertOrIgnore_self ((command.confirmReceipt outcome now).row digest now)
            (?_ : middle.receipts.find? command.key.confirm = none)
          rcases decided_cases decided with ⟨_, _, base, written, _, enqueues, _, _, rfl⟩ | ⟨_, same⟩
          · exact (congrArg (Table.find? · _) enqueues.commands.2).trans absent
          · exact (congrArg (Table.find? · _) same).trans absent
        refine .first absent stored (fine.backed _ _ stored) fun unapplied undelivered => ?_
        rcases confirmedOutcome_runs decided with ⟨_, rfl, _⟩ | ⟨_, runs⟩
        · rfl
        · rw [(applyEffect_runs runs).idle unapplied undelivered]

theorem Does.reports {receipt : V1.DirectiveReceipt} {now : Int} {answer : Option WorkCommandReceiptWriteOutcome}
    (settled : s.Settled platform.toPlatform) (grown : ∀ earlier, seen earlier → earlier.Follows s)
    (distinct : ∀ other, Asks platform s (.applyDirectiveReceipt receipt now) other → s.Distinct platform.toPlatform other)
    (does : Does platform CommandStore.Follows seen s (.applyDirectiveReceipt receipt now) after (.applied answer)) :
    s.Reports platform.toPlatform after receipt.directiveKey answer := by
  cases does with
  | applyDirectiveReceipt reports =>
    cases reports with
    | idle | unissued => exact .nothing rfl
    | replays _ issuer there => exact .again issuer there rfl
    | @reports outcome command middle _ digest _ finished issuer absent reflects valid hashed receipted =>
      rcases receipted.new_or_there settled (distinct _ (.report finished issuer)) (fun _ known => (grown _ known).grows) valid hashed with
        ⟨_, rfl, rfl⟩ | ⟨existing, there, _⟩
      · refine .first issuer absent reflects rfl ?_
        refine Table.find?_insertOrIgnore_self ((command.directiveReceipt receipt outcome now).row digest now) ?_
        exact (congrArg (fun ledger : Ledger => ledger.receipts.find? command.key.report) reflects.ledger).trans absent
      · cases absent.symm.trans there

end CommandCall

section
variable {τ : Type} [DecidableEq τ] {history : List (WorkStep τ)} {state : WorkControl τ}

def Confirming (entry : WorkStep τ) (key : CommandKey) (outcome : WorkCommandServiceOutcome) : Prop :=
  ∃ principal payload now, entry.before.Committing entry.op (.confirm principal key payload now) (.confirmed outcome)

def Reporting (entry : WorkStep τ) (directive : DirectiveKey) (answer : Option WorkCommandReceiptWriteOutcome) : Prop :=
  ∃ receipt now, receipt.directiveKey = directive ∧
    entry.before.Committing entry.op (.applyDirectiveReceipt receipt now) (.applied answer)

/-- No receipt that a call would have stored has the digest of a different one. -/
def Collisionless (platform : DirectivePlatform) (history : List (WorkStep τ)) : Prop :=
  ∀ entry ∈ history, ∀ call answer receipt, entry.before.Committing entry.op call answer →
    call.Asks platform entry.before.store receipt → entry.before.store.Distinct platform.toPlatform receipt

omit [DecidableEq τ] in
theorem commit_settled (apart : Collisionless platform history) (entry : WorkStep τ) (member : entry ∈ history) (call : CommandCall)
    (answer : CommandAnswer) (settled : entry.before.store.Settled platform.toPlatform)
    (committing : entry.before.Committing entry.op call answer)
    (commits : Interleaving.Commits look CommandStore.Follows (CommandCall.program platform)
      (Interleaving.Past (·.Settled platform.toPlatform) CommandStore.Follows entry.before.store) entry.before.store entry.after.store
      call answer) : entry.after.store.Settled platform.toPlatform ∧ entry.before.store.Follows entry.after.store :=
  ((CommandCall.program_does commits).settled settled (fun _ known => known.2) fun receipt asks =>
    apart entry member call answer receipt committing asks).symm

/-- Under any interleaving of the calls a command's confirmation has its effect once, with its one receipt,
and the first supervisor's receipt that ends its directive decides alone what becomes of the task. -/
theorem work_command_once (run : (workControl platform τ .empty).Run history state) (apart : Collisionless platform history) :
    (∀ entry ∈ history, (∀ call answer, ¬entry.before.Committing entry.op call answer) → entry.after.store = entry.before.store) ∧
      (∀ entry ∈ history, ∀ key outcome, Confirming entry key outcome → entry.before.store.Confirms entry.after.store key outcome) ∧
      (∀ entry ∈ history, ∀ directive answer, Reporting entry directive answer →
        entry.before.store.Reports platform.toPlatform entry.after.store directive answer) ∧
      (∀ seen ∈ (workControl platform τ .empty).visited history, ∀ first ∈ seen.store.commands.rows, ∀ second ∈ seen.store.commands.rows,
        ∀ directive, first.issued = some directive → second.issued = some directive → first.key = second.key) ∧
      history.Pairwise fun later earlier =>
        (∀ key command first outcome, Confirming earlier key (.executed command first) → Confirming later key outcome →
          later.before.store.Kept later.after.store ∧
            ∀ command given, outcome = .executed command given → given = ⟨first.receipt, true⟩) ∧
        ∀ directive first answer, Reporting earlier directive (some first) → Reporting later directive answer →
          later.after.store = later.before.store ∧ ∀ given ∈ answer, given = ⟨first.receipt, true⟩ := by
  have start := settled_empty platform.toPlatform
  obtain ⟨⟨_, visited⟩, steps⟩ := Interleaving.run_steps run (CommandCall.program_within platform) (·.Settled platform.toPlatform)
    CommandStore.Follows .refl .trans start (commit_settled apart)
  have pairs := Interleaving.run_pairwise run (CommandCall.program_within platform) (·.Settled platform.toPlatform)
    CommandStore.Follows .refl .trans start (commit_settled apart)
  have confirms (entry) (member : entry ∈ history) (key) (outcome) (confirming : Confirming entry key outcome) :
      entry.before.store.Confirms entry.after.store key outcome := by
    obtain ⟨principal, payload, now, committing⟩ := confirming
    obtain ⟨settled, _, moved⟩ := steps entry member
    exact (CommandCall.program_does (moved.committed committing)).confirms settled (fun _ known => known.2) fun receipt asks =>
      apart entry member _ _ receipt committing asks
  have reports (entry) (member : entry ∈ history) (directive) (answer) (reporting : Reporting entry directive answer) :
      entry.before.store.Reports platform.toPlatform entry.after.store directive answer := by
    obtain ⟨receipt, now, rfl, committing⟩ := reporting
    obtain ⟨settled, _, moved⟩ := steps entry member
    exact (CommandCall.program_does (moved.committed committing)).reports settled (fun _ known => known.2) fun other asks =>
      apart entry member _ _ other committing asks
  refine ⟨fun entry member idle => ?_, confirms, reports, fun seen member => (visited seen member).1.alone, ?_⟩
  · rcases (steps entry member).2.2.cases with ⟨_, same⟩ | ⟨call, answer, committing, _⟩
    · exact same
    · exact absurd committing (idle call answer)
  · refine pairs.imp_of_mem fun {later earlier} inside before follows => ⟨?_, ?_⟩
    · intro key command first outcome confirmed confirming
      have stored := (confirms earlier before key _ confirmed).stored
      exact (confirms later inside key outcome confirming).later (follows.grows.ledger.receipts _ _ stored)
    · intro directive first answer reported reporting
      obtain ⟨command, issuer, stored⟩ := (reports earlier before directive _ reported).stored
      obtain ⟨member, its⟩ := (steps earlier before).1.issuer_iff.mp issuer
      have issued : command.directiveId.isSome := by
        obtain ⟨directiveId, here, _⟩ := Option.map_eq_some_iff.mp its
        rw [here]
        rfl
      have still := follows.issued command ((steps earlier before).2.1.issued command member issued) issued
      exact (reports later inside directive answer reporting).later ((steps later inside).1.issuer_iff.mpr ⟨still, its⟩)
        (follows.grows.ledger.receipts _ _ stored)

end

section

theorem distinct_of_digests {platform : Platform} {s : CommandStore} {receipt : NewWorkCommandReceipt}
    (apart : ∀ row ∈ s.receipts.rows, receipt.digest platform ≠ row.toNewWorkCommandReceipt.digest platform) : s.Distinct platform receipt := by
  intro row member bytes bytes' hashed hashed' same
  refine absurd ?_ (apart row member)
  rw [NewWorkCommandReceipt.digest, NewWorkCommandReceipt.digest, hashed, hashed']
  exact congrArg ok same

def ApartBehind (earlier : List CommandCall) (call : CommandCall) : Prop :=
  ∀ receipt, call.Asks wire (afterCalls earlier) receipt → (afterCalls earlier).Distinct wire.toPlatform receipt

theorem serial_collisionless (calls : List CommandCall)
    (apart : ∀ earlier call later, calls = earlier ++ call :: later → ApartBehind earlier call) :
    ∃ history state, (workControl wire Nat .empty).Run history state ∧ Collisionless wire history ∧
      (∀ earlier call later, calls = earlier ++ call :: later →
        ∃ entry ∈ history, Interleaving.Serves look (CommandCall.program wire) .empty entry earlier call) ∧
      ∀ entry ∈ history, ∀ call answer, entry.before.Committing entry.op call answer → call ∈ calls := by
  obtain ⟨history, standing, run, _, entries, all⟩ := serial_run look guards (CommandCall.program wire) .empty calls
  refine ⟨history, _, run, fun entry member call answer receipt committing asks => ?_, entries, fun entry member call answer committing => ?_⟩
  · obtain ⟨earlier, later, split, serves⟩ := served all member committing
    have before : entry.before.store = afterCalls earlier := serves.before
    rw [before] at asks ⊢
    exact apart earlier call later split receipt asks
  · obtain ⟨earlier, later, rfl, _⟩ := served all member committing
    exact mem_append_right _ mem_cons_self

theorem unconfirmed_receipts : (afterCalls (pausedCalls.take 3)).receipts.rows = [] := by
  delta afterCalls pausedCalls submitting confirming commandKeyOf workRequest
  rw [wire_unrolled]
  decide +kernel

theorem applied_of_reported {result : Except CommandError CommandAnswer}
    (reported : (result.toOption.bind CommandAnswer.reported).isSome = true) : ∃ given, result = .ok (.applied (some given)) := by
  obtain ⟨given, its⟩ := Option.isSome_iff_exists.mp reported
  obtain ⟨answer, answered, here⟩ := Option.bind_eq_some_iff.mp its
  cases result with
  | error => cases answered
  | ok =>
    cases answered
    cases answer <;> cases here
    exact ⟨given, rfl⟩

theorem distinct_of_nil {platform : Platform} {s : CommandStore} {receipt : NewWorkCommandReceipt} (none : s.receipts.rows = []) :
    s.Distinct platform receipt := by
  intro row member
  rw [none] at member
  cases member

theorem refused_apart (earlier : List CommandCall) (call : CommandCall) (later : List CommandCall)
    (split : refusedCalls = earlier ++ call :: later) : ApartBehind earlier call := by
  revert earlier call later
  refine forall_split_cons.mpr ⟨(fun _ asks => nomatch asks), ?_⟩
  refine forall_split_cons.mpr ⟨(fun _ asks => nomatch asks), ?_⟩
  refine forall_split_cons.mpr ⟨(fun _ asks => nomatch asks), ?_⟩
  refine forall_split_cons.mpr ⟨fun _ _ => distinct_of_nil unconfirmed_receipts, ?_⟩
  refine forall_split_cons.mpr ⟨fun receipt asks => ?_, forall_split_nil⟩
  cases asks with
  | report finished issuer =>
    cases finished
    obtain ⟨-, digests, -⟩ := refusal_written
    rw [show (afterCalls pausedCalls).look (.issuer (pauseReport .refused).directiveKey) = _ from issuer, Option.any_some,
      all_eq_true] at digests
    have apart : (afterCalls pausedCalls).Distinct wire.toPlatform _ :=
      distinct_of_digests fun row member => of_decide_eq_true (digests row member)
    exact apart

/-- A receipt that ends nothing gets no answer, whatever is stored. -/
theorem accepted_report_counterexample : ¬∀ history state, (workControl wire Nat .empty).Run history state →
    ∀ entry ∈ history, ∀ directive answer, Reporting entry directive answer → ∀ command receipt,
      entry.before.store.look (.issuer directive) = some command → entry.before.store.receipts.find? command.key.report = some receipt →
        ∃ given, answer = some given ∧ given.receipt = receipt := by
  intro answered
  obtain ⟨history, standing, run, _, entries, _⟩ := Interleaving.serial_run look guards (CommandCall.program wire) .empty
    (refusedCalls ++ [.applyDirectiveReceipt (pauseReport .accepted) (seconds 5)])
  obtain ⟨entry, member, serves⟩ := entries refusedCalls _ [] rfl
  have before : entry.before.store = afterCalls refusedCalls := serves.before
  obtain ⟨command, issuer, stored⟩ := (Option.any_eq_true _ _).mp refusal_written.2.2.1
  obtain ⟨receipt, there⟩ := Option.isSome_iff_exists.mp stored
  have reporting : Reporting entry (pauseReport .accepted).directiveKey none :=
    ⟨_, _, rfl, (serves.commits _ _).mpr ⟨rfl, rfl⟩⟩
  rw [← before] at issuer there
  obtain ⟨given, same, _⟩ := answered history _ run entry member _ _ reporting command receipt issuer there
  cases same

/-- The supervisor's refusal is stored once, in a run of the calls. -/
theorem refused_once : ∃ history state, (workControl wire Nat .empty).Run history state ∧ Collisionless wire history ∧
    ∃ entry ∈ history, ∃ given, Reporting entry (pauseReport .refused).directiveKey (some given) ∧
      entry.before.store.Reports wire.toPlatform entry.after.store (pauseReport .refused).directiveKey (some given) := by
  obtain ⟨history, state, run, apart, entries, _⟩ := serial_collisionless refusedCalls refused_apart
  obtain ⟨entry, member, serves⟩ := entries pausedCalls _ [] rfl
  obtain ⟨given, answered⟩ := applied_of_reported refusal_written.2.2.2
  have reporting : Reporting entry (pauseReport .refused).directiveKey (some given) :=
    ⟨_, _, rfl, (serves.commits _ _).mpr ⟨rfl, answered⟩⟩
  exact ⟨history, state, run, apart, entry, member, given, reporting, (work_command_once run apart).2.2.1 entry member _ _ reporting⟩

end

end MindLeak.Ackplane
