import MindLeak.Proofs.WorkProjection

/-! What the authority's calls never take back: tasks as they were published, events, commands as they
were asked for, receipts, sessions and directives. -/

namespace MindLeak.Ackplane

open CommandStore Table List

structure Ledger where
  commands : Table WorkCommandRow
  receipts : Table WorkCommandReceipt
  sessions : Table SupervisorSessionRow
  directives : Table DirectiveRecord
  directiveHeads : Table DirectiveStreamHead
  directiveReceipts : Table DirectiveReceiptRecord

def CommandStore.ledger (s : CommandStore) : Ledger :=
  ⟨s.commands, s.receipts, s.sessions, s.directives, s.directiveHeads, s.directiveReceipts⟩

/-- A command is there still, whatever directive it has issued since. -/
def CommandsKept (before after : Table WorkCommandRow) : Prop :=
  ∀ key row, before.find? key = some row → ∃ directiveId, after.find? key = some { row with directiveId }

theorem CommandsKept.refl (table : Table WorkCommandRow) : CommandsKept table table := fun _ row found => ⟨row.directiveId, found⟩

theorem CommandsKept.trans {first middle last : Table WorkCommandRow} (one : CommandsKept first middle) (other : CommandsKept middle last) :
    CommandsKept first last := by
  intro key row found
  obtain ⟨_, there⟩ := one key row found
  obtain ⟨directiveId, still⟩ := other key _ there
  exact ⟨directiveId, still⟩

theorem CommandsKept.of_extends {before after : Table WorkCommandRow} (extended : before.Extends after) : CommandsKept before after :=
  fun key row found => ⟨row.directiveId, extended key row found⟩

theorem commandsKept_issue (table : Table WorkCommandRow) (key : CommandKey) (directiveId : String) :
    CommandsKept table (table.update (fun row => row.key = key) (fun row => row.issue directiveId) fun row => row.issue_key directiveId) := by
  intro other row found
  rw [Table.find?_update, found, Option.map_some]
  split
  · exact ⟨some directiveId, rfl⟩
  · exact ⟨row.directiveId, rfl⟩

structure Ledger.Grows (before after : Ledger) : Prop where
  commands : CommandsKept before.commands after.commands
  receipts : before.receipts.Extends after.receipts
  sessions : before.sessions.Extends after.sessions
  directives : before.directives.Extends after.directives
  directiveReceipts : before.directiveReceipts.Extends after.directiveReceipts

theorem Ledger.Grows.refl (ledger : Ledger) : ledger.Grows ledger := ⟨.refl _, .refl _, .refl _, .refl _, .refl _⟩

theorem Ledger.Grows.trans {first middle last : Ledger} (one : first.Grows middle) (other : middle.Grows last) : first.Grows last :=
  ⟨one.commands.trans other.commands, one.receipts.trans other.receipts, one.sessions.trans other.sessions,
    one.directives.trans other.directives, one.directiveReceipts.trans other.directiveReceipts⟩

structure WorkTables.Grows (before after : WorkTables) : Prop where
  tasks : ∀ key row, before.tasks.find? key = some row → ∃ row', after.tasks.find? key = some row' ∧ row'.published = row.published
  history : before.history.Extends after.history

theorem WorkTables.Grows.refl (tables : WorkTables) : tables.Grows tables := ⟨fun _ row found => ⟨row, found, rfl⟩, .refl _⟩

theorem WorkTables.Grows.trans {first middle last : WorkTables} (one : first.Grows middle) (other : middle.Grows last) :
    first.Grows last := by
  refine ⟨fun key row found => ?_, one.history.trans other.history⟩
  obtain ⟨_, there, same⟩ := one.tasks key row found
  obtain ⟨row', still, kept⟩ := other.tasks key _ there
  exact ⟨row', still, kept.trans same⟩

structure CommandStore.Grows (before after : CommandStore) : Prop where
  work : before.work.Grows after.work
  ledger : before.ledger.Grows after.ledger

theorem CommandStore.Grows.refl (s : CommandStore) : s.Grows s := ⟨.refl _, .refl _⟩

theorem CommandStore.Grows.trans {first middle last : CommandStore} (one : first.Grows middle) (other : middle.Grows last) :
    first.Grows last := ⟨one.work.trans other.work, one.ledger.trans other.ledger⟩

namespace WorkTables
variable {before after : WorkTables} {noted : Prop} {event : WorkEvent} {row : WorkTaskRow}

theorem Records.extends (records : before.Records after event row) : before.history.Extends after.history := by
  intro key old found
  obtain ⟨member, named⟩ := mem_of_find? found
  refine Table.find?_eq_some_iff.mpr ⟨?_, named⟩
  rw [records.history]
  exact mem_append_left _ member

theorem Records.grows (records : before.Records after event row)
    (kept : ∀ old, before.tasks.find? event.key = some old → row.published = old.published) : before.Grows after := by
  refine ⟨fun key old found => ?_, records.extends⟩
  rw [records.tasks]
  split
  next its => exact ⟨row, rfl, kept old (its ▸ found)⟩
  next => exact ⟨old, found, rfl⟩

theorem Moved.grows (moved : Moved noted before after) : before.Grows after := by
  cases moved with
  | stays tasks history =>
    refine ⟨fun key row found => ⟨row, ?_, rfl⟩, ?_⟩
    · rw [tasks, found]
    · rw [history]
      exact .refl _
  | creates records absent => exact records.grows fun old found => by cases absent.symm.trans found
  | changes records found _ _ kept => exact records.grows fun other there => by cases found.symm.trans there; exact kept
  | notes _ records found _ same =>
    refine records.grows fun other there => ?_
    cases found.symm.trans there
    rw [same]
    rfl

end WorkTables

variable {platform : DirectivePlatform} {s after : CommandStore} {seen : CommandStore → Prop}

section
variable {written : CommandStore} {now : Int}
variable {command : WorkCommandRow} {outcome : ExecutionOutcome} {directive : V1.AgentDirective} {expiresAt : Int}

theorem WorkCommands.Changed.ledger {event : WorkEvent} {old : WorkTaskRow} (changed : Changed s written event old after) :
    after.ledger = written.ledger := by
  cases changed with
  | mk beside =>
    rcases beside with rfl | ⟨_, _, _, rfl⟩ | ⟨_, rfl⟩
    · rfl
    · rfl
    · rfl

theorem WorkCommands.Applies.ledger {platform : Platform} {kind : WorkCommandKind}
    (applies : Applies platform command now s written kind after outcome) : after.ledger = written.ledger := by
  cases applies with
  | leaves => rfl
  | changes _ _ _ _ changed => exact changed.ledger

theorem WorkCommands.Reflects.ledger {platform : Platform} {outcome : WorkCommandOutcome}
    (reflects : Reflects platform command outcome now s written after) : after.ledger = written.ledger := by
  cases reflects with
  | leaves | notes => rfl
  | changes _ _ _ _ changed => exact changed.ledger

theorem Enqueues.ledger {outcome : DirectiveWriteOutcome}
    (enqueues : Enqueues platform directive expiresAt now seen s written after outcome) : written.ledger.Grows after.ledger := by
  cases enqueues with
  | replays _ _ _ idle =>
    rcases idle with rfl | rfl
    · exact .refl _
    · exact ⟨.refl _, .refl _, .refl _, .refl _, .refl _⟩
  | appends => exact ⟨.refl _, .refl _, .refl _, extends_insertOrIgnore _ _, .refl _⟩

theorem Enqueues.commands {outcome : DirectiveWriteOutcome}
    (enqueues : Enqueues platform directive expiresAt now seen s written after outcome) :
    after.commands = written.commands ∧ after.receipts = written.receipts := by
  cases enqueues with
  | replays _ _ _ idle => rcases idle with rfl | rfl <;> exact ⟨rfl, rfl⟩
  | appends => exact ⟨rfl, rfl⟩

theorem Enqueues.there {outcome : DirectiveWriteOutcome} (grown : ∀ earlier, seen earlier → earlier.Grows s)
    (enqueues : Enqueues platform directive expiresAt now seen s s after outcome) :
    after.directives.find? ⟨directive.tenantId, directive.repositoryId, outcome.record.directive.directiveId⟩ = some outcome.record := by
  cases enqueues with
  | @replays record earlier _ known there _ idle =>
    have same : after.directives = s.directives := by rcases idle with rfl | rfl <;> rfl
    rw [same]
    refine (grown earlier known).ledger.directives _ _ ?_
    rcases there with found | found
    · have named : record.directive.key = directive.key := (mem_of_find? found).2
      rw [show record.directive.directiveId = directive.directiveId from congrArg DirectiveKey.directiveId named]
      exact found
    · have found : earlier.directives.rows.find? (fun row => row.directive.stream = directive.stream ∧
        row.directive.idempotencyKey = directive.idempotencyKey) = some record := found
      have its := find?_some found
      rw [decide_eq_true_eq] at its
      obtain ⟨tenantId, repositoryId, _⟩ := DirectiveStream.mk.inj its.1
      rw [← tenantId, ← repositoryId]
      exact Table.find?_of_mem (mem_of_find?_eq_some found)
  | appends _ _ sequences =>
    refine Table.find?_insertOrIgnore_self (directive.record platform _ _ now expiresAt) ?_
    cases found : s.directives.find? directive.key with
    | none => exact found
    | some taken =>
      obtain ⟨member, named⟩ := mem_of_find? found
      have free := sequences.free
      rw [look, Bool.not_eq_true', any_eq_false] at free
      exact absurd (decide_eq_true (.inl named)) (free taken member)

theorem WorkCommands.Receipted.ledger {receipt : NewWorkCommandReceipt} {digest : Bytes} {answer : WorkCommandReceiptWriteOutcome}
    (receipted : Receipted receipt digest now seen s written after answer) : written.ledger.Grows after.ledger := by
  cases receipted with
  | inserts => exact ⟨.refl _, extends_insertOrIgnore _ _, .refl _, .refl _, .refl _⟩
  | replays => exact .refl _

theorem WorkCommands.Receipted.commands {receipt : NewWorkCommandReceipt} {digest : Bytes} {answer : WorkCommandReceiptWriteOutcome}
    (receipted : Receipted receipt digest now seen s written after answer) : after.commands = written.commands := by
  cases receipted <;> rfl

theorem WorkCommands.Effect.ledger {payload : WorkCommandPayload}
    (effect : Effect platform command now seen s written payload after outcome) : written.ledger.Grows after.ledger := by
  cases effect with
  | refuses | creates => exact .refl _
  | applies _ _ applies => exact applies.ledger ▸ .refl _
  | issues _ issues =>
    cases issues with
    | leaves => exact .refl _
    | issues _ enqueues =>
      exact enqueues.ledger.trans ⟨commandsKept_issue _ _ _, .refl _, .refl _, .refl _, .refl _⟩

theorem WorkCommands.Effect.ledger_eq {payload : WorkCommandPayload}
    (effect : Effect platform command now seen s written payload after outcome)
    (unissued : ∀ directiveId, outcome ≠ .directiveIssued directiveId) : after.ledger = written.ledger := by
  cases effect with
  | refuses | creates => rfl
  | applies _ _ applies => exact applies.ledger
  | issues _ issues =>
    cases issues with
    | leaves => rfl
    | issues => exact absurd rfl (unissued _)

end

namespace CommandCall
open WorkCommands
variable {order : CommandStore → CommandStore → Prop} {call : CommandCall} {answer : CommandAnswer}

theorem Does.ledger (does : Does platform order seen s call after answer) : s.ledger.Grows after.ledger := by
  cases does with
  | createTask | recordNodeTask | claim => exact .refl _
  | replayNodeTask idle => rcases idle with rfl | rfl <;> exact .refl _
  | submit _ _ _ records =>
    cases records with
    | inserts => exact ⟨CommandsKept.of_extends (extends_insertOrIgnore _ _), .refl _, .refl _, .refl _, .refl _⟩
    | replays => exact .refl _
  | recordPending _ _ receipted => exact receipted.ledger
  | confirm confirms =>
    cases confirms with
    | unknown | refused => exact .refl _
    | executes _ _ _ executes =>
      cases executes with
      | replays => exact .refl _
      | confirms decided _ _ receipted =>
        refine .trans ?_ receipted.ledger
        rcases confirmedOutcome_runs decided with ⟨_, rfl, _⟩ | ⟨_, runs⟩
        · exact .refl _
        · exact (applyEffect_runs runs).ledger
  | applyDirectiveReceipt reports =>
    cases reports with
    | idle | unissued | replays => exact .refl _
    | reports _ _ _ reflects _ _ receipted => exact reflects.ledger ▸ receipted.ledger
  | enqueue _ _ _ enqueues => exact enqueues.ledger
  | recordDirectiveReceipt received =>
    cases received with
    | inserts => exact ⟨.refl _, .refl _, .refl _, .refl _, extends_insertOrIgnore _ _⟩
    | replays => exact .refl _
  | ask asks => rcases asks with rfl | rfl <;> exact .refl _
  | recordSession records =>
    rcases records with rfl | ⟨_, rfl⟩
    · exact .refl _
    · exact ⟨.refl _, .refl _, extends_insertOrIgnore _ _, .refl _, .refl _⟩

theorem Does.grows (does : Does platform order seen s call after answer) : s.Grows after := ⟨does.moved.grows, does.ledger⟩

end CommandCall

end MindLeak.Ackplane
