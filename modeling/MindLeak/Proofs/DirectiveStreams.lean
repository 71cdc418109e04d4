import MindLeak.Proofs.CommandOnce

/-! The directives of a session are numbered from one on, and its stream's head is the last number,
under any interleaving of the calls. -/

namespace MindLeak.Ackplane

open CommandStore List

def DirectiveRecord.requested (record : DirectiveRecord) : V1.AgentDirective :=
  { record.directive with sequence := 0, createdAt := "" }

/-- The directive went through its checks when it was stored, and was hashed as it was asked for. -/
structure DirectiveRecord.Checked (platform : DirectivePlatform) (record : DirectiveRecord) : Prop where
  valid : ∃ requirement, Directive.validate platform record.requested record.createdAt = .ok (requirement, record.expiresAt)
  digest : record.requestDigest = Directive.requestDigest platform record.requested
  dated : Directive.formatTimestamp platform record.createdAt = .ok record.directive.createdAt
  numbered : (record.directive.sequence : Int) ≤ I64_MAX
  fits : DirectiveStore.Fits platform record.directive

variable {platform : DirectivePlatform} {s after : CommandStore} {directive : V1.AgentDirective}

namespace CommandStore

def streamOf (s : CommandStore) (stream : DirectiveStream) : List DirectiveRecord :=
  s.directives.rows.filter fun row => row.directive.stream = stream

structure Sequenced (platform : DirectivePlatform) (s : CommandStore) : Prop where
  checked : ∀ row ∈ s.directives.rows, row.Checked platform
  numbered : ∀ stream, (s.streamOf stream).map (·.directive.sequence) = List.range' 1 (s.streamOf stream).length
  heads : ∀ stream, s.directivePosition stream = (s.streamOf stream).length
  alone : ∀ first ∈ s.directives.rows, ∀ second ∈ s.directives.rows, first.directive.stream = second.directive.stream →
    first.directive.idempotencyKey = second.directive.idempotencyKey → first = second

theorem sequenced_empty (platform : DirectivePlatform) : CommandStore.empty.Sequenced platform where
  checked _ member := by cases member
  numbered _ := rfl
  heads _ := rfl
  alone _ member := by cases member

inductive Directs (platform : DirectivePlatform) (s after : CommandStore) : Prop where
  | stays (same : after.directives = s.directives) (heads : ∀ stream, after.directivePosition stream = s.directivePosition stream)
  | appends {directive : V1.AgentDirective} {requirement : DirectiveRequirement} {createdAt : String} {now expiresAt : Int}
      (valid : Directive.validate platform directive now = .ok (requirement, expiresAt))
      (dated : Directive.formatTimestamp platform now = .ok createdAt) (sequences : s.Sequences platform directive createdAt)
      (rows : after.directives.rows =
        s.directives.rows ++ [directive.record platform (s.directivePosition directive.stream + 1) createdAt now expiresAt])
      (heads : ∀ stream, after.directivePosition stream =
        if directive.stream = stream then s.directivePosition directive.stream + 1 else s.directivePosition stream)

variable {createdAt : String}

theorem record_requested {requirement : DirectiveRequirement} {now expiresAt position : Int}
    (valid : Directive.validate platform directive now = .ok (requirement, expiresAt)) :
    (directive.record platform position createdAt now expiresAt).requested = directive := by
  obtain ⟨_, _, valid⟩ := bind_ok valid
  obtain ⟨_, _, valid⟩ := bind_ok valid
  obtain ⟨_, _, valid⟩ := bind_ok valid
  obtain ⟨_, _, valid⟩ := bind_ok valid
  obtain ⟨_, _, valid⟩ := bind_ok valid
  obtain ⟨_, unnumbered, valid⟩ := bind_ok valid
  obtain ⟨_, undated, _⟩ := bind_ok valid
  rw [refuseIf_ok, not_not] at unnumbered undated
  rw [DirectiveRecord.requested, V1.AgentDirective.record, DirectiveStore.sequenced, ← unnumbered, ← undated]

theorem Sequences.apart (sequences : s.Sequences platform directive createdAt)
    {row : DirectiveRecord} (member : row ∈ s.directives.rows) : row.directive.key ≠ directive.key ∧
      (row.directive.stream = directive.stream → row.directive.idempotencyKey ≠ directive.idempotencyKey) := by
  have free := sequences.free
  rw [look, Bool.not_eq_true', any_eq_false] at free
  have none := free row member
  rw [decide_eq_true_eq, not_or, not_and, not_or] at none
  exact ⟨none.1, fun same => (none.2 same).1⟩

theorem Sequences.fresh (sequences : s.Sequences platform directive createdAt) :
    s.directives.find? directive.key = none := by
  cases found : s.directives.find? directive.key with
  | none => rfl
  | some taken =>
    obtain ⟨member, named⟩ := Table.mem_of_find? found
    exact absurd named (sequences.apart member).1

theorem Sequenced.directs (sequenced : s.Sequenced platform) (directs : s.Directs platform after) : after.Sequenced platform := by
  cases directs with
  | stays same heads =>
    have streams : after.streamOf = s.streamOf := by
      funext stream
      rw [streamOf, same, streamOf]
    obtain ⟨checked, numbered, lengths, alone⟩ := sequenced
    refine ⟨same ▸ checked, streams ▸ numbered, fun stream => ?_, same ▸ alone⟩
    rw [heads, lengths, streams]
  | @appends directive requirement createdAt now expiresAt valid dated sequences rows heads =>
    let record := directive.record platform (s.directivePosition directive.stream + 1) createdAt now expiresAt
    have position : record.directive.sequence = (s.directivePosition directive.stream + 1).toNat := rfl
    have streams (stream : DirectiveStream) :
        after.streamOf stream = s.streamOf stream ++ if directive.stream = stream then [record] else [] := by
      rw [streamOf, rows, filter_append, streamOf]
      congr 1
      by_cases here : directive.stream = stream
      · rw [if_pos here]
        exact filter_cons_of_pos (decide_eq_true here)
      · rw [if_neg here]
        exact filter_cons_of_neg (by rw [decide_eq_true_eq]; exact here)
    refine ⟨?_, fun stream => ?_, fun stream => ?_, ?_⟩
    · rw [rows]
      refine forall_mem_append.mpr ⟨sequenced.checked, forall_mem_singleton.mpr ⟨⟨requirement, ?_⟩, ?_, dated, ?_, sequences.fits⟩⟩
      · rw [record_requested valid]
        exact valid
      · rw [record_requested valid]
        rfl
      · change ((s.directivePosition directive.stream + 1).toNat : Int) ≤ I64_MAX
        rw [Int.toNat_of_nonneg (Int.le_of_lt sequences.positive)]
        exact sequences.bounded
    · rw [streams]
      split
      next here =>
        subst here
        rw [map_append, sequenced.numbered, map_singleton, length_append, length_singleton, List.range'_1_concat,
          position, sequenced.heads]
        congr 2
        omega
      next => rw [append_nil, sequenced.numbered]
    · rw [heads, streams]
      split
      next here =>
        subst here
        rw [sequenced.heads, length_append, length_singleton, Int.natCast_add, Int.natCast_one]
      next => rw [append_nil, sequenced.heads]
    · intro first member second member' same keys
      rw [rows, mem_append, mem_singleton] at member member'
      rcases member with old | rfl
      · rcases member' with old' | rfl
        · exact sequenced.alone first old second old' same keys
        · exact absurd keys ((sequences.apart old).2 same)
      · rcases member' with old' | rfl
        · exact absurd keys.symm ((sequences.apart old').2 same.symm)
        · rfl

end CommandStore

variable {seen : CommandStore → Prop}

section
variable {expiresAt now : Int} {outcome : DirectiveWriteOutcome}

theorem Enqueues.directs (enqueues : Enqueues platform directive expiresAt now seen s s after outcome) : s.Directs platform after := by
  cases enqueues with
  | replays _ _ _ idle =>
    rcases idle with rfl | rfl
    · exact .stays rfl fun _ => rfl
    · exact .stays rfl (kept_advance s directive.stream).heads
  | appends valid dated sequences =>
    refine .appends valid dated sequences (Table.insertOrIgnore_rows sequences.fresh) fun stream => ?_
    rw [directivePosition_advance]
    split
    next => rfl
    next => exact (kept_advance s directive.stream).heads stream

end

namespace CommandCall
open WorkCommands
variable {order : CommandStore → CommandStore → Prop} {call : CommandCall} {answer : CommandAnswer}

theorem directs_of_ledger {platform : DirectivePlatform} (same : after.ledger = s.ledger) : s.Directs platform after :=
  .stays (congrArg Ledger.directives same) fun stream =>
    congrArg (fun ledger : Ledger => ((ledger.directiveHeads.find? stream).map DirectiveStreamHead.position).getD 0) same

theorem Receipted.directs {middle : CommandStore} {receipt : NewWorkCommandReceipt} {digest : Bytes} {now : Int}
    {written : WorkCommandReceiptWriteOutcome} (receipted : WorkCommands.Receipted receipt digest now seen s middle after written)
    (directs : s.Directs platform middle) : s.Directs platform after := by
  cases receipted with
  | replays => exact directs
  | inserts =>
    cases directs with
    | stays same heads => exact .stays same heads
    | appends valid dated sequences rows heads => exact .appends valid dated sequences rows heads

theorem Effect.directs {command : WorkCommandRow} {payload : WorkCommandPayload} {now : Int} {outcome : ExecutionOutcome}
    (effect : Effect platform command now seen s s payload after outcome) : s.Directs platform after := by
  cases effect with
  | refuses | creates => exact .stays rfl fun _ => rfl
  | applies _ _ applies => exact directs_of_ledger applies.ledger
  | issues _ issues =>
    cases issues with
    | leaves => exact .stays rfl fun _ => rfl
    | issues _ enqueues =>
      cases enqueues.directs with
      | stays same heads => exact .stays same heads
      | appends valid dated sequences rows heads => exact .appends valid dated sequences rows heads

theorem Does.directs (does : Does platform order seen s call after answer) : s.Directs platform after := by
  cases does with
  | createTask | recordNodeTask | claim => exact .stays rfl fun _ => rfl
  | replayNodeTask idle => rcases idle with rfl | rfl <;> exact .stays rfl fun _ => rfl
  | submit _ _ _ records => cases records <;> exact .stays rfl fun _ => rfl
  | recordPending _ _ receipted => exact Receipted.directs receipted (.stays rfl fun _ => rfl)
  | confirm confirms =>
    cases confirms with
    | unknown | refused => exact .stays rfl fun _ => rfl
    | executes _ _ _ executes =>
      cases executes with
      | replays => exact .stays rfl fun _ => rfl
      | confirms decided _ _ receipted =>
        refine Receipted.directs receipted ?_
        rcases confirmedOutcome_runs decided with ⟨_, rfl, _⟩ | ⟨_, runs⟩
        · exact .stays rfl fun _ => rfl
        · exact Effect.directs (applyEffect_runs runs)
  | applyDirectiveReceipt reports =>
    cases reports with
    | idle | unissued | replays => exact .stays rfl fun _ => rfl
    | reports _ _ _ reflects _ _ receipted => exact Receipted.directs receipted (directs_of_ledger reflects.ledger)
  | enqueue _ _ _ enqueues => exact enqueues.directs
  | recordDirectiveReceipt received => cases received <;> exact .stays rfl fun _ => rfl
  | ask asks => rcases asks with rfl | rfl <;> exact .stays rfl fun _ => rfl
  | recordSession records => rcases records with rfl | ⟨_, rfl⟩ <;> exact .stays rfl fun _ => rfl

end CommandCall

end MindLeak.Ackplane
