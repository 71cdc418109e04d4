import MindLeak.Ackplane.HumanDelegationStore

/-! The calls on delegations write under locks: an event under its stream's head, a receipt under its
delegation's projection. -/

namespace MindLeak.Ackplane

open Transaction List

@[simp] theorem DelegationEventRow.key_stream (row : DelegationEventRow) : row.key.stream = row.stream := rfl

variable {held : List Lock}

namespace HumanDelegations
variable {s : HumanDelegations}

theorem find?_concat_of_not {α : Type} {rows : List α} {row : α} {passes : α → Bool} (out : passes row = false) :
    (rows ++ [row]).find? passes = rows.find? passes := by
  rw [List.find?_append, List.find?_cons_of_neg (by rw [out]; exact Bool.false_ne_true), List.find?_nil, Option.or_none]

theorem any_concat_of_not {α : Type} {rows : List α} {row : α} {passes : α → Bool} (out : passes row = false) :
    (rows ++ [row]).any passes = rows.any passes := by
  rw [any_append, any_cons, out, any_nil, Bool.or_self, Bool.or_false]

theorem covers_insertEvent {row : DelegationEventRow} (mine : .head row.stream ∈ held) :
    Covers look guards held (·.insertEvent row) := by
  intro s view free
  have apart {stream : Stream} (its : .head stream ∈ guards view (look s view)) : row.stream ≠ stream := by
    rintro rfl
    exact free _ its mine
  cases view with
  | event stream idempotencyKey =>
    have other := apart (mem_singleton_self _)
    exact congrArg (Option.map _) (find?_concat_of_not (by simp [other]))
  | eventSlot stream position idempotencyKey =>
    have other := apart (mem_singleton_self _)
    exact congrArg (!·) (any_concat_of_not (by simp [other]))
  | grantEvent key =>
    have other : row.key ≠ key := by
      rintro rfl
      exact apart (mem_singleton_self _) rfl
    exact congrArg (Option.map _) (find?_concat_of_not (by simp [other]))
  | _ => rfl

theorem covers_advance {stream : Stream} {position : Nat} (mine : .head stream ∈ held) :
    Covers look guards held (·.advance stream position) := by
  intro s view free
  cases view with
  | head other =>
    have apart : Row.key (⟨stream, position⟩ : DelegationStreamHead) ≠ other := fun same =>
      free _ (mem_singleton_self _) (same ▸ mine)
    simp only [look, HumanDelegations.position, advance, Table.find?_put, if_neg apart]
  | _ => rfl

theorem covers_insertProjection {row : DelegationProjectionRow} (mine : .head row.stream ∈ held) :
    Covers look guards held (·.insertProjection row) := by
  intro s view free
  cases view with
  | projection key =>
    refine congrArg (Option.map DelegationProjectionRow.projection) ((Table.find?_insertOrIgnore _ _ _).trans ?_)
    split
    next same =>
      cases found : s.projections.find? key with
      | some => rfl
      | none =>
        subst same
        have its : .head row.stream ∈ guards (.projection (Row.key row)) (look s (.projection (Row.key row))) := by
          rw [show look s (.projection (Row.key row)) = none from congrArg (Option.map _) found]
          exact mem_singleton_self _
        exact absurd mine (free _ its)
    next => rfl
  | _ => rfl

theorem covers_updateProjection {key : DelegationKey} {set : DelegationProjectionRow → DelegationProjectionRow}
    {keeps : ∀ row, (set row).key = row.key} (mine : .projection key ∈ held) :
    Covers look guards held (·.updateProjection key set keeps) := by
  intro s view free
  cases view with
  | projection other =>
    refine congrArg (Option.map DelegationProjectionRow.projection) ((Table.find?_update_one _ key other set keeps).trans ?_)
    split
    next same =>
      subst same
      cases found : s.projections.find? key with
      | none => rfl
      | some row =>
        have its : .projection key ∈ guards (.projection key) (look s (.projection key)) := by
          rw [show look s (.projection key) = some row.projection from congrArg (Option.map _) found]
          exact mem_singleton_self _
        exact absurd mine (free _ its)
    next => rfl
  | _ => rfl

theorem covers_insertReceipt {row : DelegationUseRow} (mine : .projection row.key ∈ held) :
    Covers look guards held (·.insertReceipt row) := by
  intro s view free
  have apart {key : DelegationKey} (its : .projection key ∈ guards view (look s view)) : row.key ≠ key := by
    rintro rfl
    exact free _ its mine
  cases view with
  | receipt key idempotencyKey =>
    have other := apart (mem_singleton_self _)
    exact find?_concat_of_not (by simp [other])
  | receiptSlot key receiptId idempotencyKey =>
    have other := apart (mem_singleton_self _)
    exact congrArg (!·) (any_concat_of_not (by simp [other]))
  | usage key =>
    have other := apart (mem_singleton_self _)
    have same : (s.insertReceipt row).authorized key = s.authorized key := by
      unfold authorized insertReceipt
      rw [filter_append, filter_cons_of_neg (by simp [other]), filter_nil, append_nil]
    simp only [look, HumanDelegations.usage, same]
  | _ => rfl

end HumanDelegations

namespace HumanDelegation
open HumanDelegations
variable {platform : Platform}

theorem insertEvent_within {stream : Stream} {event : DelegationEvent} :
    (insertEvent stream event).Within look guards held fun _ after => .head stream ∈ after ∧ held ⊆ after := by
  refine within_selectLocked fun s => ?_
  cases s.look (.eventSlot stream event.streamPosition event.idempotencyKey) with
  | false => trivial
  | true =>
    refine within_execute (covers_insertEvent mem_cons_self) ?_
    exact within_ofExcept.mpr fun _ _ => ⟨mem_cons_self, subset_append_right _ _⟩

theorem idempotentOutcome_within {stream : Stream} {idempotencyKey : String} {kind : DelegationEventKind} {digest : Bytes} :
    (idempotentOutcome stream idempotencyKey kind digest).Within look guards held fun _ after => held ⊆ after := by
  refine within_selectLocked fun s => ?_
  cases s.look (.event stream idempotencyKey) with
  | none => exact subset_append_right _ _
  | some event =>
    dsimp only
    split
    · trivial
    have grants : (if event.kind = .granted then .pure event
        else grantEventFromTransaction ⟨stream.tenantId, stream.repositoryId, event.delegationId⟩ :
        DelegationTransaction DelegationStoreError DelegationEvent).Within look guards
          (guards (.event stream idempotencyKey) (some event) ++ held) fun _ after => held ⊆ after := by
      split
      · exact subset_append_right _ _
      refine within_selectLocked fun s => ?_
      cases s.look (.grantEvent ⟨stream.tenantId, stream.repositoryId, event.delegationId⟩) with
      | none => trivial
      | some => exact List.Subset.trans (subset_append_right _ _) (subset_append_right _ _)
    exact grants.bind fun _ after kept => (within_ofExcept.mpr fun _ _ => kept : Within _ _ _ _ _).bind fun _ _ kept => kept

theorem insertProjection_within {row : DelegationProjectionRow} {lock : Lock} (mine : lock ∈ held) :
    (insertProjection row).Within look guards held fun _ after => lock ∈ after := by
  refine within_selectIf fun s => ?_
  cases s.look (.projection row.key) with
  | some => trivial
  | none => exact ⟨covers_insertProjection mem_cons_self, mem_cons_of_mem _ mine⟩

theorem grantEventFromTransaction_within {key : DelegationKey} :
    (grantEventFromTransaction key).Within look guards held fun _ _ => True := by
  refine within_selectLocked fun s => ?_
  cases s.look (.grantEvent key) <;> trivial

variable {recordedAt : Int}

theorem grant_within {request : DelegationGrantRequest} {now : Int} {delegationId : String} :
    (grant platform request now delegationId recordedAt).Within look guards held fun _ _ => True := by
  refine within_checked fun _ => within_checked fun codes => ?_
  refine within_selectLocked fun s => idempotentOutcome_within.bind fun found held kept => ?_
  cases found with
  | some => trivial
  | none =>
    refine within_checked fun position => within_checked fun actions => ?_
    refine insertEvent_within.bind fun _ held mine => (insertProjection_within mine.1).bind fun _ held mine => ?_
    exact within_execute (covers_advance mine) (within_ofExcept.mpr fun _ _ => trivial)

theorem revoke_within {request : DelegationRevocationRequest} :
    (revoke platform request recordedAt).Within look guards held fun _ _ => True := by
  refine within_checked fun _ => ?_
  refine within_selectLocked fun s => idempotentOutcome_within.bind fun found held kept => ?_
  cases found with
  | some => trivial
  | none =>
    refine within_selectIf fun s => ?_
    cases s.look (.projection request.key) with
    | none => trivial
    | some projection =>
      dsimp only
      unfold revokeProjection
      split
      · trivial
      split
      · trivial
      · refine within_checked fun position => insertEvent_within.bind fun _ held mine => ?_
        refine within_execute (covers_updateProjection (mine.2 mem_cons_self)) (within_execute (covers_advance mine.1) ?_)
        exact grantEventFromTransaction_within.bind fun _ _ _ => within_ofExcept.mpr fun _ _ => trivial

theorem insertReceipt_within {request : DelegationUseRequest} {projection : DelegationProjection} {refusal : Option DelegationUseRefusal}
    {digest : Bytes} {receiptId : Nat} :
    (insertReceipt request projection refusal digest receiptId recordedAt).Within look guards held fun _ _ => True := by
  unfold insertReceipt
  split
  · trivial
  refine within_selectLocked fun s => ?_
  cases s.look (.receiptSlot request.key receiptId request.idempotencyKey) with
  | false => trivial
  | true => exact ⟨covers_insertReceipt mem_cons_self, trivial⟩

theorem authorizeUse_within {request : DelegationUseRequest} {now : Int} {receiptId : Nat} :
    (authorizeUse platform request now receiptId recordedAt).Within look guards held fun _ _ => True := by
  refine within_checked fun _ => within_selectIf fun s => ?_
  cases s.look (.projection request.key) with
  | none => trivial
  | some projection =>
    refine within_selectLocked fun s => ?_
    cases s.look (.receipt request.key request.idempotencyKey) with
    | some row =>
      dsimp only
      split <;> trivial
    | none => exact within_selectLocked fun s => insertReceipt_within.bind fun _ _ _ => trivial

end HumanDelegation

theorem HumanDelegationCall.program_within (platform : Platform) (call : HumanDelegationCall) :
    (call.program platform).Within HumanDelegations.look HumanDelegations.guards [] fun _ _ => True := by
  cases call with
  | grant => exact (within_mapError.mpr HumanDelegation.grant_within).bind fun _ _ _ => trivial
  | revoke => exact (within_mapError.mpr HumanDelegation.revoke_within).bind fun _ _ _ => trivial
  | authorizeUse => exact (within_mapError.mpr HumanDelegation.authorizeUse_within).bind fun _ _ _ => trivial

end MindLeak.Ackplane
