import MindLeak.Proofs.DelegationLocks

/-! What the calls on delegations do that go through: a grant or a revocation leaves one event and the
row that says what it comes to, a use leaves one receipt, and a retry leaves nothing. -/

namespace MindLeak.Ackplane

open Transaction HumanDelegations Option

def DelegationProjection.after (before : Option DelegationProjection) (event : DelegationEvent) : Option DelegationProjection :=
  match event.payload with
  | .granted grant => some (grant.projection event)
  | .revoked reason => before.map fun projection => projection.revoke event reason

def DelegationProjection.fold (events : List DelegationEvent) : Option DelegationProjection :=
  events.foldl DelegationProjection.after none

variable {s after : HumanDelegations} {event : DelegationEvent}

namespace HumanDelegations
variable {stream : Stream}

def streamEvents (s : HumanDelegations) (stream : Stream) : List DelegationEvent :=
  (EventLog.trail DelegationEventRow.stream s.events stream).map DelegationEventRow.event

def delegationEvents (s : HumanDelegations) (key : DelegationKey) : List DelegationEvent :=
  (EventLog.trail DelegationEventRow.key s.events key).map DelegationEventRow.event

def grantOf (s : HumanDelegations) (stream : Stream) (event : DelegationEvent) : Option DelegationEvent :=
  if event.kind = .granted then some event else s.grantEvent? ⟨stream.tenantId, stream.repositoryId, event.delegationId⟩

structure Answers (s : HumanDelegations) (stream : Stream) (idempotencyKey : String) (kind : DelegationEventKind) (digest : Bytes)
    (outcome : DelegationOutcome) : Prop where
  there : s.eventOf? stream idempotencyKey = some outcome.event
  same_kind : outcome.event.kind = kind
  same_digest : outcome.event.payloadDigest = digest
  told : ∃ grantEvent, s.grantOf stream outcome.event = some grantEvent ∧
    HumanDelegation.outcomeAt grantEvent outcome.event outcome.idempotentReplay = .ok outcome

structure Writes (s : HumanDelegations) (row : DelegationEventRow) (after : HumanDelegations) : Prop where
  next : row.event.streamPosition = s.position row.stream + 1
  absent : s.eventOf? row.stream row.event.idempotencyKey = none
  opens : row.event.kind = .granted → s.projection? row.key = none
  closes : row.event.kind = .revoked → ∃ projection, s.projection? row.key = some projection ∧ projection.status = .active
  events : after.events = s.events ++ [row]
  heads : ∀ stream, after.position stream = if row.stream = stream then row.event.streamPosition else s.position stream
  folds : ∀ key, after.projection? key =
    if row.key = key then DelegationProjection.after (s.projection? key) row.event else s.projection? key
  receipts : after.receipts = s.receipts

/-- A call on a stream that goes through: it is answered from an event that was there, or leaves its own. -/
inductive Records (s after : HumanDelegations) (stream : Stream) (idempotencyKey : String) (kind : DelegationEventKind) (digest : Bytes)
    (outcome : DelegationOutcome) : Prop where
  | replays (same : after = s) (replay : outcome.idempotentReplay = true) (answers : s.Answers stream idempotencyKey kind digest outcome)
  | writes (first : outcome.idempotentReplay = false) (writes : s.Writes ⟨stream, outcome.event⟩ after)
      (answers : after.Answers stream idempotencyKey kind digest outcome)

theorem find?_concat_of_none {α : Type} {rows : List α} {row : α} {passes : α → Bool} (none : rows.find? passes = none)
    (passing : passes row = true) : (rows ++ [row]).find? passes = some row := by
  rw [List.find?_append, none, none_or, List.find?_cons_of_pos passing]

theorem find?_concat_of_some {α : Type} {rows : List α} {row found : α} {passes : α → Bool} (there : rows.find? passes = some found) :
    (rows ++ [row]).find? passes = some found := by
  rw [List.find?_append, there, some_or]

theorem Writes.eventOf? {row : DelegationEventRow} (writes : s.Writes row after) :
    after.eventOf? row.stream row.event.idempotencyKey = some row.event := by
  have none := writes.absent
  unfold HumanDelegations.eventOf? at none ⊢
  rw [writes.events, find?_concat_of_none (map_eq_none_iff.mp none) (by simp)]
  rfl

theorem Writes.grantEvent? {row : DelegationEventRow} (writes : s.Writes row after)
    {key : DelegationKey} (there : s.grantEvent? key = some event) : after.grantEvent? key = some event := by
  obtain ⟨found, first, rfl⟩ := map_eq_some_iff.mp there
  unfold HumanDelegations.grantEvent?
  rw [writes.events, find?_concat_of_some first]
  rfl

theorem grantOf_granted (granted : event.kind = .granted) :
    s.grantOf stream event = some event := if_pos granted

theorem grantOf_revoked (revoked : event.kind = .revoked) :
    s.grantOf stream event = s.grantEvent? ⟨stream.tenantId, stream.repositoryId, event.delegationId⟩ :=
  if_neg (by rw [revoked]; exact nofun)

theorem Writes.answers {grantEvent : DelegationEvent} {idempotencyKey : String}
    {kind : DelegationEventKind} {digest : Bytes} {projection : DelegationProjection} {replay : Bool}
    (writes : s.Writes ⟨stream, event⟩ after) (named : event.idempotencyKey = idempotencyKey)
    (same_kind : event.kind = kind) (same_digest : event.payloadDigest = digest)
    (granted : after.grantOf stream event = some grantEvent)
    (told : HumanDelegation.outcomeAt grantEvent event replay = .ok ⟨projection, event, replay⟩) :
    after.Answers stream idempotencyKey kind digest ⟨projection, event, replay⟩ := by
  subst named
  exact ⟨writes.eventOf?, same_kind, same_digest, grantEvent, granted, told⟩

theorem position_advance (s : HumanDelegations) (stream other : Stream) (position : Nat) :
    (s.advance stream position).position other = if stream = other then position else s.position other := by
  unfold HumanDelegations.position advance
  rw [Table.find?_put]
  split
  next same =>
    rw [if_pos (show stream = other from same)]
    rfl
  next apart => rw [if_neg (show ¬stream = other from apart)]

theorem projection?_insert {row : DelegationProjectionRow} (fresh : s.projection? row.key = none) (key : DelegationKey) :
    (s.insertProjection row).projection? key = if row.key = key then some row.projection else s.projection? key := by
  unfold HumanDelegations.projection? insertProjection at *
  rw [Table.find?_insertOrIgnore]
  split
  next same =>
    rw [if_pos (show row.key = key from same), ← show row.key = key from same, map_eq_none_iff.mp fresh]
    rfl
  next apart => rw [if_neg (show ¬row.key = key from apart)]

theorem projection?_update (s : HumanDelegations) (key other : DelegationKey) (set : DelegationProjectionRow → DelegationProjectionRow)
    (keeps : ∀ row, (set row).key = row.key) : (s.updateProjection key set keeps).projection? other =
      if key = other then (s.projections.find? key).map fun row => (set row).projection else s.projection? other := by
  refine (congrArg _ (Table.find?_update_one s.projections key other set keeps)).trans ?_
  split
  next => rw [map_map]; rfl
  next => rfl

end HumanDelegations

variable {grows : HumanDelegations → HumanDelegations → Prop} {seen : HumanDelegations → Prop} {platform : Platform}
  {recordedAt : Int}

namespace HumanDelegation
variable {written : HumanDelegations}
variable {outcome : DelegationOutcome} {digest : Bytes} {request : DelegationGrantRequest} {delegationId : String}

theorem insertEvent_runs {stream : Stream} {answer : Unit}
    (runs : (insertEvent stream event).Runs look s grows seen written after answer) :
    s.look (.eventSlot stream event.streamPosition event.idempotencyKey) = true ∧
      after = written.insertEvent ⟨stream, event⟩ := by
  have done := runs.lock
  split at done
  next free => exact ⟨free, (Runs.ofExcept_only (Runs.store done)).2⟩
  next => exact done.elim

theorem insertProjection_runs {row : DelegationProjectionRow} {answer : Unit}
    (runs : (insertProjection row).Runs look s grows seen written after answer) :
    s.projection? row.key = none ∧ after = written.insertProjection row := by
  rcases runs.lockOn with ⟨_ | _, absent, ⟨⟩, done⟩ | ⟨_ | _, _, _, _, ⟨⟩, done⟩
  · exact ⟨absent, done.1⟩
  · exact done.elim

theorem outcomeAt_event {grantEvent : DelegationEvent} {replay : Bool}
    (done : outcomeAt grantEvent event replay = .ok outcome) : ∃ projection, outcome = ⟨projection, event, replay⟩ := by
  obtain ⟨projection, _, done⟩ := bind_ok done
  cases done
  exact ⟨projection, rfl⟩

theorem grantEventFromTransaction_runs {key : DelegationKey}
    (runs : (grantEventFromTransaction key).Runs look s grows seen written after event) :
    s.grantEvent? key = some event ∧ after = written := by
  obtain ⟨_ | found, there, done⟩ := runs.lockAs
  · exact done.elim
  · obtain ⟨same, rfl⟩ := done
    exact ⟨there, same⟩

theorem idempotentOutcome_runs {stream : Stream} {idempotencyKey : String} {kind : DelegationEventKind}
    {found : Option DelegationOutcome}
    (runs : (idempotentOutcome stream idempotencyKey kind digest).Runs look s grows seen written after found) :
    after = written ∧ (found = none ∧ s.eventOf? stream idempotencyKey = none ∨
      ∃ outcome, found = some outcome ∧ outcome.idempotentReplay = true ∧ s.Answers stream idempotencyKey kind digest outcome) := by
  obtain ⟨_ | event, there, done⟩ := runs.lockAs
  · obtain ⟨same, rfl⟩ := done
    exact ⟨same, .inl ⟨rfl, there⟩⟩
  · dsimp only at done
    obtain ⟨agree, done⟩ := done.past
    rw [not_or, not_not, not_not] at agree
    obtain ⟨middle, grantEvent, first, done⟩ := Runs.bind done
    obtain ⟨outcome, told, done⟩ := Runs.ofExcept done
    obtain ⟨rfl, rfl⟩ := done
    obtain ⟨projection, rfl⟩ := outcomeAt_event told
    have grants : s.grantOf stream event = some grantEvent ∧ after = written := by
      unfold grantOf
      split at first
      next granted =>
        obtain ⟨rfl, rfl⟩ := first
        exact ⟨if_pos granted, rfl⟩
      next revoked =>
        rw [if_neg revoked]
        exact grantEventFromTransaction_runs first
    exact ⟨grants.2, .inr ⟨_, rfl, rfl, there, agree.1, agree.2, grantEvent, grants.1, told⟩⟩

theorem nextStreamPosition_ok {current next : Nat} (done : nextStreamPosition current = .ok next) : next = current + 1 := by
  obtain ⟨_, done⟩ := ite_else done
  cases done
  rfl

theorem writes_grant (actions : List DelegatedAction) (digest : Bytes) (recordedAt : Int) {position : Nat}
    (next : position = s.position request.stream + 1) (absent : s.eventOf? request.stream request.idempotencyKey = none)
    (fresh : s.projection? ⟨request.tenantId, request.repositoryId, delegationId⟩ = none) :
    s.Writes ⟨request.stream, request.event actions delegationId position digest recordedAt⟩
      (((s.insertEvent ⟨request.stream, request.event actions delegationId position digest recordedAt⟩).insertProjection
        ⟨request.stream, request.projection actions delegationId position recordedAt⟩).advance request.stream position) where
  next := next
  absent := absent
  opens _ := fresh
  closes := nofun
  events := rfl
  heads _ := position_advance _ _ _ _
  folds key := projection?_insert fresh key
  receipts := rfl

theorem writes_revocation {request : DelegationRevocationRequest} (digest : Bytes) (recordedAt : Int) {position : Nat}
    {projection : DelegationProjection} (next : position = s.position request.stream + 1)
    (absent : s.eventOf? request.stream request.idempotencyKey = none) (there : s.projection? request.key = some projection)
    (active : projection.status = .active) :
    s.Writes ⟨request.stream, request.event position (request.expectedVersion + 1) digest recordedAt⟩
      (((s.insertEvent ⟨request.stream, request.event position (request.expectedVersion + 1) digest recordedAt⟩).updateProjection
        request.key (request.set position (request.expectedVersion + 1) recordedAt)).advance request.stream position) where
  next := next
  absent := absent
  opens := nofun
  closes _ := ⟨projection, there, active⟩
  events := rfl
  heads _ := position_advance _ _ _ _
  folds key := by
    obtain ⟨row, stored, rfl⟩ := map_eq_some_iff.mp there
    refine (projection?_update _ request.key key (request.set position (request.expectedVersion + 1) recordedAt) fun _ => rfl).trans ?_
    by_cases its : request.key = key
    · subst its
      rw [if_pos rfl, there]
      refine Eq.trans ?_ (if_pos rfl).symm
      exact congrArg (Option.map _) stored
    · exact (if_neg its).trans (if_neg its : (if request.key = key then _ else _) = s.projection? key).symm
  receipts := rfl

theorem recordGrant_runs {codes : List Nat}
    (runs : (recordGrant request codes digest delegationId recordedAt).Runs look s grows seen s after outcome) :
    s.Records after request.stream request.idempotencyKey .granted digest outcome := by
  obtain ⟨middle, found, first, done⟩ := Runs.bind runs.lock
  obtain ⟨rfl, ⟨rfl, absent⟩ | ⟨earlier, rfl, replay, answers⟩⟩ := idempotentOutcome_runs first
  · obtain ⟨position, counted, done⟩ := Runs.ofExcept done
    obtain ⟨actions, _, done⟩ := Runs.ofExcept done
    obtain ⟨_, _, inserted, done⟩ := Runs.bind done
    obtain ⟨_, rfl⟩ := insertEvent_runs inserted
    obtain ⟨_, _, projected, done⟩ := Runs.bind done
    obtain ⟨none, rfl⟩ := insertProjection_runs projected
    obtain ⟨told, rfl⟩ := Runs.ofExcept_only done
    obtain ⟨projection, rfl⟩ := outcomeAt_event told
    have writes := writes_grant actions digest recordedAt (nextStreamPosition_ok counted) absent none
    exact .writes rfl writes (writes.answers rfl rfl rfl (grantOf_granted rfl) told)
  · obtain ⟨rfl, rfl⟩ := done
    exact .replays rfl replay answers

theorem grant_runs {now : Int}
    (runs : (grant platform request now delegationId recordedAt).Runs look s grows seen s after outcome) :
    validateGrant request.normalize (Directive.normalizeTimestamp now) = .ok () ∧
      ∃ codes, actionCodes request.allowedActions = .ok codes ∧
        s.Records after request.stream request.idempotencyKey .granted (grantPayloadDigest platform request.normalize codes) outcome := by
  obtain ⟨_, valid, done⟩ := Runs.ofExcept runs
  obtain ⟨codes, coded, done⟩ := Runs.ofExcept done
  have records := recordGrant_runs done
  exact ⟨valid, codes, coded, records⟩

theorem revokeProjection_runs {request : DelegationRevocationRequest} {projection : DelegationProjection}
    (absent : s.eventOf? request.stream request.idempotencyKey = none)
    (there : s.projection? request.key = some projection)
    (runs : (revokeProjection request digest recordedAt (s.position request.stream) projection).Runs look s grows seen s after outcome) :
    s.Records after request.stream request.idempotencyKey .revoked digest outcome := by
  unfold revokeProjection at runs
  obtain ⟨active, runs⟩ := runs.past
  obtain ⟨_, runs⟩ := runs.past
  obtain ⟨position, counted, done⟩ := Runs.ofExcept runs
  obtain ⟨_, _, inserted, done⟩ := Runs.bind done
  obtain ⟨_, rfl⟩ := insertEvent_runs inserted
  have done := Runs.store done
  have done := Runs.store done
  obtain ⟨_, grantEvent, read, done⟩ := Runs.bind done
  obtain ⟨granted, rfl⟩ := grantEventFromTransaction_runs read
  obtain ⟨told, rfl⟩ := Runs.ofExcept_only done
  obtain ⟨last, rfl⟩ := outcomeAt_event told
  have status : projection.status = .active := by
    cases status : projection.status with
    | active => rfl
    | revoked => exact absurd status active
  have writes := writes_revocation digest recordedAt (nextStreamPosition_ok counted) absent there status
  exact .writes rfl writes (writes.answers rfl rfl rfl ((grantOf_revoked rfl).trans (writes.grantEvent? granted)) told)

theorem revoke_runs {request : DelegationRevocationRequest}
    (runs : (revoke platform request recordedAt).Runs look s grows seen s after outcome) :
    validateRevocation request = .ok () ∧
      s.Records after request.stream request.idempotencyKey .revoked (revocationPayloadDigest platform request) outcome := by
  obtain ⟨_, valid, done⟩ := Runs.ofExcept runs
  refine ⟨valid, ?_⟩
  obtain ⟨middle, found, first, done⟩ := Runs.bind done.lock
  obtain ⟨rfl, ⟨rfl, absent⟩ | ⟨earlier, rfl, replay, answers⟩⟩ := idempotentOutcome_runs first
  · rcases done.lockOn with ⟨_ | _, found, ⟨⟩, done⟩ | ⟨_ | _, _, _, _, ⟨⟩, done⟩
    · exact revokeProjection_runs absent found done
    · exact done.elim
  · obtain ⟨rfl, rfl⟩ := done
    exact .replays rfl replay answers

end HumanDelegation

namespace HumanDelegations

inductive Decides (s after : HumanDelegations) (platform : Platform) (request : DelegationUseRequest) (now : Int)
    (projection : DelegationProjection) (outcome : DelegationUseOutcome) : Prop where
  | replays {row : DelegationUseRow} (there : s.receiptOf? request.key request.idempotencyKey = some row)
      (agrees : row.payloadDigest = request.digest platform) (same : after = s) (answer : outcome = ⟨row.receipt, true⟩)
  | issues {receiptId : Nat} {recordedAt : Int} {receipt : DelegationUseReceipt}
      (absent : s.receiptOf? request.key request.idempotencyKey = none)
      (decided : receipt = request.receipt projection
        (projection.refusalFor request (Directive.normalizeTimestamp now) (s.usage request.key).1 (s.usage request.key).2) receiptId recordedAt)
      (issued : after = s.insertReceipt ⟨request.stream, receipt, request.idempotencyKey, request.digest platform⟩)
      (answer : outcome = ⟨receipt, false⟩)

inductive Steps (platform : Platform) (s after : HumanDelegations) : Prop where
  | stays (same : after = s)
  | writes {row : DelegationEventRow} (writes : s.Writes row after)
  | decides {request : DelegationUseRequest} {now : Int} {projection : DelegationProjection} {outcome : DelegationUseOutcome}
      (there : s.projection? request.key = some projection) (decides : s.Decides after platform request now projection outcome)

theorem Records.steps {platform : Platform} {s after : HumanDelegations} {stream : Stream} {idempotencyKey : String}
    {kind : DelegationEventKind} {digest : Bytes} {outcome : DelegationOutcome}
    (records : s.Records after stream idempotencyKey kind digest outcome) : s.Steps platform after := by
  cases records with
  | replays same => exact .stays same
  | writes _ writes => exact .writes writes

end HumanDelegations

namespace HumanDelegation

theorem insertReceipt_runs {request : DelegationUseRequest} {projection : DelegationProjection} {refusal : Option DelegationUseRefusal}
    {digest : Bytes} {receiptId : Nat} {recordedAt : Int} {receipt : DelegationUseReceipt}
    (runs : (insertReceipt request projection refusal digest receiptId recordedAt).Runs look s grows seen s after receipt) :
    receipt = request.receipt projection refusal receiptId recordedAt ∧
      after = s.insertReceipt ⟨request.stream, receipt, request.idempotencyKey, digest⟩ := by
  unfold insertReceipt at runs
  obtain ⟨_, runs⟩ := runs.past
  have done := runs.lock
  split at done
  next =>
    obtain ⟨rfl, rfl⟩ := done
    exact ⟨rfl, rfl⟩
  next => exact done.elim

theorem authorizeUse_runs {request : DelegationUseRequest} {now : Int} {receiptId : Nat} {recordedAt : Int} {outcome : DelegationUseOutcome}
    (runs : (authorizeUse platform request now receiptId recordedAt).Runs look s grows seen s after outcome) :
    request.validate = .ok () ∧ ∃ projection, s.projection? request.key = some projection ∧
      s.Decides after platform request now projection outcome := by
  obtain ⟨_, valid, done⟩ := Runs.ofExcept runs
  refine ⟨valid, ?_⟩
  rcases done.lockOn with ⟨_ | projection, found, ⟨⟩, done⟩ | ⟨_ | _, _, _, _, ⟨⟩, done⟩
  · refine ⟨projection, found, ?_⟩
    obtain ⟨_ | row, stored, done⟩ := done.lockAs
    · obtain ⟨_, receipt, inserted, rfl, rfl⟩ := Runs.bind (Runs.lock done)
      obtain ⟨decided, issued⟩ := insertReceipt_runs inserted
      exact .issues stored decided issued rfl
    · dsimp only at done
      obtain ⟨agrees, rfl, rfl⟩ := done.past
      exact .replays stored (not_not.mp agrees) rfl rfl
  · exact done.elim

end HumanDelegation

section
variable {answer : HumanDelegationAnswer}

theorem grant_commits {request : DelegationGrantRequest} {now : Int} {delegationId : String}
    (commits : Interleaving.Commits look grows (HumanDelegationCall.program platform) seen s after
      (.grant request now delegationId recordedAt) answer) :
    ∃ outcome, answer = .written outcome ∧ (HumanDelegation.grant platform request now delegationId recordedAt).Runs look s grows seen s after outcome := by
  obtain ⟨_, outcome, runs, done⟩ := Runs.bind commits
  obtain ⟨rfl, rfl⟩ := done
  exact ⟨outcome, rfl, runs.mapError⟩

theorem revoke_commits {request : DelegationRevocationRequest}
    (commits : Interleaving.Commits look grows (HumanDelegationCall.program platform) seen s after
      (.revoke request recordedAt) answer) :
    ∃ outcome, answer = .written outcome ∧ (HumanDelegation.revoke platform request recordedAt).Runs look s grows seen s after outcome := by
  obtain ⟨_, outcome, runs, done⟩ := Runs.bind commits
  obtain ⟨rfl, rfl⟩ := done
  exact ⟨outcome, rfl, runs.mapError⟩

theorem authorizeUse_commits {request : DelegationUseRequest} {now : Int} {receiptId : Nat}
    (commits : Interleaving.Commits look grows (HumanDelegationCall.program platform) seen s after
      (.authorizeUse request now receiptId recordedAt) answer) :
    ∃ outcome, answer = .used outcome ∧ (HumanDelegation.authorizeUse platform request now receiptId recordedAt).Runs look s grows seen s after outcome := by
  obtain ⟨_, outcome, runs, done⟩ := Runs.bind commits
  obtain ⟨rfl, rfl⟩ := done
  exact ⟨outcome, rfl, runs.mapError⟩

theorem HumanDelegationCall.steps {call : HumanDelegationCall}
    (commits : Interleaving.Commits look grows (HumanDelegationCall.program platform) seen s after call answer) :
    s.Steps platform after := by
  cases call with
  | grant request now delegationId recordedAt =>
    obtain ⟨outcome, _, runs⟩ := grant_commits commits
    obtain ⟨_, codes, _, records⟩ := HumanDelegation.grant_runs runs
    exact records.steps
  | revoke request recordedAt =>
    obtain ⟨outcome, _, runs⟩ := revoke_commits commits
    exact (HumanDelegation.revoke_runs runs).2.steps
  | authorizeUse request now receiptId recordedAt =>
    obtain ⟨outcome, _, runs⟩ := authorizeUse_commits commits
    obtain ⟨_, projection, there, decides⟩ := HumanDelegation.authorizeUse_runs runs
    exact .decides there decides

end

end MindLeak.Ackplane
