import MindLeak.Proofs.DelegationSteps
import MindLeak.Library.Numbering
import MindLeak.Library.Serial

/-! Delegations over whole runs. Their rows are what their events fold to, the events of a stream are
numbered without a gap, and a revocation is for good. A request that left an event is answered from it
again, a grant's only as long as it has not expired. -/

namespace MindLeak.Ackplane

open Transaction HumanDelegations List Directive Interleaving

variable {s after : HumanDelegations} {stream : Stream} {idempotencyKey : String} {kind : DelegationEventKind}
  {digest : Bytes} {outcome : DelegationOutcome}

namespace HumanDelegations
variable {last : HumanDelegations} {row : DelegationEventRow}

theorem Writes.streamEvents (writes : s.Writes row after) (stream : Stream) : after.streamEvents stream =
    if row.stream = stream then s.streamEvents stream ++ [row.event] else s.streamEvents stream := by
  unfold HumanDelegations.streamEvents
  rw [writes.events, EventLog.trail_append]
  split
  next => rw [map_append, map_singleton]
  next => rfl

theorem Writes.delegationEvents (writes : s.Writes row after) (key : DelegationKey) : after.delegationEvents key =
    if row.key = key then s.delegationEvents key ++ [row.event] else s.delegationEvents key := by
  unfold HumanDelegations.delegationEvents
  rw [writes.events, EventLog.trail_append]
  split
  next => rw [map_append, map_singleton]
  next => rfl

/-- Row and events say the same, and the heads count the events. -/
structure Sound (s : HumanDelegations) : Prop where
  folds : ∀ key, s.projection? key = DelegationProjection.fold (s.delegationEvents key)
  numbered : ∀ stream, Numbered DelegationEvent.streamPosition 1 (s.streamEvents stream)
  counted : ∀ stream, s.position stream = (s.streamEvents stream).length

theorem sound_empty : empty.Sound := ⟨fun _ => rfl, fun _ => .nil, fun _ => rfl⟩

theorem Writes.sound (writes : s.Writes row after) (sound : s.Sound) : after.Sound := by
  refine ⟨fun key => ?_, fun stream => ?_, fun stream => ?_⟩
  · rw [writes.folds, writes.delegationEvents, sound.folds]
    split
    next => rw [DelegationProjection.fold, DelegationProjection.fold, foldl_append, foldl_cons, foldl_nil]
    next => rfl
  · rw [writes.streamEvents]
    split
    next its =>
      refine (sound.numbered stream).append ?_
      rw [writes.next, its, sound.counted, Nat.add_comm]
    next => exact sound.numbered stream
  · rw [writes.streamEvents, writes.heads]
    split
    next its => rw [writes.next, its, sound.counted, length_append, length_singleton]
    next => exact sound.counted stream

/-- What is there of `s` later on. -/
structure Follows (s after : HumanDelegations) : Prop where
  events : s.events <+: after.events
  receipts : s.receipts <+: after.receipts
  kept : ∀ key projection, s.projection? key = some projection →
    ∃ later, after.projection? key = some later ∧ later.toDelegationGrantPayload = projection.toDelegationGrantPayload ∧
      (projection.status = .revoked → later = projection)

namespace Follows

theorem refl (s : HumanDelegations) : s.Follows s :=
  ⟨prefix_refl _, prefix_refl _, fun _ projection there => ⟨projection, there, rfl, fun _ => rfl⟩⟩

theorem trans (first : s.Follows after) (second : after.Follows last) : s.Follows last where
  events := first.events.trans second.events
  receipts := first.receipts.trans second.receipts
  kept key projection there := by
    obtain ⟨middle, found, same, stays⟩ := first.kept key projection there
    obtain ⟨later, found, same', stays'⟩ := second.kept key middle found
    refine ⟨later, found, same'.trans same, fun revoked => ?_⟩
    obtain rfl := stays revoked
    exact stays' revoked

end Follows

theorem Writes.follows (writes : s.Writes row after) : s.Follows after where
  events := ⟨_, writes.events.symm⟩
  receipts := writes.receipts ▸ prefix_refl _
  kept key projection there := by
    rw [writes.folds]
    split
    next its =>
      subst its
      cases kind : row.event.payload with
      | granted grant =>
        have absent := writes.opens (by simp [DelegationEvent.kind, kind])
        cases there.symm.trans absent
      | revoked reason =>
        obtain ⟨other, found, active⟩ := writes.closes (by simp [DelegationEvent.kind, kind])
        cases there.symm.trans found
        refine ⟨projection.revoke row.event reason, by simp [DelegationProjection.after, kind, there], rfl, fun revoked => ?_⟩
        cases active.symm.trans revoked
    next => exact ⟨projection, there, rfl, fun _ => rfl⟩

theorem Steps.follows {platform : Platform} (steps : s.Steps platform after) : s.Follows after := by
  cases steps with
  | stays same =>
    subst same
    exact .refl _
  | writes writes => exact writes.follows
  | decides there decides =>
    cases decides with
    | replays _ _ same =>
      subst same
      exact .refl _
    | issues absent decided issued =>
      subst issued
      exact ⟨prefix_refl _, prefix_append _ _, fun _ projection there => ⟨projection, there, rfl, fun _ => rfl⟩⟩

theorem Steps.sound {platform : Platform} (steps : s.Steps platform after) (sound : s.Sound) : after.Sound := by
  cases steps with
  | stays same =>
    subst same
    exact sound
  | writes writes => exact writes.sound sound
  | decides there decides =>
    cases decides with
    | replays _ _ same =>
      subst same
      exact sound
    | issues absent decided issued =>
      subst issued
      exact ⟨sound.folds, sound.numbered, sound.counted⟩

theorem find?_of_isPrefix {α : Type} {rows later : List α} {found : α} {passes : α → Bool} (grown : rows <+: later)
    (there : rows.find? passes = some found) : later.find? passes = some found := by
  obtain ⟨more, rfl⟩ := grown
  rw [List.find?_append, there, Option.some_or]

theorem Follows.eventOf? (follows : s.Follows after) {stream : Stream} {idempotencyKey : String} {event : DelegationEvent}
    (there : s.eventOf? stream idempotencyKey = some event) : after.eventOf? stream idempotencyKey = some event := by
  obtain ⟨row, found, rfl⟩ := Option.map_eq_some_iff.mp there
  exact congrArg _ (find?_of_isPrefix follows.events found)

theorem Follows.grantOf (follows : s.Follows after) {stream : Stream} {event grantEvent : DelegationEvent}
    (there : s.grantOf stream event = some grantEvent) : after.grantOf stream event = some grantEvent := by
  unfold HumanDelegations.grantOf at there ⊢
  split
  next granted => rwa [if_pos granted] at there
  rename_i revoked
  rw [if_neg revoked] at there
  obtain ⟨row, found, rfl⟩ := Option.map_eq_some_iff.mp there
  exact congrArg _ (find?_of_isPrefix follows.events found)

section

theorem Answers.later (answers : s.Answers stream idempotencyKey kind digest outcome) (follows : s.Follows after) :
    after.Answers stream idempotencyKey kind digest outcome := by
  obtain ⟨there, same_kind, same_digest, grantEvent, granted, told⟩ := answers
  exact ⟨follows.eventOf? there, same_kind, same_digest, grantEvent, follows.grantOf granted, told⟩

end

end HumanDelegations

def DelegationOutcome.again (outcome : DelegationOutcome) : DelegationOutcome := { outcome with idempotentReplay := true }

variable {grows : HumanDelegations → HumanDelegations → Prop} {seen : HumanDelegations → Prop}
  {written : HumanDelegations} {platform : Platform}

namespace HumanDelegation

theorem outcomeAt_again {grantEvent event : DelegationEvent} {replay : Bool} {outcome : DelegationOutcome}
    (told : outcomeAt grantEvent event replay = .ok outcome) : outcomeAt grantEvent event true = .ok outcome.again := by
  obtain ⟨projection, placed, done⟩ := bind_ok told
  cases done
  exact ok_bind placed

theorem validateGrant_later {request : DelegationGrantRequest} {now : Int} (valid : validateGrant request now = .ok ()) (later : Int) :
    validateGrant request later = if request.expiresAt ≤ later then .error .invalidTimeWindow else .ok () := by
  obtain ⟨_, named, valid⟩ := bind_ok valid
  obtain ⟨_, bound, valid⟩ := bind_ok valid
  obtain ⟨_, digested, valid⟩ := bind_ok valid
  obtain ⟨_, coded, valid⟩ := bind_ok valid
  obtain ⟨_, budgeted, valid⟩ := bind_ok valid
  obtain ⟨_, versioned, valid⟩ := bind_ok valid
  refine (ok_bind named).trans ((ok_bind bound).trans ((ok_bind digested).trans ((ok_bind coded).trans
    ((ok_bind budgeted).trans ((ok_bind versioned).trans ?_)))))
  have window := refuseIf_ok.mp valid
  rw [not_or, not_or] at window
  exact if_congr ⟨fun either => (either.resolve_left window.1).resolve_left window.2.1, fun past => .inr (.inr past)⟩ rfl rfl

theorem idempotentOutcome_exec (answers : s.Answers stream idempotencyKey kind digest outcome) :
    (idempotentOutcome stream idempotencyKey kind digest).exec look s written = .ok (some outcome.again, written) := by
  obtain ⟨there, same_kind, same_digest, grantEvent, granted, told⟩ := answers
  have placed := outcomeAt_again told
  have found : s.look (.event stream idempotencyKey) = some outcome.event := there
  have read : (if outcome.event.kind = .granted then .pure outcome.event
      else grantEventFromTransaction ⟨stream.tenantId, stream.repositoryId, outcome.event.delegationId⟩ :
      DelegationTransaction DelegationStoreError DelegationEvent).exec look s written = .ok (grantEvent, written) := by
    unfold grantOf at granted
    split
    next its =>
      rw [if_pos its] at granted
      cases granted
      rfl
    next its =>
      rw [if_neg its] at granted
      have first : s.look (.grantEvent ⟨stream.tenantId, stream.repositoryId, outcome.event.delegationId⟩) = some grantEvent := granted
      simp only [grantEventFromTransaction, selectLocked, bind_eq, exec_bind, exec_lock, Except.bind]
      rw [first]
      rfl
  simp only [idempotentOutcome, selectLocked, bind_eq, exec_bind, exec_lock, Except.bind]
  rw [found]
  simp only [same_kind, same_digest, ne_eq, not_true_eq_false, or_self, if_false, exec_bind]
  rw [← same_kind, read]
  simp only [Except.bind, placed, exec_ofExcept]
  rfl

end HumanDelegation

theorem HumanDelegations.Answers.unique {s : HumanDelegations} {stream : Stream} {idempotencyKey : String}
    {kind kind' : DelegationEventKind} {digest digest' : Bytes} {outcome outcome' : DelegationOutcome}
    (answers : s.Answers stream idempotencyKey kind digest outcome) (answers' : s.Answers stream idempotencyKey kind' digest' outcome') :
    outcome'.again = outcome.again := by
  obtain ⟨there, _, _, grantEvent, granted, told⟩ := answers
  obtain ⟨there', _, _, grantEvent', granted', told'⟩ := answers'
  have same : outcome'.event = outcome.event := Option.some.inj (there'.symm.trans there)
  rw [same] at granted' told'
  cases granted.symm.trans granted'
  exact Except.ok.inj ((HumanDelegation.outcomeAt_again told').symm.trans (HumanDelegation.outcomeAt_again told))

namespace HumanDelegation

theorem idempotentOutcome_never_fails (answers : s.Answers stream idempotencyKey kind digest outcome) {error : DelegationStoreError} :
    ¬(idempotentOutcome stream idempotencyKey kind digest).Fails look s grows seen error := by
  intro fails
  obtain ⟨there, same_kind, same_digest, grantEvent, granted, told⟩ := answers
  have fails := fails.lock
  rw [show s.look (.event stream idempotencyKey) = some outcome.event from there] at fails
  dsimp only at fails
  rw [if_neg (by simp [same_kind, same_digest])] at fails
  rcases Fails.bind fails with fails | ⟨_, found, runs, fails⟩
  · unfold grantOf at granted
    split at fails
    · exact fails.elim
    rename_i its
    rw [if_neg its] at granted
    have fails := fails.lock
    rw [show s.look (.grantEvent ⟨stream.tenantId, stream.repositoryId, outcome.event.delegationId⟩) = some grantEvent from granted] at fails
    exact fails.elim
  · have same : found = grantEvent := by
      unfold grantOf at granted
      split at runs
      next its =>
        rw [if_pos its] at granted
        cases granted
        exact runs.2
      next its =>
        rw [if_neg its] at granted
        exact Option.some.inj ((grantEventFromTransaction_runs runs).1.symm.trans granted)
    rw [same] at fails
    rcases Fails.ofExcept fails with failed | ⟨_, _, fails⟩
    · cases failed.symm.trans (outcomeAt_again told)
    · exact fails.elim

theorem records_again {kind' : DelegationEventKind} {digest' : Bytes} {given : DelegationOutcome}
    (answers : s.Answers stream idempotencyKey kind digest outcome)
    (records : s.Records after stream idempotencyKey kind' digest' given) :
    given = outcome.again ∧ after = s := by
  cases records with
  | replays same replay others =>
    refine ⟨?_, same⟩
    have again := answers.unique others
    obtain ⟨projection, event, flag⟩ := given
    cases replay
    exact again
  | writes _ writes others =>
    have absent := writes.absent
    have named := others.there
    have key : given.event.idempotencyKey = idempotencyKey := by
      obtain ⟨row, found, same⟩ := Option.map_eq_some_iff.mp named
      have passing := List.find?_some found
      rw [decide_eq_true_eq] at passing
      rw [← same]
      exact passing.2
    rw [key] at absent
    cases absent.symm.trans answers.there

section
variable {request : DelegationGrantRequest} {now : Int} {codes : List Nat}

theorem grant_exec_again (later : Int) (delegationId : String) (recordedAt : Int) (valid : validateGrant request.normalize (normalizeTimestamp now) = .ok ())
    (coded : actionCodes request.allowedActions = .ok codes)
    (answers : s.Answers request.stream request.idempotencyKey .granted (grantPayloadDigest platform request.normalize codes) outcome) :
    (grant platform request later delegationId recordedAt).exec look s s =
      if request.normalize.expiresAt ≤ normalizeTimestamp later then .error .invalidTimeWindow else .ok (outcome.again, s) := by
  have checked := validateGrant_later valid (normalizeTimestamp later)
  simp only [grant, bind_eq, exec_bind, exec_ofExcept]
  rw [checked]
  split
  · rfl
  change (((actionCodes request.allowedActions).map fun value => (value, s)).bind _) = _
  rw [coded]
  change (recordGrant request.normalize codes (grantPayloadDigest platform request.normalize codes) delegationId recordedAt).exec look s s = _
  simp only [recordGrant, selectLocked, bind_eq, exec_bind, exec_lock, Except.bind]
  rw [show idempotentOutcome request.normalize.stream request.normalize.idempotencyKey .granted
    (grantPayloadDigest platform request.normalize codes) = idempotentOutcome request.stream request.idempotencyKey .granted
      (grantPayloadDigest platform request.normalize codes) from rfl, idempotentOutcome_exec answers]
  rfl

theorem grant_fails_again (valid : validateGrant request.normalize (normalizeTimestamp now) = .ok ())
    (coded : actionCodes request.allowedActions = .ok codes)
    (answers : s.Answers request.stream request.idempotencyKey .granted (grantPayloadDigest platform request.normalize codes) outcome)
    {later : Int} {delegationId : String} {recordedAt : Int} {error : DelegationStoreError}
    (fails : (grant platform request later delegationId recordedAt).Fails look s grows seen error) :
    error = .invalidTimeWindow ∧ request.normalize.expiresAt ≤ normalizeTimestamp later := by
  rcases Fails.ofExcept fails with failed | ⟨_, _, fails⟩
  · rw [validateGrant_later valid] at failed
    obtain ⟨expired, failed⟩ := then_of_ne failed nofun
    cases failed
    exact ⟨rfl, expired⟩
  · exfalso
    rcases Fails.ofExcept fails with failed | ⟨codes', coded', fails⟩
    · cases failed.symm.trans coded
    cases coded'.symm.trans coded
    rcases Fails.bind (Fails.lock fails) with fails | ⟨_, found, runs, fails⟩
    · exact idempotentOutcome_never_fails answers fails
    · obtain ⟨_, ⟨_, absent⟩ | ⟨given, rfl, _, _⟩⟩ := idempotentOutcome_runs runs
      · cases absent.symm.trans answers.there
      · exact fails.elim

end

section
variable {request : DelegationRevocationRequest} {recordedAt : Int}

theorem revoke_exec_again (valid : validateRevocation request = .ok ())
    (answers : s.Answers request.stream request.idempotencyKey .revoked (revocationPayloadDigest platform request) outcome) :
    (revoke platform request recordedAt).exec look s s = .ok (outcome.again, s) := by
  simp only [revoke, bind_eq, exec_bind, exec_ofExcept]
  rw [valid]
  simp only [Except.map, selectLocked, exec_lock, Except.bind]
  rw [idempotentOutcome_exec answers]
  rfl

theorem revoke_never_fails_again (valid : validateRevocation request = .ok ())
    (answers : s.Answers request.stream request.idempotencyKey .revoked (revocationPayloadDigest platform request) outcome)
    {error : DelegationStoreError} : ¬(revoke platform request recordedAt).Fails look s grows seen error := by
  intro fails
  rcases Fails.ofExcept fails with failed | ⟨_, _, fails⟩
  · cases failed.symm.trans valid
  rcases Fails.bind (Fails.lock fails) with fails | ⟨_, found, runs, fails⟩
  · exact idempotentOutcome_never_fails answers fails
  · obtain ⟨_, ⟨_, absent⟩ | ⟨given, rfl, _, _⟩⟩ := idempotentOutcome_runs runs
    · cases absent.symm.trans answers.there
    · exact fails.elim

end

end HumanDelegation

abbrev DelegationStep (τ : Type) : Type := Entry (DelegationState τ) (TransactionOp τ HumanDelegationCall)

def Granting {τ : Type} (entry : DelegationStep τ) (request : DelegationGrantRequest) (now : Int) (outcome : DelegationOutcome) : Prop :=
  ∃ delegationId recordedAt, entry.before.Committing entry.op (.grant request now delegationId recordedAt) (.written outcome)

def Revoking {τ : Type} (entry : DelegationStep τ) (request : DelegationRevocationRequest) (outcome : DelegationOutcome) : Prop :=
  ∃ recordedAt, entry.before.Committing entry.op (.revoke request recordedAt) (.written outcome)

section
variable {τ : Type} [DecidableEq τ] {history : List (DelegationStep τ)} {state : DelegationState τ}
variable {entry : DelegationStep τ} {error : HumanDelegationError}

omit [DecidableEq τ] in
theorem commit_follows (entry : DelegationStep τ) (_ : entry ∈ history) (call : HumanDelegationCall) (answer : HumanDelegationAnswer)
    (sound : entry.before.store.Sound) (_ : entry.before.Committing entry.op call answer)
    (commits : Interleaving.Commits look Follows (HumanDelegationCall.program platform)
      (Interleaving.Past Sound Follows entry.before.store) entry.before.store entry.after.store call answer) :
    entry.after.store.Sound ∧ entry.before.store.Follows entry.after.store := by
  have steps := HumanDelegationCall.steps commits
  exact ⟨steps.sound sound, steps.follows⟩

section
variable (run : (humanDelegations platform τ).Run history state)
include run

theorem run_follows :
    (∀ seen ∈ (humanDelegations platform τ).visited history, seen.store.Sound ∧ seen.store.Follows state.store) ∧
      history.Pairwise fun later earlier => earlier.after.store.Follows later.before.store := by
  have within := HumanDelegationCall.program_within platform
  exact ⟨(run_steps run within Sound Follows .refl .trans sound_empty commit_follows).1.2,
    run_pairwise run within Sound Follows .refl .trans sound_empty commit_follows⟩

theorem run_commit (member : entry ∈ history)
    {call : HumanDelegationCall} {answer : HumanDelegationAnswer}
    (committing : entry.before.Committing entry.op call answer) :
    Interleaving.Commits look (fun _ _ => True) (HumanDelegationCall.program platform) (fun _ => True) entry.before.store
      entry.after.store call answer :=
  (run_entry run (HumanDelegationCall.program_within platform) member).2 call answer committing

theorem granting_records (member : entry ∈ history)
    {request : DelegationGrantRequest} {now : Int} (granting : Granting entry request now outcome) :
    HumanDelegation.validateGrant request.normalize (normalizeTimestamp now) = .ok () ∧
      ∃ codes, HumanDelegation.actionCodes request.allowedActions = .ok codes ∧
        entry.before.store.Records entry.after.store request.stream request.idempotencyKey .granted
          (HumanDelegation.grantPayloadDigest platform request.normalize codes) outcome := by
  obtain ⟨delegationId, recordedAt, committing⟩ := granting
  obtain ⟨given, same, runs⟩ := grant_commits (run_commit run member committing)
  cases same
  exact HumanDelegation.grant_runs runs

theorem revoking_records (member : entry ∈ history)
    {request : DelegationRevocationRequest} (revoking : Revoking entry request outcome) :
    HumanDelegation.validateRevocation request = .ok () ∧
      entry.before.store.Records entry.after.store request.stream request.idempotencyKey .revoked
        (HumanDelegation.revocationPayloadDigest platform request) outcome := by
  obtain ⟨recordedAt, committing⟩ := revoking
  obtain ⟨given, same, runs⟩ := revoke_commits (run_commit run member committing)
  cases same
  exact HumanDelegation.revoke_runs runs

end

theorem HumanDelegations.Records.answers {after : HumanDelegations} {stream : Stream} {idempotencyKey : String}
    {kind : DelegationEventKind} {digest : Bytes} (records : s.Records after stream idempotencyKey kind digest outcome) :
    after.Answers stream idempotencyKey kind digest outcome := by
  cases records with
  | replays same _ answers =>
    subst same
    exact answers
  | writes _ _ answers => exact answers

theorem refusing_fails (run : (humanDelegations platform τ).Run history state) (member : entry ∈ history)
    {call : HumanDelegationCall} (refusing : entry.before.Refusing entry.op call error) :
    (call.program platform).Fails look entry.before.store (fun _ _ => True)
      (Interleaving.Stored (τ := τ) look guards (HumanDelegationCall.program platform) .empty history) error :=
  (run_fails run (HumanDelegationCall.program_within platform) member refusing).1

section
variable {program : DelegationTransaction DelegationStoreError DelegationOutcome} {error : DelegationStoreError}

theorem attempt_written (ran : program.exec look s s = .ok (outcome, after)) :
    (program.mapError HumanDelegationError.store >>= fun outcome =>
      (.pure (.written outcome) : DelegationTransaction HumanDelegationError HumanDelegationAnswer)).attempt look s =
      (.ok (.written outcome), after) := by
  refine attempt_ok ?_
  rw [bind_eq, exec_bind, exec_mapError, ran]
  rfl

theorem attempt_refused (ran : program.exec look s s = .error error) :
    (program.mapError HumanDelegationError.store >>= fun outcome =>
      (.pure (.written outcome) : DelegationTransaction HumanDelegationError HumanDelegationAnswer)).attempt look s =
      (.error (.store error), s) := by
  refine attempt_failed ?_
  rw [bind_eq, exec_bind, exec_mapError, ran]
  rfl

end

theorem grant_fails_in {seen : HumanDelegations → Prop} {request : DelegationGrantRequest} {now : Int}
    {delegationId : String} {recordedAt : Int}
    (fails : ((HumanDelegationCall.grant request now delegationId recordedAt).program platform).Fails look s (fun _ _ => True) seen error) :
    ∃ raised, error = .store raised ∧
      (HumanDelegation.grant platform request now delegationId recordedAt).Fails look s (fun _ _ => True) seen raised := by
  rcases Fails.bind fails with fails | ⟨_, _, _, fails⟩
  · exact fails.mapError
  · exact fails.elim

theorem revoke_fails_in {seen : HumanDelegations → Prop} {request : DelegationRevocationRequest} {recordedAt : Int}
    (fails : ((HumanDelegationCall.revoke request recordedAt).program platform).Fails look s (fun _ _ => True) seen error) :
    ∃ raised, error = .store raised ∧
      (HumanDelegation.revoke platform request recordedAt).Fails look s (fun _ _ => True) seen raised := by
  rcases Fails.bind fails with fails | ⟨_, _, _, fails⟩
  · exact fails.mapError
  · exact fails.elim

/-- What becomes of a delegation in a run: its row is the fold of its events, its stream has no gap, and a
revocation stays. A retry of a grant or a revocation is given the first outcome again and changes nothing,
a grant's as long as the grant has not expired. -/
theorem humanDelegations_replay (run : (humanDelegations platform τ).Run history state) :
    (∀ seen ∈ (humanDelegations platform τ).visited history,
      (∀ key, seen.store.projection? key = DelegationProjection.fold (seen.store.delegationEvents key)) ∧
      (∀ stream, Numbered DelegationEvent.streamPosition 1 (seen.store.streamEvents stream)) ∧
      ∀ key projection, seen.store.projection? key = some projection → projection.status = .revoked →
        state.store.projection? key = some projection) ∧
    (∀ entry ∈ history,
      (∀ request now outcome, Granting entry request now outcome → ∀ later delegationId recordedAt,
        ((HumanDelegationCall.grant request later delegationId recordedAt).program platform).attempt look state.store =
            (.ok (.written outcome.again), state.store) ↔
          Directive.normalizeTimestamp later < request.normalize.expiresAt) ∧
      ∀ request outcome, Revoking entry request outcome → ∀ recordedAt,
        ((HumanDelegationCall.revoke request recordedAt).program platform).attempt look state.store =
          (.ok (.written outcome.again), state.store)) ∧
    history.Pairwise fun later earlier =>
      (∀ request now outcome, Granting earlier request now outcome → ∀ moment delegationId recordedAt,
        (∀ answer, later.before.Committing later.op (.grant request moment delegationId recordedAt) answer →
          answer = .written outcome.again ∧ later.after.store = later.before.store) ∧
        ∀ error, later.before.Refusing later.op (.grant request moment delegationId recordedAt) error →
          error = .store .invalidTimeWindow ∧ request.normalize.expiresAt ≤ Directive.normalizeTimestamp moment) ∧
      ∀ request outcome, Revoking earlier request outcome → ∀ recordedAt,
        (∀ answer, later.before.Committing later.op (.revoke request recordedAt) answer →
          answer = .written outcome.again ∧ later.after.store = later.before.store) ∧
        ∀ error, ¬later.before.Refusing later.op (.revoke request recordedAt) error := by
  obtain ⟨visited, follows⟩ := run_follows run
  refine ⟨fun seen member => ?_, fun entry member => ⟨fun request now outcome granting => ?_, fun request outcome revoking => ?_⟩, ?_⟩
  · obtain ⟨sound, grown⟩ := visited seen member
    refine ⟨sound.folds, sound.numbered, fun key projection there revoked => ?_⟩
    obtain ⟨later, found, _, stays⟩ := grown.kept key projection there
    rw [found, stays revoked]
  · intro later delegationId recordedAt
    obtain ⟨valid, codes, coded, records⟩ := granting_records run member granting
    have grown := (visited entry.after (mem_append_left _ (mem_map_of_mem member))).2
    have again := HumanDelegation.grant_exec_again later delegationId recordedAt valid coded (records.answers.later grown)
    by_cases expired : request.normalize.expiresAt ≤ Directive.normalizeTimestamp later
    · have refused := attempt_refused (again.trans (if_pos expired))
      exact iff_of_false (fun same => nomatch refused.symm.trans same) (Int.not_lt.mpr expired)
    · exact iff_of_true (attempt_written (again.trans (if_neg expired))) (Int.not_le.mp expired)
  · intro recordedAt
    obtain ⟨valid, records⟩ := revoking_records run member revoking
    have grown := (visited entry.after (mem_append_left _ (mem_map_of_mem member))).2
    exact attempt_written (HumanDelegation.revoke_exec_again valid (records.answers.later grown))
  · refine follows.imp_of_mem fun {later earlier} inside before grown => ⟨?_, ?_⟩
    · intro request now outcome granting moment delegationId recordedAt
      obtain ⟨valid, codes, coded, records⟩ := granting_records run before granting
      have answers := records.answers.later grown
      refine ⟨fun answer committing => ?_, fun error refusing => ?_⟩
      · obtain ⟨given, rfl, runs⟩ := grant_commits (run_commit run inside committing)
        obtain ⟨_, codes', _, others⟩ := HumanDelegation.grant_runs runs
        obtain ⟨rfl, same⟩ := HumanDelegation.records_again answers others
        exact ⟨rfl, same⟩
      · obtain ⟨raised, rfl, fails⟩ := grant_fails_in (refusing_fails run inside refusing)
        obtain ⟨rfl, expired⟩ := HumanDelegation.grant_fails_again valid coded answers fails
        exact ⟨rfl, expired⟩
    · intro request outcome revoking recordedAt
      obtain ⟨valid, records⟩ := revoking_records run before revoking
      have answers := records.answers.later grown
      refine ⟨fun answer committing => ?_, fun error refusing => ?_⟩
      · obtain ⟨given, rfl, runs⟩ := revoke_commits (run_commit run inside committing)
        obtain ⟨rfl, same⟩ := HumanDelegation.records_again answers (HumanDelegation.revoke_runs runs).2
        exact ⟨rfl, same⟩
      · obtain ⟨raised, rfl, fails⟩ := revoke_fails_in (refusing_fails run inside refusing)
        exact HumanDelegation.revoke_never_fails_again valid answers fails

end

section

def HumanDelegationAnswer.written? : HumanDelegationAnswer → Option DelegationOutcome
  | .written outcome => some outcome
  | .used _ => none

def tenSeconds : DelegationGrantRequest where
  tenantId := "tenant"
  repositoryId := "repository"
  verifiedIssuerPrincipalId := "principal:ada"
  delegateeSessionId := "session-1"
  projectId := none
  taskId := some "task-1"
  goalId := "goal-1"
  goalDigest := List.replicate 32 1
  policyVersion := "policy-1"
  policyDigest := List.replicate 32 2
  constitutionVersion := "constitution-1"
  constitutionDigest := List.replicate 32 3
  allowedActions := [.reportEvidence, .analyze]
  maxTokenBudget := 100
  maxActionsPerSession := 2
  sourceProtocolVersion := 1
  effectiveAt := 0
  expiresAt := seconds 10
  idempotencyKey := "grant-1"

def granting : HumanDelegationCall := .grant tenSeconds 0 "delegation-1" 0

theorem written_of_some {result : Except HumanDelegationError HumanDelegationAnswer}
    (some : (result.toOption.bind HumanDelegationAnswer.written?).isSome = true) : ∃ outcome, result = .ok (.written outcome) := by
  obtain ⟨outcome, its⟩ := Option.isSome_iff_exists.mp some
  obtain ⟨answer, answered, here⟩ := Option.bind_eq_some_iff.mp its
  cases result with
  | error => cases answered
  | ok =>
    cases answered
    cases answer <;> cases here
    exact ⟨outcome, rfl⟩

theorem granting_granted :
    ((((granting.program wire.toPlatform).attempt look .empty).1.toOption.bind HumanDelegationAnswer.written?).isSome = true) := by
  decide +kernel

theorem granting_run : ∃ history state, (humanDelegations wire.toPlatform Nat).Run history state ∧
    ∃ entry ∈ history, ∃ outcome, Granting entry tenSeconds 0 outcome := by
  obtain ⟨history, standing, run, _, entries, _⟩ :=
    serial_run look guards (HumanDelegationCall.program wire.toPlatform) .empty [granting]
  obtain ⟨entry, member, serves⟩ := entries [] granting [] rfl
  obtain ⟨outcome, answered⟩ := written_of_some granting_granted
  exact ⟨history, _, run, entry, member, outcome, _, _, (serves.commits _ _).mpr ⟨rfl, answered⟩⟩

theorem late_exec (s : HumanDelegations) :
    (HumanDelegation.grant wire.toPlatform tenSeconds (seconds 10) "delegation-2" 0).exec look s s = .error .invalidTimeWindow := by
  rfl

/-- Once it has expired, a grant that was made is refused to whoever asks for it again. -/
theorem expired_retry_counterexample : ¬∀ history state, (humanDelegations wire.toPlatform Nat).Run history state →
    ∀ entry ∈ history, ∀ request now outcome, Granting entry request now outcome → ∀ later delegationId recordedAt,
      ((HumanDelegationCall.grant request later delegationId recordedAt).program wire.toPlatform).attempt look state.store =
        (.ok (.written outcome.again), state.store) := by
  intro stable
  obtain ⟨history, state, run, entry, member, outcome, granted⟩ := granting_run
  have again := stable history state run entry member tenSeconds 0 outcome granted (seconds 10) "delegation-2" 0
  cases (attempt_refused (late_exec state.store)).symm.trans again

/-- A retry in time is given the first outcome. -/
theorem timely_retry : ∃ history state, (humanDelegations wire.toPlatform Nat).Run history state ∧
    ∃ entry ∈ history, ∃ outcome, Granting entry tenSeconds 0 outcome ∧
      ((HumanDelegationCall.grant tenSeconds (seconds 9) "delegation-2" 0).program wire.toPlatform).attempt look state.store =
        (.ok (.written outcome.again), state.store) := by
  obtain ⟨history, state, run, entry, member, outcome, granted⟩ := granting_run
  refine ⟨history, state, run, entry, member, outcome, granted, ?_⟩
  exact (((humanDelegations_replay run).2.1 entry member).1 tenSeconds 0 outcome granted (seconds 9) "delegation-2" 0).mpr (by decide +kernel)

end

end MindLeak.Ackplane
