import MindLeak.Proofs.HumanDelegations
import MindLeak.Proofs.CommandBytes

/-! What is made of a delegation. Every authorized use was within the grant when it was decided, all of
them together are within its limits, and one request has one receipt. -/

namespace MindLeak.Ackplane

open Transaction HumanDelegations List Option Interleaving

namespace HumanDelegation
variable {ε : Type} {invalid : String → ε}

theorem requireIdentifier_short {field : String × String} (passed : requireIdentifier invalid field = .ok PUnit.unit) :
    (utf8 field.2).length < UInt32.size := by
  have fits := not_not.mp (refuseIf_ok.mp passed)
  rw [length_utf8]
  exact Nat.lt_of_le_of_lt fits.2 (by decide)

theorem validateOptionalIdentifier_ne {field : String × Option String}
    (passed : validateOptionalIdentifier invalid field = .ok PUnit.unit) : field.2 ≠ some "" := by
  intro empty
  refine refuseIf_ok.mp passed ⟨"", empty, fun fits => ?_⟩
  exact absurd fits.1 (by decide)

theorem validateOptionalIdentifier_short {field : String × Option String}
    (passed : validateOptionalIdentifier invalid field = .ok PUnit.unit) : (utf8 (field.2.getD "")).length < UInt32.size := by
  cases given : field.2 with
  | none => decide
  | some value =>
    have fits : Directive.IsText MAX_IDENTIFIER_BYTES value := by
      by_contra bad
      exact refuseIf_ok.mp passed ⟨value, given, bad⟩
    rw [length_utf8]
    exact Nat.lt_of_le_of_lt fits.2 (by decide)

theorem requireDigest_short {field : String × Bytes} (passed : requireDigest invalid field = .ok PUnit.unit) :
    field.2.length < UInt32.size := by
  rw [not_not.mp (refuseIf_ok.mp passed)]
  decide

theorem getD_empty_inj {first second : Option String} (one : first ≠ some "") (other : second ≠ some "")
    (same : first.getD "" = second.getD "") : first = second := by
  cases first <;> cases second <;> simp_all

theorem action_code_inj {first second : DelegatedAction} (same : bigEndianI16 first.code = bigEndianI16 second.code) :
    first = second := by
  have codes := bigEndian16_inj same
  cases first <;> cases second <;> first | rfl | exact absurd codes (by decide)

end HumanDelegation

namespace DelegationUseRequest
open HumanDelegation

/-- What is hashed of a request, but for its last two fields. -/
def parts (request : DelegationUseRequest) : List Bytes :=
  [utf8 request.tenantId, utf8 request.repositoryId, utf8 request.delegationId, utf8 request.delegateeSessionId,
    utf8 (request.projectId.getD ""), utf8 (request.taskId.getD ""), utf8 request.goalId, utf8 request.policyVersion,
    request.policyDigest, utf8 request.constitutionVersion, request.constitutionDigest, utf8 request.idempotencyKey]

theorem parts_short {request : DelegationUseRequest} (valid : request.validate = .ok ()) :
    (∀ part ∈ request.parts, part.length < UInt32.size) ∧ request.projectId ≠ some "" ∧ request.taskId ≠ some "" := by
  unfold validate at valid
  obtain ⟨_, named, valid⟩ := bind_ok valid
  obtain ⟨_, bound, valid⟩ := bind_ok valid
  have named := forM_ok named
  have bound := forM_ok bound
  have digested := forM_ok valid
  simp only [forall_mem_cons, not_mem_nil, false_implies, implies_true, and_true] at named bound digested
  obtain ⟨tenant, repository, delegation, session, goal, policy, constitution, key⟩ := named
  refine ⟨?_, validateOptionalIdentifier_ne bound.1, validateOptionalIdentifier_ne bound.2⟩
  simp only [parts, forall_mem_cons, not_mem_nil, false_implies, implies_true, and_true]
  exact ⟨requireIdentifier_short tenant, requireIdentifier_short repository, requireIdentifier_short delegation,
    requireIdentifier_short session, validateOptionalIdentifier_short bound.1, validateOptionalIdentifier_short bound.2,
    requireIdentifier_short goal, requireIdentifier_short policy, requireDigest_short digested.1,
    requireIdentifier_short constitution, requireDigest_short digested.2, requireIdentifier_short key⟩

theorem bytes_inj {request other : DelegationUseRequest} (valid : request.validate = .ok ()) (valid' : other.validate = .ok ())
    (same : request.bytes = other.bytes) : request = other := by
  obtain ⟨short, project, task⟩ := parts_short valid
  obtain ⟨short', project', task'⟩ := parts_short valid'
  have behind : request.parts.flatMap pushField ++ (bigEndianI16 request.action.code ++ bigEndian32 request.reservedTokenBudget) =
    other.parts.flatMap pushField ++ _ := append_cancel_left same
  have long : request.parts.length = other.parts.length := rfl
  obtain ⟨fields, last⟩ := delimits_field.flatMap_append long short short' behind
  obtain ⟨action, tokens⟩ := append_inj last rfl
  have action := action_code_inj action
  have tokens := bigEndian32_inj.mp tokens
  simp only [parts, List.cons.injEq, and_true, utf8_inj] at fields
  obtain ⟨tenant, repository, delegation, session, projects, tasks, goal, policy, digest, constitution, basis, key⟩ := fields
  have projects := getD_empty_inj project project' projects
  have tasks := getD_empty_inj task task' tasks
  cases request
  cases other
  simp_all

end DelegationUseRequest

structure DelegationProjection.Covers (projection : DelegationProjection) (request : DelegationUseRequest) (now : Int) : Prop where
  active : projection.status = .active
  started : projection.effectiveAt ≤ now
  unexpired : now < projection.expiresAt
  session : projection.delegateeSessionId = request.delegateeSessionId
  goal : projection.goalId = request.goalId
  project : DelegationProjection.BoundScopeMatches projection.projectId request.projectId
  task : DelegationProjection.BoundScopeMatches projection.taskId request.taskId
  policy : projection.policyVersion = request.policyVersion ∧ projection.policyDigest = request.policyDigest
  constitution : projection.constitutionVersion = request.constitutionVersion ∧ projection.constitutionDigest = request.constitutionDigest
  action : request.action ∈ projection.allowedActions

theorem DelegationProjection.covers_of_none {projection : DelegationProjection} {request : DelegationUseRequest} {now : Int}
    {authorizedActions reservedTokens : Nat} (free : projection.refusalFor request now authorizedActions reservedTokens = none) :
    projection.Covers request now ∧ authorizedActions < projection.maxActionsPerSession.toNat ∧
      reservedTokens + request.reservedTokenBudget.toNat ≤ projection.maxTokenBudget.toNat := by
  unfold refusalFor at free
  obtain ⟨unrevoked, free⟩ := else_of_ne free (some_ne_none _)
  obtain ⟨started, free⟩ := else_of_ne free (some_ne_none _)
  obtain ⟨unexpired, free⟩ := else_of_ne free (some_ne_none _)
  obtain ⟨session, free⟩ := else_of_ne free (some_ne_none _)
  obtain ⟨«scope», free⟩ := else_of_ne free (some_ne_none _)
  obtain ⟨policy, free⟩ := else_of_ne free (some_ne_none _)
  obtain ⟨constitution, free⟩ := else_of_ne free (some_ne_none _)
  obtain ⟨action, free⟩ := else_of_ne free (some_ne_none _)
  obtain ⟨actions, free⟩ := else_of_ne free (some_ne_none _)
  obtain ⟨tokens, free⟩ := else_of_ne free (some_ne_none _)
  simp only [not_or, not_not, Int.not_lt, Int.not_le, Nat.not_le, Nat.not_lt] at *
  have active : projection.status = .active := by
    cases status : projection.status with
    | active => rfl
    | revoked => exact absurd status unrevoked
  exact ⟨⟨active, started, unexpired, session, «scope».1, «scope».2.1, «scope».2.2, policy, constitution, action⟩, actions, tokens.2⟩

variable {s after : HumanDelegations} {platform : Platform}

namespace HumanDelegations

structure Bounded (s : HumanDelegations) : Prop where
  granted : ∀ row ∈ s.receipts, (s.projection? row.key).isSome = true
  within : ∀ key projection, s.projection? key = some projection →
    (s.usage key).1 ≤ projection.maxActionsPerSession.toNat ∧ (s.usage key).2 ≤ projection.maxTokenBudget.toNat
  eventless : ∀ key, s.projection? key = none → s.delegationEvents key = []
  unrevoked : ∀ key projection, s.projection? key = some projection → projection.status = .active →
    ∀ event ∈ s.delegationEvents key, event.kind = .granted

theorem bounded_empty : empty.Bounded where
  granted _ member := by cases member
  within _ _ there := by cases there
  eventless _ _ := rfl
  unrevoked _ _ there := by cases there

theorem authorized_insert (s : HumanDelegations) (row : DelegationUseRow) (key : DelegationKey) :
    (s.insertReceipt row).authorized key =
      if row.key = key ∧ row.receipt.status = .authorized then s.authorized key ++ [row] else s.authorized key := by
  unfold authorized insertReceipt
  rw [filter_append]
  split
  next its => rw [filter_cons_of_pos (by simpa using its), filter_nil]
  next other => rw [filter_cons_of_neg (by simpa using other), filter_nil, append_nil]

theorem usage_insert (s : HumanDelegations) (row : DelegationUseRow) (key : DelegationKey) :
    (s.insertReceipt row).usage key = if row.key = key ∧ row.receipt.status = .authorized then
        ((s.usage key).1 + 1, (s.usage key).2 + row.receipt.reservedTokenBudget.toNat)
      else s.usage key := by
  unfold HumanDelegations.usage
  rw [authorized_insert]
  split
  next =>
    rw [length_append, length_singleton, map_append, map_singleton, sum_append, sum_singleton]
  next => rfl

theorem usage_of_none (bounded : s.Bounded) {key : DelegationKey} (absent : s.projection? key = none) : s.usage key = (0, 0) := by
  have none : s.authorized key = [] := by
    refine filter_eq_nil_iff.mpr fun row member its => ?_
    rw [decide_eq_true_eq] at its
    have granted := bounded.granted row member
    rw [its.1, absent] at granted
    cases granted
  unfold HumanDelegations.usage
  rw [none]
  rfl

theorem Writes.bounded {row : DelegationEventRow} (writes : s.Writes row after) (bounded : s.Bounded) : after.Bounded := by
  have same (key : DelegationKey) : after.usage key = s.usage key := by
    unfold HumanDelegations.usage authorized
    rw [writes.receipts]
  have open_ (revoked : row.event.kind = .revoked) : ∃ reason, row.event.payload = .revoked reason := by
    unfold DelegationEvent.kind at revoked
    cases payload : row.event.payload with
    | granted => rw [payload] at revoked; cases revoked
    | revoked reason => exact ⟨reason, rfl⟩
  refine ⟨fun other member => ?_, fun key projection there => ?_, fun key absent => ?_, fun key projection there active => ?_⟩
  · rw [writes.receipts] at member
    obtain ⟨projection, found⟩ := isSome_iff_exists.mp (bounded.granted other member)
    obtain ⟨later, there, _⟩ := writes.follows.kept _ projection found
    rw [there]
    rfl
  · rw [same]
    cases found : s.projection? key with
    | none =>
      rw [usage_of_none bounded found]
      exact ⟨Nat.zero_le _, Nat.zero_le _⟩
    | some earlier =>
      obtain ⟨later, found', limits, _⟩ := writes.follows.kept _ earlier found
      cases there.symm.trans found'
      rw [congrArg DelegationGrantPayload.maxActionsPerSession limits, congrArg DelegationGrantPayload.maxTokenBudget limits]
      exact bounded.within key earlier found
  · rw [writes.delegationEvents]
    rw [writes.folds] at absent
    split at absent
    next its =>
      subst its
      cases kind : row.event.kind with
      | granted =>
        unfold DelegationEvent.kind at kind
        unfold DelegationProjection.after at absent
        cases payload : row.event.payload with
        | granted => rw [payload] at absent; cases absent
        | revoked => rw [payload] at kind; cases kind
      | revoked =>
        obtain ⟨projection, there, _⟩ := writes.closes kind
        obtain ⟨reason, payload⟩ := open_ kind
        simp [DelegationProjection.after, payload, there] at absent
    next other => rw [if_neg other]; exact bounded.eventless key absent
  · rw [writes.delegationEvents]
    rw [writes.folds] at there
    split at there
    next its =>
      subst its
      rw [if_pos rfl]
      cases kind : row.event.kind with
      | granted =>
        rw [bounded.eventless _ (writes.opens kind), nil_append]
        exact forall_mem_singleton.mpr kind
      | revoked =>
        obtain ⟨earlier, found, _⟩ := writes.closes kind
        obtain ⟨reason, payload⟩ := open_ kind
        simp only [DelegationProjection.after, payload, found, map_some, Option.some.injEq] at there
        subst there
        cases active
    next other => rw [if_neg other]; exact bounded.unrevoked key projection there active

theorem Decides.bounded {request : DelegationUseRequest} {now : Int} {projection : DelegationProjection} {outcome : DelegationUseOutcome}
    (there : s.projection? request.key = some projection) (decides : s.Decides after platform request now projection outcome)
    (bounded : s.Bounded) : after.Bounded := by
  cases decides with
  | replays _ _ same =>
    subst same
    exact bounded
  | @issues receiptId recordedAt receipt absent decided issued =>
    subst issued
    have its : (⟨request.stream, receipt, request.idempotencyKey, request.digest platform⟩ : DelegationUseRow).key = request.key := by
      subst decided
      rfl
    refine ⟨fun row member => ?_, fun key other found => ?_, bounded.eventless, bounded.unrevoked⟩
    · rcases mem_append.mp member with old | new
      · exact bounded.granted row old
      rw [mem_singleton.mp new, its]
      change (s.projection? request.key).isSome = true
      rw [there]
      rfl
    · rw [usage_insert]
      split
      next standing =>
        obtain ⟨same, authorized⟩ := standing
        rw [its] at same
        subst same
        cases there.symm.trans found
        have free : receipt.refusalReason = none := by
          unfold DelegationUseReceipt.status at authorized
          obtain ⟨unrefused, authorized⟩ := else_of_ne authorized nofun
          exact not_isSome_iff_eq_none.mp unrefused
        subst decided
        obtain ⟨_, actions, tokens⟩ := DelegationProjection.covers_of_none free
        exact ⟨actions, tokens⟩
      next => exact bounded.within key other found

theorem Steps.bounded (steps : s.Steps platform after) (bounded : s.Bounded) : after.Bounded := by
  cases steps with
  | stays same =>
    subst same
    exact bounded
  | writes writes => exact writes.bounded bounded
  | decides there decides => exact decides.bounded there bounded

end HumanDelegations

namespace HumanDelegation
variable {grows : HumanDelegations → HumanDelegations → Prop} {seen : HumanDelegations → Prop}
  {request : DelegationUseRequest} {row : DelegationUseRow} {now : Int} {receiptId : Nat} {recordedAt : Int}

theorem authorizeUse_fails_again (stored : s.receiptOf? request.key request.idempotencyKey = some row) {error : DelegationUseError}
    (fails : (authorizeUse platform request now receiptId recordedAt).Fails look s grows seen error) :
    request.validate = .error error ∨ error = .idempotencyConflict ∧ row.payloadDigest ≠ request.digest platform ∨
      error = .notFound ∧ ∃ earlier, seen earlier ∧ earlier.projection? request.key = none := by
  unfold authorizeUse at fails
  rcases Fails.ofExcept fails with failed | ⟨_, _, fails⟩
  · exact .inl failed
  refine .inr ?_
  rcases Fails.lockIf fails with ⟨there, fails⟩ | ⟨earlier, known, missing, fails⟩
  · cases found : s.look (.projection request.key) with
    | none =>
      rw [found] at there
      cases there
    | some projection =>
      rw [found] at fails
      have fails := Fails.lock fails
      rw [show s.look (.receipt request.key request.idempotencyKey) = some row from stored] at fails
      dsimp only at fails
      split at fails
      next differs => exact .inl ⟨fails, differs⟩
      next => exact fails.elim
  · cases found : earlier.look (.projection request.key) with
    | none =>
      rw [found] at fails
      exact .inr ⟨fails, earlier, known, found⟩
    | some =>
      rw [found] at missing
      cases missing

theorem authorizeUse_exec_again (valid : request.validate = .ok ()) {projection : DelegationProjection}
    (there : s.projection? request.key = some projection) (stored : s.receiptOf? request.key request.idempotencyKey = some row)
    (agrees : row.payloadDigest = request.digest platform) :
    (authorizeUse platform request now receiptId recordedAt).exec look s s = .ok (⟨row.receipt, true⟩, s) := by
  have found : s.look (.projection request.key) = some projection := there
  have held : s.look (.receipt request.key request.idempotencyKey) = some row := stored
  simp only [authorizeUse, selectIf, selectLocked, bind_eq, exec_bind, exec_ofExcept, exec_lockIf]
  rw [valid]
  simp only [Except.map, Except.bind]
  rw [found]
  simp only [exec_bind, exec_lock, Except.bind]
  rw [held]
  simp only [agrees, ne_eq, not_true_eq_false, if_false]
  rfl

end HumanDelegation

def Using {τ : Type} (entry : DelegationStep τ) (request : DelegationUseRequest) (outcome : DelegationUseOutcome) : Prop :=
  ∃ now receiptId recordedAt, entry.before.Committing entry.op (.authorizeUse request now receiptId recordedAt) (.used outcome)

def RefusingUse {τ : Type} (entry : DelegationStep τ) (request : DelegationUseRequest) (error : DelegationUseError) : Prop :=
  ∃ now receiptId recordedAt, entry.before.Refusing entry.op (.authorizeUse request now receiptId recordedAt) (.use error)

/-- No two uses of a run are hashed alike that are written differently. -/
def UsesApart {τ : Type} (platform : Platform) (history : List (DelegationStep τ)) : Prop :=
  ∀ first ∈ history, ∀ second ∈ history, ∀ request outcome other given, Using first request outcome → Using second other given →
    request.digest platform = other.digest platform → request.bytes = other.bytes

def Issuing {τ : Type} (entry : DelegationStep τ) (row : DelegationUseRow) : Prop :=
  ∃ request now receiptId recordedAt projection,
    entry.before.Committing entry.op (.authorizeUse request now receiptId recordedAt) (.used ⟨row.receipt, false⟩) ∧
    row.key = request.key ∧ row.idempotencyKey = request.idempotencyKey ∧
    entry.before.store.projection? row.key = some projection ∧
    row.receipt = request.receipt projection none row.receipt.receiptId row.receipt.recordedAt ∧
    projection.Covers request (Directive.normalizeTimestamp now) ∧
    ∀ event ∈ entry.before.store.delegationEvents row.key, event.kind = .granted

section
variable {τ : Type} [DecidableEq τ] {history : List (DelegationStep τ)} {state : DelegationState τ}

theorem run_bounded (run : (humanDelegations platform τ).Run history state) :
    (state.store.Bounded ∧ ∀ seen ∈ (humanDelegations platform τ).visited history, seen.store.Bounded) ∧
      ∀ entry ∈ history, entry.before.store.Bounded := by
  have within := HumanDelegationCall.program_within platform
  have steps := run_steps run within Bounded (fun _ _ => True) (fun _ => trivial) (fun _ _ => trivial) bounded_empty
    fun entry member call answer bounded committing commits => ⟨(HumanDelegationCall.steps commits).bounded bounded, trivial⟩
  exact ⟨⟨steps.1.1, fun seen member => (steps.1.2 seen member).1⟩, fun entry member => (steps.2 entry member).1⟩

theorem using_decides (run : (humanDelegations platform τ).Run history state) {entry : DelegationStep τ} (member : entry ∈ history)
    {request : DelegationUseRequest} {outcome : DelegationUseOutcome} (using_ : Using entry request outcome) :
    request.validate = .ok () ∧ ∃ now projection, entry.before.store.projection? request.key = some projection ∧
      entry.before.store.Decides entry.after.store platform request now projection outcome := by
  obtain ⟨now, receiptId, recordedAt, committing⟩ := using_
  obtain ⟨given, same, runs⟩ := authorizeUse_commits (run_commit run member committing)
  cases same
  obtain ⟨valid, projection, there, decides⟩ := HumanDelegation.authorizeUse_runs runs
  exact ⟨valid, now, projection, there, decides⟩

theorem HumanDelegations.Decides.stored {request : DelegationUseRequest} {now : Int}
    {projection : DelegationProjection} {outcome : DelegationUseOutcome}
    (decides : s.Decides after platform request now projection outcome) :
    ∃ row, after.receiptOf? request.key request.idempotencyKey = some row ∧ row.payloadDigest = request.digest platform ∧
      row.receipt = outcome.receipt := by
  cases decides with
  | replays there agrees same answer =>
    subst same answer
    exact ⟨_, there, agrees, rfl⟩
  | issues absent decided issued answer =>
    subst issued answer
    refine ⟨_, find?_concat_of_none absent ?_, rfl, rfl⟩
    subst decided
    exact decide_eq_true ⟨rfl, rfl⟩

theorem HumanDelegations.Follows.receiptOf? (follows : s.Follows after) {key : DelegationKey}
    {idempotencyKey : String} {row : DelegationUseRow} (there : s.receiptOf? key idempotencyKey = some row) :
    after.receiptOf? key idempotencyKey = some row := find?_of_isPrefix follows.receipts there

theorem issued_of_new {grows : HumanDelegations → HumanDelegations → Prop} {seen : HumanDelegations → Prop}
    {call : HumanDelegationCall} {answer : HumanDelegationAnswer}
    (commits : Interleaving.Commits look grows (HumanDelegationCall.program platform) seen s after call answer)
    {row : DelegationUseRow} (member : row ∈ after.receipts) (new : row ∉ s.receipts) :
    ∃ request now receiptId recordedAt projection refusal, call = .authorizeUse request now receiptId recordedAt ∧
      answer = .used ⟨row.receipt, false⟩ ∧ row.key = request.key ∧ row.idempotencyKey = request.idempotencyKey ∧
      s.projection? request.key = some projection ∧
      row.receipt = request.receipt projection refusal row.receipt.receiptId row.receipt.recordedAt ∧
      refusal = projection.refusalFor request (Directive.normalizeTimestamp now) (s.usage request.key).1 (s.usage request.key).2 := by
  have unwritten {stream : Stream} {idempotencyKey : String} {kind : DelegationEventKind} {digest : Bytes} {outcome : DelegationOutcome}
      (records : s.Records after stream idempotencyKey kind digest outcome) : row ∈ s.receipts := by
    cases records with
    | replays same =>
      subst same
      exact member
    | writes _ writes =>
      rw [writes.receipts] at member
      exact member
  cases call with
  | grant request now delegationId recordedAt =>
    obtain ⟨outcome, _, runs⟩ := grant_commits commits
    obtain ⟨_, codes, _, records⟩ := HumanDelegation.grant_runs runs
    exact absurd (unwritten records) new
  | revoke request recordedAt =>
    obtain ⟨outcome, _, runs⟩ := revoke_commits commits
    exact absurd (unwritten (HumanDelegation.revoke_runs runs).2) new
  | authorizeUse request now receiptId recordedAt =>
    obtain ⟨outcome, rfl, runs⟩ := authorizeUse_commits commits
    obtain ⟨_, projection, there, decides⟩ := HumanDelegation.authorizeUse_runs runs
    cases decides with
    | replays _ _ same =>
      subst same
      exact absurd member new
    | issues absent decided issued answer =>
      subst issued answer
      rcases mem_append.mp member with old | added
      · exact absurd old new
      · cases mem_singleton.mp added
        subst decided
        exact ⟨request, now, receiptId, recordedAt, projection, _, rfl, rfl, rfl, rfl, there, rfl, rfl⟩

theorem run_issued (run : (humanDelegations platform τ).Run history state) :
    ∀ row ∈ state.store.receipts, row.receipt.status = .authorized → ∃ entry ∈ history, Issuing entry row := by
  have within := HumanDelegationCall.program_within platform
  have bounded := (run_bounded run).2
  induction run with
  | start =>
    intro row member
    cases member
  | @step history before past op ready ih =>
    rw [forall_mem_cons] at bounded
    intro row member authorized
    obtain ⟨silent, done⟩ := run_entry (past.step op ready) within mem_cons_self
    by_cases old : row ∈ before.store.receipts
    · obtain ⟨entry, inside, issuing⟩ := ih bounded.2 row old authorized
      exact ⟨entry, mem_cons_of_mem _ inside, issuing⟩
    · refine ⟨_, mem_cons_self, ?_⟩
      by_cases committing : ∃ call answer, before.Committing op call answer
      · obtain ⟨call, answer, committing⟩ := committing
        obtain ⟨request, now, receiptId, recordedAt, projection, refusal, rfl, rfl, same, named, there, issued, decided⟩ :=
          issued_of_new (done call answer committing) member old
        have free : refusal = none := by
          rw [issued] at authorized
          unfold DelegationUseReceipt.status at authorized
          obtain ⟨unrefused, authorized⟩ := else_of_ne authorized nofun
          exact not_isSome_iff_eq_none.mp unrefused
        subst free
        have covers := (DelegationProjection.covers_of_none decided.symm).1
        rw [← same] at there
        exact ⟨request, now, receiptId, recordedAt, projection, committing, same, named, there, issued, covers,
          bounded.1.unrevoked row.key projection there covers.active⟩
      · have same := silent fun call answer its => committing ⟨call, answer, its⟩
        change (((humanDelegations platform τ).apply before op).store) = before.store at same
        rw [same] at member
        exact absurd member old

/-- A delegation's uses under any interleaving. Together they stay within its limits; each that is authorized
was covered by the grant, unrevoked, when it was decided; and a request with a receipt is given that one
again, while no other request under its key goes through. -/
theorem delegation_limits_hold (run : (humanDelegations platform τ).Run history state) (apart : UsesApart platform history) :
    (∀ seen ∈ (humanDelegations platform τ).visited history,
      (∀ row ∈ seen.store.receipts, (seen.store.projection? row.key).isSome = true) ∧
      ∀ key projection, seen.store.projection? key = some projection →
        (seen.store.authorized key).length ≤ projection.maxActionsPerSession.toNat ∧
        ((seen.store.authorized key).map fun row => row.receipt.reservedTokenBudget.toNat).sum ≤ projection.maxTokenBudget.toNat) ∧
    (∀ row ∈ state.store.receipts, row.receipt.status = .authorized → ∃ entry ∈ history, Issuing entry row) ∧
    (∀ entry ∈ history, ∀ request outcome, Using entry request outcome → ∀ now receiptId recordedAt,
      ((HumanDelegationCall.authorizeUse request now receiptId recordedAt).program platform).attempt look state.store =
        (.ok (.used ⟨outcome.receipt, true⟩), state.store)) ∧
    history.Pairwise fun later earlier => ∀ request outcome, Using earlier request outcome →
      ∀ other : DelegationUseRequest, other.key = request.key → other.idempotencyKey = request.idempotencyKey →
        (∀ given, Using later other given →
          other = request ∧ given = ⟨outcome.receipt, true⟩ ∧ later.after.store = later.before.store) ∧
        ∀ error, RefusingUse later other error →
          later.after.store = later.before.store ∧
            (error = .notFound ∧ (∃ seen ∈ (humanDelegations platform τ).visited history, seen.store.projection? request.key = none) ∨
              other ≠ request ∧ (error = .idempotencyConflict ∨ other.validate = .error error)) := by
  obtain ⟨visited, follows⟩ := run_follows run
  refine ⟨fun seen member => ?_, run_issued run, fun entry member request outcome using_ now receiptId recordedAt => ?_, ?_⟩
  · have bounded := (run_bounded run).1.2 seen member
    exact ⟨bounded.granted, bounded.within⟩
  · obtain ⟨valid, _, projection, there, decides⟩ := using_decides run member using_
    obtain ⟨row, stored, agrees, same⟩ := decides.stored
    have stored := (visited entry.after (mem_append_left _ (mem_map_of_mem member))).2.receiptOf? stored
    have its := List.find?_some stored
    rw [decide_eq_true_eq] at its
    have granted := (run_bounded run).1.1.granted row (mem_of_find?_eq_some stored)
    rw [its.1] at granted
    obtain ⟨current, found⟩ := isSome_iff_exists.mp granted
    rw [← same]
    refine attempt_ok ?_
    rw [HumanDelegationCall.program, bind_eq, exec_bind, exec_mapError, HumanDelegation.authorizeUse_exec_again valid found stored agrees]
    rfl
  · refine follows.imp_of_mem fun {later earlier} inside before grown => ?_
    intro request outcome using_ other same named
    obtain ⟨valid, _, projection, there, decides⟩ := using_decides run before using_
    obtain ⟨row, stored, agrees, its⟩ := decides.stored
    have stored := grown.receiptOf? stored
    refine ⟨fun given using' => ?_, ?_⟩
    · obtain ⟨valid', _, _, _, decides'⟩ := using_decides run inside using'
      cases decides' with
      | replays found agrees' unchanged answer =>
        rw [same, named] at found
        cases stored.symm.trans found
        refine ⟨?_, by rw [answer, its], unchanged⟩
        exact DelegationUseRequest.bytes_inj valid' valid (apart later inside earlier before other given request outcome using' using_
          (agrees'.symm.trans agrees))
      | issues absent =>
        rw [same, named] at absent
        cases stored.symm.trans absent
    · rintro error ⟨now, receiptId, recordedAt, refusing⟩
      obtain ⟨fails, unchanged⟩ := Interleaving.run_fails run (HumanDelegationCall.program_within platform) inside refusing
      refine ⟨unchanged, ?_⟩
      rw [← same, ← named] at stored
      rcases Fails.bind fails with fails | ⟨_, _, _, fails⟩
      · obtain ⟨raised, wrapped, fails⟩ := fails.mapError
        cases wrapped
        rcases HumanDelegation.authorizeUse_fails_again stored fails with invalid | ⟨rfl, differs⟩ | ⟨rfl, store, ⟨seen, member, rfl⟩, none⟩
        · refine .inr ⟨?_, .inr invalid⟩
          rintro rfl
          cases invalid.symm.trans valid
        · refine .inr ⟨?_, .inl rfl⟩
          rintro rfl
          exact differs agrees
        · rw [same] at none
          exact .inl ⟨rfl, seen, member, none⟩
      · exact fails.elim

end

section

def HumanDelegationAnswer.used? : HumanDelegationAnswer → Option DelegationUseOutcome
  | .used outcome => some outcome
  | .written _ => none

def analysis : DelegationUseRequest where
  tenantId := "tenant"
  repositoryId := "repository"
  delegationId := "delegation-1"
  delegateeSessionId := "session-1"
  projectId := some "project-1"
  taskId := some "task-1"
  goalId := "goal-1"
  policyVersion := "policy-1"
  policyDigest := List.replicate 32 2
  constitutionVersion := "constitution-1"
  constitutionDigest := List.replicate 32 3
  action := .analyze
  reservedTokenBudget := 60
  idempotencyKey := "use-1"

def analysing : HumanDelegationCall := .authorizeUse analysis (seconds 1) 1 (seconds 1)

theorem analysis_authorized :
    (((analysing.program wire.toPlatform).attempt look (serial look (HumanDelegationCall.program wire.toPlatform) .empty
      [granting])).1.toOption.bind HumanDelegationAnswer.used?).any (fun outcome => outcome.receipt.status = .authorized) = true := by
  decide +kernel

theorem used_of_any {result : Except HumanDelegationError HumanDelegationAnswer} {passes : DelegationUseOutcome → Bool}
    (some : (result.toOption.bind HumanDelegationAnswer.used?).any passes = true) :
    ∃ outcome, result = .ok (.used outcome) ∧ passes outcome = true := by
  obtain ⟨outcome, its, passing⟩ := (any_eq_true _ _).mp some
  obtain ⟨answer, answered, here⟩ := bind_eq_some_iff.mp its
  cases result with
  | error => cases answered
  | ok =>
    cases answered
    cases answer <;> cases here
    exact ⟨outcome, rfl, passing⟩

/-- The analysis is authorized, and asked for again it is given its receipt. -/
theorem analysis_again : ∃ history state, (humanDelegations wire.toPlatform Nat).Run history state ∧
    UsesApart wire.toPlatform history ∧ ∃ entry ∈ history, ∃ outcome, Using entry analysis outcome ∧
      outcome.receipt.status = .authorized ∧
      (analysing.program wire.toPlatform).attempt look state.store = (.ok (.used ⟨outcome.receipt, true⟩), state.store) := by
  obtain ⟨history, standing, run, _, entries, all⟩ :=
    Interleaving.serial_run look guards (HumanDelegationCall.program wire.toPlatform) .empty [granting, analysing]
  obtain ⟨entry, member, serves⟩ := entries [granting] analysing [] rfl
  obtain ⟨outcome, answered, authorized⟩ := used_of_any analysis_authorized
  have one (step : DelegationStep Nat) (inside : step ∈ history) (request : DelegationUseRequest) (given : DelegationUseOutcome)
      (using_ : Using step request given) : request = analysis := by
    obtain ⟨now, receiptId, recordedAt, committing⟩ := using_
    obtain ⟨earlier, later, split, _⟩ := Interleaving.served all inside committing
    have asked : HumanDelegationCall.authorizeUse request now receiptId recordedAt ∈ [granting, analysing] := by
      rw [split]
      exact mem_append_right _ mem_cons_self
    rcases mem_cons.mp asked with same | last
    · cases same
    · cases mem_singleton.mp last
      rfl
  have apart : UsesApart wire.toPlatform history := by
    intro first inside second inside' request given other given' using_ using' _
    rw [one first inside request given using_, one second inside' other given' using']
  have using_ : Using entry analysis outcome := ⟨_, _, _, (serves.commits _ _).mpr ⟨rfl, answered⟩⟩
  exact ⟨history, _, run, apart, entry, member, outcome, using_, of_decide_eq_true authorized,
    (delegation_limits_hold run apart).2.2.1 entry member analysis outcome using_ _ _ _⟩

end

end MindLeak.Ackplane
