import MindLeak.Proofs.Rows

/-! What an aligned check has proof of: mutations its bundle vouches for itself,
and the store's own acts, which nobody looks up again. -/

namespace MindLeak.Lodestar

open List

theorem requireEach_ok {values : List String} {check : String → Bool} {message : String → String} :
    requireEach values check message = .ok () ↔ ∀ value ∈ values, check value = true := by
  unfold requireEach
  cases refused : values.find? fun value => !check value with
  | some value =>
    have failed := List.find?_some refused
    constructor
    · intro returned
      cases returned
    · intro all
      rw [all value (mem_of_find?_eq_some refused)] at failed
      cases failed
  | none =>
    refine iff_of_true rfl fun value member => ?_
    have passed := List.find?_eq_none.mp refused value member
    simpa using passed

/-- A bundle of the right shape vouches for each event and each change it lists. -/
theorem validateEvidenceShape_ok {evidence : ConformanceEvidence} (shaped : validateEvidenceShape evidence = .ok ()) :
    (∀ id ∈ evidence.executionIds ++ evidence.commitIds, evidence.observed id = true) ∧
      ∀ node ∈ evidence.changedNodeIds, evidence.mutated node = true := by
  obtain ⟨_, shaped⟩ := ite_else shaped
  obtain ⟨_, shaped⟩ := ite_else shaped
  obtain ⟨_, shaped⟩ := ite_else shaped
  obtain ⟨_, shaped⟩ := ite_else shaped
  obtain ⟨_, shaped⟩ := ite_else shaped
  obtain ⟨_, observed, shaped⟩ := bind_ok shaped
  obtain ⟨_, mutated, _⟩ := bind_ok shaped
  exact ⟨requireEach_ok.mp observed, requireEach_ok.mp mutated⟩

namespace Store
variable {s : Store} {result : ConformanceResult} {task : Task} {evidence : ConformanceEvidence} {now : Int}
  {judge : JudgeAnswer} {findings : List String} {governing : GoverningClauses} {inputs : CheckInputs}

/-- The bundle's interval lies in the claim its agent holds on the task, counted
back over recorded recoveries, and up to its lease. -/
structure InClaim (s : Store) (task : Task) (evidence : ConformanceEvidence) (now : Int) : Prop where
  owned : task.owner = some evidence.agentId
  claimed : task.status = .claimed
  live : live now task = true
  opened : ∃ start authorised, task.claimStartedAt = some start ∧
    s.authorisingWindowStart task.id evidence.agentId = .ok authorised ∧
    min (authorised.getD start) start ≤ evidence.startedAt
  closed : evidence.endedAt ≤ now ∧ evidence.endedAt ≤ task.leaseExpiresAt.getD evidence.endedAt

theorem validateClaimEvidence_ok {agent : String} (valid : s.validateClaimEvidence task agent evidence now = .ok ()) :
    evidence.agentId = agent ∧ validateEvidenceShape evidence = .ok () ∧ s.InClaim task evidence now := by
  obtain ⟨_, shaped, valid⟩ := bind_ok valid
  obtain ⟨_, valid⟩ := ite_else valid
  obtain ⟨owned, valid⟩ := ite_else valid
  rw [not_or, not_not, not_not] at owned
  obtain ⟨same, owned⟩ := owned
  obtain ⟨held, valid⟩ := ite_else valid
  simp only [not_or, not_not, Bool.not_eq_true', Bool.not_eq_false] at held
  split at valid
  · cases valid
  rename_i start started
  obtain ⟨authorised, window, valid⟩ := bind_ok valid
  obtain ⟨inside, valid⟩ := ite_else valid
  simp only [not_or, not_lt] at inside
  refine ⟨same, shaped, same ▸ owned, held.1, held.2, ⟨start, authorised, started, ?_, inside.1⟩, inside.2⟩
  rw [same]
  exact window

theorem evaluateBaseConformance_aligned {task : Option Task} {lockNow driftNow : Int}
    (returned : s.evaluateBaseConformance evidence task judge lockNow driftNow = .ok result)
    (aligned : result.verdict = .aligned) : evidence.changedNodeIds ≠ [] ∨ evidence.ledgerActIds ≠ [] := by
  unfold evaluateBaseConformance at returned
  split at returned
  next =>
    cases returned
    cases aligned
  next something =>
    simp only [Bool.or_eq_true, Bool.and_eq_true, List.isEmpty_iff, not_or, not_and_or] at something
    exact something.1

theorem judgeStep_unaligned {goal : Goal} (decided : judgeStep goal judge findings = .inl result) : result.verdict ≠ .aligned := by
  obtain ⟨_, decided⟩ := then_of_ne decided nofun
  split at decided
  next =>
    obtain ⟨_, decided⟩ := else_of_ne decided nofun
    split at decided <;> (cases decided; nofun)
  next =>
    cases decided
    nofun

theorem lockStep_unaligned (decided : s.lockStep governing now findings = .inl result) :
    result.verdict ≠ .aligned := by
  unfold lockStep at decided
  split at decided
  · cases decided
  split at decided
  · cases decided
  cases decided
  split <;> nofun

theorem driftStep_unaligned (decided : s.driftStep governing now findings = .inl result) :
    result.verdict ≠ .aligned := by
  obtain ⟨_, decided⟩ := else_of_ne decided nofun
  cases decided
  nofun

theorem taskStep_aligned (returned : s.taskStep governing task judge findings = .ok result)
    (aligned : result.verdict = .aligned) : (s.claimWindow task.id).lapses = 0 := by
  unfold taskStep at returned
  dsimp only at returned
  split at returned
  · cases returned
  split at returned
  next judged =>
    cases returned
    exact absurd aligned (judgeStep_unaligned judged)
  next =>
    split at returned
    next =>
      cases returned
      cases aligned
    next continuous => simpa [ClaimWindow.isContinuous] using continuous

theorem aligned_continuous {lockNow driftNow : Int}
    (returned : s.evaluateBaseConformance evidence (some task) judge lockNow driftNow = .ok result)
    (aligned : result.verdict = .aligned) : (s.claimWindow task.id).lapses = 0 := by
  unfold evaluateBaseConformance at returned
  split at returned
  next =>
    cases returned
    cases aligned
  next =>
    dsimp only at returned
    split at returned
    next locked =>
      cases returned
      exact absurd aligned (lockStep_unaligned locked)
    next =>
      split at returned
      next drifted =>
        cases returned
        exact absurd aligned (driftStep_unaligned drifted)
      next => exact taskStep_aligned returned aligned

theorem evaluateConformance_ok {task : Option Task} (returned : s.evaluateConformance evidence task inputs = .ok result) :
    ∃ base, s.evaluateBaseConformance evidence task inputs.judge inputs.lockNow inputs.driftNow = .ok base ∧
      result.verdict = base.verdict := by
  obtain ⟨base, evaluated, returned⟩ := bind_ok returned
  cases returned
  exact ⟨base, evaluated, rfl⟩

theorem judgeTask_ok {row : Task} (found : s.getTask row.id = some row) (judged : (do
      let agent ← resolveAgent evidence.agentId
      s.validateClaimEvidence row agent evidence now
      let result ← s.evaluateConformance evidence (some row) inputs
      pure (some row, result) : Result (Option Task × ConformanceResult)) = .ok (some task, result)) :
    s.getTask task.id = some task ∧ resolveAgent evidence.agentId = .ok evidence.agentId ∧
      validateEvidenceShape evidence = .ok () ∧ s.InClaim task evidence now ∧
      s.evaluateConformance evidence (some task) inputs = .ok result := by
  obtain ⟨agent, resolved, judged⟩ := bind_ok judged
  obtain ⟨_, valid, judged⟩ := bind_ok judged
  obtain ⟨_, evaluated, judged⟩ := bind_ok judged
  cases judged
  obtain ⟨same, shaped, claim⟩ := validateClaimEvidence_ok valid
  rw [← same] at resolved
  exact ⟨found, resolved, shaped, claim, evaluated⟩

theorem judgeEvidence_ok {requested : Option String}
    (judged : s.judgeEvidence evidence requested inputs now = .ok (some task, result)) :
    s.getTask task.id = some task ∧ resolveAgent evidence.agentId = .ok evidence.agentId ∧
      validateEvidenceShape evidence = .ok () ∧ s.InClaim task evidence now ∧
      s.evaluateConformance evidence (some task) inputs = .ok result := by
  have located (id : String) (row : Task) (found : s.getTask id = some row) : s.getTask row.id = some row := by
    rw [getTask_id found, found]
  simp only [judgeEvidence, throw_eq, error_bind] at judged
  cases requested with
  | none =>
    cases named : evidence.taskId with
    | none =>
      simp only [named, Option.or] at judged
      obtain ⟨_, _, judged⟩ := bind_ok judged
      obtain ⟨_, _, judged⟩ := bind_ok judged
      cases judged
    | some id =>
      cases found : s.getTask id with
      | none => simp [named, found] at judged
      | some row =>
        simp only [named, Option.or, found] at judged
        exact judgeTask_ok (located id row found) judged
  | some id =>
    cases found : s.getTask id with
    | none =>
      simp only [Option.or, found] at judged
      split at judged
      on_goal 2 => cases judged
      split at judged <;> cases judged
    | some row =>
      simp only [Option.or, found] at judged
      split at judged
      next =>
        obtain ⟨_, judged⟩ := ite_else judged
        exact judgeTask_ok (located id row found) judged
      next => exact judgeTask_ok (located id row found) judged

def ProvesMutation (s : Store) (task : Task) (evidence : ConformanceEvidence) (now : Int) : Prop :=
  s.InClaim task evidence now ∧ ∃ node ∈ evidence.changedNodeIds, ∃ event ∈ evidence.executionIds ++ evidence.commitIds,
    ⟨"agent:" ++ evidence.agentId, event, "observed"⟩ ∈ evidence.provenance ∧
      (⟨event, node, "modified"⟩ ∈ evidence.provenance ∨ ⟨event, node, "refactored"⟩ ∈ evidence.provenance)

theorem InClaim.provesMutation {node : String} (claim : s.InClaim task evidence now)
    (shaped : validateEvidenceShape evidence = .ok ()) (changed : node ∈ evidence.changedNodeIds) :
    s.ProvesMutation task evidence now := by
  obtain ⟨observed, mutated⟩ := validateEvidenceShape_ok shaped
  have mutation := mutated node changed
  simp only [ConformanceEvidence.mutated, any_eq_true, Bool.and_eq_true, Bool.or_eq_true, decide_eq_true_eq] at mutation
  obtain ⟨⟨event, target, relation⟩, stated, ⟨here, how⟩, listed⟩ := mutation
  subst here
  have seen := observed event (mem_append.mpr listed)
  simp only [ConformanceEvidence.observed, any_eq_true, Bool.and_eq_true, decide_eq_true_eq] at seen
  obtain ⟨⟨agent, target', relation'⟩, watched, ⟨own, same⟩, word⟩ := seen
  subst own same word
  refine ⟨claim, target, changed, target', mem_append.mpr listed, watched, ?_⟩
  rcases how with rfl | rfl
  · exact .inl stated
  · exact .inr stated

def ActVerified (s : Store) (task : Task) (agent : String) (now : Int) (id : String) : Prop :=
  ∃ kind actId act, id = ledgerActId kind actId ∧ s.ledgerActEvidence task.id kind actId agent now = .ok act

def ActRecorded (s : Store) (task : Task) (agent : String) (id : String) : Prop :=
  ∃ kind actId occurredAt, id = ledgerActId kind actId ∧ s.recordedAct kind actId = .ok (agent, occurredAt) ∧
    ∀ start ∈ task.claimStartedAt, start ≤ occurredAt

theorem actVerified_iff {agent id : String} (found : s.getTask task.id = some task)
    (resolved : resolveAgent agent = .ok agent) (owned : task.owner = some agent) :
    s.ActVerified task agent now id ↔ s.ActRecorded task agent id := by
  constructor
  · rintro ⟨kind, actId, act, named, accepted⟩
    refine ⟨kind, actId, ?_⟩
    simp only [ledgerActEvidence, resolved, ok_bind, found, owned, ne_eq, not_true, if_false, throw_eq, error_bind] at accepted
    obtain ⟨⟨actor, occurredAt⟩, recorded, accepted⟩ := bind_ok accepted
    obtain ⟨performed, accepted⟩ := ite_else accepted
    obtain ⟨since, accepted⟩ := ite_else accepted
    rw [not_not] at performed
    refine ⟨occurredAt, named, ?_, ?_⟩
    · rw [recorded, ← performed]
    · intro start started
      rw [Option.mem_def.mp started] at since
      simpa using since
  · rintro ⟨kind, actId, occurredAt, named, recorded, since⟩
    have after_start : ¬ occurredAt < task.claimStartedAt.getD occurredAt := by
      cases started : task.claimStartedAt with
      | none => simp
      | some start => simpa using since start started
    refine ⟨kind, actId, ?_⟩
    simp only [ledgerActEvidence, resolved, ok_bind, found, owned, recorded, ne_eq, not_true, if_false, after_start, pure_eq]
    exact ⟨_, named, rfl⟩

theorem recordedAct_none {kind : LedgerActKind} {actId : String} {answer : String × Int}
    (designs : s.designItems.rows = []) (waivers : s.waivers.rows = []) (amendments : s.amendments.rows = [])
    (standing : ∀ goal ∈ s.goals.rows, goal.supersededByAgent = none) : s.recordedAct kind actId ≠ .ok answer := by
  intro recorded
  cases kind with
  | designRegistered | designDecided => simp [recordedAct, Table.find?, designs] at recorded
  | waiverGranted => simp [recordedAct, Table.find?, waivers] at recorded
  | constitutionAmended => simp [recordedAct, Table.find?, amendments] at recorded
  | goalSuperseded =>
    unfold recordedAct at recorded
    cases found : s.goals.find? actId with
    | none => simp [found] at recorded
    | some goal => simp [found, standing goal (Table.mem_of_find? found).1] at recorded

/-- What an aligned check should stand on: a change or an act it has proof of,
and no act it has none for. -/
def Proven (s : Store) (task : Task) (evidence : ConformanceEvidence) (now : Int) : Prop :=
  (s.ProvesMutation task evidence now ∨ ∃ id ∈ evidence.ledgerActIds, s.ActVerified task evidence.agentId now id) ∧
    ∀ id ∈ evidence.ledgerActIds, s.ActVerified task evidence.agentId now id

end Store

/-- An aligned check is proven exactly when every act it cites is recorded. -/
theorem aligned_is_proven {s : Store} {evidence : ConformanceEvidence} {requested : Option String}
    {inputs : Store.CheckInputs} {now : Int} {task : Task} {result : ConformanceResult}
    (judged : s.judgeEvidence evidence requested inputs now = .ok (some task, result))
    (aligned : result.verdict = .aligned) :
    s.Proven task evidence now ↔ ∀ id ∈ evidence.ledgerActIds, s.ActRecorded task evidence.agentId id := by
  obtain ⟨found, resolved, shaped, claim, evaluated⟩ := Store.judgeEvidence_ok judged
  have checked (id : String) : s.ActVerified task evidence.agentId now id ↔ s.ActRecorded task evidence.agentId id :=
    Store.actVerified_iff found resolved claim.owned
  constructor
  · intro proven id cited
    exact (checked id).mp (proven.2 id cited)
  · intro recorded
    refine ⟨?_, fun id cited => (checked id).mpr (recorded id cited)⟩
    obtain ⟨base, returned, verdict⟩ := Store.evaluateConformance_ok evaluated
    rcases Store.evaluateBaseConformance_aligned returned (verdict ▸ aligned) with changed | cited
    · obtain ⟨node, member⟩ := exists_mem_of_ne_nil _ changed
      exact .inl (claim.provesMutation shaped member)
    · obtain ⟨id, member⟩ := exists_mem_of_ne_nil _ cited
      exact .inr ⟨id, member, (checked id).mpr (recorded id member)⟩

def claimedByAnn : List (Store → Op) :=
  [fun _ => .claim "task:goal:ship@constitution:v1|first|6" "ann" 100 none none 7,
    fun _ => .createTask "goal:ship@constitution:v1" "first" "works" none none [] 6,
    fun _ => .activate "constitution:v1" "ann" 5,
    fun s => .contract s "goal:ship@constitution:v1" "ship" "a release" none true none,
    fun s => .draftClause s "constitution:v1" .objective "Ship" "It ships" 2,
    fun s => .proposeConstitution s none 1]

theorem claimedByAnn_ready : Ready claimedByAnn := by simp +contextual [claimedByAnn, Op.enabled, Op.reads]

def taskOfAnn : Task where
  id := "task:goal:ship@constitution:v1|first|6"
  goalId := "goal:ship@constitution:v1"
  parentTaskId := none
  title := "first"
  acceptance := "works"
  status := .claimed
  owner := some "ann"
  claimStartedAt := some 7
  leaseExpiresAt := some 107
  blockedBy := none
  branch := none
  parkedAt := none
  resolvedBy := none
  resolvedAt := none
  resolvedConformanceId := none
  createdAt := 6
  updatedAt := 7

def waivedByAnn : List (Store → Op) :=
  (fun _ => .grantWaiver "waiver:1" ⟨"goal:ship@constitution:v1", "artifact:keys", "rotation", "ann", 100, none⟩ 8) ::
    claimedByAnn

theorem waivedByAnn_ready : Ready waivedByAnn := by simp +contextual [waivedByAnn, claimedByAnn_ready, Op.enabled, Op.reads]

def citesWaiver : ConformanceEvidence where
  schemaVersion := 1
  taskId := some "task:goal:ship@constitution:v1|first|6"
  agentId := "ann"
  startedAt := 8
  endedAt := 9
  changedNodeIds := []
  failedNodeIds := []
  executionIds := []
  successfulExecutionIds := []
  commitIds := []
  ledgerActIds := [ledgerActId .waiverGranted "waiver:1"]
  summary := ""
  provenance := [⟨"agent:ann", ledgerActId .waiverGranted "waiver:1", "observed"⟩]

def changesKeys : ConformanceEvidence :=
  { citesWaiver with
    changedNodeIds := ["artifact:keys"]
    executionIds := ["execution:1"]
    ledgerActIds := []
    provenance := [⟨"agent:ann", "execution:1", "observed"⟩, ⟨"execution:1", "artifact:keys", "modified"⟩] }

theorem aligned_is_proven_waived :
    ((localStore Env.plain).replay waivedByAnn).2.Proven taskOfAnn citesWaiver 10 := by
  have judged : ((localStore Env.plain).replay waivedByAnn).2.judgeEvidence citesWaiver none ⟨none, [], 10, 10⟩ 10 =
      .ok (some taskOfAnn, ⟨.aligned, ["evidence does not touch code bound to the task goal"]⟩) := by
    decide +kernel
  refine (aligned_is_proven judged rfl).mpr ?_
  intro id cited
  cases mem_singleton.mp cited
  exact ⟨.waiverGranted, "waiver:1", 8, rfl, by decide +kernel, by decide⟩

/-- The same bundle aligns where the waiver was never granted. -/
theorem unrecorded_act_aligns : ¬ ∀ (s : Store) evidence requested inputs now task result,
    s.judgeEvidence evidence requested inputs now = .ok (some task, result) → result.verdict = .aligned →
      s.Proven task evidence now := by
  intro enforced
  have judged : ((localStore Env.plain).replay claimedByAnn).2.judgeEvidence citesWaiver none ⟨none, [], 10, 10⟩ 10 =
      .ok (some taskOfAnn, ⟨.aligned, ["evidence does not touch code bound to the task goal"]⟩) := by
    decide +kernel
  have proven := enforced _ _ _ _ _ _ _ judged rfl
  obtain ⟨found, resolved, _, claim, _⟩ := Store.judgeEvidence_ok judged
  have cited := (Store.actVerified_iff found resolved claim.owned).mp (proven.2 _ mem_cons_self)
  obtain ⟨_, _, _, _, recorded, _⟩ := cited
  exact Store.recordedAct_none (by decide +kernel) (by decide +kernel) (by decide +kernel) (by decide +kernel) recorded

end MindLeak.Lodestar
