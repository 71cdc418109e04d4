import MindLeak.Lodestar.Certification
import MindLeak.Proofs.Evidence
import MindLeak.Proofs.Verdicts

/-! Two readings of one record. The receipt counts what evidence covers by nodes
and acts, the certification status by nodes alone. -/

namespace MindLeak.Lodestar

open List Option

theorem summariseReceipt_affirms (record : ConformanceRecord) : (summariseReceipt record).affirms = true ↔
      record.verdict = .aligned ∧ (record.evidence.changedNodeIds ≠ [] ∨ record.evidence.ledgerActIds ≠ []) := by
  have counted : 0 < coveredNodeCount record ↔
      record.evidence.changedNodeIds ≠ [] ∨ record.evidence.ledgerActIds ≠ [] := by
    rw [← length_pos_iff, ← length_pos_iff]
    unfold coveredNodeCount
    omega
  simp [summariseReceipt, counted]

variable {status : CertificationStatus} {verdict : Verdict}

namespace CertificationStatus
variable {policy : String} {waiver : Option Waiver}

theorem excepted_certified : ((status.judged verdict policy).excepted verdict waiver).state = .certified ↔
    verdict = .aligned ∧ status.coveredNodes ≠ 0 := by
  cases verdict with
  | aligned =>
    simp only [judged, excepted]
    by_cases uncovered : status.coveredNodes = 0 <;> simp [uncovered]
  | drift | needsHuman => simp [judged, excepted]
  | violation => cases waiver <;> simp [judged, excepted]

theorem current_eq {commitIds : List String} {atCommit : Option String}
    (fresh : (status.current commitIds atCommit).state ≠ .stale) : status.current commitIds atCommit = status := by
  unfold current at fresh ⊢
  split at fresh
  next certified =>
    rw [if_pos certified]
    split at fresh
    next head declared =>
      split at fresh
      next same => rw [if_pos same]
      next => exact absurd rfl fresh
    next => rfl
  next other => rw [if_neg other]

end CertificationStatus

variable {s : Store} {atCommit : Option String} {now : Int}

namespace Store
variable {id : String}

theorem certificationStatus_certified (adopted : s.activeConstitutionVersion.isSome = true)
    (answered : s.certificationStatus id atCommit now = .ok status) (fresh : status.state ≠ .stale) :
    status.state = .certified ↔ ∃ record, (s.conformanceHistory id).getLast? = some record ∧
      record.verdict = .aligned ∧ record.evidence.changedNodeIds ≠ [] := by
  obtain ⟨version, governs⟩ := isSome_iff_exists.mp adopted
  unfold certificationStatus at answered
  cases found : s.getTask id with
  | none => simp [found] at answered
  | some task =>
    simp only [found, governs, map_some, getTask_id found] at answered
    cases last : (s.conformanceHistory id).getLast? with
    | none =>
      simp only [last] at answered
      cases answered
      simp
    | some record =>
      simp only [last] at answered
      cases answered
      rw [CertificationStatus.current_eq fresh, CertificationStatus.excepted_certified]
      simp

end Store

/-- A task's certification and its receipt agree exactly when its last record,
where aligned, stands on a changed node or on nothing at all. -/
theorem certification_agrees {s : Store} {id : String} {atCommit : Option String} {now : Int}
    {status : CertificationStatus} (adopted : s.activeConstitutionVersion.isSome = true)
    (answered : s.certificationStatus id atCommit now = .ok status) (fresh : status.state ≠ .stale) :
    (status.state = .certified ↔ ∃ receipt, s.taskReceipt id = some receipt ∧ receipt.affirms = true) ↔
      ∀ record, (s.conformanceHistory id).getLast? = some record → record.verdict = .aligned →
        record.evidence.changedNodeIds ≠ [] ∨ record.evidence.ledgerActIds = [] := by
  rw [Store.certificationStatus_certified adopted answered fresh]
  unfold Store.taskReceipt
  cases last : (s.conformanceHistory id).getLast? with
  | none => simp
  | some record =>
    have affirmed := summariseReceipt_affirms record
    simp only [map_some, Option.some.injEq, exists_eq_left', affirmed, forall_eq']
    constructor
    · intro agree aligned
      by_cases acts : record.evidence.ledgerActIds = []
      · exact .inr acts
      · exact .inl (agree.mpr ⟨aligned, .inr acts⟩).2
    · intro stands
      constructor
      · intro certified
        exact ⟨certified.1, .inl certified.2⟩
      · intro affirms
        obtain ⟨aligned, covered⟩ := affirms
        refine ⟨aligned, ?_⟩
        rcases stands aligned with nodes | without
        · exact nodes
        · exact covered.resolve_right fun acts => acts without

def shippedByAnn : List (Store → Op) :=
  [fun s => Op.complete s "task:goal:ship@constitution:v1|first|6" "ann" changesKeys
      ⟨1, "1:aligned:evidence does not touch code bound to the task goal", .aligned,
        ["evidence does not touch code bound to the task goal"]⟩ [] 10,
    fun s => Op.check s changesKeys none ⟨none, [], 10, 10⟩ 10 10] ++ claimedByAnn

theorem certification_agrees_shipped : ∃ status,
    ((localStore Env.plain).replay shippedByAnn).2.certificationStatus "task:goal:ship@constitution:v1|first|6" none 11 =
        .ok status ∧ status.state = .certified ∧
      ∃ receipt, ((localStore Env.plain).replay shippedByAnn).2.taskReceipt "task:goal:ship@constitution:v1|first|6" =
        some receipt ∧ receipt.affirms = true := by
  obtain ⟨answered, active⟩ : let s := ((localStore Env.plain).replay shippedByAnn).2
      (s.certificationStatus "task:goal:ship@constitution:v1|first|6" none 11).toOption.map CertificationStatus.state = some .certified ∧
      s.activeConstitutionVersion.isSome = true := by
    decide +kernel
  obtain ⟨status, answered, certified⟩ := of_toOption_map answered
  have counted := certification_agrees active answered (by simp [certified])
  refine ⟨status, answered, certified, (counted.mpr ?_).mp certified⟩
  decide +kernel

def completedOnWaiver : List (Store → Op) :=
  [fun s => Op.complete s "task:goal:ship@constitution:v1|first|6" "ann" citesWaiver
      ⟨1, "1:aligned:evidence does not touch code bound to the task goal", .aligned,
        ["evidence does not touch code bound to the task goal"]⟩ [] 10,
    fun s => Op.check s citesWaiver none ⟨none, [], 10, 10⟩ 10 10] ++ waivedByAnn

theorem completedOnWaiver_ready : Ready completedOnWaiver := by simp +contextual [completedOnWaiver, waivedByAnn_ready, Op.enabled, Op.reads]

/-- An aligned completion on a ledger act is affirmed and not certified. -/
theorem ledger_act_not_certified : ¬ ∀ env history state id atCommit now status task record,
    (localStore env).Run history state → state.activeConstitutionVersion.isSome = true →
      state.getTask id = some task → task.status = .done →
        (state.conformanceHistory id).getLast? = some record → record.verdict = .aligned →
          state.certificationStatus id atCommit now = .ok status → status.state ≠ .stale →
            (status.state = .certified ↔ ∃ receipt, state.taskReceipt id = some receipt ∧ receipt.affirms = true) := by
  intro always
  have run : (localStore Env.plain).Replays completedOnWaiver := completedOnWaiver_ready.run
  obtain ⟨done, recorded, answered, affirmed, active⟩ : let s := ((localStore Env.plain).replay completedOnWaiver).2
      (s.getTask "task:goal:ship@constitution:v1|first|6").map Task.status = some .done ∧
      ((s.conformanceHistory "task:goal:ship@constitution:v1|first|6").getLast?).map ConformanceRecord.verdict = some .aligned ∧
      (s.certificationStatus "task:goal:ship@constitution:v1|first|6" none 11).toOption.map CertificationStatus.state =
        some .notCertified ∧
      (s.taskReceipt "task:goal:ship@constitution:v1|first|6").map TaskReceipt.affirms = some true ∧
      s.activeConstitutionVersion.isSome = true := by
    decide +kernel
  obtain ⟨task, found, done⟩ := map_eq_some_iff.mp done
  obtain ⟨record, last, aligned⟩ := map_eq_some_iff.mp recorded
  obtain ⟨status, answered, refused⟩ := of_toOption_map answered
  have certified := (always Env.plain _ _ _ none 11 status task record run active found done last aligned
    answered (by simp [refused])).mpr (map_eq_some_iff.mp affirmed)
  cases refused.symm.trans certified

/-! Which waiver stands a recorded violation down. A check asks for waivers of the clause that it
finds breached; the status reads the waivers of every clause. -/

section
variable {α : Type} {r : α → α → Prop} [DecidableRel r] [Std.Total r] [IsTrans α r] {items : List α} {item : α} {p : α → Bool}

theorem find?_insertionSort_least (found : (items.insertionSort r).find? p = some item) :
    item ∈ items ∧ p item = true ∧ ∀ other ∈ items, p other = true → r item other := by
  have inside : item ∈ items := (mem_insertionSort r).mp (mem_of_find?_eq_some found)
  obtain ⟨holds, earlier, later, sorted, none_earlier⟩ := List.find?_eq_some_iff_append.mp found
  refine ⟨inside, holds, fun other member also => ?_⟩
  have ascending := pairwise_insertionSort r items
  have there := (mem_insertionSort r).mpr member
  rw [sorted] at ascending there
  rcases mem_append.mp there with before | rest
  · have missed := none_earlier other before
    rw [also] at missed
    cases missed
  · rcases mem_cons.mp rest with rfl | after
    · exact (or_self_iff.mp (total_of r other other))
    · exact (pairwise_cons.mp (pairwise_append.mp ascending).2.1).1 other after

end

variable {task : Option Task} {result : ConformanceResult} {waiver : Waiver}

namespace Store

inductive Breaches (s : Store) (evidence : ConformanceEvidence) (task : Option Task) (inputs : CheckInputs) : String → Prop
  | lock {node : String} {clause : Goal} (first : (s.locks evidence.changedNodeIds).head? = some (node, clause))
      (stands : s.Unwaived clause node inputs.lockNow) : Breaches s evidence task inputs clause.id
  | goal {row : Task} {goal : GoalRow} {why : String} (its : task = some row)
      (passed : ¬s.FirstLockStands evidence.changedNodeIds inputs.lockNow) (found : s.goals.find? row.goalId = some goal)
      (normative : goal.kind.isNormative = true) (condemned : inputs.judge = some ("violation", why)) :
      Breaches s evidence task inputs row.goalId

structure Foremost (s : Store) (nodes : List String) (now : Int) (waiver : Waiver) : Prop where
  member : waiver ∈ s.waivers.rows
  reaches : ∃ node ∈ nodes, waiver.appliesTo node now = true
  first : ∀ other ∈ s.waivers.rows, (∃ node ∈ nodes, other.appliesTo node now = true) →
    waiver.expiresAt < other.expiresAt ∨ (waiver.expiresAt = other.expiresAt ∧ waiver.id ≤ other.id)

section
variable {evidence : ConformanceEvidence} {inputs : CheckInputs} {clauseId other : String} {nodes : List String}

theorem Breaches.unique (one : s.Breaches evidence task inputs clauseId) (also : s.Breaches evidence task inputs other) :
    clauseId = other := by
  cases one with
  | lock first stands =>
    cases also with
    | lock again =>
      cases first.symm.trans again
      rfl
    | goal _ passed => exact absurd ⟨_, _, first, stands⟩ passed
  | goal its passed =>
    cases also with
    | lock first stands => exact absurd ⟨_, _, first, stands⟩ passed
    | goal same =>
      cases its.symm.trans same
      rfl

theorem lockStep_breach (governing : GoverningClauses) (walk : governing.forbid = s.locks nodes) (findings : List String) :
    (∃ node clause decided, (s.locks nodes).head? = some (node, clause) ∧ s.Unwaived clause node now ∧
      s.lockStep governing now findings = .inl decided) ∨
    (¬s.FirstLockStands nodes now ∧ ∃ texts, s.lockStep governing now findings = .inr texts) := by
  by_cases locked : s.locks nodes = []
  · refine .inr ⟨fun ⟨_, _, first, _⟩ => ?_, findings, ?_⟩
    · rw [locked] at first
      cases first
    · unfold lockStep
      rw [walk, locked]
      rfl
  · rcases lockStep_locked walk locked with ⟨⟨node, clause, first, stands⟩, decided, ended, _⟩ | passed
    · exact .inl ⟨node, clause, decided, first, stands, ended⟩
    · exact .inr passed

theorem evaluateBaseConformance_governed {judge : JudgeAnswer} {lockNow driftNow : Int}
    (returned : s.evaluateBaseConformance evidence task judge lockNow driftNow = .ok result) (violation : result.verdict = .violation) :
    ∃ governing : GoverningClauses, governing.forbid = s.locks evidence.changedNodeIds ∧
      (match s.lockStep governing lockNow [] with
        | .inl decided => .ok decided
        | .inr findings =>
          match s.driftStep governing driftNow findings with
          | .inl decided => .ok decided
          | .inr findings =>
            match task with
            | none => .ok ⟨.aligned, findings ++ ["no governed code touched"]⟩
            | some task => s.taskStep governing task judge findings) = Except.ok result := by
  unfold evaluateBaseConformance at returned
  split at returned
  · cases returned
    cases violation
  · exact ⟨_, (s.resolveGoverning_eq _ _ _).1, returned⟩

theorem evaluateBaseConformance_walks {judge : JudgeAnswer} {lockNow driftNow : Int}
    (returned : s.evaluateBaseConformance evidence task judge lockNow driftNow = .ok result) (violation : result.verdict = .violation) :
    ∃ governing : GoverningClauses, governing.forbid = s.locks evidence.changedNodeIds ∧
      ((∃ decided, s.lockStep governing lockNow [] = .inl decided) ∨
        ∃ texts more row, task = some row ∧ s.lockStep governing lockNow [] = .inr texts ∧
          s.driftStep governing driftNow texts = .inr more ∧ s.taskStep governing row judge more = .ok result) := by
  obtain ⟨governing, walk, walked⟩ := evaluateBaseConformance_governed returned violation
  refine ⟨governing, walk, ?_⟩
  split at walked
  next decided ended => exact .inl ⟨decided, ended⟩
  rename_i texts went
  split at walked
  next decided drifted =>
    cases walked
    rcases s.driftStep_cases _ driftNow texts with ⟨other, same, drift, _⟩ | ⟨_, passed, _⟩
    · cases drifted.symm.trans same
      cases drift.symm.trans violation
    · cases drifted.symm.trans passed
  next more on =>
    split at walked
    · cases walked
      cases violation
    next row => exact .inr ⟨texts, more, row, rfl, went, on, walked⟩

theorem violation_breaches (checked : s.evaluateConformance evidence task inputs = .ok result) (violation : result.verdict = .violation) :
    ∃ clauseId, s.Breaches evidence task inputs clauseId := by
  obtain ⟨base, returned, verdict⟩ := evaluateConformance_ok checked
  rw [verdict] at violation
  obtain ⟨governing, walk, ended⟩ := evaluateBaseConformance_walks returned violation
  rcases lockStep_breach governing walk [] with ⟨_, _, _, first, stands, _⟩ | ⟨passed, _, went⟩
  · exact ⟨_, .lock first stands⟩
  rcases ended with ⟨_, decided⟩ | ⟨texts, more, row, its, _, _, judged⟩
  · cases went.symm.trans decided
  · obtain ⟨goal, found, normative, why, condemned⟩ := taskStep_violation.mp ⟨base, judged, violation⟩
    exact ⟨row.goalId, .goal its passed found normative condemned⟩

instance : Std.Total fun left right : Waiver =>
    left.expiresAt < right.expiresAt ∨ (left.expiresAt = right.expiresAt ∧ left.id ≤ right.id) := by
  refine ⟨fun left right => ?_⟩
  have named := le_total left.id right.id
  rcases lt_trichotomy left.expiresAt right.expiresAt with before | same | after
  · exact .inl (.inl before)
  · exact named.imp (fun below => .inr ⟨same, below⟩) fun above => .inr ⟨same.symm, above⟩
  · exact .inr (.inl after)

instance : IsTrans Waiver fun left right =>
    left.expiresAt < right.expiresAt ∨ (left.expiresAt = right.expiresAt ∧ left.id ≤ right.id) := by
  refine ⟨fun first second third one other => ?_⟩
  rcases one with before | ⟨same, named⟩ <;> rcases other with after | ⟨equal, further⟩
  · exact .inl (before.trans after)
  · exact .inl (equal ▸ before)
  · exact .inl (same ▸ after)
  · exact .inr ⟨same.trans equal, named.trans further⟩

theorem Foremost.unique {also : Waiver} (foremost : s.Foremost nodes now waiver) (again : s.Foremost nodes now also) : waiver = also := by
  have named : waiver.id = also.id := by
    rcases foremost.first also again.member again.reaches with before | ⟨same, below⟩ <;>
      rcases again.first waiver foremost.member foremost.reaches with after | ⟨_, above⟩
    · omega
    · omega
    · omega
    · exact le_antisymm below above
  have here := Table.find?_of_mem foremost.member
  have there := Table.find?_of_mem again.member
  rw [show Row.key waiver = Row.key also from named] at here
  exact Option.some.inj (here.symm.trans there)

theorem liveWaiverFor_iff : s.liveWaiverFor nodes now = some waiver ↔ s.Foremost nodes now waiver := by
  have reached (other : Waiver) : (nodes.any fun node => other.appliesTo node now) = true ↔ ∃ node ∈ nodes, other.appliesTo node now = true :=
    any_eq_true
  have alive {other : Waiver} {node : String} (applies : other.appliesTo node now = true) : other.isLive now = true := by
    simp only [Waiver.appliesTo, Bool.and_eq_true] at applies
    simp [Waiver.isLive, applies.1.1, applies.1.2]
  have sound {other : Waiver} (found : s.liveWaiverFor nodes now = some other) : s.Foremost nodes now other := by
    obtain ⟨inside, reaches, first⟩ := find?_insertionSort_least found
    refine ⟨(mem_filter.mp inside).1, (reached other).mp reaches, fun next member applies => ?_⟩
    refine first next (mem_filter.mpr ⟨member, ?_⟩) ((reached next).mpr applies)
    obtain ⟨_, _, applies⟩ := applies
    exact alive applies
  refine ⟨sound, fun foremost => ?_⟩
  cases found : s.liveWaiverFor nodes now with
  | some other => rw [(sound found).unique foremost]
  | none =>
    obtain ⟨node, inside, applies⟩ := foremost.reaches
    have listed : waiver ∈ s.liveWaivers now :=
      (mem_insertionSort _).mpr (mem_filter.mpr ⟨foremost.member, alive applies⟩)
    exact absurd ((reached waiver).mpr ⟨node, inside, applies⟩) (List.find?_eq_none.mp found waiver listed)

end
end Store

namespace CertificationStatus
variable {waived : Option Waiver} {commitIds : List String}

theorem judged_state (policy : String) : (status.judged verdict policy).state ≠ .waived := by
  unfold judged
  cases verdict <;> dsimp only
  · split <;> nofun
  all_goals nofun

theorem excepted_state (before : status.state ≠ .waived) :
    (status.excepted verdict waived).state = .waived ↔ verdict = .violation ∧ waived.isSome = true := by
  unfold excepted
  split
  · simp
  next other =>
  refine ⟨fun same => absurd same before, fun both => ?_⟩
  obtain ⟨waiver, its⟩ := isSome_iff_exists.mp both.2
  exact absurd its (other waiver both.1)

theorem excepted_waiver (violation : verdict = .violation) (found : waived = some waiver) :
    (status.excepted verdict waived).waiver = some waiver := by
  subst violation found
  rfl

theorem current_keeps : ((status.current commitIds atCommit).state = .waived ↔ status.state = .waived) ∧
    (status.current commitIds atCommit).waiver = status.waiver := by
  unfold current
  split
  next certified =>
    split
    · split
      · exact ⟨.rfl, rfl⟩
      · rw [certified]
        exact ⟨⟨nofun, nofun⟩, rfl⟩
    · exact ⟨.rfl, rfl⟩
  next => exact ⟨.rfl, rfl⟩

def StandsOn (status : CertificationStatus) (s seen : Store) (record : ConformanceRecord) (task : Option Task) (inputs : Store.CheckInputs)
    (now : Int) : Prop :=
  ∃ waiver ∈ s.waivers.rows, status.waiver = some waiver ∧ waiver.isLive now = true ∧
    (∃ node ∈ record.evidence.changedNodeIds, covers waiver.scope node = true) ∧
      seen.Breaches record.evidence task inputs waiver.clauseId

end CertificationStatus

section
variable {seen : Store} {record : ConformanceRecord} {inputs : Store.CheckInputs} {taskId : String}

theorem certificationStatus_waived (reported : s.certificationStatus taskId atCommit now = .ok status)
    (last : (s.conformanceHistory taskId).getLast? = some record) :
    (status.state = .waived ↔ s.activeConstitutionVersion.isSome = true ∧ record.verdict = .violation ∧
        ∃ waiver, s.Foremost record.evidence.changedNodeIds now waiver) ∧
      (status.state = .waived → ∀ waiver, s.Foremost record.evidence.changedNodeIds now waiver → status.waiver = some waiver) := by
  unfold Store.certificationStatus at reported
  split at reported
  · cases reported
  rename_i row found
  have named : row.id = taskId := Store.getTask_id found
  cases adopted : s.activeConstitutionVersion with
  | none =>
    simp only [adopted, map_none] at reported
    cases reported
    exact ⟨⟨nofun, fun both => absurd both.1 (by simp)⟩, nofun⟩
  | some version =>
    simp only [adopted, map_some, named, last] at reported
    cases reported
    rw [CertificationStatus.current_keeps.1, CertificationStatus.current_keeps.2,
      CertificationStatus.excepted_state (CertificationStatus.judged_state _), isSome_iff_exists]
    simp only [Store.liveWaiverFor_iff, isSome_some, true_and]
    exact fun both waiver foremost => CertificationStatus.excepted_waiver both.1 (Store.liveWaiverFor_iff.mpr foremost)

end

def lockedByAnn : List (Store → Op) :=
  [fun s => .link s "goal:seals@constitution:v1" ["artifact:keys"] .forbidChange,
    fun _ => .claim "task:goal:ship@constitution:v1|first|6" "ann" 100 none none 7,
    fun _ => .createTask "goal:ship@constitution:v1" "first" "works" none none [] 6,
    fun _ => .activate "constitution:v1" "ann" 5,
    fun s => .contract s "goal:seals@constitution:v1" "seals" "a seal" none true none,
    fun s => .contract s "goal:ship@constitution:v1" "ship" "a release" none true none,
    fun s => .draftClause s "constitution:v1" .constraint "Seals" "Seals stay" 3,
    fun s => .draftClause s "constitution:v1" .objective "Ship" "It ships" 2,
    fun s => .proposeConstitution s none 1]

def excusedElsewhere : List (Store → Op) :=
  (fun _ => .grantWaiver "waiver:1" ⟨"goal:ship@constitution:v1", "artifact:keys", "rotation", "ann", 100, none⟩ 8) :: lockedByAnn

def checkedElsewhere : List (Store → Op) := (fun s => .check s changesKeys none ⟨none, [], 10, 10⟩ 10 10) :: excusedElsewhere

/-- The lock's clause is waived, once a check has found it breached. -/
def excusedAfterwards : List (Store → Op) :=
  [fun _ => Op.grantWaiver "waiver:1" ⟨"goal:seals@constitution:v1", "artifact:keys", "rotation", "ann", 100, none⟩ 20,
    fun s => Op.check s changesKeys none ⟨none, [], 10, 10⟩ 10 10] ++ lockedByAnn

/-- A status reports an exception on the strength of the right waiver exactly where the live waiver over the record's nodes that expires
first is for the clause that was breached. -/
theorem waiver_excuses_breach_iff {s seen : Store} {record : ConformanceRecord} {task : Option Task} {inputs : Store.CheckInputs}
    {result : ConformanceResult} {taskId : String} {atCommit : Option String} {now : Int} {status : CertificationStatus}
    (reported : s.certificationStatus taskId atCommit now = .ok status) (last : (s.conformanceHistory taskId).getLast? = some record)
    (checked : seen.evaluateConformance record.evidence task inputs = .ok result) (same : result.verdict = record.verdict) :
    (status.state = .waived → status.StandsOn s seen record task inputs now) ↔
      (s.activeConstitutionVersion.isSome = true → record.verdict = .violation →
        ∀ clauseId, seen.Breaches record.evidence task inputs clauseId →
          ∀ waiver, s.Foremost record.evidence.changedNodeIds now waiver → waiver.clauseId = clauseId) := by
  obtain ⟨waived, its⟩ := certificationStatus_waived reported last
  constructor
  · intro stands adopted violation clauseId breach waiver foremost
    have excepted := waived.mpr ⟨adopted, violation, waiver, foremost⟩
    obtain ⟨found, _, named, _, _, breached⟩ := stands excepted
    rw [its excepted waiver foremost] at named
    cases named
    exact breached.unique breach
  · intro right excepted
    obtain ⟨adopted, violation, waiver, foremost⟩ := waived.mp excepted
    obtain ⟨clauseId, breach⟩ := Store.violation_breaches checked (same.trans violation)
    have named := right adopted violation clauseId breach waiver foremost
    obtain ⟨node, inside, applies⟩ := foremost.reaches
    simp only [Waiver.appliesTo, Bool.and_eq_true] at applies
    refine ⟨waiver, foremost.member, its excepted waiver foremost, ?_, ⟨node, inside, applies.2⟩, named ▸ breach⟩
    simp [Waiver.isLive, applies.1.1, applies.1.2]

theorem waiver_excuses_breach_afterwards : ∃ status record,
    ((localStore Env.plain).replay excusedAfterwards).2.certificationStatus "task:goal:ship@constitution:v1|first|6" none 21 = .ok status ∧
      status.state = .waived ∧ status.StandsOn ((localStore Env.plain).replay excusedAfterwards).2
        ((localStore Env.plain).replay lockedByAnn).2 record (some taskOfAnn) ⟨none, [], 10, 10⟩ 21 := by
  obtain ⟨read, answered, sealed_⟩ : let s := ((localStore Env.plain).replay excusedAfterwards).2
      ((s.conformanceHistory "task:goal:ship@constitution:v1|first|6").getLast?.map fun record => (record.evidence, record.verdict)) =
        some (changesKeys, .violation) ∧
      (s.certificationStatus "task:goal:ship@constitution:v1|first|6" none 21).toOption.map CertificationStatus.state = some .waived ∧
      ∀ waiver ∈ s.waivers.rows, waiver.clauseId = "goal:seals@constitution:v1" := by decide +kernel
  obtain ⟨judged, lock⟩ : let s := ((localStore Env.plain).replay lockedByAnn).2
      (s.evaluateConformance changesKeys (some taskOfAnn) ⟨none, [], 10, 10⟩).toOption.map ConformanceResult.verdict = some .violation ∧
      ((s.locks ["artifact:keys"]).head?.map fun lock => (lock.2.id, decide (s.Unwaived lock.2 lock.1 10))) =
        some ("goal:seals@constitution:v1", true) := by decide +kernel
  obtain ⟨record, last, same⟩ := map_eq_some_iff.mp read
  obtain ⟨evidence, verdict⟩ := Prod.mk.inj same
  obtain ⟨status, reported, waived⟩ := of_toOption_map answered
  obtain ⟨result, checked, violation⟩ := of_toOption_map judged
  rw [← evidence] at checked
  refine ⟨status, record, reported, waived,
    (waiver_excuses_breach_iff reported last checked (violation.trans verdict.symm)).mpr ?_ waived⟩
  intro _ _ clauseId breach waiver foremost
  obtain ⟨⟨node, clause⟩, first, read⟩ := map_eq_some_iff.mp lock
  obtain ⟨named, stands⟩ := Prod.mk.inj read
  rw [evidence] at breach
  rw [sealed_ waiver foremost.member, ← named]
  exact Store.Breaches.unique (.lock first (of_decide_eq_true stands)) breach

/-- A waiver of another clause is what the status of a breach stands on. -/
theorem waiver_of_another_clause : ¬∀ (s seen : Store) record task inputs result taskId atCommit now status,
    s.certificationStatus taskId atCommit now = .ok status → (s.conformanceHistory taskId).getLast? = some record →
      seen.evaluateConformance record.evidence task inputs = .ok result → result.verdict = record.verdict →
        status.state = .waived → status.StandsOn s seen record task inputs now := by
  intro always
  obtain ⟨read, answered, shipped⟩ : let s := ((localStore Env.plain).replay checkedElsewhere).2
      ((s.conformanceHistory "task:goal:ship@constitution:v1|first|6").getLast?.map fun record => (record.evidence, record.verdict)) =
        some (changesKeys, .violation) ∧
      (s.certificationStatus "task:goal:ship@constitution:v1|first|6" none 11).toOption.map CertificationStatus.state = some .waived ∧
      ∀ waiver ∈ s.waivers.rows, waiver.clauseId = "goal:ship@constitution:v1" := by decide +kernel
  obtain ⟨judged, lock⟩ : let s := ((localStore Env.plain).replay excusedElsewhere).2
      (s.evaluateConformance changesKeys (some taskOfAnn) ⟨none, [], 10, 10⟩).toOption.map ConformanceResult.verdict = some .violation ∧
      ((s.locks ["artifact:keys"]).head?.map fun lock => (lock.2.id, decide (s.Unwaived lock.2 lock.1 10))) =
        some ("goal:seals@constitution:v1", true) := by decide +kernel
  obtain ⟨record, last, same⟩ := map_eq_some_iff.mp read
  obtain ⟨evidence, verdict⟩ := Prod.mk.inj same
  obtain ⟨status, reported, waived⟩ := of_toOption_map answered
  obtain ⟨result, checked, violation⟩ := of_toOption_map judged
  obtain ⟨waiver, held, _, _, _, breach⟩ := always _ _ record (some taskOfAnn) ⟨none, [], 10, 10⟩ result _ none 11 status reported last
    (evidence ▸ checked) (violation.trans verdict.symm) waived
  obtain ⟨⟨node, clause⟩, first, read⟩ := map_eq_some_iff.mp lock
  obtain ⟨named, stands⟩ := Prod.mk.inj read
  rw [evidence, shipped waiver held] at breach
  have other := breach.unique (.lock first (of_decide_eq_true stands))
  rw [named] at other
  exact absurd other (by decide)

end MindLeak.Lodestar
