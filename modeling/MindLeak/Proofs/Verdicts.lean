import MindLeak.Proofs.Rows

/-! Which locks a check enforces: the walk over the bindings, the one lock it
looks at, and what else can end in a violation. -/

namespace MindLeak.Lodestar

open List Option

namespace Store

def locks (s : Store) (nodes : List String) : List (String × Goal) :=
  nodes.flatMap fun node =>
    ((s.activeBindingsForNode node).filter fun binding => decide (binding.mode = .forbidChange)).map
      fun binding => (node, binding.goal)

def uncovered (s : Store) (nodes : List String) (taskSlug : Option String) (covered : List String) :
    List (String × Goal) :=
  nodes.flatMap fun node =>
    ((s.activeBindingsForNode node).filter fun binding =>
      !(decide (binding.mode = .forbidChange) || decide (taskSlug = some binding.goal.slug) ||
        (covered.any fun c => decide (goalSlug c = binding.goal.slug)) || isDocumentationNode node)).map
      fun binding => (node, binding.goal)

end Store

theorem GoverningClauses.foldl_classify {taskSlug : Option String} {covered : List String}
    (bound : String → List ArtifactBinding) (bucket : GoverningClauses → List (String × Goal))
    (files : String → ArtifactBinding → Bool)
    (each : ∀ node resolved binding, bucket (classify taskSlug covered node resolved binding) =
      bucket resolved ++ if files node binding then [(node, binding.goal)] else [])
    (nodes : List String) (resolved : GoverningClauses) :
    bucket (nodes.foldl (fun resolved node => (bound node).foldl (classify taskSlug covered node) resolved) resolved) =
      bucket resolved ++ nodes.flatMap fun node => ((bound node).filter (files node)).map fun binding =>
        (node, binding.goal) := by
  have one (node : String) (bindings : List ArtifactBinding) (resolved : GoverningClauses) :
      bucket (bindings.foldl (classify taskSlug covered node) resolved) =
        bucket resolved ++ (bindings.filter (files node)).map fun binding => (node, binding.goal) := by
    induction bindings generalizing resolved with
    | nil => simp
    | cons binding rest ih =>
      rw [foldl_cons, ih, each, filter_cons, append_assoc]
      split <;> rfl
  induction nodes generalizing resolved with
  | nil => simp
  | cons node rest ih => rw [foldl_cons, ih, one, flatMap_cons, append_assoc]

namespace Store

theorem resolveGoverning_eq (s : Store) (nodes : List String) (taskGoalId : Option String) (covered : List String) :
    (s.resolveGoverningClausesCovering nodes taskGoalId covered).forbid = s.locks nodes ∧
      (s.resolveGoverningClausesCovering nodes taskGoalId covered).other =
        s.uncovered nodes (taskGoalId.map goalSlug) covered := by
  refine ⟨?_, ?_⟩
  · apply GoverningClauses.foldl_classify s.activeBindingsForNode GoverningClauses.forbid
    intro node resolved binding
    unfold GoverningClauses.classify
    by_cases lock : binding.mode = .forbidChange
    · simp [lock]
    have elsewhere : decide (binding.mode = .forbidChange) = false := decide_eq_false lock
    rw [if_neg lock, elsewhere, if_neg Bool.false_ne_true, append_nil]
    repeat' split
    all_goals rfl
  · apply GoverningClauses.foldl_classify s.activeBindingsForNode GoverningClauses.other
    intro node resolved binding
    unfold GoverningClauses.classify
    by_cases lock : binding.mode = .forbidChange
    · simp [lock]
    by_cases own : taskGoalId.map goalSlug = some binding.goal.slug
    · simp [lock, own]
    · cases served : covered.any fun c => decide (goalSlug c = binding.goal.slug) with
      | true => simp [lock, own]
      | false => cases prose : isDocumentationNode node <;> simp [lock, own]

def Unwaived (s : Store) (clause : Goal) (node : String) (now : Int) : Prop :=
  ∀ waiver ∈ s.waivers.rows, waiver.clauseId = clause.id → waiver.isLive now = true → waiver.appliesTo node now = false

theorem excusingWaiver_eq_none {s : Store} {clause : Goal} {node : String} {now : Int} :
    s.excusingWaiver clause node now = none ↔ s.Unwaived clause node now := by
  unfold excusingWaiver
  rw [List.head?_eq_none_iff, ← length_eq_zero_iff, length_insertionSort, length_eq_zero_iff,
    filter_eq_nil_iff]
  constructor
  · intro missed waiver member named live
    have listed : waiver ∈ s.liveWaiversForClause clause.id now := by
      refine mem_filter.mpr ⟨(perm_insertionSort _ _).mem_iff.mpr ?_, live⟩
      exact mem_filter.mpr ⟨member, decide_eq_true named⟩
    simpa using missed waiver listed
  · intro unwaived waiver listed
    obtain ⟨listed, live⟩ := mem_filter.mp listed
    obtain ⟨member, named⟩ := mem_filter.mp ((perm_insertionSort _ _).mem_iff.mp listed)
    have missed := unwaived waiver member (of_decide_eq_true named) live
    simp [missed]

instance (s : Store) (clause : Goal) (node : String) (now : Int) : Decidable (s.Unwaived clause node now) :=
  decidable_of_iff (s.excusingWaiver clause node now = none) excusingWaiver_eq_none

def Locked (s : Store) (nodes : List String) (now : Int) : Prop :=
  ∃ node ∈ nodes, ∃ binding ∈ s.goalArtifacts.rows, binding.nodeId = node ∧ binding.mode = .forbidChange ∧
    ∃ clause, s.goals.find? binding.goalId = some clause ∧ clause.status = .active ∧ s.Unwaived clause.toGoal node now

instance (s : Store) (nodes : List String) (now : Int) : Decidable (s.Locked nodes now) :=
  decidable_of_iff (∃ node ∈ nodes, ∃ binding ∈ s.goalArtifacts.rows, binding.nodeId = node ∧
      binding.mode = .forbidChange ∧ ∃ clause ∈ s.goals.find? binding.goalId, clause.status = .active ∧
        s.Unwaived clause.toGoal node now) <| by
    simp only [Locked, mem_def]

theorem Locked.mem_locks {s : Store} {nodes : List String} {now : Int} (locked : s.Locked nodes now) :
    ∃ node clause, (node, clause) ∈ s.locks nodes ∧ s.Unwaived clause node now := by
  obtain ⟨node, inside, binding, member, here, mode, clause, found, active, unwaived⟩ := locked
  refine ⟨node, clause.toGoal, mem_flatMap.mpr ⟨node, inside, mem_map.mpr ?_⟩, unwaived⟩
  refine ⟨⟨clause.toGoal, binding.mode⟩, mem_filter.mpr ⟨?_, decide_eq_true mode⟩, rfl⟩
  refine mem_filterMap.mpr ⟨binding, member, ?_⟩
  rw [if_pos here, found, filter_some, if_pos (decide_eq_true active)]

def FirstLockStands (s : Store) (nodes : List String) (now : Int) : Prop :=
  ∃ node clause, (s.locks nodes).head? = some (node, clause) ∧ s.Unwaived clause node now

instance (s : Store) (nodes : List String) (now : Int) : Decidable (s.FirstLockStands nodes now) :=
  decidable_of_iff (∃ lock ∈ (s.locks nodes).head?, s.Unwaived lock.2 lock.1 now) <| by
    simp only [FirstLockStands, mem_def, Prod.exists]

def JudgeCondemns (s : Store) (nodes : List String) (task : Option Task) (judge : JudgeAnswer) (now : Int) : Prop :=
  ∃ row, task = some row ∧
    (∀ node clause, (node, clause) ∈ s.uncovered nodes (some (goalSlug row.goalId)) (s.goalCoverageOf row.id) →
      ¬ s.Unwaived clause node now) ∧
    ∃ goal, s.goals.find? row.goalId = some goal ∧ goal.kind.isNormative = true ∧ ∃ why, judge = some ("violation", why)

/-- A lock keeps its blocking power whatever the clause declares. -/
theorem forbid_blocks (id node : String) (now : Int) :
    (resolveWithDeclared (some .block) (forbidChangeControl id) (forbidChangeObservation id node now)).effective =
      .block := rfl

section
variable {s : Store} {governing : GoverningClauses} {now : Int} {findings : List String}

theorem lockStep_first {node : String} {clause : Goal} (first : governing.forbid.head? = some (node, clause)) :
    (s.Unwaived clause node now ∧ ∃ result, s.lockStep governing now findings = .inl result ∧ result.verdict = .violation) ∨
      (¬ s.Unwaived clause node now ∧ ∃ texts, s.lockStep governing now findings = .inr texts) := by
  unfold lockStep
  rw [first]
  dsimp only
  cases waived : s.excusingWaiver clause node now with
  | none => exact .inl ⟨excusingWaiver_eq_none.mp waived, _, rfl, by rw [if_pos (forbid_blocks clause.id node now)]⟩
  | some waiver =>
    refine .inr ⟨?_, _, rfl⟩
    intro unwaived
    rw [excusingWaiver_eq_none.mpr unwaived] at waived
    cases waived

theorem lockStep_locked {nodes : List String} (walk : governing.forbid = s.locks nodes) (locked : s.locks nodes ≠ []) :
    (s.FirstLockStands nodes now ∧ ∃ result, s.lockStep governing now findings = .inl result ∧
      result.verdict = .violation) ∨
    (¬ s.FirstLockStands nodes now ∧ ∃ texts, s.lockStep governing now findings = .inr texts) := by
  obtain ⟨⟨node, clause⟩, rest, locks⟩ := exists_cons_of_ne_nil locked
  have head : (s.locks nodes).head? = some (node, clause) := by
    rw [locks]
    rfl
  have same : s.FirstLockStands nodes now ↔ s.Unwaived clause node now := by
    simp [FirstLockStands, head]
  rw [same]
  exact lockStep_first (walk ▸ head)

theorem driftEntry_unwaived (s : Store) (now : Int) (entries : List (String × Goal)) (seen : List String × List String) :
    (entries.foldl (s.driftEntry now) seen).2 = [] ↔
      seen.2 = [] ∧ ∀ node clause, (node, clause) ∈ entries → ¬ s.Unwaived clause node now := by
  induction entries generalizing seen with
  | nil => simp
  | cons entry rest ih =>
    obtain ⟨node, clause⟩ := entry
    rw [foldl_cons, ih]
    unfold driftEntry
    dsimp only
    cases waived : s.excusingWaiver clause node now with
    | none =>
      have stands := excusingWaiver_eq_none.mp waived
      constructor
      · rintro ⟨empty, _⟩
        simp at empty
      · rintro ⟨_, all⟩
        exact absurd stands (all node clause mem_cons_self)
    | some waiver =>
      have reached : ¬ s.Unwaived clause node now := by
        intro stands
        rw [excusingWaiver_eq_none.mpr stands] at waived
        cases waived
      constructor
      · rintro ⟨empty, all⟩
        refine ⟨empty, fun other goal member => ?_⟩
        rcases mem_cons.mp member with same | later
        · cases same
          exact reached
        · exact all other goal later
      · rintro ⟨empty, all⟩
        exact ⟨empty, fun other goal member => all other goal (mem_cons_of_mem _ member)⟩

theorem driftStep_cases (s : Store) (governing : GoverningClauses) (now : Int) (findings : List String) :
    (∃ result, s.driftStep governing now findings = .inl result ∧ result.verdict = .drift ∧
      ¬ ∀ node clause, (node, clause) ∈ governing.other → ¬ s.Unwaived clause node now) ∨
    ∃ texts, s.driftStep governing now findings = .inr texts ∧
      ∀ node clause, (node, clause) ∈ governing.other → ¬ s.Unwaived clause node now := by
  have none_left := s.driftEntry_unwaived now governing.other (findings, [])
  unfold driftStep
  generalize governing.other.foldl (s.driftEntry now) (findings, []) = walked at none_left
  obtain ⟨texts, unwaived⟩ := walked
  dsimp only
  by_cases empty : unwaived = []
  · refine .inr ⟨texts, ?_, (none_left.mp empty).2⟩
    rw [if_pos (isEmpty_iff.mpr empty)]
  · refine .inl ⟨_, if_neg fun none => empty (isEmpty_iff.mp none), rfl, fun all => ?_⟩
    exact empty (none_left.mpr ⟨rfl, all⟩)

variable {judge : JudgeAnswer}

theorem judgeStep_violation {goal : Goal} {result : ConformanceResult} :
    judgeStep goal judge findings = .inl result → (result.verdict = .violation ↔
      goal.kind.isNormative = true ∧ ∃ why, judge = some ("violation", why)) := by
  intro decided
  obtain ⟨normative, decided⟩ := then_of_ne decided nofun
  split at decided
  next verdict why =>
    obtain ⟨_, decided⟩ := else_of_ne decided nofun
    split at decided
    next condemned =>
      cases decided
      simp [normative, condemned]
    next other =>
      cases decided
      simp [normative, other]
  next =>
    cases decided
    simp

theorem judgeStep_passes {goal : Goal} {texts : List String}
    (passed : judgeStep goal judge findings = .inr texts) :
    ¬ (goal.kind.isNormative = true ∧ ∃ why, judge = some ("violation", why)) := by
  rintro ⟨normative, why, rfl⟩
  simp [judgeStep, normative] at passed

theorem taskStep_violation {row : Task} :
    (∃ result, s.taskStep governing row judge findings = .ok result ∧ result.verdict = .violation) ↔
      ∃ goal, s.goals.find? row.goalId = some goal ∧ goal.kind.isNormative = true ∧ ∃ why, judge = some ("violation", why) := by
  unfold taskStep
  dsimp only
  cases found : s.goals.find? row.goalId with
  | none => simp [throw_eq]
  | some goal =>
    simp only [Option.some.injEq, exists_eq_left']
    cases judged : judgeStep goal.toGoal judge (if (!governing.inScope.isEmpty) = true then findings
        else findings ++ ["evidence does not touch code bound to the task goal"]) with
    | inl decided =>
      rw [← judgeStep_violation judged]
      simp [pure_eq]
    | inr texts =>
      have passed := judgeStep_passes judged
      refine ⟨?_, fun condemned => absurd condemned passed⟩
      rintro ⟨result, returned, violation⟩
      dsimp only at returned
      split at returned
      · cases returned
        cases violation
      · split at returned <;> (cases returned; cases violation)

end

/-- A lock that no waiver reaches is enforced exactly when the check gets as far
as locks and the first lock it meets stands, or when the judge condemns the
task's goal regardless. -/
theorem forbid_change_enforced (s : Store) (evidence : ConformanceEvidence) (task : Option Task) (judge : JudgeAnswer)
    (lockNow driftNow : Int) (locked : s.Locked evidence.changedNodeIds lockNow) :
    (∃ result, s.evaluateBaseConformance evidence task judge lockNow driftNow = .ok result ∧
        result.verdict = .violation) ↔
      evidence.provenance ≠ [] ∧ (s.FirstLockStands evidence.changedNodeIds lockNow ∨
        s.JudgeCondemns evidence.changedNodeIds task judge driftNow) := by
  obtain ⟨_, _, member, _⟩ := locked.mem_locks
  obtain ⟨node, inside, _⟩ := locked
  have some_node : evidence.changedNodeIds.isEmpty = false := by
    rw [isEmpty_eq_false_iff_exists_mem]
    exact ⟨node, inside⟩
  unfold evaluateBaseConformance
  rw [some_node, Bool.false_and, Bool.false_or]
  by_cases bare : evidence.provenance = []
  · simp [bare]
  have proved : ¬ evidence.provenance.isEmpty = true := by simpa using bare
  rw [if_neg proved]
  dsimp only
  generalize governed : s.resolveGoverningClausesCovering _ _ _ = governing
  have walk : governing.forbid = s.locks evidence.changedNodeIds := governed ▸ (s.resolveGoverning_eq ..).1
  rcases lockStep_locked walk (ne_nil_of_mem member) with ⟨stands, result, decided, violation⟩ | ⟨waived, texts, passed⟩
  · rw [decided]
    exact ⟨fun _ => ⟨bare, .inl stands⟩, fun _ => ⟨result, rfl, violation⟩⟩
  rw [passed]
  dsimp only
  rcases s.driftStep_cases governing driftNow texts with ⟨drifted, decided, drift, left⟩ | ⟨more, passed, all⟩
  · rw [decided]
    rw [← governed, (s.resolveGoverning_eq ..).2] at left
    constructor
    · rintro ⟨result, returned, violation⟩
      cases returned
      cases drift.symm.trans violation
    · rintro ⟨_, stands | ⟨_, rfl, covered, _⟩⟩
      · exact absurd stands waived
      · exact absurd covered left
  rw [passed]
  rw [← governed, (s.resolveGoverning_eq ..).2] at all
  cases task with
  | none =>
    constructor
    · rintro ⟨result, returned, violation⟩
      cases returned
      cases violation
    · rintro ⟨_, stands | ⟨_, same, _⟩⟩
      · exact absurd stands waived
      · cases same
  | some row =>
    dsimp only
    rw [taskStep_violation]
    constructor
    · intro condemned
      exact ⟨bare, .inr ⟨row, rfl, all, condemned⟩⟩
    · rintro ⟨_, stands | ⟨_, same, _, condemned⟩⟩
      · exact absurd stands waived
      · cases same
        exact condemned

end Store

/-- Two locks adopted and a waiver for one of them, newest first. -/
def lockedTwice : List (Store → Op) :=
  [fun _ => .grantWaiver "waiver:1" ⟨"goal:keys@constitution:v1", "artifact:keys", "rotation", "ann", 100, none⟩ 8,
    fun s => .link s "goal:seals@constitution:v1" ["artifact:seals"] .forbidChange,
    fun s => .link s "goal:keys@constitution:v1" ["artifact:keys"] .forbidChange,
    fun _ => .activate "constitution:v1" "ann" 5,
    fun s => .draftClause s "constitution:v1" .constraint "Seals" "Seals stay" 4,
    fun s => .contract s "goal:keys@constitution:v1" "keys" "a rotation log" none true none,
    fun s => .draftClause s "constitution:v1" .constraint "Keys" "Keys stay" 2,
    fun s => .proposeConstitution s none 1]

def changing (nodes : List String) : ConformanceEvidence where
  schemaVersion := 1
  taskId := none
  agentId := "ann"
  startedAt := 9
  endedAt := 10
  changedNodeIds := nodes
  failedNodeIds := []
  executionIds := ["execution:1"]
  successfulExecutionIds := []
  commitIds := []
  ledgerActIds := []
  summary := ""
  provenance := ⟨"agent:ann", "execution:1", "observed"⟩ :: nodes.map fun node => ⟨"execution:1", node, "modified"⟩

theorem lockedTwice_reads : let s := ((localStore Env.plain).replay lockedTwice).2
    s.Locked ["artifact:seals", "artifact:keys"] 10 ∧ s.FirstLockStands ["artifact:seals", "artifact:keys"] 10 ∧
    s.Locked ["artifact:keys", "artifact:seals"] 10 ∧
    (s.evaluateBaseConformance (changing ["artifact:seals", "artifact:keys"]) none none 10 10).isOk ∧
    (s.evaluateBaseConformance (changing ["artifact:keys", "artifact:seals"]) none none 10 10).toOption.map ConformanceResult.verdict =
      some .aligned := by
  decide +kernel

/-- The unwaived lock is enforced when the walk meets it first. -/
theorem forbid_change_enforced_seals :
    ∃ result, ((localStore Env.plain).replay lockedTwice).2.evaluateBaseConformance
        (changing ["artifact:seals", "artifact:keys"]) none none 10 10 = .ok result ∧ result.verdict = .violation := by
  obtain ⟨locked, first, _⟩ := lockedTwice_reads
  exact (Store.forbid_change_enforced _ (changing ["artifact:seals", "artifact:keys"]) none none 10 10 locked).mpr
    ⟨by decide, .inl first⟩

/-- Met second, behind the waived one, it is not. -/
theorem waived_lock_hides_another : ¬ ∀ (s : Store) evidence task judge lockNow driftNow,
    s.Locked evidence.changedNodeIds lockNow →
      ∃ result, s.evaluateBaseConformance evidence task judge lockNow driftNow = .ok result ∧
        result.verdict = .violation := by
  intro enforced
  obtain ⟨_, _, locked, _, aligned⟩ := lockedTwice_reads
  obtain ⟨result, returned, violation⟩ := enforced _ (changing ["artifact:keys", "artifact:seals"]) none none 10 10 locked
  rw [returned] at aligned
  have same : result.verdict = .aligned := Option.some.inj aligned
  cases violation.symm.trans same

end MindLeak.Lodestar
