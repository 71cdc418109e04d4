import MindLeak.Lodestar.Certification
import MindLeak.Proofs.Verdicts

/-! Advice against the gate: both walk the same bindings, so what the gate would
stop at is what advice warns of, on any order of the same nodes. -/

namespace MindLeak.Lodestar

open List

namespace Store

variable {s : Store}

section
variable {nodes others : List String} {node : String} {clause : Goal}

theorem mem_locks : (node, clause) ∈ s.locks nodes ↔
    node ∈ nodes ∧ ∃ binding ∈ s.activeBindingsForNode node, binding.mode = .forbidChange ∧ binding.goal = clause := by
  simp only [locks, mem_flatMap, mem_map, mem_filter, decide_eq_true_eq, Prod.mk.injEq]
  constructor
  · rintro ⟨_, inside, binding, ⟨bound, mode⟩, rfl, same⟩
    exact ⟨inside, binding, bound, mode, same⟩
  · rintro ⟨inside, binding, bound, mode, same⟩
    exact ⟨node, inside, binding, ⟨bound, mode⟩, rfl, same⟩

theorem mem_uncovered {taskSlug : Option String} {covered : List String} :
    (node, clause) ∈ s.uncovered nodes taskSlug covered ↔
      node ∈ nodes ∧ isDocumentationNode node = false ∧ ∃ binding ∈ s.activeBindingsForNode node,
        binding.mode ≠ .forbidChange ∧ taskSlug ≠ some binding.goal.slug ∧
        (covered.any fun c => decide (goalSlug c = binding.goal.slug)) = false ∧ binding.goal = clause := by
  simp only [uncovered, mem_flatMap, mem_map, mem_filter, Bool.not_eq_true', Bool.or_eq_false_iff,
    decide_eq_false_iff_not, Prod.mk.injEq]
  constructor
  · rintro ⟨_, inside, binding, ⟨bound, ⟨⟨mode, own⟩, served⟩, prose⟩, rfl, same⟩
    exact ⟨inside, prose, binding, bound, mode, own, served, same⟩
  · rintro ⟨inside, prose, binding, bound, mode, own, served, same⟩
    exact ⟨node, inside, binding, ⟨bound, ⟨⟨mode, own⟩, served⟩, prose⟩, rfl, same⟩

/-- Neither list asks how often or in what order a node is named. -/
theorem locks_nonempty (same : ∀ node, node ∈ nodes → node ∈ others) (some : s.locks nodes ≠ []) : s.locks others ≠ [] := by
  obtain ⟨⟨node, clause⟩, member⟩ := exists_mem_of_ne_nil _ some
  obtain ⟨inside, lock⟩ := mem_locks.mp member
  exact ne_nil_of_mem (mem_locks.mpr ⟨same node inside, lock⟩)

theorem uncovered_nonempty {taskSlug : Option String} {covered : List String}
    (same : ∀ node, node ∈ nodes → node ∈ others) (some : s.uncovered nodes taskSlug covered ≠ []) :
    s.uncovered others taskSlug covered ≠ [] := by
  obtain ⟨⟨node, clause⟩, member⟩ := exists_mem_of_ne_nil _ some
  obtain ⟨inside, governed⟩ := mem_uncovered.mp member
  exact ne_nil_of_mem (mem_uncovered.mpr ⟨same node inside, governed⟩)

theorem goalsByStatus_of_bound {binding : ArtifactBinding} (bound : binding ∈ s.activeBindingsForNode node) :
    (s.goalsByStatus .active).isEmpty = false := by
  obtain ⟨row, _, resolved⟩ := mem_filterMap.mp bound
  obtain ⟨_, resolved⟩ := then_of_ne resolved nofun
  split at resolved
  on_goal 2 => cases resolved
  rename_i goal found
  obtain ⟨found, active⟩ := Option.filter_eq_some_iff.mp found
  have member : goal.toGoal ∈ s.goalsByStatus .active := by
    refine (perm_insertionSort _ _).mem_iff.mpr (mem_map.mpr ⟨goal, ?_, rfl⟩)
    exact mem_filter.mpr ⟨(Table.mem_of_find? found).1, active⟩
  exact isEmpty_eq_false_iff_exists_mem.mpr ⟨_, member⟩

end

variable {task : Option Task}

section
variable {evidence : ConformanceEvidence} {judge : JudgeAnswer} {lockNow driftNow : Int} {result : ConformanceResult}

def declaredFor (s : Store) (task : Option Task) : List String :=
  match task with
  | some task => s.goalCoverageOf task.id
  | none => []

def StoppedByLock (s : Store) (evidence : ConformanceEvidence) (task : Option Task) (now : Int)
    (result : ConformanceResult) : Prop :=
  s.lockStep (s.resolveGoverningClausesCovering evidence.changedNodeIds (task.map Task.goalId) (s.declaredFor task))
    now [] = .inl result ∧ result.verdict = .violation

variable {governing : GoverningClauses}

theorem lockStep_nil (now : Int) (findings : List String) (unlocked : governing.forbid = []) :
    s.lockStep governing now findings = .inr findings := by
  simp [lockStep, unlocked]

theorem StoppedByLock.locks {now : Int} (stopped : s.StoppedByLock evidence task now result) :
    s.locks evidence.changedNodeIds ≠ [] := by
  intro unlocked
  have walk := (s.resolveGoverning_eq evidence.changedNodeIds (task.map Task.goalId) (s.declaredFor task)).1
  have passed := stopped.1
  rw [lockStep_nil now [] (walk.trans unlocked)] at passed
  cases passed

variable {findings : List String}

theorem lockStep_not_drift {now : Int}
    (decided : s.lockStep governing now findings = .inl result) : result.verdict ≠ .drift := by
  cases first : governing.forbid.head? with
  | none => simp [lockStep, first] at decided
  | some lock =>
    rcases lockStep_first (s := s) first with
      ⟨_, stopped, ended, violation⟩ | ⟨_, texts, passed⟩
    · cases decided.symm.trans ended
      simp [violation]
    · cases decided.symm.trans passed

theorem judgeStep_not_drift {goal : Goal}
    (decided : judgeStep goal judge findings = .inl result) : result.verdict ≠ .drift := by
  obtain ⟨_, decided⟩ := then_of_ne decided nofun
  split at decided
  next =>
    split at decided
    · cases decided
    · split at decided <;> (cases decided; simp)
  next =>
    cases decided
    simp

theorem taskStep_not_drift {row : Task}
    (returned : s.taskStep governing row judge findings = .ok result) : result.verdict ≠ .drift := by
  unfold taskStep at returned
  dsimp only at returned
  split at returned
  · cases returned
  split at returned
  next decided judged =>
    cases returned
    exact judgeStep_not_drift judged
  next =>
    split at returned
    · cases returned
      simp
    · split at returned <;> (cases returned; simp)

theorem driftStep_nil (now : Int) (findings : List String) (covered : governing.other = []) :
    s.driftStep governing now findings = .inr findings := by
  simp [driftStep, covered]

theorem evaluateBaseConformance_drift
    (returned : s.evaluateBaseConformance evidence task judge lockNow driftNow = .ok result)
    (drift : result.verdict = .drift) :
    s.uncovered evidence.changedNodeIds ((task.map Task.goalId).map goalSlug) (s.declaredFor task) ≠ [] := by
  intro covered
  have walk := (s.resolveGoverning_eq evidence.changedNodeIds (task.map Task.goalId) (s.declaredFor task)).2
  have passes findings := driftStep_nil (s := s) driftNow findings (walk.trans covered)
  unfold evaluateBaseConformance at returned
  split at returned
  next =>
    cases returned
    cases drift
  next =>
    dsimp only at returned
    split at returned
    next ended =>
      cases returned
      exact lockStep_not_drift ended drift
    next findings _ =>
      cases task with
      | none =>
        dsimp only [declaredFor] at passes returned
        rw [passes findings] at returned
        cases returned
        cases drift
      | some row =>
        dsimp only [declaredFor] at passes returned
        rw [passes findings] at returned
        exact taskStep_not_drift returned drift

end

section
variable {taskId : Option String}

theorem disposition_of_locks {resolved : GoverningClauses} (locked : resolved.forbid ≠ []) (workflow : List (String × Goal)) :
    (resolved.disposition workflow).1 = .block := by
  simp [GoverningClauses.disposition, locked]

theorem disposition_of_uncovered {resolved : GoverningClauses} (foreign : resolved.other ≠ [])
    (workflow : List (String × Goal)) :
    (resolved.disposition workflow).1 = .review ∨ (resolved.disposition workflow).1 = .block := by
  by_cases locked : resolved.forbid = []
  · exact .inl (by simp [GoverningClauses.disposition, locked, foreign])
  · exact .inr (disposition_of_locks locked workflow)

/-- Advice answers whenever the task it is asked about exists. -/
theorem advise_ok (nodeIds workflow : List String) (active : List Knowledge) (named : s.requestedTask taskId = .ok task) :
    ∃ advice, s.advise taskId nodeIds workflow active = .ok advice ∧
      ((s.goalsByStatus .active).isEmpty = false → advice.disposition =
        ((s.resolveGoverningClausesCovering nodeIds (task.map Task.goalId) (s.declaredFor task)).disposition
          (s.resolveWorkflowClauses workflow)).1) := by
  unfold advise
  rw [named]
  cases policy : (s.goalsByStatus .active).isEmpty with
  | true => exact ⟨_, rfl, fun adopted => by cases adopted⟩
  | false => exact ⟨_, rfl, fun _ => rfl⟩

end
end Store

/-- Whatever the gate would stop a change for, advice had warned of: where it
said go ahead the gate neither drifts nor ends at a lock. -/
theorem advice_foresees_gate {s : Store} {taskId : Option String} {task : Option Task} {evidence : ConformanceEvidence}
    {judge : JudgeAnswer} {lockNow driftNow : Int} {result : ConformanceResult} (nodeIds workflow : List String)
    (active : List Knowledge) (named : s.requestedTask taskId = .ok task)
    (same : ∀ node, node ∈ evidence.changedNodeIds ↔ node ∈ nodeIds)
    (returned : s.evaluateBaseConformance evidence task judge lockNow driftNow = .ok result) :
    ∃ advice, s.advise taskId nodeIds workflow active = .ok advice ∧
      (advice.disposition = .advise → result.verdict ≠ .drift ∧ ¬ s.StoppedByLock evidence task lockNow result) ∧
      (result.verdict = .drift ∨ s.StoppedByLock evidence task lockNow result →
        advice.disposition = .review ∨ advice.disposition = .block) := by
  obtain ⟨advice, given, disposed⟩ := Store.advise_ok nodeIds workflow active named
  have walk := s.resolveGoverning_eq nodeIds (task.map Task.goalId) (s.declaredFor task)
  have warned : result.verdict = .drift ∨ s.StoppedByLock evidence task lockNow result →
      advice.disposition = .review ∨ advice.disposition = .block := by
    intro stopped
    rcases stopped with drift | locked
    · have foreign := Store.uncovered_nonempty (fun node => (same node).mp)
        (Store.evaluateBaseConformance_drift returned drift)
      obtain ⟨⟨node, clause⟩, member⟩ := exists_mem_of_ne_nil _ foreign
      obtain ⟨_, _, binding, bound, _⟩ := Store.mem_uncovered.mp member
      rw [disposed (Store.goalsByStatus_of_bound bound)]
      exact Store.disposition_of_uncovered (walk.2 ▸ foreign) _
    · have locks := Store.locks_nonempty (fun node => (same node).mp) locked.locks
      obtain ⟨⟨node, clause⟩, member⟩ := exists_mem_of_ne_nil _ locks
      obtain ⟨_, binding, bound, _⟩ := Store.mem_locks.mp member
      rw [disposed (Store.goalsByStatus_of_bound bound)]
      exact .inr (Store.disposition_of_locks (walk.1 ▸ locks) _)
  refine ⟨advice, given, fun clear => ?_, warned⟩
  constructor
  · intro drift
    rcases warned (.inl drift) with review | block
    · cases clear.symm.trans review
    · cases clear.symm.trans block
  · intro locked
    rcases warned (.inr locked) with review | block
    · cases clear.symm.trans review
    · cases clear.symm.trans block

/-- Two locks, asked about in one order and changed in the other. -/
theorem advice_foresees_gate_lockedTwice :
    ∃ result advice, ((localStore Env.plain).replay lockedTwice).2.evaluateBaseConformance
        (changing ["artifact:seals", "artifact:keys"]) none none 10 10 = .ok result ∧
      ((localStore Env.plain).replay lockedTwice).2.advise none ["artifact:keys", "artifact:seals"] ["git.push"] [] =
        .ok advice ∧
      (result.verdict = .drift ∨ ((localStore Env.plain).replay lockedTwice).2.StoppedByLock
          (changing ["artifact:seals", "artifact:keys"]) none 10 result →
        advice.disposition = .review ∨ advice.disposition = .block) := by
  cases returned : ((localStore Env.plain).replay lockedTwice).2.evaluateBaseConformance
      (changing ["artifact:seals", "artifact:keys"]) none none 10 10 with
  | error _ =>
    obtain ⟨_, _, _, answered, _⟩ := lockedTwice_reads
    rw [returned] at answered
    cases answered
  | ok result =>
    obtain ⟨advice, given, _, warned⟩ := advice_foresees_gate ["artifact:keys", "artifact:seals"] ["git.push"] []
      (rfl : Store.requestedTask _ none = .ok none) (by simp [changing, or_comm]) returned
    exact ⟨result, advice, rfl, given, warned⟩

end MindLeak.Lodestar
