import MindLeak.Proofs.Advice
import MindLeak.Proofs.StoredNames

/-! Whose goal a binding serves. The walk compares the slug a task's goal id
spells with the slug a bound goal has stored. A goal goes by several ids, its own
and those of its versions and successors, and the comparison tells goals apart
only as far as ids spell what is stored. -/

namespace MindLeak.Lodestar

open List

namespace Store

/-- The second id is the first one's named successor, or the first at a version. -/
def Renamed (s : Store) (old new : String) : Prop :=
  (∃ row, s.goals.find? old = some row ∧ row.supersededBy = some new) ∨ ∃ version, new = old ++ "@" ++ version

def SameGoal (s : Store) : String → String → Prop := Relation.EqvGen s.Renamed

def namesOf (s : Store) (task : Task) : List String := task.goalId :: s.goalCoverageOf task.id

def walk (s : Store) (task : Task) (nodes : List String) : GoverningClauses :=
  s.resolveGoverningClausesCovering nodes (some task.goalId) (s.goalCoverageOf task.id)

structure ScopeExact (s : Store) (task : Task) (nodes : List String) : Prop where
  own : ∀ node ∈ nodes, ∀ binding ∈ s.activeBindingsForNode node, s.SameGoal task.goalId binding.goal.id →
    (node, binding.goal) ∉ (s.walk task nodes).other ∧
      (binding.mode = .governed → (node, binding.goal) ∈ (s.walk task nodes).inScope)
  others : ∀ entry ∈ (s.walk task nodes).inScope, ∃ named ∈ s.namesOf task, s.SameGoal named entry.2.id

/-- Among the goals bound there, a slug is spelled exactly by the goal's ids. -/
structure SlugsTell (s : Store) (task : Task) (nodes : List String) : Prop where
  own : ∀ node ∈ nodes, ∀ binding ∈ s.activeBindingsForNode node, binding.mode = .governed →
    s.SameGoal task.goalId binding.goal.id → ∃ named ∈ s.namesOf task, goalSlug named = binding.goal.slug
  others : ∀ node ∈ nodes, ∀ binding ∈ s.activeBindingsForNode node, binding.mode = .governed →
    ∀ named ∈ s.namesOf task, goalSlug named = binding.goal.slug → ∃ named ∈ s.namesOf task, s.SameGoal named binding.goal.id

variable {s : Store} {task : Task}

section
variable {nodes : List String} {node : String} {goal : Goal}

theorem governed_iff {mode : ArtifactBindingMode} : mode ≠ .forbidChange ↔ mode = .governed := by cases mode <;> simp

theorem walk_inScope (s : Store) (task : Task) (nodes : List String) : (s.walk task nodes).inScope =
    nodes.flatMap fun node => ((s.activeBindingsForNode node).filter fun binding =>
      !decide (binding.mode = .forbidChange) && (decide (some (goalSlug task.goalId) = some binding.goal.slug) ||
        (s.goalCoverageOf task.id).any fun c => decide (goalSlug c = binding.goal.slug))).map
          fun binding => (node, binding.goal) := by
  apply GoverningClauses.foldl_classify s.activeBindingsForNode GoverningClauses.inScope
  intro node resolved binding
  unfold GoverningClauses.classify
  by_cases lock : binding.mode = .forbidChange
  · simp [lock]
  by_cases own : some (goalSlug task.goalId) = some binding.goal.slug
  · simp [lock, own]
  · cases served : (s.goalCoverageOf task.id).any fun c => decide (goalSlug c = binding.goal.slug) with
    | true => simp [lock, own]
    | false => cases prose : isDocumentationNode node <;> simp [lock, own]

theorem mem_inScope : (node, goal) ∈ (s.walk task nodes).inScope ↔ node ∈ nodes ∧
    ∃ binding ∈ s.activeBindingsForNode node, binding.mode = .governed ∧
      (∃ named ∈ s.namesOf task, goalSlug named = goal.slug) ∧ binding.goal = goal := by
  rw [walk_inScope]
  simp only [mem_flatMap, mem_map, mem_filter, Bool.and_eq_true, Bool.or_eq_true, Bool.not_eq_true',
    decide_eq_false_iff_not, decide_eq_true_eq, any_eq_true, Option.some.injEq, Prod.mk.injEq, governed_iff,
    namesOf, exists_mem_cons_iff]
  constructor
  · intro filed
    obtain ⟨_, inside, binding, ⟨bound, mode, spelled⟩, rfl, rfl⟩ := filed
    exact ⟨inside, binding, bound, mode, spelled, rfl⟩
  · intro walked
    obtain ⟨inside, binding, bound, mode, spelled, rfl⟩ := walked
    exact ⟨node, inside, binding, ⟨bound, mode, spelled⟩, rfl, rfl⟩

theorem mem_drift (drift : (node, goal) ∈ (s.walk task nodes).other) :
    ∃ binding ∈ s.activeBindingsForNode node, binding.mode = .governed ∧ binding.goal = goal ∧
      ∀ named ∈ s.namesOf task, goalSlug named ≠ goal.slug := by
  unfold walk at drift
  rw [(s.resolveGoverning_eq nodes (some task.goalId) (s.goalCoverageOf task.id)).2] at drift
  obtain ⟨_, _, binding, bound, mode, foreign, unserved, rfl⟩ := mem_uncovered.mp drift
  refine ⟨binding, bound, governed_iff.mp mode, rfl, ?_⟩
  intro named listed spelled
  rcases mem_cons.mp listed with rfl | declared
  · exact foreign (congrArg some spelled)
  · rw [any_eq_false] at unserved
    exact unserved named declared (decide_eq_true spelled)

theorem scopeExact_iff (s : Store) (task : Task) (nodes : List String) :
    s.ScopeExact task nodes ↔ s.SlugsTell task nodes := by
  constructor
  · intro exact_
    refine ⟨?_, ?_⟩
    · intro node inside binding bound mode own
      obtain ⟨_, _, _, _, spelled, _⟩ := mem_inScope.mp ((exact_.own node inside binding bound own).2 mode)
      exact spelled
    · intro node inside binding bound mode named listed spelled
      have filed := mem_inScope.mpr ⟨inside, binding, bound, mode, ⟨named, listed, spelled⟩, rfl⟩
      exact exact_.others (node, binding.goal) filed
  · intro tell
    refine ⟨?_, ?_⟩
    · intro node inside binding bound own
      refine ⟨?_, ?_⟩
      · intro drift
        obtain ⟨governed, bound', mode, same, unspelled⟩ := mem_drift drift
        obtain ⟨named, listed, spelled⟩ := tell.own node inside governed bound' mode (same ▸ own)
        exact unspelled named listed (same ▸ spelled)
      · intro mode
        exact mem_inScope.mpr ⟨inside, binding, bound, mode, tell.own node inside binding bound mode own, rfl⟩
    · intro ⟨node, goal⟩ filed
      obtain ⟨inside, binding, bound, mode, ⟨named, listed, spelled⟩, rfl⟩ := mem_inScope.mp filed
      exact tell.others node inside binding bound mode named listed spelled

end

section

theorem mem_activeBindings {node : String} {binding : ArtifactBinding} (bound : binding ∈ s.activeBindingsForNode node) :
    ∃ row ∈ s.goals.rows, binding.goal = row.toGoal := by
  obtain ⟨linked, _, read⟩ := mem_filterMap.mp bound
  obtain ⟨_, read⟩ := then_of_ne read nofun
  split at read
  on_goal 2 => cases read
  rename_i row found
  cases read
  exact ⟨row, (Table.mem_of_find? (Option.filter_eq_some_iff.mp found).1).1, rfl⟩

theorem Spelled.sameGoal (spelled : s.Spelled) {first second : String} (same : s.SameGoal first second) :
    goalSlug first = goalSlug second := by
  induction same with
  | refl => rfl
  | symm _ _ _ ih => exact ih.symm
  | trans _ _ _ _ _ left right => exact left.trans right
  | rel old new renamed =>
    rcases renamed with ⟨row, found, heir⟩ | ⟨version, rfl⟩
    · obtain ⟨stored, id⟩ := Table.mem_of_find? found
      obtain ⟨next, there, id', shared⟩ := spelled.heirs row stored new heir
      have first := (spelled.ids row stored).spells (spelled.slugs row stored)
      have second := (spelled.ids next there).spells (spelled.slugs next there)
      rw [← id, ← id', second, shared]
      exact first
    · exact (goalSlug_version old version).symm

theorem sameGoal_of_plain (s : Store) {slug id : String} (plain : Plain slug id) : s.SameGoal ("goal:" ++ slug) id := by
  rcases plain with rfl | ⟨version, rfl⟩
  · exact .refl _
  · exact .rel _ _ (.inr ⟨version, rfl⟩)

theorem Spelled.one_goal (spelled : s.Spelled) {first second : GoalRow} (stored : first ∈ s.goals.rows)
    (stored' : second ∈ s.goals.rows) (shared : first.slug = second.slug) : s.SameGoal first.id second.id := by
  have left := s.sameGoal_of_plain (spelled.ids first stored)
  have right := s.sameGoal_of_plain (spelled.ids second stored')
  rw [shared] at left
  exact .trans _ _ _ (.symm _ _ left) right

theorem NamesStored.named (names : s.NamesStored) (member : task ∈ s.tasks.rows) {named : String}
    (listed : named ∈ s.namesOf task) : s.goalExists named = true := by
  rcases mem_cons.mp listed with rfl | declared
  · exact names.tasks task member
  · have listed := (perm_insertionSort _ _).mem_iff.mp declared
    obtain ⟨row, found, rfl⟩ := mem_map.mp listed
    exact names.coverage row (mem_filter.mp found).1

theorem Spelled.slugsTell (spelled : s.Spelled) (names : s.NamesStored) (member : task ∈ s.tasks.rows)
    (nodes : List String) : s.SlugsTell task nodes := by
  refine ⟨?_, ?_⟩
  · intro node _ binding bound _ own
    obtain ⟨row, stored, same⟩ := mem_activeBindings bound
    rw [same] at own ⊢
    refine ⟨task.goalId, mem_cons_self, ?_⟩
    rw [spelled.sameGoal own]
    exact (spelled.ids row stored).spells (spelled.slugs row stored)
  · intro node _ binding bound _ named listed spells
    obtain ⟨row, stored, same⟩ := mem_activeBindings bound
    obtain ⟨own, found⟩ := Option.isSome_iff_exists.mp (names.named member listed)
    obtain ⟨known, id⟩ := Table.mem_of_find? found
    have slug := (spelled.ids own known).spells (spelled.slugs own known)
    refine ⟨named, listed, ?_⟩
    have id : own.id = named := id
    rw [same] at spells ⊢
    rw [← id]
    refine spelled.one_goal known stored ?_
    rw [← slug, id]
    exact spells

end
end Store

section
variable {env : Env} {history : List (Entry Store Op)} {state : Store}

/-- While no id is minted but `goal:<slug>` and `goal:<slug>@<version>`, the walk
tells a task's own goals exactly, in every state a run reaches. -/
theorem scope_is_exact (hex : env.Hexadecimal) (run : (localStore env).Run history state)
    (plainly : ∀ entry ∈ history, entry.before.MintsPlainly env entry.op) :
    ∀ task ∈ state.tasks.rows, ∀ nodes, state.ScopeExact task nodes := by
  intro task member nodes
  obtain ⟨visited, names⟩ := spelled_of_run hex run plainly
  rw [Store.scopeExact_iff]
  exact (visited state run.current_visited).slugsTell names member nodes

end

/-- Stand-ins with hashes in hexadecimal: the digits SHA-256 gives the texts
that the runs below hash. -/
def Env.digits : Env :=
  { Env.plain with
    shortHash text :=
      if text = "goal:ship@constitution:v1|first|3" then "c49e96a1cc94"
      else if text = "constitution:v1|constitution:v2|6" then "823ac4cc4ef6"
      else if text = "goal:ship-v2|first|3" then "ec9e8af96752"
      else "000000000000" }

theorem digits_hexadecimal : Env.digits.Hexadecimal := by
  intro text
  simp only [Env.digits]
  repeat' split
  all_goals decide

/-- After an amendment, one node bound to the clause the task was carried to and
to another goal. -/
def amendedAndBound : List (Store → Op) :=
  [fun s => Op.link s "goal:plan" ["artifact:src/ship.rs"] .governed,
    fun s => Op.link s "goal:ship@constitution:v2" ["artifact:src/ship.rs"] .governed,
    fun _ => Op.defineGoal .objective "Plan" "It is planned" none 7] ++ amendedOnce

theorem scope_is_exact_amended :
    (∀ task ∈ ((localStore Env.digits).replay amendedAndBound).2.tasks.rows, ∀ nodes,
      ((localStore Env.digits).replay amendedAndBound).2.ScopeExact task nodes) ∧
    (((localStore Env.digits).replay amendedAndBound).2.tasks.rows.map fun task =>
      let walk := ((localStore Env.digits).replay amendedAndBound).2.walk task ["artifact:src/ship.rs"]
      (walk.inScope.map fun entry => entry.2.id, walk.other.map fun entry => entry.2.id)) =
        [(["goal:ship@constitution:v2"], ["goal:plan"])] := by
  have ready : Ready amendedAndBound := by simp +contextual [amendedAndBound, amendedOnce_ready, Op.enabled, Op.reads]
  refine ⟨scope_is_exact digits_hexadecimal ready.run ?_, by decide +kernel⟩
  have untaken : ((localStore Env.digits).replay amendedOnce).2.goalExists
      ("goal:" ++ slugify Env.digits "Plan") = false := by decide +kernel
  intro entry member
  simp only [amendedAndBound, cons_append, nil_append, Machine.replay, mem_cons] at member
  rcases member with rfl | rfl | rfl | member
  · exact .inr trivial
  · exact .inr trivial
  · exact .inr untaken
  · simp only [amendedOnce, redrafted, Machine.replay, mem_cons, not_mem_nil, or_false] at member
    rcases member with rfl | rfl | rfl | rfl | rfl | rfl | rfl
    all_goals exact .inr trivial

def supersededGoal : List (Store → Op) :=
  [fun s => .supersede s "goal:ship" "It ships weekly" "pace" 1,
    fun _ => .defineGoal .objective "Ship" "It ships" none 0]

def workOnSuccessor : List (Store → Op) :=
  [fun s => Op.link s "goal:ship-v2" ["artifact:src/ship.rs"] .governed,
    fun _ => Op.createTask "goal:ship-v2" "first" "works" none none [] 3] ++
    (fun _ => Op.retire "goal:ship" "goal:ship-v2" "ann" 2) :: supersededGoal

/-- A change of code bound to the task's own goal is drift. -/
theorem own_goal_drifts : ¬ ∀ env history state, env.Hexadecimal → (localStore env).Run history state →
    ∀ task ∈ state.tasks.rows, ∀ nodes, state.ScopeExact task nodes := by
  intro always
  have past : (localStore Env.digits).Replays supersededGoal :=
    Ready.run (by simp +contextual [supersededGoal, Op.enabled, Op.reads])
  have known : (((localStore Env.digits).replay supersededGoal).2.goals.find? "goal:ship-v2").isSome = true := by
    decide +kernel
  have retired := past.step (.retire "goal:ship" "goal:ship-v2" "ann" 2)
    ⟨by simp [Op.reads], _, past.current_visited, known⟩
  have run : (localStore Env.digits).Replays workOnSuccessor :=
    Machine.Run.replay_append retired (by simp [localStore, Op.enabled, Op.reads])
  have opened : (((localStore Env.digits).replay workOnSuccessor).2.getTask "task:ec9e8af96752").map (fun task =>
      (task.goalId, (((localStore Env.digits).replay workOnSuccessor).2.walk task ["artifact:src/ship.rs"]).inScope)) =
        some ("goal:ship-v2", []) := by
    decide +kernel
  obtain ⟨task, found, walked⟩ := Option.map_eq_some_iff.mp opened
  rw [Prod.mk.injEq] at walked
  have shown : ("goal:ship-v2", .governed) ∈ (((localStore Env.digits).replay workOnSuccessor).2.activeBindingsForNode
      "artifact:src/ship.rs").map fun binding => (binding.goal.id, binding.mode) := by
    exact mem_singleton_self _
  obtain ⟨binding, bound, same⟩ := mem_map.mp shown
  rw [Prod.mk.injEq] at same
  have told := always Env.digits _ _ digits_hexadecimal run task (Store.getTask_mem found) ["artifact:src/ship.rs"]
  have own := told.own "artifact:src/ship.rs" (mem_singleton_self _) binding bound
    (by rw [walked.1, same.1]; exact .refl _)
  have filed := own.2 same.2
  rw [walked.2] at filed
  cases filed

end MindLeak.Lodestar
