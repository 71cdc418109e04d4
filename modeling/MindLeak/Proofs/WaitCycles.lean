import MindLeak.Library.Search
import MindLeak.Lodestar.Waits
import MindLeak.Proofs.Token

/-! The rings of agents that wait on one another are what the board reports, each of them once and whole. -/

namespace MindLeak.Lodestar
open Relation List
variable {waits : List Wait} {agent other : String} {cycle : WaitCycle}

def WaitsOn (waits : List Wait) (agent other : String) : Prop := ∃ wait ∈ waits, wait.waiter = agent ∧ wait.waitedOn = other

def Mutual (waits : List Wait) (agent other : String) : Prop :=
  TransGen (WaitsOn waits) agent other ∧ TransGen (WaitsOn waits) other agent

theorem Mutual.symm (around : Mutual waits agent other) : Mutual waits other agent := ⟨around.2, around.1⟩

theorem Mutual.trans {last : String} (first : Mutual waits agent other) (second : Mutual waits other last) : Mutual waits agent last :=
  ⟨first.1.trans second.1, second.2.trans first.2⟩

theorem Mutual.self (around : Mutual waits agent other) : Mutual waits agent agent := around.trans around.symm

theorem nodup_sortDedup (values : List String) : (sortDedup values).Nodup := by
  have sorted := pairwise_insertionSort (fun left right : String => left ≤ right) values
  unfold sortDedup
  rw [sorted.destutter_eq_dedup]
  exact nodup_dedup _

theorem mem_waitedOnBy : other ∈ waitedOnBy waits agent ↔ WaitsOn waits agent other := by
  rw [waitedOnBy, mem_sortDedup, mem_map]
  constructor
  · rintro ⟨wait, kept, rfl⟩
    obtain ⟨member, waiter⟩ := mem_filter.mp kept
    exact ⟨wait, member, of_decide_eq_true waiter, rfl⟩
  · rintro ⟨wait, member, waiter, rfl⟩
    exact ⟨wait, mem_filter.mpr ⟨member, decide_eq_true waiter⟩, rfl⟩

theorem reach_eq_search (fuel : Nat) (frontier seen : List String) :
    reach waits fuel frontier seen = search (waitedOnBy waits) fuel frontier seen := by
  induction fuel generalizing frontier seen with
  | zero => rfl
  | succ fuel ih =>
    cases frontier with
    | nil => rfl
    | cons agent frontier => exact ih _ _

theorem mem_reachableFrom : other ∈ reachableFrom waits agent ↔ TransGen (WaitsOn waits) agent other := by
  have bounded : ∀ item, ∀ next ∈ waitedOnBy waits item, next ∈ waits.map Wait.waitedOn := by
    intro item next member
    obtain ⟨wait, listed, _, rfl⟩ := mem_waitedOnBy.mp member
    exact mem_map_of_mem listed
  have same : (fun agent other => other ∈ waitedOnBy waits agent) = WaitsOn waits := by
    funext agent other
    exact propext mem_waitedOnBy
  rw [reachableFrom, reach_eq_search, Search.mem_search_iff bounded (fun _ => nodup_sortDedup _) (by rw [length_map]), same]

def mutuals (waits : List Wait) (agent : String) : List String :=
  (sortDedup (reachableFrom waits agent)).filter fun other => decide (agent ∈ reachableFrom waits other)

theorem mem_mutuals : other ∈ mutuals waits agent ↔ Mutual waits agent other := by
  rw [mutuals, mem_filter, mem_sortDedup, decide_eq_true_eq, mem_reachableFrom, mem_reachableFrom]
  rfl

theorem nodup_mutuals (waits : List Wait) (agent : String) : (mutuals waits agent).Nodup := (nodup_sortDedup _).filter _

theorem two_mutuals (around : Mutual waits agent other) (apart : agent ≠ other) : 2 ≤ (mutuals waits agent).length := by
  have pair : [agent, other] ⊆ mutuals waits agent := by
    simp only [cons_subset, nil_subset, and_true, mem_mutuals]
    exact ⟨around.self, around⟩
  exact (subperm_of_subset (by simpa using apart) pair).length_le

structure WaitCycle.Ring (waits : List Wait) (cycle : WaitCycle) : Prop where
  two : 2 ≤ cycle.agents.length
  agentsOnce : cycle.agents.Nodup
  waiting : ∀ agent ∈ cycle.agents, ∀ other ∈ cycle.agents, Mutual waits agent other
  whole : ∀ agent ∈ cycle.agents, ∀ other, Mutual waits agent other → other ∈ cycle.agents
  tasks : ∀ id, id ∈ cycle.taskIds ↔
    ∃ wait ∈ waits, wait.taskId = id ∧ wait.waiter ∈ cycle.agents ∧ wait.waitedOn ∈ cycle.agents
  tasksOnce : cycle.taskIds.Nodup

def ringOf (waits : List Wait) (agent : String) : WaitCycle where
  agents := mutuals waits agent
  taskIds := sortDedup ((waits.filter fun wait =>
    decide (wait.waiter ∈ mutuals waits agent ∧ wait.waitedOn ∈ mutuals waits agent)).map Wait.taskId)

theorem ringOf_ring (two : 2 ≤ (mutuals waits agent).length) : (ringOf waits agent).Ring waits where
  two := two
  agentsOnce := nodup_mutuals waits agent
  waiting one first other second := (mem_mutuals.mp first).symm.trans (mem_mutuals.mp second)
  whole one member other around := mem_mutuals.mpr ((mem_mutuals.mp member).trans around)
  tasks id := by
    rw [ringOf, mem_sortDedup, mem_map]
    constructor
    · rintro ⟨wait, kept, rfl⟩
      obtain ⟨member, ends⟩ := mem_filter.mp kept
      exact ⟨wait, member, rfl, of_decide_eq_true ends⟩
    · rintro ⟨wait, member, rfl, ends⟩
      exact ⟨wait, mem_filter.mpr ⟨member, decide_eq_true ends⟩, rfl⟩
  tasksOnce := nodup_sortDedup _

structure Found (waits : List Wait) (asked : List String) (found : List WaitCycle × List String) : Prop where
  rings : ∀ cycle ∈ found.1, cycle.Ring waits
  grouped : ∀ agent, agent ∈ found.2 ↔ ∃ cycle ∈ found.1, agent ∈ cycle.agents
  apart : found.1.Pairwise fun one other => one.agents.Disjoint other.agents
  covered : ∀ agent ∈ asked, ∀ other, agent ≠ other → Mutual waits agent other → agent ∈ found.2

def ask (waits : List Wait) (found : List WaitCycle × List String) (agent : String) : List WaitCycle × List String :=
  if agent ∈ found.2 then found
  else if (mutuals waits agent).length < 2 then found
  else (found.1 ++ [ringOf waits agent], found.2 ++ mutuals waits agent)

theorem Found.ask {asked : List String} {found : List WaitCycle × List String} (holds : Found waits asked found) (agent : String) :
    Found waits (asked ++ [agent]) (ask waits found agent) := by
  have onward {later : List WaitCycle × List String} (grows : ∀ other ∈ found.2, other ∈ later.2)
      (here : ∀ other, agent ≠ other → Mutual waits agent other → agent ∈ later.2) :
      ∀ one ∈ asked ++ [agent], ∀ other, one ≠ other → Mutual waits one other → one ∈ later.2 := by
    intro one member other distinct around
    rcases mem_append.mp member with old | new
    · exact grows one (holds.covered one old other distinct around)
    · cases mem_singleton.mp new
      exact here other distinct around
  unfold Lodestar.ask
  split
  next grouped => exact ⟨holds.rings, holds.grouped, holds.apart, onward (fun _ member => member) fun _ _ _ => grouped⟩
  rename_i fresh
  split
  next short =>
    refine ⟨holds.rings, holds.grouped, holds.apart, onward (fun _ member => member) fun other distinct around => ?_⟩
    have two := two_mutuals around distinct
    omega
  next long =>
    have ring := ringOf_ring (Nat.le_of_not_lt long)
    refine ⟨?_, fun other => ?_, ?_, onward (fun _ member => mem_append_left _ member) fun other _ around => ?_⟩
    · rw [forall_mem_append]
      exact ⟨holds.rings, fun cycle only => mem_singleton.mp only ▸ ring⟩
    · rw [mem_append, holds.grouped]
      simp only [mem_append, mem_singleton, or_and_right, exists_or, exists_eq_left]
      rfl
    · rw [pairwise_append]
      refine ⟨holds.apart, pairwise_singleton .., fun cycle member last only => ?_⟩
      cases mem_singleton.mp only
      -- A ring that shares an agent with this one has this agent, which was in none.
      refine fun other inside shared => fresh ((holds.grouped agent).mpr ⟨cycle, member, ?_⟩)
      exact (holds.rings cycle member).whole other inside agent (mem_mutuals.mp shared).symm
    · exact mem_append_right _ (mem_mutuals.mpr around.self)

theorem waitCycles_found (waits : List Wait) : ∃ grouped, Found waits
    (sortDedup (waits.flatMap fun wait => [wait.waiter, wait.waitedOn])) (waitCycles waits, grouped) := by
  have run : ∀ (agents asked : List String) (found : List WaitCycle × List String), Found waits asked found →
      Found waits (asked ++ agents) (agents.foldl (Lodestar.ask waits) found) := by
    intro agents
    induction agents with
    | nil =>
      intro asked found holds
      rw [append_nil]
      exact holds
    | cons agent agents ih =>
      intro asked found holds
      have next := ih (asked ++ [agent]) _ (holds.ask agent)
      rwa [append_assoc] at next
  exact ⟨_, run _ [] ([], []) ⟨by simp, by simp, .nil, by simp⟩⟩

theorem mutual_listed (around : Mutual waits agent other) :
    agent ∈ sortDedup (waits.flatMap fun wait => [wait.waiter, wait.waitedOn]) := by
  obtain ⟨_, ⟨wait, member, rfl, _⟩, _⟩ := TransGen.head'_iff.mp around.1
  rw [mem_sortDedup, mem_flatMap]
  exact ⟨wait, member, mem_cons_self⟩

/-- The cycles are the rings of two agents and more: each is one, whole, and apart from every other, and none is missing. -/
theorem waitCycles_exact (waits : List Wait) : (∀ cycle ∈ waitCycles waits, cycle.Ring waits) ∧
      (waitCycles waits).Pairwise (fun one other => one.agents.Disjoint other.agents) ∧
        ∀ agent other, agent ≠ other → Mutual waits agent other →
          ∃ cycle ∈ waitCycles waits, agent ∈ cycle.agents ∧ other ∈ cycle.agents := by
  obtain ⟨grouped, found⟩ := waitCycles_found waits
  refine ⟨found.rings, found.apart, fun agent other distinct around => ?_⟩
  have asked := found.covered agent (mutual_listed around) other distinct around
  obtain ⟨cycle, member, inside⟩ := (found.grouped agent).mp asked
  exact ⟨cycle, member, inside, (found.rings cycle member).whole agent inside other around⟩

end MindLeak.Lodestar
