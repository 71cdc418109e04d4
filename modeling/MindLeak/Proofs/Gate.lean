import MindLeak.Proofs.Handoffs

/-! Results about handoffs: lineages are simple paths, no successor is stranded,
and the gate in front of an unfinished predecessor holds unless a reopen lifts
it by hand. -/

namespace MindLeak.Lodestar

open Option Env

namespace Store

def Held (s : Store) : Prop :=
  ∀ predecessor successor task, s.handoffs.Linked predecessor successor → s.Unfinished predecessor →
    s.getTask successor = some task → task.status = .blocked ∨ task.status = .abandoned

def LeavesGate (s : Store) : Op → Prop
  | .reopen id _ => ∀ task predecessor, s.getTask id = some task → task.status = .blocked → task.blockedBy = none →
      s.handoffs.Linked predecessor id → ¬ s.Unfinished predecessor
  | _ => True

section
variable {s after : Store} {id : String} {row row' : Task} {op : Op}

theorem Unfinished.before {key : String} (running : after.Unfinished key) (one : s.OneRow after id row row')
    (unfinished : row.status.isFinished = false) : s.Unfinished key := by
  obtain ⟨task, found, still⟩ := running
  rcases one.cases found with ⟨rfl, rfl⟩ | ⟨_, found⟩
  · exact ⟨row, one.found, unfinished⟩
  · exact ⟨task, found, still⟩

theorem Held.oneRow (held : s.Held) (one : s.OneRow after id row row')
    (running : row.status.isFinished = false)
    (fresh : ∀ first, after.handoffs.Linked first id → after.Unfinished first →
      row'.status = .blocked ∨ row'.status = .abandoned)
    (links : ∀ first second, second ≠ id → after.handoffs.Linked first second → s.handoffs.Linked first second) :
    after.Held := by
  intro first second task linked unfinished found
  rcases one.cases found with ⟨rfl, rfl⟩ | ⟨apart, found⟩
  · exact fresh first linked unfinished
  · exact held first second task (links first second apart linked) (unfinished.before one running) found

theorem Held.frame (held : s.Held) (rows : ∀ key, after.getTask key = s.getTask key)
    (links : after.handoffs = s.handoffs) : after.Held := by
  intro first second task linked unfinished found
  rw [links] at linked
  rw [rows] at found
  exact held first second task linked (unfinished.frame fun key => (rows key).symm) found

theorem Held.opened (held : s.Held) (now : Int) (ended : s.Finished id) : (s.opened id now).Held := by
  have links := s.opened_handoffs id now
  rcases s.opened_row id now with same | ⟨successor, before, opens, one, linked, blocked, _⟩
  · rwa [same]
  have unfinished : before.status.isFinished = false := by rw [blocked]; rfl
  refine held.oneRow one unfinished ?_ fun first second _ also => links ▸ also
  intro first also running
  rw [links] at also
  cases also.previous_unique linked
  exact absurd ended (running.before one unfinished).not_finished

theorem Held.created {task : Task} {predecessor : Option String} {now : Int} (held : s.Held) (waiting : s.Waiting)
    (created : s.Created after task predecessor now) : after.Held := by
  intro first second row linked running found
  have known (task' : Task) (stored : s.getTask first = some task') : s.Unfinished first := by
    obtain ⟨also, found, unfinished⟩ := running
    cases (created.kept stored).symm.trans found
    exact ⟨task', stored, unfinished⟩
  rw [created.getTask] at found
  rcases (created.linked first second).mp linked with old | ⟨rfl, rfl⟩
  · obtain ⟨stored, exists'⟩ := waiting.anchored first second old
    obtain ⟨task', stored⟩ := isSome_iff_exists.mp stored
    split at found
    next same =>
      subst same
      rw [created.fresh] at exists'
      cases exists'
    next => exact held first second row old (known task' stored) found
  · rw [if_pos rfl] at found
    cases found
    obtain ⟨complete, awaits, behind⟩ := created.gate first rfl
    obtain ⟨blocker, stored, finished⟩ := awaits.found
    obtain ⟨also, same, unfinished⟩ := known blocker stored
    cases stored.symm.trans same
    cases complete with
    | true => simp [unfinished] at finished
    | false =>
      refine .inl ?_
      rw [created.status, behind]
      rfl

theorem Held.step (held : s.Held) (waiting : s.Waiting) (step : GateStep op s after) (leaves : s.LeavesGate op) :
    after.Held := by
  cases step with
  | still rows links => exact held.frame rows links
  | @moved id row row' after one links running goesOn free lifted =>
    refine held.oneRow one running ?_ fun first second _ linked => links ▸ linked
    intro first linked unfinished
    rw [links] at linked
    have before := unfinished.before one running
    rcases held first id row linked before one.found with blocked | abandoned
    · obtain ⟨ungated, now, rfl⟩ := lifted blocked
      exact absurd before (leaves row first one.found blocked ungated linked)
    · rw [abandoned] at running
      cases running
  | @gated id row row' blockedBy now after one running status gate awaits links =>
    refine held.oneRow one running (fun _ _ _ => .inl status) fun first second apart linked => ?_
    rw [links] at linked
    cases blockedBy with
    | none => exact linked
    | some predecessor =>
      rcases ((awaits predecessor rfl).linked now).2 first second linked with old | ⟨_, same⟩
      · exact old
      · exact absurd same apart
  | @ended id row row' now middle after one links running finished left rows links' =>
    have ended : middle.Finished id := ⟨row', one.here, finished⟩
    refine (Held.opened ?_ now ended).frame rows links'
    refine held.oneRow one running ?_ fun first second _ linked => links ▸ linked
    intro first linked unfinished
    rw [links] at linked
    rcases left with abandoned | free
    · exact .inr abandoned
    rcases held first id row linked (unfinished.before one running) one.found with blocked | abandoned
    · exact absurd blocked free
    · rw [abandoned] at running
      cases running
  | created created =>
    suffices both : after.Held ∧ after.Waiting from both.1
    induction created with
    | refl => exact ⟨held, waiting⟩
    | tail _ last ih =>
      obtain ⟨_, _, _, last⟩ := last
      exact ⟨ih.1.created ih.2 last, ih.2.created last⟩
  | carried keeps rows links =>
    intro first second task linked unfinished found
    rw [links] at linked
    obtain ⟨other, here, running⟩ := unfinished
    rw [rows] at here found
    obtain ⟨blocker, stored, rfl⟩ := map_eq_some_iff.mp here
    obtain ⟨row, also, rfl⟩ := map_eq_some_iff.mp found
    obtain ⟨_, _, same⟩ := keeps blocker
    obtain ⟨_, _, same'⟩ := keeps row
    rw [same] at running
    rw [same']
    exact held first second row linked ⟨blocker, stored, running⟩ also
  | cleared rows links =>
    intro first second task _ _ found
    rw [rows] at found
    cases found

end
end Store

/-- As the row stands, some write of the store would hand it to somebody. -/
def Task.Claimable (task : Task) : Prop :=
  ∃ (rewrite : Rewrite) (now : Int), rewrite.leadsTo = .claimed ∧ (rewrite.write now).takes task = true ∧
    rewrite.Admits now task

theorem Task.not_claimable {task : Task} (held : task.status = .blocked ∨ task.status = .abandoned) :
    ¬ task.Claimable := by
  rintro ⟨rewrite, now, claims, taken, admitted⟩
  have found := Rewrite.takes_from taken admitted
  cases rewrite with
  | release | ask | pause | reopen => cases claims
  | _ => rcases held with held | held <;> simp [Rewrite.takesFrom, held] at found

def Store.Gated (s : Store) : Prop :=
  ∀ predecessor successor task, s.handoffs.Linked predecessor successor → s.Unfinished predecessor →
    s.getTask successor = some task → task.status ≠ .open ∧ task.status ≠ .claimed ∧ ¬ task.Claimable

theorem Store.Held.gated {s : Store} (held : s.Held) : s.Gated := by
  intro predecessor successor task linked unfinished found
  have either := held predecessor successor task linked unfinished found
  refine ⟨?_, ?_, Task.not_claimable either⟩ <;> rcases either with status | status <;> simp [status]

def handedOff : List (Store → Op) :=
  [fun _ => .createTask "goal:ship" "second" "works" none (some "task:goal:ship|first|1") [] 2,
    fun _ => .createTask "goal:ship" "first" "works" none none [] 1,
    fun _ => .defineGoal .objective "Ship" "It ships" none 0]

/-- Blocking the successor again without a dependency drops its gate, and the
reopen that would have been refused goes through. -/
def ungated : List (Store → Op) :=
  (fun _ => .reopen "task:goal:ship|second|2" 4) :: (fun _ => .block "task:goal:ship|second|2" none none "human" 3) ::
    handedOff

theorem handedOff_ready : Ready handedOff := by simp +contextual [handedOff, Op.enabled, Op.reads]

theorem handedOff_run : (localStore plain).Replays handedOff := handedOff_ready.run

theorem ungated_run : (localStore plain).Replays ungated :=
  Ready.run (by simp +contextual [ungated, handedOff_ready, Op.enabled, Op.reads])

section
variable {env : Env} {history : List (Entry Store Op)} {state : Store}

theorem run_waiting (run : (localStore env).Run history state) : state.Waiting :=
  run.invariant Store.Waiting .start fun _ op waiting => waiting.perform op

/-- Handoffs stay a disjoint union of simple directed paths. -/
theorem handoffs_are_paths (run : (localStore env).Run history state) : state.handoffs.Paths :=
  (run_waiting run).acyclic.paths

theorem handoffs_are_paths_handedOff : ((localStore Env.plain).replay handedOff).2.handoffs.Paths :=
  handoffs_are_paths handedOff_run

/-- A wait always has an unfinished predecessor: ending one opens its waiting
successor in the same step, and no step makes a row wait on a finished one. -/
theorem no_stranded_successor (run : (localStore env).Run history state) :
    (∀ successor task predecessor, state.getTask successor = some task → task.status = .blocked →
      task.blockedBy = some predecessor → ∃ blocker, state.getTask predecessor = some blocker ∧
        blocker.status ≠ .done ∧ blocker.status ≠ .abandoned) ∧
    ∀ entry ∈ history,
      (∀ successor task predecessor, entry.before.getTask successor = some task → task.status = .blocked →
        task.blockedBy = some predecessor → entry.after.Finished predecessor →
          ∃ row, entry.after.getTask successor = some row ∧ row.status = .open) ∧
      ∀ successor task predecessor, entry.after.getTask successor = some task → task.status = .blocked →
        task.blockedBy = some predecessor → ¬ entry.before.Finished predecessor := by
  constructor
  · intro successor task predecessor found blocked waits
    obtain ⟨_, blocker, stored, unfinished⟩ := (run_waiting run).gated successor task found blocked predecessor waits
    refine ⟨blocker, stored, ?_, ?_⟩ <;> intro ended <;> simp [ended, TaskStatus.isFinished] at unfinished
  · intro entry member
    obtain ⟨waiting, applied⟩ := run.entry_good Store.Waiting .start (fun _ op waiting => waiting.perform op) member
    have step := (Store.perform_change env entry.before entry.op).gateStep
    have after : (entry.before.perform env entry.op).Waiting := waiting.perform entry.op
    rw [show entry.before.perform env entry.op = entry.after from applied.symm] at step after
    constructor
    · intro successor task predecessor found blocked waits ended
      exact waiting.ends_open step found blocked waits ended
    · intro successor task predecessor found blocked waits finished
      obtain ⟨_, running⟩ := after.gated successor task found blocked predecessor waits
      rcases step.finished_kept finished with kept | gone
      · exact running.not_finished kept
      · rw [gone] at found
        cases found

theorem no_stranded_successor_handedOff :
    ∃ blocker, ((localStore Env.plain).replay handedOff).2.getTask "task:goal:ship|first|1" = some blocker ∧
      blocker.status ≠ .done ∧ blocker.status ≠ .abandoned :=
  (no_stranded_successor handedOff_run).1 "task:goal:ship|second|2"
    (Store.newTask "task:goal:ship|second|2" "goal:ship" "second" "works" none (some "task:goal:ship|first|1") 2)
    "task:goal:ship|first|1" (by decide +kernel) rfl rfl

/-- While every reopen leaves the gate alone, the gate holds. -/
theorem gate_holds (run : (localStore env).Run history state)
    (leaves : ∀ entry ∈ history, entry.before.LeavesGate entry.op) : state.Gated := by
  have both := run.invariant_of_steps (fun s => s.Waiting ∧ s.Held) ⟨.start, ?_⟩ Store.LeavesGate leaves ?_
  · exact both.2.gated
  · rintro _ _ _ ⟨_, member, _⟩
    cases member
  · rintro before op leaves ⟨waiting, held⟩
    exact ⟨waiting.perform op, held.step waiting (Store.perform_change env before op).gateStep leaves⟩

theorem gate_holds_handedOff : ((localStore Env.plain).replay handedOff).2.Gated := by
  refine gate_holds handedOff_run ?_
  intro entry member
  simp only [handedOff, Machine.replay, List.mem_cons, List.not_mem_nil, or_false] at member
  rcases member with rfl | rfl | rfl <;> trivial

end

theorem Store.not_gated {s : Store} {predecessor successor : String}
    (linked : s.handoffs.next? predecessor = some successor)
    (running : (s.getTask predecessor).map Task.status = some .open)
    (free : (s.getTask successor).map Task.status = some .open) : ¬ s.Gated := by
  intro gated
  obtain ⟨blocker, found, status⟩ := map_eq_some_iff.mp running
  obtain ⟨task, stored, opened⟩ := map_eq_some_iff.mp free
  have unfinished : s.Unfinished predecessor := ⟨blocker, found, by rw [status]; rfl⟩
  exact (gated predecessor successor task (Links.next?_eq_some_iff.mp linked) unfinished stored).1 opened

/-- A successor behind a running predecessor can be opened. -/
theorem gate_can_be_lifted : ¬ ∀ env history state, (localStore env).Run history state → state.Gated := by
  intro always
  obtain ⟨linked, running, free⟩ : let s := ((localStore Env.plain).replay ungated).2
      s.handoffs.next? "task:goal:ship|first|1" = some "task:goal:ship|second|2" ∧
      (s.getTask "task:goal:ship|first|1").map Task.status = some .open ∧
      (s.getTask "task:goal:ship|second|2").map Task.status = some .open := by decide +kernel
  exact Store.not_gated linked running free (always Env.plain _ _ ungated_run)

end MindLeak.Lodestar
