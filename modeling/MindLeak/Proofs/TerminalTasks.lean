import MindLeak.Proofs.StaleCommands

/-! A task that is completed or abandoned stays so, unless it is reviewed. -/

namespace MindLeak.Ackplane

open CommandStore WorkCommands List

def WorkTaskRow.Terminal (row : WorkTaskRow) : Prop := row.state = 7 ∨ row.state = 8

instance (row : WorkTaskRow) : Decidable row.Terminal := inferInstanceAs (Decidable (_ ∨ _))

namespace WorkTables
variable {before after : WorkTables}

def TerminalKept (before after : WorkTables) : Prop :=
  ∀ key task, before.tasks.find? key = some task → task.Terminal → ∃ task', after.tasks.find? key = some task' ∧ task'.state = task.state

theorem TerminalKept.of_tasks (same : after.tasks = before.tasks) : before.TerminalKept after :=
  fun _ task found _ => ⟨task, same ▸ found, rfl⟩

theorem TerminalKept.refl (tables : WorkTables) : tables.TerminalKept tables := .of_tasks rfl

theorem TerminalKept.trans {first middle last : WorkTables} (one : first.TerminalKept middle) (other : middle.TerminalKept last) :
    first.TerminalKept last := by
  intro key task found terminal
  obtain ⟨task', there, same⟩ := one key task found terminal
  obtain ⟨last, still, kept⟩ := other key task' there (by rwa [WorkTaskRow.Terminal, same])
  exact ⟨last, still, kept.trans same⟩

theorem Records.terminalKept {event : WorkEvent} {row : WorkTaskRow} (records : before.Records after event row)
    (steady : ∀ old, before.tasks.find? event.key = some old → old.Terminal → event.toState = old.state) : before.TerminalKept after := by
  intro key task found terminal
  rw [records.tasks]
  split
  next its => exact ⟨row, rfl, records.state.trans (steady task (its ▸ found) terminal)⟩
  next => exact ⟨task, found, rfl⟩

end WorkTables

def CommandStore.Reviews (s : CommandStore) (command : WorkCommandRow) : Prop :=
  ∃ taskId task, command.taskId = some taskId ∧ s.work.tasks.find? (command.taskKey taskId) = some task ∧ task.Terminal ∧
    command.expectedTaskVersion = some task.version ∧ s.work.history.find? (command.key.stream, command.commandId) = none

variable {platform : DirectivePlatform} {s after : CommandStore} {seen : CommandStore → Prop}

namespace WorkCommands
variable {command : WorkCommandRow} {now : Int}

theorem Changed.terminalKept {event : WorkEvent} {old : WorkTaskRow} (changed : Changed s s event old after)
    (steady : old.Terminal → event.toState = old.state) : s.work.TerminalKept after.work := by
  obtain ⟨found, _, _, row, records, _⟩ := changed.records
  refine records.terminalKept fun other there terminal => ?_
  cases found.symm.trans there
  exact steady terminal

theorem Effect.terminalKept {payload : WorkCommandPayload} {outcome : ExecutionOutcome}
    (unreviewed : payload.kind = .submitReview → ¬s.Reviews command)
    (effect : Effect platform command now seen s s payload after outcome) : s.work.TerminalKept after.work := by
  cases effect with
  | refuses => exact .refl _
  | creates absent accepts =>
    refine (accepts.inserted rfl absent rfl).terminalKept fun old found => ?_
    cases absent.symm.trans found
  | issues _ issues =>
    cases issues with
    | leaves => exact .refl _
    | issues _ enqueues => exact .of_tasks (congrArg WorkTables.tasks enqueues.work)
  | applies _ _ applies =>
    cases applies with
    | leaves => exact .refl _
    | @changes taskId old _ next _ named its expected steady changed =>
      refine changed.terminalKept fun terminal => ?_
      rcases steady with same | claimed | review
      · exact same
      · rw [WorkTaskRow.Terminal, claimed] at terminal
        exact absurd terminal (by decide)
      · refine absurd ?_ (unreviewed review)
        cases changed with
        | mk _ found accepts =>
          exact ⟨taskId, old, named, found, terminal, expected (by rw [review]; decide), accepts.fresh⟩

theorem Reflects.terminalKept {outcome : WorkCommandOutcome} (reflects : Reflects platform.toPlatform command outcome now s s after) :
    s.work.TerminalKept after.work := by
  cases reflects with
  | leaves => exact .refl _
  | notes _ _ found accepts =>
    refine (accepts.recorded ⟨rfl, rfl⟩ (fun _ _ => rfl) found rfl).terminalKept fun other there _ => ?_
    cases found.symm.trans there
    rfl
  | changes _ _ _ running changed => exact changed.terminalKept fun terminal => terminal.elim (absurd · running.1) (absurd · running.2)

end WorkCommands

namespace CommandCall
variable {order : CommandStore → CommandStore → Prop} {call : CommandCall} {answer : CommandAnswer}

theorem Does.terminalKept (unreviewed : ∀ principal key payload now command outcome, call = .confirm principal key payload now →
      answer = .confirmed (.executed command outcome) → command.kind = .submitReview → Timely platform command payload now →
        ¬s.Reviews command)
    (does : Does platform order seen s call after answer) : s.work.TerminalKept after.work := by
  cases does with
  | createTask creates | recordNodeTask creates =>
    refine creates.records.terminalKept fun old found => ?_
    cases creates.absent.symm.trans found
  | replayNodeTask idle => rcases idle with rfl | rfl <;> exact .of_tasks rfl
  | submit _ _ _ records => cases records <;> exact .refl _
  | recordPending _ _ receipted => exact .of_tasks (congrArg WorkTables.tasks receipted.work)
  | confirm confirms =>
    cases confirms with
    | unknown | refused => exact .refl _
    | executes _ _ _ executes =>
      cases executes with
      | replays => exact .refl _
      | confirms decided _ _ receipted =>
        rw [receipted.work]
        rcases confirmedOutcome_runs decided with ⟨_, rfl, _⟩ | ⟨timely, runs⟩
        · exact .refl _
        · exact (applyEffect_runs runs).terminalKept fun review =>
            unreviewed _ _ _ _ _ _ rfl rfl (timely.kind.symm.trans review) timely
  | applyDirectiveReceipt reports =>
    cases reports with
    | idle | unissued | replays => exact .refl _
    | reports _ _ _ reflects _ _ receipted =>
      rw [receipted.work]
      exact reflects.terminalKept
  | enqueue _ _ _ enqueues => exact .of_tasks (congrArg WorkTables.tasks enqueues.work)
  | recordDirectiveReceipt received => cases received <;> exact .refl _
  | claim => exact .refl _
  | ask asks => rcases asks with rfl | rfl <;> exact .refl _
  | recordSession records => rcases records with rfl | ⟨_, rfl⟩ <;> exact .refl _

end CommandCall

section
variable {τ : Type} [DecidableEq τ] {store : CommandStore} {history : List (WorkStep τ)} {state : WorkControl τ}

/-- From any store on, and under any interleaving of the calls, a task that is over stays in its state, so
long as no command reviews it. -/
theorem terminal_work_stays_terminal (run : (workControl platform τ store).Run history state)
    (unreviewed : ∀ entry ∈ history, ∀ payload now command outcome, Executing entry payload now command outcome →
      command.kind = .submitReview → Timely platform command payload now → ¬entry.before.store.Reviews command) :
    ∀ seen ∈ (workControl platform τ store).visited history, seen.store.work.TerminalKept state.store.work := by
  obtain ⟨⟨_, visited⟩, _⟩ := Interleaving.run_steps run (CommandCall.program_within platform) (fun _ => True)
    (fun before after => before.work.TerminalKept after.work) (fun _ => .refl _) .trans trivial
    fun entry member call answer _ committing commits => by
      refine ⟨trivial, (CommandCall.program_does commits).terminalKept ?_⟩
      rintro principal key payload now command outcome rfl rfl review timely
      exact unreviewed entry member payload now command outcome ⟨principal, key, committing⟩ review timely
  exact fun seen member => (visited seen member).2

end

section

def reviewing : WorkCommandPayload := .submitReview ⟨.accept, "done"⟩

def completedStore : CommandStore :=
  ((afterCalls [.createTask openTask (seconds 1)]).updateTask openTask.key fun row => { row.bump (seconds 1) with state := 7 }).recorded
    ⟨openTask.key, "work-event:2", 6, some 1, 7, "human:ada", [], seconds 1⟩ 2

def onCompleted (payload : WorkCommandPayload) : List CommandCall :=
  [submitting "human:ada" "key-1" 2 payload, confirming "human:ada" "key-1" 2 payload (seconds 2)]

def afterCompletion (calls : List CommandCall) : CommandStore :=
  Interleaving.serial look (CommandCall.program wire) completedStore calls

theorem completed_reviewed : (completedStore.work.tasks.find? openTask.key).map WorkTaskRow.state = some 7 ∧
    ((afterCompletion (onCompleted reviewing)).work.tasks.find? openTask.key).map WorkTaskRow.state = some 6 ∧
    ((((CommandCall.program wire (confirming "human:ada" "key-1" 2 routing (seconds 2))).attempt look
      (afterCompletion [submitting "human:ada" "key-1" 2 routing])).1).toOption.bind CommandAnswer.executed).any
        (fun executed => executed.2.receipt.outcome = .applied) = true := by
  delta afterCompletion onCompleted completedStore afterCalls submitting confirming commandKeyOf workRequest
  rw [wire_unrolled]
  decide +kernel

/-- A completed task goes back to review. -/
theorem review_reopens_counterexample : ¬∀ store history state, (workControl wire Nat store).Run history state →
    ∀ seen ∈ (workControl wire Nat store).visited history, seen.store.work.TerminalKept state.store.work := by
  intro stays
  obtain ⟨history, standing, run, _⟩ := Interleaving.serial_run look guards (CommandCall.program wire) completedStore (onCompleted reviewing)
  obtain ⟨completed, reviewed, _⟩ := completed_reviewed
  obtain ⟨task, found, state⟩ := Option.map_eq_some_iff.mp completed
  have start := mem_append_right (history.map Entry.after) (mem_singleton_self (workControl wire Nat completedStore).start)
  have kept : completedStore.work.TerminalKept (afterCompletion (onCompleted reviewing)).work := stays completedStore history _ run _ start
  obtain ⟨task', there, same⟩ := kept openTask.key task found (.inl state)
  rw [there, Option.map_some, same, state] at reviewed
  exact absurd reviewed (by decide)

/-- Routing a completed task leaves it completed. -/
theorem routed_stays_completed : ∃ history state, (workControl wire Nat completedStore).Run history state ∧
    (∃ entry ∈ history, ∃ command outcome, Executing entry routing (seconds 2) command outcome ∧ outcome.receipt.outcome = .applied) ∧
    ∃ task, state.store.work.tasks.find? openTask.key = some task ∧ task.state = 7 := by
  obtain ⟨history, standing, run, _, entries, all⟩ := Interleaving.serial_run look guards (CommandCall.program wire) completedStore
    (onCompleted routing)
  obtain ⟨completed, _, routed⟩ := completed_reviewed
  obtain ⟨task, found, state⟩ := Option.map_eq_some_iff.mp completed
  obtain ⟨command, outcome, answered, applied⟩ := executed_of_any routed
  obtain ⟨entry, member, serves⟩ := entries [submitting "human:ada" "key-1" 2 routing] _ [] rfl
  have start := mem_append_right (history.map Entry.after) (mem_singleton_self (workControl wire Nat completedStore).start)
  refine ⟨history, _, run, ⟨entry, member, command, outcome, ⟨_, _, (serves.commits _ _).mpr ⟨rfl, answered⟩⟩, of_decide_eq_true applied⟩, ?_⟩
  obtain ⟨task', there, same⟩ := terminal_work_stays_terminal run (by
      rintro entry member payload now command outcome ⟨principal, key, committing⟩ review timely
      obtain ⟨earlier, later, split, _⟩ := Interleaving.served all member committing
      have asked : CommandCall.confirm principal key payload now ∈ onCompleted routing := by
        rw [split]
        exact mem_append_right _ mem_cons_self
      simp only [onCompleted, submitting, confirming, mem_cons, reduceCtorEq, false_or, not_mem_nil, or_false,
        CommandCall.confirm.injEq] at asked
      obtain ⟨_, _, rfl, _⟩ := asked
      cases timely.kind.trans review)
    _ start openTask.key task found (.inl state)
  exact ⟨task', there, same.trans state⟩

end

end MindLeak.Ackplane
