import MindLeak.Lodestar.Local

/-! What one guarded transition does to a store, and the frames around it: the
tables of coordination and the tables of policy that an operation leaves alone. -/

namespace MindLeak.Lodestar

open Table Option

variable {α β : Type}

theorem throw_eq (failure : LodestarError) : (throw failure : Result α) = .error failure := rfl

theorem error_bind (failure : LodestarError) (next : α → Result β) :
    (Except.error failure : Result α) >>= next = .error failure := rfl

theorem ok_bind (value : α) (next : α → Result β) : (Except.ok value : Result α) >>= next = next value := rfl

theorem pure_eq (value : α) : (pure value : Result α) = .ok value := rfl

/-- Operations that any state's readers may be given, whatever they meet. -/
def Ready (ops : List (Store → Op)) : Prop := ∀ op ∈ ops, ∀ visited s, s ∈ visited → (op s).enabled visited

@[simp] theorem ready_nil : Ready [] := fun _ absent => absurd absent List.not_mem_nil

@[simp] theorem ready_cons {op : Store → Op} {ops : List (Store → Op)} :
    Ready (op :: ops) ↔ (∀ visited s, s ∈ visited → (op s).enabled visited) ∧ Ready ops := List.forall_mem_cons

@[simp] theorem ready_append {later earlier : List (Store → Op)} : Ready (later ++ earlier) ↔ Ready later ∧ Ready earlier :=
  List.forall_mem_append

theorem Ready.run {env : Env} {ops : List (Store → Op)} (ready : Ready ops) : (localStore env).Replays ops :=
  Machine.replay_run ready

namespace Store
variable {s after : Store} {id : String} {task : Task} {write : TaskWrite} {now : Int} {note : EventNote}

def moved (s : Store) (id : String) (now : Int) (write : TaskWrite) (note : EventNote) (task : Task) : Store :=
  (s.updateTask id write).appendEvent now (write.leaves task) note

theorem getTask_id (found : s.getTask id = some task) : task.id = id :=
  (mem_of_find? found).2

theorem getTask_mem (found : s.getTask id = some task) : task ∈ s.tasks.rows := (mem_of_find? found).1

theorem mem_getTask (member : task ∈ s.tasks.rows) : s.getTask task.id = some task :=
  find?_of_mem member

theorem getTask_updateTask (s : Store) (id key : String) (write : TaskWrite) :
    (s.updateTask id write).getTask key =
      (s.getTask key).map fun task => if decide (task.id = id) && write.takes task then write.leaves task else task := by
  simp only [getTask, updateTask, find?_update]

theorem getTask_moved (s : Store) (found : s.getTask id = some task) (taken : write.takes task = true) (key : String) :
    (s.moved id now write note task).getTask key = if key = id then some (write.leaves task) else s.getTask key := by
  have row : (s.moved id now write note task).getTask key = (s.updateTask id write).getTask key := rfl
  rw [row, getTask_updateTask]
  split
  next same => simp [same, found, getTask_id found, taken]
  rename_i other
  cases stored : s.getTask key with
  | none => rfl
  | some kept => simp [getTask_id stored, other]

structure OneRow (s after : Store) (id : String) (row row' : Task) : Prop where
  found : s.getTask id = some row
  rows : ∀ key, after.getTask key = if key = id then some row' else s.getTask key

theorem moved_oneRow (now : Int) (note : EventNote) (found : s.getTask id = some task) (taken : write.takes task = true) :
    s.OneRow (s.moved id now write note task) id task (write.leaves task) :=
  ⟨found, s.getTask_moved found taken⟩

namespace OneRow
variable {row row' : Task}
variable {key : String}

section
variable (one : s.OneRow after id row row')
include one

theorem here : after.getTask id = some row' := by
  rw [one.rows, if_pos rfl]

theorem elsewhere (other : key ≠ id) :
    after.getTask key = s.getTask key := by
  rw [one.rows, if_neg other]

theorem cases {task : Task} (found : after.getTask key = some task) :
    (key = id ∧ task = row') ∨ (key ≠ id ∧ s.getTask key = some task) := by
  by_cases same : key = id
  · subst same
    exact .inl ⟨rfl, some.inj (found.symm.trans one.here)⟩
  · exact .inr ⟨same, (one.elsewhere same).symm.trans found⟩

theorem isSome (known : (s.getTask key).isSome = true) :
    (after.getTask key).isSome = true := by
  rw [one.rows]
  split
  · rfl
  · exact known

end

end OneRow

theorem changed_eq (s : Store) (id : String) (write : TaskWrite) :
    s.changed id write = ((s.getTask id).any write.takes).toNat := countP_key s.tasks id write.takes

theorem transition_eq (s : Store) (id : String) (now : Int) (write : TaskWrite) (note : EventNote) :
    s.transition id now write note = .ok (((s.getTask id).filter write.takes).map (s.moved id now write note)) := by
  unfold transition
  rw [changed_eq]
  cases found : s.getTask id with
  | none => rfl
  | some task =>
    cases taken : write.takes task with
    | false => simp [taken, pure_eq]
    | true =>
      have stored : (s.updateTask id write).getTask id = some (write.leaves task) := by
        rw [getTask_updateTask, found]
        simp [getTask_id found, taken]
      simp [taken, record, stored, moved, ok_bind, pure_eq]

/-- The guard took a row, and the store is what the write leaves. -/
def Wrote (s : Store) (id : String) (now : Int) (write : TaskWrite) (note : EventNote) (after : Store) : Prop :=
  ∃ task, s.getTask id = some task ∧ write.takes task = true ∧ after = s.moved id now write note task

theorem wrote_of_taken (committed : ((s.getTask id).filter write.takes).map (s.moved id now write note) = some after) :
    s.Wrote id now write note after := by
  obtain ⟨task, taken, rfl⟩ := map_eq_some_iff.mp committed
  obtain ⟨found, taken⟩ := filter_eq_some_iff.mp taken
  exact ⟨task, found, taken, rfl⟩

def Refused (s : Store) (id : String) (write : TaskWrite) : Prop :=
  ∀ task, s.getTask id = some task → write.takes task = false

theorem refused_of_none (missed : ((s.getTask id).filter write.takes).map (s.moved id now write note) = none) :
    s.Refused id write := by
  intro task found
  simpa [found] using missed

def Beside (s after : Store) : Prop := ∃ scopes qa, after = { s with taskScopes := scopes, taskQa := qa }

theorem Beside.refl (s : Store) : s.Beside s := ⟨s.taskScopes, s.taskQa, rfl⟩

theorem Beside.trans {first middle last : Store} (left : first.Beside middle) (right : middle.Beside last) :
    first.Beside last := by
  obtain ⟨_, _, rfl⟩ := left
  obtain ⟨scopes, qa, rfl⟩ := right
  exact ⟨scopes, qa, rfl⟩

theorem Beside.appendQa (s : Store) (qa : TaskQa) : s.Beside (s.appendQa qa) := ⟨s.taskScopes, s.taskQa ++ [qa], rfl⟩

theorem Beside.appendNote (s : Store) (id : String) (reason : Option String) (author : String) (now : Int) :
    s.Beside (s.appendNote id reason author now) := by
  unfold Store.appendNote
  split
  · exact .refl s
  · exact .appendQa s _

theorem Beside.replaceScope {kind : ScopeKind} {values : List String} (done : s.replaceScope id kind values = .ok after) :
    s.Beside after := by
  obtain ⟨scopes, _, done⟩ := bind_ok done
  cases done
  exact ⟨scopes, s.taskQa, rfl⟩

theorem Beside.replaceDeclared {kind : ScopeKind} {values : Option (List String)}
    (done : s.replaceDeclared id kind values = .ok after) : s.Beside after := by
  cases values with
  | none =>
    cases done
    exact .refl s
  | some values => exact .replaceScope done

structure SameWork (s after : Store) : Prop where
  tasks : after.tasks = s.tasks
  events : after.taskEvents = s.taskEvents
  handoffs : after.handoffs = s.handoffs
  conformance : after.conformance = s.conformance
  counter : after.conformanceSeq = s.conformanceSeq

theorem SameWork.refl (s : Store) : s.SameWork s := ⟨rfl, rfl, rfl, rfl, rfl⟩

theorem SameWork.getTask (same : s.SameWork after) (key : String) : after.getTask key = s.getTask key := by
  unfold Store.getTask
  rw [same.tasks]

theorem Beside.sameWork (beside : s.Beside after) : s.SameWork after := by
  obtain ⟨_, _, rfl⟩ := beside
  exact ⟨rfl, rfl, rfl, rfl, rfl⟩

structure SamePolicy (s after : Store) : Prop where
  versions : after.constitutionVersions = s.constitutionVersions
  goals : after.goals = s.goals
  amendments : after.amendments = s.amendments

theorem SamePolicy.refl (s : Store) : s.SamePolicy s := ⟨rfl, rfl, rfl⟩

/-- The store after the successor's gate is lifted, where it waited here. -/
def opened (s : Store) (predecessor : String) (now : Int) : Store :=
  match s.handoffs.next? predecessor with
  | none => s
  | some successor =>
    match (s.getTask successor).filter (unblockWrite predecessor now).takes with
    | none => s
    | some task => s.moved successor now (unblockWrite predecessor now) ⟨.reopened, none, .unblockedBy predecessor⟩ task

theorem openBlockedSuccessorOn_eq (s : Store) (predecessor : String) (now : Int) :
    s.openBlockedSuccessorOn predecessor now = .ok (s.opened predecessor now) := by
  unfold openBlockedSuccessorOn opened
  cases s.handoffs.next? predecessor with
  | none => rfl
  | some successor =>
    simp only [transition_eq, ok_bind, pure_eq]
    cases (s.getTask successor).filter (unblockWrite predecessor now).takes <;> rfl

theorem opened_cases (s : Store) (predecessor : String) (now : Int) :
    (s.opened predecessor now = s ∧ ∀ successor task, s.handoffs.Linked predecessor successor →
      s.getTask successor = some task → (unblockWrite predecessor now).takes task = false) ∨
    ∃ successor, s.handoffs.Linked predecessor successor ∧
      s.Wrote successor now (unblockWrite predecessor now) ⟨.reopened, none, .unblockedBy predecessor⟩
        (s.opened predecessor now) := by
  unfold opened
  cases next : s.handoffs.next? predecessor with
  | none =>
    refine .inl ⟨rfl, ?_⟩
    intro successor task linked
    rw [Links.next?_eq_some_iff.mpr linked] at next
    cases next
  | some successor =>
    have linked := Links.next?_eq_some_iff.mp next
    dsimp only
    cases taken : (s.getTask successor).filter (unblockWrite predecessor now).takes with
    | none =>
      refine .inl ⟨rfl, ?_⟩
      intro other task also found
      cases linked.next_unique also
      simpa [found] using taken
    | some task =>
      obtain ⟨found, taken⟩ := filter_eq_some_iff.mp taken
      exact .inr ⟨successor, linked, task, found, taken, rfl⟩

theorem opened_handoffs (s : Store) (predecessor : String) (now : Int) :
    (s.opened predecessor now).handoffs = s.handoffs := by
  rcases s.opened_cases predecessor now with ⟨same, _⟩ | ⟨_, _, task, _, _, wrote⟩
  · rw [same]
  · rw [wrote]
    rfl

theorem opened_conformance (s : Store) (predecessor : String) (now : Int) :
    (s.opened predecessor now).conformance = s.conformance ∧
      (s.opened predecessor now).conformanceSeq = s.conformanceSeq := by
  rcases s.opened_cases predecessor now with ⟨same, _⟩ | ⟨_, _, task, _, _, wrote⟩
  · rw [same]
    exact ⟨rfl, rfl⟩
  · rw [wrote]
    exact ⟨rfl, rfl⟩

theorem Beside.opened (beside : s.Beside after) (predecessor : String) (now : Int) :
    (s.opened predecessor now).Beside (after.opened predecessor now) := by
  obtain ⟨scopes, qa, rfl⟩ := beside
  refine ⟨scopes, qa, ?_⟩
  simp only [Store.opened, Store.getTask]
  cases s.handoffs.next? predecessor with
  | none => rfl
  | some successor =>
    dsimp only
    cases (s.tasks.find? successor).filter (unblockWrite predecessor now).takes <;> rfl

end Store
end MindLeak.Lodestar
