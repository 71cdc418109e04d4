import MindLeak.Proofs.Names

/-! Tasks and their declared coverage name stored goals: both are checked where
they are written, goals go only when the tasks go with them, and an amendment
moves a task along a link to a stored successor. -/

namespace MindLeak.Lodestar

open List Option Table

def Op.assigns : Op → Bool
  | .createTask .. | .materialize .. | .reconnect .. | .amend .. => true
  | _ => false

theorem Rewrite.keeps_goal {op : Op} {id : String} {now : Int} (rewrite : Rewrite) (issued : Rewrite.Issues op id now rewrite)
    (other : op.assigns = false) (task : Task) : ((rewrite.write now).leaves task).goalId = task.goalId := by
  cases issued with
  | reconnect => cases other
  | _ => rfl

variable {env : Env}

namespace Store

def NamesStay (s after : Store) : Prop := ∀ task ∈ after.tasks.rows, ∃ old ∈ s.tasks.rows, task.goalId = old.goalId

structure NamesStored (s : Store) : Prop where
  tasks : ∀ task ∈ s.tasks.rows, s.goalExists task.goalId = true
  coverage : ∀ row ∈ s.goalCoverage.rows, s.goalExists row.goalId = true

section
variable {s middle after : Store} {id : String} {now : Int} {write : TaskWrite} {note : EventNote}

theorem namesStay_of_same (same : after.tasks = s.tasks) : s.NamesStay after := by
  intro task member
  exact ⟨task, same ▸ member, rfl⟩

theorem NamesStay.trans (first : s.NamesStay middle) (second : middle.NamesStay after) : s.NamesStay after := by
  intro task member
  obtain ⟨between, known, same⟩ := second task member
  obtain ⟨old, stored, same'⟩ := first between known
  exact ⟨old, stored, same.trans same'⟩

theorem namesStay_of_moved {task : Task} (wrote : after = s.moved id now write note task)
    (keeps : ∀ row, (write.leaves row).goalId = row.goalId) : s.NamesStay after := by
  subst wrote
  intro row member
  obtain ⟨old, stored, rfl⟩ := mem_map.mp member
  refine ⟨old, stored, ?_⟩
  split
  · exact keeps old
  · rfl

theorem opened_namesStay (s : Store) (predecessor : String) (now : Int) : s.NamesStay (s.opened predecessor now) := by
  rcases s.opened_cases predecessor now with ⟨same, _⟩ | ⟨_, _, task, _, _, wrote⟩
  · exact namesStay_of_same (congrArg Store.tasks same)
  · exact namesStay_of_moved wrote fun _ => rfl

theorem Change.namesStay {op : Op} (change : Change env s op after) (other : op.assigns = false) : s.NamesStay after := by
  cases change with
  | aside same => exact namesStay_of_same same.tasks
  | checked record numbered done =>
    subst done
    exact namesStay_of_same rfl
  | noted middle found claimed same kind done =>
    subst done
    exact namesStay_of_same same.tasks
  | rewrote rewrite issued found taken admitted kind wrote beside =>
    have own := namesStay_of_moved wrote (rewrite.keeps_goal issued other)
    exact own.trans (namesStay_of_same beside.sameWork.tasks)
  | blocked found unfinished awaits wrote beside =>
    have own := namesStay_of_moved wrote fun _ => rfl
    exact own.trans (namesStay_of_same beside.sameWork.tasks)
  | completed resolved validated stored named agrees found taken wrote done =>
    have own := namesStay_of_moved wrote fun _ => rfl
    split at done
    · subst done
      exact own.trans (opened_namesStay _ _ _)
    · subst done
      exact own
  | abandoned found allowed wrote beside | resolved found waiting kind wrote beside =>
    have own := namesStay_of_moved wrote fun _ => rfl
    exact (own.trans (opened_namesStay _ _ _)).trans (namesStay_of_same beside.sameWork.tasks)
  | created | materialized | amended => cases other
  | reset confirmed =>
    intro task member
    cases member

theorem insertCoverageOn_known {taskId goalId : String} {alsoServes : List String}
    (done : s.insertCoverageOn taskId goalId alsoServes now = .ok after) :
    ∀ row ∈ after.goalCoverage.rows, row ∈ s.goalCoverage.rows ∨ s.goalExists row.goalId = true := by
  refine (foldlM_ok (fun middle : Store => middle.goals = s.goals ∧
    ∀ row ∈ middle.goalCoverage.rows, row ∈ s.goalCoverage.rows ∨ s.goalExists row.goalId = true) done
    ⟨rfl, fun row member => .inl member⟩ ?_).2
  intro before covered middle earlier one
  obtain ⟨goals, listed⟩ := earlier
  obtain ⟨_, one⟩ := ite_else one
  obtain ⟨known, one⟩ := ite_else one
  cases one
  refine ⟨goals, ?_⟩
  intro row member
  rcases mem_insertOrIgnore member with old | rfl
  · exact listed row old
  have stored : before.goalExists covered = true := by simpa using known
  unfold goalExists at stored ⊢
  rw [goals] at stored
  exact .inr stored

theorem Continues.goalExists (on : Continues s.goals after.goals) {goalId : String} (known : s.goalExists goalId = true) :
    after.goalExists goalId = true := by
  obtain ⟨row, found⟩ := isSome_iff_exists.mp known
  obtain ⟨now, stored, id, _⟩ := on.kept row (mem_of_find? found).1
  have named : now.id = goalId := id.trans (mem_of_find? found).2
  exact isSome_iff_exists.mpr ⟨now, find?_eq_some_iff.mpr ⟨stored, named⟩⟩

theorem goalExists_of_mem {row : GoalRow} (member : row ∈ s.goals.rows) : s.goalExists row.id = true :=
  isSome_iff_exists.mpr ⟨row, find?_of_mem member⟩

theorem NamesStored.stays (placed : s.NamesStored) (on : Continues s.goals after.goals) (names : s.NamesStay after)
    (same : after.goalCoverage = s.goalCoverage) : after.NamesStored := by
  refine ⟨?_, ?_⟩
  · intro task member
    obtain ⟨old, stored, named⟩ := names task member
    rw [named]
    exact on.goalExists (placed.tasks old stored)
  · intro row member
    exact on.goalExists (placed.coverage row (same ▸ member))

theorem createTaskAfterOn_namesStored {goalId title acceptance : String} {parent predecessor : Option String}
    {alsoServes : List String} {task : Task} (placed : s.NamesStored)
    (done : s.createTaskAfterOn env goalId title acceptance parent predecessor alsoServes now = .ok (task, after)) :
    after.NamesStored := by
  obtain ⟨known, id, gate, tasks, handoffs, _, _, _, rfl, fresh, _, declared, rfl⟩ := createTaskAfterOn_steps done
  refine ⟨?_, ?_⟩
  · intro row member
    change row ∈ tasks.rows at member
    rw [(insert?_rows fresh).1, mem_append, mem_singleton] at member
    rcases member with old | rfl
    · exact placed.tasks row old
    · exact known
  · intro row member
    rcases insertCoverageOn_known declared row member with old | stored
    · exact placed.coverage row old
    · exact stored

theorem materializeTasks_namesStored {drafts : List TaskDraft} (placed : s.NamesStored)
    (done : s.materializeTasks env drafts now = .ok after) : after.NamesStored := by
  refine materializeTasks_keeps NamesStored done placed ?_
  intro before draft task created earlier made
  exact createTaskAfterOn_namesStored earlier made

theorem declareCoverage_known {agent : String} {alsoServes serves : List String}
    (done : s.declareCoverage id agent alsoServes now = .ok (serves, after)) :
    ∀ row ∈ after.goalCoverage.rows, row ∈ s.goalCoverage.rows ∨ s.goalExists row.goalId = true := by
  simp only [declareCoverage, throw_eq, error_bind, pure_eq] at done
  split at done
  · cases done
  obtain ⟨_, done⟩ := ite_else done
  obtain ⟨_, done⟩ := ite_else done
  obtain ⟨covered, declared, done⟩ := bind_ok done
  obtain ⟨last, logged, done⟩ := bind_ok done
  cases done
  have known := insertCoverageOn_known declared
  unfold record at logged
  split at logged <;> cases logged
  exact known

theorem reconnectClaimClause_namesStored {agent successor : String} (placed : s.NamesStored)
    (done : s.reconnectClaimClause id agent now = .ok (successor, after)) :
    ∀ task ∈ after.tasks.rows, s.goalExists task.goalId = true := by
  obtain ⟨_, note, _, _, _, _, _, middle, ⟨task, _, _, wrote⟩, beside⟩ := reconnectClaimClause_ok done
  have stored : s.goalExists successor = true := by
    unfold reconnectClaimClause at done
    simp only [throw_eq, error_bind, pure_eq, transition_eq, ok_bind] at done
    split at done
    · cases done
    obtain ⟨_, done⟩ := ite_else done
    split at done
    · cases done
    split at done
    · cases done
    rename_i only single
    have member : only ∈ s.goals.rows := (mem_filter.mp (single ▸ mem_singleton_self only)).1
    split at done <;> cases done
    exact goalExists_of_mem member
    next => cases done
  intro row member
  rw [beside.sameWork.tasks, wrote] at member
  obtain ⟨old, known, rfl⟩ := mem_map.mp member
  split
  · exact stored
  · exact placed.tasks old known

/-- An amendment moves a task along a link, and links lead to stored goals. -/
theorem amendConstitution_namesStored {reads : AmendmentReads} {draftId amendedBy approvedBy rationale : String}
    {amendment : ConstitutionAmendment} (spelled : s.Spelled) (placed : s.NamesStored)
    (done : amendConstitution env reads s draftId amendedBy approvedBy rationale now = .ok (amendment, after)) :
    after.NamesStored := by
  have on := amendConstitution_continues done
  have left := spelled.continues on
  obtain ⟨before, staged, amendments, _, _, setup, _, _, _, _, _, done⟩ := amendConstitution_ok done
  have coverage : after.goalCoverage = s.goalCoverage := by
    rw [done, setup]
    rfl
  have carried : after.tasks = (staged.carryTasks before now).tasks := by rw [done]
  have held : staged.tasks = s.tasks := by
    rw [setup]
    rfl
  have goals : after.goals = staged.goals := by
    rw [done]
    rfl
  refine ⟨?_, ?_⟩
  · intro task member
    rw [carried] at member
    obtain ⟨old, known, rfl⟩ := mem_map.mp member
    have stays := on.goalExists (placed.tasks old (held ▸ known))
    split
    · change after.goalExists ((staged.movedTo before old.goalId).getD old.goalId) = true
      cases moves : staged.movedTo before old.goalId with
      | none => exact stays
      | some heir =>
        obtain ⟨row, found, linked⟩ := bind_eq_some_iff.mp moves
        have listed := (mem_of_find? (filter_eq_some_iff.mp found).1).1
        obtain ⟨next, there, id, _⟩ := left.heirs row (goals ▸ listed) heir linked
        rw [getD_some, ← id]
        exact goalExists_of_mem there
    · exact stays
  · intro row member
    exact on.goalExists (placed.coverage row (coverage ▸ member))

theorem Spelled.cleared (s : Store) : s.cleared.Spelled where
  slugs _ member := absurd member not_mem_nil
  ids _ member := absurd member not_mem_nil
  heirs _ member := absurd member not_mem_nil

theorem NamesStored.cleared (s : Store) : s.cleared.NamesStored where
  tasks _ member := absurd member not_mem_nil
  coverage _ member := absurd member not_mem_nil

theorem perform_spelled (hex : env.Hexadecimal) {op : Op} (reads : ∀ seen ∈ op.reads, seen.Spelled)
    (plainly : s.MintsPlainly env op) (spelled : s.Spelled) : (s.perform env op).Spelled := by
  rcases perform_continues hex reads plainly with on | cleared
  · exact spelled.continues on
  · rw [cleared]
    exact .cleared s

theorem settle_namesStored {result : Result Store} (placed : s.NamesStored)
    (each : ∀ after, result = .ok after → after.NamesStored) : (s.settle result).NamesStored := by
  cases result with
  | error failure => exact placed
  | ok after => exact each after rfl

theorem settled_namesStored {α : Type} {result : Result (α × Store)} (placed : s.NamesStored)
    (each : ∀ value after, result = .ok (value, after) → after.NamesStored) : (s.settled result).NamesStored := by
  rcases result with failure | ⟨value, after⟩
  · exact placed
  · exact each value after rfl

theorem perform_namesStored (hex : env.Hexadecimal) {op : Op} (reads : ∀ seen ∈ op.reads, seen.Spelled)
    (plainly : s.MintsPlainly env op) (spelled : s.Spelled) (placed : s.NamesStored) : (s.perform env op).NamesStored := by
  rcases perform_continues hex reads plainly with on | cleared
  · have coverage (outside : TableName.goalCoverage ∉ op.writes) :
        (s.perform env op).goalCoverage = s.goalCoverage := s.perform_touches env op .goalCoverage outside
    have names := (perform_change env s op).namesStay
    cases op with
    | createTask => exact settled_namesStored placed fun _ _ done => createTaskAfterOn_namesStored placed done
    | materialize => exact settle_namesStored placed fun _ done => materializeTasks_namesStored placed done
    | amend => exact settled_namesStored placed fun _ _ done => amendConstitution_namesStored spelled placed done
    | declareCoverage id agent alsoServes now =>
      refine settled_namesStored placed fun _ after done => ?_
      have known := declareCoverage_known done
      obtain ⟨_, _, _, _, rfl⟩ := declareCoverage_ok done
      refine ⟨placed.tasks, ?_⟩
      intro row member
      rcases known row member with old | stored
      · exact placed.coverage row old
      · exact stored
    | reconnect id agent now =>
      refine settled_namesStored placed fun _ after done => ?_
      have known := reconnectClaimClause_namesStored placed done
      obtain ⟨_, _, _, _, _, _, _, moves⟩ := reconnectClaimClause_ok done
      have goals : after.goals = s.goals := moves.touches .goals (by simp)
      have same : after.goalCoverage = s.goalCoverage := moves.touches .goalCoverage (by simp)
      refine ⟨?_, ?_⟩
      · intro task member
        exact (continues_of_same goals).goalExists (known task member)
      · intro row member
        exact (continues_of_same goals).goalExists (placed.coverage row (same ▸ member))
    | reset confirmation =>
      refine settle_namesStored placed fun after done => ?_
      unfold resetDatabase at done
      split at done <;> cases done
      exact .cleared s
    | _ => exact placed.stays on (names rfl) (coverage (by simp [Op.writes]))
  · rw [cleared]
    exact .cleared s

end
end Store

section
variable {history : List (Entry Store Op)} {state : Store}

theorem spelled_of_run (hex : env.Hexadecimal) (run : (localStore env).Run history state)
    (plainly : ∀ entry ∈ history, entry.before.MintsPlainly env entry.op) :
    (∀ seen ∈ (localStore env).visited history, seen.Spelled) ∧ state.NamesStored := by
  induction run with
  | start =>
    refine ⟨?_, .cleared {}⟩
    intro seen member
    cases mem_singleton.mp member
    exact .cleared {}
  | @step history before past op ready ih =>
    obtain ⟨visited, placed⟩ := ih fun entry member => plainly entry (mem_cons_of_mem _ member)
    have reads : ∀ seen ∈ op.reads, seen.Spelled := fun seen member => visited seen (ready.1 seen member)
    have met : before.MintsPlainly env op := plainly _ mem_cons_self
    have here := visited before past.current_visited
    refine ⟨?_, Store.perform_namesStored hex reads met here placed⟩
    intro seen member
    rcases mem_cons.mp member with rfl | earlier
    · exact Store.perform_spelled hex reads met here
    · exact visited seen earlier

end
end MindLeak.Lodestar
