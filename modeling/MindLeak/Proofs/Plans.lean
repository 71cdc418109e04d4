import MindLeak.Proofs.CarryOver
import MindLeak.Proofs.Materialization
import MindLeak.Proofs.Projections

/-! What plans create over a run: a task only where no live one of its title
stands under its goal, and one clause for every constraint drafted. -/

namespace MindLeak.Lodestar

open List Table

def Goal.stated (goal : Goal) : DesignConstraintDraft := ⟨goal.kind, goal.title, goal.statement⟩

variable {env : Env} {s : Store} {now : Int}

namespace Store
variable {seen after : Store}

def KeepsTexts (goals after : Table GoalRow) : Prop :=
  ∀ id row, goals.find? id = some row → ∃ row', after.find? id = some row' ∧ row'.toGoal.stated = row.toGoal.stated

theorem KeepsTexts.refl (goals : Table GoalRow) : KeepsTexts goals goals := fun _ row found => ⟨row, found, rfl⟩

theorem KeepsTexts.trans {goals middle after : Table GoalRow} (first : KeepsTexts goals middle)
    (second : KeepsTexts middle after) : KeepsTexts goals after := by
  intro id row found
  obtain ⟨row', found', same⟩ := first id row found
  obtain ⟨row'', found'', same'⟩ := second id row' found'
  exact ⟨row'', found'', same'.trans same⟩

theorem KeepsTexts.inserted {goals after : Table GoalRow} {row : GoalRow} (inserted : goals.insert? row = some after) :
    KeepsTexts goals after := by
  intro id old found
  have here := find?_insert inserted id
  rw [if_neg] at here
  · exact ⟨old, here.trans found, rfl⟩
  · rintro rfl
    rw [(insert?_rows inserted).2] at found
    cases found

theorem KeepsTexts.mapped {goals after : Table GoalRow} {set : GoalRow → GoalRow}
    (find : ∀ id, after.find? id = (goals.find? id).map set)
    (same : ∀ row, (set row).toGoal.stated = row.toGoal.stated) : KeepsTexts goals after := by
  intro id row found
  exact ⟨set row, by rw [find, found, Option.map_some], same row⟩

theorem KeepsTexts.updated (goals : Table GoalRow) (selects : GoalRow → Bool) (set : GoalRow → GoalRow)
    (keeps : ∀ row, Row.key (set row) = Row.key row) (same : ∀ row, (set row).toGoal.stated = row.toGoal.stated) :
    KeepsTexts goals (goals.update selects set keeps) := by
  refine .mapped (find?_update goals selects set keeps) fun row => ?_
  split
  · exact same row
  · rfl

theorem keepsTexts_of_same (same : after.goals = s.goals) : KeepsTexts s.goals after.goals := by
  rw [same]
  exact .refl s.goals

theorem settle_keepsTexts {result : Result Store} (each : ∀ after, result = .ok after → KeepsTexts s.goals after.goals) :
    KeepsTexts s.goals (s.settle result).goals := by
  cases result with
  | error failure => exact .refl s.goals
  | ok after => exact each after rfl

theorem settled_keepsTexts {α : Type} {result : Result (α × Store)}
    (each : ∀ value after, result = .ok (value, after) → KeepsTexts s.goals after.goals) :
    KeepsTexts s.goals (s.settled result).goals := by
  rcases result with failure | ⟨value, after⟩
  · exact .refl s.goals
  · exact each value after rfl

theorem Stated.keepsTexts {goal : Goal} (stated : s.Stated after goal) : KeepsTexts s.goals after.goals :=
  .inserted stated.goals

theorem imported_keepsTexts (imported : Relation.ReflTransGen Imported s after) : KeepsTexts s.goals after.goals := by
  induction imported with
  | refl => exact .refl s.goals
  | tail _ one ih =>
    obtain ⟨goal, stated, _⟩ := one
    exact ih.trans stated.keepsTexts

theorem amendConstitution_keepsTexts {reads : AmendmentReads} {draftId amendedBy approvedBy rationale : String}
    {amendment : ConstitutionAmendment}
    (done : amendConstitution env reads s draftId amendedBy approvedBy rationale now = .ok (amendment, after)) :
    KeepsTexts s.goals after.goals := by
  obtain ⟨before, staged, amendments, _, apart, setup, _, _, _, _, _, done⟩ := amendConstitution_ok done
  have goals : after.goals = (s.handedOn before draftId (Text.trim amendedBy) now).goals := by
    rw [done, setup]
    rfl
  refine .mapped (fun id => by rw [goals, find?_handedOn apart]) fun row => ?_
  have handed : (row.handedOver before draftId).toGoal.stated = row.toGoal.stated := by
    simp only [GoalRow.handedOver, GoalRow.restated, Goal.stated]
    repeat' split
    all_goals rfl
  split
  · exact handed
  · exact handed

theorem perform_keepsTexts (env : Env) {op : Op} (apart : ∀ confirmation, op ≠ .reset confirmation) :
    KeepsTexts s.goals (s.perform env op).goals := by
  cases op with
  | defineGoal => exact settled_keepsTexts fun _ _ done => (defineGoalOn_ok done).1.keepsTexts
  | importGoals => exact settle_keepsTexts fun _ done => imported_keepsTexts (importExternalGoals_ok done)
  | supersede =>
    refine settled_keepsTexts fun _ _ done => ?_
    obtain ⟨_, _, _, stated⟩ := supersedeGoal_ok done
    exact stated.keepsTexts
  | retire oldId newId agent now =>
    refine .updated s.goals _ _ ?_ ?_ <;> exact fun _ => rfl
  | contract =>
    refine settle_keepsTexts fun _ done => ?_
    simp only [completeClauseContract, throw_eq, error_bind, pure_eq] at done
    repeat' split at done
    all_goals cases done
    refine .updated s.goals _ _ ?_ ?_ <;> exact fun _ => rfl
  | reviewPack =>
    refine settle_keepsTexts fun _ done => ?_
    rcases reviewPackClause_ok done with same | ⟨goal, stated, _⟩
    · exact keepsTexts_of_same same.policy.goals
    · exact stated.keepsTexts
  | copyClause =>
    refine settle_keepsTexts fun _ done => ?_
    obtain ⟨_, stated, _⟩ := copyClauseToVersion_ok done
    exact stated.keepsTexts
  | draftClause => exact settled_keepsTexts fun _ _ done => (draftClause_ok done).1.keepsTexts
  | activate draftId activatedBy now =>
    refine settle_keepsTexts fun _ done => ?_
    rw [(activateConstitution_ok done).2.2]
    refine .updated s.goals _ _ ?_ ?_ <;> exact fun _ => rfl
  | amend => exact settled_keepsTexts fun _ _ done => amendConstitution_keepsTexts done
  | reset confirmation => exact absurd rfl (apart confirmation)
  | _ => exact keepsTexts_of_same (perform_touches env s _ .goals (by simp [Op.writes]))

theorem defineGoalOn_stated {kind : GoalKind} {title statement : String} {parent : Option String} {goal : Goal}
    (done : s.defineGoalOn env kind title statement parent now = .ok (goal, after)) :
    goal.stated = ⟨kind, title, statement⟩ := by
  obtain ⟨_, _, rfl, _⟩ := defineGoalOn_inserts done
  rfl

variable {task : Task}

theorem createTaskAfterOn_named {goalId title acceptance : String} {parent predecessor : Option String}
    {alsoServes : List String}
    (done : s.createTaskAfterOn env goalId title acceptance parent predecessor alsoServes now = .ok (task, after)) :
    task.goalId = goalId ∧ task.title = title := by
  obtain ⟨_, _, _, _, _, _, _, _, rfl, _⟩ := createTaskAfterOn_steps done
  exact ⟨rfl, rfl⟩

theorem liveTaskTitledOn_none {goalId title : String} (absent : s.liveTaskTitledOn goalId title = none)
    (stored : task ∈ s.tasks.rows) (titled : task.title = title) (live : task.status.isFinished = false) :
    goalSlug task.goalId ≠ goalSlug goalId := by
  have none_matches := List.find?_eq_none.mp absent task
    ((perm_insertionSort _ _).mem_iff.mpr (mem_filter.mpr ⟨stored, by simp [titled, live]⟩))
  simpa using none_matches

def NoTwins (s after : Store) : Prop := ∀ task ∈ after.tasks.rows, s.getTask task.id = none →
  ∀ other ∈ after.tasks.rows, other.title = task.title → goalSlug other.goalId = goalSlug task.goalId →
    other.status.isFinished = false → other.id = task.id

/-- What a plan may do to the store on its way: create live tasks without twins,
and state nothing. -/
structure Gathered (s after : Store) : Prop where
  twins : s.NoTwins after
  live : ∀ task ∈ after.tasks.rows, s.getTask task.id = none → task.status.isFinished = false
  goals : after.goals = s.goals

theorem Gathered.refl (s : Store) : s.Gathered s := by
  have known (task : Task) (member : task ∈ s.tasks.rows) (absent : s.getTask task.id = none) : False := by
    have found : s.getTask task.id = some task := find?_of_mem member
    cases found.symm.trans absent
  exact ⟨fun task member absent => (known task member absent).elim,
    fun task member absent => (known task member absent).elim, rfl⟩

theorem Gathered.created {middle : Store} {goalId title acceptance : String} (gathered : s.Gathered middle)
    (absent : middle.liveTaskTitledOn goalId title = none)
    (made : middle.createTaskAfterOn env goalId title acceptance none none [] now = .ok (task, after)) :
    s.Gathered after := by
  have created := createTaskAfterOn_ok made
  have named := createTaskAfterOn_named made
  have rows := (insert?_rows created.tasks).1
  have begun : task.status.isFinished = false := by
    obtain ⟨_, _, _, _, _, gate, rfl⟩ := created.row
    cases gate <;> rfl
  have alone (other : Task) (stored : other ∈ middle.tasks.rows) (titled : other.title = task.title)
      (shared : goalSlug other.goalId = goalSlug task.goalId) (live : other.status.isFinished = false) : False :=
    liveTaskTitledOn_none absent stored (titled.trans named.2) live (named.1 ▸ shared)
  refine ⟨?_, ?_, ?_⟩
  · intro first inFirst fresh other inOther titled shared live
    rw [rows, mem_append, mem_singleton] at inFirst inOther
    rcases inFirst with inFirst | rfl <;> rcases inOther with inOther | rfl
    · exact gathered.twins first inFirst fresh other inOther titled shared live
    · exact (alone first inFirst titled.symm shared.symm (gathered.live first inFirst fresh)).elim
    · exact (alone other inOther titled shared live).elim
    · rfl
  · intro first inFirst fresh
    rw [rows, mem_append, mem_singleton] at inFirst
    rcases inFirst with inFirst | rfl
    · exact gathered.live first inFirst fresh
    · exact begun
  · exact created.policy.goals.trans gathered.goals

end Store

variable {decay : Decay} {seen db after : Database} {s' : Store} {d d' : Designs} {id actor : String}
  {plan : DesignMaterializationPlan} {repair : Bool} {planned : Int}

namespace Database

theorem planTasks_gathered {tasks : List Task} (done : planTasks env s plan now = .ok (tasks, s')) : s.Gathered s' := by
  unfold planTasks at done
  split at done
  next =>
    refine foldlM_ok (fun both => s.Gathered both.2) done (.refl s) ?_
    rintro ⟨tasks, middle⟩ draft ⟨tasks', after⟩ gathered one
    simp only [draftTask] at one
    split at one
    next =>
      cases one
      exact gathered
    next absent =>
      obtain ⟨⟨task, created⟩, made, one⟩ := bind_ok one
      cases one
      exact gathered.created absent made
  next =>
    obtain ⟨_, _, done⟩ := bind_ok done
    cases done
    exact .refl s
  next =>
    cases done
    exact .refl s

theorem validateMaterializationPlan_constraints (valid : validateMaterializationPlan plan = .ok ()) :
    ∀ draft ∈ plan.constraints, draft.kind.isNormative = true := by
  have checked : (plan.constraints.forM fun constraint =>
      if (!constraint.kind.isNormative || Text.isBlank constraint.title || Text.isBlank constraint.statement) = true then
        Except.error (LodestarError.invalid "materialized constraints require a normative kind, title, and statement")
      else Except.ok ()) = .ok () := by
    simp only [validateMaterializationPlan, throw_eq, error_bind, pure_eq] at valid
    repeat' split at valid
    all_goals first
      | obtain ⟨_, _, valid⟩ := bind_ok valid
        obtain ⟨_, _, valid⟩ := bind_ok valid
        exact valid
      | cases valid
  intro draft member
  have passed := forM_ok checked draft member
  obtain ⟨sound, passed⟩ := ite_else passed
  simp only [Bool.or_eq_true, not_or, Bool.not_eq_true, Bool.not_eq_false'] at sound
  exact sound.1.1

end Database

namespace Designs
variable {goals after : Table GoalRow} {other : String} {drafts : List DesignConstraintDraft}

def constraintLinks (d : Designs) (id : String) : List DesignGoalLink :=
  d.goalLinks.rows.filter fun link => decide (link.designId = id) && decide (link.role ≠ .objective)

def draftedConstraints (d : Designs) (id : String) : List DesignConstraintDraft :=
  (d.materializations.rows.filter fun record => decide (record.designId = id)).flatMap fun record =>
    record.plan.constraints

/-- The links of a design lead to clauses that state `drafts`, in their order. -/
def Carries (d : Designs) (goals : Table GoalRow) (id : String) (drafts : List DesignConstraintDraft) : Prop :=
  ((d.constraintLinks id).map fun link => (goals.find? link.goalId).map fun row => row.toGoal.stated) = drafts.map some

theorem Carries.kept (carries : d.Carries goals id drafts) (texts : Store.KeepsTexts goals after) :
    d.Carries after id drafts := by
  refine Eq.trans (map_congr_left fun link member => ?_) carries
  have stated := mem_map_of_mem member (f := fun link => (goals.find? link.goalId).map fun row => row.toGoal.stated)
  rw [carries] at stated
  obtain ⟨draft, _, states⟩ := mem_map.mp stated
  obtain ⟨row, found, _⟩ := Option.map_eq_some_iff.mp states.symm
  obtain ⟨row', found', same⟩ := texts link.goalId row found
  rw [found, found', Option.map_some, Option.map_some, same]

theorem Carries.linked (carries : d.Carries goals id drafts) {goalId : String} {role : GoalKind} {position : Nat}
    (normative : role ≠ .objective) {row : GoalRow} (found : goals.find? goalId = some row)
    (done : Database.linkGoal id role d (goalId, position) = .ok d') :
    d'.Carries goals id (drafts ++ [row.toGoal.stated]) := by
  obtain ⟨goalLinks, inserted, rfl⟩ := Database.linkGoal_ok done
  have taken : (decide (id = id) && decide (role ≠ .objective)) = true := by simp [normative]
  unfold Carries constraintLinks at *
  rw [(insert?_rows inserted).1, filter_append, filter_singleton, taken, cond_true, map_append,
    carries, map_append, map_singleton, map_singleton, found, Option.map_some]

theorem linkGoal_constraintLinks {role : GoalKind} {placed : String × Nat}
    (done : Database.linkGoal id role d placed = .ok d') (apart : role = .objective ∨ other ≠ id) :
    d'.constraintLinks other = d.constraintLinks other := by
  obtain ⟨goalLinks, inserted, rfl⟩ := Database.linkGoal_ok done
  have skipped : (decide (id = other) && decide (role ≠ .objective)) = false := by
    rcases apart with rfl | differ
    · simp
    · simp [Ne.symm differ]
  unfold constraintLinks
  rw [(insert?_rows inserted).1, filter_append, filter_singleton, skipped, cond_false, append_nil]

theorem Carries.added (carries : d.Carries s.goals other drafts) {draft : DesignConstraintDraft} {position : Nat}
    (normative : draft.kind.isNormative = true)
    (done : Database.addConstraint env id now (d, s) (draft, position) = .ok (d', s')) :
    d'.Carries s'.goals other (drafts ++ if other = id then [draft] else []) := by
  obtain ⟨goal, defined, linked⟩ := Database.addConstraint_ok done
  have stated := (Store.defineGoalOn_ok defined).1
  have kept := carries.kept stated.keepsTexts
  have found : s'.goals.find? goal.id = some { toGoal := goal } := by
    rw [find?_insert stated.goals]
    exact if_pos rfl
  split
  next here =>
    subst here
    have role : draft.kind ≠ .objective := by
      intro same
      rw [same] at normative
      cases normative
    have added := kept.linked role found linked
    rwa [show ({ toGoal := goal } : GoalRow).toGoal.stated = draft from Store.defineGoalOn_stated defined] at added
  next differ =>
    rw [append_nil]
    unfold Carries at *
    rw [linkGoal_constraintLinks linked (.inr differ)]
    exact kept

theorem Carries.addedAll {constraints : List DesignConstraintDraft} {offset : Nat} (carries : d.Carries s.goals other drafts)
    (normative : ∀ draft ∈ constraints, draft.kind.isNormative = true)
    (done : (constraints.zipIdx offset).foldlM (Database.addConstraint env id now) (d, s) = .ok (d', s')) :
    d'.Carries s'.goals other (drafts ++ if other = id then constraints else []) := by
  induction constraints generalizing d s drafts offset with
  | nil =>
    cases done
    rwa [ite_self, append_nil]
  | cons draft rest ih =>
    obtain ⟨⟨middle, s''⟩, one, done⟩ := bind_ok done
    have first := carries.added (normative draft mem_cons_self) one
    have all := ih first (fun other member => normative other (mem_cons_of_mem _ member)) done
    split at all
    next here => simpa only [here, if_true, append_assoc, singleton_append] using all
    next differ => simpa only [differ, if_false, append_nil] using all

def SamePlans (d after : Designs) : Prop := after.goalLinks = d.goalLinks ∧ after.materializations = d.materializations

theorem SamePlans.refl (d : Designs) : d.SamePlans d := ⟨rfl, rfl⟩

theorem registerDesignItem_samePlans {adrPath title summary : String} {proposedBy : Option String}
    (done : d.registerDesignItem id adrPath title summary proposedBy now = .ok d') : d.SamePlans d' := by
  unfold registerDesignItem at done
  split at done
  all_goals cases done
  exact .refl d

theorem reconcileDesignItem_samePlans (d : Designs) (metadata : DesignMetadata) (now : Int) :
    d.SamePlans (d.reconcileDesignItem metadata now) := by
  simp only [reconcileDesignItem]
  split <;> exact .refl d

theorem applyDesignAction_samePlans {action : DesignActionKind} {human why : String}
    (done : d.applyDesignAction id action human why now = some d') : d.SamePlans d' := by
  simp only [applyDesignAction] at done
  split at done
  all_goals cases done
  exact .refl d

theorem applyDesignActions_samePlans {ids : List String} {action : DesignActionKind} {human why : String}
    (done : d.applyDesignActions ids action human why now = .ok d') : d.SamePlans d' := by
  obtain ⟨_, done⟩ := ite_else done
  refine foldlM_ok d.SamePlans done (.refl d) fun before id middle same one => ?_
  unfold actOn at one
  repeat' split at one
  all_goals cases one
  next acted =>
    obtain ⟨links, plans⟩ := applyDesignAction_samePlans acted
    exact ⟨links.trans same.1, plans.trans same.2⟩

theorem decideDesignItem_samePlans {target : DesignStatus} {decidedBy : String} {why : Option String}
    (done : d.decideDesignItem id target decidedBy why now = some d') : d.SamePlans d' := by
  unfold decideDesignItem at done
  split at done
  · exact applyDesignAction_samePlans done
  split at done
  all_goals cases done
  exact .refl d

theorem reopenUndecidedDesign_samePlans (done : d.reopenUndecidedDesign id now = .ok d') : d.SamePlans d' := by
  unfold reopenUndecidedDesign at done
  split at done
  all_goals cases done
  exact .refl d

theorem attributeDesignDecision_samePlans {human : String} (done : d.attributeDesignDecision id human now = .ok d') :
    d.SamePlans d' := by
  unfold attributeDesignDecision at done
  split at done
  all_goals cases done
  exact .refl d

theorem supersedeDesignItem_samePlans {seen : Designs} {supersededBy human : String}
    (done : seen.supersedeDesignItem d id supersededBy human now = .ok d') : d.SamePlans d' := by
  unfold supersedeDesignItem at done
  repeat' split at done
  all_goals cases done
  exact .refl d

end Designs

namespace Database

def PlansLinked (db : Database) : Prop :=
  ∀ id, db.designs.Carries db.store.goals id (db.designs.draftedConstraints id)

theorem PlansLinked.kept (linked : db.PlansLinked) (texts : Store.KeepsTexts db.store.goals after.store.goals)
    (same : db.designs.SamePlans after.designs) : after.PlansLinked := by
  intro id
  have kept := (linked id).kept texts
  unfold Designs.Carries Designs.constraintLinks Designs.draftedConstraints at *
  rw [same.1, same.2]
  exact kept

theorem opened_constraintLinks (d : Designs) (id : String) (repair : Bool) (planned now : Int)
    (materializations : Table DesignMaterializationRecord) (other : String) :
    (opened d id repair planned now materializations).constraintLinks other = d.constraintLinks other := by
  refine (filter_filter ..).trans (filter_congr fun link _ => ?_)
  cases objective : decide (link.role = .objective) <;> simp_all

theorem opened_draftedConstraints {d : Designs} {materializations : Table DesignMaterializationRecord} (repair : Bool)
    (inserted : d.materializations.insert? ⟨id, planned + 1, plan, actor, now⟩ = some materializations) (other : String) :
    (opened d id repair planned now materializations).draftedConstraints other =
      d.draftedConstraints other ++ if other = id then plan.constraints else [] := by
  unfold Designs.draftedConstraints
  rw [show (opened d id repair planned now materializations).materializations = materializations from rfl,
    (insert?_rows inserted).1, filter_append, flatMap_append, filter_singleton]
  by_cases here : other = id
  · simp [here]
  · simp [here, Ne.symm here]

def LinksKept (d after : Designs) : Prop :=
  (∀ id, after.constraintLinks id = d.constraintLinks id) ∧ after.materializations = d.materializations

theorem linkedTasks_kept {s : Store} {tasks : List (Task × Nat)}
    (done : tasks.foldlM (linkTask s id) d = .ok d') : LinksKept d d' := by
  refine foldlM_ok (LinksKept d) done ⟨fun _ => rfl, rfl⟩ fun before placed after kept one => ?_
  obtain ⟨_, _, _, rfl⟩ := linkTask_ok one
  exact kept

theorem linkedObjectives_kept {goals : List (String × Nat)}
    (done : goals.foldlM (linkGoal id .objective) d = .ok d') : LinksKept d d' := by
  refine foldlM_ok (LinksKept d) done ⟨fun _ => rfl, rfl⟩ fun before placed after kept one => ?_
  refine ⟨fun other => (Designs.linkGoal_constraintLinks one (.inl rfl)).trans (kept.1 other), ?_⟩
  obtain ⟨_, _, rfl⟩ := linkGoal_ok one
  exact kept.2

theorem addedConstraints_materializations {s s' : Store} {constraints : List (DesignConstraintDraft × Nat)}
    (done : constraints.foldlM (addConstraint env id now) (d, s) = .ok (d', s')) :
    d'.materializations = d.materializations := by
  refine foldlM_ok (fun both => both.1.materializations = d.materializations) done rfl ?_
  rintro ⟨before, _⟩ placed ⟨after, _⟩ kept one
  obtain ⟨_, _, linked⟩ := addConstraint_ok one
  obtain ⟨_, _, rfl⟩ := linkGoal_ok linked
  exact kept

theorem writePlan_linked (valid : validateMaterializationPlan plan = .ok ())
    (done : writePlan env db id plan actor repair planned now = .ok after) (linked : db.PlansLinked) :
    after.PlansLinked := by
  obtain ⟨materializations, tasks, middle, listed, placed, d, s, _, inserted, gathered, links, objectives, constraints, rfl⟩ :=
    writePlan_ok done
  intro other
  have first := linkedTasks_kept links
  have second := linkedObjectives_kept objectives
  have before : placed.Carries middle.goals other (db.designs.draftedConstraints other) := by
    unfold Designs.Carries
    rw [second.1, first.1, opened_constraintLinks, (planTasks_gathered gathered).goals]
    exact linked other
  have drafted : d.draftedConstraints other =
      db.designs.draftedConstraints other ++ if other = id then plan.constraints else [] := by
    rw [← opened_draftedConstraints repair inserted other]
    unfold Designs.draftedConstraints
    rw [addedConstraints_materializations constraints, second.2, first.2]
  have added := before.addedAll (validateMaterializationPlan_constraints valid) constraints
  rw [← drafted] at added
  exact added

theorem settleDesigns_linked {result : Result Designs} (linked : db.PlansLinked)
    (same : ∀ after, result = .ok after → db.designs.SamePlans after) : (db.settleDesigns result).PlansLinked := by
  cases returned : result with
  | error failure => exact linked
  | ok after => exact linked.kept (.refl _) (same after returned)

theorem perform_linked (env : Env) (decay : Decay) (op : DatabaseOp) (linked : db.PlansLinked) :
    (db.perform env decay op).PlansLinked := by
  cases op with
  | «local» op =>
    rcases performLocal_cases env db op with ⟨confirmation, rfl⟩ | ⟨apart, ordinary⟩
    · cases returned : db.resetDatabase confirmation with
      | error failure => simpa only [perform, performLocal, returned, settle] using linked
      | ok after =>
        obtain ⟨store, _, cleared⟩ := bind_ok returned
        cases cleared
        simp only [perform, performLocal, returned, settle]
        exact fun _ => rfl
    · simp only [perform, ordinary]
      exact linked.kept (Store.perform_keepsTexts env apart) (.refl db.designs)
  | federated op =>
    refine linked.kept ?_ (.refl db.designs)
    rcases db.store.performFederated_ok op with same | ⟨_, _, _, moves⟩
    · exact same ▸ .refl _
    · exact Store.keepsTexts_of_same (moves.touches .goals (by simp))
  | registerDesign => exact settleDesigns_linked linked fun _ done => Designs.registerDesignItem_samePlans done
  | reconcileDesign metadata now => exact linked.kept (.refl _) (Designs.reconcileDesignItem_samePlans ..)
  | designActions => exact settleDesigns_linked linked fun _ done => Designs.applyDesignActions_samePlans done
  | decideDesign id target decidedBy why now =>
    refine linked.kept (.refl _) ?_
    cases decided : db.designs.decideDesignItem id target decidedBy why now with
    | none =>
      simp only [perform, decided]
      exact .refl db.designs
    | some after =>
      simp only [perform, decided]
      exact Designs.decideDesignItem_samePlans decided
  | reopenDesign => exact settleDesigns_linked linked fun _ done => Designs.reopenUndecidedDesign_samePlans done
  | attributeDesign => exact settleDesigns_linked linked fun _ done => Designs.attributeDesignDecision_samePlans done
  | supersedeDesign => exact settleDesigns_linked linked fun _ done => Designs.supersedeDesignItem_samePlans done
  | materializeDesign seen id plan actor repair now =>
    cases returned : materializeDesignItem env seen db id plan actor repair now with
    | error failure => simpa only [perform, returned, settle] using linked
    | ok after =>
      simp only [perform, returned, settle]
      rcases materializeDesignItem_ok returned with rfl | ⟨_, _, _, valid, wrote⟩
      · exact linked
      · exact writePlan_linked valid wrote linked
  | recordSourced | retireSource | retireKnowledge =>
    simp only [perform]
    split <;> exact linked
  | _ => exact linked

theorem PlansLinked.stated (linked : db.PlansLinked) (id : String) :
    ((db.linkedConstraintGoals id).map Goal.stated).Perm
      ((db.designs.materializationHistory id).flatMap fun record => record.plan.constraints) := by
  have all : (db.designs.constraintLinks id).filterMap (fun link =>
      (db.store.goals.find? link.goalId).map fun row => row.toGoal.stated) = db.designs.draftedConstraints id := by
    have states := congrArg (List.filterMap fun stated => stated) (linked id)
    simpa only [filterMap_map, Function.comp_def, filterMap_some] using states
  have sorted : (db.linkedConstraintGoals id).map Goal.stated =
      ((db.designs.constraintLinks id).insertionSort fun left right => left.position ≤ right.position).filterMap
        fun link => (db.store.goals.find? link.goalId).map fun row => row.toGoal.stated := by
    rw [linkedConstraintGoals, map_filterMap]
    simp only [Option.map_map, Function.comp_def]
    rfl
  rw [sorted]
  refine ((perm_insertionSort _ _).filterMap _).trans ?_
  rw [all]
  exact ((perm_insertionSort _ _).flatMap_right _).symm

theorem materializeDesignItem_noTwins
    (done : materializeDesignItem env seen db id plan actor repair now = .ok after) : db.store.NoTwins after.store := by
  rcases materializeDesignItem_ok done with rfl | ⟨_, _, _, _, wrote⟩
  · exact (Store.Gathered.refl _).twins
  obtain ⟨_, _, middle, _, _, d, s, _, _, gathered, _, _, constraints, rfl⟩ := writePlan_ok wrote
  have same : s.tasks = middle.tasks := by
    refine foldlM_ok (fun both => both.2.tasks = middle.tasks) constraints rfl ?_
    rintro ⟨_, before⟩ placed ⟨_, after⟩ kept one
    obtain ⟨goal, defined, _⟩ := addConstraint_ok one
    exact (Store.defineGoalOn_ok defined).1.work.tasks.trans kept
  have twins := (planTasks_gathered gathered).twins
  unfold Store.NoTwins at *
  simpa only [same] using twins

theorem materializeDesignItem_again
    (last : ((seen.designs.materializationHistory id).getLast?.any fun record => decide (record.plan = plan)) = true)
    (done : materializeDesignItem env seen db id plan actor repair now = .ok after) : after = db := by
  rcases materializeDesignItem_ok done with rfl | ⟨_, _, fresh, _, _⟩
  · rfl
  cases found : (seen.designs.materializationHistory id).getLast? with
  | none =>
    rw [found] at last
    cases last
  | some record =>
    rw [found, Option.any_some, decide_eq_true_eq] at last
    rw [found, Option.all_some, decide_eq_true_eq] at fresh
    exact absurd last fresh

end Database

/-- Over any run: a promotion or repair creates a task only where no live one of
its title stands under its goal; the plan written last, given again, changes
nothing; and while the plans of a design draft distinct constraints, the clauses
it is linked to are distinct, whatever was stated elsewhere. -/
theorem plans_create_once {env : Env} {decay : Decay} {history : List (Entry Database DatabaseOp)} {state : Database}
    (run : (anyDatabase env decay).Run history state) :
    (∀ entry ∈ history, ∀ seen id plan actor repair now, entry.op = .materializeDesign seen id plan actor repair now →
      entry.before.store.NoTwins entry.after.store ∧
        (((seen.designs.materializationHistory id).getLast?.any fun record => decide (record.plan = plan)) = true →
          entry.after = entry.before)) ∧
      ∀ seen ∈ (anyDatabase env decay).visited history, ∀ id,
        ((seen.designs.materializationHistory id).flatMap fun record => record.plan.constraints).Nodup →
          ((seen.linkedConstraintGoals id).map Goal.stated).Nodup := by
  have linked := run.visited_good Database.PlansLinked (fun _ => rfl) fun before op good =>
    Database.perform_linked env decay op good
  refine ⟨?_, fun seen visited id distinct => ((linked seen visited).stated id).nodup_iff.mpr distinct⟩
  intro entry member seen id plan actor repair now written
  have applied : entry.after = entry.before.perform env decay entry.op :=
    (run.entry_good (fun _ => True) trivial (fun _ _ _ => trivial) member).2
  rw [written] at applied
  cases returned : Database.materializeDesignItem env seen entry.before id plan actor repair now with
  | error failure =>
    simp only [Database.perform, returned, Database.settle] at applied
    rw [applied]
    exact ⟨(Store.Gathered.refl _).twins, fun _ => rfl⟩
  | ok after =>
    simp only [Database.perform, returned, Database.settle] at applied
    rw [applied]
    exact ⟨Database.materializeDesignItem_noTwins returned, fun last => Database.materializeDesignItem_again last returned⟩

def buildDraft : Store.TaskDraft := ⟨"goal:ship", "build", "it builds"⟩

def statedOnce (title : String) : DesignConstraintDraft := ⟨.constraint, title, "as reviewed"⟩

def acceptedPlan : List (Database → DatabaseOp) :=
  [fun _ => .decideDesign "design:plan" .accepted "ann" none 3,
    fun _ => .registerDesign "design:plan" "docs/adr/plan.md" "Plan" "" none 2,
    fun _ => .local (.defineGoal .objective "ship" "ship it" none 1)]

def statedElsewhere : Database → DatabaseOp := fun _ => .local (.defineGoal .constraint "ascii" "as reviewed" none 4)

def promotion : Database → DatabaseOp :=
  fun seen => .materializeDesign seen "design:plan" ⟨.create, [buildDraft], [], [statedOnce "ascii"], none⟩ "ann" false 5

def repairWith (title : String) : Database → DatabaseOp := fun seen =>
  .materializeDesign seen "design:plan" ⟨.create, [buildDraft], [], [statedOnce title], some "reviewed again"⟩ "ann" true 7

def repairedOnce : List (Database → DatabaseOp) := repairWith "bounded" :: promotion :: statedElsewhere :: acceptedPlan

theorem plans_create_once_repaired : let db := ((anyDatabase Env.plain Decay.plain).replay repairedOnce).2
    db.store.tasks.rows.length = 1 ∧
      (db.linkedConstraintGoals "design:plan").map Goal.stated = [statedOnce "ascii", statedOnce "bounded"] ∧
      ((db.linkedConstraintGoals "design:plan").map Goal.stated).Nodup := by
  have run : (anyDatabase Env.plain Decay.plain).Replays repairedOnce :=
    Machine.replay_run (by
      simp only [repairedOnce, repairWith, promotion, statedElsewhere, acceptedPlan, forall_mem_cons]
      simp [anyDatabase, DatabaseOp.enabled, DatabaseOp.reads, Op.enabled, Op.reads])
  refine (fun facts : _ ∧ _ ∧ _ => ⟨facts.1, facts.2.1, (plans_create_once run).2 _ run.current_visited _ facts.2.2⟩) ?_
  decide +kernel

def Database.Created (entry : Entry Database DatabaseOp) (id : String) (task : Task) : Prop :=
  (∃ seen plan actor repair now, entry.op = .materializeDesign seen id plan actor repair now) ∧
    task ∈ entry.after.store.tasks.rows ∧ entry.before.store.getTask task.id = none

theorem Database.Created.of_getTask {before after : Database} {op : DatabaseOp} {id taskId goalId title : String}
    (plan : ∃ seen plan actor repair now, op = .materializeDesign seen id plan actor repair now)
    (fresh : before.store.getTask taskId = none)
    (begun : ((after.store.getTask taskId).map fun task => (task.goalId, task.title)) = some (goalId, title)) :
    ∃ task, Created ⟨before, op, after⟩ id task ∧ task.id = taskId ∧ task.goalId = goalId ∧ task.title = title := by
  obtain ⟨task, found, named⟩ := Option.map_eq_some_iff.mp begun
  have stored := find?_eq_some_iff.mp found
  cases named
  refine ⟨task, ⟨plan, stored.1, ?_⟩, stored.2, rfl, rfl⟩
  rwa [show task.id = taskId from stored.2]

def abandonBuild : Database → DatabaseOp := fun seen => .local (.abandon seen.store "task:goal:ship|build|5" false 6)

def draftedTwice : List (Database → DatabaseOp) := repairWith "ascii" :: promotion :: acceptedPlan

theorem plans_create_again : (¬ ∀ env decay history state, (anyDatabase env decay).Run history state → ∀ id,
      ((state.linkedConstraintGoals id).map Goal.stated).Nodup ∧
        ∀ first ∈ history, ∀ second ∈ history, ∀ task task', Database.Created first id task → Database.Created second id task' →
          task.goalId = task'.goalId → task.title = task'.title → task.id = task'.id) ∧
      (((anyDatabase Env.plain Decay.plain).replay draftedTwice).2.linkedConstraintGoals "design:plan").map Goal.stated =
        [statedOnce "ascii", statedOnce "ascii"] := by
  refine ⟨fun once => ?_, by decide +kernel⟩
  let machine := anyDatabase Env.plain Decay.plain
  let abandoned := abandonBuild :: promotion :: acceptedPlan
  have run : machine.Replays (repairWith "bounded" :: abandoned) := by
    refine Machine.replay_run ?_
    have seen (visited : List Database) (db : Database) (member : db ∈ visited) : ∃ other ∈ visited, other.store = db.store :=
      ⟨db, member, rfl⟩
    simp only [machine, abandoned, repairWith, abandonBuild, promotion, acceptedPlan, forall_mem_cons]
    simpa [anyDatabase, DatabaseOp.enabled, DatabaseOp.reads, Op.enabled, Op.reads] using seen
  have first : ∃ task, Database.Created ⟨(machine.replay acceptedPlan).2, promotion (machine.replay acceptedPlan).2,
      (machine.replay (promotion :: acceptedPlan)).2⟩ "design:plan" task ∧
      task.id = "task:goal:ship|build|5" ∧ task.goalId = "goal:ship" ∧ task.title = "build" :=
    Database.Created.of_getTask ⟨_, _, _, _, _, rfl⟩ (by decide +kernel) (by decide +kernel)
  have second : ∃ task, Database.Created ⟨(machine.replay abandoned).2, repairWith "bounded" (machine.replay abandoned).2,
      (machine.replay (repairWith "bounded" :: abandoned)).2⟩ "design:plan" task ∧
      task.id = "task:goal:ship|build|7" ∧ task.goalId = "goal:ship" ∧ task.title = "build" :=
    Database.Created.of_getTask ⟨_, _, _, _, _, rfl⟩ (by decide +kernel) (by decide +kernel)
  obtain ⟨task, created, id, goal, title⟩ := first
  obtain ⟨task', created', id', goal', title'⟩ := second
  have same := (once _ _ _ _ run "design:plan").2 _ (machine.replay_entry promotion [repairWith "bounded", abandonBuild] _)
    _ (machine.replay_entry (repairWith "bounded") [] _) task task' created created' (goal.trans goal'.symm)
    (title.trans title'.symm)
  rw [id, id'] at same
  exact absurd same (by decide)

end MindLeak.Lodestar
