import MindLeak.Proofs.Policy

/-! What an operation may write. Each has its footprint, the tables it touches;
every other table stands as it was. -/

namespace MindLeak.Lodestar

inductive TableName where
  | constitutionVersions | controls | waivers | amendments | goals
  | policyPacks | packConflicts | packProposals | packProvenance | designItems
  | tasks | taskEvents | claimTransfers | taskScopes | taskQa | goalCoverage | handoffs
  | goalArtifacts | conformance | conformanceSeq | sessionContext
  deriving DecidableEq

def Op.writes : Op → List TableName
  | .createTask .. | .materialize .. => [.tasks, .handoffs, .goalCoverage, .taskEvents]
  | .block .. => [.tasks, .taskEvents, .handoffs, .taskScopes, .taskQa]
  | .declareCoverage .. => [.goalCoverage, .taskEvents]
  | .check .. => [.conformance, .conformanceSeq]
  | .declareSession .. => [.sessionContext]
  | .grantWaiver .. | .revokeWaiver .. => [.waivers]
  | .defineGoal .. | .importGoals .. | .supersede .. | .retire .. | .contract .. | .copyClause .. | .draftClause .. =>
    [.goals]
  | .link .. | .unlink .. => [.goalArtifacts]
  | .registerControl .. | .retireControl .. => [.controls]
  | .registerPack .. => [.policyPacks, .packConflicts]
  | .proposePack .. => [.packProposals]
  | .reviewPack .. => [.goals, .packProvenance, .packProposals]
  | .proposeConstitution .. | .proposeAmendment .. => [.constitutionVersions]
  | .activate .. => [.constitutionVersions, .goals]
  | .amend .. => [.constitutionVersions, .goals, .controls, .goalArtifacts, .tasks, .amendments]
  | .reset .. => [.conformance, .goalArtifacts, .designItems, .tasks, .claimTransfers, .taskScopes, .taskQa,
      .goalCoverage, .handoffs, .policyPacks, .packConflicts, .packProposals, .sessionContext, .goals, .packProvenance]
  | _ => [.tasks, .taskEvents, .taskScopes, .taskQa]

namespace Store

def Same (s after : Store) : TableName → Prop
  | .constitutionVersions => after.constitutionVersions = s.constitutionVersions
  | .controls => after.controls = s.controls
  | .waivers => after.waivers = s.waivers
  | .amendments => after.amendments = s.amendments
  | .goals => after.goals = s.goals
  | .policyPacks => after.policyPacks = s.policyPacks
  | .packConflicts => after.packConflicts = s.packConflicts
  | .packProposals => after.packProposals = s.packProposals
  | .packProvenance => after.packProvenance = s.packProvenance
  | .designItems => after.designItems = s.designItems
  | .tasks => after.tasks = s.tasks
  | .taskEvents => after.taskEvents = s.taskEvents
  | .claimTransfers => after.claimTransfers = s.claimTransfers
  | .taskScopes => after.taskScopes = s.taskScopes
  | .taskQa => after.taskQa = s.taskQa
  | .goalCoverage => after.goalCoverage = s.goalCoverage
  | .handoffs => after.handoffs = s.handoffs
  | .goalArtifacts => after.goalArtifacts = s.goalArtifacts
  | .conformance => after.conformance = s.conformance
  | .conformanceSeq => after.conformanceSeq = s.conformanceSeq
  | .sessionContext => after.sessionContext = s.sessionContext

def Touches (s : Store) (tables : List TableName) (after : Store) : Prop := ∀ table, table ∉ tables → s.Same after table

variable {env : Env} {s seen middle after : Store} {now : Int} {tables more : List TableName}

theorem Touches.refl (s : Store) (tables : List TableName) : s.Touches tables s := by
  intro table _
  cases table <;> rfl

theorem Touches.trans (first : s.Touches tables middle) (second : middle.Touches tables after) :
    s.Touches tables after := by
  intro table outside
  have early := first table outside
  have late := second table outside
  cases table <;> exact Eq.trans late early

theorem Touches.mono (touches : s.Touches tables after) (within : tables ⊆ more) : s.Touches more after := by
  intro table outside
  exact touches table fun inside => outside (within inside)

theorem settle_touches {result : Result Store} (each : ∀ after, result = .ok after → s.Touches tables after) :
    s.Touches tables (s.settle result) := by
  cases result with
  | error failure => exact .refl s tables
  | ok after => exact each after rfl

theorem settled_touches {α : Type} {result : Result (α × Store)}
    (each : ∀ value after, result = .ok (value, after) → s.Touches tables after) :
    s.Touches tables (s.settled result) := by
  rcases result with failure | ⟨value, after⟩
  · exact .refl s tables
  · exact each value after rfl

section
variable {id : String} {write : TaskWrite} {note : EventNote}

theorem Beside.touches (beside : s.Beside after) : s.Touches [.taskScopes, .taskQa] after := by
  obtain ⟨_, _, rfl⟩ := beside
  intro table outside
  cases table <;> first | rfl | simp at outside

theorem moved_touches (s : Store) (id : String) (now : Int) (write : TaskWrite) (note : EventNote) (task : Task) :
    s.Touches [.tasks, .taskEvents] (s.moved id now write note task) := by
  intro table outside
  cases table <;> first | rfl | simp at outside

theorem Wrote.touches (wrote : s.Wrote id now write note after) : s.Touches [.tasks, .taskEvents] after := by
  obtain ⟨task, _, _, rfl⟩ := wrote
  exact s.moved_touches id now write note task

theorem Moves.touches (moves : s.Moves id now write note after) :
    s.Touches [.tasks, .taskEvents, .taskScopes, .taskQa] after := by
  obtain ⟨middle, wrote, beside⟩ := moves
  exact (wrote.touches.mono (by simp)).trans (beside.touches.mono (by simp))

theorem Answered.touches {won : Bool} (answered : s.Answered id now write note won after) :
    s.Touches [.tasks, .taskEvents, .taskScopes, .taskQa] after := by
  rcases answered with ⟨_, rfl, _⟩ | ⟨_, moves⟩
  · exact .refl after _
  · exact moves.touches

theorem opened_touches (s : Store) (predecessor : String) (now : Int) :
    s.Touches [.tasks, .taskEvents] (s.opened predecessor now) := by
  rcases s.opened_cases predecessor now with ⟨same, _⟩ | ⟨_, _, wrote⟩
  · rw [same]
    exact .refl s _
  · exact wrote.touches

theorem Wrote.ends {key : String} (wrote : s.Wrote id now write note middle)
    (beside : (middle.opened key now).Beside after) : s.Touches [.tasks, .taskEvents, .taskScopes, .taskQa] after := by
  have own := wrote.touches.trans (middle.opened_touches key now)
  exact (own.mono (by simp)).trans (beside.touches.mono (by simp))

theorem createTaskAfterOn_touches {goalId title acceptance : String} {parent predecessor : Option String}
    {alsoServes : List String} {task : Task}
    (done : s.createTaskAfterOn env goalId title acceptance parent predecessor alsoServes now = .ok (task, after)) :
    s.Touches [.tasks, .handoffs, .goalCoverage, .taskEvents] after := by
  obtain ⟨_, _, _, _, _, _, _, _, rfl, _, _, _, rfl⟩ := createTaskAfterOn_steps done
  intro table outside
  cases table <;> first | rfl | simp at outside

theorem materializeTasks_touches {drafts : List TaskDraft} (done : s.materializeTasks env drafts now = .ok after) :
    s.Touches [.tasks, .handoffs, .goalCoverage, .taskEvents] after := by
  refine materializeTasks_keeps (s.Touches _) done (.refl s _) ?_
  intro before draft task created earlier made
  exact earlier.trans (createTaskAfterOn_touches made)

end

section

theorem goals_touches (s : Store) (goals : Table GoalRow) : s.Touches [.goals] { s with goals } := by
  intro table outside
  cases table <;> first | rfl | simp at outside

variable {goal : Goal}

theorem insertGoalOn_touches (done : s.insertGoalOn goal = .ok after) : s.Touches [.goals] after := by
  unfold insertGoalOn at done
  dsimp only at done
  repeat' split at done
  all_goals cases done
  exact s.goals_touches _

theorem defineGoalOn_touches {kind : GoalKind} {title statement : String} {parent : Option String}
    (done : s.defineGoalOn env kind title statement parent now = .ok (goal, after)) : s.Touches [.goals] after :=
  insertGoalOn_touches (defineGoalOn_inserts done).1

theorem importExternalGoals_touches {sourceSystem : String} {records : List ExternalGoalRecord}
    (done : s.importExternalGoals env sourceSystem records now = .ok after) : s.Touches [.goals] after := by
  obtain ⟨_, done⟩ := ite_else done
  obtain ⟨_, _, done⟩ := bind_ok done
  refine foldlM_ok (s.Touches [.goals]) done (.refl s _) ?_
  intro before record middle earlier one
  unfold importRecord at one
  dsimp only at one
  split at one
  next =>
    cases one
    exact earlier
  next =>
    split at one
    next =>
      cases one
      exact earlier
    next => exact earlier.trans (insertGoalOn_touches one)

theorem supersedeGoal_touches {oldId statement why : String}
    (done : supersedeGoal seen s oldId statement why now = .ok (goal, after)) : s.Touches [.goals] after :=
  insertGoalOn_touches (supersedeGoal_inserts done).1

theorem completeClauseContract_touches {goalId scope evidenceContract : String} {consequence : Option Consequence}
    {waivable : Bool} {waiverAuthority : Option String}
    (done : completeClauseContract seen s goalId scope evidenceContract consequence waivable waiverAuthority = .ok after) :
    s.Touches [.goals] after := by
  simp only [completeClauseContract, throw_eq, error_bind, pure_eq] at done
  repeat' split at done
  all_goals cases done
  exact s.goals_touches _

theorem copyClauseToVersion_touches {fromVersion toVersion clauseId : String}
    (done : copyClauseToVersion seen s fromVersion toVersion clauseId = .ok after) : s.Touches [.goals] after := by
  obtain ⟨_, _, inserted⟩ := copyClauseToVersion_inserts done
  exact insertGoalOn_touches inserted

theorem draftClause_touches {draftId : String} {kind : GoalKind} {title statement : String}
    (done : draftClause env seen s draftId kind title statement now = .ok (goal, after)) : s.Touches [.goals] after :=
  insertGoalOn_touches (draftClause_inserts done).1

theorem artifacts_touches (s : Store) (goalArtifacts : Table GoalArtifact) :
    s.Touches [.goalArtifacts] { s with goalArtifacts } := by
  intro table outside
  cases table <;> first | rfl | simp at outside

theorem bindNodes_touches (goalId : String) (mode : ArtifactBindingMode) (nodes : List String) (s : Store) :
    s.Touches [.goalArtifacts] (nodes.foldl (bindNode goalId mode) s) := by
  induction nodes generalizing s with
  | nil => exact .refl s _
  | cons node rest ih => exact (s.artifacts_touches _).trans (ih (bindNode goalId mode s node))

theorem linkGoalToArtifact_touches {goalId : String} {nodeIds : List String} {mode : ArtifactBindingMode}
    (done : linkGoalToArtifact seen s goalId nodeIds mode = .ok after) : s.Touches [.goalArtifacts] after := by
  unfold linkGoalToArtifact at done
  repeat' split at done
  all_goals cases done
  exact bindNodes_touches goalId mode nodeIds s

theorem unlinkGoalFromArtifact_touches {goalId : String} {nodeIds : List String}
    (done : unlinkGoalFromArtifact seen s goalId nodeIds = .ok after) : s.Touches [.goalArtifacts] after := by
  unfold unlinkGoalFromArtifact at done
  split at done <;> cases done
  exact s.artifacts_touches _

theorem controls_touches (s : Store) (controls : Table Control) : s.Touches [.controls] { s with controls } := by
  intro table outside
  cases table <;> first | rfl | simp at outside

theorem registerControl_touches {control : Control} (done : s.registerControl control = .ok after) :
    s.Touches [.controls] after := by
  simp only [registerControl, throw_eq, error_bind, pure_eq] at done
  repeat' split at done
  all_goals cases done
  all_goals exact s.controls_touches _

theorem retireControl_touches {id retiredBy : String} (done : s.retireControl id retiredBy now = .ok after) :
    s.Touches [.controls] after := by
  simp only [retireControl, throw_eq, error_bind, pure_eq] at done
  split at done <;> cases done
  exact s.controls_touches _

theorem waivers_touches (s : Store) (waivers : Table Waiver) : s.Touches [.waivers] { s with waivers } := by
  intro table outside
  cases table <;> first | rfl | simp at outside

theorem grantWaiver_touches {id : String} {request : WaiverRequest} {waiver : Waiver}
    (done : s.grantWaiver id request now = .ok (waiver, after)) : s.Touches [.waivers] after := by
  simp only [grantWaiver, throw_eq, error_bind, pure_eq] at done
  split at done
  · cases done
  obtain ⟨_, _, done⟩ := bind_ok done
  repeat' split at done
  all_goals cases done
  all_goals exact s.waivers_touches _

theorem revokeWaiver_touches {id revokedBy why : String} {waiver : Waiver}
    (done : s.revokeWaiver id revokedBy why now = .ok (waiver, after)) : s.Touches [.waivers] after := by
  simp only [revokeWaiver, throw_eq, error_bind, pure_eq] at done
  repeat' split at done
  all_goals cases done
  exact s.waivers_touches _

theorem registerPolicyPack_touches {pack : ConstitutionPack} (done : s.registerPolicyPack env pack now = .ok after) :
    s.Touches [.policyPacks, .packConflicts] after := by
  simp only [registerPolicyPack, throw_eq, error_bind, pure_eq] at done
  obtain ⟨_, _, done⟩ := bind_ok done
  split at done
  · cases done
  split at done
  next =>
    split at done <;> cases done
    exact .refl s _
  next =>
    split at done
    · cases done
    obtain ⟨conflicts, _, done⟩ := bind_ok done
    cases done
    intro table outside
    cases table <;> first | rfl | simp at outside

theorem proposals_touches (s : Store) (packProposals : Table PackClauseProposal) :
    s.Touches [.packProposals] { s with packProposals } := by
  intro table outside
  cases table <;> first | rfl | simp at outside

theorem proposePolicyPack_touches {packId version : String} {constitutionVersion : Option String}
    (done : proposePolicyPack env seen s packId version constitutionVersion now = .ok after) :
    s.Touches [.packProposals] after := by
  simp only [proposePolicyPack, throw_eq, error_bind, pure_eq] at done
  repeat' split at done
  all_goals cases done
  exact s.proposals_touches _

theorem adoptClause_touches {proposal : PackClauseProposal} {selected : PackClause} {why adopted : Option String}
    (done : s.adoptClause env proposal selected why now = .ok (adopted, after)) :
    s.Touches [.goals, .packProvenance] after := by
  simp only [adoptClause, throw_eq, error_bind, pure_eq] at done
  split at done
  · cases done
  split at done
  · cases done
  obtain ⟨status, joined, done⟩ := bind_ok done
  obtain ⟨middle, inserted, done⟩ := bind_ok done
  have first : s.Touches [.goals, .packProvenance] middle := (insertGoalOn_touches inserted).mono (by simp)
  split at done <;> cases done
  refine first.trans ?_
  intro table outside
  cases table <;> first | rfl | simp at outside

theorem reviewPackClause_touches {proposalId : String} {disposition : PackClauseDisposition} {tailored : Option PackClause}
    {actor : String} {why : Option String}
    (done : s.reviewPackClause env proposalId disposition tailored actor why now = .ok after) :
    s.Touches [.goals, .packProvenance, .packProposals] after := by
  obtain ⟨_, done⟩ := ite_else done
  obtain ⟨_, done⟩ := ite_else done
  split at done
  · cases done
  split at done
  next =>
    split at done <;> cases done
    exact .refl s _
  next =>
    obtain ⟨selected, _, done⟩ := bind_ok done
    split at done
    next =>
      cases done
      exact (s.proposals_touches _).mono (by simp)
    next =>
      obtain ⟨⟨adopted, middle⟩, made, done⟩ := bind_ok done
      cases done
      exact ((adoptClause_touches made).mono (by simp)).trans ((middle.proposals_touches _).mono (by simp))

theorem createConstitutionVersion_touches {id : String} {number : Int} {status : GoalStatus} {createdBy : Option String}
    (done : s.createConstitutionVersion id number status createdBy now = .ok after) :
    s.Touches [.constitutionVersions] after := by
  unfold createConstitutionVersion at done
  split at done <;> cases done
  intro table outside
  cases table <;> first | rfl | simp at outside

theorem amendConstitution_touches {reads : AmendmentReads} {draftId amendedBy approvedBy rationale : String}
    {amendment : ConstitutionAmendment}
    (done : amendConstitution env reads s draftId amendedBy approvedBy rationale now = .ok (amendment, after)) :
    s.Touches [.constitutionVersions, .goals, .controls, .goalArtifacts, .tasks, .amendments] after := by
  obtain ⟨before, staged, amendments, _, _, rfl, _, _, _, _, _, rfl⟩ := amendConstitution_ok done
  intro table outside
  cases table <;> first | rfl | simp at outside

end

theorem perform_touches (env : Env) (s : Store) (op : Op) : s.Touches op.writes (s.perform env op) := by
  cases op with
  | createTask => exact settled_touches fun _ _ done => createTaskAfterOn_touches done
  | materialize => exact settle_touches fun _ done => materializeTasks_touches done
  | claim => exact settled_touches fun _ _ done => (claimTask_ok done).touches
  | renew | touch | release | resume => exact settled_touches fun _ _ done => (attempt_ok done).touches
  | recover =>
    refine settled_touches fun _ _ done => ?_
    obtain ⟨_, _, _, _, answered, _⟩ := recoverClaimAuthorized_ok done
    exact answered.touches
  | ask => exact settled_touches fun _ _ done => (askQuestion_ok done).touches
  | answer => exact settled_touches fun _ _ done => (answerQuestion_ok done).touches
  | pause => exact settled_touches fun _ _ done => (pauseTask_ok done).touches
  | declareCoverage =>
    refine settled_touches fun _ _ done => ?_
    obtain ⟨_, _, _, _, rfl⟩ := declareCoverage_ok done
    intro table outside
    cases table <;> first | rfl | simp [Op.writes] at outside
  | reconnect =>
    refine settled_touches fun _ _ done => ?_
    obtain ⟨_, _, _, _, _, _, _, moves⟩ := reconnectClaimClause_ok done
    exact moves.touches
  | block =>
    refine settled_touches fun _ _ done => ?_
    obtain ⟨_, _, _, _, middle, wrote, beside⟩ := blockTask_ok done
    refine (wrote.touches.mono (by simp [Op.writes])).trans ?_
    refine Touches.trans ?_ (beside.touches.mono (by simp [Op.writes]))
    intro table outside
    cases table <;> first | rfl | simp [Op.writes] at outside
  | reopen =>
    refine settled_touches fun _ _ done => ?_
    obtain ⟨_, _, _, moves⟩ := reopenTask_ok done
    exact moves.touches
  | abandon =>
    refine settled_touches fun _ _ done => ?_
    obtain ⟨_, _, _, _, wrote, beside⟩ := abandonTask_ok done
    exact wrote.ends beside
  | resolve =>
    refine settled_touches fun _ _ done => ?_
    obtain ⟨_, _, _, _, _, _, _, wrote, beside⟩ := resolveInReview_ok done
    exact wrote.ends beside
  | check =>
    refine settled_touches fun _ _ done => ?_
    obtain ⟨_, _, rfl⟩ := checkConformance_ok done
    intro table outside
    cases table <;> first | rfl | simp [Op.writes] at outside
  | complete =>
    refine settled_touches fun _ after done => ?_
    obtain ⟨_, _, middle, _, _, _, _, _, wrote, done⟩ := completeTask_ok done
    have own : s.Touches [.tasks, .taskEvents] after := by
      split at done
      · subst done
        exact wrote.touches.trans (middle.opened_touches _ _)
      · subst done
        exact wrote.touches
    exact own.mono (by simp [Op.writes])
  | declareSession =>
    intro table outside
    cases table <;> first | rfl | simp [Op.writes] at outside
  | retire => exact s.goals_touches _
  | grantWaiver => exact settled_touches fun _ _ done => grantWaiver_touches done
  | revokeWaiver => exact settled_touches fun _ _ done => revokeWaiver_touches done
  | defineGoal => exact settled_touches fun _ _ done => defineGoalOn_touches done
  | importGoals => exact settle_touches fun _ done => importExternalGoals_touches done
  | supersede => exact settled_touches fun _ _ done => supersedeGoal_touches done
  | contract => exact settle_touches fun _ done => completeClauseContract_touches done
  | link => exact settle_touches fun _ done => linkGoalToArtifact_touches done
  | unlink => exact settle_touches fun _ done => unlinkGoalFromArtifact_touches done
  | registerControl => exact settle_touches fun _ done => registerControl_touches done
  | retireControl => exact settle_touches fun _ done => retireControl_touches done
  | registerPack => exact settle_touches fun _ done => registerPolicyPack_touches done
  | proposePack => exact settle_touches fun _ done => proposePolicyPack_touches done
  | reviewPack => exact settle_touches fun _ done => reviewPackClause_touches done
  | proposeConstitution =>
    refine settle_touches fun _ done => ?_
    simp only [Store.proposeConstitution, throw_eq, error_bind] at done
    split at done
    · cases done
    obtain ⟨_, _, done⟩ := bind_ok done
    exact createConstitutionVersion_touches done
  | proposeAmendment =>
    refine settle_touches fun _ done => ?_
    obtain ⟨_, done⟩ := ite_else done
    obtain ⟨_, _, done⟩ := bind_ok done
    exact createConstitutionVersion_touches done
  | copyClause => exact settle_touches fun _ done => copyClauseToVersion_touches done
  | draftClause => exact settled_touches fun _ _ done => draftClause_touches done
  | activate =>
    refine settle_touches fun _ done => ?_
    rw [(activateConstitution_ok done).2.2]
    intro table outside
    cases table <;> first | rfl | simp [Op.writes] at outside
  | amend => exact settled_touches fun _ _ done => amendConstitution_touches done
  | reset =>
    refine settle_touches fun _ done => ?_
    unfold resetDatabase at done
    split at done <;> cases done
    intro table outside
    cases table <;> first | rfl | simp [Op.writes] at outside

theorem perform_samePolicy (env : Env) (s : Store) (op : Op)
    (apart : ∀ table ∈ [TableName.constitutionVersions, .goals, .amendments], table ∉ op.writes) :
    s.SamePolicy (s.perform env op) := by
  have touches := perform_touches env s op
  refine ⟨?_, ?_, ?_⟩
  · exact touches _ (apart .constitutionVersions (by simp))
  · exact touches _ (apart .goals (by simp))
  · exact touches _ (apart .amendments (by simp))

theorem perform_sameWork (env : Env) (s : Store) (op : Op)
    (apart : ∀ table ∈ [TableName.tasks, .taskEvents, .handoffs, .conformance, .conformanceSeq], table ∉ op.writes) :
    s.SameWork (s.perform env op) := by
  have touches := perform_touches env s op
  refine ⟨?_, ?_, ?_, ?_, ?_⟩
  · exact touches _ (apart .tasks (by simp))
  · exact touches _ (apart .taskEvents (by simp))
  · exact touches _ (apart .handoffs (by simp))
  · exact touches _ (apart .conformance (by simp))
  · exact touches _ (apart .conformanceSeq (by simp))

theorem perform_transfers (env : Env) (s : Store) (op : Op) :
    (s.perform env op).claimTransfers = s.claimTransfers ∨ (s.perform env op).claimTransfers = [] := by
  cases op with
  | reset confirmation =>
    change (s.settle (s.resetDatabase confirmation)).claimTransfers = _ ∨
      (s.settle (s.resetDatabase confirmation)).claimTransfers = _
    unfold resetDatabase
    split
    · exact .inl rfl
    · exact .inr rfl
  | _ => exact .inl (perform_touches env s _ .claimTransfers (by simp [Op.writes]))

end Store
end MindLeak.Lodestar
