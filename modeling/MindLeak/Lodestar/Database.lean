import MindLeak.Lodestar.Designs
import MindLeak.Lodestar.Knowledge
import MindLeak.Lodestar.Local

/-! The whole database of one Intent Plane: coordination and constitution, the
Design Board and the lessons, with the operations that write across them. -/

namespace MindLeak.Lodestar

inductive ProjectFactKind where
  | documentation | decisionRecord | manifest | continuousIntegration | linter | testConfiguration | ownership
  deriving DecidableEq

def ProjectFactKind.asStr : ProjectFactKind → String
  | documentation => "documentation"
  | decisionRecord => "decision_record"
  | manifest => "manifest"
  | continuousIntegration => "continuous_integration"
  | linter => "linter"
  | testConfiguration => "test_configuration"
  | ownership => "ownership"

structure ProjectFact where
  kind : ProjectFactKind
  (sourcePath detail : String)
  question : Option String
  deriving DecidableEq

/-- What a draft was grounded in. -/
structure ConstitutionFact extends ProjectFact where
  constitutionVersion : String
  discoveredAt : Int

instance : Row ConstitutionFact (String × ProjectFactKind × String) :=
  ⟨fun row => (row.constitutionVersion, row.kind, row.sourcePath)⟩

structure Database where
  store : Store := {}
  designs : Designs := {}
  knowledge : KnowledgeBase := {}
  facts : Table ConstitutionFact := .empty

def validateMaterializationPlan (plan : DesignMaterializationPlan) : Result Unit := do
  let hasRationale := plan.rationale.any fun value => !Text.isBlank value
  match plan.mode with
  | .create =>
    if plan.tasks.isEmpty then throw (.invalid "a create materialization needs at least one reviewed task")
    if !plan.taskIds.isEmpty then throw (.invalid "a create materialization cannot link task ids")
  | .link =>
    if plan.taskIds.isEmpty then throw (.invalid "a link materialization needs at least one existing task id")
    if !plan.tasks.isEmpty then throw (.invalid "a link materialization cannot create task drafts")
    if !hasRationale then throw (.invalid "a link materialization needs a rationale")
  | .noWork =>
    if !plan.tasks.isEmpty || !plan.taskIds.isEmpty then
      throw (.invalid "a no-work materialization cannot contain tasks")
    if !hasRationale then throw (.invalid "a no-work materialization needs a rationale")
  let _ ← plan.tasks.foldlM (fun (keys : List (String × String)) draft => do
    if Text.isBlank draft.goalId || Text.isBlank draft.title || Text.isBlank draft.acceptance then
      throw (.invalid "created tasks require a goal id, title, and acceptance criteria")
    if (draft.goalId, draft.title) ∈ keys then
      let goalId := draft.goalId
      let title := draft.title
      throw (.invalid s!"duplicate task draft for {goalId}: {title}")
    return (draft.goalId, draft.title) :: keys) []
  let _ ← plan.taskIds.foldlM (fun (linked : List String) taskId => do
    if Text.isBlank taskId || decide (taskId ∈ linked) then
      throw (.invalid "linked task ids must be non-empty and unique")
    return taskId :: linked) []
  plan.constraints.forM fun constraint => do
    if !constraint.kind.isNormative || Text.isBlank constraint.title || Text.isBlank constraint.statement then
      throw (.invalid "materialized constraints require a normative kind, title, and statement")

def Store.ensureObjective (s : Store) (goalId : String) : Result Unit :=
  match s.goals.find? goalId with
  | none => .error (.notFound goalId)
  | some goal =>
    if goal.kind ≠ .objective then
      let kind := goal.kind.asStr
      .error (.invalid s!"task goal {goalId} is a {kind}; materialized tasks must serve objectives")
    else .ok ()

def Designs.materializationHistory (d : Designs) (id : String) : List DesignMaterializationRecord :=
  (d.materializations.rows.filter fun row => decide (row.designId = id)).insertionSort fun left right =>
    left.revision ≤ right.revision

def materializeWrite (repair : Bool) (planned : Int) (now : Int) : DesignWrite where
  takes item :=
    decide (item.status = .accepted) &&
      decide (item.promotionStatus = if repair then .materialized else .pending) &&
      decide (item.materializationRevision = planned)
  leaves item :=
    { item with promotionStatus := .materialized, materializationRevision := planned + 1, updatedAt := now }

namespace Database

/-- A repair re-states the drafts it repairs: live work of that title stands for
its draft, and only a draft without any is created. -/
def draftTask (env : Env) (now : Int) : List Task × Store → Store.TaskDraft → Result (List Task × Store)
  | (tasks, s), draft =>
    match s.liveTaskTitledOn draft.goalId draft.title with
    | some existing => .ok (tasks ++ [existing], s)
    | none => do
      let (task, s) ← s.createTaskAfterOn env draft.goalId draft.title draft.acceptance none none [] now
      return (tasks ++ [task], s)

def planTasks (env : Env) (s : Store) (plan : DesignMaterializationPlan) (now : Int) : Result (List Task × Store) :=
  match plan.mode with
  | .create => plan.tasks.foldlM (draftTask env now) ([], s)
  | .link => do
    let tasks ← plan.taskIds.mapM fun taskId =>
      match s.getTask taskId with
      | some task => Except.ok task
      | none => .error (.notFound taskId)
    return (tasks, s)
  | .noWork => .ok ([], s)

def linkTask (s : Store) (id : String) (d : Designs) (placed : Task × Nat) : Result Designs := do
  let (task, position) := placed
  s.ensureObjective task.goalId
  match d.taskLinks.insert? ⟨id, task.id, position⟩ with
  | none => throw (.sqlite "UNIQUE constraint failed: design_task_links.design_id, design_task_links.task_id")
  | some taskLinks => return { d with taskLinks }

def linkGoal (id : String) (role : GoalKind) (d : Designs) (placed : String × Nat) : Result Designs :=
  let (goalId, position) := placed
  match d.goalLinks.insert? ⟨id, goalId, role, position⟩ with
  | none => .error (.sqlite "UNIQUE constraint failed: design_goal_links.design_id, design_goal_links.goal_id")
  | some goalLinks => .ok { d with goalLinks }

def constraintOffset (d : Designs) (id : String) : Nat :=
  (((d.goalLinks.rows.filter fun link => decide (link.designId = id) && decide (link.role ≠ .objective)).map fun link =>
    link.position + 1).max?).getD 0

def addConstraint (env : Env) (id : String) (now : Int) : Designs × Store → DesignConstraintDraft × Nat →
    Result (Designs × Store)
  | (d, s), (draft, position) => do
    let (constraint, s) ← s.defineGoalOn env draft.kind draft.title draft.statement none now
    let d ← linkGoal id draft.kind d (constraint.id, position)
    return (d, s)

def writePlan (env : Env) (db : Database) (id : String) (plan : DesignMaterializationPlan) (actor : String)
    (repair : Bool) (planned : Int) (now : Int) : Result Database := do
  if db.designs.changed id (materializeWrite repair planned now) ≠ 1 then
    throw (.invalid s!"design item {id} materialization changed concurrently")
  let d := db.designs.updateItem id (materializeWrite repair planned now)
  match d.materializations.insert? ⟨id, planned + 1, plan, actor, now⟩ with
  | none => throw (.sqlite "UNIQUE constraint failed: design_materializations.design_id, design_materializations.revision")
  | some materializations =>
    let d : Designs :=
      { d with
        materializations
        taskLinks := d.taskLinks.delete fun link => decide (link.designId = id)
        goalLinks := d.goalLinks.delete fun link => decide (link.designId = id) && decide (link.role = .objective) }
    let (tasks, s) ← planTasks env db.store plan now
    let d ← tasks.zipIdx.foldlM (linkTask s id) d
    let d ← (tasks.map Task.goalId).eraseDups.zipIdx.foldlM (linkGoal id .objective) d
    let (d, s) ← (plan.constraints.zipIdx (constraintOffset d id)).foldlM (addConstraint env id now) (d, s)
    return { db with designs := d, store := { s with designItems := d.items.map DesignRow.brief } }

def linkedConstraintGoals (db : Database) (designId : String) : List Goal :=
  ((db.designs.goalLinks.rows.filter fun link => decide (link.designId = designId) && decide (link.role ≠ .objective)).insertionSort
    fun left right => left.position ≤ right.position).filterMap fun link =>
      (db.store.goals.find? link.goalId).map GoalRow.toGoal

/-- The design and its last plan are read before the transaction; the same plan
again is answered and writes nothing. -/
def materializeDesignItem (env : Env) (seen db : Database) (id : String) (plan : DesignMaterializationPlan)
    (actor : String) (repair : Bool) (now : Int) : Result Database := do
  validateMaterializationPlan plan
  let actor := Text.trim actor
  if actor.isEmpty then throw (.invalid "a human materialization reviewer is required")
  match seen.designs.getDesignItem id with
  | none => throw (.notFound id)
  | some item =>
    if item.status ≠ .accepted then
      let status := item.status.asStr
      throw (.invalid s!"design item {id} is {status}; only an accepted design can be materialized")
    if (seen.designs.materializationHistory id).getLast?.any fun record => decide (record.plan = plan) then return db
    if repair then
      if item.promotionStatus ≠ .materialized then
        throw (.invalid s!"design item {id} has no materialization to repair")
      if plan.rationale.all Text.isBlank then throw (.invalid "a repair rationale is required")
    else if item.promotionStatus ≠ .pending then
      throw (.invalid s!"design item {id} is already materialized; use revise_design_promotion with a rationale")
    writePlan env db id plan actor repair item.materializationRevision now

/-- The design tables as an operation leaves them, and what the store reads of them. -/
def withDesigns (db : Database) (d : Designs) : Database :=
  { db with designs := d, store := { db.store with designItems := d.items.map DesignRow.brief } }

def recordFact (constitutionVersion : String) (now : Int) (facts : Table ConstitutionFact) (fact : ProjectFact) :
    Table ConstitutionFact :=
  match facts.insert? { toProjectFact := fact, constitutionVersion, discoveredAt := now } with
  | some facts => facts
  | none =>
    facts.update
      (fun row => decide (row.constitutionVersion = constitutionVersion) && decide (row.kind = fact.kind) &&
        decide (row.sourcePath = fact.sourcePath))
      fun row => { row with detail := fact.detail, question := fact.question }

def recordProjectFacts (db : Database) (constitutionVersion : String) (facts : List ProjectFact) (now : Int) : Database :=
  { db with facts := facts.foldl (recordFact constitutionVersion now) db.facts }

def projectFacts (db : Database) (constitutionVersion : String) : List ProjectFact :=
  ((db.facts.rows.filter fun row => decide (row.constitutionVersion = constitutionVersion)).insertionSort
    fun left right => left.kind.asStr < right.kind.asStr ∨
      left.kind.asStr = right.kind.asStr ∧ left.sourcePath ≤ right.sourcePath).map ConstitutionFact.toProjectFact

/-- Every design and every lesson goes, with what hangs off them; the counter of
the acts and the facts of the versions stay. -/
def resetDatabase (db : Database) (confirmation : String) : Result Database := do
  let store ← db.store.resetDatabase confirmation
  return { store := store, designs := { actionSeq := db.designs.actionSeq }, facts := db.facts }

end Database

inductive DatabaseOp where
  | «local» (op : Op)
  | federated (op : FederatedOp)
  | recordFacts (constitutionVersion : String) (facts : List ProjectFact) (now : Int)
  | registerDesign (id adrPath title summary : String) (proposedBy : Option String) (now : Int)
  | reconcileDesign (metadata : DesignMetadata) (now : Int)
  | designActions (ids : List String) (action : DesignActionKind) (human why : String) (now : Int)
  | decideDesign (id : String) (target : DesignStatus) (decidedBy : String) (why : Option String) (now : Int)
  | reopenDesign (id : String) (now : Int)
  | attributeDesign (id human : String) (now : Int)
  | supersedeDesign (seen : Database) (id supersededBy human : String) (now : Int)
  | materializeDesign (seen : Database) (id : String) (plan : DesignMaterializationPlan) (actor : String)
      (repair : Bool) (now : Int)
  | recordKnowledge (statement evidence : String) (halfLifeHours : UInt64) (now : Int)
  | recordSourced (statement evidence : String) (halfLifeHours : UInt64) (sourceRef actor : String) (now : Int)
  | retireSource (sourceRef actor why : String) (now : Int)
  | reconfirmKnowledge (id : String) (now : Int)
  | retireKnowledge (seen : Database) (id human why : String) (supersededBy : Option String) (now : Int)
  | pruneKnowledge (now : Int)

namespace DatabaseOp

/-- The states an operation's reads outside its transaction saw. -/
def reads : DatabaseOp → List Database
  | supersedeDesign seen .. | materializeDesign seen .. | retireKnowledge seen .. => [seen]
  | _ => []

/-- The tasks of a plan are created with its links, never alone. -/
def enabled (visited : List Database) (op : DatabaseOp) : Prop :=
  (∀ seen ∈ op.reads, seen ∈ visited) ∧
    match op with
    | .local (.materialize ..) => False
    | .local op => op.enabled (visited.map Database.store)
    | _ => True

end DatabaseOp

namespace Database

/-- A transaction that did not commit left nothing. -/
def settle (db : Database) : Result Database → Database
  | .ok after => after
  | .error _ => db

def settleDesigns (db : Database) : Result Designs → Database
  | .ok after => db.withDesigns after
  | .error _ => db

/-- Of the operations on the coordination tables only the reset reaches further. -/
def performLocal (env : Env) (db : Database) : Op → Database
  | .reset confirmation => db.settle (db.resetDatabase confirmation)
  | op => { db with store := db.store.perform env op }

def perform (env : Env) (decay : Decay) (db : Database) : DatabaseOp → Database
  | .local op => db.performLocal env op
  | .federated op => { db with store := db.store.performFederated op }
  | .recordFacts constitutionVersion facts now => db.recordProjectFacts constitutionVersion facts now
  | .registerDesign id adrPath title summary proposedBy now =>
    db.settleDesigns (db.designs.registerDesignItem id adrPath title summary proposedBy now)
  | .reconcileDesign metadata now => db.withDesigns (db.designs.reconcileDesignItem metadata now)
  | .designActions ids action human why now => db.settleDesigns (db.designs.applyDesignActions ids action human why now)
  | .decideDesign id target decidedBy why now =>
    db.withDesigns ((db.designs.decideDesignItem id target decidedBy why now).getD db.designs)
  | .reopenDesign id now => db.settleDesigns (db.designs.reopenUndecidedDesign id now)
  | .attributeDesign id human now => db.settleDesigns (db.designs.attributeDesignDecision id human now)
  | .supersedeDesign seen id supersededBy human now =>
    db.settleDesigns (seen.designs.supersedeDesignItem db.designs id supersededBy human now)
  | .materializeDesign seen id plan actor repair now =>
    db.settle (materializeDesignItem env seen db id plan actor repair now)
  | .recordKnowledge statement evidence halfLifeHours now =>
    { db with knowledge := db.knowledge.recordKnowledge env decay statement evidence halfLifeHours now }
  | .recordSourced statement evidence halfLifeHours sourceRef actor now =>
    match db.knowledge.recordSourcedKnowledge env decay statement evidence halfLifeHours sourceRef actor now with
    | .ok (_, knowledge) => { db with knowledge }
    | .error _ => db
  | .retireSource sourceRef actor why now =>
    match db.knowledge.retireKnowledgeSource sourceRef actor why now with
    | .ok (_, knowledge) => { db with knowledge }
    | .error _ => db
  | .reconfirmKnowledge id now => { db with knowledge := db.knowledge.reconfirmKnowledge decay id now }
  | .retireKnowledge seen id human why supersededBy now =>
    match seen.knowledge.retireKnowledge db.knowledge id human why supersededBy now with
    | .ok knowledge => { db with knowledge }
    | .error _ => db
  | .pruneKnowledge now => { db with knowledge := db.knowledge.pruneKnowledge decay now }

end Database

/-- One Intent Plane from empty: its own operations and projections in any order,
its readers anywhere behind. -/
def anyDatabase (env : Env) (decay : Decay) : Machine Database DatabaseOp where
  start := {}
  enabled := DatabaseOp.enabled
  apply db op := db.perform env decay op

end MindLeak.Lodestar
