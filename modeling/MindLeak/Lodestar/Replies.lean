import MindLeak.Lodestar.Database

/-! What a client of the store gets to see: the answer of each operation, and
the readings of the tables between them. -/

namespace MindLeak.Lodestar

structure ResetOutcome where
  (goalsRemoved tasksRemoved designItemsRemoved artifactBindingsRemoved : Nat)
  (conformanceRecordsRemoved knowledgeRemoved : Nat)
  deriving DecidableEq

/-- An operation that answers with rows it wrote, or with their number, is `done`:
the readings show those. -/
inductive Reply where
  | refused (error : LodestarError)
  | done
  | won (answer : Bool)
  | text (value : String)
  | texts (values : List String)
  | removed (outcome : ResetOutcome)
  | checked (value : ConformanceCheck)
  | result (value : ConformanceResult)
  | sourced (row : KnowledgeRow) (retired : Option String)
  | withdrawn (row : KnowledgeRow) (won : Bool)
  | version (row : Option ConstitutionVersion)
  | grounds (rows : List ProjectFact)
  | control (row : Option Control)
  | waiver (row : Option Waiver)
  | amendment (row : Option ConstitutionAmendment)
  | goal (row : Option Goal)
  | task (row : Option Task)
  | log (events : List TaskEvent)
  | records (rows : List ConformanceRecord)
  | design (row : Option DesignRow)
  | acts (rows : List DesignAction)
  | plans (rows : List DesignMaterializationRecord)
  | lesson (row : Option KnowledgeRow)
  deriving DecidableEq

namespace Reply

def ofResult {α : Type} (read : α → Reply) : Result α → Reply
  | .ok value => read value
  | .error error => .refused error

/-- The answer an operation gives beside the state it leaves. -/
def ofAnswer {α σ : Type} (read : α → Reply) (result : Result (α × σ)) : Reply :=
  ofResult (fun answered => read answered.1) result

def ofDone {σ : Type} (result : Result σ) : Reply := ofResult (fun _ => done) result

end Reply

inductive Reading where
  | constitutionVersion (id : String)
  | activeConstitutionVersion
  | projectFacts (constitutionVersion : String)
  | control (id : String)
  | waiver (id : String)
  | amendment (id : String)
  | getGoal (id : String)
  | getTask (id : String)
  | taskLog
  | conformanceHistory (taskId : String)
  | getDesignItem (id : String)
  | designActionHistory (id : String)
  | designMaterializationHistory (id : String)
  | getKnowledge (id : String)

def Store.reply (env : Env) (s : Store) : Op → Reply
  | .createTask goalId title acceptance parent predecessor alsoServes now =>
    .ofAnswer (fun created => .task (some created))
      (s.createTaskAfterOn env goalId title acceptance parent predecessor alsoServes now)
  | .materialize drafts now => .ofDone (s.materializeTasks env drafts now)
  | .claim id agent leaseSecs paths symbols now => .ofAnswer .won (s.claimTask env id agent leaseSecs paths symbols now)
  | .renew id agent leaseSecs now => .ofAnswer .won (s.renewLease id agent leaseSecs now)
  | .touch id agent leaseSecs now => .ofAnswer .won (s.touchLease id agent leaseSecs now)
  | .release id agent now => .ofAnswer .won (s.releaseTask id agent now)
  | .recover id expectedOwner recovering why reviewer leaseSecs now =>
    .ofAnswer .won (s.recoverClaimAuthorized id expectedOwner recovering why reviewer leaseSecs now)
  | .ask id agent question audience now => .ofAnswer .won (s.askQuestion id agent question audience now)
  | .answer id answer author leaseSecs now => .ofAnswer .won (s.answerQuestion id answer author leaseSecs now)
  | .pause id agent why now => .ofAnswer .won (s.pauseTask id agent why now)
  | .resume id agent leaseSecs now => .ofAnswer .won (s.resumeTask id agent leaseSecs now)
  | .declareCoverage id agent alsoServes now => .ofAnswer .texts (s.declareCoverage id agent alsoServes now)
  | .reconnect id agent now => .ofAnswer .text (s.reconnectClaimClause id agent now)
  | .block id blockedBy why actor now => .ofAnswer .won (s.blockTask id blockedBy why actor now)
  | .reopen id now => .ofAnswer .won (s.reopenTask id now)
  | .abandon seen id acknowledgeBranch now =>
    .ofAnswer .won (s.abandonTask (recordedBranches (seen.eventsOf id)) id acknowledgeBranch now)
  | .resolve id resolver now => .ofAnswer .won (s.resolveInReview id resolver now)
  | .check seen evidence requested inputs now checkedAt =>
    .ofAnswer .checked (checkConformance env seen s evidence requested inputs now checkedAt)
  | .complete seen id agent evidence check lessons now =>
    .ofAnswer .result (completeTask env seen s id agent evidence check lessons now)
  | .declareSession .. => .done
  | .grantWaiver id request now => .ofAnswer (fun granted => .waiver (some granted)) (s.grantWaiver id request now)
  | .revokeWaiver id revokedBy why now =>
    .ofAnswer (fun revoked => .waiver (some revoked)) (s.revokeWaiver id revokedBy why now)
  | .defineGoal kind title statement parent now =>
    .ofAnswer (fun defined => .goal (some defined)) (s.defineGoalOn env kind title statement parent now)
  | .importGoals sourceSystem records now => .ofDone (s.importExternalGoals env sourceSystem records now)
  | .supersede seen oldId statement why now =>
    .ofAnswer (fun stated => .goal (some stated)) (supersedeGoal seen s oldId statement why now)
  | .retire .. => .done
  | .contract seen goalId scope evidenceContract consequence waivable waiverAuthority =>
    .ofDone (completeClauseContract seen s goalId scope evidenceContract consequence waivable waiverAuthority)
  | .link seen goalId nodeIds mode => .ofDone (linkGoalToArtifact seen s goalId nodeIds mode)
  | .unlink seen goalId nodeIds => .ofDone (unlinkGoalFromArtifact seen s goalId nodeIds)
  | .registerControl control => .ofDone (s.registerControl control)
  | .retireControl id retiredBy now => .ofDone (s.retireControl id retiredBy now)
  | .registerPack pack now => .ofDone (s.registerPolicyPack env pack now)
  | .proposePack seen packId version constitutionVersion now =>
    .ofDone (proposePolicyPack env seen s packId version constitutionVersion now)
  | .reviewPack proposalId disposition tailored actor why now =>
    .ofDone (s.reviewPackClause env proposalId disposition tailored actor why now)
  | .proposeConstitution seen createdBy now => .ofDone (proposeConstitution seen s createdBy now)
  | .proposeAmendment seen createdBy now => .ofDone (proposeAmendment seen s createdBy now)
  | .copyClause seen fromVersion toVersion clauseId => .ofDone (copyClauseToVersion seen s fromVersion toVersion clauseId)
  | .draftClause seen draftId kind title statement now =>
    .ofAnswer (fun drafted => .goal (some drafted)) (draftClause env seen s draftId kind title statement now)
  | .activate draftId activatedBy now => .ofDone (s.activateConstitution draftId activatedBy now)
  | .amend active outgoing incoming draftId amendedBy approvedBy rationale now =>
    .ofAnswer (fun recorded => .amendment (some recorded))
      (amendConstitution env (amendmentReads active outgoing incoming draftId) s draftId amendedBy approvedBy rationale now)
  | .reset confirmation => .ofDone (s.resetDatabase confirmation)

def Store.replyFederated (s : Store) : FederatedOp → Reply
  | .grant id agent grant kind now => .ofDone (s.applyFederatedGrant id agent grant kind now)
  | .release id agent now => .ofDone (s.applyFederatedRelease id agent now)
  | .park id agent question audience now => .ofDone (s.applyFederatedPark id agent question audience now)
  | .answer id author answer grant now => .ofDone (s.applyFederatedAnswer id author answer grant now)
  | .pause id agent why now => .ofDone (s.applyFederatedPause id agent why now)
  | .resume id agent grant now => .ofDone (s.applyFederatedResume id agent grant now)

namespace Database

def resetOutcome (db : Database) : ResetOutcome where
  goalsRemoved := db.store.goals.rows.length
  tasksRemoved := db.store.tasks.rows.length
  designItemsRemoved := db.designs.items.rows.length
  artifactBindingsRemoved := db.store.goalArtifacts.rows.length
  conformanceRecordsRemoved := db.store.conformance.rows.length
  knowledgeRemoved := db.knowledge.rows.rows.length

def reply (env : Env) (decay : Decay) (db : Database) : DatabaseOp → Reply
  | .local (.reset confirmation) => .ofResult (fun _ => .removed db.resetOutcome) (db.resetDatabase confirmation)
  | .local op => db.store.reply env op
  | .federated op => db.store.replyFederated op
  | .recordFacts .. => .done
  | .registerDesign id adrPath title summary proposedBy now =>
    .ofDone (db.designs.registerDesignItem id adrPath title summary proposedBy now)
  | .reconcileDesign .. => .done
  | .designActions ids action human why now => .ofDone (db.designs.applyDesignActions ids action human why now)
  | .decideDesign id target decidedBy why now =>
    .won (db.designs.decideDesignItem id target decidedBy why now).isSome
  | .reopenDesign id now => .ofDone (db.designs.reopenUndecidedDesign id now)
  | .attributeDesign id human now => .ofDone (db.designs.attributeDesignDecision id human now)
  | .supersedeDesign seen id supersededBy human now =>
    .ofDone (seen.designs.supersedeDesignItem db.designs id supersededBy human now)
  | .materializeDesign seen id plan actor repair now =>
    .ofDone (materializeDesignItem env seen db id plan actor repair now)
  | .recordKnowledge .. => .done
  | .recordSourced statement evidence halfLifeHours sourceRef actor now =>
    .ofAnswer (fun answer => .sourced answer.1 answer.2)
      (db.knowledge.recordSourcedKnowledge env decay statement evidence halfLifeHours sourceRef actor now)
  | .retireSource sourceRef actor why now =>
    .ofAnswer (fun answer => .withdrawn answer.1 answer.2) (db.knowledge.retireKnowledgeSource sourceRef actor why now)
  | .reconfirmKnowledge .. => .done
  | .retireKnowledge seen id human why supersededBy now =>
    .ofDone (seen.knowledge.retireKnowledge db.knowledge id human why supersededBy now)
  | .pruneKnowledge .. => .done

def read (db : Database) : Reading → Reply
  | .constitutionVersion id => .version (db.store.constitutionVersions.find? id)
  | .activeConstitutionVersion => .version db.store.activeConstitutionVersion
  | .projectFacts constitutionVersion => .grounds (db.projectFacts constitutionVersion)
  | .control id => .control (db.store.controls.find? id)
  | .waiver id => .waiver (db.store.waivers.find? id)
  | .amendment id => .amendment (db.store.amendments.find? id)
  | .getGoal id => .goal ((db.store.goals.find? id).map GoalRow.toGoal)
  | .getTask id => .task (db.store.getTask id)
  | .taskLog => .log db.store.taskEvents
  | .conformanceHistory taskId =>
    .records ((db.store.conformance.rows.filter fun record => decide (record.taskId = some taskId)).insertionSort
      fun left right => left.id ≤ right.id)
  | .getDesignItem id => .design (db.designs.getDesignItem id)
  | .designActionHistory id =>
    if (db.designs.getDesignItem id).isNone then .refused (.notFound id)
    else .acts (db.designs.actions.filter fun act => decide (act.designId = id))
  | .designMaterializationHistory id => .plans (db.designs.materializationHistory id)
  | .getKnowledge id => .lesson (db.knowledge.getKnowledge id)

end Database

/-- One thing a client asks. -/
inductive Call where
  | write (op : DatabaseOp)
  | read (reading : Reading)

namespace Call

def enabled (visited : List Database) : Call → Prop
  | write op => op.enabled visited
  | read _ => True

def after (env : Env) (decay : Decay) (db : Database) : Call → Database
  | write op => db.perform env decay op
  | read _ => db

def reply (env : Env) (decay : Decay) (db : Database) : Call → Reply
  | write op => db.reply env decay op
  | read reading => db.read reading

end Call

/-- What a client asks next, given the state it finds and those before it, newest
first. -/
abbrev Client := List (Database → List Database → Call)

/-- Every call may be made wherever it comes. -/
def Client.Fair (client : Client) : Prop :=
  ∀ call ∈ client, ∀ db earlier, (call db earlier).enabled (db :: earlier)

def replies (env : Env) (decay : Decay) : Client → List Database → Database → List Reply
  | [], _, _ => []
  | call :: later, earlier, db =>
    (call db earlier).reply env decay db :: replies env decay later (db :: earlier) ((call db earlier).after env decay db)

end MindLeak.Lodestar
