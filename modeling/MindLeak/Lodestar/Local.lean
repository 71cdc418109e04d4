import MindLeak.Lodestar.Packs

/-! Every operation of a local store as one serial step. An operation whose reads
run outside its transaction carries the committed states those reads saw; what
fails leaves the store as it was. -/

namespace MindLeak.Lodestar

inductive Op where
  | createTask (goalId title acceptance : String) (parent predecessor : Option String) (alsoServes : List String)
      (now : Int)
  | materialize (drafts : List Store.TaskDraft) (now : Int)
  | claim (id agent : String) (leaseSecs : Int) (paths symbols : Option (List String)) (now : Int)
  | renew (id agent : String) (leaseSecs now : Int)
  | touch (id agent : String) (leaseSecs now : Int)
  | release (id agent : String) (now : Int)
  | recover (id expectedOwner : String) (recovering : RecoveringSession) (why : String) (reviewer : Option String)
      (leaseSecs now : Int)
  | ask (id agent question : String) (audience : Option String) (now : Int)
  | answer (id answer author : String) (leaseSecs now : Int)
  | pause (id agent : String) (why : Option String) (now : Int)
  | resume (id agent : String) (leaseSecs now : Int)
  | declareCoverage (id agent : String) (alsoServes : List String) (now : Int)
  | reconnect (id agent : String) (now : Int)
  | block (id : String) (blockedBy why : Option String) (actor : String) (now : Int)
  | reopen (id : String) (now : Int)
  | abandon (seen : Store) (id : String) (acknowledgeBranch : Bool) (now : Int)
  | resolve (id resolver : String) (now : Int)
  | check (seen : Store) (evidence : ConformanceEvidence) (requested : Option String) (inputs : Store.CheckInputs)
      (now checkedAt : Int)
  | complete (seen : Store) (id agent : String) (evidence : ConformanceEvidence) (check : ConformanceCheck)
      (lessons : List Lesson) (now : Int)
  | declareSession (agentId : String) (context : SessionContext) (now : Int)
  | grantWaiver (id : String) (request : WaiverRequest) (now : Int)
  | revokeWaiver (id revokedBy why : String) (now : Int)
  | defineGoal (kind : GoalKind) (title statement : String) (parent : Option String) (now : Int)
  | importGoals (sourceSystem : String) (records : List ExternalGoalRecord) (now : Int)
  | supersede (seen : Store) (oldId statement why : String) (now : Int)
  | retire (oldId newId agent : String) (now : Int)
  | contract (seen : Store) (goalId scope evidenceContract : String) (consequence : Option Consequence)
      (waivable : Bool) (waiverAuthority : Option String)
  | link (seen : Store) (goalId : String) (nodeIds : List String) (mode : ArtifactBindingMode)
  | unlink (seen : Store) (goalId : String) (nodeIds : List String)
  | registerControl (control : Control)
  | retireControl (id retiredBy : String) (now : Int)
  | registerPack (pack : ConstitutionPack) (now : Int)
  | proposePack (seen : Store) (packId version : String) (constitutionVersion : Option String) (now : Int)
  | reviewPack (proposalId : String) (disposition : PackClauseDisposition) (tailored : Option PackClause)
      (actor : String) (why : Option String) (now : Int)
  | proposeConstitution (seen : Store) (createdBy : Option String) (now : Int)
  | proposeAmendment (seen : Store) (createdBy : Option String) (now : Int)
  | copyClause (seen : Store) (fromVersion toVersion clauseId : String)
  | draftClause (seen : Store) (draftId : String) (kind : GoalKind) (title statement : String) (now : Int)
  | activate (draftId activatedBy : String) (now : Int)
  | amend (active outgoing incoming : Store) (draftId amendedBy approvedBy rationale : String) (now : Int)
  | reset (confirmation : String)

namespace Op

/-- The states an operation's reads outside its transaction saw. -/
def reads : Op → List Store
  | abandon seen .. | check seen .. | complete seen .. | supersede seen .. | contract seen .. | link seen ..
  | unlink seen .. | proposePack seen .. | proposeConstitution seen .. | proposeAmendment seen ..
  | copyClause seen .. | draftClause seen .. => [seen]
  | amend active outgoing incoming .. => [active, outgoing, incoming]
  | _ => []

/-- The second half of a supersession follows a committed first half. -/
def enabled (visited : List Store) (op : Op) : Prop :=
  (∀ seen ∈ op.reads, seen ∈ visited) ∧
    match op with
    | retire _ newId _ _ => ∃ seen ∈ visited, (seen.goals.find? newId).isSome
    | _ => True

end Op

namespace Store

/-- A transaction that did not commit left nothing. -/
def settle (s : Store) : Result Store → Store
  | .ok after => after
  | .error _ => s

/-- The same where the operation also answers its caller. -/
def settled {α : Type} (s : Store) : Result (α × Store) → Store
  | .ok (_, after) => after
  | .error _ => s

def perform (env : Env) (s : Store) : Op → Store
  | .createTask goalId title acceptance parent predecessor alsoServes now =>
    s.settled (s.createTaskAfterOn env goalId title acceptance parent predecessor alsoServes now)
  | .materialize drafts now => s.settle (s.materializeTasks env drafts now)
  | .claim id agent leaseSecs paths symbols now => s.settled (s.claimTask env id agent leaseSecs paths symbols now)
  | .renew id agent leaseSecs now => s.settled (s.renewLease id agent leaseSecs now)
  | .touch id agent leaseSecs now => s.settled (s.touchLease id agent leaseSecs now)
  | .release id agent now => s.settled (s.releaseTask id agent now)
  | .recover id expectedOwner recovering why reviewer leaseSecs now =>
    s.settled (s.recoverClaimAuthorized id expectedOwner recovering why reviewer leaseSecs now)
  | .ask id agent question audience now => s.settled (s.askQuestion id agent question audience now)
  | .answer id answer author leaseSecs now => s.settled (s.answerQuestion id answer author leaseSecs now)
  | .pause id agent why now => s.settled (s.pauseTask id agent why now)
  | .resume id agent leaseSecs now => s.settled (s.resumeTask id agent leaseSecs now)
  | .declareCoverage id agent alsoServes now => s.settled (s.declareCoverage id agent alsoServes now)
  | .reconnect id agent now => s.settled (s.reconnectClaimClause id agent now)
  | .block id blockedBy why actor now => s.settled (s.blockTask id blockedBy why actor now)
  | .reopen id now => s.settled (s.reopenTask id now)
  | .abandon seen id acknowledgeBranch now =>
    s.settled (s.abandonTask (recordedBranches (seen.eventsOf id)) id acknowledgeBranch now)
  | .resolve id resolver now => s.settled (s.resolveInReview id resolver now)
  | .check seen evidence requested inputs now checkedAt =>
    s.settled (checkConformance env seen s evidence requested inputs now checkedAt)
  | .complete seen id agent evidence check lessons now =>
    s.settled (completeTask env seen s id agent evidence check lessons now)
  | .declareSession agentId context now => s.declareSessionContext agentId context now
  | .grantWaiver id request now => s.settled (s.grantWaiver id request now)
  | .revokeWaiver id revokedBy why now => s.settled (s.revokeWaiver id revokedBy why now)
  | .defineGoal kind title statement parent now => s.settled (s.defineGoalOn env kind title statement parent now)
  | .importGoals sourceSystem records now => s.settle (s.importExternalGoals env sourceSystem records now)
  | .supersede seen oldId statement why now => s.settled (supersedeGoal seen s oldId statement why now)
  | .retire oldId newId agent now => s.retireSuperseded oldId newId agent now
  | .contract seen goalId scope evidenceContract consequence waivable waiverAuthority =>
    s.settle (completeClauseContract seen s goalId scope evidenceContract consequence waivable waiverAuthority)
  | .link seen goalId nodeIds mode => s.settle (linkGoalToArtifact seen s goalId nodeIds mode)
  | .unlink seen goalId nodeIds => s.settle (unlinkGoalFromArtifact seen s goalId nodeIds)
  | .registerControl control => s.settle (s.registerControl control)
  | .retireControl id retiredBy now => s.settle (s.retireControl id retiredBy now)
  | .registerPack pack now => s.settle (s.registerPolicyPack env pack now)
  | .proposePack seen packId version constitutionVersion now =>
    s.settle (proposePolicyPack env seen s packId version constitutionVersion now)
  | .reviewPack proposalId disposition tailored actor why now =>
    s.settle (s.reviewPackClause env proposalId disposition tailored actor why now)
  | .proposeConstitution seen createdBy now => s.settle (proposeConstitution seen s createdBy now)
  | .proposeAmendment seen createdBy now => s.settle (proposeAmendment seen s createdBy now)
  | .copyClause seen fromVersion toVersion clauseId => s.settle (copyClauseToVersion seen s fromVersion toVersion clauseId)
  | .draftClause seen draftId kind title statement now => s.settled (draftClause env seen s draftId kind title statement now)
  | .activate draftId activatedBy now => s.settle (s.activateConstitution draftId activatedBy now)
  | .amend active outgoing incoming draftId amendedBy approvedBy rationale now =>
    s.settled (amendConstitution env (amendmentReads active outgoing incoming draftId) s draftId amendedBy approvedBy
      rationale now)
  | .reset confirmation => s.settle (s.resetDatabase confirmation)

end Store

/-- Stand-ins to work runs by hand: every text is its own digest. -/
def Env.plain : Env where
  shortHash text := text
  globError _ := none
  packDigest pack := pack.id ++ "@" ++ pack.version
  tokenDigest id _ verdict findings _ := s!"{id}:" ++ verdict.asStr ++ ":" ++ "; ".intercalate findings

/-- A local store from empty, its operations serial, its readers anywhere behind. -/
def localStore (env : Env) : Machine Store Op where
  start := {}
  enabled := Op.enabled
  apply s op := s.perform env op

/-- What a store under another coordination authority also receives. -/
inductive FederatedOp where
  | grant (id agent : String) (grant : FederatedClaimGrant) (kind : TaskEventKind) (now : Int)
  | release (id agent : String) (now : Int)
  | park (id agent question : String) (audience : Option String) (now : Int)
  | answer (id author answer : String) (grant : FederatedClaimGrant) (now : Int)
  | pause (id agent : String) (why : Option String) (now : Int)
  | resume (id agent : String) (grant : FederatedClaimGrant) (now : Int)

def Store.performFederated (s : Store) : FederatedOp → Store
  | .grant id agent grant kind now => s.settle (s.applyFederatedGrant id agent grant kind now)
  | .release id agent now => s.settle (s.applyFederatedRelease id agent now)
  | .park id agent question audience now => s.settle (s.applyFederatedPark id agent question audience now)
  | .answer id author answer grant now => s.settle (s.applyFederatedAnswer id author answer grant now)
  | .pause id agent why now => s.settle (s.applyFederatedPause id agent why now)
  | .resume id agent grant now => s.settle (s.applyFederatedResume id agent grant now)

/-- Local operations and projections in any order. -/
def anyStore (env : Env) : Machine Store (Op ⊕ FederatedOp) where
  start := {}
  enabled visited op := ∀ here, op = .inl here → here.enabled visited
  apply s
    | .inl op => s.perform env op
    | .inr op => s.performFederated op

end MindLeak.Lodestar
