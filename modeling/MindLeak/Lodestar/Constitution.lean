import MindLeak.Lodestar.Goals

/-! Constitution versions: drafting one, adopting the first, and amending the
adopted one. An amendment reads the outgoing version and both clause sets before
its transaction opens and rechecks only the draft inside it. -/

namespace MindLeak.Lodestar
namespace Store

def setVersion (s : Store) (id : String) (selects : ConstitutionVersion → Bool)
    (set : ConstitutionVersion → ConstitutionVersion)
    (keeps : ∀ row, (set row).id = row.id := by intro row; rfl) : Store :=
  { s with
    constitutionVersions := s.constitutionVersions.update (fun row => decide (row.id = id) && selects row) set keeps }

def setClauses (s : Store) (versionId : String) (fromStatus toStatus : GoalStatus) : Store :=
  { s with
    goals := s.goals.update
      (fun row => decide (row.constitutionVersion = some versionId) && decide (row.status = fromStatus))
      fun row => { row with status := toStatus } }

def promote (s : Store) (draftId activatedBy : String) (now : Int) : Store :=
  (s.setVersion draftId (fun row => decide (row.status = .draft)) fun row =>
    { row with status := .active, activatedBy := some activatedBy, activatedAt := some now }).setClauses
      draftId .draft .active

def retireVersion (s : Store) (versionId : String) : Store :=
  (s.setVersion versionId (fun _ => true) fun row => { row with status := .superseded }).setClauses
    versionId .active .superseded

def draftConstitutionVersion (s : Store) : Option ConstitutionVersion :=
  ((s.constitutionVersions.rows.filter fun version => decide (version.status = .draft)).insertionSort
    fun left right => right.version ≤ left.version).head?

def nextConstitutionVersionNumber (s : Store) : Int :=
  ((s.constitutionVersions.rows.map ConstitutionVersion.version).max?.getD 0) + 1

def createConstitutionVersion (s : Store) (id : String) (version : Int) (status : GoalStatus)
    (createdBy : Option String) (now : Int) : Result Store :=
  match s.constitutionVersions.insert? { id, version, status, createdBy, createdAt := now } with
  | none => .error (.sqlite "UNIQUE constraint failed: constitution_versions.id")
  | some constitutionVersions => .ok { s with constitutionVersions }

/-- Where a proposal that may not be opened over an existing draft stops. -/
def refuseOverDraft (s : Store) (advice : String) : Result Unit :=
  match s.draftConstitutionVersion with
  | some draft => .error (.invalid (draft.id ++ " is already drafted and awaiting review; " ++ advice))
  | none => .ok ()

/-- The first statement of a fresh proposal; its checks ran on an earlier read. -/
def proposeConstitution (seen s : Store) (createdBy : Option String) (now : Int) : Result Store := do
  match seen.activeConstitutionVersion with
  | some active => throw (.invalid (active.id ++
      " is already active; changing adopted policy is an amendment, not a fresh proposal"))
  | none => pure ()
  seen.refuseOverDraft "resolve or activate it rather than drafting over it"
  let number := seen.nextConstitutionVersionNumber
  s.createConstitutionVersion s!"constitution:v{number}" number .draft createdBy now

def proposeAmendment (seen s : Store) (createdBy : Option String) (now : Int) : Result Store := do
  if seen.activeConstitutionVersion.isNone then
    throw (.invalid "no constitution is active; propose_constitution adopts a first one")
  seen.refuseOverDraft "resolve it rather than drafting over it"
  let number := seen.nextConstitutionVersionNumber
  s.createConstitutionVersion s!"constitution:v{number}" number .draft createdBy now

def copiedClause (clause : Goal) (toVersion : String) : Goal :=
  let slug := clause.slug
  { clause with
    id := s!"goal:{slug}@{toVersion}"
    status := .draft
    constitutionVersion := some toVersion
    supersededBy := none }

def copyClauseToVersion (seen s : Store) (fromVersion toVersion clauseId : String) : Result Store :=
  match (seen.clausesForVersion fromVersion).find? fun clause => decide (clause.id = clauseId) with
  | none => .error (.notFound clauseId)
  | some clause => s.insertGoalOn (copiedClause clause toVersion)

def draftClause (env : Env) (seen s : Store) (draftId : String) (kind : GoalKind) (title statement : String)
    (now : Int) : Result (Goal × Store) :=
  match seen.constitutionVersions.find? draftId with
  | none => .error (.notFound draftId)
  | some version =>
    let status := version.status.asStr
    if version.status ≠ .draft then
      .error (.invalid (s!"{draftId} is {status}, and a clause may only be authored into a draft; " ++
        "propose_amendment opens one"))
    else s.defineClauseInVersion env kind title statement draftId now

def undecidedProposals (s : Store) (draftId : String) : Nat :=
  s.packProposals.rows.countP fun proposal =>
    decide (proposal.constitutionVersion = draftId) && proposal.disposition.isNone

/-- Adopt a first constitution: every check and both writes in one transaction. -/
def activateConstitution (s : Store) (draftId activatedBy : String) (now : Int) : Result Store := do
  let activatedBy := Text.trim activatedBy
  if activatedBy.isEmpty then
    throw (.invalid "activating a constitution requires an attributed authority")
  match s.constitutionVersions.find? draftId with
  | none => throw (.notFound draftId)
  | some version =>
    if version.status ≠ .draft then
      let status := version.status.asStr
      throw (.invalid s!"{draftId} is {status}, not a draft; only a draft can be activated")
    match s.constitutionVersions.rows.find? fun row => decide (row.status = .active) with
    | some active => throw (.invalid (active.id ++
        " is already active; replacing adopted policy is an amendment, not an activation"))
    | none => pure ()
    let undecided := s.undecidedProposals draftId
    if 0 < undecided then
      throw (.invalid (s!"{undecided} clause proposal(s) under {draftId} are undecided; every clause needs " ++
        "an explicit adopt, tailor, or reject before activation"))
    if (s.clausesForVersion draftId).isEmpty then
      throw (.invalid s!"{draftId} has no clauses; a constitution that governs nothing cannot be activated")
    return s.promote draftId activatedBy now

def successorOf (s : Store) (versionId slug : String) : Option String :=
  (s.goals.rows.find? fun row =>
    decide (row.constitutionVersion = some versionId) && decide (row.status = .active) && decide (row.slug = slug)).map
      fun row => row.id

def carryControls (s : Store) (draftId : String) : Store :=
  let target (control : Control) : Option String :=
    (s.goals.find? control.clauseId).bind fun clause =>
      if s.goals.rows.any fun row =>
          decide (row.constitutionVersion = some draftId) && decide (row.status = .active) &&
            decide (row.slug = clause.slug) && decide (row.id ≠ control.clauseId)
      then s.successorOf draftId clause.slug else none
  { s with
    controls := s.controls.update (fun control => decide (control.status = .active) && (target control).isSome)
      fun control => { control with clauseId := (target control).getD control.clauseId } }

/-- The outgoing clauses name where they went. -/
def linkSuccessors (s : Store) (before draftId : String) : Store :=
  { s with
    goals := s.goals.update
      (fun row => decide (row.constitutionVersion = some before) && row.supersededBy.isNone &&
        (s.successorOf draftId row.slug).isSome)
      fun row => { row with supersededBy := s.successorOf draftId row.slug } }

/-- The clause an outgoing clause's rows move onto. -/
def movedTo (s : Store) (before goalId : String) : Option String :=
  ((s.goals.find? goalId).filter fun row => decide (row.constitutionVersion = some before)).bind fun row =>
    row.supersededBy

def carryBindings (s : Store) (before : String) : Store :=
  { s with
    goalArtifacts := s.goalArtifacts.replace (fun row => (s.movedTo before row.goalId).isSome) fun row =>
      { row with goalId := (s.movedTo before row.goalId).getD row.goalId } }

def followsClause (s : Store) (before : String) (task : Task) : Bool :=
  !task.status.isFinished && (s.movedTo before task.goalId).isSome

/-- Live tasks move with their clause; nothing here records that they did. -/
def carryTasks (s : Store) (before : String) (now : Int) : Store :=
  { s with
    tasks := s.tasks.update (s.followsClause before) fun task =>
      { task with goalId := (s.movedTo before task.goalId).getD task.goalId, updatedAt := now } }

structure AmendmentReads where
  before : Option String
  (beforeClauses afterClauses : List Goal)

/-- The transaction of an amendment over what was read before it opened. -/
def commitAmendment (env : Env) (s : Store) (before : String) (diff : List ClauseDiff)
    (draftId amendedBy approvedBy rationale : String) (now : Int) : Result (ConstitutionAmendment × Store) := do
  match s.constitutionVersions.find? draftId with
  | none => throw (.notFound draftId)
  | some version =>
    if version.status ≠ .draft then
      let status := version.status.asStr
      throw (.invalid s!"{draftId} is {status}, not a draft; an amendment promotes a reviewed draft")
    let undecided := s.undecidedProposals draftId
    if 0 < undecided then
      throw (.invalid (s!"{undecided} clause proposal(s) under {draftId} are undecided; an amendment cannot " ++
        "carry an unreviewed clause"))
    let s := ((s.retireVersion before).promote draftId amendedBy now).carryControls draftId
    let s := ((s.linkSuccessors before draftId).carryBindings before).carryTasks before now
    let amendment : ConstitutionAmendment :=
      { id := "amendment:" ++ env.shortHash s!"{before}|{draftId}|{now}"
        fromVersion := before
        toVersion := draftId
        rationale
        amendedBy
        approvedBy := some approvedBy
        createdAt := now
        diff }
    match s.amendments.insert? amendment with
    | none => throw (.sqlite "UNIQUE constraint failed: constitution_amendments.id")
    | some amendments => return (amendment, { s with amendments })

def amendConstitution (env : Env) (reads : AmendmentReads) (s : Store)
    (draftId amendedBy approvedBy rationale : String) (now : Int) : Result (ConstitutionAmendment × Store) := do
  let approver := Text.trim approvedBy
  if approver.isEmpty then
    throw (.invalid ("an amendment requires an attributed approver; ADR-0043 makes adoption an " ++
      "attributed act, and an unnamed one records nothing"))
  if Text.eqIgnoreAsciiCase approver (Text.trim amendedBy) then
    throw (.invalid (s!"{approver} proposed this amendment and cannot also approve it; name the " ++
      "reviewer who accepted it, which may be another agent"))
  let amendedBy := Text.trim amendedBy
  let rationale := Text.trim rationale
  if amendedBy.isEmpty || rationale.isEmpty then
    throw (.invalid "an amendment requires an attributed author, an approver, and a rationale")
  match reads.before with
  | none => throw (.invalid ("no constitution is active; adopting a first one is an activation, " ++
      "not an amendment"))
  | some before =>
    if before = draftId then throw (.invalid "a version cannot amend itself")
    if reads.afterClauses.isEmpty then
      throw (.invalid s!"{draftId} has no clauses; repealing the constitution entirely is not an amendment")
    let diff := diffClauses reads.beforeClauses reads.afterClauses
    if diff.isEmpty then
      throw (.invalid (s!"{draftId} is identical to {before}; an amendment that changes nothing is churn, " ++
        "not policy"))
    s.commitAmendment env before diff draftId amendedBy approver rationale now

def amendmentReads (active outgoing incoming : Store) (draftId : String) : AmendmentReads :=
  let before := active.activeConstitutionVersion.map ConstitutionVersion.id
  { before
    beforeClauses := (before.map outgoing.clausesForVersion).getD []
    afterClauses := incoming.clausesForVersion draftId }

end Store
end MindLeak.Lodestar
