import MindLeak.Lodestar.Transitions

/-! Bounded exceptions and the controls they stand down: scope matching, waiver
reach, and how one control observation resolves against its clause. -/

namespace MindLeak.Lodestar

def WORKFLOW_PREFIX : String := "workflow:"

def isWorkflow (scope : String) : Bool := Text.startsWith scope WORKFLOW_PREFIX

/-- A parent token governs its children, never the reverse. -/
def workflowGoverns (declared intended : String) : Bool :=
  decide (intended = declared) ||
    match Text.stripPrefix? declared intended with
    | some rest => Text.startsWith rest "."
    | none => false

/-- Exact match, or a trailing `**` covering everything beneath a prefix. -/
def covers (declared target : String) : Bool :=
  if declared = target then true
  else if isWorkflow declared then workflowGoverns declared target
  else match Text.stripSuffix? "**" declared with
    | some lead => Text.startsWith target lead
    | none => false

namespace Waiver

def isLive (waiver : Waiver) (now : Int) : Bool := decide (waiver.status = .active) && decide (now < waiver.expiresAt)

def appliesTo (waiver : Waiver) (target : String) (now : Int) : Bool :=
  decide (waiver.status = .active) && decide (now < waiver.expiresAt) && covers waiver.scope target

end Waiver

structure WaiverRequest where
  (clauseId scope reason approvedBy : String)
  expiresAt : Int
  remediationTaskId : Option String

def validateRequest (clause : Goal) (request : WaiverRequest) (now : Int) : Result Unit := do
  let clauseId := clause.id
  if Text.isBlank request.approvedBy then throw (.invalid "a waiver requires an attributed approver")
  if Text.isBlank request.reason then throw (.invalid "a waiver requires a reason")
  if Text.isBlank request.scope then throw (.invalid "a waiver requires a scope; there is no blanket waiver")
  if !clause.waivable then
    throw (.invalid s!"clause {clauseId} declares itself unwaivable; changing that is an amendment, not an exception")
  match clause.waiverAuthority with
  | some authority =>
    let approver := request.approvedBy
    if !Text.isBlank authority && Text.trim authority ≠ Text.trim approver then
      throw (.invalid (s!"clause {clauseId} requires waiver authority {authority}; {approver} " ++
        "cannot approve this exception"))
  | none => pure ()
  if request.expiresAt ≤ now then
    throw (.invalid "a waiver must expire in the future; a permanent exception is an amendment")

namespace Store

def activeConstitutionVersion (s : Store) : Option ConstitutionVersion :=
  ((s.constitutionVersions.rows.filter fun version => decide (version.status = .active)).insertionSort
    fun left right => right.version ≤ left.version).head?

def waiversForClause (s : Store) (clauseId : String) : List Waiver :=
  (s.waivers.rows.filter fun waiver => decide (waiver.clauseId = clauseId)).insertionSort
    fun left right => right.createdAt < left.createdAt ∨ (left.createdAt = right.createdAt ∧ left.id ≤ right.id)

def liveWaiversForClause (s : Store) (clauseId : String) (now : Int) : List Waiver :=
  (s.waiversForClause clauseId).filter fun waiver => waiver.isLive now

def excusingWaiver (s : Store) (clause : Goal) (target : String) (now : Int) : Option Waiver :=
  (((s.liveWaiversForClause clause.id now).filter fun waiver => waiver.appliesTo target now).insertionSort
    fun left right => right.scope.utf8ByteSize < left.scope.utf8ByteSize ∨
      (left.scope.utf8ByteSize = right.scope.utf8ByteSize ∧ left.id ≤ right.id)).head?

def grantWaiver (s : Store) (id : String) (request : WaiverRequest) (now : Int) : Result (Waiver × Store) := do
  match s.goals.find? request.clauseId with
  | none => throw (.notFound request.clauseId)
  | some clause =>
    validateRequest clause.toGoal request now
    match request.remediationTaskId with
    | some taskId => if (s.getTask taskId).isNone then throw (.notFound s!"remediation task {taskId}")
    | none => pure ()
    let waiver : Waiver :=
      { id, clauseId := request.clauseId
        constitutionVersion := (s.activeConstitutionVersion.map ConstitutionVersion.id).or clause.constitutionVersion
        scope := request.scope, reason := request.reason, approvedBy := request.approvedBy
        createdAt := now, expiresAt := request.expiresAt
        remediationTaskId := request.remediationTaskId, status := .active }
    match s.waivers.insert? waiver with
    | none => throw (.sqlite "UNIQUE constraint failed: waivers.id")
    | some waivers => return (waiver, { s with waivers })

def revokeWaiver (s : Store) (id revokedBy reason : String) (now : Int) : Result (Waiver × Store) := do
  if Text.isBlank revokedBy || Text.isBlank reason then
    throw (.invalid "revoking a waiver requires an attributed revoker and a reason")
  match s.waivers.find? id with
  | none => throw (.notFound id)
  | some waiver =>
    if waiver.status ≠ .active then throw (.invalid s!"waiver {id} is already revoked")
    let revoke (waiver : Waiver) : Waiver :=
      { waiver with
        status := .revoked, revokedBy := some revokedBy, revokedAt := some now, revocationReason := some reason }
    return (revoke waiver, { s with waivers := s.waivers.update (fun row => decide (row.id = id)) revoke })

end Store

def Consequence.rank : Consequence → Nat
  | .advise => 0
  | .review => 1
  | .block => 2

def Consequence.asStr : Consequence → String
  | .advise => "advise"
  | .review => "review"
  | .block => "block"

def minConsequence (left right : Consequence) : Consequence := if left.rank ≤ right.rank then left else right

namespace EnforcementPower

/-- Only a mechanism that prevented something may drive a block. -/
def ceiling : EnforcementPower → Consequence
  | .mechanical => .block
  | .observed | .advisory => .review

def asStr : EnforcementPower → String
  | .mechanical => "mechanical"
  | .observed => "observed"
  | .advisory => "advisory"

end EnforcementPower

inductive ObservationStatus where
  | pass | fail | unknown

/-- One reported result from a control, with the fields resolution reads. -/
structure ControlObservation where
  (controlId clauseId : String)
  controlVersion : Int
  scope : String
  status : ObservationStatus
  evaluatedAt : Int

structure ControlResolution where
  (controlId clauseId : String)
  status : ObservationStatus
  effective : Consequence
  finding : String

def resolveWithDeclared (declared : Option Consequence) (control : Control) (observation : ControlObservation) :
    ControlResolution :=
  let id := control.id
  let clauseId := control.clauseId
  let resolution (status : ObservationStatus) (effective : Consequence) (finding : String) : ControlResolution :=
    ⟨id, clauseId, status, effective, finding⟩
  match declared with
  | none => resolution observation.status .advise
      s!"control {id} serves no active clause; an orphan control reports but cannot escalate"
  | some declared =>
    let reported := observation.controlVersion
    let bound := control.version
    if control.status = .retired then
      resolution .unknown .advise s!"control {id} is retired; its report is not current"
    else if reported ≠ bound then
      resolution .unknown .advise
        s!"control {id} reported at version {reported} but is bound at version {bound}; treating as unknown"
    else match observation.status with
      | .pass => resolution .pass .advise s!"control {id} satisfied clause {clauseId}"
      | .unknown => resolution .unknown .advise
          s!"control {id} could not determine an answer; absence of evidence is not conformance"
      | .fail =>
        let effective := minConsequence declared control.power.ceiling
        let declares := declared.asStr
        let power := control.power.asStr
        let resolves := effective.asStr
        resolution .fail effective
          (if effective.rank < declared.rank then
            s!"control {id} failed clause {clauseId}; clause declares {declares} but a {power} mechanism " ++
              s!"caps this at {resolves}"
          else s!"control {id} failed clause {clauseId}; resolves {resolves}")

def FORBID_CHANGE_CONTROL_ID : String := "control:forbid_change"

def FORBID_CHANGE_CONTROL_VERSION : Int := 1

/-- The built-in mechanical control behind a `forbid_change` lock. -/
def forbidChangeControl (clauseId : String) : Control where
  id := FORBID_CHANGE_CONTROL_ID
  clauseId := clauseId
  kind := .check
  power := .mechanical
  version := FORBID_CHANGE_CONTROL_VERSION
  configuration := none
  status := .active

def forbidChangeObservation (clauseId nodeId : String) (evaluatedAt : Int) : ControlObservation where
  controlId := FORBID_CHANGE_CONTROL_ID
  clauseId := clauseId
  controlVersion := FORBID_CHANGE_CONTROL_VERSION
  scope := nodeId
  status := .fail
  evaluatedAt := evaluatedAt

end MindLeak.Lodestar
