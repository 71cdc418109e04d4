import MindLeak.Lodestar.Verdict

/-! Advice before an edit: the same walk over the bindings as the check makes,
with no evidence, no judge and no clock. -/

namespace MindLeak.Lodestar

def MAX_ADVISORY_KNOWLEDGE : Nat := 3

def MAX_ADVISORY_STATEMENT_CHARS : Nat := 500

def MAX_ADVISORY_MATCHED_NODES : Nat := 5

inductive AdviceDisposition where
  | advise | review | block | needsHuman

inductive AdviceReason where
  | noConstitutionAdopted

structure GoverningClause where
  nodeId : String
  goal : Goal
  mode : ArtifactBindingMode

/-- A lesson with what advice passes on beside it; the weight is the bits of a
score nothing here computes with. -/
structure Knowledge extends Lesson where
  weight : UInt64
  confirmedAt : Int

structure KnowledgeAdvisory where
  (id statement : String)
  weight : UInt64
  confirmedAt : Int
  matchedNodes : List String

structure Advice where
  disposition : AdviceDisposition
  reason : Option AdviceReason
  governing : List GoverningClause
  findings : List String
  knownContext : List KnowledgeAdvisory

def statementPreview (statement : String) : String :=
  let characters := statement.toList
  let preview := String.ofList (characters.take MAX_ADVISORY_STATEMENT_CHARS)
  if MAX_ADVISORY_STATEMENT_CHARS < characters.length then preview ++ "..." else preview

def knownContextForNodes (active : List Knowledge) (nodeIds : List String) : List KnowledgeAdvisory :=
  (active.filterMap fun knowledge =>
    let matchedNodes := (knowledge.referencedNodes.filter fun node => decide (node ∈ nodeIds)).take
      MAX_ADVISORY_MATCHED_NODES
    if matchedNodes.isEmpty then none
    else some ⟨knowledge.id, statementPreview knowledge.statement, knowledge.weight, knowledge.confirmedAt,
      matchedNodes⟩).take MAX_ADVISORY_KNOWLEDGE

def trimEndDots (text : String) : String :=
  String.ofList (text.toList.reverse.dropWhile fun c => decide (c = '.')).reverse

def distinctGoalIds (pairs : List (String × Goal)) : List String := sortDedup (pairs.map fun pair => pair.2.id)

/-- Every clause governing the scope, locks first and procedures last. -/
def GoverningClauses.clauses (resolved : GoverningClauses) (workflow : List (String × Goal)) : List GoverningClause :=
  (resolved.forbid.map fun (node, goal) => ⟨node, goal, .forbidChange⟩) ++
    ((resolved.inScope ++ resolved.other ++ workflow).map fun (node, goal) => ⟨node, goal, .governed⟩)

/-- The one disposition of a scope, with what it adds to the findings. -/
def GoverningClauses.disposition (resolved : GoverningClauses) (workflow : List (String × Goal)) :
    AdviceDisposition × List String :=
  let hardWorkflow := workflow.any fun (_, goal) => decide (goal.consequence = some .block)
  if !resolved.forbid.isEmpty then
    (.block, resolved.forbid.map fun (node, goal) =>
      let id := goal.id
      s!"{id} forbids changes to {node}; a change needs a waiver, not a commit")
  else if !resolved.other.isEmpty then
    let goals := ", ".intercalate (distinctGoalIds resolved.other)
    (.review, [s!"this change is governed by {goals} but no covering task claims it — it would drift; " ++
      "get a covering task or review before acting"])
  else if !resolved.inScope.isEmpty then
    let goals := ", ".intercalate (distinctGoalIds resolved.inScope)
    (if hardWorkflow then .review else .advise,
      [s!"in scope of your task goal {goals}; honour the clause statements above as you work"])
  else if hardWorkflow then
    (.review, ["this action is governed by a clause that can hard-block; read it before acting"])
  else if !workflow.isEmpty then (.advise, [])
  else (.advise, ["no active clause governs this change; proceed"])

namespace Store

def goalsByStatus (s : Store) (status : GoalStatus) : List Goal :=
  ((s.goals.rows.filter fun row => decide (row.status = status)).map GoalRow.toGoal).insertionSort
    fun left right => left.kind.asStr < right.kind.asStr ∨
      (left.kind.asStr = right.kind.asStr ∧ left.createdAt ≤ right.createdAt)

def resolveWorkflowClauses (s : Store) (scopes : List String) : List (String × Goal) :=
  (s.goalsByStatus .active).filterMap fun goal =>
    match goal.scope.filter isWorkflow with
    | none => none
    | some declared => (scopes.find? fun intended => workflowGoverns declared intended).map fun intended => (intended, goal)

def requestedTask (s : Store) : Option String → Result (Option Task)
  | none => .ok none
  | some id =>
    match s.getTask id with
    | none => .error (.notFound id)
    | some task => .ok (some task)

def advise (s : Store) (taskId : Option String) (nodeIds workflow : List String) (active : List Knowledge) :
    Result Advice := do
  let knownContext := knownContextForNodes active nodeIds
  let task ← s.requestedTask taskId
  if (s.goalsByStatus .active).isEmpty then
    return {
      disposition := .needsHuman
      reason := some .noConstitutionAdopted
      governing := []
      findings := ["constitution absent: no active policy to advise against"]
      knownContext }
  let covered := match task with
    | some task => s.goalCoverageOf task.id
    | none => []
  let resolved := s.resolveGoverningClausesCovering nodeIds (task.map Task.goalId) covered
  let procedural := s.resolveWorkflowClauses workflow
  let announced := procedural.map fun (scope, goal) =>
    let id := goal.id
    let statement := trimEndDots goal.statement
    s!"{id} governs {scope}: {statement}"
  let (disposition, findings) := resolved.disposition procedural
  return {
    disposition
    reason := none
    governing := resolved.clauses procedural
    findings := announced ++ findings
    knownContext }

end Store

/-! What a reader is told about a checked task, twice over: the receipt of its
last record, and the qualified certification status. -/

/-- A one-glance summary of the record a task closed on. -/
structure TaskReceipt where
  conformanceId : Int
  verdict : Verdict
  coveredNodes : Nat
  checkedAt : Int
  affirms : Bool

inductive CertificationState where
  | certified | notCertified | waived | needsHuman | uncertifiable | stale
  deriving DecidableEq

/-- The clauses a status was judged against, and those it was not. -/
structure ClauseCoverage where
  (evaluated notEvaluated : List String)

structure CertificationStatus where
  subject : String
  (commit policyVersion : Option String)
  (evidenceBundle certifiedAt : Option Int)
  state : CertificationState
  reason : String
  coveredNodes : Nat
  coverage : ClauseCoverage
  waiver : Option Waiver

def coveredNodeCount (record : ConformanceRecord) : Nat :=
  record.evidence.changedNodeIds.length + record.evidence.ledgerActIds.length

def summariseReceipt (record : ConformanceRecord) : TaskReceipt where
  conformanceId := record.id
  verdict := record.verdict
  coveredNodes := coveredNodeCount record
  checkedAt := record.checkedAt
  affirms := decide (record.verdict = .aligned) && decide (0 < coveredNodeCount record)

/-- Either side may be abbreviated; the recorded one may carry a node prefix. -/
def sameCommit (recorded declared : String) : Bool :=
  let recorded := (Text.stripPrefix? "intent:" recorded).getD recorded
  if recorded.isEmpty then false else Text.startsWith recorded declared || Text.startsWith declared recorded

namespace Store

def taskReceipt (s : Store) (taskId : String) : Option TaskReceipt :=
  (s.conformanceHistory taskId).getLast?.map summariseReceipt

def liveWaivers (s : Store) (now : Int) : List Waiver :=
  (s.waivers.rows.filter fun waiver => waiver.isLive now).insertionSort
    fun left right => left.expiresAt < right.expiresAt ∨ (left.expiresAt = right.expiresAt ∧ left.id ≤ right.id)

def liveWaiverFor (s : Store) (nodeIds : List String) (now : Int) : Option Waiver :=
  (s.liveWaivers now).find? fun waiver => nodeIds.any fun node => waiver.appliesTo node now

end Store

namespace CertificationStatus

def judged (status : CertificationStatus) (verdict : Verdict) (policy : String) : CertificationStatus :=
  match verdict with
  | .aligned =>
    if status.coveredNodes = 0 then
      { status with state := .notCertified, reason := "the verdict was aligned over evidence covering no node" }
    else
      let clauses := status.coverage.evaluated.length
      { status with
        state := .certified
        reason := s!"evidence affirmed this change against {clauses} clause(s) of {policy}" }
  | .drift => { status with state := .notCertified, reason := "governed code changed without a covering task" }
  | .violation => { status with state := .notCertified, reason := "the change contradicts a governing clause" }
  | .needsHuman =>
    { status with state := .needsHuman, reason := "the check could not decide; a person has to look" }

def excepted (status : CertificationStatus) (verdict : Verdict) (waiver : Option Waiver) : CertificationStatus :=
  match verdict, waiver with
  | .violation, some waiver =>
    let id := waiver.id
    let clauseId := waiver.clauseId
    let expiresAt := waiver.expiresAt
    { status with
      state := .waived
      reason := s!"excepted by waiver {id} on clause {clauseId}, expiring at {expiresAt}"
      waiver := some waiver }
  | _, _ => status

/-- Staleness only displaces a status that was otherwise good. -/
def current (status : CertificationStatus) (commitIds : List String) (atCommit : Option String) : CertificationStatus :=
  if status.state = .certified then
    match (atCommit.map Text.trim).filter fun head => !head.isEmpty with
    | some head =>
      if commitIds.any fun recorded => sameCommit recorded head then status
      else { status with
        state := .stale
        reason := s!"the evidence behind this status does not cover commit {head}" }
    | none => status
  else status

end CertificationStatus

namespace Store

def certificationStatus (s : Store) (taskId : String) (atCommit : Option String) (now : Int) :
    Result CertificationStatus :=
  match s.getTask taskId with
  | none => .error (.notFound taskId)
  | some task =>
    let activeClauses := (s.goalsByStatus .active).map Goal.id
    let policy := s.activeConstitutionVersion.map ConstitutionVersion.id
    let status : CertificationStatus :=
      { subject := task.id, commit := none, policyVersion := policy, evidenceBundle := none, certifiedAt := none
        state := .uncertifiable, reason := "", coveredNodes := 0, coverage := ⟨[], sortDedup activeClauses⟩
        waiver := none }
    match policy with
    | none =>
      .ok { status with reason := "no constitution is adopted, so there is nothing to certify against" }
    | some policy =>
      match (s.conformanceHistory task.id).getLast? with
      | none =>
        .ok { status with state := .notCertified, reason := "this subject has never been verified" }
      | some record =>
        let evidence := record.evidence
        let resolved := s.resolveGoverningClausesCovering evidence.changedNodeIds (some task.goalId) []
        let evaluated := sortDedup ((resolved.clauses []).map fun clause => clause.goal.id)
        let status : CertificationStatus :=
          { status with
            commit := evidence.commitIds.head?
            evidenceBundle := some record.id
            certifiedAt := some record.checkedAt
            coveredNodes := evidence.changedNodeIds.length
            coverage := ⟨evaluated, sortDedup (activeClauses.filter fun id => decide (id ∉ evaluated))⟩ }
        .ok (((status.judged record.verdict policy).excepted record.verdict
          (s.liveWaiverFor evidence.changedNodeIds now)).current evidence.commitIds atCommit)

end Store
end MindLeak.Lodestar
