import MindLeak.Lodestar.Evidence

/-! Turning bounded evidence into a verdict. The base pass owns the verdict; the
knowledge pass only adds findings. -/

namespace MindLeak.Lodestar

/-- What the optional semantic judge answered: a verdict word with its
rationale, or no answer. -/
abbrev JudgeAnswer := Option (String × String)

namespace Store

def judgeStep (goal : Goal) (judge : JudgeAnswer) (findings : List String) : ConformanceResult ⊕ List String :=
  if goal.kind.isNormative then
    match judge with
    | some (verdict, rationale) =>
      if verdict = "aligned" then .inr (findings ++ [s!"semantic check aligned: {rationale}"])
      else if verdict = "violation" then
        .inl ⟨.violation, findings ++ [s!"semantic check found a violation: {rationale}"]⟩
      else .inl ⟨.needsHuman, findings ++ [s!"semantic check needs human review: {rationale}"]⟩
    | none => .inl ⟨.needsHuman, findings ++ ["semantic check unavailable"]⟩
  else .inr findings

/-- The first lock in the walk: a breach unless a waiver reaches it. -/
def lockStep (s : Store) (governing : GoverningClauses) (now : Int) (findings : List String) :
    ConformanceResult ⊕ List String :=
  match governing.forbid.head? with
  | none => .inr findings
  | some (node, goal) =>
    let id := goal.id
    match s.excusingWaiver goal node now with
    | some waiver =>
      let approver := waiver.approvedBy
      let expires := waiver.expiresAt
      let waiverId := waiver.id
      .inr (findings ++ [s!"{id} forbids changes to {node}, waived by {approver} until {expires} ({waiverId})"])
    | none =>
      let resolved := resolveWithDeclared (some .block) (forbidChangeControl id) (forbidChangeObservation id node now)
      .inl ⟨if resolved.effective = .block then .violation else .needsHuman,
        findings ++ [s!"{id} forbids changes to {node}", resolved.finding]⟩

/-- One uncovered node: the findings so far and the clauses no waiver reached. -/
def driftEntry (s : Store) (now : Int) (seen : List String × List String) (entry : String × Goal) :
    List String × List String :=
  let (findings, unwaived) := seen
  let (node, goal) := entry
  let id := goal.id
  match s.excusingWaiver goal node now with
  | some waiver =>
    let approver := waiver.approvedBy
    let expires := waiver.expiresAt
    let waiverId := waiver.id
    (findings ++ [s!"{id} governs {node} without a covering task, waived by {approver} until {expires} ({waiverId})"],
      unwaived)
  | none => (findings, unwaived ++ [id])

def driftStep (s : Store) (governing : GoverningClauses) (now : Int) (findings : List String) :
    ConformanceResult ⊕ List String :=
  let (findings, unwaived) := governing.other.foldl (s.driftEntry now) (findings, [])
  if unwaived.isEmpty then .inr findings
  else
    let ids := ", ".intercalate (sortDedup unwaived)
    .inl ⟨.drift, findings ++ [s!"governed code changed without a covering task: {ids}"]⟩

/-- What is left to decide once no lock and no drift stopped the check. -/
def taskStep (s : Store) (governing : GoverningClauses) (task : Task) (judge : JudgeAnswer) (findings : List String) :
    Result ConformanceResult := do
  let touched := !governing.inScope.isEmpty
  let findings := if touched then findings
    else findings ++ ["evidence does not touch code bound to the task goal"]
  let goalId := task.goalId
  match s.goals.find? goalId with
  | none => throw (.notFound goalId)
  | some goal =>
    match judgeStep goal.toGoal judge findings with
    | .inl decided => return decided
    | .inr findings =>
      let findings := if touched then findings ++ [s!"evidence covers task goal {goalId}"] else findings
      let window := s.claimWindow task.id
      if !window.isContinuous then
        let lapses := window.lapses
        let unleased := window.unleasedSeconds
        return ⟨.needsHuman, findings ++ [s!"evidence window is discontinuous: the lease lapsed {lapses} time(s), " ++
          s!"leaving {unleased}s unleased, which a human confirms"]⟩
      else if !governing.reliedOnCoverage.isEmpty then
        let relied := ", ".intercalate governing.reliedOnCoverage
        return ⟨.needsHuman, findings ++ [s!"in scope via declared coverage, which a human confirms: {relied}"]⟩
      else return ⟨.aligned, findings⟩

/-- The clock is read once before the locks and once before the drift. -/
def evaluateBaseConformance (s : Store) (evidence : ConformanceEvidence) (task : Option Task) (judge : JudgeAnswer)
    (lockNow driftNow : Int) : Result ConformanceResult :=
  if (evidence.changedNodeIds.isEmpty && evidence.ledgerActIds.isEmpty) || evidence.provenance.isEmpty then
    .ok ⟨.needsHuman, ["evidence contains no provenance-bearing mutation"]⟩
  else
    let covered := match task with
      | some task => s.goalCoverageOf task.id
      | none => []
    let governing := s.resolveGoverningClausesCovering evidence.changedNodeIds (task.map Task.goalId) covered
    match s.lockStep governing lockNow [] with
    | .inl decided => .ok decided
    | .inr findings =>
      match s.driftStep governing driftNow findings with
      | .inl decided => .ok decided
      | .inr findings =>
        match task with
        | none => .ok ⟨.aligned, findings ++ ["no governed code touched"]⟩
        | some task => s.taskStep governing task judge findings

end Store

def GOAL_ADVISORY_LIMIT : Nat := 3

namespace Store

def lessonServes (s : Store) (lesson : Lesson) (task : Option Task) : Bool :=
  match task with
  | none => false
  | some task =>
    let wanted := goalSlug task.goalId
    match lesson.declaredGoal with
    | some goal => decide (goalSlug goal = wanted)
    | none => lesson.referencedTasks.any fun id =>
      (s.getTask id).any fun origin => decide (goalSlug origin.goalId = wanted)

def applyKnowledgeAdvisory (s : Store) (evidence : ConformanceEvidence) (task : Option Task) (active : List Lesson)
    (result : ConformanceResult) : ConformanceResult :=
  let byNode := active.filter fun lesson =>
    lesson.referencedNodes.any fun node => decide (node ∈ evidence.changedNodeIds)
  let byGoal := (active.filter fun lesson => lesson.referencedNodes.isEmpty && s.lessonServes lesson task).take
    GOAL_ADVISORY_LIMIT
  { result with
    findings := result.findings ++
      (byNode.map fun lesson =>
        let id := lesson.id
        let statement := lesson.statement
        s!"advisory: learned knowledge {id} — {statement}") ++
      byGoal.map fun lesson =>
        let id := lesson.id
        let statement := lesson.statement
        s!"advisory: learned under this goal {id} — {statement}" }

/-- Everything a check reads besides the store and the evidence. -/
structure CheckInputs where
  judge : JudgeAnswer
  lessons : List Lesson
  (lockNow driftNow : Int)

def evaluateConformance (s : Store) (evidence : ConformanceEvidence) (task : Option Task) (inputs : CheckInputs) :
    Result ConformanceResult := do
  let result ← s.evaluateBaseConformance evidence task inputs.judge inputs.lockNow inputs.driftNow
  return s.applyKnowledgeAdvisory evidence task inputs.lessons result

end Store

/-! Completing a task through a recorded check. A preflight evaluates and appends
its record; a completion validates that record outside the transaction, which
then rechecks the verdict and the claim before it moves the row. -/

def Verdict.targetStatus : Verdict → TaskStatus
  | .aligned => .done
  | .violation => .blocked
  | .drift | .needsHuman => .inReview

def completeWrite (agent : String) (target : TaskStatus) (now : Int) : TaskWrite where
  takes task := heldBy agent task && decide (task.status = .claimed) && live now task && task.blockedBy.isNone
  leaves task :=
    { task with status := target, owner := none, claimStartedAt := none, leaseExpiresAt := none, updatedAt := now }

namespace Store

def controlsForClause (s : Store) (clauseId : String) : List Control :=
  (s.controls.rows.filter fun control => decide (control.clauseId = clauseId)).insertionSort
    fun left right => left.id ≤ right.id

/-- What a check was issued against: the claim, the policy over the changed
nodes, and the exceptions in force. -/
def tokenBasis (s : Store) (evidence : ConformanceEvidence) (task : Option Task) (lessons : List Lesson) :
    Result (List TokenFact) := do
  let claim ← match task with
    | none => pure []
    | some task =>
      match s.goals.find? task.goalId with
      | none => throw (.notFound task.goalId)
      | some goal => pure [TokenFact.claim task.id task.goalId (task.owner.getD "") (task.claimStartedAt.getD 0)
          (s.claimWindow task.id).lapses, TokenFact.taskGoal goal.toGoal]
  let nodes := sortDedup evidence.changedNodeIds
  let bindings := nodes.flatMap fun node =>
    (s.activeBindingsForNode node).map fun binding => TokenFact.binding node binding.mode binding.goal
  let learned := lessons.filter fun lesson => lesson.referencedNodes.any fun node => decide (node ∈ nodes)
  let constitution := s.activeConstitutionVersion.map fun version => TokenFact.constitution version.id version.version
  let clauseIds := sortDedup (nodes.flatMap fun node => (s.activeBindingsForNode node).map fun binding => binding.goal.id)
  let policy := clauseIds.flatMap fun clauseId =>
    ((s.controlsForClause clauseId).map fun control =>
        TokenFact.control control.id control.clauseId control.version control.power) ++
      (s.waiversForClause clauseId).map fun waiver =>
        TokenFact.waiver waiver.id waiver.clauseId waiver.scope waiver.status waiver.expiresAt
  return claim ++ bindings ++ learned.map TokenFact.knowledge ++ constitution.toList ++ policy

def conformanceToken (env : Env) (s : Store) (id : Int) (evidence : ConformanceEvidence) (verdict : Verdict)
    (findings : List String) (task : Option Task) (lessons : List Lesson) : Result String := do
  let basis ← s.tokenBasis evidence task lessons
  return env.tokenDigest id evidence verdict findings basis

def recordConformance (s : Store) (record : Int → ConformanceRecord) : Int × Store :=
  let id : Int := s.conformanceSeq + 1
  (id, { s with
    conformance := s.conformance.insertOrIgnore { record id with id }
    conformanceSeq := s.conformanceSeq + 1 })

/-- A verdict the preflight reaches, from the state its reads saw. -/
def judgeEvidence (s : Store) (evidence : ConformanceEvidence) (requested : Option String) (inputs : CheckInputs)
    (now : Int) : Result (Option Task × ConformanceResult) := do
  match requested, evidence.taskId with
  | some left, some right => if left ≠ right then throw (.invalid "evidence task_id does not match requested task")
  | _, _ => pure ()
  match requested.or evidence.taskId with
  | some id =>
    match s.getTask id with
    | none => throw (.notFound id)
    | some task =>
      let agent ← resolveAgent evidence.agentId
      s.validateClaimEvidence task agent evidence now
      let result ← s.evaluateConformance evidence (some task) inputs
      return (some task, result)
  | none =>
    validateEvidenceShape evidence
    let result ← s.evaluateConformance evidence none inputs
    return (none, result)

/-- Evaluate on the state the reads saw, append the record to the current one. -/
def checkConformance (env : Env) (seen s : Store) (evidence : ConformanceEvidence) (requested : Option String)
    (inputs : CheckInputs) (now checkedAt : Int) : Result (ConformanceCheck × Store) := do
  let (task, result) ← seen.judgeEvidence evidence requested inputs now
  let (id, s) := s.recordConformance fun id =>
    { id
      taskId := requested.or evidence.taskId
      evidenceSchemaVersion := evidence.schemaVersion
      evidence
      verdict := result.verdict
      findings := "; ".intercalate result.findings
      findingsJson := some result.findings
      checkedAt }
  let token ← s.conformanceToken env id evidence result.verdict result.findings task inputs.lessons
  return (⟨id, token, result.verdict, result.findings⟩, s)

def authorises (record : ConformanceRecord) (task : Task) (evidence : ConformanceEvidence) (check : ConformanceCheck)
    (now : Int) : Bool :=
  decide (record.taskId = some task.id) && decide (record.evidenceSchemaVersion = evidence.schemaVersion) &&
    decide (record.evidence = evidence) && decide (record.verdict = check.verdict) &&
    decide (record.findings = "; ".intercalate check.findings) &&
    decide (task.claimStartedAt.getD now ≤ record.checkedAt) && decide (record.checkedAt ≤ now)

/-- Everything a completion verifies before its transaction opens. -/
def validateCompletion (env : Env) (s : Store) (id agent : String) (evidence : ConformanceEvidence)
    (check : ConformanceCheck) (lessons : List Lesson) (now : Int) : Result Unit := do
  let checkId := check.id
  match s.getTask id with
  | none => throw (.notFound id)
  | some task =>
    s.validateClaimEvidence task agent evidence now
    match s.conformance.find? check.id with
    | none => throw (.notFound s!"conformance check {checkId}")
    | some record =>
      if !authorises record task evidence check now then
        throw (.invalid s!"conformance check {checkId} does not match the live task claim and evidence")
      let expected ← s.conformanceToken env check.id evidence check.verdict check.findings (some task) lessons
      if check.token ≠ expected then
        throw (.invalid s!"conformance check {checkId} is stale; check the evidence again")

def transitionWithCheckedConformance (s : Store) (id agent : String) (conformanceId : Int) (verdict : Verdict)
    (target : TaskStatus) (now : Int) : Result (Bool × Store) := do
  let word := verdict.asStr
  if target ≠ verdict.targetStatus then
    let expected := verdict.targetStatus.asStr
    let given := target.asStr
    throw (.invalid s!"verdict {word} requires status {expected}, not {given}")
  let stored := (s.conformance.find? conformanceId).filter fun record => decide (record.taskId = some id)
  if stored.map ConformanceRecord.verdict ≠ some verdict then
    throw (.invalid s!"conformance check {conformanceId} does not authorise verdict {word}")
  match ← s.transition id now (completeWrite agent target now)
      ⟨.conformanceRecorded, some agent, .verdict verdict conformanceId⟩ with
  | none => return (false, s)
  | some s =>
    if target = .done then
      let s ← s.openBlockedSuccessorOn id now
      return (true, s)
    else return (true, s)

/-- The reads see an earlier committed state; recording what was learned comes
after and touches nothing modelled here. -/
def completeTask (env : Env) (seen s : Store) (id agent : String) (evidence : ConformanceEvidence)
    (check : ConformanceCheck) (lessons : List Lesson) (now : Int) : Result (ConformanceResult × Store) := do
  let agent ← resolveAgent agent
  seen.validateCompletion env id agent evidence check lessons now
  let (moved, s) ← s.transitionWithCheckedConformance id agent check.id check.verdict check.verdict.targetStatus now
  if !moved then throw (.invalid s!"task {id} claim changed before conformance could be recorded")
  return (⟨check.verdict, check.findings⟩, s)

end Store
end MindLeak.Lodestar
