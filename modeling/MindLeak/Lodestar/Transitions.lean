import MindLeak.Lodestar.Claims

/-! Parking and unparking a claim: questions, answers and deliberate pauses. A
parked row keeps its owner and evidence window and gives up its lease. -/

namespace MindLeak.Lodestar

def askWrite (agent : String) (now : Int) : TaskWrite where
  takes task := heldBy agent task && decide (task.status = .claimed)
  leaves task :=
    { task with status := .needsInput, leaseExpiresAt := none, parkedAt := some now, updatedAt := now }

def answerWrite (leaseSecs now : Int) : TaskWrite where
  takes task := decide (task.status = .needsInput)
  leaves task :=
    { task with status := .claimed, leaseExpiresAt := some (now + leaseSecs), parkedAt := none, updatedAt := now }

def pauseWrite (agent : String) (now : Int) : TaskWrite where
  takes task := heldBy agent task && decide (task.status = .claimed)
  leaves task :=
    { task with status := .paused, leaseExpiresAt := none, parkedAt := some now, updatedAt := now }

def resumeWrite (agent : String) (leaseSecs now : Int) : TaskWrite where
  takes task := heldBy agent task && decide (task.status = .paused)
  leaves task :=
    { task with status := .claimed, leaseExpiresAt := some (now + leaseSecs), parkedAt := none, updatedAt := now }

/-- A blank addressee is a human. -/
def normalizeAudience (audience : Option String) : Option String :=
  (audience.map Text.trim).filter fun addressee => !addressee.isEmpty

namespace Store

def askQuestion (s : Store) (id agent question : String) (audience : Option String) (now : Int) :
    Result (Bool × Store) := do
  let audience := normalizeAudience audience
  if audience = some agent then
    throw (.invalid s!"task {id}: an agent cannot address a question to itself")
  match ← s.transition id now (askWrite agent now)
      ⟨.questioned, some agent, (audience.map EventDetail.audience).getD .empty⟩ with
  | none =>
    match s.getTask id with
    | none => throw (.notFound id)
    | some task =>
      let status := task.status.asStr
      let holder := task.owner.getD "nobody"
      throw (.invalid (s!"task {id} was not parked: {agent} asked, but it is {status} and held by {holder}. " ++
        "Only the agent holding a claimed task can park it with a question."))
  | some s => return (true, s.appendQa ⟨id, .question, question, agent, audience, now⟩)

def answerQuestion (s : Store) (id answer author : String) (leaseSecs now : Int) : Result (Bool × Store) := do
  match ← s.transition id now (answerWrite leaseSecs now) ⟨.answered, some author, .leaseSecs leaseSecs⟩ with
  | none => return (false, s)
  | some s => return (true, s.appendQa ⟨id, .answer, answer, author, none, now⟩)

def pauseTask (s : Store) (id agent : String) (reason : Option String) (now : Int) : Result (Bool × Store) := do
  match ← s.transition id now (pauseWrite agent now) ⟨.paused, some agent, detailOf reason⟩ with
  | none => return (false, s)
  | some s => return (true, s.appendNote id reason agent now)

def resumeTask (s : Store) (id agent : String) (leaseSecs now : Int) : Result (Bool × Store) :=
  s.attempt id now (resumeWrite agent leaseSecs now) ⟨.resumed, some agent, .leaseSecs leaseSecs⟩

end Store

/-! The lifecycle around a claim: blocking on a predecessor, reopening,
abandoning and human acceptance, with the handoff gate that opens a successor
when its predecessor ends. -/

def TaskStatus.isFinished : TaskStatus → Bool
  | .done | .abandoned => true
  | _ => false

def blockWrite (dependency : Option String) (now : Int) : TaskWrite where
  takes _ := true
  leaves task :=
    { task with
      status := .blocked, owner := none, claimStartedAt := none, leaseExpiresAt := none
      blockedBy := dependency, updatedAt := now }

def reopenWrite (now : Int) : TaskWrite where
  takes _ := true
  leaves task :=
    { task with
      status := .open, owner := none, claimStartedAt := none, leaseExpiresAt := none
      blockedBy := none, updatedAt := now }

def abandonWrite (now : Int) : TaskWrite where
  takes _ := true
  leaves task :=
    { task with
      status := .abandoned, owner := none, claimStartedAt := none, leaseExpiresAt := none
      parkedAt := none, blockedBy := none, updatedAt := now }

def resolveWrite (resolver : String) (overruled : Option Int) (now : Int) : TaskWrite where
  takes task := decide (task.status = .inReview)
  leaves task :=
    { task with
      status := .done, owner := none, claimStartedAt := none, leaseExpiresAt := none
      blockedBy := none, updatedAt := now
      resolvedBy := some resolver, resolvedAt := some now, resolvedConformanceId := overruled }

def unblockWrite (predecessor : String) (now : Int) : TaskWrite where
  takes task := decide (task.blockedBy = some predecessor) && decide (task.status = .blocked)
  leaves task :=
    { task with
      status := .open, owner := none, claimStartedAt := none, leaseExpiresAt := none
      parkedAt := none, blockedBy := none, updatedAt := now }

namespace Store

def conformanceHistory (s : Store) (taskId : String) : List ConformanceRecord :=
  (s.conformance.rows.filter fun record => decide (record.taskId = some taskId)).insertionSort
    fun left right => left.id ≤ right.id

/-- Lift the gate of a successor still waiting on this very predecessor. -/
def openBlockedSuccessorOn (s : Store) (predecessor : String) (now : Int) : Result Store := do
  match s.handoffs.next? predecessor with
  | none => return s
  | some successor =>
    match ← s.transition successor now (unblockWrite predecessor now)
        ⟨.reopened, none, .unblockedBy predecessor⟩ with
    | none => return s
    | some s => return s

/-- A handoff already on record may only be the very one asked for. -/
def requireLinear (recorded : Option String) (asked : String) (message : String → String) : Result Unit :=
  match recorded with
  | some existing => if existing ≠ asked then .error (.invalid (message existing)) else .ok ()
  | none => .ok ()

def predecessorComplete (s : Store) (blocker : Task) : Result Bool :=
  let blockerId := blocker.id
  match blocker.status with
  | .done =>
    if s.conformance.rows.any fun record =>
        decide (record.taskId = some blockerId) && decide (record.verdict = .aligned) then .ok true
    else .error (.invalid s!"task {blockerId} is done without aligned completion evidence")
  | .abandoned => .error (.invalid s!"task {blockerId} is abandoned and cannot be a predecessor")
  | _ => .ok false

def validateDependencyOn (s : Store) (taskId goalId blockerId : String) : Result Bool := do
  if taskId = blockerId then throw (.invalid "a task cannot depend on itself")
  match s.getTask blockerId with
  | none => throw (.notFound blockerId)
  | some blocker =>
    if blocker.goalId ≠ goalId then throw (.invalid s!"task {blockerId} serves a different goal")
    requireLinear (s.handoffs.next? blockerId) taskId
      fun existing => s!"task {blockerId} already hands off to {existing}; handoffs must be linear"
    requireLinear ((s.handoffs.to? taskId).map Handoff.predecessorId) blockerId
      fun existing => s!"task {taskId} already follows {existing}; handoffs must be linear"
    if blockerId ∈ s.handoffs.chain taskId then throw (.invalid "task dependency would create a cycle")
    s.predecessorComplete blocker

def blockTask (s : Store) (id : String) (blockedBy reason : Option String) (actor : String) (now : Int) :
    Result (Bool × Store) := do
  match s.getTask id with
  | none => throw (.notFound id)
  | some task =>
    if task.status.isFinished then throw (.invalid s!"task {id} is terminal and cannot be blocked")
    let existing := (s.handoffs.to? id).map Handoff.predecessorId
    match blockedBy with
    | some blockerId => do
      if existing.any fun predecessor => decide (predecessor ≠ blockerId) then
        throw (.invalid s!"task {id} already belongs to a different handoff chain")
      if ← s.validateDependencyOn id task.goalId blockerId then
        throw (.invalid s!"predecessor {blockerId} is already complete")
    | none => pure ()
    match ← s.transition id now (blockWrite blockedBy now) ⟨.blocked, some actor, detailOf reason⟩ with
    | none => return (false, s)
    | some s =>
      let s := match blockedBy with
        | some predecessor => { s with handoffs := s.handoffs.insertOrIgnore ⟨predecessor, id, now⟩ }
        | none => s
      return (true, s.appendNote id reason actor now)

def reopenTask (s : Store) (id : String) (now : Int) : Result (Bool × Store) := do
  match s.getTask id with
  | none => throw (.notFound id)
  | some task =>
    match task.status, task.blockedBy with
    | .inReview, _ => pure ()
    | .blocked, none => pure ()
    | .blocked, some gate =>
      throw (.invalid s!"task {id} is gated by predecessor {gate}; it opens when that predecessor completes")
    | other, _ =>
      let status := other.asStr
      throw (.invalid s!"task {id} is {status} and cannot be reopened")
    s.attempt id now (reopenWrite now) ⟨.reopened, none, .empty⟩

def recordedBranches (events : List TaskEvent) : List String :=
  events.foldl (fun branches event =>
    match (event.after.branch.map Text.trim).filter fun branch => !branch.isEmpty with
    | none => branches
    | some branch => if branch ∈ branches then branches else branches ++ [branch]) []

def eventsOf (s : Store) (taskId : String) : List TaskEvent :=
  s.taskEvents.filter fun event => decide (event.taskId = taskId)

def refuseAbandon (task : Task) (now : Int) : Result Unit :=
  let id := task.id
  let status := task.status.asStr
  match task.status with
  | .claimed =>
    if task.leaseExpiresAt.all fun lease => decide (now ≤ lease) then
      .error (.invalid s!"task {id} is claimed; release it before abandoning")
    else .ok ()
  | .needsInput | .paused =>
    .error (.invalid s!"task {id} is {status} (owned); resume or release it before abandoning")
  | .done | .abandoned => .error (.invalid s!"task {id} is {status} and cannot be abandoned")
  | .open | .inReview | .blocked => .ok ()

def abandonTask (s : Store) (historyBranches : List String) (id : String) (acknowledgeBranch : Bool) (now : Int) :
    Result (Bool × Store) := do
  match s.getTask id with
  | none => throw (.notFound id)
  | some task =>
    refuseAbandon task now
    if !acknowledgeBranch && !historyBranches.isEmpty then
      let joined := ", ".intercalate historyBranches
      let (noun, pronoun) := if historyBranches.length = 1 then ("branch", "it") else ("branches", "any of them")
      throw (.invalid (s!"task {id} recorded {noun} {joined}; abandoning is permanent and does not " ++
        s!"check whether {pronoun} carries an open or merged pull request. Verify no " ++
        s!"live work points at {pronoun}, then re-issue with acknowledge_branch=true."))
    let (abandoned, s) ← s.attempt id now (abandonWrite now) ⟨.abandoned, none, .empty⟩
    let s ← s.openBlockedSuccessorOn id now
    return (abandoned, s)

def resolveInReview (s : Store) (id resolver : String) (now : Int) : Result (Bool × Store) := do
  match s.getTask id with
  | none => throw (.notFound id)
  | some task =>
    if task.status ≠ .inReview then
      let status := task.status.asStr
      throw (.invalid (s!"task {id} is {status} and cannot be resolved; only an in_review task " ++
        "can be human-accepted to done"))
    let overruled := (s.conformanceHistory id).getLast?
    match ← s.transition id now (resolveWrite resolver (overruled.map ConformanceRecord.id) now)
        ⟨.resolved, some resolver,
          (overruled.map fun record => .overruled record.id record.verdict).getD .empty⟩ with
    | none =>
      let s ← s.openBlockedSuccessorOn id now
      return (false, s)
    | some s =>
      let note := match overruled with
        | some record =>
          let verdict := record.verdict.asStr
          let number := record.id
          s!"accepted out of in_review to done, overruling conformance record {number} ({verdict})"
        | none => "accepted out of in_review to done; the task carried no conformance record"
      let s := s.appendNote id (some note) resolver now
      let s ← s.openBlockedSuccessorOn id now
      return (true, s)

end Store

/-! Creating a task, free-standing or behind a predecessor, and what its claim
holder may declare or move while the claim is live. -/

/-- The identity a goal keeps across constitutional versions. -/
def goalSlug (goalId : String) : String :=
  let bare := (Text.stripPrefix? "goal:" goalId).getD goalId
  match Text.splitOnce '@' bare with
  | some (slug, _) => slug
  | none => bare

namespace Store

def goalExists (s : Store) (id : String) : Bool := (s.goals.find? id).isSome

/-- Occupied ids receive the next discriminator; the counter is a `u32`. -/
def freeTaskId (env : Env) (s : Store) (basis : String) : Nat → Nat → String → Result String
  | 0, _, _ => .error .neverReturns
  | tries + 1, discriminator, id =>
    if (s.getTask id).isSome then
      s.freeTaskId env basis tries (discriminator + 1) ("task:" ++ env.shortHash s!"{basis}|{discriminator}")
    else .ok id

/-- A declaration is a union: it adds goals and never drops one. -/
def insertCoverageOn (s : Store) (taskId goalId : String) (alsoServes : List String) (now : Int) : Result Store :=
  alsoServes.foldlM (fun (s : Store) covered => do
    if covered = goalId then
      throw (.invalid (s!"{covered} is already this task's goal; declare only the " ++
        "additional goals it serves"))
    if !s.goalExists covered then throw (.notFound covered)
    return { s with goalCoverage := s.goalCoverage.insertOrIgnore ⟨taskId, covered, now⟩ }) s

def goalCoverageOf (s : Store) (taskId : String) : List String :=
  ((s.goalCoverage.rows.filter fun row => decide (row.taskId = taskId)).map GoalCoverage.goalId).insertionSort
    fun left right => left ≤ right

def newTask (id goalId title acceptance : String) (parent blockedBy : Option String) (now : Int) : Task where
  id := id
  goalId := goalId
  parentTaskId := parent
  title := title
  acceptance := acceptance
  status := if blockedBy.isSome then .blocked else .open
  owner := none
  claimStartedAt := none
  leaseExpiresAt := none
  blockedBy := blockedBy
  branch := none
  parkedAt := none
  resolvedBy := none
  resolvedAt := none
  resolvedConformanceId := none
  createdAt := now
  updatedAt := now

/-- A predecessor still at work gates the new task; a finished one only links it. -/
def gateOn (s : Store) (id goalId : String) : Option String → Result (Option String)
  | none => .ok none
  | some predecessor => do
    let complete ← s.validateDependencyOn id goalId predecessor
    return if complete then none else some predecessor

def insertTask (s : Store) (task : Task) : Result Store :=
  match s.tasks.insert? task with
  | none => .error (.sqlite "UNIQUE constraint failed: tasks.id")
  | some tasks => .ok { s with tasks }

def linkHandoff (s : Store) (successor : String) (now : Int) : Option String → Result Store
  | none => .ok s
  | some predecessor =>
    match s.handoffs.insert? ⟨predecessor, successor, now⟩ with
    | none => .error (.sqlite "UNIQUE constraint failed: task_handoffs")
    | some handoffs => .ok { s with handoffs }

def createTaskAfterOn (env : Env) (s : Store) (goalId title acceptance : String) (parent predecessor : Option String)
    (alsoServes : List String) (now : Int) : Result (Task × Store) := do
  if !s.goalExists goalId then throw (.notFound goalId)
  let basis := s!"{goalId}|{title}|{now}"
  let id ← s.freeTaskId env basis 4294967296 1 ("task:" ++ env.shortHash basis)
  let gate ← s.gateOn id goalId predecessor
  let task := newTask id goalId title acceptance parent gate now
  let s ← s.insertTask task
  let s ← s.linkHandoff id now predecessor
  let s ← s.insertCoverageOn id goalId alsoServes now
  return (task, s.appendEvent now task ⟨.created, none, .empty⟩)

def declareCoverage (s : Store) (id agent : String) (alsoServes : List String) (now : Int) :
    Result (List String × Store) := do
  match s.getTask id with
  | none => throw (.notFound id)
  | some task =>
    if task.status ≠ .claimed ∨ task.owner ≠ some agent then
      throw (.invalid (s!"{id} is not claimed by {agent}; what a claim serves is declared " ++
        "by the agent holding it"))
    if s.conformance.rows.any fun record => decide (record.taskId = some id) then
      throw (.invalid (s!"conformance has already judged {id}; coverage declared after a " ++
        "finding is raised is a rationalisation, not a plan. Complete " ++
        "this task with the verdict it earned and carry what you learned " ++
        "into the next one"))
    let s ← s.insertCoverageOn id task.goalId alsoServes now
    let s ← s.record id now ⟨.coverageDeclared, some agent, .coverage alsoServes⟩
    return (s.goalCoverageOf id, s)

end Store

def reconnectWrite (goalId : String) (now : Int) : TaskWrite where
  takes _ := true
  leaves task := { task with goalId := goalId, updatedAt := now }

def Store.reconnectClaimClause (s : Store) (id agent : String) (now : Int) : Result (String × Store) := do
  match s.getTask id with
  | none => throw (.notFound id)
  | some task =>
    if !(decide (task.status = .claimed) && heldBy agent task &&
        task.leaseExpiresAt.any fun expires => decide (now < expires)) then
      throw (.invalid (s!"{id} is not currently claimed by {agent} with an unexpired lease; " ++
        "only the agent holding a live claim may ask to reconnect it"))
    let clause := task.goalId
    match (s.goals.find? clause).filter fun goal => decide (goal.status = .superseded) with
    | none => throw (.invalid s!"{id}'s current clause {clause} is not superseded; there is nothing to reconnect")
    | some outgoing =>
      let slug := outgoing.slug
      match s.goals.rows.filter fun goal => decide (goal.status = .active) && decide (goal.slug = slug) with
      | [] => throw (.invalid (s!"{clause}'s clause has no active successor under slug {slug}; " ++
          "nothing to reconnect onto"))
      | [only] => do
        let successor := only.id
        match ← s.transition id now (reconnectWrite successor now)
            ⟨.clauseReconnected, some agent, .reconnected clause successor⟩ with
        | none => throw (.notFound id)
        | some s => return (successor, s)
      | several =>
        let count := several.length
        throw (.invalid (s!"slug {slug} names {count} active clauses; reconnection refuses to " ++
          s!"guess which one succeeds {clause}"))

end MindLeak.Lodestar
