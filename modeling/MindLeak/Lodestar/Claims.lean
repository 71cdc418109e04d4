import MindLeak.Lodestar.Store
import Mathlib.Data.List.Destutter

/-! Claiming work: the guarded compare-and-swap, its heartbeat, release and the
audited recovery of a stranded claim. Each is a guard on one row, the row it
leaves, and the side tables it writes in the same transaction. -/

namespace MindLeak.Lodestar

def SESSION_PREFIX : String := "session:v1:"

def sortDedup (values : List String) : List String :=
  (values.insertionSort fun left right => left ≤ right).destutter fun left right => left ≠ right

def normalizePaths (env : Env) (paths : List String) : Result (List String) := do
  let paths := sortDedup ((paths.map fun value =>
    (Text.trim value).map fun c => if c = '\\' then '/' else c).filter fun value => !value.isEmpty)
  for path in paths do
    match env.globError path with
    | some error => throw (.invalid s!"invalid task scope glob '{path}': {error}")
    | none => pure ()
  return paths

def normalizeDeclared (env : Env) : Option (List String) → Result (Option (List String))
  | some paths => (normalizePaths env paths).map some
  | none => .ok none

def normalizeSymbols (symbols : List String) : List String :=
  sortDedup ((symbols.map Text.trim).filter fun value => !value.isEmpty)

/-- A claim does not outlast its lease. -/
def lapsed (now : Int) (task : Task) : Bool := task.leaseExpiresAt.any fun lease => decide (lease < now)

def live (now : Int) (task : Task) : Bool := task.leaseExpiresAt.any fun lease => decide (now ≤ lease)

def heldBy (agent : String) (task : Task) : Bool := decide (task.owner = some agent)

/-- A registered session may not take over a legacy owner's row by claiming it. -/
def legacyGuard (agent : String) (task : Task) : Bool :=
  task.owner.any fun owner => !Text.likePrefix owner SESSION_PREFIX && Text.likePrefix agent SESSION_PREFIX

def claimWrite (agent : String) (branch : Option String) (leaseSecs now : Int) : TaskWrite where
  takes task :=
    task.blockedBy.isNone && !legacyGuard agent task &&
      (decide (task.status = .open) || (decide (task.status = .claimed) && lapsed now task) ||
        (decide (task.status = .claimed) && heldBy agent task) ||
        ((decide (task.status = .needsInput) || decide (task.status = .paused)) &&
          task.parkedAt.any fun parked => decide (parked < now - PARKING_GRACE_SECS)))
  leaves task :=
    -- The evidence window and its branch survive only a re-claim by the same owner.
    let same := decide (task.status = .claimed) && heldBy agent task
    { task with
      status := .claimed
      owner := some agent
      claimStartedAt := if same then task.claimStartedAt else some now
      branch := if same then task.branch else branch
      leaseExpiresAt := some (now + leaseSecs)
      parkedAt := none
      updatedAt := now }

def renewWrite (agent : String) (leaseSecs now : Int) : TaskWrite where
  takes task := heldBy agent task && decide (task.status = .claimed) && live now task && task.blockedBy.isNone
  leaves task := { task with leaseExpiresAt := some (now + leaseSecs), updatedAt := now }

def touchWrite (agent : String) (leaseSecs now : Int) : TaskWrite where
  takes task := heldBy agent task && decide (task.status = .claimed) && live now task && task.blockedBy.isNone
  leaves task :=
    { task with leaseExpiresAt := task.leaseExpiresAt.map fun lease => max lease (now + leaseSecs), updatedAt := now }

def releaseWrite (agent : String) (now : Int) : TaskWrite where
  takes task := heldBy agent task && decide (task.status = .claimed) && task.blockedBy.isNone
  leaves task :=
    { task with status := .open, owner := none, claimStartedAt := none, leaseExpiresAt := none, updatedAt := now }

def recoverWrite (expectedOwner target : String) (priorStatus : TaskStatus) (leaseSecs now : Int) : TaskWrite where
  takes task := heldBy expectedOwner task && decide (task.status = priorStatus)
  leaves task :=
    { task with
      status := .claimed
      owner := some target
      claimStartedAt := some now
      leaseExpiresAt := some (now + max leaseSecs 1)
      parkedAt := none
      updatedAt := now }

namespace Store

def heldClaims (s : Store) (agent : String) : List Task :=
  (s.tasks.rows.filter fun task => decide (task.status = .claimed) && heldBy agent task).insertionSort
    fun left right => left.updatedAt < right.updatedAt ∨ (left.updatedAt = right.updatedAt ∧ left.id ≤ right.id)

def refuseBeyondClaimLimit (s : Store) (id agent : String) : Result Unit :=
  if (s.getTask id).any fun task => decide (task.status = .claimed) && heldBy agent task then .ok ()
  else
    let held := s.heldClaims agent
    if held.length < MAX_CONCURRENT_CLAIMS then .ok ()
    else
      let listed := String.join (held.map fun task => s!"\n  {task.id}  {task.title}")
      let count := held.length
      .error (.invalid (s!"{agent} already holds {count} claims and the limit is {MAX_CONCURRENT_CLAIMS}; " ++
        s!"claiming {id} as well would be a statement about work nobody is doing. " ++
        "Complete one, release it, or leave it for another agent — a lapsed lease " ++
        s!"still counts, because letting a claim go stale is not finishing it.{listed}"))

def replaceScope (s : Store) (id : String) (kind : ScopeKind) (values : List String) : Result Store := do
  let kept := s.taskScopes.delete fun row => decide (row.taskId = id ∧ row.kind = kind)
  let scopes ← values.foldlM (fun (table : Table TaskScopeRow) value =>
    match table.insert? ⟨id, kind, value⟩ with
    | some table => Except.ok table
    | none => .error (.sqlite "UNIQUE constraint failed: task_scopes.task_id, task_scopes.kind, task_scopes.value"))
    kept
  return { s with taskScopes := scopes }

def declaredBranch (s : Store) (agent : String) : Option String :=
  (s.sessionContext.find? agent).bind fun row => row.context.branch

/-- An omitted scope field keeps its prior rows. -/
def replaceDeclared (s : Store) (id : String) (kind : ScopeKind) : Option (List String) → Result Store
  | some values => s.replaceScope id kind values
  | none => .ok s

def claimTask (env : Env) (s : Store) (id agent : String) (leaseSecs : Int) (paths symbols : Option (List String))
    (now : Int) : Result (Bool × Store) := do
  let paths ← normalizeDeclared env paths
  let symbols := symbols.map normalizeSymbols
  s.refuseBeyondClaimLimit id agent
  match ← s.transition id now (claimWrite agent (s.declaredBranch agent) leaseSecs now)
      ⟨.claimed, some agent, .leaseSecs leaseSecs⟩ with
  | none => return (false, s)
  | some s => do
    let s ← s.replaceDeclared id .path paths
    let s ← s.replaceDeclared id .symbol symbols
    return (true, s)

/-- A transition whose answer is whether it changed a row. -/
def attempt (s : Store) (id : String) (now : Int) (write : TaskWrite) (note : EventNote) : Result (Bool × Store) := do
  match ← s.transition id now write note with
  | none => return (false, s)
  | some s => return (true, s)

def renewLease (s : Store) (id agent : String) (leaseSecs now : Int) : Result (Bool × Store) :=
  s.attempt id now (renewWrite agent leaseSecs now) ⟨.leaseRenewed, some agent, .renewal leaseSecs false⟩

def touchLease (s : Store) (id agent : String) (leaseSecs now : Int) : Result (Bool × Store) :=
  s.attempt id now (touchWrite agent leaseSecs now) ⟨.leaseRenewed, some agent, .renewal leaseSecs true⟩

def releaseTask (s : Store) (id agent : String) (now : Int) : Result (Bool × Store) :=
  s.attempt id now (releaseWrite agent now) ⟨.released, some agent, .empty⟩

end Store

/-- The recovering session is well formed and names the label the row was owned by. -/
def compatibleLegacyOwner (expectedOwner target name : String) : Bool :=
  match Text.stripPrefix? SESSION_PREFIX target with
  | none => false
  | some fingerprint =>
    fingerprint.utf8ByteSize == 32 && fingerprint.toList.all Text.isAsciiHexDigit &&
      (decide (expectedOwner = name) ||
        match Text.stripPrefix? (name ++ "-") expectedOwner with
        | none => false
        | some nonce => nonce.utf8ByteSize == 8 && nonce.toList.all Text.isAsciiHexDigit)

structure RecoveringSession where
  (agent name : String)

def authorizeRecovery (prior : Task) (expectedOwner : String) (recovering : RecoveringSession)
    (reviewer : Option String) (parkedBeforeGrace : Bool) (now : Int) : Result Unit := do
  if parkedBeforeGrace then
    match reviewer with
    | none => throw (.invalid ("paused ownership remains protected until the parking grace expires; " ++
        "an early transfer requires a distinct human reviewer"))
    | some reviewer =>
      if reviewer = expectedOwner ∨ reviewer = recovering.agent then
        throw (.invalid "the old or new owner may not review their own paused-task transfer")
      if expectedOwner = recovering.agent then
        throw (.invalid "the existing owner should resume_task; recovery is only for a transfer")
  else if !compatibleLegacyOwner expectedOwner recovering.agent recovering.name then
    throw (.invalid ("claim recovery requires a compatible legacy owner and registered session " ++
      "identity; recover exists only for a pre-ADR-0054 owner string or an early " ++
      "paused-task transfer, not an ordinary lapsed claimed lease -- call task_claim " ++
      "with step=claim instead, which already succeeds once the lease has expired"))
  let reclaimable := parkedBeforeGrace || match prior.status with
    | .claimed => lapsed now prior
    | .needsInput | .paused => prior.parkedAt.any fun parked => decide (parked + PARKING_GRACE_SECS < now)
    | _ => false
  if !reclaimable then
    throw (.invalid "claim recovery is allowed only after the live lease or parking grace expires")

def Store.recoverClaimAuthorized (s : Store) (id expectedOwner : String) (recovering : RecoveringSession)
    (reason : String) (reviewer : Option String) (leaseSecs now : Int) : Result (Bool × Store) := do
  if (Text.trim reason).isEmpty then throw (.invalid "claim recovery requires a reason")
  match (s.getTask id).bind fun prior => prior.owner.map fun owner => (prior, owner) with
  | none => throw (.notFound id)
  | some (prior, owner) =>
    if owner ≠ expectedOwner then
      throw (.invalid s!"task owner changed concurrently: expected {expectedOwner}, found {owner}")
    let parkedBeforeGrace := decide (prior.status = .paused) &&
      prior.parkedAt.any fun parked => decide (now ≤ parked + PARKING_GRACE_SECS)
    let reviewer := (reviewer.map Text.trim).filter fun value => !value.isEmpty
    authorizeRecovery prior expectedOwner recovering reviewer parkedBeforeGrace now
    let targetClaims := s.tasks.rows.countP fun task => decide (task.status = .claimed) && heldBy recovering.agent task
    if MAX_CONCURRENT_CLAIMS ≤ targetClaims then
      let target := recovering.agent
      throw (.invalid (s!"{target} already holds {targetClaims} claims and the limit is " ++
        s!"{MAX_CONCURRENT_CLAIMS}; recovery cannot bypass the claim cap"))
    match ← s.transition id now (recoverWrite expectedOwner recovering.agent prior.status leaseSecs now)
        ⟨.claimRecovered, some (reviewer.getD recovering.agent),
          .recovered owner prior.status (Text.trim reason) reviewer⟩ with
    | none => return (false, s)
    | some s =>
      match reviewer with
      | none => return (true, s)
      | some reviewer =>
        let target := recovering.agent
        let why := Text.trim reason
        return (true, s.appendQa ⟨id, .note,
          s!"{reviewer} authorized transfer of paused work from {expectedOwner} to {target}: {why}",
          reviewer, none, now⟩)

end MindLeak.Lodestar
