import MindLeak.Lodestar.Constitution

/-! Policy packs: immutable registration, one proposal a clause, and the
attributed review that materializes an adopted clause at its version's status. -/

namespace MindLeak.Lodestar

def ENGINE_VERSION : String := "0.1.7-alpha"

def validKey (value : String) : Bool :=
  !value.isEmpty && value.toList.all fun c =>
    c.isLower || c.isDigit || decide (c = '.') || decide (c = '_') || decide (c = '-')

def validatePackClauses : List String → List PackClause → Result Unit
  | _, [] => .ok ()
  | keys, clause :: rest =>
    let key := clause.key
    if !validKey key || Text.isBlank clause.title || Text.isBlank clause.statement || Text.isBlank clause.rationale then
      .error (.invalid
        s!"policy pack clause {key} has an invalid key or missing title, statement, or rationale")
    else if key ∈ keys then .error (.invalid s!"policy pack contains duplicate clause key {key}")
    else validatePackClauses (key :: keys) rest

def ConstitutionPack.validate (env : Env) (pack : ConstitutionPack) : Result Unit := do
  if !validKey pack.id then
    throw (.invalid "policy pack id must contain only lowercase ASCII letters, digits, '.', '_', or '-'")
  if Text.isBlank pack.version || Text.isBlank pack.title then
    throw (.invalid "policy pack version and title are required")
  if pack.compatibleEngineVersions.isEmpty || pack.compatibleEngineVersions.any Text.isBlank then
    throw (.invalid "policy pack must declare at least one compatible engine version")
  if pack.clauses.isEmpty then throw (.invalid "policy pack must contain at least one clause")
  validatePackClauses [] pack.clauses
  if pack.conflicts.any fun conflict => !validKey conflict.packId || Text.isBlank conflict.reason then
    throw (.invalid "policy pack conflicts require a valid pack id and reason")
  let expected := env.packDigest pack
  if pack.digest ≠ expected then throw (.invalid s!"policy pack digest mismatch: expected {expected}")

namespace Store

def insertConflict (pack : ConstitutionPack) (table : Table PackConflictRow) (conflict : PackConflict) :
    Result (Table PackConflictRow) :=
  match table.insert? ⟨pack.id, pack.version, conflict.packId, conflict.reason⟩ with
  | none => .error (.sqlite "UNIQUE constraint failed: policy_pack_conflicts")
  | some table => .ok table

def registerPolicyPack (env : Env) (s : Store) (pack : ConstitutionPack) (now : Int) : Result Store := do
  pack.validate env
  let label := pack.id ++ "@" ++ pack.version
  if !pack.compatibleEngineVersions.any fun version => decide (version = "*" ∨ version = ENGINE_VERSION) then
    throw (.invalid s!"policy pack {label} is not compatible with Lodestar {ENGINE_VERSION}")
  match s.policyPacks.find? (pack.id, pack.version) with
  | some existing =>
    if existing.pack.digest ≠ pack.digest then
      throw (.invalid s!"policy pack {label} is immutable and already registered with a different digest")
    return s
  | none =>
    match s.policyPacks.insert? ⟨pack, now⟩ with
    | none => throw (.sqlite "UNIQUE constraint failed: policy_packs")
    | some policyPacks => do
      let packConflicts ← pack.conflicts.foldlM (insertConflict pack) s.packConflicts
      return { s with policyPacks, packConflicts }

def packProposal (env : Env) (pack : ConstitutionPack) (context : String) (now : Int) (clause : PackClause) :
    PackClauseProposal where
  id := "pack-proposal:" ++ env.shortHash (pack.id ++ ":" ++ pack.version ++ ":" ++ context ++ ":" ++ clause.key)
  packId := pack.id
  packVersion := pack.version
  packDigest := pack.digest
  constitutionVersion := context
  clause := clause
  createdAt := now

/-- Ignored when the id or the clause's own identity already has a proposal. -/
def insertProposal (table : Table PackClauseProposal) (proposal : PackClauseProposal) : Table PackClauseProposal :=
  if table.rows.any fun row => decide (row.packId = proposal.packId ∧ row.packVersion = proposal.packVersion ∧
      row.constitutionVersion = proposal.constitutionVersion ∧ row.clause.key = proposal.clause.key) then table
  else table.insertOrIgnore proposal

def proposePolicyPack (env : Env) (seen s : Store) (packId version : String) (constitutionVersion : Option String)
    (now : Int) : Result Store := do
  let context := (constitutionVersion.or (seen.activeConstitutionVersion.map ConstitutionVersion.id)).getD ""
  match seen.policyPacks.find? (packId, version) with
  | none => throw (.notFound s!"{packId}@{version}")
  | some row =>
    if !context.isEmpty && (seen.constitutionVersions.find? context).isNone then throw (.notFound context)
    if (s.policyPacks.find? (packId, version)).isNone && !row.pack.clauses.isEmpty then
      throw (.sqlite "FOREIGN KEY constraint failed")
    return { s with
      packProposals := row.pack.clauses.foldl
        (fun table clause => insertProposal table (packProposal env row.pack context now clause)) s.packProposals }

/-- Opposed packs still undecided or accepted under the same version. -/
def unresolvedConflictsOn (s : Store) (packId version context : String) : List PackConflict :=
  let declared := (s.packConflicts.rows.filter fun row => decide (row.packId = packId ∧ row.packVersion = version)).map
    fun row => (⟨row.conflictingPackId, row.reason⟩ : PackConflict)
  let against := (s.packConflicts.rows.filter fun row => decide (row.conflictingPackId = packId)).map
    fun row => (⟨row.packId, row.reason⟩ : PackConflict)
  (((declared ++ against).dedup.filter fun conflict =>
    s.packProposals.rows.any fun proposal =>
      decide (proposal.packId = conflict.packId ∧ proposal.constitutionVersion = context) &&
        decide (proposal.disposition ≠ some .rejected))).insertionSort fun left right => left.packId ≤ right.packId

def constitutionStatusOn (s : Store) (constitutionVersion : String) : Result GoalStatus :=
  if constitutionVersion.isEmpty then .ok .draft
  else match s.constitutionVersions.find? constitutionVersion with
    | none => .error (.sqlite "Query returned no rows")
    | some version => .ok version.status

def selectedClause (proposal : PackClauseProposal) (disposition : PackClauseDisposition) :
    Option PackClause → Result PackClause
  | tailored =>
    match disposition, tailored with
    | .tailored, none => .error (.invalid "tailored disposition requires a tailored clause")
    | .tailored, some clause =>
      if clause.key ≠ proposal.clause.key || Text.isBlank clause.title || Text.isBlank clause.statement ||
          Text.isBlank clause.rationale then
        .error (.invalid ("a tailored clause must preserve the source key and provide title, statement, " ++
          "and rationale"))
      else .ok clause
    | .adopted, some _ => .error (.invalid "use the tailored disposition when changing a pack clause")
    | .adopted, none => .ok proposal.clause
    | .rejected, _ => .ok proposal.clause

def materializedClause (env : Env) (proposal : PackClauseProposal) (selected : PackClause) (status : GoalStatus)
    (reason : Option String) (now : Int) : Goal :=
  let identity := proposal.packId ++ ":" ++ proposal.packVersion ++ ":" ++ proposal.constitutionVersion ++ ":" ++
    proposal.clause.key
  { newGoal ("goal:pack-" ++ env.shortHash identity) (slugify env selected.title) selected.kind selected.title
      selected.statement status now with
    reason := reason
    constitutionVersion := if proposal.constitutionVersion.isEmpty then none else some proposal.constitutionVersion
    rationale := some selected.rationale
    scope := selected.defaultScope
    evidenceContract := selected.evidenceContract
    consequence := selected.defaultConsequence
    origin := .pack }

def adoptClause (env : Env) (s : Store) (proposal : PackClauseProposal) (selected : PackClause)
    (reason : Option String) (now : Int) : Result (Option String × Store) := do
  let conflicts := s.unresolvedConflictsOn proposal.packId proposal.packVersion proposal.constitutionVersion
  if !conflicts.isEmpty then
    let opposed := ", ".intercalate (conflicts.map PackConflict.packId)
    throw (.invalid s!"policy pack conflict requires human resolution before adoption: {opposed}")
  match s.packProvenance.rows.find? fun row =>
      decide (row.packId = proposal.packId ∧ row.clauseKey = proposal.clause.key ∧
        row.packVersion ≠ proposal.packVersion) &&
      (s.goals.find? row.goalId).any fun goal => decide (goal.status = .active) with
  | some prior =>
    let label := proposal.packId ++ "@" ++ proposal.packVersion
    let key := proposal.clause.key
    let earlier := prior.packVersion
    throw (.invalid (s!"policy pack upgrade {label} cannot replace adopted clause {key} from version {earlier}; " ++
      "create an amendment proposal"))
  | none => pure ()
  let status ← s.constitutionStatusOn proposal.constitutionVersion
  let goal := materializedClause env proposal selected status reason now
  let s ← s.insertGoalOn goal
  match s.packProvenance.insert? ⟨goal.id, proposal.packId, proposal.packVersion, proposal.packDigest,
      proposal.clause.key, proposal.clause⟩ with
  | none => throw (.sqlite "UNIQUE constraint failed: pack_clause_provenance.goal_id")
  | some packProvenance => return (some goal.id, { s with packProvenance })

def reviewPackClause (env : Env) (s : Store) (proposalId : String) (disposition : PackClauseDisposition)
    (tailored : Option PackClause) (actor : String) (reason : Option String) (now : Int) : Result Store := do
  if Text.isBlank actor then throw (.invalid "pack clause review requires an attributed actor")
  if disposition = .rejected && reason.all Text.isBlank then
    throw (.invalid "rejecting a pack clause requires a reason")
  match s.packProposals.find? proposalId with
  | none => throw (.notFound proposalId)
  | some proposal =>
    match proposal.disposition with
    | some existing =>
      if existing ≠ disposition then
        let decided := existing.asStr
        throw (.invalid s!"pack clause proposal {proposalId} is already {decided}")
      return s
    | none => do
      let selected ← selectedClause proposal disposition tailored
      let (adoptedGoalId, s) ← if disposition = .rejected then pure (none, s)
        else s.adoptClause env proposal selected reason now
      return { s with
        packProposals := s.packProposals.update (fun row => decide (row.id = proposalId) && row.disposition.isNone)
          fun row =>
            { row with
              disposition := some disposition, reviewedBy := some actor, reviewReason := reason
              reviewedAt := some now, adoptedGoalId := adoptedGoalId } }

end Store

/-! The writers left: declared session context, the tasks a reviewed plan
creates, the confirmed reset, and the projection of claims decided elsewhere. -/

namespace Store

/-- A later declaration replaces the whole of an earlier one. -/
def declareSessionContext (s : Store) (agentId : String) (context : SessionContext) (now : Int) : Store :=
  { s with
    sessionContext := (s.sessionContext.insertOrIgnore ⟨agentId, context, now⟩).update
      (fun row => decide (row.agentId = agentId)) fun row => { row with context := context, declaredAt := now } }

structure TaskDraft where
  (goalId title acceptance : String)
  deriving DecidableEq

def liveTaskTitledOn (s : Store) (goalId title : String) : Option Task :=
  ((s.tasks.rows.filter fun task => decide (task.title = title) && !task.status.isFinished).insertionSort
    fun left right => left.createdAt ≤ right.createdAt).find? fun task => decide (goalSlug task.goalId = goalSlug goalId)

def materializeDraft (env : Env) (now : Int) (s : Store) (draft : TaskDraft) : Result Store :=
  match s.liveTaskTitledOn draft.goalId draft.title with
  | some _ => .ok s
  | none => do
    let (_, s) ← s.createTaskAfterOn env draft.goalId draft.title draft.acceptance none none [] now
    return s

/-- The tasks a materialization creates, in its one transaction. -/
def materializeTasks (env : Env) (s : Store) (drafts : List TaskDraft) (now : Int) : Result Store :=
  drafts.foldlM (materializeDraft env now) s

/-- What `DELETE` leaves, with every cascade: tasks and goals take their
dependent rows along, the log and the constitution's own records stay. -/
def cleared (s : Store) : Store :=
  { s with
    conformance := .empty
    goalArtifacts := .empty
    designItems := .empty
    tasks := .empty
    claimTransfers := []
    taskScopes := .empty
    taskQa := []
    goalCoverage := .empty
    handoffs := .empty
    policyPacks := .empty
    packConflicts := .empty
    packProposals := .empty
    sessionContext := .empty
    goals := .empty
    packProvenance := .empty }

def resetDatabase (s : Store) (confirmation : String) : Result Store :=
  if confirmation ≠ "RESET LODESTAR" then
    .error (.invalid "intent reset requires exact confirmation token: RESET LODESTAR")
  else .ok s.cleared

end Store

/-- What the other authority granted. -/
structure FederatedClaimGrant where
  owner : String
  branch : Option String
  (claimStartedAt leaseExpiresAt claimLapses : Int)
  (paths symbols : List String)

/-- Projections do not decide: the compare-and-swap already ran elsewhere. -/
def projectWrite (leaves : Task → Task) (keeps : ∀ task, (leaves task).id = task.id := by intro task; rfl) : TaskWrite :=
  ⟨fun _ => true, leaves, keeps⟩

def federatedGrantWrite (grant : FederatedClaimGrant) (now : Int) : TaskWrite :=
  projectWrite fun task =>
    { task with
      status := .claimed, owner := some grant.owner, branch := grant.branch
      claimStartedAt := some grant.claimStartedAt, leaseExpiresAt := some grant.leaseExpiresAt
      parkedAt := none, updatedAt := now }

def federatedReleased (now : Int) (task : Task) : Task :=
  { task with status := .open, owner := none, claimStartedAt := none, leaseExpiresAt := none, updatedAt := now }

def federatedReleaseWrite (now : Int) : TaskWrite := projectWrite (federatedReleased now)

/-- A park is a question or a pause: one decision, two local names. -/
def federatedParkWrite (status : TaskStatus) (now : Int) : TaskWrite :=
  projectWrite fun task =>
    { task with status := status, leaseExpiresAt := none, parkedAt := some now, updatedAt := now }

def federatedUnparkWrite (grant : FederatedClaimGrant) (now : Int) : TaskWrite :=
  projectWrite fun task =>
    { task with
      status := .claimed, leaseExpiresAt := some grant.leaseExpiresAt, parkedAt := none, updatedAt := now }

namespace Store

def project (s : Store) (id : String) (now : Int) (write : TaskWrite) (note : EventNote) : Result Store :=
  (s.updateTask id write).record id now note

def applyFederatedGrant (s : Store) (id agent : String) (grant : FederatedClaimGrant) (kind : TaskEventKind)
    (now : Int) : Result Store := do
  let s ← s.project id now (federatedGrantWrite grant now) ⟨kind, some agent, .federated (some grant.claimLapses) none⟩
  let s ← s.replaceScope id .path grant.paths
  s.replaceScope id .symbol grant.symbols

def applyFederatedRelease (s : Store) (id agent : String) (now : Int) : Result Store :=
  s.project id now (federatedReleaseWrite now) ⟨.released, some agent, .federated none none⟩

def applyFederatedPark (s : Store) (id agent question : String) (audience : Option String) (now : Int) :
    Result Store := do
  let s ← s.project id now (federatedParkWrite .needsInput now) ⟨.questioned, some agent, .federated none audience⟩
  return s.appendQa ⟨id, .question, question, agent, audience, now⟩

def applyFederatedAnswer (s : Store) (id author answer : String) (grant : FederatedClaimGrant) (now : Int) :
    Result Store := do
  let s ← s.project id now (federatedUnparkWrite grant now) ⟨.answered, some author, .federated none none⟩
  return s.appendQa ⟨id, .answer, answer, author, none, now⟩

def applyFederatedPause (s : Store) (id agent : String) (reason : Option String) (now : Int) : Result Store := do
  let s ← s.project id now (federatedParkWrite .paused now) ⟨.paused, some agent, .federated none none⟩
  return s.appendNote id reason agent now

def applyFederatedResume (s : Store) (id agent : String) (grant : FederatedClaimGrant) (now : Int) : Result Store :=
  s.project id now (federatedUnparkWrite grant now) ⟨.resumed, some agent, .federated none none⟩

end Store
end MindLeak.Lodestar
