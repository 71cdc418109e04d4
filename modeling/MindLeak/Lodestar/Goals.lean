import MindLeak.Lodestar.Verdict

/-! Goals and the code bound to them: what states intent outright, what drafts
it into a constitution version, and what retires it. -/

namespace MindLeak.Lodestar

/-- Kebab case, cut at 48 characters; a title without a letter or digit falls
back to its hash. -/
def slugify (env : Env) (input : String) : String :=
  let (out, _) := input.toList.foldl (fun ((out, dashed) : List Char × Bool) c =>
    if c.isAlphanum then (out ++ [c.toLower], false)
    else if !out.isEmpty && !dashed then (out ++ ['-'], true)
    else (out, dashed)) ([], false)
  let trimmed := (((out.take 48).dropWhile fun c => decide (c = '-')).reverse.dropWhile fun c => decide (c = '-')).reverse
  if trimmed.isEmpty then env.shortHash input else String.ofList trimmed

structure ExternalGoalRecord where
  externalId : String
  kind : GoalKind
  (title statement status sourceRef sourceDigest : String)

def newGoal (id slug : String) (kind : GoalKind) (title statement : String) (status : GoalStatus) (now : Int) : Goal where
  id := id
  slug := slug
  kind := kind
  title := title
  statement := statement
  status := status
  version := 1
  parentId := none
  supersededBy := none
  reason := none
  createdAt := now
  constitutionVersion := none
  rationale := none
  scope := none
  evidenceContract := none
  consequence := none
  waivable := false
  waiverAuthority := none
  origin := .local
  sourceSystem := none
  externalId := none
  sourceRef := none
  sourceDigest := none

namespace Store

/-- `INSERT INTO goals`, with the key and the one external identity unique. -/
def insertGoalOn (s : Store) (goal : Goal) : Result Store :=
  let imported := goal.sourceSystem.isSome && goal.externalId.isSome && s.goals.rows.any fun row =>
    decide (row.sourceSystem = goal.sourceSystem ∧ row.externalId = goal.externalId)
  if imported then .error (.sqlite "UNIQUE constraint failed: goals.source_system, goals.external_id")
  else match s.goals.insert? { toGoal := goal } with
    | none => .error (.sqlite "UNIQUE constraint failed: goals.id")
    | some goals => .ok { s with goals }

def defineGoalOn (env : Env) (s : Store) (kind : GoalKind) (title statement : String) (parent : Option String)
    (now : Int) : Result (Goal × Store) := do
  let slug := slugify env title
  let base := "goal:" ++ slug
  let id := if s.goalExists base then base ++ "-" ++ env.shortHash statement else base
  if s.goalExists id then
    throw (.invalid (s!"a goal with this title and statement already exists ({id}); " ++
      "revise intent through supersede_goal instead of redefining it"))
  let goal := { newGoal id slug kind title statement .active now with parentId := parent }
  let s ← s.insertGoalOn goal
  return (goal, s)

def blankRecord (record : ExternalGoalRecord) : Bool :=
  [record.externalId, record.title, record.statement, record.status, record.sourceRef, record.sourceDigest].any Text.isBlank

def importRecord (env : Env) (sourceSystem : String) (now : Int) (s : Store) (record : ExternalGoalRecord) :
    Result Store :=
  let externalId := Text.trim record.externalId
  if Text.trim record.status ≠ "accepted" then .ok s
  else if s.goals.rows.any fun row =>
      decide (row.sourceSystem = some sourceSystem ∧ row.externalId = some externalId) then .ok s
  else
    let id := "goal:external-" ++ env.shortHash s!"{sourceSystem}:{externalId}"
    let title := Text.trim record.title
    s.insertGoalOn
      { newGoal id (slugify env title) record.kind title (Text.trim record.statement) .active now with
        sourceSystem := some sourceSystem
        externalId := some externalId
        sourceRef := some (Text.trim record.sourceRef)
        sourceDigest := some (Text.trim record.sourceDigest) }

def validateRecords : List String → List ExternalGoalRecord → Result Unit
  | _, [] => .ok ()
  | identities, record :: rest =>
    let externalId := record.externalId
    if blankRecord record then
      .error (.invalid ("each import record requires external_id, title, statement, status, source_ref, " ++
        "and source_digest"))
    else if Text.trim externalId ∈ identities then
      .error (.invalid s!"import batch repeats external_id {externalId}")
    else validateRecords (Text.trim externalId :: identities) rest

def importExternalGoals (env : Env) (s : Store) (sourceSystem : String) (records : List ExternalGoalRecord)
    (now : Int) : Result Store := do
  let sourceSystem := Text.trim sourceSystem
  if sourceSystem.isEmpty then throw (.invalid "source_system must not be empty")
  validateRecords [] records
  records.foldlM (importRecord env sourceSystem now) s

/-- A clause authored into a draft version governs nobody yet. -/
def defineClauseInVersion (env : Env) (s : Store) (kind : GoalKind) (title statement versionId : String) (now : Int) :
    Result (Goal × Store) := do
  let slug := slugify env title
  let id := s!"goal:{slug}@{versionId}"
  if s.goalExists id then
    throw (.invalid (s!"{versionId} already holds a clause with slug {slug}; " ++
      "revise that one rather than adding a second rule under one name"))
  let goal := { newGoal id slug kind title statement .draft now with constitutionVersion := some versionId }
  let s ← s.insertGoalOn goal
  return (goal, s)

def clausesForVersion (s : Store) (versionId : String) : List Goal :=
  ((s.goals.rows.filter fun goal =>
    decide (goal.constitutionVersion = some versionId) && decide (goal.status ≠ .superseded)).map GoalRow.toGoal).insertionSort
    fun left right => left.slug ≤ right.slug

def supersession (old : Goal) (statement reason : String) (now : Int) : Goal :=
  let slug := old.slug
  let version := old.version + 1
  { old with
    id := s!"goal:{slug}-v{version}"
    statement := statement
    status := .active
    version := version
    supersededBy := none
    reason := some reason
    createdAt := now }

/-- The clause is read at one moment and its successor inserted at a later one. -/
def supersedeGoal (seen s : Store) (oldId statement reason : String) (now : Int) : Result (Goal × Store) :=
  match seen.goals.find? oldId with
  | none => .error (.notFound oldId)
  | some old => do
    let goal := supersession old.toGoal statement reason now
    let s ← s.insertGoalOn goal
    return (goal, s)

/-- The second statement of a supersession, on its own in time. -/
def retireSuperseded (s : Store) (oldId newId agent : String) (now : Int) : Store :=
  { s with
    goals := s.goals.update (fun row => decide (row.id = oldId)) fun row =>
      { row with
        status := .superseded, supersededBy := some newId
        supersededAt := some now, supersededByAgent := some agent } }

/-- The facade refuses an active clause it read a moment before; the update
itself refuses only a superseded one. -/
def completeClauseContract (seen s : Store) (goalId scope evidenceContract : String) (consequence : Option Consequence)
    (waivable : Bool) (waiverAuthority : Option String) : Result Store :=
  match seen.goals.find? goalId with
  | none => .error (.notFound goalId)
  | some clause => do
    if clause.status = .active then
      throw (.invalid (s!"{goalId} is active; changing what an active clause enforces is an amendment — " ++
        "propose_amendment, complete the contract on the draft, then amend_constitution"))
    if Text.isBlank scope || Text.isBlank evidenceContract then
      throw (.invalid "an enforcement contract requires a scope and an evidence contract")
    if !waivable && waiverAuthority.any fun authority => !Text.isBlank authority then
      throw (.invalid "an unwaivable clause cannot name a waiver authority")
    if (s.goals.find? goalId).all fun row => decide (row.status = .superseded) then throw (.notFound goalId)
    return { s with
      goals := s.goals.update (fun row => decide (row.id = goalId) && decide (row.status ≠ .superseded)) fun row =>
        { row with
          scope := some (Text.trim scope)
          evidenceContract := some (Text.trim evidenceContract)
          consequence := consequence
          waivable := waivable
          waiverAuthority := (waiverAuthority.map Text.trim).filter fun authority => !authority.isEmpty } }

def bindNode (goalId : String) (mode : ArtifactBindingMode) (s : Store) (node : String) : Store :=
  { s with
    goalArtifacts := (s.goalArtifacts.insertOrIgnore ⟨goalId, node, mode⟩).update
      (fun row => decide (row.goalId = goalId ∧ row.nodeId = node)) fun row => { row with mode := mode } }

def linkGoalToArtifact (seen s : Store) (goalId : String) (nodeIds : List String) (mode : ArtifactBindingMode) :
    Result Store :=
  match seen.goals.find? goalId with
  | none => .error (.notFound goalId)
  | some goal =>
    if mode = .forbidChange ∧ !goal.kind.isNormative then
      .error (.invalid "forbid_change is valid only for constraints and invariants")
    else .ok (nodeIds.foldl (bindNode goalId mode) s)

def unlinkGoalFromArtifact (seen s : Store) (goalId : String) (nodeIds : List String) : Result Store :=
  if !seen.goalExists goalId then .error (.notFound goalId)
  else .ok { s with
    goalArtifacts := s.goalArtifacts.delete fun row => decide (row.goalId = goalId) && decide (row.nodeId ∈ nodeIds) }

def registerControl (s : Store) (control : Control) : Result Store := do
  if Text.isBlank control.clauseId || Text.isBlank control.id then
    throw (.invalid "a control requires an id and a clause id")
  let id := control.id
  let clause := control.clauseId
  if !s.goalExists clause then throw (.notFound s!"clause {clause} for control {id}")
  match s.controls.find? id with
  | some existing =>
    if control.version < existing.version then
      let version := existing.version
      throw (.invalid (s!"control {id} is already registered at version {version}; " ++
        "a control version never moves backwards"))
  | none => pure ()
  return { s with
    controls := (s.controls.insertOrIgnore { control with retiredBy := none, retiredAt := none }).update
      (fun row => decide (row.id = id)) fun row =>
        { row with
          clauseId := control.clauseId, kind := control.kind, power := control.power
          version := control.version, configuration := control.configuration, status := control.status } }

def retireControl (s : Store) (id retiredBy : String) (now : Int) : Result Store := do
  let retiredBy := Text.trim retiredBy
  if retiredBy.isEmpty then throw (.invalid "retiring a control requires an attributed author")
  return { s with
    controls := s.controls.update (fun row => decide (row.id = id) && decide (row.status ≠ .retired)) fun row =>
      { row with status := .retired, retiredBy := some retiredBy, retiredAt := some now } }

end Store
end MindLeak.Lodestar
