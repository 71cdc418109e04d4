import MindLeak.Lodestar.Local

/-! An import as its caller sees it: what became of each record, and the working
tables of the transaction, which a failure drops. -/

namespace MindLeak.Lodestar

inductive ExternalGoalImportDisposition where
  | created | unchanged | skipped | conflict
  deriving DecidableEq

structure ExternalGoalImportOutcome where
  externalId : String
  disposition : ExternalGoalImportDisposition
  goalId : Option String
  deriving DecidableEq

structure ExternalGoalImportResult where
  outcomes : List ExternalGoalImportOutcome := []
  created : Nat := 0
  unchanged : Nat := 0
  skipped : Nat := 0
  conflicts : Nat := 0
  deriving DecidableEq

def ExternalGoalImportResult.push (result : ExternalGoalImportResult) (outcome : ExternalGoalImportOutcome) :
    ExternalGoalImportResult :=
  { result with outcomes := result.outcomes ++ [outcome] }

def externalGoalId (env : Env) (sourceSystem externalId : String) : String :=
  "goal:external-" ++ env.shortHash s!"{sourceSystem}:{externalId}"

def importedGoal (env : Env) (sourceSystem : String) (record : ExternalGoalRecord) (now : Int) : Goal :=
  let externalId := Text.trim record.externalId
  let title := Text.trim record.title
  { newGoal (externalGoalId env sourceSystem externalId) (slugify env title) record.kind title
      (Text.trim record.statement) .active now with
    sourceSystem := some sourceSystem
    externalId := some externalId
    sourceRef := some (Text.trim record.sourceRef)
    sourceDigest := some (Text.trim record.sourceDigest) }

namespace Store

/-- `SELECT id, source_digest FROM goals WHERE source_system AND external_id`. -/
def importedAs (s : Store) (sourceSystem externalId : String) : Option GoalRow :=
  s.goals.rows.find? fun row => decide (row.sourceSystem = some sourceSystem ∧ row.externalId = some externalId)

/-- One turn of the loop, over the working tables. -/
def importOne (env : Env) (sourceSystem : String) (now : Int) (s : Store) (result : ExternalGoalImportResult)
    (record : ExternalGoalRecord) : Result (ExternalGoalImportResult × Store) :=
  let externalId := Text.trim record.externalId
  if Text.trim record.status ≠ "accepted" then
    .ok ({ result with skipped := result.skipped + 1 }.push ⟨externalId, .skipped, none⟩, s)
  else match s.importedAs sourceSystem externalId with
    | some existing =>
      match existing.sourceDigest with
      | none => .error (.sqlite "Invalid column type Null at index: 1, name: source_digest")
      | some digest =>
        if digest = Text.trim record.sourceDigest then
          .ok ({ result with unchanged := result.unchanged + 1 }.push ⟨externalId, .unchanged, some existing.id⟩, s)
        else
          .ok ({ result with conflicts := result.conflicts + 1 }.push ⟨externalId, .conflict, some existing.id⟩, s)
    | none =>
      let goal := importedGoal env sourceSystem record now
      match s.insertGoalOn goal with
      | .error failure => .error failure
      | .ok s =>
        .ok ({ result with created := result.created + 1 }.push ⟨externalId, .created, some goal.id⟩, s)

/-- A failing record ends the loop; what the ones before it wrote is still there. -/
def importRecords (env : Env) (sourceSystem : String) (now : Int) :
    List ExternalGoalRecord → ExternalGoalImportResult → Store → Result ExternalGoalImportResult × Store
  | [], result, s => (.ok result, s)
  | record :: rest, result, s =>
    match importOne env sourceSystem now s result record with
    | .error failure => (.error failure, s)
    | .ok (result, s) => importRecords env sourceSystem now rest result s

/-- A transaction that did not reach its commit is rolled back. -/
def transacted {α : Type} (s : Store) : Result α × Store → Result α × Store
  | (.ok value, working) => (.ok value, working)
  | (.error failure, _) => (.error failure, s)

def importExternalGoalsResult (env : Env) (s : Store) (sourceSystem : String) (records : List ExternalGoalRecord)
    (now : Int) : Result ExternalGoalImportResult × Store :=
  let sourceSystem := Text.trim sourceSystem
  if sourceSystem.isEmpty then (.error (.invalid "source_system must not be empty"), s)
  else match validateRecords [] records with
    | .error failure => (.error failure, s)
    | .ok _ => s.transacted (importRecords env sourceSystem now records {} s)

end Store
end MindLeak.Lodestar
