import MindLeak.Library.Links
import MindLeak.Library.Runs
import MindLeak.Lodestar.Policy

/-! One store: every table the Intent Plane's claims and clauses live in, and
the pattern each coordination write follows, a guarded update of one row with
the record of it in the same transaction. -/

namespace MindLeak.Lodestar

/-- What the store computes with code outside the repository. -/
structure Env where
  /-- Twelve hex digits of a SHA-256 digest. -/
  shortHash : String → String
  /-- Why a scope glob does not compile, if it does not. -/
  globError : String → Option String
  packDigest : ConstitutionPack → String
  /-- The digest of a check's number, evidence, verdict, findings and sorted basis. -/
  tokenDigest : Int → ConformanceEvidence → Verdict → List String → List TokenFact → String

abbrev Handoffs := Links Handoff Handoff.predecessorId Handoff.successorId

structure Store where
  constitutionVersions : Table ConstitutionVersion := .empty
  controls : Table Control := .empty
  waivers : Table Waiver := .empty
  amendments : Table ConstitutionAmendment := .empty
  goals : Table GoalRow := .empty
  policyPacks : Table PackRow := .empty
  packConflicts : Table PackConflictRow := .empty
  packProposals : Table PackClauseProposal := .empty
  packProvenance : Table PackClauseProvenance := .empty
  designItems : Table DesignItem := .empty
  tasks : Table Task := .empty
  /-- Append-only, in sequence order. -/
  taskEvents : List TaskEvent := []
  /-- The closed archive of recoveries from before the log. -/
  claimTransfers : List ClaimTransfer := []
  taskScopes : Table TaskScopeRow := .empty
  taskQa : List TaskQa := []
  goalCoverage : Table GoalCoverage := .empty
  handoffs : Handoffs := .empty
  goalArtifacts : Table GoalArtifact := .empty
  conformance : Table ConformanceRecord := .empty
  /-- The AUTOINCREMENT counter outlives the rows it numbered. -/
  conformanceSeq : Nat := 0
  sessionContext : Table SessionRow := .empty

abbrev Result (α : Type) := Except LodestarError α

def PARKING_GRACE_SECS : Int := 7 * 24 * 3600

def MAX_CONCURRENT_CLAIMS : Nat := 3

/-- A guarded `UPDATE tasks … WHERE id = ?1 AND takes`. -/
structure TaskWrite where
  takes : Task → Bool
  leaves : Task → Task
  keeps : ∀ task, (leaves task).id = task.id := by intro task; rfl

/-- What the log keeps beside the after-image. -/
structure EventNote where
  kind : TaskEventKind
  actor : Option String
  detail : EventDetail := .empty

namespace Store

def getTask (s : Store) (id : String) : Option Task := s.tasks.find? id

/-- The rows an update of one id changes: none or one, ids being unique. -/
def changed (s : Store) (id : String) (write : TaskWrite) : Nat :=
  s.tasks.rows.countP fun task => decide (task.id = id) && write.takes task

def updateTask (s : Store) (id : String) (write : TaskWrite) : Store :=
  { s with tasks := s.tasks.update (fun task => decide (task.id = id) && write.takes task) write.leaves write.keeps }

/-- Append an after-image; rows of the log are never deleted, so the next
sequence number is its length and one. -/
def appendEvent (s : Store) (now : Int) (task : Task) (note : EventNote) : Store :=
  { s with taskEvents := s.taskEvents ++
      [⟨s.taskEvents.length + 1, task.id, note.kind, note.actor, now, task, note.detail⟩] }

def record (s : Store) (id : String) (now : Int) (note : EventNote) : Result Store :=
  match s.getTask id with
  | none => .error (.notFound id)
  | some task => .ok (s.appendEvent now task note)

def transition (s : Store) (id : String) (now : Int) (write : TaskWrite) (note : EventNote) : Result (Option Store) :=
  if s.changed id write = 1 then do
    let s ← (s.updateTask id write).record id now note
    return some s
  else return none

def appendQa (s : Store) (qa : TaskQa) : Store := { s with taskQa := s.taskQa ++ [qa] }

def appendNote (s : Store) (taskId : String) (reason : Option String) (author : String) (now : Int) : Store :=
  match (reason.map Text.trim).filter fun body => !body.isEmpty with
  | none => s
  | some body => s.appendQa ⟨taskId, .note, body, author, none, now⟩

end Store

def detailOf (reason : Option String) : EventDetail :=
  match (reason.map Text.trim).filter fun text => !text.isEmpty with
  | some text => .reason text
  | none => .empty

end MindLeak.Lodestar
