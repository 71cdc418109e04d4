import MindLeak.Lodestar.Types
import Mathlib.Data.List.Sort

/-! Rows of constitutional change: controls, amendments with their clause diff,
policy packs under review and design decisions. -/

namespace MindLeak.Lodestar

inductive ControlKind where
  | check | threshold | ratchet | procedure | judgment
  deriving DecidableEq

inductive EnforcementPower where
  | mechanical | observed | advisory
  deriving DecidableEq

inductive ControlStatus where
  | active | retired
  deriving DecidableEq

structure Control where
  (id clauseId : String)
  kind : ControlKind
  power : EnforcementPower
  version : Int
  configuration : Option String
  status : ControlStatus
  retiredBy : Option String := none
  retiredAt : Option Int := none
  deriving DecidableEq

inductive ClauseChange where
  | added | removed | changed
  deriving DecidableEq

structure ClauseDiff where
  slug : String
  change : ClauseChange
  fields : List String
  (before after : Option Goal)
  deriving DecidableEq

structure ConstitutionAmendment where
  (id fromVersion toVersion rationale amendedBy : String)
  approvedBy : Option String
  createdAt : Int
  diff : List ClauseDiff
  deriving DecidableEq

def changedFields (before after : Goal) : List String :=
  [("kind", decide (before.kind ≠ after.kind)),
    ("title", decide (before.title ≠ after.title)),
    ("statement", decide (before.statement ≠ after.statement)),
    ("rationale", decide (before.rationale ≠ after.rationale)),
    ("scope", decide (before.scope ≠ after.scope)),
    ("evidence_contract", decide (before.evidenceContract ≠ after.evidenceContract)),
    ("consequence", decide (before.consequence ≠ after.consequence)),
    ("waivable", decide (before.waivable ≠ after.waivable)),
    ("waiver_authority", decide (before.waiverAuthority ≠ after.waiverAuthority))].filterMap
    fun (name, differs) => if differs then some name else none

def diffClauses (before after : List Goal) : List ClauseDiff :=
  let outgoing := before.filterMap fun old =>
    match after.find? fun new => decide (new.slug = old.slug) with
    | none => some ⟨old.slug, .removed, [], some old, none⟩
    | some new =>
      let fields := changedFields old new
      if fields.isEmpty then none else some ⟨old.slug, .changed, fields, some old, some new⟩
  let incoming := after.filterMap fun new =>
    if before.any fun old => decide (old.slug = new.slug) then none
    else some ⟨new.slug, .added, [], none, some new⟩
  (outgoing ++ incoming).insertionSort fun left right => left.slug ≤ right.slug

structure PackClause where
  key : String
  kind : GoalKind
  (title statement rationale : String)
  (defaultScope evidenceContract : Option String)
  defaultConsequence : Option Consequence
  suggestedControls : List String
  deriving DecidableEq

structure PackConflict where
  (packId reason : String)
  deriving DecidableEq

structure ConstitutionPack where
  (id version digest title description : String)
  (compatibleEngineVersions preambleFragments : List String)
  clauses : List PackClause
  conflicts : List PackConflict

structure PackRow where
  pack : ConstitutionPack
  createdAt : Int

structure PackConflictRow where
  (packId packVersion conflictingPackId reason : String)

inductive PackClauseDisposition where
  | adopted | tailored | rejected
  deriving DecidableEq

def PackClauseDisposition.asStr : PackClauseDisposition → String
  | .adopted => "adopted"
  | .tailored => "tailored"
  | .rejected => "rejected"

/-- The empty constitution version stands for no context, as the column does. -/
structure PackClauseProposal where
  (id packId packVersion packDigest constitutionVersion : String)
  clause : PackClause
  disposition : Option PackClauseDisposition := none
  reviewedBy : Option String := none
  reviewReason : Option String := none
  reviewedAt : Option Int := none
  adoptedGoalId : Option String := none
  createdAt : Int

structure PackClauseProvenance where
  (goalId packId packVersion packDigest clauseKey : String)
  sourceClause : PackClause
  deriving DecidableEq

inductive DesignStatus where
  | proposed | accepted | rejected
  deriving DecidableEq

/-- The attribution a design decision leaves; the rest of the record is not read here. -/
structure DesignItem where
  id : String
  status : DesignStatus
  (proposedBy decidedBy : Option String)
  (createdAt updatedAt : Int)

/-- An active lesson with the provenance it is matched by. -/
structure Lesson where
  (id statement : String)
  referencedNodes : List String
  declaredGoal : Option String
  referencedTasks : List String
  deriving DecidableEq

/-- One fact a conformance token is issued against. -/
inductive TokenFact where
  | claim (taskId goalId owner : String) (claimStartedAt lapses : Int)
  | taskGoal (goal : Goal)
  | binding (node : String) (mode : ArtifactBindingMode) (goal : Goal)
  | knowledge (lesson : Lesson)
  | constitution (id : String) (version : Int)
  | control (id clauseId : String) (version : Int) (power : EnforcementPower)
  | waiver (id clauseId scope : String) (status : WaiverStatus) (expiresAt : Int)
  deriving DecidableEq

instance : Row Control String := ⟨Control.id⟩
instance : Row ConstitutionAmendment String := ⟨ConstitutionAmendment.id⟩
instance : Row PackRow (String × String) := ⟨fun row => (row.pack.id, row.pack.version)⟩
instance : Row PackConflictRow (String × String × String) :=
  ⟨fun row => (row.packId, row.packVersion, row.conflictingPackId)⟩
instance : Row PackClauseProposal String := ⟨PackClauseProposal.id⟩
instance : Row PackClauseProvenance String := ⟨PackClauseProvenance.goalId⟩
instance : Row DesignItem String := ⟨DesignItem.id⟩

end MindLeak.Lodestar
