import MindLeak.Lodestar.Packs

/-! The Design Board: ADRs under human review, the attributed acts on them, and
what a decided design was materialized into. A row is never deleted but by a
reset; deferral, retirement and supersession stand beside the status. -/

namespace MindLeak.Lodestar

def DesignStatus.asStr : DesignStatus → String
  | .proposed => "proposed"
  | .accepted => "accepted"
  | .rejected => "rejected"

inductive DesignPromotionStatus where
  | notRequired | pending | materialized
  deriving DecidableEq

inductive DesignActionKind where
  | defer | resume | reject | retire
  deriving DecidableEq

structure Deferral where
  «at» : Int
  «by» : String
  reason : String
  deriving DecidableEq

structure Retirement where
  «at» : Int
  «by» : String
  reason : String
  deriving DecidableEq

/-- A decision that was made, held, and has since been replaced. -/
structure Supersession where
  byDesign : String
  «at» : Int
  «by» : String
  deriving DecidableEq

/-- The whole record of an ADR under review. The three columns of a deferral, a
retirement and a supersession move together. -/
structure DesignRow where
  (id adrPath title summary : String)
  status : DesignStatus := .proposed
  proposedBy : Option String
  decidedBy : Option String := none
  reason : Option String := none
  (createdAt updatedAt : Int)
  promotionStatus : DesignPromotionStatus := .notRequired
  materializationRevision : Int := 0
  deferred : Option Deferral := none
  retired : Option Retirement := none
  superseded : Option Supersession := none
  deriving DecidableEq

namespace DesignRow

/-- What the evidence of a ledger act reads of it. -/
def brief (item : DesignRow) : DesignItem where
  id := item.id
  status := item.status
  proposedBy := item.proposedBy
  decidedBy := item.decidedBy
  createdAt := item.createdAt
  updatedAt := item.updatedAt

def standing (item : DesignRow) : Bool := item.retired.isNone && item.superseded.isNone

/-- Proposed, and open to a decision now. -/
def undecided (item : DesignRow) : Bool := decide (item.status = .proposed) && item.deferred.isNone && item.standing

end DesignRow

structure DesignAction where
  id : Nat
  designId : String
  action : DesignActionKind
  (human reason : String)
  createdAt : Int
  deriving DecidableEq

/-- Repository metadata of one ADR; its declared status is never taken over. -/
structure DesignMetadata where
  (adrPath title summary : String)
  status : DesignStatus
  proposedBy : Option String

inductive DesignMaterializationMode where
  | create | link | noWork
  deriving DecidableEq

structure DesignConstraintDraft where
  kind : GoalKind
  (title statement : String)
  deriving DecidableEq

structure DesignMaterializationPlan where
  mode : DesignMaterializationMode
  tasks : List Store.TaskDraft
  taskIds : List String
  constraints : List DesignConstraintDraft
  rationale : Option String
  deriving DecidableEq

structure DesignMaterializationRecord where
  designId : String
  revision : Int
  plan : DesignMaterializationPlan
  actor : String
  createdAt : Int
  deriving DecidableEq

/-- `"objective"`, or the kind of a normative clause. -/
structure DesignGoalLink where
  (designId goalId : String)
  role : GoalKind
  position : Nat

structure DesignTaskLink where
  (designId taskId : String)
  position : Nat

instance : Row DesignRow String := ⟨DesignRow.id⟩
instance : Row DesignMaterializationRecord (String × Int) := ⟨fun row => (row.designId, row.revision)⟩
instance : Row DesignGoalLink (String × String) := ⟨fun row => (row.designId, row.goalId)⟩
instance : Row DesignTaskLink (String × String) := ⟨fun row => (row.designId, row.taskId)⟩

structure Designs where
  items : Table DesignRow := .empty
  /-- Append-only, in the order of the acts. -/
  actions : List DesignAction := []
  /-- The AUTOINCREMENT counter outlives the rows it numbered. -/
  actionSeq : Nat := 0
  materializations : Table DesignMaterializationRecord := .empty
  goalLinks : Table DesignGoalLink := .empty
  taskLinks : Table DesignTaskLink := .empty

/-- A guarded `UPDATE design_items … WHERE id = ?1 AND takes`. -/
structure DesignWrite where
  takes : DesignRow → Bool
  leaves : DesignRow → DesignRow
  keeps : ∀ item, (leaves item).id = item.id := by intro item; rfl

def designIdFromPath (adrPath : String) : String :=
  let normalized := adrPath.toList.map fun c => if c = '\\' then '/' else c
  let file := String.ofList (normalized.reverse.takeWhile fun c => decide (c ≠ '/')).reverse
  "design:" ++ (Text.stripSuffix? ".md" file).getD file

def actionWrite (action : DesignActionKind) (human reason : String) (now : Int) : DesignWrite :=
  match action with
  | .defer =>
    { takes := DesignRow.undecided
      leaves item := { item with deferred := some ⟨now, human, reason⟩, updatedAt := now } }
  | .resume =>
    { takes item := decide (item.status = .proposed) && item.deferred.isSome && item.standing
      leaves item := { item with deferred := none, updatedAt := now } }
  | .reject =>
    { takes := DesignRow.undecided
      leaves item :=
        { item with
          status := .rejected, decidedBy := some human, reason := some reason
          promotionStatus := .notRequired, updatedAt := now } }
  | .retire =>
    { takes item := item.retired.isNone
      leaves item := { item with retired := some ⟨now, human, reason⟩, updatedAt := now } }

def actionRefusal (action : DesignActionKind) (id : String) : String :=
  match action with
  | .defer => s!"only an active proposed design can be deferred: {id}"
  | .resume => s!"only a deferred proposal can be resumed: {id}"
  | .reject => s!"only an active, non-deferred proposal can be rejected: {id}"
  | .retire => s!"design item already retired: {id}"

def acceptWrite (target : DesignStatus) (decidedBy : String) (reason : Option String) (now : Int) : DesignWrite where
  takes := DesignRow.undecided
  leaves item :=
    { item with
      status := target, decidedBy := some decidedBy, reason := reason, promotionStatus := .pending, updatedAt := now }

/-- The injury this repairs: a status copied out of a file, with nobody behind it. -/
def reopenDesignWrite (now : Int) : DesignWrite where
  takes item :=
    item.decidedBy.isNone && decide (item.status ≠ .proposed) && decide (item.promotionStatus = .notRequired) &&
      item.retired.isNone
  leaves item := { item with status := .proposed, reason := none, updatedAt := now }

def attributeWrite (human : String) (now : Int) : DesignWrite where
  takes item :=
    item.decidedBy.isNone && decide (item.status ≠ .proposed) && decide (item.promotionStatus ≠ .notRequired)
  leaves item := { item with decidedBy := some human, updatedAt := now }

def supersedeWrite (supersededBy human : String) (now : Int) : DesignWrite where
  takes item := item.superseded.isNone && item.retired.isNone
  leaves item := { item with superseded := some ⟨supersededBy, now, human⟩, updatedAt := now }

/-- Reconciliation refreshes what the file is the authority for, and the clock
only when something changed. -/
def refreshWrite (metadata : DesignMetadata) (now : Int) : DesignWrite where
  takes _ := true
  leaves item :=
    { item with
      title := metadata.title, summary := metadata.summary
      updatedAt :=
        if item.title ≠ metadata.title ∨ item.summary ≠ metadata.summary then now else item.updatedAt }

namespace Designs

def getDesignItem (d : Designs) (id : String) : Option DesignRow := d.items.find? id

/-- The rows an update of one id changes: none or one, ids being unique. -/
def changed (d : Designs) (id : String) (write : DesignWrite) : Nat :=
  d.items.rows.countP fun item => decide (item.id = id) && write.takes item

def updateItem (d : Designs) (id : String) (write : DesignWrite) : Designs :=
  { d with items := d.items.update (fun item => decide (item.id = id) && write.takes item) write.leaves write.keeps }

def appendDesignAction (d : Designs) (designId : String) (action : DesignActionKind) (human reason : String)
    (now : Int) : Designs :=
  { d with
    actions := d.actions ++ [⟨d.actionSeq + 1, designId, action, human, reason, now⟩]
    actionSeq := d.actionSeq + 1 }

def registerDesignItem (d : Designs) (id adrPath title summary : String) (proposedBy : Option String) (now : Int) :
    Result Designs :=
  match d.items.insert?
      { id := id, adrPath := adrPath, title := title, summary := summary, proposedBy := proposedBy
        createdAt := now, updatedAt := now } with
  | none => .error (.invalid s!"design item already registered: {id}")
  | some items => .ok { d with items }

/-- A discovered row enters as proposed; one already there keeps its decision. -/
def reconcileDesignItem (d : Designs) (metadata : DesignMetadata) (now : Int) : Designs :=
  let id := designIdFromPath metadata.adrPath
  match d.items.insert?
      { id := id, adrPath := metadata.adrPath, title := metadata.title, summary := metadata.summary
        proposedBy := metadata.proposedBy, createdAt := now, updatedAt := now } with
  | some items => { d with items }
  | none => d.updateItem id (refreshWrite metadata now)

/-- One act on one design: nothing when its guard takes no row. -/
def applyDesignAction (d : Designs) (id : String) (action : DesignActionKind) (human reason : String) (now : Int) :
    Option Designs :=
  let write := actionWrite action human reason now
  if d.changed id write = 1 then some ((d.updateItem id write).appendDesignAction id action human reason now) else none

def actOn (action : DesignActionKind) (human reason : String) (now : Int) (d : Designs) (id : String) :
    Result Designs :=
  if (d.getDesignItem id).isNone then .error (.notFound id)
  else match d.applyDesignAction id action human reason now with
    | none => .error (.invalid (actionRefusal action id))
    | some d => .ok d

/-- The batch in one transaction: the first refusal leaves nothing of it. -/
def applyDesignActions (d : Designs) (ids : List String) (action : DesignActionKind) (human reason : String)
    (now : Int) : Result Designs :=
  if ids.isEmpty then .error (.invalid "a design action requires at least one design id")
  else ids.foldlM (actOn action human reason now) d

/-- A rejection is a recorded act; any other decision only moves the row. -/
def decideDesignItem (d : Designs) (id : String) (target : DesignStatus) (decidedBy : String) (reason : Option String)
    (now : Int) : Option Designs :=
  if target = .rejected then d.applyDesignAction id .reject decidedBy (reason.getD "") now
  else if d.changed id (acceptWrite target decidedBy reason now) = 1 then
    some (d.updateItem id (acceptWrite target decidedBy reason now))
  else none

def reopenUndecidedDesign (d : Designs) (id : String) (now : Int) : Result Designs :=
  if (d.getDesignItem id).isNone then .error (.notFound id) else .ok (d.updateItem id (reopenDesignWrite now))

def attributeDesignDecision (d : Designs) (id human : String) (now : Int) : Result Designs :=
  if (d.getDesignItem id).isNone then .error (.notFound id) else .ok (d.updateItem id (attributeWrite human now))

/-- The decision and the successor are read at one moment, the row is updated at
a later one; the foreign key is the database's own check. -/
def supersedeDesignItem (seen d : Designs) (id supersededBy human : String) (now : Int) : Result Designs :=
  match seen.getDesignItem id with
  | none => .error (.notFound id)
  | some item =>
    if (seen.getDesignItem supersededBy).isNone then .error (.notFound supersededBy)
    else if supersededBy = id then .error (.invalid s!"a design cannot supersede itself: {id}")
    else if item.status ≠ .accepted ∨ item.decidedBy.isNone then
      .error (.invalid s!"only an accepted design with a recorded decider can be superseded: {id}")
    else if d.changed id (supersedeWrite supersededBy human now) = 0 then
      .error (.invalid s!"design item is already superseded or retired: {id}")
    else if (d.getDesignItem supersededBy).isNone then .error (.sqlite "FOREIGN KEY constraint failed")
    else .ok (d.updateItem id (supersedeWrite supersededBy human now))

end Designs
end MindLeak.Lodestar
