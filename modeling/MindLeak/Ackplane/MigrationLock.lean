import MindLeak.Ackplane.Command
import MindLeak.Library.Refusals

/-! Schema migrations of one database by any number of connections. The gate of a shared database is
asked first, and then the migration is looked for, run and recorded in one transaction under two
advisory locks. -/

namespace MindLeak.Ackplane

def GLOBAL_SCHEMA : Int := 0
def SHARED_DATABASE_MARKER : Int := -2

structure MigrationKey where
  value : Int
  apart : value ≠ SHARED_DATABASE_MARKER
  deriving DecidableEq

/-- A row of `ackplane_schema_migrations`. One that was recorded before digests were kept has none. -/
structure MigrationRow where
  migrationKey : Int
  contentDigest : Option String

instance : Row MigrationRow Int := ⟨MigrationRow.migrationKey⟩

inductive MigrationError where
  | database
  | sharedDatabase (lockKey : MigrationKey)
  | collision (lockKey : MigrationKey) (applied expected : String)

structure MigrationDatabase where
  ledger : Option (Table MigrationRow)
  /-- The scripts that took effect, each under its key, in their order. -/
  applied : List (Int × String)

namespace MigrationDatabase

def empty : MigrationDatabase := ⟨none, []⟩

def row? (s : MigrationDatabase) (key : Int) : Option MigrationRow := s.ledger.bind (·.find? key)

def isMarked (s : MigrationDatabase) : Bool := (s.row? SHARED_DATABASE_MARKER).isSome

/-- What a statement reads, or waits for. -/
inductive View where
  | advisory (key : Int)
  | tableExists
  | row (key : Int)

abbrev View.Value : View → Type
  | .advisory _ => Unit
  | .tableExists => Bool
  | .row _ => Option MigrationRow

def look (s : MigrationDatabase) : (view : View) → view.Value
  | .advisory _ => ()
  | .tableExists => s.ledger.isSome
  | .row key => s.row? key

inductive Lock where
  | advisory (key : Int)
  /-- Whoever alters the table has it to itself. -/
  | table
  deriving DecidableEq

def guards : (view : View) → view.Value → List Lock
  | .advisory key, _ => [.advisory key]
  | .tableExists, _ | .row _, _ => [.table]

/-- `CREATE TABLE IF NOT EXISTS`, with the column of the digests. -/
def createLedger (s : MigrationDatabase) : MigrationDatabase := { s with ledger := some (s.ledger.getD .empty) }

def insertRow (s : MigrationDatabase) (row : MigrationRow) : MigrationDatabase := { s with ledger := s.ledger.map (·.insertOrIgnore row) }

def adoptDigest (s : MigrationDatabase) (key : Int) (digest : String) : MigrationDatabase :=
  { s with ledger := s.ledger.map fun ledger =>
      ledger.update (fun row => row.migrationKey = key ∧ row.contentDigest = none) ({ · with contentDigest := some digest }) }

def batchExecute (s : MigrationDatabase) (key : Int) (migrationSql : String) : MigrationDatabase :=
  { s with applied := s.applied ++ [(key, migrationSql)] }

section
variable {ε : Type}

def select (view : View) : Transaction MigrationDatabase View View.Value ε view.Value := .read view

def selectLocked (view : View) : Transaction MigrationDatabase View View.Value ε view.Value := .lock view

def execute (update : MigrationDatabase → MigrationDatabase) : Transaction MigrationDatabase View View.Value ε Unit := .store update

end
end MigrationDatabase

abbrev MigrationTransaction (α : Type) : Type :=
  Transaction MigrationDatabase MigrationDatabase.View MigrationDatabase.View.Value MigrationError α

namespace MigrationLock
open MigrationDatabase

def contentDigest (platform : Platform) (migrationSql : String) : String := hexText (platform.sha256 (utf8 migrationSql))

def isMarkedShared : MigrationTransaction Bool := do
  let tableExists ← select .tableExists
  if tableExists then do
    let marked ← select (.row SHARED_DATABASE_MARKER)
    .pure marked.isSome
  else .pure false

def sharedGateRefuses (markedShared reviewed : Bool) : Bool := markedShared && !reviewed

/-- Whoever is not refused has the schema to itself until it ends. -/
def applyOnce (platform : Platform) (lockKey : MigrationKey) (migrationSql : String) : MigrationTransaction Unit := do
  selectLocked (.advisory GLOBAL_SCHEMA)
  selectLocked (.advisory lockKey.value)
  let _ ← selectLocked .tableExists
  execute createLedger
  let digest := contentDigest platform migrationSql
  match ← selectLocked (.row lockKey.value) with
  | some ⟨_, some applied⟩ => if applied = digest then .pure () else .fail (.collision lockKey applied digest)
  | some ⟨_, none⟩ => execute (·.adoptDigest lockKey.value digest)
  | none => do
    execute (·.batchExecute lockKey.value migrationSql)
    execute (·.insertRow ⟨lockKey.value, some digest⟩)

/-- `reviewed` is whether the acknowledgement is set in the environment. -/
def migrateLocked (platform : Platform) (lockKey : MigrationKey) (migrationSql : String) (reviewed : Bool) : MigrationTransaction Unit := do
  let marked ← isMarkedShared
  if sharedGateRefuses marked reviewed then .fail (.sharedDatabase lockKey)
  else applyOnce platform lockKey migrationSql

/-- The first transaction of `mark_shared_database`. -/
def prepareLedger : MigrationTransaction Unit := do
  let _ ← selectLocked .tableExists
  execute createLedger

/-- The second. -/
def insertMarker : MigrationTransaction Unit := do
  let tableExists ← selectLocked .tableExists
  if tableExists then execute (·.insertRow ⟨SHARED_DATABASE_MARKER, none⟩) else .fail .database

end MigrationLock

inductive MigrationCall where
  | migrateLocked (lockKey : MigrationKey) (migrationSql : String) (reviewed : Bool)
  | prepareLedger
  | insertMarker
  deriving DecidableEq

def MigrationCall.program (platform : Platform) : MigrationCall → MigrationTransaction Unit
  | .migrateLocked lockKey migrationSql reviewed => MigrationLock.migrateLocked platform lockKey migrationSql reviewed
  | .prepareLedger => MigrationLock.prepareLedger
  | .insertMarker => MigrationLock.insertMarker

abbrev MigrationState (τ : Type) : Type :=
  Interleaving τ MigrationDatabase MigrationDatabase.View MigrationDatabase.Lock MigrationDatabase.View.Value MigrationError Unit MigrationCall

def migrations (platform : Platform) (τ : Type) [DecidableEq τ] (start : MigrationDatabase) :
    Machine (MigrationState τ) (TransactionOp τ MigrationCall) :=
  interleaved τ MigrationDatabase.look MigrationDatabase.guards (MigrationCall.program platform) start

end MindLeak.Ackplane
