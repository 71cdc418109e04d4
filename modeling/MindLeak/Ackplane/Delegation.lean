import MindLeak.Library.Runs
import MindLeak.Library.Table
import MindLeak.Library.Text

/-! Delegated task claims: one row a task, the six operations on it, each as a function of
the row it finds and as the statements of any number of transactions. -/

namespace MindLeak.Ackplane

structure ClaimKey where
  (tenantId repositoryId taskId : String)
  deriving DecidableEq

structure ClaimOwner where
  (ownerId nodeId : String)
  deriving DecidableEq

structure ClaimLeaseRequest where
  (tenantId repositoryId taskId ownerId nodeId branch : String)
  lease : Nat
  (paths symbols : List String)
  deriving DecidableEq

namespace ClaimLeaseRequest

def key (request : ClaimLeaseRequest) : ClaimKey := ⟨request.tenantId, request.repositoryId, request.taskId⟩

def owner (request : ClaimLeaseRequest) : ClaimOwner := ⟨request.ownerId, request.nodeId⟩

end ClaimLeaseRequest

structure ClaimRecoverRequest where
  (tenantId repositoryId taskId expectedOwner ownerId nodeId reason branch : String)
  lease : Nat
  (paths symbols : List String)
  deriving DecidableEq

namespace ClaimRecoverRequest

def key (request : ClaimRecoverRequest) : ClaimKey := ⟨request.tenantId, request.repositoryId, request.taskId⟩

def owner (request : ClaimRecoverRequest) : ClaimOwner := ⟨request.ownerId, request.nodeId⟩

end ClaimRecoverRequest

inductive ClaimLeaseOutcome where
  | granted | rejected
  deriving DecidableEq

structure ClaimLeaseResult where
  outcome : ClaimLeaseOutcome
  (ownerId branch : String)
  (claimStartedAt leaseExpiresAt : Int)
  claimLapses : Nat
  (paths symbols : List String)
  deriving DecidableEq

inductive ClaimStoreError where
  | invalidLease | invalidLapseCount | missingReason | missingNode | ownerNodeMismatch
  deriving DecidableEq

structure DelegatedClaim where
  key : ClaimKey
  ownerId : String
  /-- Rows from before the node was recorded have none. -/
  ownerNodeId : Option String
  branch : String
  (claimStartedAt leaseExpiresAt claimLapses : Int)
  (paths symbols : List String)
  parked : Bool
  deriving DecidableEq

instance : Row DelegatedClaim ClaimKey := ⟨DelegatedClaim.key⟩

namespace ClaimOwner

def validate (owner : ClaimOwner) : Except ClaimStoreError Unit :=
  if (Text.trim owner.nodeId).isEmpty then .error .missingNode else .ok ()

def verifyNode (owner : ClaimOwner) (storedOwner : String) (storedNode : Option String) : Except ClaimStoreError Unit :=
  if storedOwner = owner.ownerId ∧ storedNode ≠ some owner.nodeId then .error .ownerNodeMismatch else .ok ()

end ClaimOwner

namespace DelegatedClaim

def HeldBy (row : DelegatedClaim) (owner : ClaimOwner) : Prop :=
  row.ownerId = owner.ownerId ∧ row.ownerNodeId = some owner.nodeId

instance (row : DelegatedClaim) (owner : ClaimOwner) : Decidable (row.HeldBy owner) :=
  inferInstanceAs (Decidable (_ ∧ _))

def lapses (row : DelegatedClaim) : Except ClaimStoreError Nat :=
  if row.claimLapses < 0 then .error .invalidLapseCount else .ok row.claimLapses.toNat

def report (row : DelegatedClaim) (outcome : ClaimLeaseOutcome) (claimLapses : Nat) : ClaimLeaseResult where
  outcome := outcome
  ownerId := row.ownerId
  branch := row.branch
  claimStartedAt := row.claimStartedAt
  leaseExpiresAt := row.leaseExpiresAt
  claimLapses := claimLapses
  paths := row.paths
  symbols := row.symbols

/-- A grant over a row that was there: the same owner keeps its window and its branch. -/
def regrant (row : DelegatedClaim) (owner : ClaimOwner) (branch : String) (lease : Nat) (paths symbols : List String)
    (now : Int) (claimLapses : Nat) : DelegatedClaim where
  key := row.key
  ownerId := owner.ownerId
  ownerNodeId := some owner.nodeId
  branch := if row.HeldBy owner then row.branch else branch
  claimStartedAt := if row.HeldBy owner then row.claimStartedAt else now
  leaseExpiresAt := now + lease
  claimLapses := claimLapses
  paths := paths
  symbols := symbols
  parked := row.parked

def delegate (row : DelegatedClaim) (request : ClaimLeaseRequest) (now : Int) :
    Except ClaimStoreError (DelegatedClaim × ClaimLeaseResult) := do
  let () ← (if row.parked ∨ now ≤ row.leaseExpiresAt then request.owner.verifyNode row.ownerId row.ownerNodeId else .ok ())
  let claimLapses ← row.lapses
  if row.parked then .ok (row, row.report .rejected claimLapses)
  else if ¬row.HeldBy request.owner ∧ now ≤ row.leaseExpiresAt then .ok (row, row.report .rejected claimLapses)
  else
    let nextLapses := claimLapses + if row.leaseExpiresAt < now then 1 else 0
    let granted := row.regrant request.owner request.branch request.lease request.paths request.symbols now nextLapses
    .ok (granted, granted.report .granted nextLapses)

def recover (row : DelegatedClaim) (request : ClaimRecoverRequest) (now : Int) :
    Except ClaimStoreError (DelegatedClaim × ClaimLeaseResult) := do
  let claimLapses ← row.lapses
  if row.parked ∨ row.ownerId ≠ request.expectedOwner ∨ now ≤ row.leaseExpiresAt then
    .ok (row, row.report .rejected claimLapses)
  else
    let nextLapses := claimLapses + 1
    let granted := row.regrant request.owner request.branch request.lease request.paths request.symbols now nextLapses
    .ok (granted, granted.report .granted nextLapses)

def renew (row : DelegatedClaim) (owner : ClaimOwner) (lease : Nat) (now : Int) :
    Except ClaimStoreError (DelegatedClaim × ClaimLeaseResult) := do
  let () ← owner.verifyNode row.ownerId row.ownerNodeId
  let claimLapses ← row.lapses
  if row.ownerId ≠ owner.ownerId ∨ row.leaseExpiresAt < now then .ok (row, row.report .rejected claimLapses)
  else
    let renewed := { row with leaseExpiresAt := now + lease }
    .ok (renewed, renewed.report .granted claimLapses)

def answer (row : DelegatedClaim) (owner : ClaimOwner) (lease : Nat) (now : Int) :
    Except ClaimStoreError (DelegatedClaim × ClaimLeaseResult) := do
  let () ← owner.verifyNode row.ownerId row.ownerNodeId
  let claimLapses ← row.lapses
  if row.ownerId ≠ owner.ownerId ∨ ¬row.parked then .ok (row, row.report .rejected claimLapses)
  else
    let answered := { row with leaseExpiresAt := now + lease, parked := false }
    .ok (answered, answered.report .granted claimLapses)

/-- What `release`'s UPDATE writes; `none` where it selects no row. -/
def released? (row : DelegatedClaim) (owner : ClaimOwner) (now : Int) : Option DelegatedClaim :=
  if row.HeldBy owner ∧ now ≤ row.leaseExpiresAt then some { row with leaseExpiresAt := now } else none

/-- What `park`'s UPDATE writes. -/
def parked? (row : DelegatedClaim) (owner : ClaimOwner) (now : Int) : Option DelegatedClaim :=
  if row.HeldBy owner ∧ ¬row.parked then some { row with leaseExpiresAt := now, parked := true } else none

def lockAndUpdate (row : DelegatedClaim) (owner : ClaimOwner) (updated : Option DelegatedClaim) :
    Except ClaimStoreError (DelegatedClaim × Bool) := do
  let () ← owner.verifyNode row.ownerId row.ownerNodeId
  .ok (updated.getD row, updated.isSome)

def release (row : DelegatedClaim) (owner : ClaimOwner) (now : Int) : Except ClaimStoreError (DelegatedClaim × Bool) :=
  row.lockAndUpdate owner (row.released? owner now)

def park (row : DelegatedClaim) (owner : ClaimOwner) (now : Int) : Except ClaimStoreError (DelegatedClaim × Bool) :=
  row.lockAndUpdate owner (row.parked? owner now)

end DelegatedClaim

/-- The first grant of a task. -/
def ClaimLeaseRequest.created (request : ClaimLeaseRequest) (now : Int) : DelegatedClaim where
  key := request.key
  ownerId := request.ownerId
  ownerNodeId := some request.nodeId
  branch := request.branch
  claimStartedAt := now
  leaseExpiresAt := now + request.lease
  claimLapses := 0
  paths := request.paths
  symbols := request.symbols
  parked := false

def unclaimed (ownerId : String) (now : Int) : ClaimLeaseResult where
  outcome := .rejected
  ownerId := ownerId
  branch := ""
  claimStartedAt := now
  leaseExpiresAt := now
  claimLapses := 0
  paths := []
  symbols := []

inductive ClaimCall where
  | delegate (request : ClaimLeaseRequest)
  | release (key : ClaimKey) (owner : ClaimOwner)
  | renew (key : ClaimKey) (owner : ClaimOwner) (lease : Nat)
  | park (key : ClaimKey) (owner : ClaimOwner)
  | answer (key : ClaimKey) (owner : ClaimOwner) (lease : Nat)
  | recover (request : ClaimRecoverRequest)
  deriving DecidableEq

inductive ClaimAnswer where
  | lease (result : ClaimLeaseResult)
  | changed (done : Bool)
  deriving DecidableEq

/-- Whether the caller got what it asked for. -/
def ClaimAnswer.Done : ClaimAnswer → Prop
  | .lease result => result.outcome = .granted
  | .changed done => done = true

instance : (answer : ClaimAnswer) → Decidable answer.Done
  | .lease _ => inferInstanceAs (Decidable (_ = _))
  | .changed _ => inferInstanceAs (Decidable (_ = _))

namespace ClaimCall

def key : ClaimCall → ClaimKey
  | .delegate request => request.key
  | .recover request => request.key
  | .release key _ | .renew key _ _ | .park key _ | .answer key _ _ => key

/-- Who asks, and for whom. -/
def owner : ClaimCall → ClaimOwner
  | .delegate request => request.owner
  | .recover request => request.owner
  | .release _ owner | .renew _ owner _ | .park _ owner | .answer _ owner _ => owner

/-- The checks before any connection is taken. -/
def validate : ClaimCall → Except ClaimStoreError Unit
  | .delegate request => do
    request.owner.validate
    if request.lease = 0 then .error .invalidLease else .ok ()
  | .release _ owner | .park _ owner => owner.validate
  | .renew _ owner lease | .answer _ owner lease => do
    owner.validate
    if lease = 0 then .error .invalidLease else .ok ()
  | .recover request => do
    request.owner.validate
    if (Text.trim request.reason).isEmpty then .error .missingReason
    else if request.lease = 0 then .error .invalidLease else .ok ()

def found (call : ClaimCall) (now : Int) (row : DelegatedClaim) : Except ClaimStoreError (DelegatedClaim × ClaimAnswer) :=
  let leased : DelegatedClaim × ClaimLeaseResult → DelegatedClaim × ClaimAnswer := Prod.map id .lease
  let changed : DelegatedClaim × Bool → DelegatedClaim × ClaimAnswer := Prod.map id .changed
  match call with
  | .delegate request => (row.delegate request now).map leased
  | .release _ owner => (row.release owner now).map changed
  | .renew _ owner lease => (row.renew owner lease now).map leased
  | .park _ owner => (row.park owner now).map changed
  | .answer _ owner lease => (row.answer owner lease now).map leased
  | .recover request => (row.recover request now).map leased

def missing (call : ClaimCall) (now : Int) : Option DelegatedClaim × ClaimAnswer :=
  match call with
  | .delegate request =>
    let created := request.created now
    (some created, .lease (created.report .granted 0))
  | .release _ _ | .park _ _ => (none, .changed false)
  | .renew _ owner _ | .answer _ owner _ => (none, .lease (unclaimed owner.ownerId now))
  | .recover request => (none, .lease (unclaimed request.expectedOwner now))

/-- What the UPDATE behind a lock that found no row writes over one that is there by then. -/
def late (call : ClaimCall) (now : Int) (row : DelegatedClaim) : Option DelegatedClaim :=
  match call with
  | .release _ owner => row.released? owner now
  | .park _ owner => row.parked? owner now
  | _ => none

end ClaimCall

abbrev DelegatedClaims := Table DelegatedClaim

def DelegatedClaims.call (claims : DelegatedClaims) (call : ClaimCall) (now : Int) :
    Except ClaimStoreError ClaimAnswer × DelegatedClaims :=
  match call.validate with
  | .error error => (.error error, claims)
  | .ok () =>
    match claims.find? call.key with
    | none =>
      let (created, answer) := call.missing now
      (.ok answer, (created.map claims.put).getD claims)
    | some row =>
      match call.found now row with
      | .error error => (.error error, claims)
      | .ok (after, answer) => (.ok answer, claims.put after)

inductive ClaimEnd where
  | answered (answer : Except ClaimStoreError ClaimAnswer)
  /-- The pool, a statement or the connection failed, and everything was rolled back. -/
  | failed
  /-- It was committed, but the answer was lost. -/
  | unanswered
  deriving DecidableEq

inductive ClaimPhase where
  | idle
  | begun (call : ClaimCall) (now : Int)
  /-- There was no row to lock. -/
  | missed (call : ClaimCall) (now : Int)
  /-- The row is read, and locked. -/
  | locked (call : ClaimCall) (now : Int) (row : DelegatedClaim)
  /-- The task's first row is inserted, and to be committed. -/
  | inserted (request : ClaimLeaseRequest) (now : Int)
  | finished (call : ClaimCall) (now : Int) (ending : ClaimEnd)
  deriving DecidableEq

namespace ClaimPhase

def holding : ClaimPhase → Option ClaimKey
  | .locked call _ _ => some call.key
  | .inserted request _ => some request.key
  | _ => none

def call? : ClaimPhase → Option (ClaimCall × Int)
  | .begun call now | .missed call now | .locked call now _ => some (call, now)
  | .inserted request now => some (.delegate request, now)
  | .idle | .finished _ _ _ => none

end ClaimPhase

structure Delegations (τ : Type) where
  claims : DelegatedClaims
  /-- Who has a task's row locked, or under way. -/
  locks : ClaimKey → Option τ
  phase : τ → ClaimPhase

inductive DelegationOp (τ : Type) where
  | start (transaction : τ) (call : ClaimCall) (now : Int)
  /-- The transaction's next statement; the last one with its commit. -/
  | step (transaction : τ)
  | fail (transaction : τ)
  /-- The next statement where it is the last, and nobody hears of its commit. -/
  | commitUnheard (transaction : τ)

namespace Delegations
variable {τ : Type} [DecidableEq τ]

def moveTo (s : Delegations τ) (transaction : τ) (phase : ClaimPhase) : Delegations τ :=
  { s with phase := Function.update s.phase transaction phase }

def finish (s : Delegations τ) (transaction : τ) (call : ClaimCall) (now : Int) (ending : ClaimEnd) : Delegations τ :=
  { s.moveTo transaction (.finished call now ending) with
    locks := if (s.phase transaction).holding.isSome then Function.update s.locks call.key none else s.locks }

def write (s : Delegations τ) (row : DelegatedClaim) : Delegations τ := { s with claims := s.claims.put row }

def commit (s : Delegations τ) (transaction : τ) (ending : Except ClaimStoreError ClaimAnswer → ClaimEnd) : Delegations τ :=
  match s.phase transaction with
  | .locked call now row =>
    match call.found now row with
    | .error error => s.finish transaction call now (.answered (.error error))
    | .ok (after, answer) => (s.write after).finish transaction call now (ending (.ok answer))
  | .inserted request now =>
    let created := request.created now
    (s.write created).finish transaction (.delegate request) now (ending (.ok (.lease (created.report .granted 0))))
  | _ => s

def proceed (s : Delegations τ) (transaction : τ) (call : ClaimCall) (now : Int)
    (ending : Except ClaimStoreError ClaimAnswer → ClaimEnd) : Delegations τ :=
  match call with
  | .delegate request =>
    match s.claims.find? request.key with
    -- The INSERT met a committed row and did nothing: the second pass.
    | some _ => s.moveTo transaction (.begun call now)
    | none =>
      match s.locks request.key with
      -- Another transaction has the task's first row under way: the INSERT waits for its end.
      | some _ => s
      | none =>
        { s.moveTo transaction (.inserted request now) with
          locks := Function.update s.locks request.key (some transaction) }
  | .release _ _ | .park _ _ =>
    match (s.claims.find? call.key).bind (call.late now) with
    | none => s.finish transaction call now (ending (.ok (.changed false)))
    | some after =>
      match s.locks call.key with
      | some _ => s
      | none => (s.write after).finish transaction call now (ending (.ok (.changed true)))
  | .renew _ _ _ | .answer _ _ _ | .recover _ => s

def look (s : Delegations τ) (transaction : τ) (call : ClaimCall) (now : Int) : Delegations τ :=
  match call.validate with
  | .error error => s.finish transaction call now (.answered (.error error))
  | .ok () =>
    match s.claims.find? call.key with
    | none =>
      match call with
      | .delegate _ | .release _ _ | .park _ _ => s.moveTo transaction (.missed call now)
      | _ => s.finish transaction call now (.answered (.ok (call.missing now).2))
    | some row =>
      match s.locks call.key with
      -- Another transaction has the row: this one waits, and reads what it leaves.
      | some _ => s
      | none =>
        { s.moveTo transaction (.locked call now row) with
          locks := Function.update s.locks call.key (some transaction) }

def step (s : Delegations τ) (transaction : τ) : Delegations τ :=
  match s.phase transaction with
  | .idle | .finished _ _ _ => s
  | .begun call now => s.look transaction call now
  | .missed call now => s.proceed transaction call now .answered
  | .locked _ _ _ | .inserted _ _ => s.commit transaction .answered

def apply (s : Delegations τ) : DelegationOp τ → Delegations τ
  | .start transaction call now =>
    match s.phase transaction with
    | .idle => s.moveTo transaction (.begun call now)
    | _ => s
  | .step transaction => s.step transaction
  | .fail transaction =>
    match (s.phase transaction).call? with
    | some (call, now) => s.finish transaction call now .failed
    | none => s
  | .commitUnheard transaction =>
    match s.phase transaction with
    | .missed call now => s.proceed transaction call now fun _ => .unanswered
    | _ => s.commit transaction fun _ => .unanswered

end Delegations

/-- Calls on any tasks, in any order of their statements. -/
def delegations (τ : Type) [DecidableEq τ] (claims : DelegatedClaims) : Machine (Delegations τ) (DelegationOp τ) where
  start := ⟨claims, fun _ => none, fun _ => .idle⟩
  enabled _ _ := True
  apply := Delegations.apply

end MindLeak.Ackplane
