import MindLeak.Lodestar.Local

/-! Who waits on whom, read off the dialogue: open questions, the waits and rings
they make, and the report of every task that is not moving. -/

namespace MindLeak.Lodestar

def withLater {α : Type} : List α → List (α × List α)
  | [] => []
  | row :: later => (row, later) :: withLater later

def isOpen (question : TaskQa) (later : List TaskQa) : Bool :=
  decide (question.kind = .question) &&
    later.all fun reply => decide (reply.taskId ≠ question.taskId) || decide (reply.kind ≠ .answer)

/-- One agent parked waiting on an answer from another. -/
structure Wait where
  (taskId waiter waitedOn : String)
  askedAt : Int
  deriving DecidableEq

namespace Store

def openQuestions (s : Store) : List TaskQa :=
  ((withLater s.taskQa).filter fun (question, later) => isOpen question later).map Prod.fst

def pendingQuestions (s : Store) (agent : String) : List TaskQa :=
  s.openQuestions.filter fun question => decide (question.audience = some agent)

def isParked (s : Store) (id : String) : Bool := (s.getTask id).any fun task => decide (task.status = .needsInput)

structure HumanQuestion where
  (taskId taskTitle askedBy question : String)
  (askedAt waitingSeconds : Int)
  deriving DecidableEq

def questionsForAHuman (s : Store) (now : Int) : List HumanQuestion :=
  s.openQuestions.filterMap fun question =>
    match question.audience, (s.getTask question.taskId).filter fun task => decide (task.status = .needsInput) with
    | none, some task =>
      some ⟨question.taskId, task.title, question.author, question.body, question.createdAt,
        max (now - question.createdAt) 0⟩
    | _, _ => none

def waitOf (s : Store) (question : TaskQa) (later : List TaskQa) : Option Wait :=
  if isOpen question later && s.isParked question.taskId then
    question.audience.map fun audience => ⟨question.taskId, question.author, audience, question.createdAt⟩
  else none

/-- Every agent waiting on an answer from another, oldest question first. -/
def waits (s : Store) : List Wait := (withLater s.taskQa).filterMap fun (question, later) => s.waitOf question later

end Store

structure WaitCycle where
  (agents taskIds : List String)
  deriving DecidableEq

def waitedOnBy (waits : List Wait) (agent : String) : List String :=
  sortDedup ((waits.filter fun wait => decide (wait.waiter = agent)).map Wait.waitedOn)

def reach (waits : List Wait) : Nat → List String → List String → List String
  | 0, _, seen => seen
  | _, [], seen => seen
  | fuel + 1, agent :: frontier, seen =>
    let fresh := (waitedOnBy waits agent).filter fun next => decide (next ∉ seen)
    reach waits fuel (fresh.reverse ++ frontier) (seen ++ fresh)

def reachableFrom (waits : List Wait) (start : String) : List String := reach waits (waits.length + 1) [start] []

def waitCycles (waits : List Wait) : List WaitCycle :=
  let agents := sortDedup (waits.flatMap fun wait => [wait.waiter, wait.waitedOn])
  (agents.foldl (fun (found : List WaitCycle × List String) agent =>
    if agent ∈ found.2 then found
    else
      let mutuals := (sortDedup (reachableFrom waits agent)).filter fun other => decide (agent ∈ reachableFrom waits other)
      if mutuals.length < 2 then found
      else
        let tasks := waits.filter fun wait => decide (wait.waiter ∈ mutuals ∧ wait.waitedOn ∈ mutuals)
        (found.1 ++ [⟨mutuals, sortDedup (tasks.map Wait.taskId)⟩], found.2 ++ mutuals)) ([], [])).1

inductive StallKind where
  | lapsedLease | awaitingHuman | awaitingAgent | deadlocked | blockedByUnfinished | blockedByMissingTask | paused
  deriving DecidableEq

structure Stall where
  (taskId title : String)
  kind : StallKind
  (since stalledSeconds : Int)
  detail : String
  deriving DecidableEq

def agentCanAdvance : TaskStatus → Bool
  | .open | .claimed => true
  | .inReview | .needsInput | .paused | .done | .blocked | .abandoned => false

def awaitingDetail (waitedOn : String) : String := s!"parked awaiting an answer from {waitedOn}"

def deadlockedDetail (waitedOn : String) : String :=
  s!"parked on {waitedOn}, who is waiting on this agent in turn; only an answer from outside breaks it"

def parkedStall (waits : List Wait) (deadlocked : List String) (task : Task) : StallKind × Int × String :=
  let since := task.parkedAt.getD task.updatedAt
  match waits.find? fun wait => decide (wait.taskId = task.id) with
  | some wait =>
    if task.id ∈ deadlocked then (.deadlocked, since, deadlockedDetail wait.waitedOn)
    else (.awaitingAgent, since, awaitingDetail wait.waitedOn)
  | none => (.awaitingHuman, since, "parked awaiting an answer from a human")

def stallFact (tasks : List Task) (waits : List Wait) (deadlocked : List String) (now : Int) (task : Task) :
    Option (StallKind × Int × String) :=
  match task.status with
  | .claimed =>
    match task.leaseExpiresAt.filter fun expires => decide (expires < now) with
    | some expires =>
      let owner := task.owner.getD "unknown"
      some (.lapsedLease, expires, s!"lease expired; owner {owner}")
    | none => none
  | .inReview => some (.awaitingHuman, task.updatedAt, "completed with a verdict that needs a human decision")
  | .needsInput => some (parkedStall waits deadlocked task)
  | .paused =>
    let owner := task.owner.getD "its owner"
    some (.paused, task.parkedAt.getD task.updatedAt, s!"deliberately suspended by {owner}")
  | .blocked =>
    match task.blockedBy with
    | none => none
    | some blockerId =>
      match tasks.find? fun other => decide (other.id = blockerId) with
      | none => some (.blockedByMissingTask, task.updatedAt, s!"blocked by {blockerId}, which is not on the board")
      -- Blocked behind live work is waiting, not stalling.
      | some blocker =>
        let status := blocker.status.asStr
        if agentCanAdvance blocker.status then none
        else some (.blockedByUnfinished, task.updatedAt,
          s!"blocked by {blockerId}, which is '{status}' — no agent will advance it")
  | .open | .done | .abandoned => none

def stallOf (tasks : List Task) (waits : List Wait) (deadlocked : List String) (now : Int) (task : Task) : Option Stall :=
  (stallFact tasks waits deadlocked now task).map fun (kind, since, detail) =>
    ⟨task.id, task.title, kind, since, max (now - since) 0, detail⟩

def stalls (tasks : List Task) (waits : List Wait) (now : Int) : List Stall :=
  let deadlocked := (waitCycles waits).flatMap WaitCycle.taskIds
  (tasks.filterMap (stallOf tasks waits deadlocked now)).insertionSort fun left right =>
    right.stalledSeconds < left.stalledSeconds ∨ (left.stalledSeconds = right.stalledSeconds ∧ left.taskId ≤ right.taskId)

/-- Unblocked and free to take: open, out of lease, or parked past its grace. -/
def offered (now : Int) (task : Task) : Bool :=
  task.blockedBy.isNone &&
    (decide (task.status = .open) || (decide (task.status = .claimed) && lapsed now task) ||
      ((decide (task.status = .needsInput) || decide (task.status = .paused)) &&
        task.parkedAt.any fun parked => decide (parked < now - PARKING_GRACE_SECS)))

namespace Store

def nextTask (s : Store) (now : Int) : Option Task :=
  ((s.tasks.rows.filter (offered now)).insertionSort fun left right => left.createdAt ≤ right.createdAt).head?

def board (s : Store) (includeTerminal : Bool) : List Task :=
  (s.tasks.rows.filter fun task => includeTerminal || !task.status.isFinished).insertionSort
    fun left right => left.createdAt ≤ right.createdAt

/-- Terminal work is scanned too: a block behind it is stale. -/
def stalledWork (s : Store) (now : Int) : List Stall := stalls (s.board true) s.waits now

end Store

/-- Two agents asking each other are stuck, and a third who waits on them is not. -/
example : waitCycles [⟨"a", "ann", "bob", 1⟩, ⟨"b", "bob", "ann", 2⟩, ⟨"c", "eve", "ann", 3⟩] =
    [⟨["ann", "bob"], ["a", "b"]⟩] := by
  decide +kernel

end MindLeak.Lodestar
