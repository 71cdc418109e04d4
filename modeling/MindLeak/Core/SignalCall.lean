import MindLeak.Core.Consolidate
import MindLeak.Library.Runs

/-! Calls of any processes that consolidate signal over one store, statement by statement, between whatever
else is written to it. -/

namespace MindLeak.Core

structure ConsolidationCall where
  pid : Nat
  leaseTime : Int
  number : Nat
  deriving DecidableEq

def ConsolidationCall.owner (call : ConsolidationCall) : String :=
  toString call.pid ++ ":" ++ toString call.leaseTime ++ ":" ++ toString call.number

structure SignalConsolidationOutcome where
  intentId : String
  (candidatesConsolidated edgesRemoved nodesRemoved : Nat)
  writeOutcome : WriteOutcome

inductive CallPhase where
  | idle
  | read (candidates : List SignalCandidate)
  | leased (candidates : List SignalCandidate)
  /-- What came of it under the lease, which is not released yet. -/
  | settled (result : Result SignalConsolidationOutcome)
  | returned (answer : Result SignalConsolidationOutcome)
  /-- Its process ended. -/
  | gone

structure SignalStore where
  graph : Graph
  lease : Option MaintenanceLease
  calls : ConsolidationCall → CallPhase

def SignalStore.start : SignalStore := ⟨.empty, none, fun _ => .idle⟩

/-- One step of a call, or of anything else. -/
inductive SignalEvent where
  /-- `expiring_signal_candidates` answered. -/
  | read (call : ConsolidationCall) (answer : Result (List SignalCandidate)) (limit : Nat)
  | acquire (call : ConsolidationCall) (leaseSecs minIntervalSecs : Int)
  /-- The model answered, and what it distilled is committed. -/
  | commit (call : ConsolidationCall) (summary : Result IntentSummary) (persistenceTime now : Int)
  | release (call : ConsolidationCall) (now : Int)
  /-- `should_cancel` answered that it should. -/
  | cancel (call : ConsolidationCall)
  /-- A statement failed. -/
  | fail (call : ConsolidationCall) (error : MindLeakError)
  | crash (call : ConsolidationCall)
  /-- Another writer's transaction. -/
  | write (after : Graph)
  /-- `reset_database`. -/
  | reset

def signalCancelled : MindLeakError := .cancelled "signal consolidation cancelled"

/-- `consolidate_signal_under_lease`, from the model's answer on. -/
def consolidateUnderLease (lease : Option MaintenanceLease) (leaseOwner : String) (candidates : List SignalCandidate)
    (summary : Result IntentSummary) (persistenceTime now : Int) (g : Graph) : Result (SignalConsolidationOutcome × Graph) := do
  let summary ← summary
  let facts ← distill summary candidates persistenceTime
  let ((writeOutcome, edgesRemoved, nodesRemoved), after) ←
    commitSignalConsolidation lease leaseOwner now candidates facts.nodes facts.edges g
  .ok ({
    intentId := facts.intentId
    candidatesConsolidated := candidates.length
    edgesRemoved := edgesRemoved
    nodesRemoved := nodesRemoved
    writeOutcome := { writeOutcome with nodeIds := writeOutcome.nodeIds ++ [facts.intentId] } }, after)

/-- What a call answers with, by what came of it and by whether its lease was its own to release. -/
def settle (display : MindLeakError → String) (result : Result SignalConsolidationOutcome) (released : Bool) :
    Result SignalConsolidationOutcome :=
  match result, released with
  | .ok outcome, true => .ok outcome
  | .ok _, false => .error (.busy "signal consolidation lease expired before release")
  | .error error, true => .error error
  | .error error, false => .error (.other (display error ++ "; signal consolidation lease ownership was lost during release"))

def settleFailed (display : MindLeakError → String) (result : Result SignalConsolidationOutcome) (releaseError : MindLeakError) :
    Result SignalConsolidationOutcome :=
  match result with
  | .ok _ => .error releaseError
  | .error error => .error (.other (display error ++ "; additionally failed to release signal consolidation lease: " ++ display releaseError))

namespace SignalStore
variable (display : MindLeakError → String) (store : SignalStore)

def moveTo (call : ConsolidationCall) (phase : CallPhase) : SignalStore :=
  { store with calls := Function.update store.calls call phase }

def apply : SignalEvent → SignalStore
  | .read call answer limit =>
    match store.calls call with
    | .idle =>
      match answer with
      | .error error => store.moveTo call (.returned (.error error))
      | .ok found =>
        let candidates := found.take (max limit 1)
        if candidates = [] then
          store.moveTo call (.returned (.error (.notFound "no signal candidates are ready for consolidation")))
        else store.moveTo call (.read candidates)
    | _ => store
  | .acquire call leaseSecs minIntervalSecs =>
    match store.calls call with
    | .read candidates =>
      match tryAcquireConsolidationLease call.owner call.leaseTime leaseSecs minIntervalSecs store.lease with
      | (true, lease) => { store with lease }.moveTo call (.leased candidates)
      | (false, _) => store.moveTo call (.returned (.error (.busy "signal consolidation is running or rate-limited")))
    | _ => store
  | .commit call summary persistenceTime now =>
    match store.calls call with
    | .leased candidates =>
      match consolidateUnderLease store.lease call.owner candidates summary persistenceTime now store.graph with
      | .ok (outcome, graph) => { store with graph }.moveTo call (.settled (.ok outcome))
      | .error error => store.moveTo call (.settled (.error error))
    | _ => store
  | .release call now =>
    match store.calls call with
    | .settled result =>
      let (released, lease) := releaseConsolidationLease call.owner now store.lease
      { store with lease }.moveTo call (.returned (settle display result released))
    | _ => store
  | .cancel call =>
    match store.calls call with
    | .idle | .read _ => store.moveTo call (.returned (.error signalCancelled))
    | .leased _ => store.moveTo call (.settled (.error signalCancelled))
    | _ => store
  | .fail call error =>
    match store.calls call with
    | .idle | .read _ => store.moveTo call (.returned (.error error))
    | .leased _ => store.moveTo call (.settled (.error error))
    | .settled result => store.moveTo call (.returned (settleFailed display result error))
    | _ => store
  | .crash call =>
    match store.calls call with
    | .returned _ => store
    | _ => store.moveTo call .gone
  | .write after => { store with graph := after }
  | .reset => { store with graph := .empty, lease := none }

end SignalStore

def signalMachine (display : MindLeakError → String) : Machine SignalStore SignalEvent where
  start := .start
  enabled _ _ := True
  apply := SignalStore.apply display

structure SignalCommit where
  call : ConsolidationCall
  candidates : List SignalCandidate
  facts : ConsolidationFacts
  now : Int

def SignalEvent.committed (store : SignalStore) : SignalEvent → Option SignalCommit
  | .commit call summary persistenceTime now =>
    match store.calls call with
    | .leased candidates =>
      match summary.bind (distill · candidates persistenceTime) with
      | .ok facts =>
        if (commitSignalConsolidation store.lease call.owner now candidates facts.nodes facts.edges store.graph).toOption.isSome then
          some ⟨call, candidates, facts, now⟩
        else none
      | .error _ => none
    | _ => none
  | _ => none

def SignalEvent.elsewhere : SignalEvent → Bool
  | .write _ | .reset => true
  | _ => false

end MindLeak.Core
