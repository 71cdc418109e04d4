import MindLeak.Core.Consolidate
import MindLeak.Core.Signal
import MindLeak.Library.Selection

/-! One bounded packet of context for an agent, compiled from what the engine already answers. -/

namespace MindLeak.Core

structure ScoredNode where
  node : Node
  depth : Nat
  score : Rat
  deriving DecidableEq

structure ExcludedCandidate where
  id : String
  rank : Rat

structure BudgetReport where
  (tokensRequested tokensUsed : Nat)
  excluded : List ExcludedCandidate

/-- What the packet is compiled from. -/
structure ContextParts where
  facts : List ScoredNode
  workingSet : List WorkingSetItem
  evidence : Option ConformanceEvidence
  deriving DecidableEq

structure CompiledContext (ν : Type) extends ContextParts where
  governing : ν
  budgetReport : BudgetReport

/-- How many bytes each value is as JSON, if it can be written as such. -/
structure Serialized (ν : Type) where
  fact : ScoredNode → Option Nat
  working : WorkingSetItem → Option Nat
  evidence : ConformanceEvidence → Option Nat
  governing : ν → Option Nat

def estimateTokens (bytes : Option Nat) : Nat := bytes.elim 0 (· / 4)

inductive Source where
  | fact
  | working
  deriving DecidableEq

structure Candidate where
  id : String
  rank : Rat
  estimatedTokens : Nat
  source : Source
  index : Nat

def rankForContext (candidates : List Candidate) : List Candidate :=
  candidates.insertionSort fun a b => b.rank < a.rank ∨ a.rank = b.rank ∧ a.id ≤ b.id

structure Packing where
  (keptFactIndices keptWorkingIndices : List Nat)
  excluded : List ExcludedCandidate
  tokensUsed : Nat

def Packing.place (maxTokens : Nat) (packing : Packing) (candidate : Candidate) : Packing :=
  let wouldUse := packing.tokensUsed + candidate.estimatedTokens
  if wouldUse ≤ maxTokens then
    match candidate.source with
    | .fact => { packing with tokensUsed := wouldUse, keptFactIndices := packing.keptFactIndices ++ [candidate.index] }
    | .working => { packing with tokensUsed := wouldUse, keptWorkingIndices := packing.keptWorkingIndices ++ [candidate.index] }
  else { packing with excluded := packing.excluded ++ [⟨candidate.id, candidate.rank⟩] }

section
variable {ν : Type} (sizes : Serialized ν)

def ContextParts.candidates (parts : ContextParts) : List Candidate :=
  parts.facts.mapIdx (fun index f => ⟨f.node.id, f.score, estimateTokens (sizes.fact f), .fact, index⟩) ++
    parts.workingSet.mapIdx fun index w => ⟨w.node.id, w.attention, estimateTokens (sizes.working w), .working, index⟩

/-- What the parts that are never candidates cost. -/
def ContextParts.fixedTokens (parts : ContextParts) (governing : ν) : Nat :=
  estimateTokens (sizes.governing governing) + parts.evidence.elim 0 fun ev => estimateTokens (sizes.evidence ev)

def ContextParts.compile (parts : ContextParts) (maxTokens : Nat) (governing : ν) : CompiledContext ν :=
  let packing := (rankForContext (parts.candidates sizes)).foldl (Packing.place maxTokens) ⟨[], [], [], 0⟩
  { facts := packing.keptFactIndices.filterMap (parts.facts[·]?)
    workingSet := packing.keptWorkingIndices.filterMap (parts.workingSet[·]?)
    governing
    evidence := parts.evidence
    budgetReport := ⟨maxTokens, packing.tokensUsed + parts.fixedTokens sizes governing, packing.excluded⟩ }

variable (recalled : String → Nat → Result (List ScoredNode)) (math : FloatMath) (settings : GraphSettings) (g : Graph) (now : Int)

def workingSetFor (agent : String) (requestedLimit : Option Nat) : Result (List WorkingSetItem) :=
  if Text.isBlank agent then .error (.other "working_set requires a session agent")
  else .ok (g.workingSet math settings agent (max 1 (min (requestedLimit.getD settings.workingSetSize) settings.workingSetSize)) now)

def contextParts (agent : String) (query : Option String) (recallLimit : Nat) (workingSetLimit : Option Nat)
    (evidenceWindow : Option (Option String × Int × Int)) : Result ContextParts := do
  let facts ← match query with
    | some q => if Text.isBlank q then .ok [] else recalled q recallLimit
    | none => .ok []
  let workingSet ← workingSetFor math settings g now agent workingSetLimit
  let evidence ← match evidenceWindow with
    | some (taskId, startedAt, endedAt) => (g.evidenceFor taskId agent startedAt endedAt).map some
    | none => .ok none
  .ok { facts, workingSet, evidence }

def compileContext (agent : String) (query : Option String) (recallLimit : Nat) (workingSetLimit : Option Nat) (maxTokens : Nat)
    (evidenceWindow : Option (Option String × Int × Int)) (governing : ν) : Result (CompiledContext ν) := do
  let parts ← contextParts recalled math settings g now agent query recallLimit workingSetLimit evidenceWindow
  .ok (parts.compile sizes maxTokens governing)

end

end MindLeak.Core
