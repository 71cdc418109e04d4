import Mathlib.Data.List.Dedup
import Mathlib.Data.List.Sort
import MindLeak.Core.Graph

/-! What an edge weighs: its decay with time, and the evidence in the graph that slows the decay. -/

namespace MindLeak.Core

/-- The floating-point functions that decay rests on. -/
structure FloatMath where
  (exp2 log2 ln1p : Rat → Rat)

def I64_MIN : Int := -9223372036854775808
def I64_MAX : Int := 9223372036854775807

def saturatingSub (left right : Int) : Int := max I64_MIN (min I64_MAX (left - right))

def checkedSub (left right : Int) : Option Int :=
  if I64_MIN ≤ left - right ∧ left - right ≤ I64_MAX then some (left - right) else none

def SIGNAL_MIN_COUNT : Nat := 3
def SIGNAL_MIN_SPAN_HOURS : Rat := 48
def SIGNAL_MAX_MULTIPLIER : Rat := 8

structure SignalEvidence where
  reinforcementCount : Nat
  reinforcementSpanHours : Rat
  sourceDiversity : Nat
  (consequence surprise : Bool)
  structuralInDegree : Nat
  deliberateAttention : Bool

structure DecayPolicy where
  halfLifeOverrides : List (String × Rat)
  pruneThreshold : Rat

def DecayPolicy.baseHalfLife (policy : DecayPolicy) (relation : RelationType) (stored : Rat) : Rat :=
  (policy.halfLifeOverrides.lookup relation.asStr).getD stored

/-- What a store is opened with. -/
structure GraphSettings where
  decayPolicy : DecayPolicy
  workingSetSize : Nat

structure WeightedEdge where
  (sourceId targetId : String)
  relation : RelationType
  (baseWeight effective halfLifeHours effectiveHalfLifeHours signalMultiplier : Rat)
  signalEvidence : SignalEvidence
  updatedAt : Int

structure WorkingSetItem where
  node : Node
  attention : Rat
  observationCount : Nat
  observationSpanHours : Rat
  lastObservedAt : Int
  deriving DecidableEq

def RelationType.isStructural : RelationType → Bool
  | .calls | .imports | .dependsOn | .extends | .implements => true
  | _ => false

/-- What happened, as against what is: the relations whose faded edges are offered for consolidation. -/
def RelationType.isEpisodic : RelationType → Bool
  | .failedOn | .refactored => true
  | _ => false

def RelationType.takesEvidence (relation : RelationType) : Bool :=
  relation.isEpisodic || decide (relation = .relatesTo) || relation.isStructural

section
variable (math : FloatMath)

def effectiveWeight (base halfLifeHours : Rat) (updatedAt now : Int) : Rat :=
  if halfLifeHours ≤ 0 then base
  else
    let dtHours : Rat := saturatingSub now updatedAt / 3600
    if dtHours ≤ 0 then base else base * math.exp2 (-dtHours / halfLifeHours)

def signalMultiplier (evidence : SignalEvidence) : Rat :=
  let repetition : Rat :=
    if SIGNAL_MIN_COUNT ≤ evidence.reinforcementCount ∧ SIGNAL_MIN_SPAN_HOURS ≤ evidence.reinforcementSpanHours then
      min (math.log2 evidence.reinforcementCount / 8) 1
    else 0
  let diversity : Rat := (min (evidence.sourceDiversity - 1) 3 : Nat) * (1 / 2)
  let consequence : Rat := if evidence.consequence then 5 / 2 else 0
  let surprise : Rat := if evidence.surprise then 3 / 4 else 0
  let centrality : Rat := min (math.ln1p evidence.structuralInDegree / math.ln1p 16) 1
  let attention : Rat := if evidence.deliberateAttention then 5 / 4 else 0
  min (1 + repetition + diversity + consequence + surprise + centrality + attention) SIGNAL_MAX_MULTIPLIER

/-- `weighted_edge`, once the evidence is there. -/
def EdgeRow.weigh (policy : DecayPolicy) (raw : EdgeRow) (evidence : SignalEvidence) (now : Int) : WeightedEdge :=
  let multiplier := signalMultiplier math evidence
  let baseHalfLife := policy.baseHalfLife raw.key.relation raw.halfLifeHours
  { sourceId := raw.key.sourceId
    targetId := raw.key.targetId
    relation := raw.key.relation
    baseWeight := raw.weight
    effective := effectiveWeight math raw.weight (baseHalfLife * multiplier) raw.updatedAt now
    halfLifeHours := baseHalfLife
    effectiveHalfLifeHours := baseHalfLife * multiplier
    signalMultiplier := multiplier
    signalEvidence := evidence
    updatedAt := raw.updatedAt }

def EdgeRow.ownEvidence (raw : EdgeRow) : SignalEvidence where
  reinforcementCount := raw.reinforcementCount
  reinforcementSpanHours := max (saturatingSub raw.updatedAt raw.firstSeen / 3600) 0
  sourceDiversity := 0
  consequence := false
  surprise := false
  structuralInDegree := 0
  deliberateAttention := false

end

def EdgeRow.diversitySource (row : EdgeRow) (source : Node) : Option String :=
  if row.key.relation = .refactored then some "commit"
  else if row.key.relation = .relatesTo then some "decision"
  else if source.nodeType = .execution then some "execution"
  else if row.key.relation.isStructural then some "structure"
  else none

def EdgeRow.leadsTo (row : EdgeRow) (targetId : String) (now : Int) : Bool :=
  decide (row.key.targetId = targetId ∧ row.updatedAt ≤ now)

namespace Graph
variable (g : Graph)

def sourceDiversity (targetId : String) (now : Int) : Nat :=
  ((g.edges.rows.filter (·.leadsTo targetId now)).filterMap fun row =>
    (g.nodes.find? row.key.sourceId).bind row.diversitySource).dedup.length

def structuralInDegree (targetId : String) (now : Int) : Nat :=
  (g.edges.rows.filter fun row => row.leadsTo targetId now && row.key.relation.isStructural).length

def relatedTo (targetId : String) (now : Int) : Bool :=
  g.edges.rows.any fun row => row.leadsTo targetId now && decide (row.key.relation = .relatesTo)

def succeededAfter (failedId : String) (since now : Int) : Bool :=
  (g.nodes.find? failedId).any fun failed => g.nodes.rows.any fun succeeded =>
    decide (succeeded.nodeType = .execution ∧ since < succeeded.createdAt ∧ succeeded.createdAt ≤ now ∧ succeeded.label = failed.label) &&
      succeeded.content.any (Text.likePrefix · "exit=0")

def failureResolved (raw : EdgeRow) (now : Int) : Bool :=
  g.edges.rows.any fun changed => changed.leadsTo raw.key.targetId now &&
    decide ((changed.key.relation = .modified ∨ changed.key.relation = .refactored) ∧ raw.updatedAt < changed.updatedAt) &&
      g.succeededAfter raw.key.sourceId changed.updatedAt now

def oldTarget (raw : EdgeRow) : Bool :=
  (checkedSub raw.updatedAt (7 * 24 * 3600)).any fun limit =>
    (g.nodes.find? raw.key.targetId).any fun node => decide (node.createdAt ≤ limit)

def failedBefore (raw failed : EdgeRow) : Bool :=
  decide (failed.key.targetId = raw.key.targetId ∧ failed.key.relation = .failedOn ∧ failed.updatedAt < raw.updatedAt)

def priorFailure (raw : EdgeRow) : Bool := g.edges.rows.any (failedBefore raw)

def refactorResolved (raw : EdgeRow) (now : Int) : Bool :=
  g.edges.rows.any fun failed => failedBefore raw failed && g.succeededAfter failed.key.sourceId raw.updatedAt now

section
variable (math : FloatMath) (settings : GraphSettings)

def weighObserved (raw : EdgeRow) (now : Int) : WeightedEdge := raw.weigh math settings.decayPolicy raw.ownEvidence now

def workingSet (agent : String) (limit : Nat) (now : Int) : List WorkingSetItem :=
  let agentId := if Text.startsWith agent "agent:" then agent else "agent:" ++ agent
  let items := (g.edges.rows.filter fun raw =>
      decide (raw.key.sourceId = agentId ∧ raw.key.relation = .observed ∧ raw.updatedAt ≤ now)).filterMap fun raw =>
    let edge := weighObserved math settings raw now
    if edge.effective < settings.decayPolicy.pruneThreshold then none
    else (g.nodes.find? edge.targetId).map fun node =>
      { node
        attention := edge.effective
        observationCount := raw.reinforcementCount
        observationSpanHours := edge.signalEvidence.reinforcementSpanHours
        lastObservedAt := raw.updatedAt }
  (items.insertionSort fun left right : WorkingSetItem => right.attention < left.attention ∨ left.attention = right.attention ∧
    (right.lastObservedAt < left.lastObservedAt ∨ left.lastObservedAt = right.lastObservedAt ∧ left.node.id ≤ right.node.id)).take
      (max 1 (min limit settings.workingSetSize))

def hasRehearsedAttention (targetId : String) (now : Int) : Bool :=
  g.edges.rows.any fun raw =>
    let weighted := weighObserved math settings raw now
    raw.leadsTo targetId now && decide (raw.key.relation = .observed ∧ SIGNAL_MIN_COUNT ≤ raw.reinforcementCount) &&
      decide (SIGNAL_MIN_SPAN_HOURS ≤ weighted.signalEvidence.reinforcementSpanHours ∧
        settings.decayPolicy.pruneThreshold ≤ weighted.effective) &&
      (g.workingSet math settings raw.key.sourceId settings.workingSetSize now).any fun item => decide (item.node.id = targetId)

end
end Graph

section
variable {m : Type → Type} [Monad m] (query : {β : Type} → (Graph → β) → m β) (math : FloatMath) (settings : GraphSettings)

def deliberateAttention (raw : EdgeRow) (now : Int) : m Bool :=
  if raw.key.relation = .relatesTo then pure true
  else do
    let related ← query (·.relatedTo raw.key.targetId now)
    if related then pure true else query (·.hasRehearsedAttention math settings raw.key.targetId now)

def withConsequence (raw : EdgeRow) (now : Int) (evidence : SignalEvidence) : m SignalEvidence :=
  match raw.key.relation with
  | .failedOn => do
    let consequence ← query (·.failureResolved raw now)
    let oldTarget ← query (·.oldTarget raw)
    let priorFailure ← query (·.priorFailure raw)
    pure { evidence with consequence, surprise := oldTarget && !priorFailure }
  | .refactored => do
    let consequence ← query (·.refactorResolved raw now)
    pure { evidence with consequence }
  | _ => pure evidence

def signalEvidenceFor (raw : EdgeRow) (now : Int) : m SignalEvidence :=
  if raw.key.relation.takesEvidence then do
    let sourceDiversity ← query (·.sourceDiversity raw.key.targetId now)
    let structuralInDegree ← query (·.structuralInDegree raw.key.targetId now)
    let attention ← deliberateAttention query math settings raw now
    withConsequence query raw now
      { raw.ownEvidence with sourceDiversity, structuralInDegree, deliberateAttention := attention }
  else pure raw.ownEvidence

def weightedEdge (raw : EdgeRow) (now : Int) : m WeightedEdge := do
  let evidence ← signalEvidenceFor query math settings raw now
  pure (raw.weigh math settings.decayPolicy evidence now)

end
end MindLeak.Core
