import MindLeak.Proofs.Gathering
import MindLeak.Proofs.Writes

/-! What an agent's evidence lists is what the agent ingested, as long as no agent boosts an event of another. -/

namespace MindLeak.Core

open List Option Text

section

structure KindOfId (id : String) (type : NodeType) : Prop where
  execution : type = .execution ↔ Text.startsWith id "execution:" = true
  intent : type = .intent ↔ Text.startsWith id "intent:" = true

theorem kindOfId_other {lead : String} {type : NodeType} (rest : String) (plain : type ≠ .execution ∧ type ≠ .intent)
    (apart : ∀ other ∈ ["execution:", "intent:"], (lead.toList.zip other.toList).any (fun pair => decide (pair.1 ≠ pair.2)) = true) :
    KindOfId (lead ++ rest) type := by
  constructor
  · rw [startsWith_apart rest (apart _ (.head _))]
    exact ⟨fun same => absurd same plain.1, nofun⟩
  · rw [startsWith_apart rest (apart _ (.tail _ (.head _)))]
    exact ⟨fun same => absurd same plain.2, nofun⟩

theorem kindOfId_execution (rest : String) : KindOfId ("execution:" ++ rest) .execution :=
  ⟨⟨fun _ => startsWith_append _ _, fun _ => rfl⟩, ⟨nofun, by rw [startsWith_apart rest (by decide)]; exact nofun⟩⟩

theorem kindOfId_intent (rest : String) : KindOfId ("intent:" ++ rest) .intent :=
  ⟨⟨nofun, by rw [startsWith_apart rest (by decide)]; exact nofun⟩, ⟨fun _ => startsWith_append _ _, fun _ => rfl⟩⟩

theorem kindOfId_structure : NamesStructure KindOfId :=
  ⟨fun rest => kindOfId_other rest (by decide) (by decide), fun rest => kindOfId_other rest (by decide) (by decide)⟩

theorem kindOfId_agent (name : String) : KindOfId ("agent:" ++ name) .agent := kindOfId_other name (by decide) (by decide)

theorem kindOfId_artifact (path : String) : KindOfId (artifactId path) .artifact := kindOfId_other path (by decide) (by decide)

structure SourceFits (key : EdgeKey) : Prop where
  execution : key.relation = .modified ∨ key.relation = .failedOn → Text.startsWith key.sourceId "execution:" = true
  intent : key.relation = .refactored → Text.startsWith key.sourceId "intent:" = true

theorem sourceFits_structural {key : EdgeKey} (structural : key.relation.structural = true) : SourceFits key := by
  constructor
  · rintro (same | same) <;> exact absurd structural (by rw [same]; decide)
  · exact fun same => absurd structural (by rw [same]; decide)

theorem summary_kinds {edge : EdgeKey → Prop} (facts : ∀ key, key.relation ≠ .observed → SourceFits key → edge key)
    {summary : IntentSummary} {count : Nat} {now : Int} {made : ConsolidationFacts}
    (same : factsFromSummary summary count now = .ok made) :
    (∀ item ∈ made.nodes, KindOfId item.id item.nodeType) ∧ ∀ item ∈ made.edges, edge item.key := by
  obtain ⟨key, intent, -, id, type, -, nodes, edges⟩ := factsFromSummary_ok same
  rw [nodes, edges]
  refine ⟨fun item inside => ?_, fun item inside => ?_⟩
  · rcases mem_cons.mp inside with rfl | artifact
    · rw [id, type]
      exact kindOfId_intent key
    · obtain ⟨file, -, rfl⟩ := mem_map.mp artifact
      exact kindOfId_artifact file.path
  · obtain ⟨file, -, rfl⟩ := mem_map.mp inside
    have relation : (Edge.new (intentId key) (artifactId file.path) (consolidationRelation file.relation) now).key.relation =
      consolidationRelation file.relation := rfl
    refine facts _ ?_ ⟨?_, fun _ => startsWith_append _ _⟩ <;> rw [relation] <;>
      rcases consolidationRelation_cases file.relation with same | same | same <;> rw [same]
    all_goals exact nofun

theorem brings_kinds {scanners : Scanners} {g : Graph} {edge : EdgeKey → Prop} (step : Step)
    (facts : ∀ key, key.relation ≠ .observed → SourceFits key → edge key)
    (observed : ∀ agent, step.agent = some agent → agentName agent ≠ "" → ∀ id ∈ step.observes g,
      edge ⟨agentNodeId agent, id, .observed⟩) : step.Brings scanners g edge KindOfId where
  execution agent rec asked := by
    refine ⟨kindOfId_execution _, fun path _ => ⟨kindOfId_artifact path, ?_⟩, fun path _ => ⟨kindOfId_artifact path, ?_⟩⟩ <;>
      exact facts _ nofun ⟨fun _ => startsWith_append _ _, nofun⟩
  commit agent rec key asked keyed :=
    ⟨kindOfId_intent key, fun path _ => ⟨kindOfId_artifact path, facts _ nofun ⟨nofun, fun _ => startsWith_append _ _⟩⟩⟩
  file agent path content asked _ _ :=
    ⟨kindOfId_artifact _, fun _ _ _ _ _ _ => kindOfId_artifact _, fun _ _ => kindOfId_artifact _,
      fun _ _ _ _ _ _ => kindOfId_artifact _⟩
  invocation agent rec asked := kindOfId_other _ (by decide) (by decide)
  observed := observed
  repair agent sha reason root readCommit detailBytes asked verified read path _ :=
    ⟨kindOfId_artifact path, fun key => facts _ nofun ⟨nofun, fun _ => startsWith_append _ _⟩⟩
  session summary logs made asked same := summary_kinds facts same
  signal lease leaseOwner candidates summary made asked same := by
    obtain ⟨plain, same, -, nodes, edges⟩ := distill_ok same
    obtain ⟨fine, keys⟩ := summary_kinds facts same
    rw [nodes, edges]
    refine ⟨fine, fun item inside => ?_⟩
    rcases mem_append.mp inside with mine | link
    · exact keys item mine
    · obtain ⟨target, -, rfl⟩ := mem_map.mp link
      exact facts _ nofun ⟨nofun, nofun⟩

theorem reached_kinds (scanners : Scanners) (run : List Step) : (reached scanners run).Holds SourceFits KindOfId := by
  induction run using List.reverseRecOn with
  | nil => exact Graph.holds_empty
  | append_singleton run step ih =>
    rw [reached_append]
    refine Step.holds_after (brings_kinds step (fun _ _ fits => fits) fun _ _ _ _ _ => ⟨nofun, nofun⟩) ih kindOfId_structure
      kindOfId_agent fun key => sourceFits_structural

end

section
variable {scanners : Scanners}

def IngestedBy (scanners : Scanners) (run : List Step) (name id : String) : Prop :=
  ∃ earlier step later, run = earlier ++ step :: later ∧ step.agent.map agentName = some name ∧
    step.ingested (reached scanners earlier) = some id

theorem IngestedBy.append {run : List Step} {name id : String} (ingested : IngestedBy scanners run name id) (step : Step) :
    IngestedBy scanners (run ++ [step]) name id := by
  obtain ⟨earlier, ingest, later, rfl, rest⟩ := ingested
  exact ⟨earlier, ingest, later ++ [step], by rw [append_assoc, cons_append], rest⟩

def Step.KeepsToOwn (step : Step) (g : Graph) : Prop :=
  ∀ agent id, step.operation = .boost (some agent) id → agentName agent ≠ "" →
    ∀ node ∈ g.nodes.rows, node.id = id → node.nodeType = .execution ∨ node.nodeType = .intent →
      (g.edges.find? ⟨agentNodeId agent, id, .observed⟩).isSome = true

def OwnWork (scanners : Scanners) (run : List Step) (key : EdgeKey) : Prop :=
  key.relation = .observed → ∃ name, key.sourceId = "agent:" ++ name ∧
    (Text.startsWith key.targetId "execution:" = true ∨ Text.startsWith key.targetId "intent:" = true →
      IngestedBy scanners run name key.targetId)

theorem agentNode_inj {name other : String} (same : "agent:" ++ name = "agent:" ++ other) : name = other := by
  have lists := congrArg String.toList same
  rw [String.toList_append, String.toList_append] at lists
  exact String.toList_inj.mp (append_cancel_left lists)

theorem observes_own {run : List Step} {step : Step} {agent : String} (asked : step.agent = some agent)
    (named : agentName agent ≠ "") (kept : step.KeepsToOwn (reached scanners run))
    (holds : (reached scanners run).Holds (OwnWork scanners run) KindOfId) :
    ∀ id ∈ step.observes (reached scanners run), OwnWork scanners (run ++ [step]) ⟨agentNodeId agent, id, .observed⟩ := by
  intro id member _
  refine ⟨agentName agent, rfl, fun event => ?_⟩
  have mine (ingested : step.ingested (reached scanners run) = some id) : IngestedBy scanners (run ++ [step]) (agentName agent) id :=
    ⟨run, step, [], rfl, by rw [asked]; rfl, ingested⟩
  unfold Step.observes at member
  cases operation : step.operation with
  | ingestExecution | ingestCommit =>
    rw [operation] at member
    exact mine (mem_toList.mp member)
  | ingestFile agent' path content =>
    rw [operation] at member
    cases mem_singleton.mp member
    unfold artifactId at event
    rw [startsWith_apart _ (by decide), startsWith_apart _ (by decide)] at event
    exact absurd event (by decide)
  | ingestToolInvocation agent' rec =>
    rw [operation] at member
    cases mem_singleton.mp member
    unfold ToolInvocationRecord.id at event
    rw [startsWith_apart _ (by decide), startsWith_apart _ (by decide)] at event
    exact absurd event (by decide)
  | boost agent' id' =>
    rw [operation] at member
    dsimp only at member
    split at member
    on_goal 2 => cases member
    rename_i there
    cases mem_singleton.mp member
    have same : agent' = some agent := by
      unfold Step.agent at asked
      rwa [operation] at asked
    subst same
    obtain ⟨node, found⟩ := isSome_iff_exists.mp there
    obtain ⟨inside, rfl⟩ := Table.mem_of_find? found
    have kind := holds.nodes node inside
    have listed := kept agent _ operation named node inside rfl (event.imp kind.execution.mpr kind.intent.mpr)
    -- Attributed already, so the invariant knows who ingested it.
    obtain ⟨row, attributed⟩ := isSome_iff_exists.mp listed
    obtain ⟨member', key⟩ := Table.mem_of_find? attributed
    have own := holds.edges row member'
    rw [show row.key = _ from key] at own
    obtain ⟨name, source, ingested⟩ := own rfl
    cases agentNode_inj source
    exact (ingested event).append step
  | repairCommit | consolidateSession | commitSignal => rw [operation] at member; cases member

theorem reached_own (run : List Step)
    (kept : ∀ earlier step later, run = earlier ++ step :: later → step.KeepsToOwn (reached scanners earlier)) :
    (reached scanners run).Holds (OwnWork scanners run) KindOfId := by
  induction run using List.reverseRecOn with
  | nil => exact Graph.holds_empty
  | append_singleton run step ih =>
    have before := ih fun earlier other later same =>
      kept earlier other (later ++ [step]) (by rw [same, append_assoc, cons_append])
    have grown : (reached scanners run).Holds (OwnWork scanners (run ++ [step])) KindOfId :=
      before.mono (fun key own observed => (own observed).imp fun name => And.imp_right fun ingested event =>
        (ingested event).append step) fun _ _ kind => kind
    rw [reached_append]
    refine Step.holds_after (brings_kinds step (fun _ other _ observed => absurd observed other) ?_) grown kindOfId_structure
      kindOfId_agent fun key structural observed => ?_
    · exact fun agent asked named => observes_own asked named (kept run step [] rfl) before
    · rw [observed] at structural
      cases structural

/-- In every run in which agents boost no event of another, whatever an agent's evidence lists, that agent ingested. -/
theorem evidence_is_own_work (scanners : Scanners) (run : List Step)
    (kept : ∀ earlier step later, run = earlier ++ step :: later → step.KeepsToOwn (reached scanners earlier))
    (taskId : Option String) (agent : String) (startedAt endedAt : Int) (evidence : ConformanceEvidence)
    (asked : (reached scanners run).evidenceFor taskId agent startedAt endedAt = .ok evidence) :
    ∀ id ∈ evidence.executionIds ++ evidence.commitIds, IngestedBy scanners run (agentName agent) id := by
  intro id listed
  obtain ⟨event, inside, rfl⟩ := Graph.listed_event asked listed
  obtain ⟨member, attributed, type⟩ := Graph.mem_attributedEvents inside
  have holds := reached_own run kept
  obtain ⟨row, found⟩ := isSome_iff_exists.mp attributed
  obtain ⟨edge, key⟩ := Table.mem_of_find? found
  have own := holds.edges row edge
  rw [show row.key = _ from key] at own
  obtain ⟨name, source, ingested⟩ := own rfl
  cases agentNode_inj source
  have kind := holds.nodes event member
  exact ingested (type.imp kind.execution.mp kind.intent.mp)

def blankScanners : Scanners where
  ast _ _ := ⟨[], [], []⟩
  javascriptImports _ := []
  javascriptHierarchy _ := []
  rustModules _ := []
  rustUses _ := []
  cargoCrate _ := .ok none
  cargoDependencies _ := .ok []
  listedDependencies _ _ := .ok []

def quietSensors : Sensors := ⟨fun _ => [], fun _ => [], fun _ => false, id, none⟩

def passedTests : ExecutionRecord := ⟨"cargo test", 0, "ok", none, [], 5⟩

def ingestsTests (agent : String) : Step := ⟨10, ⟨[], none⟩, quietSensors, .ingestExecution (some agent) passedTests⟩

def boostsTests (agent : String) : Step := ⟨11, ⟨[], none⟩, quietSensors, .boost (some agent) passedTests.id⟩

theorem own_tests_are_own_work :
    ∃ evidence, (reached blankScanners [ingestsTests "a", boostsTests "a"]).evidenceFor none "a" 0 100 = .ok evidence ∧
      passedTests.id ∈ evidence.executionIds ∧ ∀ id ∈ evidence.executionIds ++ evidence.commitIds,
        IngestedBy blankScanners [ingestsTests "a", boostsTests "a"] (agentName "a") id := by
  have seen : ((reached blankScanners [ingestsTests "a"]).edges.find? ⟨agentNodeId "a", passedTests.id, .observed⟩).isSome = true := by
    decide +kernel
  have listed : ((reached blankScanners [ingestsTests "a", boostsTests "a"]).evidenceFor none "a" 0 100).toOption.any
      (fun evidence => decide (passedTests.id ∈ evidence.executionIds)) = true := by decide +kernel
  cases asked : (reached blankScanners [ingestsTests "a", boostsTests "a"]).evidenceFor none "a" 0 100 with
  | error error =>
    rw [asked] at listed
    cases listed
  | ok evidence =>
    rw [asked] at listed
    refine ⟨evidence, rfl, of_decide_eq_true listed, ?_⟩
    refine evidence_is_own_work blankScanners _ (fun earlier step later same => ?_) none "a" 0 100 evidence asked
    rcases earlier with _ | ⟨first, _ | ⟨second, earlier⟩⟩
    · obtain ⟨rfl, -⟩ := List.cons.inj same
      exact fun agent id operation => nomatch operation
    · obtain ⟨rfl, rest⟩ := List.cons.inj same
      obtain ⟨rfl, -⟩ := List.cons.inj rest
      intro agent id operation _ _ _ _ _
      obtain ⟨agents, rfl⟩ := Operation.boost.inj operation
      cases agents
      exact seen
    · obtain ⟨-, rest⟩ := List.cons.inj same
      cases earlier <;> cases rest

/-- An agent that only boosts the other's execution is credited with it. -/
theorem boosted_tests_counterexample :
    ¬ ∀ (scanners : Scanners) (run : List Step) (taskId : Option String) (agent : String) (startedAt endedAt : Int)
      (evidence : ConformanceEvidence), (reached scanners run).evidenceFor taskId agent startedAt endedAt = .ok evidence →
        ∀ id ∈ evidence.executionIds ++ evidence.commitIds, IngestedBy scanners run (agentName agent) id := by
  intro claim
  have listed : ((reached blankScanners [ingestsTests "b", boostsTests "a"]).evidenceFor none "a" 0 100).toOption.any
      (fun evidence => decide (passedTests.id ∈ evidence.executionIds)) = true := by decide +kernel
  cases asked : (reached blankScanners [ingestsTests "b", boostsTests "a"]).evidenceFor none "a" 0 100 with
  | error error =>
    rw [asked] at listed
    cases listed
  | ok evidence =>
    rw [asked] at listed
    obtain ⟨earlier, step, later, same, agent, ingested⟩ :=
      claim _ _ _ _ _ _ _ asked passedTests.id (mem_append_left _ (of_decide_eq_true listed))
    rcases earlier with _ | ⟨first, _ | ⟨second, earlier⟩⟩
    · obtain ⟨rfl, -⟩ := List.cons.inj same
      exact absurd agent (by decide +kernel)
    · obtain ⟨-, rest⟩ := List.cons.inj same
      obtain ⟨rfl, -⟩ := List.cons.inj rest
      cases ingested
    · obtain ⟨-, rest⟩ := List.cons.inj same
      cases earlier <;> cases rest

end
end MindLeak.Core
