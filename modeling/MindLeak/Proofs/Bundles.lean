import Mathlib.Algebra.Order.BigOperators.Group.List
import MindLeak.Proofs.Evidence
import MindLeak.Proofs.Attribution

/-! When a bundle read off the graph passes the check of the plane that receives it. -/

namespace MindLeak.Core

open List Table Text Core.Graph EdgeRow

def EvidenceProvenance.submitted (fact : EvidenceProvenance) : Lodestar.EvidenceProvenance :=
  ⟨fact.sourceId, fact.targetId, fact.relation⟩

/-- A bundle as the other plane reads it; acts of its own ledger are no part of it. -/
def ConformanceEvidence.submitted (evidence : ConformanceEvidence) : Lodestar.ConformanceEvidence where
  schemaVersion := evidence.schemaVersion
  taskId := evidence.taskId
  agentId := evidence.agentId
  startedAt := evidence.startedAt
  endedAt := evidence.endedAt
  changedNodeIds := evidence.changedNodeIds
  failedNodeIds := evidence.failedNodeIds
  executionIds := evidence.executionIds
  successfulExecutionIds := evidence.successfulExecutionIds
  commitIds := evidence.commitIds
  ledgerActIds := []
  summary := evidence.summary
  provenance := evidence.provenance.map EvidenceProvenance.submitted

section

theorem guard_ok {ε α : Type} {refused : Prop} [Decidable refused] {error : ε} {next : Except ε α} {answer : α} :
    (if refused then Except.error error else next) = .ok answer ↔ ¬refused ∧ next = .ok answer := by
  split
  next yes => exact ⟨nofun, fun both => absurd yes both.1⟩
  next no => exact ⟨fun same => ⟨no, same⟩, And.right⟩

theorem check_ok {ε : Type} {first next : Except ε Unit} :
    (first >>= fun _ => next) = .ok () ↔ first = .ok () ∧ next = .ok () := by
  rcases first with error | ⟨⟩
  · exact ⟨nofun, fun both => nomatch both.1⟩
  · exact ⟨fun same => ⟨rfl, same⟩, And.right⟩

structure WellShaped (evidence : Lodestar.ConformanceEvidence) : Prop where
  version : evidence.schemaVersion = 1
  ordered : evidence.startedAt ≤ evidence.endedAt
  named : Text.isBlank evidence.agentId = false
  executions : evidence.executionIds.length ≤ Lodestar.MAX_EVIDENCE_EVENTS
  commits : evidence.commitIds.length ≤ Lodestar.MAX_EVIDENCE_EVENTS
  provenance : evidence.provenance.length ≤ Lodestar.MAX_EVIDENCE_PROVENANCE
  summary : evidence.summary.utf8ByteSize ≤ Lodestar.MAX_EVIDENCE_SUMMARY_BYTES
  successful : ∀ id ∈ evidence.successfulExecutionIds, id ∈ evidence.executionIds
  observed : ∀ id ∈ evidence.executionIds ++ evidence.commitIds, evidence.observed id = true
  mutated : ∀ id ∈ evidence.changedNodeIds, evidence.mutated id = true
  failed : ∀ id ∈ evidence.failedNodeIds, evidence.failedOn id = true

theorem validateEvidenceShape_iff {evidence : Lodestar.ConformanceEvidence} :
    Lodestar.validateEvidenceShape evidence = .ok () ↔ WellShaped evidence := by
  unfold Lodestar.validateEvidenceShape
  simp only [Lodestar.throw_eq, Lodestar.error_bind, guard_ok, check_ok, Lodestar.requireEach_ok, not_or,
    Bool.not_eq_true, not_lt, Bool.not_eq_false', all_eq_true, decide_eq_true_eq, not_not]
  constructor
  · rintro ⟨version, ordered, named, ⟨executions, commits, provenance, summary⟩, successful, observed, mutated, failed⟩
    exact ⟨version, ordered, named, executions, commits, provenance, summary, successful, observed, mutated, failed⟩
  · rintro ⟨version, ordered, named, executions, commits, provenance, summary, successful, observed, mutated, failed⟩
    exact ⟨version, ordered, named, ⟨executions, commits, provenance, summary⟩, successful, observed, mutated, failed⟩

end

section
variable {g : Graph} {agent agentNode : String} {startedAt endedAt : Int} {taskId : Option String} {evidence : ConformanceEvidence}

/-- Each execution of the window comes before the provenance is full. -/
def ExecutionsFit (g : Graph) (agentNode : String) (startedAt endedAt : Int) : Prop :=
  ∀ earlier event later, g.attributedEvents agentNode startedAt endedAt = earlier ++ event :: later →
    event.nodeType = .execution → (earlier.map fun other => 1 + (g.eventFacts other.id).length).sum < EVIDENCE_MAX_PROVENANCE

def summaryCounts (g : Graph) (agentNode : String) (startedAt endedAt : Int) : List Nat :=
  let events := g.attributedEvents agentNode startedAt endedAt
  let rows := g.rowsTaken EVIDENCE_MAX_PROVENANCE events
  [(events.filter fun event => decide (event.nodeType = .execution)).length,
    (events.filter fun event => decide (event.nodeType = .execution) && event.succeeded).length,
    (g.commitsTaken EVIDENCE_MAX_PROVENANCE events).length,
    ((rows.filter EdgeRow.mutates).map (·.key.targetId)).dedup.length,
    ((rows.filter EdgeRow.fails).map (·.key.targetId)).dedup.length]

/-- The agent's name leaves room for the counts and the 61 bytes around them. -/
def SummaryFits (g : Graph) (agent : String) (startedAt endedAt : Int) : Prop :=
  (agentName agent).utf8ByteSize + 61 +
    ((summaryCounts g (agentNodeId agent) startedAt endedAt).map fun count => (toString count).utf8ByteSize).sum ≤
      Lodestar.MAX_EVIDENCE_SUMMARY_BYTES

theorem length_foldl_pushNew (items : List String) : (items.foldl pushNew []).length = items.dedup.length := by
  have distinct : ∀ (rest known : List String), known.Nodup → (rest.foldl pushNew known).Nodup := by
    intro rest
    induction rest with
    | nil => exact fun _ apart => apart
    | cons item rest ih =>
      intro known apart
      refine ih _ ?_
      unfold pushNew
      split
      next => exact apart
      next fresh => exact nodup_append.mpr ⟨apart, nodup_singleton _, fun a inside b single => by
        cases mem_singleton.mp single
        exact fun same => fresh (same ▸ inside)⟩
  refine Perm.length_eq ((perm_ext_iff_of_nodup (distinct items [] nodup_nil) (nodup_dedup _)).mpr fun item => ?_)
  rw [mem_foldl_pushNew, mem_dedup]
  simp

theorem summary_bytes (asked : g.evidenceFor taskId agent startedAt endedAt = .ok evidence) :
    evidence.summary.utf8ByteSize ≤ Lodestar.MAX_EVIDENCE_SUMMARY_BYTES ↔ SummaryFits g agent startedAt endedAt := by
  obtain ⟨-, -, rfl⟩ := evidenceFor_ok asked
  unfold SummaryFits summaryCounts windowLists gathered
  simp only [String.utf8ByteSize_append, map_cons, map_nil, sum_cons, sum_nil, length_foldl_pushNew,
    nil_append, length_map]
  have agent_ : "agent=".utf8ByteSize = 6 := by decide
  have executions : "; executions=".utf8ByteSize = 13 := by decide
  have successful : "; successful=".utf8ByteSize = 13 := by decide
  have commits : "; commits=".utf8ByteSize = 10 := by decide
  have changed : "; changed=".utf8ByteSize = 10 := by decide
  have failed : "; failed=".utf8ByteSize = 9 := by decide
  constructor <;> intro fits <;> omega

theorem length_entries (event : Node) : (g.entries agentNode event).length = 1 + (g.eventFacts event.id).length := by
  unfold entries
  rw [length_cons, length_map, Nat.add_comm]

theorem observation_fits {earlier later : List Node} {event : Node}
    (split : g.attributedEvents agentNode startedAt endedAt = earlier ++ event :: later) :
    ⟨agentNode, event.id, RelationType.observed.asStr⟩ ∈
        ((g.attributedEvents agentNode startedAt endedAt).flatMap (g.entries agentNode)).take EVIDENCE_MAX_PROVENANCE ↔
      (earlier.map fun other => 1 + (g.eventFacts other.id).length).sum < EVIDENCE_MAX_PROVENANCE := by
  have length : (earlier.flatMap (g.entries agentNode)).length = (earlier.map fun other => 1 + (g.eventFacts other.id).length).sum := by
    rw [length_flatMap]
    exact congrArg List.sum (map_congr_left fun other _ => length_entries other)
  rw [split, flatMap_append, flatMap_cons, ← length]
  constructor
  · intro inside
    by_contra full
    rw [take_append_of_le_length (Nat.le_of_not_lt full)] at inside
    obtain ⟨other, before, entry⟩ := mem_flatMap.mp (mem_of_mem_take inside)
    rcases mem_cons.mp entry with same | fact
    · -- No event comes twice.
      have distinct := g.attributedEvents_distinct agentNode startedAt endedAt
      rw [split, map_append, map_cons, nodup_append] at distinct
      exact distinct.2.2 _ (mem_map_of_mem before) _ (.head _) (congrArg EvidenceProvenance.targetId same).symm
    · obtain ⟨row, listed, same⟩ := mem_map.mp fact
      have relation := congrArg EvidenceProvenance.relation same
      rcases (mem_eventFacts listed).2.2 with kind | kind | kind <;>
      · rw [EdgeRow.entry, kind] at relation
        dsimp only at relation
        revert relation
        decide
  · intro room
    rw [take_append]
    refine mem_append_right _ ?_
    obtain ⟨left, same⟩ := Nat.exists_eq_succ_of_ne_zero (Nat.sub_ne_zero_of_lt room)
    rw [same]
    exact .head _

theorem observed_submitted {id : String} : evidence.submitted.observed id = true ↔
    ⟨"agent:" ++ evidence.agentId, id, "observed"⟩ ∈ evidence.provenance := by
  unfold Lodestar.ConformanceEvidence.observed ConformanceEvidence.submitted
  rw [any_map, any_eq_true]
  constructor
  · rintro ⟨fact, inside, same⟩
    simp only [Function.comp, Bool.and_eq_true, decide_eq_true_eq] at same
    obtain ⟨⟨source, target⟩, relation⟩ := same
    rwa [← source, ← target, ← relation]
  · exact fun inside => ⟨_, inside, by simp [EvidenceProvenance.submitted]⟩

variable {row : EdgeRow}

theorem mutated_submitted (inside : row.entry ∈ evidence.provenance) (mutates : row.mutates = true)
    (listed : row.key.sourceId ∈ evidence.executionIds ∨ row.key.sourceId ∈ evidence.commitIds) :
    evidence.submitted.mutated row.key.targetId = true := by
  unfold Lodestar.ConformanceEvidence.mutated ConformanceEvidence.submitted
  refine any_eq_true.mpr ⟨row.entry.submitted, mem_map_of_mem inside, ?_⟩
  unfold EvidenceProvenance.submitted EdgeRow.entry
  rcases of_decide_eq_true mutates with relation | relation <;> rw [relation] <;> simpa [RelationType.asStr] using listed

theorem failedOn_submitted (inside : row.entry ∈ evidence.provenance) (fails : row.fails = true)
    (listed : row.key.sourceId ∈ evidence.executionIds) : evidence.submitted.failedOn row.key.targetId = true := by
  unfold Lodestar.ConformanceEvidence.failedOn ConformanceEvidence.submitted
  refine any_eq_true.mpr ⟨row.entry.submitted, mem_map_of_mem inside, ?_⟩
  unfold EvidenceProvenance.submitted EdgeRow.entry
  rw [of_decide_eq_true fails]
  simpa [RelationType.asStr] using listed

theorem length_commitsTaken (room : Nat) (events : List Node) : (g.commitsTaken room events).length ≤ events.length := by
  induction events generalizing room with
  | nil => exact Nat.le_refl 0
  | cons event rest ih =>
    unfold commitsTaken
    have later := ih (room - (1 + (g.eventFacts event.id).length))
    rw [length_append, length_cons]
    split
    next => rw [length_singleton]; omega
    next => rw [length_nil]; omega

theorem taken_listed (holds : g.Holds SourceFits KindOfId)
    (asked : g.evidenceFor taskId agent startedAt endedAt = .ok evidence)
    (taken : row ∈ g.rowsTaken EVIDENCE_MAX_PROVENANCE (g.attributedEvents (agentNodeId agent) startedAt endedAt)) :
    row.entry ∈ evidence.provenance ∧
      (row.key.relation = .modified ∨ row.key.relation = .failedOn → row.key.sourceId ∈ evidence.executionIds) ∧
      (row.refactors = true → row.key.sourceId ∈ evidence.commitIds) := by
  obtain ⟨shown, event, inside, fact, commit⟩ := mem_rowsTaken (agentNodeId agent) taken
  obtain ⟨edge, source, -⟩ := mem_eventFacts fact
  have kind := holds.nodes event (mem_attributedEvents inside).1
  have fits := holds.edges row edge
  obtain ⟨-, -, rfl⟩ := evidenceFor_ok asked
  refine ⟨shown, fun relation => ?_, fun refactors => ?_⟩
  · have execution := kind.execution.mpr (source ▸ fits.execution relation)
    rw [source]
    exact mem_map_of_mem (mem_filter.mpr ⟨inside, decide_eq_true execution⟩)
  · have intent := kind.intent.mpr (source ▸ fits.intent (of_decide_eq_true refactors))
    rw [source]
    exact commit intent refactors

theorem agentName_not_blank (named : (agentName agent).isEmpty = false) : isBlank (agentName agent) = false := by
  -- The last character of a trimmed text is no white space, and the name ends where the trimmed text does.
  have last (c : Char) (rest : List Char) (trimmed : (trim agent).toList = rest ++ [c]) : isWhitespace c = false := by
    unfold trim at trimmed
    rw [String.toList_ofList, reverse_eq_iff, reverse_append, reverse_singleton, singleton_append] at trimmed
    have kept := List.head?_dropWhile_not isWhitespace (agent.toList.dropWhile isWhitespace).reverse
    rw [trimmed] at kept
    exact kept
  obtain ⟨lead, split⟩ : ∃ lead, (trim agent).toList = lead ++ (agentName agent).toList := by
    unfold agentName
    generalize stripped : stripPrefix? "agent:" (trim agent) = found
    cases found with
    | none =>
      exact ⟨[], (nil_append _).symm⟩
    | some rest =>
      exact ⟨_, stripPrefix?_eq_some.mp stripped⟩
  rcases eq_nil_or_concat (agentName agent).toList with empty | ⟨front, c, whole⟩
  · rw [String.isEmpty_eq_false_iff] at named
    exact absurd (String.toList_eq_nil_iff.mp empty) named
  · unfold isBlank
    rw [whole, concat_eq_append] at split
    rw [whole, concat_eq_append, all_append, all_cons, last c (lead ++ front) (by rw [split, append_assoc]), Bool.false_and,
      Bool.and_false]

theorem wellShaped_iff (holds : g.Holds SourceFits KindOfId)
    (asked : g.evidenceFor taskId agent startedAt endedAt = .ok evidence) :
    WellShaped evidence.submitted ↔
      ExecutionsFit g (agentNodeId agent) startedAt endedAt ∧ SummaryFits g agent startedAt endedAt := by
  have bytes := summary_bytes asked
  obtain ⟨ordered, named, whole⟩ := evidenceFor_ok asked
  have executions : evidence.executionIds = ((g.attributedEvents (agentNodeId agent) startedAt endedAt).filter fun event =>
      decide (event.nodeType = .execution)).map (·.id) := by rw [whole]; rfl
  have commits : evidence.commitIds = g.commitsTaken EVIDENCE_MAX_PROVENANCE
      (g.attributedEvents (agentNodeId agent) startedAt endedAt) := by rw [whole]; rfl
  have provenance : evidence.provenance = ((g.attributedEvents (agentNodeId agent) startedAt endedAt).flatMap
      (g.entries (agentNodeId agent))).take EVIDENCE_MAX_PROVENANCE := by rw [whole]; rfl
  have name : evidence.agentId = agentName agent := by rw [whole]
  have observed (id : String) : evidence.submitted.observed id = true ↔
      ⟨agentNodeId agent, id, RelationType.observed.asStr⟩ ∈ evidence.provenance := by
    rw [observed_submitted, name]
    rfl
  constructor
  · intro shaped
    refine ⟨fun earlier event later split execution => ?_, bytes.mp shaped.summary⟩
    have listed : event.id ∈ evidence.executionIds := by
      rw [executions, split]
      exact mem_map_of_mem (mem_filter.mpr ⟨mem_append_right _ (.head _), decide_eq_true execution⟩)
    have shown := (observed event.id).mp (shaped.observed event.id (mem_append_left _ listed))
    rw [provenance] at shown
    exact (observation_fits split).mp shown
  · rintro ⟨fit, summary⟩
    constructor
    case version => rw [whole]; rfl
    case ordered => rw [whole]; exact ordered
    case named =>
      show isBlank evidence.agentId = false
      rw [name]
      exact agentName_not_blank named
    case executions =>
      show evidence.executionIds.length ≤ EVIDENCE_MAX_EVENTS
      rw [executions, length_map]
      exact (length_filter_le _ _).trans (g.length_attributedEvents (agentNodeId agent) startedAt endedAt)
    case commits =>
      show evidence.commitIds.length ≤ EVIDENCE_MAX_EVENTS
      rw [commits]
      exact (length_commitsTaken _ _).trans (g.length_attributedEvents (agentNodeId agent) startedAt endedAt)
    case provenance =>
      show (evidence.provenance.map EvidenceProvenance.submitted).length ≤ EVIDENCE_MAX_PROVENANCE
      rw [length_map, provenance]
      exact length_take_le _ _
    case summary => exact bytes.mpr summary
    case successful =>
      intro id listed
      have member : id ∈ ((g.attributedEvents (agentNodeId agent) startedAt endedAt).filter fun event =>
          decide (event.nodeType = .execution) && event.succeeded).map (·.id) := by
        rw [whole] at listed
        exact listed
      obtain ⟨event, inside, rfl⟩ := mem_map.mp member
      obtain ⟨there, passed⟩ := mem_filter.mp inside
      rw [Bool.and_eq_true] at passed
      show event.id ∈ evidence.executionIds
      rw [executions]
      exact mem_map_of_mem (mem_filter.mpr ⟨there, passed.1⟩)
    case observed =>
      intro id listed
      rw [observed, provenance]
      rcases mem_append.mp (show id ∈ evidence.executionIds ++ evidence.commitIds from listed) with execution | commit
      · rw [executions] at execution
        obtain ⟨event, inside, rfl⟩ := mem_map.mp execution
        obtain ⟨there, type⟩ := mem_filter.mp inside
        obtain ⟨earlier, later, split⟩ := append_of_mem there
        exact (observation_fits split).mpr (fit earlier event later split (of_decide_eq_true type))
      · rw [commits] at commit
        exact commitsTaken_observed commit
    case mutated =>
      intro id listed
      have member : id ∈ (((g.rowsTaken EVIDENCE_MAX_PROVENANCE (g.attributedEvents (agentNodeId agent) startedAt endedAt)).filter
          mutates).map (·.key.targetId)).foldl pushNew [] := by
        rw [whole] at listed
        exact listed
      obtain ⟨row, inside, rfl⟩ := mem_map.mp ((mem_foldl_pushNew.mp member).resolve_left nofun)
      obtain ⟨taken, mutates⟩ := mem_filter.mp inside
      obtain ⟨shown, execution, commit⟩ := taken_listed holds asked taken
      refine mutated_submitted shown mutates ?_
      rcases of_decide_eq_true mutates with modified | refactored
      · exact .inl (execution (.inl modified))
      · exact .inr (commit (decide_eq_true refactored))
    case failed =>
      intro id listed
      have member : id ∈ (((g.rowsTaken EVIDENCE_MAX_PROVENANCE (g.attributedEvents (agentNodeId agent) startedAt endedAt)).filter
          fails).map (·.key.targetId)).foldl pushNew [] := by
        rw [whole] at listed
        exact listed
      obtain ⟨row, inside, rfl⟩ := mem_map.mp ((mem_foldl_pushNew.mp member).resolve_left nofun)
      obtain ⟨taken, fails⟩ := mem_filter.mp inside
      obtain ⟨shown, execution, -⟩ := taken_listed holds asked taken
      exact failedOn_submitted shown fails (execution (.inr (of_decide_eq_true fails)))

theorem crowded {first second : Node} (listed : first ∈ g.attributedEvents agentNode startedAt endedAt)
    (other : second ∈ g.attributedEvents agentNode startedAt endedAt) (apart : first.id ≠ second.id)
    (execution : first.nodeType = .execution ∧ second.nodeType = .execution)
    (full : EVIDENCE_MAX_PROVENANCE ≤ 1 + (g.eventFacts first.id).length ∧ EVIDENCE_MAX_PROVENANCE ≤ 1 + (g.eventFacts second.id).length) :
    ¬ExecutionsFit g agentNode startedAt endedAt := by
  intro fit
  have behind {earlier later : List Node} {event before : Node}
      (split : g.attributedEvents agentNode startedAt endedAt = earlier ++ event :: later) (execution : event.nodeType = .execution)
      (inside : before ∈ earlier) : 1 + (g.eventFacts before.id).length < EVIDENCE_MAX_PROVENANCE :=
    (single_le_sum (fun _ _ => Nat.zero_le _) _ (mem_map_of_mem inside)).trans_lt (fit _ _ _ split execution)
  obtain ⟨earlier, later, split⟩ := append_of_mem listed
  rw [split] at other
  rcases mem_append.mp other with before | here
  · exact absurd (behind split execution.1 before) (Nat.not_lt.mpr full.2)
  rcases mem_cons.mp here with rfl | after
  · exact apart rfl
  · obtain ⟨between, rest, split'⟩ := append_of_mem after
    rw [split', ← cons_append, ← append_assoc] at split
    exact absurd (behind split execution.2 (mem_append_right _ (.head _))) (Nat.not_lt.mpr full.1)

theorem mem_window {event : Node} (inside : event ∈ g.nodes.rows)
    (few : (g.nodes.rows.filter fun node => decide (node.nodeType = .execution ∨ node.nodeType = .intent)).length ≤ EVIDENCE_MAX_EVENTS)
    (attributed : (g.edges.find? ⟨agentNode, event.id, .observed⟩).isSome = true)
    (type : event.nodeType = .execution ∨ event.nodeType = .intent) (window : startedAt ≤ event.createdAt ∧ event.createdAt ≤ endedAt) :
    event ∈ g.attributedEvents agentNode startedAt endedAt := by
  unfold attributedEvents
  rw [take_of_length_le, mem_insertionSort]
  · exact mem_filter.mpr ⟨inside, Bool.and_eq_true_iff.mpr ⟨attributed, decide_eq_true ⟨type, window⟩⟩⟩
  rw [length_insertionSort]
  refine (Sublist.length_le (monotone_filter_right _ fun node passed => ?_)).trans few
  rw [Bool.and_eq_true] at passed
  exact decide_eq_true (of_decide_eq_true passed.2).1

end

/-- For every run and every window, the bundle passes exactly if each execution comes before the cap and the summary fits. -/
theorem bundle_passes_iff (scanners : Scanners) (run : List Step) (taskId : Option String) (agent : String) (startedAt endedAt : Int)
    (evidence : ConformanceEvidence) (asked : (reached scanners run).evidenceFor taskId agent startedAt endedAt = .ok evidence) :
    Lodestar.validateEvidenceShape evidence.submitted = .ok () ↔
      ExecutionsFit (reached scanners run) (agentNodeId agent) startedAt endedAt ∧
        SummaryFits (reached scanners run) agent startedAt endedAt :=
  validateEvidenceShape_iff.trans (wellShaped_iff (reached_kinds scanners run) asked)

theorem tests_bundle_passes :
    ∃ evidence, (reached blankScanners [ingestsTests "a"]).evidenceFor none "a" 0 100 = .ok evidence ∧
      (Lodestar.validateEvidenceShape evidence.submitted = .ok () ↔
        ExecutionsFit (reached blankScanners [ingestsTests "a"]) (agentNodeId "a") 0 100 ∧
          SummaryFits (reached blankScanners [ingestsTests "a"]) "a" 0 100) := by
  have listed : ((reached blankScanners [ingestsTests "a"]).evidenceFor none "a" 0 100).toOption.isSome = true := by
    decide +kernel
  cases asked : (reached blankScanners [ingestsTests "a"]).evidenceFor none "a" 0 100 with
  | error error =>
    rw [asked] at listed
    cases listed
  | ok evidence => exact ⟨evidence, rfl, bundle_passes_iff blankScanners [ingestsTests "a"] none "a" 0 100 evidence asked⟩

section
variable (size : Nat)

/-- So many paths: `a`, `aa`, and so on. -/
def crowd (size : Nat) : List String := (List.range size).map fun count => String.ofList (List.replicate (count + 1) 'a')

theorem crowd_path (count : Nat) (roots : List String) (bare : roots = []) :
    repoRelative (String.ofList (List.replicate (count + 1) 'a')) roots = String.ofList (List.replicate (count + 1) 'a') ∧
      admissiblePath (String.ofList (List.replicate (count + 1) 'a')) = true := by
  have normal : normalizePath (String.ofList (List.replicate (count + 1) 'a')) = String.ofList (List.replicate (count + 1) 'a') := by
    unfold normalizePath
    rw [String.toList_ofList, map_replicate, if_neg (by decide)]
  have whole (count : Nat) : segments '/' (List.replicate (count + 1) 'a') = [List.replicate (count + 1) 'a'] := by
    induction count with
    | zero => rfl
    | succ count ih =>
      rw [replicate_succ, segments, if_neg (by decide), ih]
  refine ⟨?_, ?_⟩
  · unfold repoRelative matchedRoot
    rw [normal, bare]
    rfl
  · unfold admissiblePath isIgnoredPath isAbsolutePath
    rw [normal, String.toList_ofList, whole, any_cons, any_nil, Bool.or_false, Bool.and_eq_true, Bool.not_eq_true',
      Bool.not_eq_true', decide_eq_false_iff_not]
    refine ⟨fun ignored => ?_, ?_⟩
    · have starts : ∀ segment ∈ IGNORED_SEGMENTS, segment.toList.head? ≠ some 'a' := by decide
      exact starts _ ignored (by rw [String.toList_ofList]; rfl)
    · cases count <;> rfl

def crowdRecord (timestamp : Int) : ExecutionRecord := ⟨"make", 0, "ok", none, crowd size, timestamp⟩

def ingestsCrowd (timestamp : Int) : Step := ⟨10, ⟨[], none⟩, quietSensors, .ingestExecution (some "a") (crowdRecord size timestamp)⟩

/-- What an execution that changed them all is in a graph, whatever is written later. -/
structure Crowded (size : Nat) (g : Graph) (rec : ExecutionRecord) : Prop where
  event : ∃ row, g.nodes.find? rec.id = some row ∧ row.nodeType = .execution ∧ row.createdAt = rec.timestamp
  facts : ∀ path ∈ crowd size, (g.edges.find? ⟨rec.id, artifactId path, .modified⟩).isSome = true
  observed : (g.edges.find? ⟨agentNodeId "a", rec.id, .observed⟩).isSome = true

theorem Crowded.grows {size : Nat} {g after : Graph} {rec : ExecutionRecord} (crowded : Crowded size g rec) (grows : g.Grows after) :
    Crowded size after rec := by
  obtain ⟨row, found, type, born⟩ := crowded.event
  obtain ⟨later, found', type', born'⟩ := grows.nodes _ _ found
  exact ⟨⟨later, found', type'.trans type, born'.trans born⟩, fun path listed => grows.edges _ (crowded.facts path listed),
    grows.edges _ crowded.observed⟩

theorem Crowded.full {size : Nat} {g : Graph} {rec : ExecutionRecord} (crowded : Crowded size g rec) :
    size ≤ (g.eventFacts rec.id).length := by
  let keys := (crowd size).map fun path => EdgeKey.mk rec.id (artifactId path) .modified
  have distinct : keys.Nodup := by
    refine List.Nodup.map (fun path other same => ?_) (List.Nodup.map (fun count other same => ?_) nodup_range)
    · have targets := congrArg EdgeKey.targetId same
      exact String.toList_inj.mp (append_cancel_left (by
        rw [← String.toList_append, ← String.toList_append]
        exact congrArg String.toList targets))
    · have lengths := congrArg (fun text => text.toList.length) same
      simp only [String.toList_ofList, length_replicate] at lengths
      omega
  have inside : keys ⊆ (g.eventFacts rec.id).map key := by
    intro key listed
    obtain ⟨path, member, rfl⟩ := mem_map.mp listed
    obtain ⟨row, found⟩ := Option.isSome_iff_exists.mp (crowded.facts path member)
    obtain ⟨there, key⟩ := mem_of_find? found
    have key : row.key = ⟨rec.id, artifactId path, .modified⟩ := key
    refine mem_map.mpr ⟨row, ?_, key⟩
    unfold eventFacts
    rw [mem_insertionSort]
    exact mem_filter.mpr ⟨there, decide_eq_true (by rw [key]; exact ⟨rfl, .inl rfl⟩)⟩
  have length := (distinct.subperm inside).length_le
  rw [length_map, length_map, crowd, length_map, length_range] at length
  exact length

theorem crowd_changed (timestamp : Int) : ∀ path ∈ crowd size, path ∈ (crowdRecord size timestamp).changedPaths [] := by
  intro path listed
  obtain ⟨same, fine⟩ : repoRelative path [] = path ∧ admissiblePath path = true := by
    obtain ⟨count, -, rfl⟩ := mem_map.mp listed
    exact crowd_path count [] rfl
  have there : path ∈ (crowdRecord size timestamp).changedFiles.map (repoRelative · []) := mem_map.mpr ⟨path, listed, same⟩
  unfold ExecutionRecord.changedPaths sortDedup
  refine mem_filter.mpr ⟨?_, fine⟩
  rw [mem_dedup, mem_insertionSort]
  exact there

theorem crowd_after (scanners : Scanners) (g : Graph) (timestamp : Int) :
    g.Grows ((ingestsCrowd size timestamp).after scanners g) ∧
      (g.nodes.find? (crowdRecord size timestamp).id = none →
        Crowded size ((ingestsCrowd size timestamp).after scanners g) (crowdRecord size timestamp)) := by
  obtain ⟨outcome, after, done, grows, event, facts, observed⟩ :=
    ingestExecution_ok (g := g) quietSensors (crowdRecord size timestamp) 10 [] "a"
  have same : (ingestsCrowd size timestamp).after scanners g = after := by
    unfold Step.after Step.call ingestsCrowd
    rw [Session.run_write_bind, done]
    rfl
  rw [same]
  exact ⟨grows, fun fresh => ⟨event fresh, fun path listed => facts path (crowd_changed size timestamp path listed), observed (by decide +kernel)⟩⟩

def EventsAmong (ids : List String) (g : Graph) : Prop :=
  g.Holds (fun _ => True) fun id type => type = .execution ∨ type = .intent → id ∈ ids

theorem crowd_events {scanners : Scanners} {g : Graph} {ids : List String} {timestamp : Int} (among : EventsAmong ids g)
    (listed : (crowdRecord size timestamp).id ∈ ids) : EventsAmong ids ((ingestsCrowd size timestamp).after scanners g) := by
  have artifact (path : String) : NodeType.artifact = .execution ∨ NodeType.artifact = .intent → artifactId path ∈ ids :=
    fun event => absurd event (by decide)
  refine Step.holds_after ⟨?_, nofun, nofun, nofun, fun _ _ _ _ _ => trivial, nofun, nofun, nofun⟩ among
    ⟨fun _ event => absurd event (by decide), fun _ event => absurd event (by decide)⟩ (fun _ event => absurd event (by decide))
    fun _ _ => trivial
  intro agent rec asked
  obtain ⟨-, rfl⟩ := Operation.ingestExecution.inj asked
  exact ⟨fun _ => listed, fun path _ => ⟨artifact path, trivial⟩, fun path _ => ⟨artifact path, trivial⟩⟩

theorem EventsAmong.few {ids : List String} {g : Graph} (among : EventsAmong ids g) (bounded : ids.length ≤ EVIDENCE_MAX_EVENTS) :
    (g.nodes.rows.filter fun node => decide (node.nodeType = .execution ∨ node.nodeType = .intent)).length ≤ EVIDENCE_MAX_EVENTS := by
  have distinct : ((g.nodes.rows.filter fun node => decide (node.nodeType = .execution ∨ node.nodeType = .intent)).map (·.id)).Nodup :=
    (filter_sublist.map _).nodup g.nodes.unique
  have inside : (g.nodes.rows.filter fun node => decide (node.nodeType = .execution ∨ node.nodeType = .intent)).map (·.id) ⊆ ids := by
    intro id listed
    obtain ⟨node, member, rfl⟩ := mem_map.mp listed
    obtain ⟨there, event⟩ := mem_filter.mp member
    exact among.nodes node there (of_decide_eq_true event)
  have length := (distinct.subperm inside).length_le
  rw [length_map] at length
  exact length.trans bounded

theorem crowd_ids : (crowdRecord size 5).id ≠ (crowdRecord size 6).id := by
  have apart : "execution:" ++ shortHash "make|5" ≠ "execution:" ++ shortHash "make|6" := by decide +kernel
  exact apart

theorem crowds_do_not_fit (scanners : Scanners) (enough : EVIDENCE_MAX_PROVENANCE ≤ 1 + size) :
    ¬ExecutionsFit (reached scanners [ingestsCrowd size 5, ingestsCrowd size 6]) (agentNodeId "a") 0 100 := by
  let first := reached scanners [ingestsCrowd size 5]
  let last := reached scanners [ingestsCrowd size 5, ingestsCrowd size 6]
  have one : EventsAmong [(crowdRecord size 5).id] first := crowd_events size holds_empty (.head _)
  have both : EventsAmong [(crowdRecord size 5).id, (crowdRecord size 6).id] last :=
    crowd_events size (crowd_events size holds_empty (.head _)) (.tail _ (.head _))
  have fresh : first.nodes.find? (crowdRecord size 6).id = none := by
    refine Option.eq_none_iff_forall_ne_some.mpr fun row found => ?_
    obtain ⟨there, id⟩ := mem_of_find? found
    have id : row.id = (crowdRecord size 6).id := id
    have kind := (reached_kinds scanners [ingestsCrowd size 5]).nodes row there
    have listed := one.nodes row there (.inl (kind.execution.mpr (by rw [id]; exact startsWith_append _ _)))
    rw [id] at listed
    exact crowd_ids size (mem_singleton.mp listed).symm
  have early : Crowded size last (crowdRecord size 5) :=
    ((crowd_after size scanners .empty 5).2 rfl).grows (crowd_after size scanners first 6).1
  have late : Crowded size last (crowdRecord size 6) := (crowd_after size scanners first 6).2 fresh
  obtain ⟨five, found, type, born⟩ := early.event
  obtain ⟨six, found', type', born'⟩ := late.event
  obtain ⟨there, id⟩ := mem_of_find? found
  obtain ⟨there', id'⟩ := mem_of_find? found'
  have id : five.id = (crowdRecord size 5).id := id
  have id' : six.id = (crowdRecord size 6).id := id'
  have few := both.few (show 2 ≤ EVIDENCE_MAX_EVENTS by decide)
  refine crowded (mem_window there few (id ▸ early.observed) (.inl type) (by rw [born]; exact (by decide : (0 : Int) ≤ 5 ∧ (5 : Int) ≤ 100)))
    (mem_window there' few (id' ▸ late.observed) (.inl type') (by rw [born']; exact (by decide : (0 : Int) ≤ 6 ∧ (6 : Int) ≤ 100))) ?_ ⟨type, type'⟩ ⟨?_, ?_⟩
  · rw [id, id']
    exact crowd_ids size
  · rw [id]
    exact enough.trans (Nat.add_le_add_left early.full 1)
  · rw [id']
    exact enough.trans (Nat.add_le_add_left late.full 1)

end

/-- Two executions of 999 files each: the provenance is full before the second's observation. -/
theorem crowded_bundle_counterexample :
    ¬ ∀ (scanners : Scanners) (run : List Step) (taskId : Option String) (agent : String) (startedAt endedAt : Int)
      (evidence : ConformanceEvidence), (reached scanners run).evidenceFor taskId agent startedAt endedAt = .ok evidence →
        Lodestar.validateEvidenceShape evidence.submitted = .ok () := by
  intro claim
  have asked : ∃ evidence,
      (reached blankScanners [ingestsCrowd 999 5, ingestsCrowd 999 6]).evidenceFor none "a" 0 100 = .ok evidence := by
    with_unfolding_all exact ⟨_, rfl⟩
  obtain ⟨evidence, asked⟩ := asked
  have passes := validateEvidenceShape_iff.mp (claim _ _ _ _ _ _ _ asked)
  exact crowds_do_not_fit 999 blankScanners (by decide)
    ((wellShaped_iff (reached_kinds blankScanners [ingestsCrowd 999 5, ingestsCrowd 999 6]) asked).mp passes).1

end MindLeak.Core
