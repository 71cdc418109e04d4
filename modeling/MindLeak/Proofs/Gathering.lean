import MindLeak.Core.Consolidate

/-! A bundle's lists as what its events bring, each list cut where it is cut. -/

namespace MindLeak.Core

open List EdgeRow

def EdgeRow.entry (row : EdgeRow) : EvidenceProvenance := ⟨row.key.sourceId, row.key.targetId, row.key.relation.asStr⟩

def EdgeRow.mutates (row : EdgeRow) : Bool := decide (row.key.relation = .modified ∨ row.key.relation = .refactored)

def EdgeRow.fails (row : EdgeRow) : Bool := decide (row.key.relation = .failedOn)

def EdgeRow.refactors (row : EdgeRow) : Bool := decide (row.key.relation = .refactored)

namespace Gathered
variable (gathered : Gathered)

theorem fact_eq (row : EdgeRow) : gathered.fact row = { gathered with
      changed := if row.mutates then pushNew gathered.changed row.key.targetId else gathered.changed
      failed := if row.fails then pushNew gathered.failed row.key.targetId else gathered.failed
      provenance := gathered.provenance ++ [row.entry] } := by
  unfold fact mutates fails entry
  cases relation : row.key.relation <;> rfl

theorem observe_eq (agentNode : String) (event : Node) : gathered.observe agentNode event = { gathered with
      executions := gathered.executions ++ if event.nodeType = .execution then [event.id] else []
      successful := gathered.successful ++ if event.nodeType = .execution ∧ event.succeeded then [event.id] else []
      provenance := gathered.provenance ++ if gathered.provenance.length < EVIDENCE_MAX_PROVENANCE then
        [⟨agentNode, event.id, RelationType.observed.asStr⟩] else [] } := by
  unfold observe
  by_cases execution : event.nodeType = .execution <;> by_cases succeeded : event.succeeded = true <;>
    by_cases room : gathered.provenance.length < EVIDENCE_MAX_PROVENANCE <;>
      simp only [execution, succeeded, room, if_true, if_false, and_true, and_false, append_nil, Bool.false_eq_true]

def withRows (rows : List EdgeRow) : Gathered :=
  { gathered with
    changed := ((rows.filter EdgeRow.mutates).map (·.key.targetId)).foldl pushNew gathered.changed
    failed := ((rows.filter EdgeRow.fails).map (·.key.targetId)).foldl pushNew gathered.failed
    provenance := gathered.provenance ++ rows.map EdgeRow.entry }

theorem withRows_cons (row : EdgeRow) (rows : List EdgeRow) : gathered.withRows (row :: rows) = (gathered.fact row).withRows rows := by
  rw [fact_eq]
  unfold withRows
  cases mutates : row.mutates <;> cases fails : row.fails <;> simp [mutates, fails]

theorem facts_eq (rows : List EdgeRow) (isCommit : Bool) (gathered : Gathered) (room : Nat)
    (whole : gathered.provenance.length + room = EVIDENCE_MAX_PROVENANCE) :
    Gathered.facts rows (isCommit, gathered) =
      (isCommit || (rows.take room).any refactors, gathered.withRows (rows.take room)) := by
  induction rows generalizing isCommit gathered room with
  | nil => simp [facts, withRows]
  | cons row rest ih =>
    unfold facts
    cases room with
    | zero =>
      rw [if_pos (by omega)]
      simp [withRows]
    | succ room =>
      rw [if_neg (by omega), ih _ (gathered.fact row) room (by rw [fact_eq]; simp; omega), take_succ_cons, withRows_cons,
        any_cons, Bool.or_assoc]
      rfl

end Gathered

namespace Graph
variable (g : Graph) (agentNode : String)

def entries (event : Node) : List EvidenceProvenance :=
  ⟨agentNode, event.id, RelationType.observed.asStr⟩ :: (g.eventFacts event.id).map EdgeRow.entry

def rowsTaken : Nat → List Node → List EdgeRow
  | _, [] => []
  | room, event :: rest =>
    (g.eventFacts event.id).take (room - 1) ++ rowsTaken (room - (1 + (g.eventFacts event.id).length)) rest

def commitsTaken : Nat → List Node → List String
  | _, [] => []
  | room, event :: rest =>
    (if event.nodeType = .intent ∧ ((g.eventFacts event.id).take (room - 1)).any EdgeRow.refactors then [event.id] else []) ++
      commitsTaken (room - (1 + (g.eventFacts event.id).length)) rest

def gathered (room : Nat) (before : Gathered) (events : List Node) : Gathered where
  changed := (((g.rowsTaken room events).filter EdgeRow.mutates).map (·.key.targetId)).foldl pushNew before.changed
  failed := (((g.rowsTaken room events).filter EdgeRow.fails).map (·.key.targetId)).foldl pushNew before.failed
  executions := before.executions ++ (events.filter fun event => decide (event.nodeType = .execution)).map (·.id)
  successful := before.successful ++
    (events.filter fun event => decide (event.nodeType = .execution) && event.succeeded).map (·.id)
  commits := before.commits ++ g.commitsTaken room events
  provenance := before.provenance ++ (events.flatMap (g.entries agentNode)).take room

variable {g : Graph} {agentNode : String}

theorem gather_eq {before : Gathered} {room : Nat} (event : Node)
    (whole : before.provenance.length + room = EVIDENCE_MAX_PROVENANCE) :
    g.gather agentNode before event = g.gathered agentNode room before [event] := by
  unfold gather
  rw [Gathered.observe_eq, Gathered.facts_eq _ _ _ (room - 1) ?fits]
  case fits =>
    rw [length_append]
    by_cases filled : before.provenance.length < EVIDENCE_MAX_PROVENANCE
    · rw [if_pos filled, length_singleton]
      omega
    · rw [if_neg filled, length_nil]
      omega
  unfold gathered rowsTaken commitsTaken rowsTaken commitsTaken Gathered.withRows
  rw [append_nil, append_nil, flatMap_singleton]
  have executions : (if event.nodeType = .execution then [event.id] else []) =
      ([event].filter fun event => decide (event.nodeType = .execution)).map (·.id) := by
    by_cases execution : event.nodeType = .execution <;> simp [execution]
  have successful : (if event.nodeType = .execution ∧ event.succeeded = true then [event.id] else []) =
      ([event].filter fun event => decide (event.nodeType = .execution) && event.succeeded).map (·.id) := by
    by_cases execution : event.nodeType = .execution <;> by_cases succeeded : event.succeeded = true <;>
      simp [execution, succeeded]
  have provenance : (if before.provenance.length < EVIDENCE_MAX_PROVENANCE then
      [EvidenceProvenance.mk agentNode event.id RelationType.observed.asStr] else []) ++
        ((g.eventFacts event.id).take (room - 1)).map entry = (g.entries agentNode event).take room := by
    unfold entries
    cases room with
    | zero => rw [if_neg (by omega)]; rfl
    | succ room => rw [if_pos (by omega), take_succ_cons, map_take]; rfl
  rw [executions, successful, ← provenance, ← append_assoc]
  dsimp only
  rw [Bool.false_or]
  by_cases commit : event.nodeType = .intent ∧ ((g.eventFacts event.id).take (room - 1)).any refactors = true
  · rw [if_pos commit, if_pos commit]
  · rw [if_neg commit, if_neg commit, append_nil]

theorem foldl_gather {before : Gathered} (room : Nat) (events : List Node)
    (whole : before.provenance.length + room = EVIDENCE_MAX_PROVENANCE) :
    events.foldl (g.gather agentNode) before = g.gathered agentNode room before events := by
  induction events generalizing before room with
  | nil => simp [gathered, rowsTaken, commitsTaken]
  | cons event rest ih =>
    have length : (g.entries agentNode event).length = 1 + (g.eventFacts event.id).length := by simp [entries]; omega
    rw [foldl_cons, gather_eq event whole, ih (room - (1 + (g.eventFacts event.id).length)) ?fits]
    case fits =>
      unfold gathered
      rw [flatMap_singleton, length_append, length_take, length]
      omega
    have parts (passes : Node → Bool) : (event :: rest).filter passes = [event].filter passes ++ rest.filter passes := by
      rw [← filter_append, singleton_append]
    unfold gathered
    simp only [rowsTaken, commitsTaken, append_nil, parts, filter_append, map_append, foldl_append,
      append_assoc, flatMap_cons, flatMap_nil, take_append, length]

section
variable {taskId : Option String} {agent : String} {startedAt endedAt : Int} {evidence : ConformanceEvidence}

def windowLists (g : Graph) (agentNode : String) (startedAt endedAt : Int) : Gathered :=
  g.gathered agentNode EVIDENCE_MAX_PROVENANCE ⟨[], [], [], [], [], []⟩ (g.attributedEvents agentNode startedAt endedAt)

theorem evidenceFor_ok (asked : g.evidenceFor taskId agent startedAt endedAt = .ok evidence) :
    startedAt ≤ endedAt ∧ (agentName agent).isEmpty = false ∧
      let lists := g.windowLists (agentNodeId agent) startedAt endedAt
      evidence = {
        schemaVersion := EVIDENCE_SCHEMA_VERSION
        taskId := taskId
        agentId := agentName agent
        startedAt := startedAt
        endedAt := endedAt
        changedNodeIds := lists.changed
        failedNodeIds := lists.failed
        executionIds := lists.executions
        successfulExecutionIds := lists.successful
        commitIds := lists.commits
        summary := "agent=" ++ agentName agent ++ "; executions=" ++ toString lists.executions.length ++
          "; successful=" ++ toString lists.successful.length ++ "; commits=" ++ toString lists.commits.length ++
          "; changed=" ++ toString lists.changed.length ++ "; failed=" ++ toString lists.failed.length
        provenance := lists.provenance } := by
  unfold evidenceFor at asked
  split at asked
  · cases asked
  rename_i ordered
  split at asked
  · cases asked
  rename_i named
  rw [foldl_gather EVIDENCE_MAX_PROVENANCE _ (Nat.zero_add _)] at asked
  exact ⟨Int.not_lt.mp ordered, eq_false_of_ne_true named, (Except.ok.inj asked).symm⟩

theorem mem_attributedEvents {agentNode : String} {event : Node}
    (member : event ∈ g.attributedEvents agentNode startedAt endedAt) :
    event ∈ g.nodes.rows ∧ (g.edges.find? ⟨agentNode, event.id, .observed⟩).isSome = true ∧
      (event.nodeType = .execution ∨ event.nodeType = .intent) := by
  have sorted := mem_of_mem_take member
  rw [mem_insertionSort] at sorted
  obtain ⟨inside, passed⟩ := mem_filter.mp sorted
  rw [Bool.and_eq_true] at passed
  exact ⟨inside, passed.1, (of_decide_eq_true passed.2).1⟩

variable {events : List Node} {id : String}

theorem mem_commitsTaken {room : Nat} (member : id ∈ g.commitsTaken room events) :
    ∃ event ∈ events, event.id = id ∧ event.nodeType = .intent := by
  induction events generalizing room with
  | nil => cases member
  | cons event rest ih =>
    rcases mem_append.mp member with here | later
    · split at here
      on_goal 2 => cases here
      rename_i commit
      cases mem_singleton.mp here
      exact ⟨event, .head _, rfl, commit.1⟩
    · obtain ⟨other, inside, same⟩ := ih later
      exact ⟨other, .tail _ inside, same⟩

theorem attributedEvents_distinct (g : Graph) (agentNode : String) (startedAt endedAt : Int) :
    ((g.attributedEvents agentNode startedAt endedAt).map (·.id)).Nodup := by
  have unique : (g.nodes.rows.map (·.id)).Nodup := g.nodes.unique
  refine (List.Sublist.map _ (take_sublist _ _)).nodup ?_
  refine ((perm_insertionSort _ _).map _).nodup_iff.mpr ?_
  exact (filter_sublist.map _).nodup unique

theorem length_attributedEvents (g : Graph) (agentNode : String) (startedAt endedAt : Int) :
    (g.attributedEvents agentNode startedAt endedAt).length ≤ EVIDENCE_MAX_EVENTS := length_take_le _ _

theorem mem_eventFacts {row : EdgeRow} (member : row ∈ g.eventFacts id) :
    row ∈ g.edges.rows ∧ row.key.sourceId = id ∧
      (row.key.relation = .modified ∨ row.key.relation = .failedOn ∨ row.key.relation = .refactored) := by
  unfold eventFacts at member
  rw [mem_insertionSort] at member
  obtain ⟨inside, passed⟩ := mem_filter.mp member
  exact ⟨inside, of_decide_eq_true passed⟩

theorem commitsTaken_observed {agentNode : String} {room : Nat}
    (member : id ∈ g.commitsTaken room events) :
    ⟨agentNode, id, RelationType.observed.asStr⟩ ∈ (events.flatMap (g.entries agentNode)).take room := by
  induction events generalizing room with
  | nil => cases member
  | cons event rest ih =>
    rw [flatMap_cons, take_append]
    rcases mem_append.mp member with here | later
    · split at here
      on_goal 2 => cases here
      rename_i commit
      cases mem_singleton.mp here
      refine mem_append_left _ ?_
      cases room with
      | zero => exact absurd commit.2 (by simp)
      | succ room => exact .head _
    · have length : (g.entries agentNode event).length = 1 + (g.eventFacts event.id).length := by simp [entries]; omega
      rw [length]
      exact mem_append_right _ (ih later)

theorem mem_rowsTaken (agentNode : String) {room : Nat} {row : EdgeRow}
    (member : row ∈ g.rowsTaken room events) :
    row.entry ∈ (events.flatMap (g.entries agentNode)).take room ∧
      ∃ event ∈ events, row ∈ g.eventFacts event.id ∧
        (event.nodeType = .intent → row.refactors = true → event.id ∈ g.commitsTaken room events) := by
  induction events generalizing room with
  | nil => cases member
  | cons event rest ih =>
    have length : (g.entries agentNode event).length = 1 + (g.eventFacts event.id).length := by simp [entries]; omega
    rw [flatMap_cons, take_append, length]
    rcases mem_append.mp member with here | later
    · refine ⟨mem_append_left _ ?_, event, .head _, mem_of_mem_take here, fun intent refactors => ?_⟩
      · cases room with
        | zero => cases here
        | succ room =>
          unfold entries
          rw [take_succ_cons, ← map_take]
          exact .tail _ (mem_map_of_mem here)
      · refine mem_append_left _ ?_
        rw [if_pos ⟨intent, any_eq_true.mpr ⟨row, here, refactors⟩⟩]
        exact mem_singleton_self _
    · obtain ⟨shown, other, inside, fact, commit⟩ := ih later
      exact ⟨mem_append_right _ shown, other, .tail _ inside, fact, fun intent refactors =>
        mem_append_right _ (commit intent refactors)⟩

theorem mem_foldl_pushNew {known items : List String} {item : String} :
    item ∈ items.foldl pushNew known ↔ item ∈ known ∨ item ∈ items := by
  induction items generalizing known with
  | nil => simp
  | cons first rest ih =>
    rw [foldl_cons, ih]
    unfold pushNew
    split
    next there => grind
    next => grind

theorem listed_event (asked : g.evidenceFor taskId agent startedAt endedAt = .ok evidence)
    (listed : id ∈ evidence.executionIds ++ evidence.commitIds) :
    ∃ event ∈ g.attributedEvents (agentNodeId agent) startedAt endedAt, event.id = id := by
  obtain ⟨-, -, rfl⟩ := evidenceFor_ok asked
  rcases mem_append.mp listed with execution | commit
  · obtain ⟨event, inside, same⟩ := mem_map.mp execution
    exact ⟨event, (mem_filter.mp inside).1, same⟩
  · obtain ⟨event, inside, same, -⟩ := mem_commitsTaken commit
    exact ⟨event, inside, same⟩

end
end Graph
end MindLeak.Core
