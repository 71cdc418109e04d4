import MindLeak.Core.Structure
import MindLeak.Proofs.Growth

/-! A structural snapshot takes the place of the one before, and nothing else moves. -/

namespace MindLeak.Core

open List Table

namespace Graph
variable {g after : Graph} {ownerId : String} {nodes : List Node} {edges : List Edge} {stubs : List ArtifactStub}

def OwnersHold (g : Graph) : Prop :=
  ∀ row ∈ g.edges.rows, ∀ owner, row.ownerId = some owner → sourceBelongsToOwner row.key.sourceId owner = true

def NamesNoAlias (g : Graph) (ownerId : String) (stubs : List ArtifactStub) : Prop :=
  (∀ row ∈ g.stubCandidates.rows, row.candidateId = ownerId → row.stubId = ownerId) ∧
    ∀ stub ∈ stubs, ownerId ∈ stub.candidateIds → stub.nodeId = ownerId

/-- The unowned edges that a snapshot takes over: those from before there were owners, and those it brings itself. -/
def adopts (ownerId : String) (edges : List Edge) (row : EdgeRow) : Bool :=
  isLegacy ownerId row || row.ownerId.isNone && decide (row.key ∈ edges.map Edge.key)

section

@[simp] theorem deleteStub_edges (id : String) : (g.deleteStub id).edges = g.edges := rfl

theorem recordStructure_spec (done : g.recordStructure ownerId = .ok after) :
    after.edges = g.edges ∧ after.nodes = g.nodes ∧ after.stubCandidates = g.stubCandidates := by
  unfold recordStructure at done
  split at done <;> cases done
  exact ⟨rfl, rfl, rfl⟩

theorem insertStub_spec {stub : ArtifactStub} (done : g.insertStub stub = .ok after) :
    after.edges = g.edges ∧ after.nodes = g.nodes ∧ ∀ row ∈ after.stubCandidates.rows,
      row ∈ g.stubCandidates.rows ∨ row.stubId = stub.nodeId ∧ row.candidateId ∈ stub.candidateIds := by
  unfold insertStub at done
  split at done <;> cases done
  refine ⟨rfl, rfl, ?_⟩
  have run : ∀ (ids : List String) (table : Table StubCandidate), ∀ row ∈ (ids.foldl (fun table id =>
      table.insertOrIgnore ⟨stub.nodeId, id⟩) table).rows, row ∈ table.rows ∨ row.stubId = stub.nodeId ∧ row.candidateId ∈ ids := by
    intro ids
    induction ids with
    | nil => exact fun _ _ inside => .inl inside
    | cons id rest ih =>
      intro table row inside
      rcases ih _ row inside with here | ⟨same, later⟩
      · rcases mem_insertOrIgnore here with there | rfl
        · exact .inl there
        · exact .inr ⟨rfl, .head _⟩
      · exact .inr ⟨same, .tail _ later⟩
  exact run _ _

theorem insertStubs_spec (done : g.insertStubs stubs = .ok after) :
    after.edges = g.edges ∧ after.nodes = g.nodes ∧ ∀ row ∈ after.stubCandidates.rows,
      row ∈ g.stubCandidates.rows ∨ ∃ stub ∈ stubs, row.stubId = stub.nodeId ∧ row.candidateId ∈ stub.candidateIds := by
  induction stubs generalizing g with
  | nil =>
    cases done
    exact ⟨rfl, rfl, fun _ inside => .inl inside⟩
  | cons stub rest ih =>
    unfold insertStubs at done
    rw [foldlM_cons] at done
    cases wrote : g.insertStub stub with
    | error error =>
      rw [wrote] at done
      cases done
    | ok middle =>
      rw [wrote] at done
      obtain ⟨sameEdges, sameNodes, first⟩ := insertStub_spec wrote
      obtain ⟨edgesLater, nodesLater, others⟩ := ih done
      refine ⟨edgesLater.trans sameEdges, nodesLater.trans sameNodes, fun row inside => ?_⟩
      rcases others row inside with here | ⟨other, member, names⟩
      · rcases first row here with there | names
        · exact .inl there
        · exact .inr ⟨stub, .head _, names⟩
      · exact .inr ⟨other, .tail _ member, names⟩

structure Fewer (g after : Graph) : Prop where
  edges : after.edges = g.edges
  nodes : after.nodes.rows ⊆ g.nodes.rows
  candidates : after.stubCandidates.rows ⊆ g.stubCandidates.rows

theorem Fewer.refl (g : Graph) : g.Fewer g := ⟨rfl, List.Subset.refl _, List.Subset.refl _⟩

theorem Fewer.trans {first middle last : Graph} (one : first.Fewer middle) (other : middle.Fewer last) : first.Fewer last :=
  ⟨other.edges.trans one.edges, List.Subset.trans other.nodes one.nodes, List.Subset.trans other.candidates one.candidates⟩

theorem foldl_fewer {α : Type} (step : Graph → α → Graph) (items : List α)
    (fewer : ∀ (before : Graph) item, item ∈ items → before.edges = g.edges → before.Fewer (step before item)) :
    g.Fewer (items.foldl step g) := by
  have run : ∀ (rest : List α) (before : Graph), (∀ item ∈ rest, item ∈ items) → g.Fewer before →
      g.Fewer (rest.foldl step before) := by
    intro rest
    induction rest with
    | nil => exact fun _ _ kept => kept
    | cons item rest ih =>
      intro before inside kept
      exact ih _ (fun other later => inside other (.tail _ later))
        (kept.trans (fewer before item (inside item (.head _)) kept.edges))
  exact run items g (fun _ member => member) (.refl g)

theorem deleteNode_fewer {id : String} (alone : g.isolated id = true) : g.Fewer (g.deleteNode id) :=
  ⟨deleteNode_edges alone, filter_sublist.subset, filter_sublist.subset⟩

theorem reapOne_fewer (passes : Node → Bool) (id : String) : g.Fewer (g.reapOne passes id) := by
  unfold reapOne
  split
  next node found =>
    split
    next passed =>
      rw [Bool.and_eq_true] at passed
      exact deleteNode_fewer passed.2
    next => exact .refl g
  next => exact .refl g

theorem reap_fewer (passes : Node → Bool) : g.Fewer (g.reap passes) := by
  refine foldl_fewer _ _ fun before node inside same => deleteNode_fewer ?_
  have passed := (mem_filter.mp inside).2
  rw [Bool.and_eq_true] at passed
  exact (isolated_congr same node.id).trans passed.2

end

section

variable {row : EdgeRow}

theorem ownedByOther_none {owner : String} (free : ownedByOther (some owner) row = none) :
    row.ownerId = none ∨ row.ownerId = some owner := by
  unfold ownedByOther at free
  split at free
  next requested existing asked owns =>
    cases asked
    split at free
    · cases free
    rename_i same
    exact .inr (owns.trans (congrArg some (Classical.not_not.mp same).symm))
  next none_ =>
    cases owns : row.ownerId with
    | none => exact .inl rfl
    | some existing => exact (none_ owner existing rfl owns).elim

theorem upsertEdges_owned {created : Nat} (done : g.upsertEdges edges (some ownerId) = .ok (created, after)) :
    ∀ key ∈ edges.map Edge.key, (∃ row, after.edges.find? key = some row ∧ row.ownerId = some ownerId) ∧
      ∀ row, g.edges.find? key = some row → row.ownerId = none ∨ row.ownerId = some ownerId := by
  let holds : List Edge → Graph → Prop := fun written now =>
    (∀ key, key ∉ written.map Edge.key → now.edges.find? key = g.edges.find? key) ∧
      ∀ key ∈ written.map Edge.key, (∃ row, now.edges.find? key = some row ∧ row.ownerId = some ownerId) ∧
        ∀ row, g.edges.find? key = some row → row.ownerId = none ∨ row.ownerId = some ownerId
  suffices whole : holds edges after from whole.2
  refine upsertEdges_keeps holds done ⟨fun _ _ => rfl, nofun⟩ ?_
  rintro written before next edge isNew - ⟨outside, inside⟩ wrote
  obtain ⟨row, same, afterwards, owns⟩ := upsertEdge_puts wrote
  have here : next.edges.find? edge.key = some row := by
    rw [afterwards, Table.find?_put]
    exact if_pos same
  refine ⟨fun key apart => ?_, fun key member => ?_⟩
  · rw [map_append, mem_append, not_or, map_singleton, mem_singleton] at apart
    exact (find?_upsertEdge wrote apart.2).trans (outside key apart.1)
  · by_cases equal : key = edge.key
    · subst equal
      refine ⟨⟨row, here, owns⟩, ?_⟩
      by_cases before_ : edge.key ∈ written.map Edge.key
      · exact (inside edge.key before_).2
      intro old found
      rw [← outside edge.key before_] at found
      obtain ⟨other, found', free, -⟩ | ⟨absent, -⟩ := upsertEdge_cases wrote
      · cases found.symm.trans found'
        exact ownedByOther_none free
      · cases absent.symm.trans found
    · rw [map_append, mem_append, map_singleton, mem_singleton, or_iff_left equal] at member
      rw [find?_upsertEdge wrote equal]
      exact inside key member

theorem aliases_eq_nil (plain : g.NamesNoAlias ownerId stubs) : g.aliases ownerId = [] := by
  unfold aliases
  have none_ : g.stubCandidates.rows.filter (fun row => decide (row.candidateId = ownerId ∧ row.stubId ≠ ownerId)) = [] :=
    filter_eq_nil_iff.mpr fun row inside passed =>
      (of_decide_eq_true passed).2 (plain.1 row inside (of_decide_eq_true passed).1)
  rw [none_]
  rfl

/-- What is left of the edges before those of the snapshot are written. -/
def retained (g : Graph) (ownerId : String) (edges : List Edge) : Table EdgeRow :=
  (g.adopt ownerId).edges.delete fun row =>
    decide (row.key ∈ (g.adopt ownerId).ownedKeys ownerId ∧ row.key ∉ edges.map Edge.key ∧ row.ownerId = some ownerId)

variable {outcome : WriteOutcome}

theorem replaceStructure_course (done : g.replaceStructure ownerId nodes edges stubs = .ok (outcome, after)) :
    (∀ edge ∈ edges, structuralSourceBelongsToOwner edge ownerId = true) ∧
      ∃ (recorded stubbed before : Graph) (created : Nat) (written : Graph),
        (((g.deleteStub ownerId).adopt ownerId).upsertNodes nodes).2.recordStructure ownerId = .ok recorded ∧
        recorded.insertStubs (stubs.filter fun stub => !(g.deleteStub ownerId).isReal stub.nodeId) = .ok stubbed ∧
        before = stubbed.deleteEdges (fun row => decide (row.key ∈ (g.adopt ownerId).ownedKeys ownerId ∧
          row.key ∉ edges.map Edge.key ∧ row.ownerId = some ownerId)) ∧
        before.upsertEdges edges (some ownerId) = .ok (created, written) ∧
        after = ((staleNodeIds ((g.adopt ownerId).ownedKeys ownerId)).foldl
          (reapOne · fun node => decide (node.nodeType = .symbol ∨ node.nodeType = .package))
          ((g.aliases ownerId).foldl (promoteArtifactStub · ownerId) written)).deleteOrphanArtifactStubs := by
  unfold replaceStructure at done
  split at done
  · cases done
  rename_i checked
  refine ⟨fun edge member => by simpa using List.find?_eq_none.mp checked edge member, ?_⟩
  simp only [bind, Except.bind] at done
  split at done
  · cases done
  rename_i recorded record
  split at done
  · cases done
  rename_i stubbed insert
  split at done
  · cases done
  rename_i pair wrote
  obtain ⟨-, rfl⟩ := Prod.mk.inj (Except.ok.inj done)
  exact ⟨recorded, stubbed, _, pair.1, pair.2, record, insert, rfl, wrote, rfl⟩

theorem replaceStructure_nodeIds
    (done : g.replaceStructure ownerId nodes edges stubs = .ok (outcome, after)) : outcome.nodeIds = [] := by
  unfold replaceStructure at done
  split at done
  · cases done
  simp only [bind, Except.bind] at done
  split at done
  · cases done
  split at done
  · cases done
  split at done
  · cases done
  obtain ⟨rfl, -⟩ := Prod.mk.inj (Except.ok.inj done)
  rfl

theorem replaceStructure_ok (plain : g.NamesNoAlias ownerId stubs)
    (done : g.replaceStructure ownerId nodes edges stubs = .ok (outcome, after)) :
    (∀ edge ∈ edges, structuralSourceBelongsToOwner edge ownerId = true) ∧
      ∃ (before : Graph) (created : Nat) (written : Graph), before.edges = g.retained ownerId edges ∧
        before.upsertEdges edges (some ownerId) = .ok (created, written) ∧ written.Fewer after ∧
        ∀ row ∈ written.stubCandidates.rows, row ∈ g.stubCandidates.rows ∨
          ∃ stub ∈ stubs, row.stubId = stub.nodeId ∧ row.candidateId ∈ stub.candidateIds := by
  obtain ⟨belongs, recorded, stubbed, before, created, written, record, insert, deleted, wrote, rfl⟩ := replaceStructure_course done
  refine ⟨belongs, before, created, written, ?_, wrote, ?_, fun row inside => ?_⟩
  · rw [deleted]
    unfold retained deleteEdges
    rw [(insertStubs_spec insert).1, (recordStructure_spec record).1, upsertNodes_frame]
    rfl
  · rw [aliases_eq_nil plain]
    exact (foldl_fewer _ _ fun before id _ _ => reapOne_fewer _ id).trans (reap_fewer _)
  · rw [upsertEdges_frame wrote, deleted] at inside
    rcases (insertStubs_spec insert).2.2 row inside with there | ⟨stub, member, names⟩
    · rw [(recordStructure_spec record).2.2, upsertNodes_frame] at there
      exact .inl (mem_filter.mp there).1
    · exact .inr ⟨stub, (mem_filter.mp member).1, names⟩

theorem mem_retained (other : row.ownerId ≠ some ownerId) :
    row ∈ (g.retained ownerId edges).rows ↔ row ∈ g.edges.rows ∧ isLegacy ownerId row = false := by
  refine Iff.trans mem_filter ?_
  constructor
  · rintro ⟨inside, -⟩
    obtain ⟨old, member, rfl⟩ := mem_map.mp inside
    split at other
    · exact absurd rfl other
    rename_i free
    rw [if_neg free]
    exact ⟨member, eq_false_of_ne_true free⟩
  · rintro ⟨member, free⟩
    refine ⟨mem_map.mpr ⟨row, member, ?_⟩, ?_⟩
    · rw [free]
      rfl
    · simp [other]

theorem retained_owned (inside : row ∈ (g.retained ownerId edges).rows) (owned : row.ownerId = some ownerId) :
    row.key ∈ edges.map Edge.key := by
  obtain ⟨member, stays⟩ := mem_filter.mp inside
  by_contra missing
  have listed : row.key ∈ (g.adopt ownerId).ownedKeys ownerId :=
    mem_map_of_mem (mem_filter.mpr ⟨member, decide_eq_true owned⟩)
  simp [listed, missing, owned] at stays

structure SnapshotExact (g after : Graph) (ownerId : String) (edges : List Edge) : Prop where
  /-- The owner has the edges of the call. -/
  owned : ∀ key, (∃ row ∈ after.edges.rows, row.key = key ∧ row.ownerId = some ownerId) ↔ key ∈ edges.map Edge.key
  /-- Of the rest, what it does not adopt stays as it is. -/
  others : ∀ row, row.ownerId ≠ some ownerId → (row ∈ after.edges.rows ↔ row ∈ g.edges.rows ∧ adopts ownerId edges row = false)

theorem replaceStructure_exact (plain : g.NamesNoAlias ownerId stubs)
    (done : g.replaceStructure ownerId nodes edges stubs = .ok (outcome, after)) : g.SnapshotExact after ownerId edges := by
  obtain ⟨-, before, created, written, retains, wrote, fewer, -⟩ := replaceStructure_ok plain done
  have brought := upsertEdges_owned wrote
  have rows : after.edges = written.edges := fewer.edges
  constructor
  · intro key
    rw [rows]
    refine ⟨?_, fun wanted => ?_⟩
    · rintro ⟨row, inside, rfl, owns⟩
      by_contra missing
      have found := Table.find?_of_mem inside
      rw [show Row.key row = row.key from rfl, find?_upsertEdges wrote missing, retains] at found
      exact missing (retained_owned (mem_of_find? found).1 owns)
    · obtain ⟨⟨row, found, owns⟩, -⟩ := brought key wanted
      exact ⟨row, (mem_of_find? found).1, (mem_of_find? found).2, owns⟩
  · intro row other
    -- A row that is not the owner's has no key of the snapshot, neither behind it nor before.
    have apart : row ∈ written.edges.rows → row.key ∉ edges.map Edge.key := by
      intro inside wanted
      obtain ⟨⟨mine, found, owns⟩, -⟩ := brought row.key wanted
      cases (Table.find?_of_mem inside).symm.trans found
      exact other owns
    have unchanged (missing : row.key ∉ edges.map Edge.key) :
        row ∈ written.edges.rows ↔ row ∈ g.edges.rows ∧ isLegacy ownerId row = false := by
      rw [← mem_retained other, ← retains]
      have same := find?_upsertEdges wrote missing
      refine ⟨fun inside => ?_, fun inside => ?_⟩
      · exact (mem_of_find? (same.symm.trans (Table.find?_of_mem inside))).1
      · exact (mem_of_find? (same.trans (Table.find?_of_mem inside))).1
    rw [rows]
    refine ⟨fun inside => ?_, fun ⟨inside, free⟩ => ?_⟩
    · obtain ⟨there, legacy⟩ := (unchanged (apart inside)).mp inside
      refine ⟨there, ?_⟩
      unfold adopts
      rw [legacy, decide_eq_false (apart inside), Bool.and_false]
      rfl
    · unfold adopts at free
      rw [Bool.or_eq_false_iff] at free
      refine (unchanged fun wanted => ?_).mpr ⟨inside, free.1⟩
      -- An edge of the snapshot was the owner's or nobody's.
      have legacy := free.1
      have kept : row ∈ before.edges.rows := retains ▸ (mem_retained other).mpr ⟨inside, legacy⟩
      rcases (brought row.key wanted).2 row (Table.find?_of_mem kept) with nobody | mine
      · rw [nobody, decide_eq_true wanted] at free
        exact nomatch free.2
      · exact other mine

theorem SnapshotExact.owners (exact_ : g.SnapshotExact after ownerId edges) (holds : g.OwnersHold)
    (begins : ∀ edge ∈ edges, structuralSourceBelongsToOwner edge ownerId = true) : after.OwnersHold := by
  intro row inside owner owns
  by_cases mine : owner = ownerId
  · subst mine
    obtain ⟨edge, member, same⟩ := mem_map.mp ((exact_.owned row.key).mp ⟨row, inside, rfl, owns⟩)
    rw [← same]
    exact begins edge member
  · have other : row.ownerId ≠ some ownerId := fun same => mine (Option.some.inj (owns.symm.trans same))
    exact holds row ((exact_.others row other).mp inside).1 owner owns

theorem SnapshotExact.again {again : Graph} (first : g.SnapshotExact after ownerId edges)
    (second : after.SnapshotExact again ownerId edges) (key : EdgeKey) :
    (∃ row ∈ again.edges.rows, row.key = key) ↔ ∃ row ∈ after.edges.rows, row.key = key := by
  constructor
  · rintro ⟨row, inside, rfl⟩
    by_cases mine : row.ownerId = some ownerId
    · obtain ⟨old, member, same, -⟩ := (first.owned row.key).mpr ((second.owned row.key).mp ⟨row, inside, rfl, mine⟩)
      exact ⟨old, member, same⟩
    · exact ⟨row, ((second.others row mine).mp inside).1, rfl⟩
  · rintro ⟨row, inside, rfl⟩
    by_cases mine : row.ownerId = some ownerId
    · obtain ⟨new, member, same, -⟩ := (second.owned row.key).mpr ((first.owned row.key).mp ⟨row, inside, rfl, mine⟩)
      exact ⟨new, member, same⟩
    · exact ⟨row, (second.others row mine).mpr ⟨inside, ((first.others row mine).mp inside).2⟩, rfl⟩

theorem replaceStructure_namesNoAlias (plain : g.NamesNoAlias ownerId stubs)
    (done : g.replaceStructure ownerId nodes edges stubs = .ok (outcome, after)) : after.NamesNoAlias ownerId stubs := by
  obtain ⟨-, before, created, written, -, -, fewer, candidates⟩ := replaceStructure_ok plain done
  refine ⟨fun row inside names => ?_, plain.2⟩
  rcases candidates row (fewer.candidates inside) with there | ⟨stub, member, same, names'⟩
  · exact plain.1 row there names
  · exact same.trans (plain.2 stub member (names ▸ names'))

end

/-- A snapshot that succeeds leaves the owner exactly its edges, adopts what is unowned and its own, touches nothing of
any other, and repeated changes no key; one that fails changes nothing at all. -/
theorem structural_snapshot_exact (g : Graph) (ownerId : String) (nodes : List Node) (edges : List Edge)
    (artifactStubs : List ArtifactStub) (holds : g.OwnersHold) (plain : g.NamesNoAlias ownerId artifactStubs) :
    let call := fun g : Graph => g.transaction (·.replaceStructure ownerId nodes edges artifactStubs)
    (∀ outcome after, call g = (.ok outcome, after) → g.SnapshotExact after ownerId edges ∧ after.OwnersHold ∧
        ∀ key, (∃ row ∈ (call after).2.edges.rows, row.key = key) ↔ ∃ row ∈ after.edges.rows, row.key = key) ∧
      ∀ error after, call g = (.error error, after) → after = g := by
  intro call
  have succeeds {before after : Graph} {outcome : WriteOutcome} (went : call before = (.ok outcome, after)) :
      before.replaceStructure ownerId nodes edges artifactStubs = .ok (outcome, after) := by
    unfold call transaction at went
    split at went <;> cases went
    assumption
  have fails {before after : Graph} {error : MindLeakError} (went : call before = (.error error, after)) : after = before := by
    unfold call transaction at went
    split at went <;> cases went
    rfl
  refine ⟨fun outcome after went => ?_, fun error after went => fails went⟩
  have done := succeeds went
  have exact_ := replaceStructure_exact plain done
  refine ⟨exact_, exact_.owners holds (replaceStructure_ok plain done).1, fun key => ?_⟩
  rcases again : call after with ⟨answer, last⟩
  cases answer with
  | ok outcome => exact exact_.again (replaceStructure_exact (replaceStructure_namesNoAlias plain done) (succeeds again)) key
  | error error => rw [fails again]

/-- A graph from before there were owners: the file `a` calls what it no longer has, and `b` has its own snapshot. -/
def unownedCalls : Graph :=
  { Graph.empty with
    nodes := ⟨[Node.new "artifact:a" .artifact "a" 1, Node.new "symbol:a:f" .symbol "f" 1, Node.new "symbol:a:g" .symbol "g" 1,
      Node.new "artifact:b" .artifact "b" 1, Node.new "symbol:b:h" .symbol "h" 1], by decide⟩
    edges := ⟨[(Edge.new "artifact:a" "symbol:a:f" .contains 1).row none, (Edge.new "symbol:a:f" "symbol:a:g" .calls 1).row none,
      (Edge.new "artifact:b" "symbol:b:h" .contains 1).row (some "artifact:b")], by decide⟩ }

theorem unowned_calls_exact :
    let nodes := [Node.new "artifact:a" .artifact "a" 2, Node.new "symbol:a:f" .symbol "f" 2]
    let edges := [Edge.new "artifact:a" "symbol:a:f" .contains 2]
    let called := unownedCalls.transaction (·.replaceStructure "artifact:a" nodes edges [])
    (called.1 matches .ok _) = true ∧ unownedCalls.SnapshotExact called.2 "artifact:a" edges := by
  intro nodes edges called
  have holds : unownedCalls.OwnersHold := by
    intro row inside owner owns
    have listed : ∀ row ∈ unownedCalls.edges.rows, row.ownerId.all (sourceBelongsToOwner row.key.sourceId) = true := by
      decide +kernel
    have belongs := listed row inside
    rwa [owns] at belongs
  have plain : unownedCalls.NamesNoAlias "artifact:a" [] := ⟨nofun, nofun⟩
  have fine : (called.1 matches .ok _) = true := by decide +kernel
  have whole := structural_snapshot_exact unownedCalls "artifact:a" nodes edges [] holds plain
  refine ⟨fine, ?_⟩
  rcases went : called with ⟨answer, after⟩
  cases answer with
  | ok outcome => exact (whole.1 outcome after went).1
  | error error =>
    rw [went] at fine
    cases fine

end Graph
end MindLeak.Core
