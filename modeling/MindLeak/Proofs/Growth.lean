import MindLeak.Core.Ingest

/-! What the writes of the graph change, and what they leave. -/

namespace MindLeak.Core

open List Option Table Except

variable {g after : Graph} {nodes : List Node} {edges : List Edge}

namespace Graph
variable {ownerId : Option String}

section

theorem upsertNode_frame (node : Node) : (g.upsertNode node).2 = { g with nodes := (g.upsertNode node).2.nodes } := by
  unfold upsertNode
  split <;> rfl

theorem foldl_upsertNode_keeps (holds : Graph → Prop) {created : Nat} (start : holds g)
    (step : ∀ before node, node ∈ nodes → holds before → holds (before.upsertNode node).2) :
    holds (nodes.foldl (fun (created, g) node =>
      let (isNew, g) := upsertNode g node
      (if isNew then created + 1 else created, g)) (created, g)).2 := by
  induction nodes generalizing created g with
  | nil => exact start
  | cons node rest ih =>
    exact ih (step g node (.head _) start) fun before other later => step before other (.tail _ later)

theorem upsertNodes_keeps (holds : Graph → Prop) (start : holds g)
    (step : ∀ before node, node ∈ nodes → holds before → holds (before.upsertNode node).2) :
    holds (g.upsertNodes nodes).2 :=
  foldl_upsertNode_keeps holds start step

theorem foldlM_upsertEdge_keeps (holds : List Edge → Graph → Prop) {created count : Nat} {rest written : List Edge} {before : Graph}
    (went : rest.foldlM (fun (created, g) edge => do
      let (isNew, g) ← upsertEdge g edge ownerId
      ok (if isNew then created + 1 else created, g)) (count, before) = .ok (created, after))
    (whole : written ++ rest = edges) (kept : holds written before)
    (step : ∀ (written : List Edge) (before next : Graph) (edge : Edge) (isNew : Bool), edge ∈ edges → holds written before →
      before.upsertEdge edge ownerId = .ok (isNew, next) → holds (written ++ [edge]) next) :
    holds edges after := by
  induction rest generalizing written count before with
  | nil =>
    obtain ⟨-, rfl⟩ := Prod.mk.inj (ok.inj went)
    rwa [← whole, append_nil]
  | cons edge rest ih =>
    rw [foldlM_cons] at went
    dsimp only at went
    cases wrote : before.upsertEdge edge ownerId with
    | error error =>
      rw [wrote] at went
      cases went
    | ok pair =>
      rw [wrote] at went
      have inside : edge ∈ edges := whole ▸ mem_append_right _ (.head _)
      exact ih went (by rw [append_assoc]; exact whole) (step written before pair.2 edge pair.1 inside kept wrote)

theorem upsertEdges_keeps (holds : List Edge → Graph → Prop) {created : Nat}
    (done : g.upsertEdges edges ownerId = .ok (created, after)) (start : holds [] g)
    (step : ∀ (written : List Edge) (before next : Graph) (edge : Edge) (isNew : Bool), edge ∈ edges → holds written before →
      before.upsertEdge edge ownerId = .ok (isNew, next) → holds (written ++ [edge]) next) :
    holds edges after :=
  foldlM_upsertEdge_keeps holds done rfl start step

end

section

variable {isNew : Bool} {edge : Edge}

section
variable (wrote : g.upsertEdge edge ownerId = .ok (isNew, after))
include wrote

theorem upsertEdge_cases :
    (∃ row, g.edges.find? edge.key = some row ∧ ownedByOther ownerId row = none ∧
      after = { g with edges := g.edges.put (row.reinforce edge ownerId) }) ∨
    (g.edges.find? edge.key = none ∧ g.nodeExists edge.sourceId = true ∧ g.nodeExists edge.targetId = true ∧
      after = { g with edges := g.edges.put (edge.row ownerId) }) := by
  unfold upsertEdge at wrote
  split at wrote
  next row found =>
    split at wrote
    · cases wrote
    rename_i free
    obtain ⟨-, rfl⟩ := Prod.mk.inj (ok.inj wrote)
    exact .inl ⟨row, found, free, rfl⟩
  next absent =>
    split at wrote
    on_goal 2 => cases wrote
    rename_i ends
    rw [Bool.and_eq_true] at ends
    obtain ⟨-, rfl⟩ := Prod.mk.inj (ok.inj wrote)
    exact .inr ⟨absent, ends.1, ends.2, rfl⟩

theorem upsertEdge_puts :
    ∃ row, row.key = edge.key ∧ after = { g with edges := g.edges.put row } ∧
      row.ownerId = ownerId.or ((g.edges.find? edge.key).bind (·.ownerId)) := by
  obtain ⟨row, found, -, rfl⟩ | ⟨absent, -, -, rfl⟩ := upsertEdge_cases wrote
  · refine ⟨row.reinforce edge ownerId, (mem_of_find? found).2, rfl, ?_⟩
    rw [found]
    rfl
  · refine ⟨edge.row ownerId, rfl, rfl, ?_⟩
    rw [absent]
    exact (or_none).symm

theorem find?_upsertEdge {key : EdgeKey}
    (other : key ≠ edge.key) :
    after.edges.find? key = g.edges.find? key := by
  obtain ⟨row, same, rfl, -⟩ := upsertEdge_puts wrote
  rw [Table.find?_put]
  exact if_neg fun equal => other (equal.symm.trans same)

end

theorem find?_upsertEdges {created : Nat} {key : EdgeKey} (done : g.upsertEdges edges ownerId = .ok (created, after))
    (other : key ∉ edges.map Edge.key) : after.edges.find? key = g.edges.find? key := by
  refine upsertEdges_keeps (fun _ now => now.edges.find? key = g.edges.find? key) done rfl ?_
  intro written before next edge isNew inside kept wrote
  have apart : key ≠ edge.key := fun same => other (same ▸ mem_map_of_mem inside)
  exact (find?_upsertEdge wrote apart).trans kept

theorem upsertNodes_frame : (g.upsertNodes nodes).2 = { g with nodes := (g.upsertNodes nodes).2.nodes } := by
  refine upsertNodes_keeps (fun now => now = { g with nodes := now.nodes }) rfl fun before node _ kept => ?_
  refine (upsertNode_frame node).trans ?_
  generalize (before.upsertNode node).2.nodes = rows
  rw [kept]

theorem upsertEdges_frame {created : Nat} (done : g.upsertEdges edges ownerId = .ok (created, after)) :
    after = { g with edges := after.edges } := by
  refine upsertEdges_keeps (fun _ now => now = { g with edges := now.edges }) done rfl fun _ before next _ _ _ kept wrote => ?_
  obtain ⟨row, -, rfl, -⟩ := upsertEdge_puts wrote
  generalize before.edges.put row = rows
  rw [kept]

theorem deleteNode_edges {id : String} (alone : g.isolated id = true) : (g.deleteNode id).edges = g.edges := by
  apply eq_of_rows
  refine filter_eq_self.mpr fun row inside => ?_
  exact (all_eq_true.mp alone) row inside

theorem find?_deleteNode {id other : String} (apart : other ≠ id) : (g.deleteNode other).nodes.find? id = g.nodes.find? id := by
  unfold deleteNode
  rw [Table.find?_delete]
  cases found : g.nodes.find? id with
  | none => rfl
  | some row =>
    have named : row.id = id := (mem_of_find? found).2
    rw [filter_some, if_pos (by
      rw [Bool.not_eq_true']
      exact decide_eq_false fun same => apart (same.symm.trans named))]

theorem isolated_congr (same : after.edges = g.edges) (id : String) : after.isolated id = g.isolated id := by
  unfold isolated
  rw [same]

@[simp] theorem reap_edges (passes : Node → Bool) : (g.reap passes).edges = g.edges := by
  have run : ∀ (nodes : List Node) (before : Graph), before.edges = g.edges → (∀ node ∈ nodes, g.isolated node.id = true) →
      (nodes.foldl (fun g node => deleteNode g node.id) before).edges = g.edges := by
    intro nodes
    induction nodes with
    | nil => exact fun before same _ => same
    | cons node rest ih =>
      intro before same alone
      rw [foldl_cons]
      refine ih _ ?_ fun other later => alone other (.tail _ later)
      exact (deleteNode_edges ((isolated_congr same node.id).trans (alone node (.head _)))).trans same
  refine run _ g rfl fun node inside => ?_
  have passed := (mem_filter.mp inside).2
  rw [Bool.and_eq_true] at passed
  exact passed.2

end
end Graph

/-! A batch of facts is written whole, and what was there before it stays. -/

namespace Graph

structure Grows (g after : Graph) : Prop where
  nodes : ∀ id row, g.nodes.find? id = some row →
    ∃ later, after.nodes.find? id = some later ∧ later.nodeType = row.nodeType ∧ later.createdAt = row.createdAt
  edges : ∀ key, (g.edges.find? key).isSome = true → (after.edges.find? key).isSome = true

theorem Grows.refl (g : Graph) : g.Grows g := ⟨fun _ row found => ⟨row, found, rfl, rfl⟩, fun _ there => there⟩

theorem Grows.trans {first middle last : Graph} (one : first.Grows middle) (other : middle.Grows last) : first.Grows last := by
  refine ⟨fun id row found => ?_, fun key there => other.edges key (one.edges key there)⟩
  obtain ⟨next, found', type, born⟩ := one.nodes id row found
  obtain ⟨later, found'', type', born'⟩ := other.nodes id next found'
  exact ⟨later, found'', type'.trans type, born'.trans born⟩

theorem Grows.exists {id : String} (grows : g.Grows after) (there : g.nodeExists id = true) : after.nodeExists id = true := by
  obtain ⟨row, found⟩ := isSome_iff_exists.mp there
  obtain ⟨later, found', -⟩ := grows.nodes id row found
  exact isSome_iff_exists.mpr ⟨later, found'⟩

section

theorem upsertNode_grows (node : Node) : g.Grows (g.upsertNode node).2 := by
  refine ⟨fun id row found => ?_, fun key there => by rwa [upsertNode_frame]⟩
  unfold upsertNode
  split
  next old known =>
    rw [Table.find?_put]
    split
    next same =>
      have id_ : node.id = id := (mem_of_find? known).2.symm.trans same
      rw [← id_, known] at found
      cases found
      exact ⟨_, rfl, rfl, rfl⟩
    next => exact ⟨row, found, rfl, rfl⟩
  next fresh =>
    have other : ¬Row.key node = id := fun same => by
      rw [show node.id = id from same, found] at fresh
      cases fresh
    rw [Table.find?_put, if_neg other]
    exact ⟨row, found, rfl, rfl⟩

theorem upsertNode_there (node : Node) : (g.upsertNode node).2.nodeExists node.id = true := by
  unfold upsertNode nodeExists
  split
  next old known =>
    rw [Table.find?_put]
    exact congrArg Option.isSome (if_pos (mem_of_find? known).2)
  next =>
    rw [Table.find?_put]
    exact congrArg Option.isSome (if_pos rfl)

theorem upsertNode_fresh {node : Node} (fresh : g.nodes.find? node.id = none) :
    (g.upsertNode node).2.nodes.find? node.id = some node := by
  unfold upsertNode
  rw [fresh]
  rw [Table.find?_put]
  exact if_pos rfl

theorem foldl_upsertNode_count (items : List Node) (first second : Nat) (before : Graph) :
    (items.foldl (fun (created, g) node =>
      let (isNew, g) := upsertNode g node
      (if isNew then created + 1 else created, g)) (first, before)).2 =
    (items.foldl (fun (created, g) node =>
      let (isNew, g) := upsertNode g node
      (if isNew then created + 1 else created, g)) (second, before)).2 := by
  induction items generalizing first second before with
  | nil => rfl
  | cons item items ih => exact ih _ _ _

theorem upsertNodes_cons (node : Node) (rest : List Node) : (g.upsertNodes (node :: rest)).2 = ((g.upsertNode node).2.upsertNodes rest).2 :=
  foldl_upsertNode_count rest _ _ _

theorem upsertNodes_grows : g.Grows (g.upsertNodes nodes).2 :=
  upsertNodes_keeps g.Grows (.refl g) fun _ node _ kept => kept.trans (upsertNode_grows node)

theorem upsertNodes_there {node : Node} (member : node ∈ nodes) : (g.upsertNodes nodes).2.nodeExists node.id = true := by
  induction nodes generalizing g with
  | nil => cases member
  | cons first rest ih =>
    rw [upsertNodes_cons]
    rcases mem_cons.mp member with rfl | later
    · exact upsertNodes_grows.exists (upsertNode_there node)
    · exact ih later

end

section

theorem upsertEdge_grows {edge : Edge} {ownerId : Option String} {isNew : Bool}
    (wrote : g.upsertEdge edge ownerId = .ok (isNew, after)) :
    g.Grows after ∧ (after.edges.find? edge.key).isSome = true := by
  obtain ⟨row, same, rfl, -⟩ := upsertEdge_puts wrote
  refine ⟨⟨fun _ row found => ⟨row, found, rfl, rfl⟩, fun key there => ?_⟩, ?_⟩
  · rw [Table.find?_put]
    split
    · rfl
    · exact there
  · rw [Table.find?_put]
    exact congrArg Option.isSome (if_pos same)

theorem upsertEdges_grows {ownerId : Option String} {created : Nat} (done : g.upsertEdges edges ownerId = .ok (created, after)) :
    g.Grows after ∧ ∀ edge ∈ edges, (after.edges.find? edge.key).isSome = true := by
  refine upsertEdges_keeps (fun written now => g.Grows now ∧ ∀ edge ∈ written, (now.edges.find? edge.key).isSome = true) done
    ⟨.refl g, nofun⟩ ?_
  rintro written before next edge isNew - ⟨grows, there⟩ wrote
  obtain ⟨more, here⟩ := upsertEdge_grows wrote
  refine ⟨grows.trans more, fun other member => ?_⟩
  rcases mem_append.mp member with earlier | same
  · exact more.edges _ (there other earlier)
  · cases mem_singleton.mp same
    exact here

theorem foldlM_upsertEdge_ok (count : Nat)
    (ends : ∀ edge ∈ edges, g.nodeExists edge.sourceId = true ∧ g.nodeExists edge.targetId = true) :
    ∃ created after, edges.foldlM (fun (created, g) edge => do
      let (isNew, g) ← upsertEdge g edge none
      ok (if isNew then created + 1 else created, g)) (count, g) = .ok (created, after) := by
  induction edges generalizing count g with
  | nil => exact ⟨count, g, rfl⟩
  | cons edge rest ih =>
    obtain ⟨source, target⟩ := ends edge (.head _)
    obtain ⟨isNew, next, wrote⟩ : ∃ isNew next, g.upsertEdge edge none = .ok (isNew, next) := by
      unfold upsertEdge
      split
      next row _ => exact ⟨_, _, rfl⟩
      rw [source, target]
      exact ⟨_, _, rfl⟩
    rw [foldlM_cons]
    dsimp only
    rw [wrote]
    have grows := (upsertEdge_grows wrote).1
    exact ih _ fun other later => (ends other (.tail _ later)).imp grows.exists grows.exists

theorem upsertEdges_ok (ends : ∀ edge ∈ edges, g.nodeExists edge.sourceId = true ∧ g.nodeExists edge.targetId = true) :
    ∃ created after, g.upsertEdges edges none = .ok (created, after) :=
  foldlM_upsertEdge_ok 0 ends

end

section

theorem writeOn_ok {observation : Observation} (there : ∀ id ∈ observation.ids, g.nodeExists id = true) :
    ∃ after, observation.writeOn g = .ok after ∧ g.Grows after ∧
      (agentName observation.agent ≠ "" → ∀ id ∈ observation.ids, id ≠ agentNodeId observation.agent →
        (after.edges.find? ⟨agentNodeId observation.agent, id, .observed⟩).isSome = true) := by
  unfold Observation.writeOn
  split
  next blank => exact ⟨g, rfl, .refl g, fun named => absurd (String.isEmpty_iff.mp blank) named⟩
  have noded := upsertNode_grows (g := g) (Node.new (agentNodeId observation.agent) .agent (agentName observation.agent) observation.now)
  have key (id : String) : (observation.edge id).key = ⟨agentNodeId observation.agent, id, .observed⟩ := by
    unfold Observation.edge
    split <;> rfl
  have ends : ∀ edge ∈ (observation.ids.filter fun id => decide (id ≠ agentNodeId observation.agent)).map observation.edge,
      (g.upsertNode (Node.new (agentNodeId observation.agent) .agent (agentName observation.agent) observation.now)).2.nodeExists
        edge.sourceId = true ∧
      (g.upsertNode (Node.new (agentNodeId observation.agent) .agent (agentName observation.agent) observation.now)).2.nodeExists
        edge.targetId = true := by
    intro edge inside
    obtain ⟨id, listed, rfl⟩ := mem_map.mp inside
    have ends := key id
    refine ⟨?_, ?_⟩
    · rw [show (observation.edge id).sourceId = agentNodeId observation.agent from congrArg EdgeKey.sourceId ends]
      exact upsertNode_there (Node.new (agentNodeId observation.agent) .agent (agentName observation.agent) observation.now)
    · rw [show (observation.edge id).targetId = id from congrArg EdgeKey.targetId ends]
      exact noded.exists (there id (mem_filter.mp listed).1)
  obtain ⟨created, after, wrote⟩ := upsertEdges_ok ends
  obtain ⟨grows, written⟩ := upsertEdges_grows wrote
  refine ⟨after, ?_, noded.trans grows, fun _ id listed other => ?_⟩
  · simp only [bind, Except.bind]
    rw [wrote]
  · rw [← key id]
    exact written _ (mem_map_of_mem (mem_filter.mpr ⟨listed, decide_eq_true other⟩))

end
end Graph

section
variable (sensors : Sensors) (rec : ExecutionRecord) (now : Int) (roots : List String) (agent : String)

theorem ExecutionRecord.id_ne_agent : rec.id ≠ agentNodeId agent := by
  intro same
  have lead := congrArg (Text.startsWith · "agent:") same
  unfold ExecutionRecord.id agentNodeId at lead
  rw [Text.startsWith_append, Text.startsWith_apart _ (by decide)] at lead
  cases lead

theorem ingestExecution_ok : ∃ outcome after, ingestExecution sensors rec now roots (some agent) g = .ok (outcome, after) ∧
    g.Grows after ∧
    (g.nodes.find? rec.id = none → ∃ row, after.nodes.find? rec.id = some row ∧ row.nodeType = .execution ∧ row.createdAt = rec.timestamp) ∧
    (∀ path ∈ rec.changedPaths roots, (after.edges.find? ⟨rec.id, artifactId path, .modified⟩).isSome = true) ∧
    (agentName agent ≠ "" → (after.edges.find? ⟨agentNodeId agent, rec.id, .observed⟩).isSome = true) := by
  let changed := rec.changedPaths roots
  let failed := rec.failedPaths sensors roots
  let nodes := rec.node :: (changed ++ failed).map (artifactNode · now)
  let edges := changed.map (fun path => Edge.new rec.id (artifactId path) .modified rec.timestamp) ++
    failed.map fun path => Edge.new rec.id (artifactId path) .failedOn rec.timestamp
  have named : (g.upsertNodes nodes).2.nodeExists rec.id = true := Graph.upsertNodes_there (.head _)
  have artifact (path : String) (listed : path ∈ changed ++ failed) : (g.upsertNodes nodes).2.nodeExists (artifactId path) = true :=
    Graph.upsertNodes_there (.tail _ (mem_map_of_mem listed))
  have ends : ∀ edge ∈ edges, (g.upsertNodes nodes).2.nodeExists edge.sourceId = true ∧
      (g.upsertNodes nodes).2.nodeExists edge.targetId = true := by
    intro edge inside
    rcases mem_append.mp inside with mine | mine <;> obtain ⟨path, listed, rfl⟩ := mem_map.mp mine
    · exact ⟨named, artifact path (mem_append_left _ listed)⟩
    · exact ⟨named, artifact path (mem_append_right _ listed)⟩
  obtain ⟨created, middle, wrote⟩ := Graph.upsertEdges_ok ends
  obtain ⟨grows, written⟩ := Graph.upsertEdges_grows wrote
  have there : ∀ id ∈ (Observation.mk agent [rec.id] now).ids, middle.nodeExists id = true := by
    intro id listed
    cases mem_singleton.mp listed
    exact grows.exists named
  obtain ⟨after, done, more, observed⟩ := Graph.writeOn_ok there
  refine ⟨{ WriteOutcome.none with nodesCreated := (g.upsertNodes nodes).1, edgesCreated := created, nodeIds := [rec.id] }, after, ?_,
    (Graph.upsertNodes_grows.trans grows).trans more, fun fresh => ?_, fun path listed => ?_, fun nonempty => ?_⟩
  · unfold ingestExecution Graph.upsertFacts
    simp only [bind, Except.bind, map_some]
    rw [show (g.upsertNodes (rec.node :: (rec.changedPaths roots ++ rec.failedPaths sensors roots).map (artifactNode · now))).2 =
      (g.upsertNodes nodes).2 from rfl, show (rec.changedPaths roots).map (fun path => Edge.new rec.id (artifactId path) .modified rec.timestamp) ++
      (rec.failedPaths sensors roots).map (fun path => Edge.new rec.id (artifactId path) .failedOn rec.timestamp) = edges from rfl, wrote]
    dsimp only
    rw [done]
    rfl
  · have first := @Graph.upsertNode_fresh g rec.node fresh
    have rest : (g.upsertNode rec.node).2.Grows after := by
      refine .trans ?_ (grows.trans more)
      rw [show nodes = rec.node :: (changed ++ failed).map (artifactNode · now) from rfl, Graph.upsertNodes_cons]
      exact Graph.upsertNodes_grows
    obtain ⟨row, found, type, born⟩ := rest.nodes _ _ first
    exact ⟨row, found, type, born⟩
  · exact more.edges _ (written _ (mem_append_left _ (mem_map_of_mem listed)))
  · exact observed nonempty _ (mem_singleton_self _) (rec.id_ne_agent agent)

end
end MindLeak.Core
