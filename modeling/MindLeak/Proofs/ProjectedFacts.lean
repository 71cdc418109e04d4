import MindLeak.Ackplane.Projection
import MindLeak.Library.EventLog

/-! What a rebuild leaves of the facts that it read: each node as its last fact has it, and each edge as
the last declaration of it has it, whichever fact that is. -/

namespace MindLeak.Ackplane

open List Option Table

theorem find?_upserted {ρ κ : Type} [Row ρ κ] [DecidableEq κ] (table : Table ρ) {row : ρ} {set : ρ → ρ} (own : set row = row)
    (keeps : ∀ row, Row.key (set row) = Row.key row) (key : κ) :
    ((table.insertOrIgnore row).update (fun other => decide (Row.key other = Row.key row)) set keeps).find? key =
      if Row.key row = key then some (((table.find? key).map set).getD row) else table.find? key := by
  rw [find?_update_one, find?_insertOrIgnore, find?_insertOrIgnore, if_pos rfl]
  split
  next same =>
    subst same
    cases table.find? (Row.key row) with
    | none => exact congrArg some own
    | some other => rfl
  next => rfl

namespace Projection

def described (fact : StructuralFact) : String × String := (fact.nodeType, fact.label)

def declarations (fact : StructuralFact) : List (ProjectedEdgeKey × UInt64 × UInt64) :=
  fact.edges.map fun edge => (⟨fact.nodeId, edge.targetId, edge.relation⟩, edge.baseWeight, edge.halfLifeHours)

def nodeContent (p : Projection) (stream : Stream) (nodeId : String) : Option (String × String) :=
  (p.node? stream nodeId).map fun row => (row.nodeType, row.label)

def edgeContent (p : Projection) (stream : Stream) (key : ProjectedEdgeKey) : Option (UInt64 × UInt64) :=
  (p.edge? stream key).map fun row => (row.baseWeight, row.halfLifeHours)

/-- The stream's rows are what these facts leave, one after another. -/
structure Shows (p : Projection) (stream : Stream) (facts : List StructuralFact) : Prop where
  nodes : EventLog.Projects StructuralFact.nodeId described facts (p.nodeContent stream)
  edges : EventLog.Projects Prod.fst Prod.snd (facts.flatMap declarations) (p.edgeContent stream)

structure Beside (stream : Stream) (p after : Projection) : Prop where
  nodes : ∀ other ≠ stream, after.nodeContent other = p.nodeContent other
  edges : ∀ other ≠ stream, after.edgeContent other = p.edgeContent other
  checkpoints : ∀ other ≠ stream, after.checkpoint? other = p.checkpoint? other

theorem Beside.refl (stream : Stream) (p : Projection) : Beside stream p p := ⟨fun _ _ => rfl, fun _ _ => rfl, fun _ _ => rfl⟩

theorem Beside.trans {stream : Stream} {p middle after : Projection} (one : Beside stream p middle) (other : Beside stream middle after) :
    Beside stream p after where
  nodes stream apart := (other.nodes stream apart).trans (one.nodes stream apart)
  edges stream apart := (other.edges stream apart).trans (one.edges stream apart)
  checkpoints stream apart := (other.checkpoints stream apart).trans (one.checkpoints stream apart)

variable {p : Projection} {stream : Stream} {facts : List StructuralFact} {now : Int}

theorem nodeContent_clear (other : Stream) : (p.clear stream).nodeContent other = if other = stream then fun _ => none else p.nodeContent other := by
  funext nodeId
  unfold nodeContent node? clear
  rw [find?_delete]
  cases found : p.nodes.find? (other, nodeId) with
  | none => split <;> simp [found]
  | some row =>
    have its : row.stream = other := congrArg Prod.fst (mem_of_find? found).2
    split
    next here => simp [its, here]
    next apart => simp [its, apart, found]

theorem edgeContent_clear (other : Stream) : (p.clear stream).edgeContent other = if other = stream then fun _ => none else p.edgeContent other := by
  funext key
  unfold edgeContent edge? clear
  rw [find?_delete]
  cases found : p.edges.find? (other, key) with
  | none => split <;> simp [found]
  | some row =>
    have its : row.stream = other := congrArg Prod.fst (mem_of_find? found).2
    split
    next here => simp [its, here]
    next apart => simp [its, apart, found]

theorem shownclear : (p.clear stream).Shows stream [] where
  nodes nodeId := by rw [nodeContent_clear, if_pos rfl]; rfl
  edges key := by rw [edgeContent_clear, if_pos rfl]; rfl

theorem beside_clear : Beside stream p (p.clear stream) where
  nodes other apart := by rw [nodeContent_clear, if_neg apart]
  edges other apart := by rw [edgeContent_clear, if_neg apart]
  checkpoints _ _ := rfl

theorem nodeContent_upsertNode (row : ProjectedNode) (other : Stream) (nodeId : String) : (p.upsertNode row).nodeContent other nodeId =
    if (row.stream, row.nodeId) = (other, nodeId) then some (row.nodeType, row.label) else p.nodeContent other nodeId := by
  unfold nodeContent node? upsertNode
  rw [find?_upserted p.nodes rfl]
  change Option.map _ (if (row.stream, row.nodeId) = (other, nodeId) then _ else _) = _
  split
  · cases p.nodes.find? (other, nodeId) <;> rfl
  · rfl

theorem edgeContent_upsertEdge (row : ProjectedEdge) (other : Stream) (key : ProjectedEdgeKey) : (p.upsertEdge row).edgeContent other key =
    if (row.stream, row.key) = (other, key) then some (row.baseWeight, row.halfLifeHours) else p.edgeContent other key := by
  unfold edgeContent edge? upsertEdge
  rw [find?_upserted p.edges rfl]
  change Option.map _ (if (row.stream, row.key) = (other, key) then _ else _) = _
  split
  · cases p.edges.find? (other, key) <;> rfl
  · rfl

theorem checkpoint?_upsertState (row : ProjectionState) (other : Stream) : (p.upsertState row).checkpoint? other =
    if row.stream = other then some row.streamPosition else p.checkpoint? other := by
  unfold checkpoint? upsertState
  rw [find?_upserted p.states rfl]
  change Option.map _ (if row.stream = other then _ else _) = _
  split
  · cases p.states.find? other <;> rfl
  · rfl

theorem beside_upsertNode (row : ProjectedNode) : Beside row.stream p (p.upsertNode row) where
  nodes other apart := by
    funext nodeId
    rw [nodeContent_upsertNode, if_neg fun same => apart (congrArg Prod.fst same).symm]
  edges _ _ := rfl
  checkpoints _ _ := rfl

theorem beside_upsertEdge (row : ProjectedEdge) : Beside row.stream p (p.upsertEdge row) where
  nodes _ _ := rfl
  edges other apart := by
    funext key
    rw [edgeContent_upsertEdge, if_neg fun same => apart (congrArg Prod.fst same).symm]
  checkpoints _ _ := rfl

theorem upsertEdges_projects (now : Int) (nodeId : String) {log : List (ProjectedEdgeKey × UInt64 × UInt64)} (edges : List StructuralEdgeFact)
    (projects : EventLog.Projects Prod.fst Prod.snd log (p.edgeContent stream)) :
    let after := edges.foldl (fun p edge => p.upsertEdge ⟨stream, ⟨nodeId, edge.targetId, edge.relation⟩, edge.baseWeight, edge.halfLifeHours, now⟩) p
    EventLog.Projects Prod.fst Prod.snd
        (log ++ edges.map fun edge => ((⟨nodeId, edge.targetId, edge.relation⟩ : ProjectedEdgeKey), edge.baseWeight, edge.halfLifeHours))
        (after.edgeContent stream) ∧
      after.nodeContent = p.nodeContent ∧ Beside stream p after := by
  induction edges generalizing p log with
  | nil =>
    rw [map_nil, append_nil]
    exact ⟨projects, rfl, .refl _ _⟩
  | cons edge rest ih =>
    let row : ProjectedEdge := ⟨stream, ⟨nodeId, edge.targetId, edge.relation⟩, edge.baseWeight, edge.halfLifeHours, now⟩
    have written : EventLog.Projects Prod.fst Prod.snd (log ++ [(row.key, row.baseWeight, row.halfLifeHours)])
        ((p.upsertEdge row).edgeContent stream) := projects.append fun key => by
      rw [edgeContent_upsertEdge]
      simp only [row, Prod.mk.injEq, true_and]
    obtain ⟨edges, nodes, beside⟩ := ih written
    rw [append_assoc] at edges
    have one : Beside stream p (p.upsertEdge row) := beside_upsertEdge row
    exact ⟨edges, nodes, one.trans beside⟩

theorem Shows.applyFact (shown : p.Shows stream facts) (now : Int) (fact : StructuralFact) :
    (p.applyFact stream now fact).Shows stream (facts ++ [fact]) ∧ Beside stream p (p.applyFact stream now fact) := by
  let row : ProjectedNode := ⟨stream, fact.nodeId, fact.nodeType, fact.label, now, now⟩
  have kept : EventLog.Projects Prod.fst Prod.snd (facts.flatMap declarations) ((p.upsertNode row).edgeContent stream) := shown.edges
  obtain ⟨edges, nodes, beside⟩ := upsertEdges_projects now fact.nodeId fact.edges kept
  have one : Beside stream p (p.upsertNode row) := beside_upsertNode row
  refine ⟨⟨shown.nodes.append fun nodeId => ?_, ?_⟩, one.trans beside⟩
  · unfold Projection.applyFact
    rw [nodes, nodeContent_upsertNode]
    simp only [row, Prod.mk.injEq, true_and]
    rfl
  · rw [flatMap_append, flatMap_singleton]
    exact edges

variable {fromSlice : Bytes → Option StructuralFact} {rows : List LedgerRecord} {after : Projection} {last : Int}

def decoded (fromSlice : Bytes → Option StructuralFact) (rows : List LedgerRecord) : Option (List StructuralFact) :=
  rows.mapM fun row => fromSlice row.envelope.payload

def lastPosition (rows : List LedgerRecord) : Int := (rows.getLast?.map LedgerRecord.streamPosition).getD 0

theorem replay_ok {first : Int} (shown : p.Shows stream facts)
    (replayed : rows.foldlM (replayRecord fromSlice stream now) (p, first) = .ok (after, last)) :
    ∃ more, decoded fromSlice rows = some more ∧ after.Shows stream (facts ++ more) ∧
      last = (rows.getLast?.map LedgerRecord.streamPosition).getD first ∧ Beside stream p after := by
  induction rows generalizing p facts first with
  | nil =>
    cases replayed
    exact ⟨[], rfl, by rwa [append_nil], rfl, .refl _ _⟩
  | cons row rest ih =>
    obtain ⟨middle, one, replayed⟩ := bind_ok replayed
    unfold replayRecord at one
    split at one
    · cases one
    rename_i fact given
    cases one
    obtain ⟨next, beside⟩ := shown.applyFact now fact
    obtain ⟨more, decodes, shown, its, besides⟩ := ih next replayed
    refine ⟨fact :: more, ?_, ?_, ?_, beside.trans besides⟩
    · rw [decoded, mapM_cons, given]
      exact congrArg (Option.bind · _) decodes
    · rwa [append_assoc] at shown
    · rw [its, List.getLast?_cons]
      cases rest.getLast? <;> rfl

theorem rebuild_ok (rebuilt : p.rebuild fromSlice stream now rows = .ok (after, last)) :
    ∃ facts, decoded fromSlice rows = some facts ∧ after.Shows stream facts ∧ last = lastPosition rows ∧
      after.checkpoint? stream = some last ∧ Beside stream p after := by
  obtain ⟨⟨replayed, position⟩, through, rebuilt⟩ := bind_ok rebuilt
  cases rebuilt
  obtain ⟨facts, decodes, shown, its, beside⟩ := replay_ok shownclear through
  refine ⟨facts, decodes, ⟨shown.nodes, shown.edges⟩, its, ?_, (beside_clear.trans beside).trans ?_⟩
  · rw [checkpoint?_upsertState, if_pos rfl]
  · refine ⟨fun _ _ => rfl, fun _ _ => rfl, fun other apart => ?_⟩
    rw [checkpoint?_upsertState, if_neg (Ne.symm apart)]

theorem replay_error {first : Projection × Int} {error : ProjectionError}
    (failed : rows.foldlM (replayRecord fromSlice stream now) first = .error error) :
    ∃ row ∈ rows, fromSlice row.envelope.payload = none ∧ error = .malformedFact row.streamPosition := by
  induction rows generalizing first with
  | nil => cases failed
  | cons row rest ih =>
    rcases bind_error failed with here | ⟨middle, _, later⟩
    · unfold replayRecord at here
      split at here
      on_goal 2 => cases here
      rename_i malformed
      cases here
      exact ⟨row, mem_cons_self, malformed, rfl⟩
    · obtain ⟨other, member, its⟩ := ih later
      exact ⟨other, mem_cons_of_mem _ member, its⟩

theorem rebuild_error {error : ProjectionError} (failed : p.rebuild fromSlice stream now rows = .error error) :
    ∃ row ∈ rows, fromSlice row.envelope.payload = none ∧ error = .malformedFact row.streamPosition := by
  rcases bind_error failed with failed | ⟨_, _, done⟩
  · exact replay_error failed
  · cases done

theorem decoded_isSome_of_mem {facts : List StructuralFact} (decodes : decoded fromSlice rows = some facts) {row : LedgerRecord}
    (member : row ∈ rows) : ∃ fact ∈ facts, fromSlice row.envelope.payload = some fact := by
  induction rows generalizing facts with
  | nil => cases member
  | cons first rest ih =>
    rw [decoded, mapM_cons] at decodes
    obtain ⟨fact, given, decodes⟩ := bind_eq_some_iff.mp decodes
    obtain ⟨others, rest_, same⟩ := bind_eq_some_iff.mp decodes
    cases same
    rcases mem_cons.mp member with rfl | later
    · exact ⟨fact, mem_cons_self, given⟩
    · obtain ⟨other, inside, its⟩ := ih rest_ later
      exact ⟨other, mem_cons_of_mem _ inside, its⟩

section

def latest? (facts : List StructuralFact) (nodeId : String) : Option StructuralFact :=
  (EventLog.trail StructuralFact.nodeId facts nodeId).getLast?

def declared? (fact : StructuralFact) (key : ProjectedEdgeKey) : Option (UInt64 × UInt64) :=
  (EventLog.trail Prod.fst (declarations fact) key).getLast?.map Prod.snd

structure Latest (p : Projection) (stream : Stream) (facts : List StructuralFact) : Prop where
  nodes : ∀ nodeId, p.nodeContent stream nodeId = (latest? facts nodeId).map described
  edges : ∀ key, p.edgeContent stream key = (latest? facts key.sourceId).bind fun fact => declared? fact key

def DropsNothing (facts : List StructuralFact) : Prop :=
  ∀ fact ∈ facts, ∀ declaration ∈ declarations fact, ((latest? facts fact.nodeId).bind fun last => declared? last declaration.1).isSome

instance (facts : List StructuralFact) : Decidable (DropsNothing facts) := inferInstanceAs (Decidable (∀ fact ∈ facts, _))

theorem declarations_source {fact : StructuralFact} {key : ProjectedEdgeKey} {content : UInt64 × UInt64}
    (member : (key, content) ∈ declarations fact) : key.sourceId = fact.nodeId := by
  obtain ⟨edge, _, same⟩ := mem_map.mp member
  exact (congrArg (fun declaration => declaration.1.sourceId) same).symm

theorem trail_declarations (facts : List StructuralFact) (key : ProjectedEdgeKey) :
    EventLog.trail Prod.fst (facts.flatMap declarations) key =
      (EventLog.trail StructuralFact.nodeId facts key.sourceId).flatMap fun fact => EventLog.trail Prod.fst (declarations fact) key := by
  induction facts with
  | nil => rfl
  | cons fact rest ih =>
    have split_ : EventLog.trail Prod.fst ((fact :: rest).flatMap declarations) key =
        EventLog.trail Prod.fst (declarations fact) key ++ EventLog.trail Prod.fst (rest.flatMap declarations) key := by
      unfold EventLog.trail
      rw [flatMap_cons, filter_append]
    rw [split_, ih]
    by_cases its : fact.nodeId = key.sourceId
    · have kept : EventLog.trail StructuralFact.nodeId (fact :: rest) key.sourceId =
          fact :: EventLog.trail StructuralFact.nodeId rest key.sourceId := filter_cons_of_pos (by simpa using its)
      rw [kept, flatMap_cons]
    · have none : EventLog.trail Prod.fst (declarations fact) key = [] := by
        refine filter_eq_nil_iff.mpr fun declaration member same => its ?_
        have here : declaration.1 = key := of_decide_eq_true same
        exact here ▸ (declarations_source member).symm
      have dropped : EventLog.trail StructuralFact.nodeId (fact :: rest) key.sourceId =
          EventLog.trail StructuralFact.nodeId rest key.sourceId := filter_cons_of_neg (by simpa using its)
      rw [none, dropped, nil_append]

theorem Shows.edge_isSome_iff (shown : p.Shows stream facts) (key : ProjectedEdgeKey) :
    (p.edgeContent stream key).isSome ↔ ∃ fact ∈ facts, ∃ declaration ∈ declarations fact, declaration.1 = key := by
  rw [shown.edges key, isSome_map, List.getLast?_isSome, ne_eq, EventLog.trail, filter_eq_nil_iff]
  simp only [decide_eq_true_eq, not_forall, not_not, exists_prop, mem_flatMap]
  constructor
  · rintro ⟨declaration, ⟨fact, member, inside⟩, its⟩
    exact ⟨fact, member, declaration, inside, its⟩
  · rintro ⟨fact, member, declaration, inside, its⟩
    exact ⟨declaration, ⟨fact, member, inside⟩, its⟩

theorem Shows.edge_latest (shown : p.Shows stream facts) {key : ProjectedEdgeKey} {content : UInt64 × UInt64}
    (declares : ((latest? facts key.sourceId).bind fun last => declared? last key) = some content) :
    p.edgeContent stream key = some content := by
  obtain ⟨last, final, declares⟩ := bind_eq_some_iff.mp declares
  obtain ⟨earlier, group⟩ := List.getLast?_eq_some_iff.mp final
  obtain ⟨declaration, here, rfl⟩ := map_eq_some_iff.mp declares
  rw [shown.edges key, trail_declarations, group, flatMap_append, flatMap_singleton, List.getLast?_append, here, some_or,
    map_some]

theorem Shows.latest_iff (shown : p.Shows stream facts) : p.Latest stream facts ↔ DropsNothing facts := by
  constructor
  · rintro latest fact member ⟨key, content⟩ inside
    have there := (shown.edge_isSome_iff key).mpr ⟨fact, member, _, inside, rfl⟩
    rwa [latest.edges key, declarations_source inside] at there
  · intro keeps
    refine ⟨shown.nodes, fun key => ?_⟩
    cases declares : (latest? facts key.sourceId).bind fun last => declared? last key with
    | none =>
      rw [← not_isSome_iff_eq_none, shown.edge_isSome_iff]
      rintro ⟨fact, member, declaration, inside, rfl⟩
      have kept := keeps fact member declaration inside
      rw [← declarations_source inside, declares] at kept
      cases kept
    | some content => exact shown.edge_latest declares

end

end Projection
end MindLeak.Ackplane
