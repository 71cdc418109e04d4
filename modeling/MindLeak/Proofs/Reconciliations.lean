import Mathlib.Data.List.Dedup
import MindLeak.Core.File
import MindLeak.Proofs.Structure

/-! What a reconciliation takes from the graph, as one statement of which nodes are gone. -/

namespace MindLeak

open List Table

namespace Table
variable {ρ κ : Type} [Row ρ κ]

theorem delete_delete (table : Table ρ) (first second : ρ → Bool) :
    (table.delete first).delete second = table.delete fun row => first row || second row := by
  apply eq_of_rows
  refine (filter_filter ..).trans (filter_congr fun row _ => ?_)
  rw [Bool.not_or, Bool.and_comm]

theorem delete_congr {table : Table ρ} {first second : ρ → Bool} (same : ∀ row ∈ table.rows, first row = second row) :
    table.delete first = table.delete second :=
  eq_of_rows (filter_congr fun row member => congrArg (!·) (same row member))

end Table

namespace Core
namespace Graph
variable {g : Graph} {id : String}

def without (gone : String → Bool) (g : Graph) : Graph where
  nodes := g.nodes.delete fun node => gone node.id
  edges := g.edges.delete fun row => gone row.key.sourceId || gone row.key.targetId
  structureVersions := g.structureVersions.delete fun version => gone version.artifactId
  artifactStubs := g.artifactStubs.delete fun stub => gone stub.nodeId
  stubCandidates := g.stubCandidates.delete fun candidate => gone candidate.stubId

theorem without_without (first second : String → Bool) (g : Graph) :
    without second (without first g) = without (fun id => first id || second id) g := by
  unfold without
  simp only [delete_delete, mk.injEq, true_and, and_true]
  exact delete_congr fun row _ => by ac_rfl

theorem without_none (g : Graph) : without (fun _ => false) g = g := by
  have all {ρ κ : Type} [Row ρ κ] (table : Table ρ) : table.delete (fun _ => false) = table :=
    eq_of_rows (filter_eq_self.mpr fun _ _ => rfl)
  unfold without
  simp only [Bool.or_self, all]

theorem forgetNode_graph (forgotten : ForgetOutcome × Graph) (id : String) :
    (forgetNode forgotten id).2 = forgotten.2.without (decide <| · = id) := by
  unfold forgetNode deleteEdges deleteNode deleteStub without
  simp only [delete_delete, mk.injEq, true_and, and_true]
  refine delete_congr fun row _ => ?_
  rw [Bool.or_self, EdgeRow.touches, Bool.decide_or]

theorem forgetNodes_graph (ids : List String) (forgotten : ForgetOutcome × Graph) :
    (ids.foldl forgetNode forgotten).2 = forgotten.2.without fun id => decide (id ∈ ids) := by
  induction ids generalizing forgotten with
  | nil =>
    refine (without_none forgotten.2).symm.trans (congrArg (without · forgotten.2) (funext fun id => ?_))
    simp
  | cons first rest ih =>
    rw [foldl_cons, ih, forgetNode_graph, without_without]
    refine congrArg (without · forgotten.2) (funext fun id => ?_)
    rw [← Bool.decide_or, decide_eq_decide, mem_cons]

def doomed (g : Graph) (artifactId id : String) : Bool := decide (id = artifactId) || decide (id ∈ g.symbolIds artifactId)

theorem forgetArtifact_graph (g : Graph) (artifactId : String) : (g.forgetArtifact artifactId).2 = g.without (g.doomed artifactId) := by
  have twice (h : Graph) : (h.without fun id => decide (id = artifactId)).deleteStub artifactId = h.without fun id => decide (id = artifactId) := by
    unfold deleteStub without
    simp only [delete_delete, Bool.or_self]
  unfold forgetArtifact
  dsimp only
  rw [forgetNode_graph, twice, forgetNodes_graph, without_without]
  exact congrArg (without · g) (funext fun id => Bool.or_comm ..)

theorem symbolIds_without (gone : String → Bool) (g : Graph) (artifactId : String) :
    (g.without gone).symbolIds artifactId = (g.symbolIds artifactId).filter fun id => !gone id := by
  unfold symbolIds without Table.delete
  rw [filter_map, filter_filter, filter_filter]
  refine congrArg (List.map Node.id) (filter_congr fun node _ => ?_)
  exact Bool.and_comm ..

def doomedAny (g : Graph) (files : List String) (id : String) : Bool := files.any (g.doomed · id)

theorem forgetAbsent_graph (keep files : List String) (g : Graph) (gone : String → Bool) (outcome : ReconcileOutcome) :
    (files.foldl (forgetAbsent keep) (outcome, g.without gone)).2 =
      g.without fun id => gone id || g.doomedAny (files.filter fun file => !keeps keep file) id := by
  induction files generalizing gone outcome with
  | nil => exact congrArg (without · g) (funext fun id => (Bool.or_false _).symm)
  | cons file rest ih =>
    rw [foldl_cons, forgetAbsent]
    by_cases kept : keeps keep file = true
    · rw [if_pos kept, ih, filter_cons_of_neg (by simp [kept])]
    rw [if_neg kept, filter_cons_of_pos (by simp [kept])]
    dsimp only
    rw [forgetArtifact_graph, without_without, ih]
    refine congrArg (without · g) (funext fun id => ?_)
    simp only [doomedAny, any_cons, ← Bool.or_assoc]
    congr 1
    unfold doomed
    rw [symbolIds_without]
    by_cases already : gone id = true <;> simp [already]

end Graph
end Core
end MindLeak

/-! An import of a file that is not there yet becomes an import of the file when that file is ingested. -/

namespace MindLeak.Core

namespace Graph
variable {g after : Graph} {key : EdgeKey} {realId stubId source : String}

def Has (g : Graph) (key : EdgeKey) : Prop := (g.edges.find? key).isSome = true

theorem Has.of_edges (has : g.Has key) (same : after.edges = g.edges) : after.Has key := by
  unfold Has
  rw [same]
  exact has

theorem has_iff : g.Has key ↔ ∃ row ∈ g.edges.rows, row.key = key := by
  rw [Has, Option.isSome_iff_exists]
  constructor
  · rintro ⟨row, found⟩
    exact ⟨row, Table.mem_of_find? found⟩
  · rintro ⟨row, member, rfl⟩
    exact ⟨row, Table.find?_of_mem member⟩

theorem Has.deleteEdges (has : g.Has key) {selects : EdgeRow → Bool} (apart : ∀ row ∈ g.edges.rows, row.key = key → selects row = false) :
    (g.deleteEdges selects).Has key := by
  obtain ⟨row, member, same⟩ := has_iff.mp has
  exact has_iff.mpr ⟨row, List.mem_filter.mpr ⟨member, by rw [apart row member same]; rfl⟩, same⟩

theorem Has.put (has : g.Has key) (row : EdgeRow) : ({ g with edges := g.edges.put row } : Graph).Has key := by
  unfold Has
  rw [Table.find?_put]
  split
  · rfl
  · exact has

theorem Has.upsertEdges {edges : List Edge} {ownerId : Option String} {created : Nat} (has : g.Has key)
    (done : g.upsertEdges edges ownerId = .ok (created, after)) : after.Has key := by
  refine upsertEdges_keeps (fun _ now => now.Has key) done has fun _ before next _ _ _ kept wrote => ?_
  obtain ⟨row, -, rfl, -⟩ := upsertEdge_puts wrote
  exact kept.put row

theorem Has.insertOrIgnore (has : g.Has key) (row : EdgeRow) : ({ g with edges := g.edges.insertOrIgnore row } : Graph).Has key := by
  unfold Has
  rw [Table.find?_insertOrIgnore]
  split
  · rfl
  · exact has

theorem Has.redirect (has : g.Has key) (passes : EdgeRow → Bool) (target : String) : (g.redirect passes target).Has key :=
  List.foldlRecOn (motive := fun now : Graph => now.Has key) _ _ has fun _ kept _ _ => kept.insertOrIgnore _

theorem redirect_has {row : EdgeRow} (member : row ∈ g.edges.rows) {passes : EdgeRow → Bool} (passed : passes row = true) (target : String) :
    (g.redirect passes target).Has { row.key with targetId := target } := by
  have run : ∀ (rows : List EdgeRow) (now : Graph), row ∈ rows → (rows.foldl (fun g row =>
      { g with edges := g.edges.insertOrIgnore { row with key := { row.key with targetId := target } } }) now).Has { row.key with targetId := target } := by
    intro rows
    induction rows with
    | nil => exact fun _ inside => by cases inside
    | cons first rest ih =>
      intro now inside
      rw [List.foldl_cons]
      rcases List.mem_cons.mp inside with rfl | later
      · refine List.foldlRecOn (motive := fun now : Graph => now.Has _) _ _ ?_ fun _ kept other _ => kept.insertOrIgnore _
        unfold Has
        rw [Table.find?_insertOrIgnore]
        exact congrArg Option.isSome (if_pos rfl)
      · exact ih _ later
  exact run _ g (List.mem_filter.mpr ⟨member, passed⟩)

section
variable (imports : key.relation = .imports)
include imports

theorem Has.promoteSymbol (has : g.Has key) (stubId realId oldTarget : String) : (g.promoteSymbol stubId realId oldTarget).Has key := by
  refine Has.of_edges (Has.deleteEdges ?_ fun row _ same => ?_) (reapOne_fewer _ _).edges
  · split
    · exact has.redirect _ _
    · exact has
  · rw [Bool.and_eq_false_iff]
    right
    unfold isReference
    rw [same, imports]
    rfl

theorem Has.promoteSymbols (has : g.Has key) (stubId realId : String) (targets : List String) :
    (targets.foldl (fun g target => g.promoteSymbol stubId realId target) g).Has key :=
  List.foldlRecOn (motive := fun now : Graph => now.Has key) _ _ has fun _ kept _ _ => kept.promoteSymbol imports _ _ _

theorem Has.promote (has : g.Has key) (apart : key.targetId ≠ stubId) : (g.promoteArtifactStub realId stubId).Has key := by
  refine Has.of_edges ?_ (reapOne_fewer _ _).edges
  refine Has.promoteSymbols imports (Has.deleteEdges (has.redirect _ _) fun row _ same => ?_) _ _ _
  unfold importsOf
  rw [decide_eq_false_iff_not, same]
  exact fun its => apart its.1

end

theorem promote_links (apart : realId ≠ stubId) (has : g.Has ⟨source, stubId, .imports⟩) :
    (g.promoteArtifactStub realId stubId).Has ⟨source, realId, .imports⟩ := by
  obtain ⟨row, member, same⟩ := has_iff.mp has
  have passed : importsOf stubId row = true := by
    unfold importsOf
    rw [same]
    exact decide_eq_true ⟨rfl, rfl⟩
  have imported := redirect_has member passed realId
  rw [same] at imported
  refine Has.of_edges ?_ (reapOne_fewer _ _).edges
  refine Has.promoteSymbols rfl (imported.deleteEdges fun row _ same => ?_) _ _ _
  unfold importsOf
  rw [decide_eq_false_iff_not, same]
  exact fun its => apart its.1

theorem promotes_link {aliases : List String} (apart : ∀ stub ∈ aliases, realId ≠ stub)
    (has : g.Has ⟨source, realId, .imports⟩ ∨ ∃ stub ∈ aliases, g.Has ⟨source, stub, .imports⟩) :
    (aliases.foldl (promoteArtifactStub · realId) g).Has ⟨source, realId, .imports⟩ := by
  induction aliases generalizing g with
  | nil => exact has.elim id fun ⟨_, absent, _⟩ => by cases absent
  | cons first rest ih =>
    obtain ⟨here, later⟩ := List.forall_mem_cons.mp apart
    refine ih later ?_
    rcases has with linked | ⟨stub, member, waits⟩
    · exact .inl (linked.promote rfl here)
    by_cases same : stub = first
    · subst same
      exact .inl (promote_links here waits)
    · exact .inr ⟨stub, (List.mem_cons.mp member).resolve_left same, waits.promote rfl same⟩

theorem replaceStructure_links {nodes : List Node} {edges : List Edge} {stubs : List ArtifactStub} {outcome : WriteOutcome} {row : EdgeRow}
    (done : g.replaceStructure realId nodes edges stubs = .ok (outcome, after)) (member : row ∈ g.edges.rows)
    (imports : row.key.relation = .imports) (others : ∃ owner, row.ownerId = some owner ∧ owner ≠ realId)
    (stands : row.key.targetId = realId ∨ ⟨row.key.targetId, realId⟩ ∈ g.stubCandidates.rows) :
    after.Has ⟨row.key.sourceId, realId, .imports⟩ := by
  obtain ⟨-, recorded, stubbed, before, created, written, record, insert, deleted, wrote, rfl⟩ := replaceStructure_course done
  obtain ⟨owner, owns, apart⟩ := others
  have there : before.Has row.key := by
    rw [deleted]
    have edgesThere : stubbed.edges = (g.adopt realId).edges := by
      rw [(insertStubs_spec insert).1, (recordStructure_spec record).1, upsertNodes_frame]
      rfl
    have kept : row ∈ stubbed.edges.rows := by
      rw [edgesThere]
      refine List.mem_map.mpr ⟨row, member, if_neg ?_⟩
      unfold isLegacy
      rw [owns]
      exact Bool.false_ne_true
    refine Has.deleteEdges (has_iff.mpr ⟨row, kept, rfl⟩) fun other inside same => ?_
    have equal : other = row := List.inj_on_of_nodup_map stubbed.edges.unique inside kept same
    rw [equal, decide_eq_false_iff_not]
    rintro ⟨_, _, mine⟩
    exact apart (Option.some.inj (owns.symm.trans mine))
  have key : row.key = ⟨row.key.sourceId, row.key.targetId, .imports⟩ := by rw [← imports]
  have written' : written.Has ⟨row.key.sourceId, row.key.targetId, .imports⟩ := key ▸ there.upsertEdges wrote
  refine Has.of_edges ?_ (((foldl_fewer _ _ fun before id _ _ => reapOne_fewer _ id).trans (reap_fewer _)).edges)
  have aliased (stub : String) : stub ∈ g.aliases realId ↔ ⟨stub, realId⟩ ∈ g.stubCandidates.rows ∧ stub ≠ realId := by
    rw [aliases, List.mem_dedup, List.mem_map]
    constructor
    · rintro ⟨candidate, listed, rfl⟩
      obtain ⟨inside, passed⟩ := List.mem_filter.mp listed
      obtain ⟨same, other⟩ := of_decide_eq_true passed
      exact ⟨same ▸ inside, other⟩
    · rintro ⟨inside, other⟩
      exact ⟨_, List.mem_filter.mpr ⟨inside, decide_eq_true ⟨rfl, other⟩⟩, rfl⟩
  refine promotes_link (fun stub listed => Ne.symm ((aliased stub).mp listed).2) ?_
  by_cases self : row.key.targetId = realId
  · exact .inl (self ▸ written')
  · exact .inr ⟨_, (aliased _).mpr ⟨stands.resolve_left self, self⟩, written'⟩

end Graph

/-! What a reconciliation keeps of the graph, and what it forgets. -/

namespace Graph
variable {g : Graph} {keep : List String} {file id path : String} {row : EdgeRow}

def Absent (g : Graph) (keep : List String) (file : String) : Prop := file ∈ g.artifactIds ∧ keeps keep file = false

def Present (g : Graph) (keep : List String) (file : String) : Prop := file ∈ g.artifactIds ∧ keeps keep file = true

def IsSymbolOf (g : Graph) (file id : String) : Prop :=
  ∃ node, g.nodes.find? id = some node ∧ node.nodeType = .symbol ∧ Text.startsWith id (symbolPrefix file) = true

def OfFile (g : Graph) (file id : String) : Prop := id = file ∨ g.IsSymbolOf file id

/-- What a file imports that stands for one that is still to be ingested. -/
structure Pending (g : Graph) (keep : List String) (path : String) (row : EdgeRow) : Prop where
  wanted : keeps keep (artifactId path) = true
  missing : g.isReal (artifactId path) = false
  stub : row.key.targetId ∈ g.artifactIds ∧ (g.artifactStubs.find? row.key.targetId).isSome = true
  candidate : row.key.targetId = artifactId path ∨ ⟨row.key.targetId, artifactId path⟩ ∈ g.stubCandidates.rows
  importer : row ∈ g.edges.rows ∧ row.key.relation = .imports ∧ row.ownerId = some row.key.sourceId
  other : g.Present keep row.key.sourceId ∧ row.key.sourceId ≠ artifactId path

structure Reconciled (g : Graph) (keep : List String) (after : Graph) : Prop where
  artifacts : after.artifactIds = g.artifactIds.filter (keeps keep)
  forgotten : ∀ file, g.Absent keep file → ∀ id, g.OfFile file id →
    after.nodes.find? id = none ∧ (∀ row ∈ after.edges.rows, row.touches id = false) ∧ after.artifactStubs.find? id = none
  nodes : ∀ id, (∀ file, g.Absent keep file → ¬g.OfFile file id) → after.nodes.find? id = g.nodes.find? id
  edges : ∀ key : EdgeKey, (∀ file, g.Absent keep file → ¬g.OfFile file key.sourceId ∧ ¬g.OfFile file key.targetId) →
    after.edges.find? key = g.edges.find? key
  files : ∀ file, g.Present keep file → ∀ id, g.OfFile file id → after.nodes.find? id = g.nodes.find? id
  pending : ∀ path row, g.Pending keep path row → after.edges.find? row.key = some row ∧
    ∀ nodes edges stubs outcome final, after.replaceStructure (artifactId path) nodes edges stubs = .ok (outcome, final) →
      final.Has ⟨row.key.sourceId, artifactId path, .imports⟩

def Doomed (g : Graph) (keep : List String) (id : String) : Prop :=
  ∃ file, g.Absent keep file ∧ sqlStartsWith id (symbolPrefix file) = true

structure Forgettable (g : Graph) (keep : List String) : Prop where
  symbols : ∀ file, g.Absent keep file → ∀ id, g.IsSymbolOf file id → g.Doomed keep id
  files : ∀ file, g.Present keep file → ∀ id, g.IsSymbolOf file id → ¬g.Doomed keep id
  stubs : ∀ path row, g.Pending keep path row → keeps keep row.key.targetId = true

theorem reconcileWorkspace_graph (g : Graph) (roots : Roots) (currentPaths : List String) : (g.reconcileWorkspace roots currentPaths).2 =
    g.without (g.doomedAny (g.artifactIds.filter fun file => !keeps (currentPaths.map roots.place) file)) := by
  have whole := forgetAbsent_graph (currentPaths.map roots.place) g.artifactIds g (fun _ => false) ReconcileOutcome.none
  rw [without_none] at whole
  unfold reconcileWorkspace
  rw [whole]
  exact congrArg (without · g) (funext fun id => Bool.false_or _)

/-- Whether a node goes with the files that are not in the set. -/
def gone (g : Graph) (keep : List String) : String → Bool := g.doomedAny (g.artifactIds.filter fun file => !keeps keep file)

theorem mem_symbolIds : id ∈ g.symbolIds file ↔ (∃ node, g.nodes.find? id = some node ∧ node.nodeType = .symbol) ∧
    sqlStartsWith id (symbolPrefix file) = true := by
  unfold symbolIds
  rw [List.mem_map]
  constructor
  · rintro ⟨node, member, rfl⟩
    obtain ⟨inside, passed⟩ := List.mem_filter.mp member
    rw [Bool.and_eq_true, decide_eq_true_eq] at passed
    exact ⟨⟨node, Table.find?_of_mem inside, passed.1⟩, passed.2⟩
  · rintro ⟨⟨node, found, symbol⟩, starts⟩
    obtain ⟨inside, rfl⟩ := Table.mem_of_find? found
    exact ⟨node, List.mem_filter.mpr ⟨inside, by rw [Bool.and_eq_true, decide_eq_true_eq]; exact ⟨symbol, starts⟩⟩, rfl⟩

theorem mem_artifactIds : id ∈ g.artifactIds ↔ ∃ node, g.nodes.find? id = some node ∧ node.nodeType = .artifact := by
  unfold artifactIds
  rw [List.mem_map]
  constructor
  · rintro ⟨node, member, rfl⟩
    obtain ⟨inside, passed⟩ := List.mem_filter.mp member
    exact ⟨node, Table.find?_of_mem inside, of_decide_eq_true passed⟩
  · rintro ⟨node, found, artifact⟩
    obtain ⟨inside, rfl⟩ := Table.mem_of_find? found
    exact ⟨node, List.mem_filter.mpr ⟨inside, decide_eq_true artifact⟩, rfl⟩

theorem gone_iff : g.gone keep id = true ↔ g.Absent keep id ∨ (∃ node, g.nodes.find? id = some node ∧ node.nodeType = .symbol) ∧ g.Doomed keep id := by
  unfold gone doomedAny doomed
  simp only [List.any_eq_true, List.mem_filter, Bool.not_eq_true', Bool.or_eq_true, decide_eq_true_eq, mem_symbolIds]
  constructor
  · rintro ⟨file, absent, rfl | ⟨symbol, starts⟩⟩
    · exact .inl absent
    · exact .inr ⟨symbol, file, absent, starts⟩
  · rintro (absent | ⟨symbol, file, absent, starts⟩)
    · exact ⟨id, absent, .inl rfl⟩
    · exact ⟨file, absent, .inr ⟨symbol, starts⟩⟩

theorem sqlStartsWith_startsWith {text lead : String} (starts : sqlStartsWith text lead = true) : Text.startsWith text lead = true := by
  have same := of_decide_eq_true starts
  refine Text.startsWith_iff.mpr ?_
  have first : (sqlText text).take (sqlText lead).length <+: text.toList := (List.take_prefix ..).trans (List.takeWhile_prefix _)
  rw [same] at first
  obtain ⟨rest, whole⟩ := first
  exact ⟨rest, whole.symm⟩

theorem gone_ofFile (goes : g.gone keep id = true) : ∃ file, g.Absent keep file ∧ g.OfFile file id := by
  rcases gone_iff.mp goes with absent | ⟨⟨node, found, symbol⟩, file, absent, starts⟩
  · exact ⟨id, absent, .inl rfl⟩
  · exact ⟨file, absent, .inr ⟨node, found, symbol, sqlStartsWith_startsWith starts⟩⟩

theorem gone_artifact (stored : id ∈ g.artifactIds) : g.gone keep id = true ↔ keeps keep id = false := by
  rw [gone_iff]
  constructor
  · rintro (absent | ⟨⟨node, found, symbol⟩, _⟩)
    · exact absent.2
    obtain ⟨other, found', artifact⟩ := mem_artifactIds.mp stored
    cases found.symm.trans found'
    cases symbol.symm.trans artifact
  · exact fun out => .inl ⟨stored, out⟩

section
variable {gone : String → Bool}

theorem find?_without_node (stays : gone id = false) : (g.without gone).nodes.find? id = g.nodes.find? id := by
  refine (Table.find?_delete ..).trans ?_
  cases found : g.nodes.find? id with
  | none => rfl
  | some node => rw [Option.filter_some, if_pos (by rw [show node.id = id from (Table.mem_of_find? found).2, stays]; rfl)]

theorem find?_without_gone (goes : gone id = true) : (g.without gone).nodes.find? id = none := by
  refine (Table.find?_delete ..).trans ?_
  cases found : g.nodes.find? id with
  | none => rfl
  | some node => rw [Option.filter_some, if_neg (by rw [show node.id = id from (Table.mem_of_find? found).2, goes]; exact Bool.false_ne_true)]

theorem find?_without_edge {key : EdgeKey} (source : gone key.sourceId = false) (target : gone key.targetId = false) :
    (g.without gone).edges.find? key = g.edges.find? key := by
  refine (Table.find?_delete ..).trans ?_
  cases found : g.edges.find? key with
  | none => rfl
  | some row =>
    obtain ⟨_, rfl⟩ := Table.mem_of_find? found
    refine if_pos ?_
    change (!(gone row.key.sourceId || gone row.key.targetId)) = true
    rw [show gone row.key.sourceId = false from source, show gone row.key.targetId = false from target]
    rfl

theorem without_edge (member : row ∈ (g.without gone).edges.rows) : gone row.key.sourceId = false ∧ gone row.key.targetId = false := by
  have stays := (List.mem_filter.mp member).2
  rwa [Bool.not_eq_true', Bool.or_eq_false_iff] at stays

theorem find?_without_stub (goes : gone id = true) : (g.without gone).artifactStubs.find? id = none := by
  refine (Table.find?_delete ..).trans ?_
  cases found : g.artifactStubs.find? id with
  | none => rfl
  | some stub =>
    refine if_neg ?_
    change ¬(!gone stub.nodeId) = true
    rw [show stub.nodeId = id from (Table.mem_of_find? found).2, goes]
    exact Bool.false_ne_true

end

theorem IsSymbolOf.gone_iff (symbol : g.IsSymbolOf file id) : g.gone keep id = true ↔ g.Doomed keep id := by
  obtain ⟨node, found, its, _⟩ := symbol
  rw [Graph.gone_iff]
  constructor
  · rintro (absent | ⟨_, doomed⟩)
    · obtain ⟨other, found', artifact⟩ := mem_artifactIds.mp absent.1
      cases found.symm.trans found'
      cases its.symm.trans artifact
    · exact doomed
  · exact fun doomed => .inr ⟨⟨node, found, its⟩, doomed⟩

theorem without_artifacts {gone kept : String → Bool} (goes : ∀ file ∈ g.artifactIds, gone file = !kept file) :
    (g.without gone).artifactIds = g.artifactIds.filter kept := by
  unfold artifactIds without Table.delete
  rw [List.filter_map, List.filter_filter, List.filter_filter]
  refine congrArg (List.map Node.id) (List.filter_congr fun node member => ?_)
  change (decide (node.nodeType = .artifact) && !gone node.id) = (kept node.id && decide (node.nodeType = .artifact))
  by_cases artifact : node.nodeType = .artifact
  · rw [goes node.id (mem_artifactIds.mpr ⟨node, Table.find?_of_mem member, artifact⟩), Bool.not_not, Bool.and_comm]
  · rw [decide_eq_false artifact, Bool.false_and, Bool.and_false]

/-- A reconciliation keeps what it should where each id belongs to one side and no stub is awaited. -/
theorem reconcileWorkspace_iff (g : Graph) (roots : Roots) (currentPaths : List String) :
    g.Reconciled (currentPaths.map roots.place) (g.reconcileWorkspace roots currentPaths).2 ↔ g.Forgettable (currentPaths.map roots.place) := by
  rw [reconcileWorkspace_graph]
  generalize currentPaths.map roots.place = keep
  change g.Reconciled keep (g.without (g.gone keep)) ↔ g.Forgettable keep
  constructor
  · intro reconciled
    refine ⟨fun file absent id symbol => ?_, fun file present id symbol doomed => ?_, fun path row pending => ?_⟩
    · by_contra spared
      have stays := find?_without_node (g := g) (Bool.eq_false_iff.mpr fun there => spared (symbol.gone_iff.mp there))
      rw [(reconciled.forgotten file absent id (.inr symbol)).1] at stays
      obtain ⟨node, found, _⟩ := symbol
      rw [found] at stays
      cases stays
    · have goes := find?_without_gone (g := g) (symbol.gone_iff.mpr doomed : g.gone keep id = true)
      rw [reconciled.files file present id (.inr symbol)] at goes
      obtain ⟨node, found, _⟩ := symbol
      cases found.symm.trans goes
    · by_contra out
      have goes : g.gone keep row.key.targetId = true := (gone_artifact pending.stub.1).mpr (Bool.eq_false_iff.mpr out)
      have stays := (without_edge (Table.mem_of_find? (reconciled.pending path row pending).1).1).2
      cases goes.symm.trans stays
  · intro forgettable
    have goes {file id : String} (absent : g.Absent keep file) (its : g.OfFile file id) : g.gone keep id = true := by
      rcases its with rfl | symbol
      · exact (gone_artifact absent.1).mpr absent.2
      · exact symbol.gone_iff.mpr (forgettable.symbols file absent id symbol)
    have spared {id : String} (apart : ∀ file, g.Absent keep file → ¬g.OfFile file id) : g.gone keep id = false :=
      Bool.eq_false_iff.mpr fun there => have ⟨file, absent, its⟩ := gone_ofFile there; apart file absent its
    have kept {file : String} (present : g.Present keep file) : g.gone keep file = false :=
      Bool.eq_false_iff.mpr fun there => by
        have out := (gone_artifact present.1).mp there
        cases present.2.symm.trans out
    refine ⟨without_artifacts fun file stored => ?_, fun file absent id its => ⟨find?_without_gone (goes absent its), fun row member => ?_,
      find?_without_stub (goes absent its)⟩, fun id apart => find?_without_node (spared apart), fun key apart => ?_, fun file present id its => ?_,
      fun path row pending => ?_⟩
    · rw [Bool.eq_iff_iff, gone_artifact stored, Bool.not_eq_true']
    · have ends := without_edge member
      rw [EdgeRow.touches, decide_eq_false_iff_not]
      rintro (same | same)
      · rw [same, goes absent its] at ends
        cases ends.1
      · rw [same, goes absent its] at ends
        cases ends.2
    · exact find?_without_edge (spared fun file absent => (apart file absent).1) (spared fun file absent => (apart file absent).2)
    · refine find?_without_node (Bool.eq_false_iff.mpr fun there => ?_)
      rcases its with rfl | symbol
      · exact Bool.eq_false_iff.mp (kept present) there
      · exact forgettable.files file present id symbol (symbol.gone_iff.mp there)
    · have target := kept ⟨pending.stub.1, forgettable.stubs path row pending⟩
      have stays := find?_without_edge (g := g) (kept pending.other.1) target
      rw [show g.edges.find? row.key = some row from Table.find?_of_mem pending.importer.1] at stays
      refine ⟨stays, fun nodes edges stubs outcome final done => ?_⟩
      refine replaceStructure_links done (Table.mem_of_find? stays).1 pending.importer.2.1 ⟨_, pending.importer.2.2, pending.other.2⟩ ?_
      refine pending.candidate.imp id fun listed => List.mem_filter.mpr ⟨listed, ?_⟩
      change (!g.gone keep row.key.targetId) = true
      rw [target]
      rfl

/-- A file that imports `./b`, which is `b/index.ts`, before that one was ingested. -/
def importedFolder : Graph where
  nodes := ⟨[artifactNode "src/a.ts" 0, artifactNode "src/b.ts" 0], by decide⟩
  edges := ⟨[⟨⟨"artifact:src/a.ts", "artifact:src/b.ts", .imports⟩, 1, 168, 0, 0, 1, some "artifact:src/a.ts"⟩], by decide⟩
  structureVersions := ⟨[⟨"artifact:src/a.ts", STRUCTURE_EXTRACTOR_VERSION⟩], by decide⟩
  artifactStubs := ⟨[⟨"artifact:src/b.ts"⟩], by decide⟩
  stubCandidates := ⟨[⟨"artifact:src/b.ts", "artifact:src/b.ts"⟩, ⟨"artifact:src/b.ts", "artifact:src/b/index.ts"⟩], by decide⟩

/-- The import goes with the stub, though the file that it stands for is in the set. -/
theorem awaited_stub_counterexample : ¬importedFolder.Reconciled (["src/a.ts", "src/b/index.ts"].map (Roots.place ⟨[], none⟩))
    (importedFolder.reconcileWorkspace ⟨[], none⟩ ["src/a.ts", "src/b/index.ts"]).2 := by
  intro reconciled
  have pending : importedFolder.Pending (["src/a.ts", "src/b/index.ts"].map (Roots.place ⟨[], none⟩)) "src/b/index.ts"
      ⟨⟨"artifact:src/a.ts", "artifact:src/b.ts", .imports⟩, 1, 168, 0, 0, 1, some "artifact:src/a.ts"⟩ := by
    refine ⟨?_, ?_, ?_, .inr ?_, ?_, ⟨⟨?_, ?_⟩, ?_⟩⟩ <;> decide +kernel
  have stays := congrArg Option.isSome (reconciled.pending _ _ pending).1
  exact absurd stays (by decide +kernel)

end Graph
end MindLeak.Core
