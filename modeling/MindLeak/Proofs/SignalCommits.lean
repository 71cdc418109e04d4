import MindLeak.Core.SignalCall
import MindLeak.Proofs.Gathering
import MindLeak.Proofs.Writes

/-! What a commit of signal consolidation consumes and stores. -/

namespace MindLeak.Core

open List Option Table Bool

variable {g after : Graph} {candidates : List SignalCandidate}

namespace Graph

theorem signal_rows (candidate : SignalCandidate) :
    (g.edges.rows.filter candidate.is).length = ((g.edges.find? candidate.key).any candidate.is).toNat := by
  have keyed := g.edges.countP_key candidate.key candidate.is
  rw [← keyed, countP_eq_length_filter]
  refine congrArg List.length (filter_congr fun row _ => ?_)
  by_cases same : row.key = candidate.key
  · rw [show decide (Row.key row = candidate.key) = true from decide_eq_true same, Bool.true_and]
  · rw [show decide (Row.key row = candidate.key) = false from decide_eq_false same, Bool.false_and]
    exact decide_eq_false fun both => same both.1

theorem foldl_deleteEdges_count (items : List SignalCandidate) (first second : Nat) (before : Graph) :
    items.foldl (fun (removed, g) candidate =>
      (removed + (g.edges.rows.filter candidate.is).length, deleteEdges g candidate.is)) (first + second, before) =
    (first + (items.foldl (fun (removed, g) candidate =>
      (removed + (g.edges.rows.filter candidate.is).length, deleteEdges g candidate.is)) (second, before)).1,
      (items.foldl (fun (removed, g) candidate =>
        (removed + (g.edges.rows.filter candidate.is).length, deleteEdges g candidate.is)) (second, before)).2) := by
  induction items generalizing first second before with
  | nil => rfl
  | cons item items ih =>
    rw [foldl_cons, foldl_cons]
    dsimp only
    rw [Nat.add_assoc]
    exact ih _ _ _

theorem deleteSignalEdges_cons (candidate : SignalCandidate) (rest : List SignalCandidate) :
    g.deleteSignalEdges (candidate :: rest) =
      ((g.edges.rows.filter candidate.is).length + ((g.deleteEdges candidate.is).deleteSignalEdges rest).1,
        ((g.deleteEdges candidate.is).deleteSignalEdges rest).2) := by
  unfold deleteSignalEdges
  rw [foldl_cons]
  dsimp only
  rw [Nat.zero_add]
  exact foldl_deleteEdges_count rest _ 0 _

theorem deleteSignalEdges_le (candidates : List SignalCandidate) : (g.deleteSignalEdges candidates).1 ≤ candidates.length := by
  induction candidates generalizing g with
  | nil => exact Nat.le_refl 0
  | cons candidate rest ih =>
    rw [deleteSignalEdges_cons, signal_rows]
    have one := toNat_le ((g.edges.find? candidate.key).any candidate.is)
    have others := ih (g := g.deleteEdges candidate.is)
    rw [length_cons]
    omega

/-- Where as many rows go as there are candidates, each was there as it was read, and no edge is counted twice. -/
theorem deleteSignalEdges_all (all : (g.deleteSignalEdges candidates).1 = candidates.length) :
    (∀ candidate ∈ candidates, ∃ row, g.edges.find? candidate.key = some row ∧ candidate.is row = true) ∧
      (candidates.map SignalCandidate.key).Nodup ∧
      (g.deleteSignalEdges candidates).2.nodes = g.nodes ∧
      ∀ key, (g.deleteSignalEdges candidates).2.edges.find? key =
        if key ∈ candidates.map SignalCandidate.key then none else g.edges.find? key := by
  induction candidates generalizing g with
  | nil => exact ⟨nofun, nodup_nil, rfl, fun _ => rfl⟩
  | cons candidate rest ih =>
    rw [deleteSignalEdges_cons] at all ⊢
    have one : (g.edges.rows.filter candidate.is).length ≤ 1 := by
      rw [signal_rows]
      exact toNat_le _
    have others := deleteSignalEdges_le (g := g.deleteEdges candidate.is) rest
    rw [length_cons] at all
    obtain ⟨there, distinct, nodes, found⟩ := ih (g := g.deleteEdges candidate.is) (by omega)
    have here : ((g.edges.find? candidate.key).any candidate.is).toNat = 1 := by
      rw [← signal_rows]
      omega
    obtain ⟨row, known, is_⟩ := (any_eq_true _ _).mp (toNat_eq_one.mp here)
    have deleted (key : EdgeKey) : (g.deleteEdges candidate.is).edges.find? key =
        if key = candidate.key then none else g.edges.find? key := by
      unfold deleteEdges
      rw [find?_delete]
      split
      next same =>
        rw [same, known, filter_some, if_neg (by rw [is_]; decide)]
      next other =>
        cases before : g.edges.find? key with
        | none => rfl
        | some kept =>
          have keyed : kept.key = key := (mem_of_find? before).2
          have isNot : candidate.is kept = false := by
            exact decide_eq_false fun both => other (keyed.symm.trans both.1)
          rw [filter_some, if_pos (by rw [isNot]; decide)]
    refine ⟨fun other inside => ?_, ?_, nodes, fun key => ?_⟩
    · rcases mem_cons.mp inside with rfl | later
      · exact ⟨row, known, is_⟩
      obtain ⟨kept, found, is_⟩ := there other later
      rw [deleted] at found
      split at found
      · cases found
      · exact ⟨kept, found, is_⟩
    · refine nodup_cons.mpr ⟨fun again => ?_, distinct⟩
      obtain ⟨other, later, same⟩ := mem_map.mp again
      obtain ⟨kept, found, -⟩ := there other later
      rw [deleted, if_pos same] at found
      cases found
    · rw [found, deleted, map_cons]
      by_cases mine : key = candidate.key
      · rw [if_pos mine, ite_self, if_pos (mine ▸ mem_cons_self)]
      rw [if_neg mine]
      by_cases later : key ∈ rest.map SignalCandidate.key
      · rw [if_pos later, if_pos (mem_cons_of_mem _ later)]
      · rw [if_neg later, if_neg fun inside => (mem_cons.mp inside).elim mine later]

variable {id : String}

theorem find?_reap (touched : g.isolated id = false) (passes : Node → Bool) :
    (g.reap passes).nodes.find? id = g.nodes.find? id := by
  refine List.foldlRecOn (motive := fun now : Graph => now.nodes.find? id = g.nodes.find? id) _ _ rfl fun before kept node inside => ?_
  refine (find?_deleteNode fun same => ?_).trans kept
  have passed := (mem_filter.mp inside).2
  rw [and_eq_true, same, touched] at passed
  cases passed.2

theorem deleteOrphanSignalNodes_keeps (candidates : List SignalCandidate) (touched : g.isolated id = false) :
    (g.deleteOrphanSignalNodes candidates).2.edges = g.edges ∧
      (g.deleteOrphanSignalNodes candidates).2.nodes.find? id = g.nodes.find? id := by
  have both : ∀ {before : Graph} (passes : Node → Bool), before.edges = g.edges ∧ before.nodes.find? id = g.nodes.find? id →
      (before.reap passes).edges = g.edges ∧ (before.reap passes).nodes.find? id = g.nodes.find? id :=
    fun passes kept => ⟨(reap_edges passes).trans kept.1, (find?_reap ((isolated_congr kept.1 id).trans touched) passes).trans kept.2⟩
  refine both _ ?_
  exact List.foldlRecOn (motive := fun reached : Nat × Graph =>
    reached.2.edges = g.edges ∧ reached.2.nodes.find? id = g.nodes.find? id) _ _ ⟨rfl, rfl⟩ fun _ kept _ _ => both _ kept

theorem touched_source {key : EdgeKey} (there : (g.edges.find? key).isSome = true) : g.isolated key.sourceId = false := by
  obtain ⟨row, found⟩ := isSome_iff_exists.mp there
  obtain ⟨inside, rfl⟩ := mem_of_find? found
  refine all_eq_false.mpr ⟨row, inside, ?_⟩
  unfold EdgeRow.touches
  simp [Row.key]

theorem find?_upsertNode {node : Node} (other : node.id ≠ id) :
    (g.upsertNode node).2.nodes.find? id = g.nodes.find? id := by
  unfold upsertNode
  split
  next row known =>
    rw [find?_put]
    exact if_neg fun same => other ((mem_of_find? known).2.symm.trans same)
  next =>
    rw [find?_put]
    exact if_neg other

theorem upsertNodes_first {node : Node} {rest : List Node} (others : ∀ other ∈ rest, other.id ≠ node.id)
    (content : node.content.isSome = true) :
    ∃ row, (g.upsertNodes (node :: rest)).2.nodes.find? node.id = some row ∧ row.label = node.label ∧ row.content = node.content := by
  rw [upsertNodes_cons]
  have written : ∃ row, (g.upsertNode node).2.nodes.find? node.id = some row ∧ row.label = node.label ∧ row.content = node.content := by
    unfold upsertNode
    split
    next old known =>
      refine ⟨writeOver node old, ?_, rfl, ?_⟩
      · dsimp only
        rw [find?_put]
        exact if_pos (mem_of_find? known).2
      · unfold writeOver
        exact or_of_isSome content
    next =>
      refine ⟨node, ?_, rfl, rfl⟩
      rw [find?_put]
      exact if_pos rfl
  refine upsertNodes_keeps (fun now => ∃ row, now.nodes.find? node.id = some row ∧ row.label = node.label ∧ row.content = node.content)
    written fun before other inside kept => ?_
  rwa [find?_upsertNode (others other inside)]

end Graph

structure SignalCommit.Consumes (done : SignalCommit) (before after : Graph) : Prop where
  versions : ∀ candidate ∈ done.candidates, ∃ row, before.edges.find? candidate.key = some row ∧ candidate.is row = true
  distinct : (done.candidates.map SignalCandidate.key).Nodup
  edges : ∀ key, (after.edges.find? key).isSome = true ↔ key ∈ done.facts.edges.map Edge.key ∨
    key ∉ done.candidates.map SignalCandidate.key ∧ (before.edges.find? key).isSome = true
  kept : ∀ key, key ∉ done.facts.edges.map Edge.key → key ∉ done.candidates.map SignalCandidate.key →
    after.edges.find? key = before.edges.find? key
  linked : ∀ candidate ∈ done.candidates, (after.edges.find? ⟨done.facts.intentId, candidate.targetId, .relatesTo⟩).isSome = true
  stored : ∃ intent ∈ done.facts.nodes, intent.id = done.facts.intentId ∧
    ∃ row, after.nodes.find? intent.id = some row ∧ row.label = intent.label ∧ row.content = intent.content

section
variable {lease : Option MaintenanceLease} {leaseOwner : String} {now : Int}

theorem commitSignalConsolidation_ok {nodes : List Node} {edges : List Edge} {answer : WriteOutcome × Nat × Nat}
    (committed : commitSignalConsolidation lease leaseOwner now candidates nodes edges g = .ok (answer, after)) :
    leaseValid leaseOwner now lease = true ∧ (g.deleteSignalEdges candidates).1 = candidates.length ∧
      ∃ created written, ((g.deleteSignalEdges candidates).2.upsertNodes nodes).2.upsertEdges edges none = .ok (created, written) ∧
        after = (written.deleteOrphanSignalNodes candidates).2 := by
  obtain ⟨valid, committed⟩ := ite_else committed
  obtain ⟨all, committed⟩ := ite_else committed
  obtain ⟨⟨created, written⟩, wrote, rest⟩ := bind_ok committed
  refine ⟨by simpa using valid, Decidable.not_not.mp all, created, written, wrote, ?_⟩
  exact (congrArg Prod.snd (Except.ok.inj rest)).symm

theorem intentId_ne_artifactId (key path : String) : intentId key ≠ artifactId path := by
  intro same
  have lead := congrArg (Text.startsWith · "intent:") same
  unfold intentId artifactId at lead
  rw [Text.startsWith_append, Text.startsWith_apart _ (by decide)] at lead
  cases lead

theorem SignalCommit.consumes {done : SignalCommit} {summary : IntentSummary} {persistenceTime : Int}
    {answer : WriteOutcome × Nat × Nat} (some_ : done.candidates ≠ [])
    (made : distill summary done.candidates persistenceTime = .ok done.facts)
    (committed : commitSignalConsolidation lease leaseOwner now done.candidates done.facts.nodes done.facts.edges g = .ok (answer, after)) :
    done.Consumes g after := by
  obtain ⟨-, all, created, written, wrote, rfl⟩ := commitSignalConsolidation_ok committed
  obtain ⟨versions, distinct, nodes, found⟩ := Graph.deleteSignalEdges_all all
  obtain ⟨plain, distilled, named, noded, edged⟩ := distill_ok made
  obtain ⟨key, intent, plainNamed, id, -, content, plainNodes, -⟩ := factsFromSummary_ok distilled
  have intentNamed : intent.id = done.facts.intentId := id.trans (plainNamed.symm.trans named.symm)
  have linking (candidate : SignalCandidate) (inside : candidate ∈ done.candidates) :
      ⟨done.facts.intentId, candidate.targetId, .relatesTo⟩ ∈ done.facts.edges.map Edge.key := by
    rw [edged, map_append, named]
    refine mem_append_right _ (mem_map.mpr ⟨_, mem_map_of_mem ?_, rfl⟩)
    exact Graph.mem_foldl_pushNew.mpr (.inr (mem_map_of_mem inside))
  have grown (key : EdgeKey) (inside : key ∈ done.facts.edges.map Edge.key) : (written.edges.find? key).isSome = true := by
    obtain ⟨edge, member, rfl⟩ := mem_map.mp inside
    exact (Graph.upsertEdges_grows wrote).2 edge member
  have as_was (key : EdgeKey) (outside : key ∉ done.facts.edges.map Edge.key) : written.edges.find? key =
      if key ∈ done.candidates.map SignalCandidate.key then none else g.edges.find? key := by
    rw [Graph.find?_upsertEdges wrote outside, Graph.upsertNodes_frame]
    exact found key
  obtain ⟨first, firstInside⟩ := exists_mem_of_ne_nil _ some_
  obtain ⟨edges, stays⟩ := Graph.deleteOrphanSignalNodes_keeps done.candidates
    (Graph.touched_source (grown _ (linking first firstInside)))
  refine ⟨versions, distinct, fun key => ?_, fun key outside other => ?_, fun candidate inside => ?_, ?_⟩
  · rw [edges]
    by_cases inside : key ∈ done.facts.edges.map Edge.key
    · exact ⟨fun _ => .inl inside, fun _ => grown key inside⟩
    rw [as_was key inside]
    by_cases consumed : key ∈ done.candidates.map SignalCandidate.key
    · rw [if_pos consumed]
      exact ⟨nofun, fun either => either.elim (absurd · inside) fun both => absurd consumed both.1⟩
    · rw [if_neg consumed]
      exact ⟨fun there => .inr ⟨consumed, there⟩, fun either => either.elim (absurd · inside) And.right⟩
  · rw [edges, as_was key outside, if_neg other]
  · rw [edges]
    exact grown _ (linking candidate inside)
  · have first : ∃ row, ((g.deleteSignalEdges done.candidates).2.upsertNodes done.facts.nodes).2.nodes.find? intent.id = some row ∧
        row.label = intent.label ∧ row.content = intent.content := by
      rw [noded, plainNodes]
      refine Graph.upsertNodes_first (fun other inside => ?_) content
      obtain ⟨file, -, rfl⟩ := mem_map.mp inside
      rw [id]
      exact (intentId_ne_artifactId key file.path).symm
    obtain ⟨row, stored, label, content⟩ := first
    refine ⟨intent, ?_, intentNamed, row, ?_, label, content⟩
    · rw [noded, plainNodes]
      exact .head _
    · rw [intentNamed] at stored ⊢
      rw [stays, Graph.upsertEdges_frame wrote]
      exact stored

end
end MindLeak.Core
