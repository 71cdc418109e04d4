import MindLeak.Core.Embeddings
import MindLeak.Proofs.Growth

/-! When the index catches up: a vector is that of its node's text as long as no
write changes the text of a node that has one, or that a call under way has read. -/

namespace MindLeak.Core

open List Table Core.Graph

variable {φ : Type}

def IndexCall.writes (embedding : String → String → List φ) (call : IndexCall φ) : List (String × List φ) :=
  call.ready ++ if call.failed then [] else call.chunks.flatten.map fun item => (item.1, embedding call.model item.2)

variable {α : Type}

theorem flatten_chunksFrom (size : Nat) (current items : List α) :
    (chunksFrom size current items).flatten = current ++ items := by
  induction items generalizing current with
  | nil =>
    cases current <;> simp [chunksFrom]
  | cons item rest ih =>
    unfold chunksFrom
    split
    next => rw [flatten_cons, ih, singleton_append]
    next => rw [ih, append_assoc, singleton_append]

theorem flatten_chunks (size : Nat) (items : List α) : (chunks size items).flatten = items :=
  flatten_chunksFrom size [] items

theorem mem_limited {limit : Nat} {rows : List α} {item : α} (member : item ∈ limited limit rows) : item ∈ rows := by
  unfold limited at member
  split at member
  · exact member
  · exact mem_of_mem_take member

theorem limited_nil {limit : Nat} {rows : List α} (positive : 0 < limit) (empty : limited limit rows = []) :
    rows = [] := by
  unfold limited at empty
  split at empty
  · exact empty
  · exact (take_eq_nil_iff.mp empty).resolve_left (by omega)

def Graph.textAfter (g : Graph) (node : Node) : String :=
  match g.nodes.find? node.id with
  | some row => (writeOver node row).text
  | none => node.text

theorem Graph.find?_upsertNode_text {g : Graph} {node row : Node} {id : String}
    (found : (g.upsertNode node).2.nodes.find? id = some row) :
    id = node.id ∧ row.text = g.textAfter node ∨ id ≠ node.id ∧ g.nodes.find? id = some row := by
  unfold upsertNode at found
  unfold textAfter
  cases known : g.nodes.find? node.id with
  | some old =>
    rw [known] at found
    have named : Row.key (writeOver node old) = node.id := (mem_of_find? known).2
    rw [Table.find?_put, named] at found
    split at found
    next same =>
      cases found
      exact .inl ⟨same.symm, rfl⟩
    next other => exact .inr ⟨fun same => other same.symm, found⟩
  | none =>
    rw [known] at found
    have named : Row.key node = node.id := rfl
    rw [Table.find?_put, named] at found
    split at found
    next same =>
      cases found
      exact .inl ⟨same.symm, rfl⟩
    next other => exact .inr ⟨fun same => other same.symm, found⟩

def IndexOp.Continues (call : Nat) : IndexOp → Prop
  | .embed other _ | .write other _ => other = call
  | _ => False

namespace EmbeddingIndex

variable {embedding : String → String → List φ} {model : String} {s : EmbeddingIndex φ}

structure Current (embedding : String → String → List φ) (model : String) (s : EmbeddingIndex φ) : Prop where
  stored : ∀ row ∈ s.embeddings.rows, row.model = model →
    ∃ node, s.graph.nodes.find? row.nodeId = some node ∧ row.vector = embedding model node.text
  coming : ∀ call ∈ s.calls.rows, call.model = model → ∀ item ∈ call.writes embedding, ∀ node,
    s.graph.nodes.find? item.1 = some node → item.2 = embedding model node.text

def Undisturbed (embedding : String → String → List φ) (model : String) (s : EmbeddingIndex φ) : IndexOp → Prop
  | .upsert node =>
    (∀ row ∈ s.embeddings.rows, row.nodeId = node.id → row.model = model →
      row.vector = embedding model (s.graph.textAfter node)) ∧
    ∀ call ∈ s.calls.rows, call.model = model → ∀ item ∈ call.writes embedding, item.1 = node.id →
      item.2 = embedding model (s.graph.textAfter node)
  | _ => True

theorem Current.upserted {node : Node} (current : s.Current embedding model)
    (undisturbed : s.Undisturbed embedding model (.upsert node)) : (s.upsertNode node).Current embedding model := by
  constructor
  · intro row member own
    obtain ⟨old, found, same⟩ := current.stored row member own
    have there : (s.graph.upsertNode node).2.nodeExists row.nodeId = true :=
      (upsertNode_grows node).exists (Option.isSome_iff_exists.mpr ⟨old, found⟩)
    obtain ⟨now, found'⟩ := Option.isSome_iff_exists.mp there
    refine ⟨now, found', ?_⟩
    rcases find?_upsertNode_text found' with ⟨named, text⟩ | ⟨_, kept⟩
    · rw [text]
      exact undisturbed.1 row member named own
    · cases Option.some.inj (kept.symm.trans found)
      exact same
  · intro call member own item listed now found
    rcases find?_upsertNode_text found with ⟨named, text⟩ | ⟨_, kept⟩
    · rw [text]
      exact undisturbed.2 call member own item listed named
    · exact current.coming call member own item listed now kept

theorem Current.deleted {ids : List String} (current : s.Current embedding model) :
    (s.deleteNodes ids).Current embedding model := by
  have find (id : String) : (s.deleteNodes ids).graph.nodes.find? id =
      (s.graph.nodes.find? id).filter fun node => !decide (node.id ∈ ids) := Table.find?_delete ..
  constructor
  · intro row member own
    obtain ⟨inside, spared⟩ := mem_filter.mp member
    obtain ⟨node, found, same⟩ := current.stored row inside own
    refine ⟨node, ?_, same⟩
    have named : node.id = row.nodeId := (mem_of_find? found).2
    rw [find, found, Option.filter_some, named, if_pos spared]
  · intro call member own item listed node found
    rw [find] at found
    exact current.coming call member own item listed node (Option.filter_eq_some_iff.mp found).1

theorem mem_missing {item : String × String} : item ∈ s.nodesMissingEmbeddings model ↔
    ∃ node, s.graph.nodes.find? item.1 = some node ∧ item.2 = node.text ∧
      ∀ row ∈ s.embeddings.rows, row.nodeId = node.id → row.model ≠ model := by
  unfold nodesMissingEmbeddings
  rw [mem_map]
  constructor
  · rintro ⟨node, member, rfl⟩
    obtain ⟨inside, without⟩ := mem_filter.mp member
    rw [Bool.not_eq_true', any_eq_false] at without
    exact ⟨node, Table.find?_of_mem inside, rfl, fun row stored named own => without row stored (decide_eq_true ⟨named, own⟩)⟩
  · rintro ⟨node, found, text, without⟩
    obtain ⟨inside, named⟩ := mem_of_find? found
    refine ⟨node, mem_filter.mpr ⟨inside, ?_⟩, Prod.ext named text.symm⟩
    rw [Bool.not_eq_true', any_eq_false]
    intro row stored both
    exact without row stored (of_decide_eq_true both).1 (of_decide_eq_true both).2

section
variable (current : s.Current embedding model)
include current

theorem Current.recorded {call : IndexCall φ}
    (coming : call.model = model → ∀ item ∈ call.writes embedding, ∀ node, s.graph.nodes.find? item.1 = some node →
      item.2 = embedding model node.text) :
    ({ s with calls := s.calls.put call } : EmbeddingIndex φ).Current embedding model := by
  refine ⟨current.stored, fun other member own => ?_⟩
  rcases mem_put.mp member with rfl | ⟨earlier, _⟩
  · exact coming own
  · exact current.coming other earlier own

theorem Current.begun {call limit batch : Nat} {named : String} {order : List (String × String) → List (String × String)}
    (permutes : ∀ rows, (order rows).Perm rows) :
    (s.beginCall call named limit batch order).Current embedding model := by
  refine current.recorded ?_
  rintro rfl item listed node found
  simp only [IndexCall.writes, Bool.false_eq_true, if_false, nil_append, flatten_chunks] at listed
  obtain ⟨read, member, rfl⟩ := mem_map.mp listed
  obtain ⟨node', found', text, _⟩ := mem_missing.mp ((permutes _).mem_iff.mp (mem_limited member))
  cases Option.some.inj (found'.symm.trans found)
  exact congrArg (embedding named) text

theorem Current.embedded {call : Nat} {reachable : Bool} :
    (s.embedChunk embedding call reachable).Current embedding model := by
  unfold embedChunk
  split
  · exact current
  rename_i underway found
  have known := current.coming underway (mem_of_find? found).1
  split
  · exact current
  rename_i idle
  split
  · exact current
  rename_i chunk rest waiting
  split
  · refine current.recorded fun own item listed => known own item ?_
    rw [Bool.not_eq_true, Bool.or_eq_false_iff, Bool.not_eq_false', List.isEmpty_iff] at idle
    simp only [IndexCall.writes, idle.1, idle.2, waiting, Bool.false_eq_true, if_false, List.nil_append, List.flatten_cons,
      List.map_append] at listed ⊢
    exact listed
  · refine current.recorded fun own item listed => known own item ?_
    simp only [IndexCall.writes, if_true, append_nil] at listed
    exact mem_append_left _ listed

theorem Current.written {call : Nat} {now : Int} :
    (s.writeVector call now).Current embedding model := by
  unfold writeVector
  split
  · exact current
  rename_i underway found
  have known := current.coming underway (mem_of_find? found).1
  split
  · exact current
  rename_i item rest ready
  have first (own : underway.model = model) : ∀ node, s.graph.nodes.find? item.1 = some node →
      item.2 = embedding model node.text :=
    known own item (mem_append_left _ (ready ▸ mem_cons_self))
  have others (own : underway.model = model) (other : String × List φ)
      (listed : other ∈ rest ++ if underway.failed then [] else
        underway.chunks.flatten.map fun item => (item.1, embedding underway.model item.2)) :
      other ∈ underway.writes embedding := by
    unfold IndexCall.writes
    rw [ready]
    exact mem_cons_of_mem _ listed
  dsimp only
  unfold upsertIfNodeExists
  split
  next there =>
    obtain ⟨node, here⟩ := Option.isSome_iff_exists.mp there
    have stored : ({ s with embeddings := s.embeddings.put ⟨item.1, underway.model, item.2.length, item.2, now⟩ } :
        EmbeddingIndex φ).Current embedding model := by
      refine ⟨fun row member own => ?_, current.coming⟩
      rcases mem_put.mp member with rfl | ⟨earlier, _⟩
      · exact ⟨node, here, first own node here⟩
      · exact current.stored row earlier own
    exact stored.recorded fun own other listed => known own other (others own other listed)
  next => exact current.recorded fun own other listed => known own other (others own other listed)

theorem Current.step {op : IndexOp} (undisturbed : s.Undisturbed embedding model op)
    (permutes : ∀ call named limit batch order, op = .begin call named limit batch order → ∀ rows, (order rows).Perm rows) :
    (s.perform embedding op).Current embedding model := by
  cases op with
  | upsert node => exact current.upserted undisturbed
  | delete ids => exact current.deleted
  | begin call named limit batch order => exact current.begun (permutes call named limit batch order rfl)
  | embed call reachable => exact current.embedded
  | write call now => exact current.written

end

theorem run_current {history : List (Entry (EmbeddingIndex φ) IndexOp)} (run : (embeddingIndex embedding).Run history s)
    (undisturbed : ∀ entry ∈ history, entry.before.Undisturbed embedding model entry.op) : s.Current embedding model := by
  induction run with
  | start =>
    refine ⟨fun row member => ?_, fun call member => ?_⟩
    · cases member
    · cases member
  | step past op ready ih =>
    have earlier := ih fun entry member => undisturbed entry (mem_cons_of_mem _ member)
    refine earlier.step (undisturbed _ mem_cons_self) ?_
    rintro call named limit batch order rfl
    exact ready.2

section
variable {call : Nat}

variable {underway : IndexCall φ}

theorem continues_idle {op : IndexOp} (continues : op.Continues call)
    (found : s.calls.find? call = some underway) (done : underway.chunks = []) (written : underway.ready = []) :
    s.perform embedding op = s := by
  cases op with
  | embed other reachable =>
    subst continues
    simp only [perform, embedChunk, found, done, written, isEmpty_nil, Bool.not_true, Bool.or_false]
    split <;> rfl
  | write other now =>
    subst continues
    simp only [perform, writeVector, found, written]
  | _ => cases continues

structure Busy (nodes : Table Node) (underway : IndexCall φ) : Prop where
  ready : ∀ item ∈ underway.ready, (nodes.find? item.1).isSome
  waiting : ∀ item ∈ underway.chunks.flatten, (nodes.find? item.1).isSome
  some_ : underway.failed = true ∨ underway.chunks.flatten ≠ [] ∨ underway.ready ≠ [] ∨ 0 < underway.indexed

theorem Busy.returned {nodes : Table Node} (busy : Busy nodes underway) : underway.returned ≠ some 0 := by
  intro nothing
  obtain ⟨ended, nothing⟩ := else_of_ne nothing nofun
  simp only [Bool.or_eq_true, Bool.not_eq_true', not_or, Bool.not_eq_true, Bool.not_eq_false, List.isEmpty_iff] at ended
  obtain ⟨⟨answered, sent⟩, written⟩ := ended
  rcases busy.some_ with failed | left | left | wrote
  · cases answered.symm.trans failed
  · rw [sent] at left
    exact left rfl
  · exact left written
  · exact absurd (Option.some.inj nothing) (by omega)

theorem Busy.step {op : IndexOp} (continues : op.Continues call) {nodes : Table Node} (same : s.graph.nodes = nodes)
    (found : s.calls.find? call = some underway) (busy : Busy nodes underway) :
    (s.perform embedding op).graph.nodes = nodes ∧
      ∃ later, (s.perform embedding op).calls.find? call = some later ∧ Busy nodes later := by
  have named : underway.call = call := (mem_of_find? found).2
  have recorded (t : EmbeddingIndex φ) {later : IndexCall φ} (keeps : later.call = call) :
      (t.calls.put later).find? call = some later := by
    rw [Table.find?_put]
    exact if_pos keeps
  cases op with
  | embed other reachable =>
    subst continues
    simp only [perform, embedChunk, found]
    split
    · exact ⟨same, underway, found, busy⟩
    rename_i idle
    split
    · exact ⟨same, underway, found, busy⟩
    rename_i chunk rest waiting
    split
    · refine ⟨same, _, recorded s named, ?_⟩
      have held := busy.waiting
      rw [waiting, flatten_cons] at held
      refine ⟨fun item member => ?_, fun item member => held item (mem_append_right _ member), ?_⟩
      · obtain ⟨read, inside, rfl⟩ := List.mem_map.mp member
        exact held read (List.mem_append_left _ inside)
      · rw [Bool.not_eq_true, Bool.or_eq_false_iff, Bool.not_eq_false', List.isEmpty_iff] at idle
        rcases busy.some_ with failed | left | left | wrote
        · exact .inl failed
        · rw [waiting, flatten_cons] at left
          by_cases sent : chunk = []
          · rw [sent, nil_append] at left
            exact .inr (.inl left)
          · exact .inr (.inr (.inl fun none => sent (map_eq_nil_iff.mp none)))
        · exact absurd idle.2 left
        · exact .inr (.inr (.inr wrote))
    · exact ⟨same, _, recorded s named, busy.ready, busy.waiting, .inl rfl⟩
  | write other now =>
    subst continues
    simp only [perform, writeVector, found]
    split
    · exact ⟨same, underway, found, busy⟩
    rename_i item rest ready
    have there : s.graph.nodeExists item.1 = true := by
      unfold nodeExists
      rw [same]
      exact busy.ready item (ready ▸ mem_cons_self)
    simp only [upsertIfNodeExists, there, if_true]
    refine ⟨same, _, recorded _ named, fun other member => busy.ready other (ready ▸ mem_cons_of_mem _ member), busy.waiting, ?_⟩
    exact .inr (.inr (.inr (Nat.succ_pos _)))
  | _ => cases continues

/-- The run ends with a call for some work that had the graph to itself and found nothing. -/
def ReportsNothingLeft (model : String) (history : List (Entry (EmbeddingIndex φ) IndexOp)) (s : EmbeddingIndex φ) : Prop :=
  ∃ call limit batch order later before after past,
    history = later ++ ⟨before, .begin call model limit batch order, after⟩ :: past ∧ 0 < limit ∧
      (∀ entry ∈ later, entry.op.Continues call) ∧ ∃ last, s.calls.find? call = some last ∧ last.returned = some 0

theorem reports_missing {history : List (Entry (EmbeddingIndex φ) IndexOp)} (run : (embeddingIndex embedding).Run history s)
    (reports : ReportsNothingLeft model history s) : s.nodesMissingEmbeddings model = [] := by
  obtain ⟨call, limit, batch, order, later, before, after, past, rfl, positive, alone, last, found, nothing⟩ := reports
  obtain ⟨middle, upTo⟩ := run.past
  have begun : ∀ reached, (embeddingIndex embedding).Run (⟨before, .begin call model limit batch order, after⟩ :: past) reached →
      reached = before.beginCall call model limit batch order := by
    intro reached first
    cases first
    rfl
  have permutes : ∀ rows, (order rows).Perm rows := by
    cases upTo with
    | step _ _ ready => exact ready.2
  have opened : (before.beginCall call model limit batch order).calls.find? call = some
      { call, model, chunks := chunks batch (limited limit (order (before.nodesMissingEmbeddings model))) } := by
    unfold beginCall
    rw [Table.find?_put]
    exact if_pos rfl
  by_cases idle : limited limit (order (before.nodesMissingEmbeddings model)) = []
  · have unchanged : s = before.beginCall call model limit batch order := by
      refine run.since (fun seen => seen = before.beginCall call model limit batch order) (fun _ op => op.Continues call)
        begun alone ?_
      rintro _ op continues rfl
      exact continues_idle continues opened (by rw [idle]; rfl) rfl
    rw [unchanged]
    exact ((permutes _).symm.trans (limited_nil positive idle ▸ .refl _)).eq_nil
  · obtain ⟨_, later, found', busy⟩ := run.since
      (fun seen => seen.graph.nodes = before.graph.nodes ∧
        ∃ underway, seen.calls.find? call = some underway ∧ Busy before.graph.nodes underway)
      (fun _ op => op.Continues call) (by
        intro reached first
        rw [begun reached first]
        refine ⟨rfl, _, opened, ?_, fun item member => ?_, .inr (.inl ?_)⟩
        · intro item absent
          cases absent
        · rw [flatten_chunks] at member
          obtain ⟨node, there, _⟩ := mem_missing.mp ((permutes _).mem_iff.mp (mem_limited member))
          rw [there]
          rfl
        · rwa [flatten_chunks])
      alone fun seen op continues working => by
        obtain ⟨same, underway, known, busy⟩ := working
        exact busy.step continues same known
    cases Option.some.inj (found.symm.trans found')
    exact absurd nothing busy.returned

end

structure CaughtUp (embedding : String → String → List φ) (model : String) (s : EmbeddingIndex φ) : Prop where
  covered : ∀ node ∈ s.graph.nodes.rows, ∃ row ∈ s.embeddings.rows, row.nodeId = node.id ∧ row.model = model ∧
    row.vector = embedding model node.text
  present : ∀ row ∈ s.embeddings.rows, row.model = model →
    ∃ node, s.graph.nodes.find? row.nodeId = some node ∧ row.vector = embedding model node.text

def spelling (_ text : String) : List Char := text.toList

def indexCall (call : Nat) : EmbeddingIndex Char → IndexOp := fun _ => .begin call "m" 8 2 id

theorem indexCall_ready {call : Nat} {visited : List (EmbeddingIndex Char)} {s : EmbeddingIndex Char} :
    (embeddingIndex spelling).enabled visited (indexCall call s) := ⟨Nat.succ_pos 1, fun _ => .refl _⟩

/-- A node is indexed and then written again with another access time only. -/
def indexedNode : List (EmbeddingIndex Char → IndexOp) :=
  [indexCall 1, fun _ => .upsert (.new "artifact:a" .artifact "old" 3), fun _ => .write 0 2, fun _ => .embed 0 true,
    indexCall 0, fun _ => .upsert (.new "artifact:a" .artifact "old" 1)]

/-- In every run whose writes leave the texts that have vectors, or are being
embedded, as they are, the index has caught up once a call reports nothing left. -/
theorem embedding_index_catches_up {history : List (Entry (EmbeddingIndex φ) IndexOp)}
    (run : (embeddingIndex embedding).Run history s)
    (undisturbed : ∀ entry ∈ history, entry.before.Undisturbed embedding model entry.op)
    (reports : ReportsNothingLeft model history s) : s.CaughtUp embedding model := by
  have current := run_current run undisturbed
  refine ⟨fun node member => ?_, current.stored⟩
  have covered : ∃ row ∈ s.embeddings.rows, row.nodeId = node.id ∧ row.model = model := by
    by_contra without
    have missing : (node.id, node.text) ∈ s.nodesMissingEmbeddings model :=
      mem_missing.mpr ⟨node, Table.find?_of_mem member, rfl, fun row stored named own => without ⟨row, stored, named, own⟩⟩
    rw [reports_missing run reports] at missing
    cases missing
  obtain ⟨row, stored, named, own⟩ := covered
  obtain ⟨node', found, vector⟩ := current.stored row stored own
  rw [named] at found
  cases Option.some.inj (found.symm.trans (Table.find?_of_mem member))
  exact ⟨row, stored, named, own, vector⟩

theorem embedding_index_catches_up_touched :
    ((embeddingIndex spelling).replay indexedNode).2.CaughtUp spelling "m" := by
  refine embedding_index_catches_up (Machine.replay_run ?_) ?_ ?_
  · simp only [indexedNode, forall_mem_cons]
    exact ⟨fun _ _ _ => indexCall_ready, fun _ _ _ => trivial, fun _ _ _ => trivial, fun _ _ _ => trivial, fun _ _ _ => indexCall_ready,
      fun _ _ _ => trivial, fun _ absent => absurd absent not_mem_nil⟩
  · refine forall_mem_cons.mpr ⟨trivial, forall_mem_cons.mpr ⟨?_, ?_⟩⟩
    · constructor
      · decide +kernel
      · decide +kernel
    · iterate 3 refine forall_mem_cons.mpr ⟨trivial, ?_⟩
      refine forall_mem_cons.mpr ⟨⟨?_, ?_⟩, fun _ absent => absurd absent not_mem_nil⟩
      · decide +kernel
      · decide +kernel
  · exact ⟨1, 8, 2, id, [], _, _, _, rfl, by decide, fun _ absent => absurd absent not_mem_nil, by decide +kernel⟩

def relabelled : List (EmbeddingIndex Char → IndexOp) :=
  [indexCall 1, fun _ => .upsert (.new "artifact:a" .artifact "new" 3), fun _ => .write 0 2, fun _ => .embed 0 true,
    indexCall 0, fun _ => .upsert (.new "artifact:a" .artifact "old" 1)]

def relabelledUnderway : List (EmbeddingIndex Char → IndexOp) :=
  [indexCall 1, fun _ => .write 0 3, fun _ => .upsert (.new "artifact:a" .artifact "new" 2), fun _ => .embed 0 true,
    indexCall 0, fun _ => .upsert (.new "artifact:a" .artifact "old" 1)]

/-- A run whose last call reports nothing left, although a vector is not its node's. -/
def ReportsEarly (ops : List (EmbeddingIndex Char → IndexOp)) : Prop :=
  (embeddingIndex spelling).Replays ops ∧
    ReportsNothingLeft "m" ((embeddingIndex spelling).replay ops).1 ((embeddingIndex spelling).replay ops).2 ∧
    ¬((embeddingIndex spelling).replay ops).2.CaughtUp spelling "m"

/-- Both times the second call reports nothing left, and the vector is the old label's. -/
theorem stale_vector_counterexample : ReportsEarly relabelled ∧ ReportsEarly relabelledUnderway := by
  have stale (s : EmbeddingIndex Char) (relabelled : s.graph.nodes.rows.map Node.text = ["new"])
      (vectors : ∀ row ∈ s.embeddings.rows, row.vector = "old".toList) : ¬s.CaughtUp spelling "m" := by
    intro caught
    obtain ⟨node, member, text⟩ := mem_map.mp (relabelled ▸ mem_cons_self (l := []))
    obtain ⟨row, stored, _, _, vector⟩ := caught.covered node member
    rw [vectors row stored, text] at vector
    exact absurd vector (by decide)
  refine ⟨⟨Machine.replay_run ?_, ?_, stale _ (by decide +kernel) (by decide +kernel)⟩,
    ⟨Machine.replay_run ?_, ?_, stale _ (by decide +kernel) (by decide +kernel)⟩⟩
  · simp only [relabelled, forall_mem_cons]
    exact ⟨fun _ _ _ => indexCall_ready, fun _ _ _ => trivial, fun _ _ _ => trivial, fun _ _ _ => trivial, fun _ _ _ => indexCall_ready,
      fun _ _ _ => trivial, fun _ absent => absurd absent not_mem_nil⟩
  · exact ⟨1, 8, 2, id, [], _, _, _, rfl, by decide, fun _ absent => absurd absent not_mem_nil, by decide +kernel⟩
  · simp only [relabelledUnderway, forall_mem_cons]
    exact ⟨fun _ _ _ => indexCall_ready, fun _ _ _ => trivial, fun _ _ _ => trivial, fun _ _ _ => trivial, fun _ _ _ => indexCall_ready,
      fun _ _ _ => trivial, fun _ absent => absurd absent not_mem_nil⟩
  · exact ⟨1, 8, 2, id, [], _, _, _, rfl, by decide, fun _ absent => absurd absent not_mem_nil, by decide +kernel⟩

end EmbeddingIndex
end MindLeak.Core
