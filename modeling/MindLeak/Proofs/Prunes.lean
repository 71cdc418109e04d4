import MindLeak.Core.Prune
import MindLeak.Proofs.SignalCommits

/-! What weighing an edge reads, and that it weighs what it weighs in any graph that answers alike. -/

namespace MindLeak.Core

open List

structure SignalReadings where
  (sourceDiversity structuralInDegree : Nat)
  (related rehearsed resolved oldTarget priorFailure : Bool)

namespace Prune
open Statements
variable (math : FloatMath) (settings : GraphSettings)

def signalReadings (g : Graph) (raw : EdgeRow) (now : Int) : Option SignalReadings :=
  if raw.key.relation.takesEvidence then
    let related := decide (raw.key.relation = .relatesTo) || g.relatedTo raw.key.targetId now
    some {
      sourceDiversity := g.sourceDiversity raw.key.targetId now
      structuralInDegree := g.structuralInDegree raw.key.targetId now
      related
      rehearsed := !related && g.hasRehearsedAttention math settings raw.key.targetId now
      resolved :=
        match raw.key.relation with
        | .failedOn => g.failureResolved raw now
        | .refactored => g.refactorResolved raw now
        | _ => false
      oldTarget := decide (raw.key.relation = .failedOn) && g.oldTarget raw
      priorFailure := decide (raw.key.relation = .failedOn) && g.priorFailure raw }
  else none

variable {math settings} {g h : Graph} {raw : EdgeRow} {now : Int}

def Alike (math : FloatMath) (settings : GraphSettings) (raw : EdgeRow) (now : Int) (g h : Graph) : Prop :=
  signalReadings math settings h raw now = signalReadings math settings g raw now

theorem Alike.parts (alike : Alike math settings raw now g h) (takes : raw.key.relation.takesEvidence = true) :
    h.sourceDiversity raw.key.targetId now = g.sourceDiversity raw.key.targetId now ∧
      h.structuralInDegree raw.key.targetId now = g.structuralInDegree raw.key.targetId now ∧
      (raw.key.relation ≠ .relatesTo → h.relatedTo raw.key.targetId now = g.relatedTo raw.key.targetId now ∧
        (g.relatedTo raw.key.targetId now = false →
          h.hasRehearsedAttention math settings raw.key.targetId now = g.hasRehearsedAttention math settings raw.key.targetId now)) ∧
      (raw.key.relation = .failedOn → h.failureResolved raw now = g.failureResolved raw now ∧ h.oldTarget raw = g.oldTarget raw ∧
        h.priorFailure raw = g.priorFailure raw) ∧
      (raw.key.relation = .refactored → h.refactorResolved raw now = g.refactorResolved raw now) := by
  unfold Alike signalReadings at alike
  rw [if_pos takes, if_pos takes] at alike
  obtain ⟨diversity, degree, related, rehearsed, resolved, old, prior⟩ := SignalReadings.mk.inj (Option.some.inj alike)
  refine ⟨diversity, degree, fun other => ?_, fun failed => ?_, fun refactored => ?_⟩
  · have none : decide (raw.key.relation = .relatesTo) = false := decide_eq_false other
    rw [none, Bool.false_or, Bool.false_or] at related
    refine ⟨related, fun unrelated => ?_⟩
    rw [none, Bool.false_or, Bool.false_or, related, unrelated] at rehearsed
    exact rehearsed
  · rw [failed] at resolved old prior
    exact ⟨resolved, old, prior⟩
  · rw [refactored] at resolved
    exact resolved

theorem deliberateAttention_reads (g : Graph) (takes : raw.key.relation.takesEvidence = true) :
    Reads (Alike math settings raw now g) (deliberateAttention (m := Id) (fun view => view g) math settings raw now)
      (deliberateAttention query math settings raw now : Statements Graph MindLeakError Bool) := by
  unfold deliberateAttention
  by_cases deliberate : raw.key.relation = .relatesTo
  · rw [if_pos deliberate, if_pos deliberate]
    exact .pure
  · rw [if_neg deliberate, if_neg deliberate]
    refine .bind (.query fun h held => ((held.parts takes).2.2.1 deliberate).1) ?_
    change Reads _ (if g.relatedTo raw.key.targetId now then true else _) (if g.relatedTo raw.key.targetId now then _ else _)
    cases related : g.relatedTo raw.key.targetId now with
    | true => exact .pure
    | false => exact .query fun h held => ((held.parts takes).2.2.1 deliberate).2 related

theorem withConsequence_reads (g : Graph) (takes : raw.key.relation.takesEvidence = true) (evidence : SignalEvidence) :
    Reads (Alike math settings raw now g) (withConsequence (m := Id) (fun view => view g) raw now evidence)
      (withConsequence query raw now evidence : Statements Graph MindLeakError SignalEvidence) := by
  unfold withConsequence
  split
  next failed =>
    have alike {h : Graph} (held : Alike math settings raw now g h) := (held.parts takes).2.2.2.1 failed
    exact .bind (.query fun h held => (alike held).1) (.bind (.query fun h held => (alike held).2.1)
      (.bind (.query fun h held => (alike held).2.2) .pure))
  next refactored => exact .bind (.query fun h held => (held.parts takes).2.2.2.2 refactored) .pure
  next => exact .pure

theorem weightedEdge_reads (g : Graph) (raw : EdgeRow) (now : Int) :
    Reads (Alike math settings raw now g) (weighed math settings g raw now)
      (weightedEdge query math settings raw now : Statements Graph MindLeakError WeightedEdge) := by
  suffices evidence : Reads (Alike math settings raw now g) (signalEvidenceFor (m := Id) (fun view => view g) math settings raw now)
      (signalEvidenceFor query math settings raw now : Statements Graph MindLeakError SignalEvidence) from .bind evidence .pure
  unfold signalEvidenceFor
  by_cases takes : raw.key.relation.takesEvidence = true
  · rw [if_pos takes, if_pos takes]
    exact .bind (.query fun h held => (held.parts takes).1) (.bind (.query fun h held => (held.parts takes).2.1)
      (.bind (deliberateAttention_reads g takes) (withConsequence_reads g takes _)))
  · rw [if_neg takes, if_neg takes]
    exact .pure

theorem Alike.weighed (alike : Alike math settings raw now g h) : weighed math settings h raw now = weighed math settings g raw now := by
  have here := (weightedEdge_reads g raw now).exec alike
  have there := (weightedEdge_reads h raw now).exec (Eq.refl (signalReadings math settings h raw now))
  exact Except.ok.inj (congrArg Prod.fst (there.symm.trans here))

def faded (math : FloatMath) (settings : GraphSettings) (g : Graph) (raw : EdgeRow) (now : Int) : Bool :=
  decide ((weighed math settings g raw now).effective < settings.decayPolicy.pruneThreshold)

def expiring (math : FloatMath) (settings : GraphSettings) (g : Graph) (raw : EdgeRow) (now : Int) : Bool :=
  raw.key.relation.isEpisodic && isCandidate settings (weighed math settings g raw now)

theorem Alike.faded (alike : Alike math settings raw now g h) : faded math settings h raw now = faded math settings g raw now := by
  rw [Prune.faded, alike.weighed, Prune.faded]

theorem Alike.expiring (alike : Alike math settings raw now g h) : expiring math settings h raw now = expiring math settings g raw now := by
  rw [Prune.expiring, alike.weighed, Prune.expiring]

theorem mem_candidates {key : EdgeKey} : key ∈ (expiringSignalCandidates math settings g now).map (·.key) ↔
    ∃ row ∈ g.edges.rows, row.key = key ∧ expiring math settings g row now = true := by
  unfold expiringSignalCandidates
  rw [(perm_insertionSort _ _).map _ |>.mem_iff, map_map]
  constructor
  · intro listed
    obtain ⟨edge, kept, rfl⟩ := mem_map.mp listed
    obtain ⟨weighs, candidate⟩ := mem_filter.mp kept
    obtain ⟨row, episodic, rfl⟩ := mem_map.mp weighs
    obtain ⟨member, relation⟩ := mem_filter.mp episodic
    exact ⟨row, member, rfl, Bool.and_eq_true_iff.mpr ⟨relation, candidate⟩⟩
  · rintro ⟨row, member, rfl, expires⟩
    obtain ⟨relation, candidate⟩ := Bool.and_eq_true_iff.mp expires
    exact mem_map.mpr ⟨_, mem_filter.mpr ⟨mem_map_of_mem (mem_filter.mpr ⟨member, relation⟩), candidate⟩, rfl⟩

def staleIn (math : FloatMath) (settings : GraphSettings) (g : Graph) (shielded : List EdgeKey) (now : Int) (rows : List EdgeRow) : List EdgeKey :=
  (rows.filter fun raw => faded math settings g raw now && decide (raw.key ∉ shielded)).map (·.key)

theorem staleEdges_reads (g : Graph) (shielded : List EdgeKey) (now : Int) (rows : List EdgeRow) :
    Reads (fun h => ∀ raw ∈ rows, Alike math settings raw now g h) (staleIn math settings g shielded now rows)
      (staleEdges math settings shielded now rows) := by
  induction rows with
  | nil => exact .pure
  | cons raw rest ih =>
    refine .bind ((weightedEdge_reads g raw now).mono fun h held => held raw mem_cons_self) ?_
    refine .bind (ih.mono fun h held other member => held other (mem_cons_of_mem raw member)) ?_
    have same : staleIn math settings g shielded now (raw :: rest) =
        if (weighed math settings g raw now).effective < settings.decayPolicy.pruneThreshold ∧ raw.key ∉ shielded then
          raw.key :: staleIn math settings g shielded now rest
        else staleIn math settings g shielded now rest := by
      unfold staleIn
      simp only [filter_cons, Prune.faded, ← Bool.decide_and, decide_eq_true_eq]
      split <;> rfl
    rw [same]
    exact .pure

end Prune
end MindLeak.Core

/-! Prunes among the calls of other processes: what stands between a prune's reads and its transaction, and
what the transaction deletes then. -/

namespace MindLeak.Core.Prune
open Statements
variable {math : FloatMath} {settings : GraphSettings} {now : Int} {g before after read found : Graph} {stale : List EdgeKey}

theorem deleteStale_rows (stale : List EdgeKey) (removed : Nat) (g : Graph) :
    (stale.foldl (fun (removed, g) key => (removed + (g.edges.rows.filter fun row => decide (row.key = key)).length,
      g.deleteEdges fun row => decide (row.key = key))) (removed, g)).2.edges.rows =
      g.edges.rows.filter fun row => decide (row.key ∉ stale) := by
  induction stale generalizing removed g with
  | nil => simp
  | cons key rest ih =>
    rw [List.foldl_cons, ih]
    change (g.edges.rows.filter _).filter _ = _
    rw [List.filter_filter]
    refine List.filter_congr fun row _ => ?_
    simp [Bool.and_comm]

theorem deleteFaded_rows : (deleteFaded stale g).2.edges.rows = g.edges.rows.filter fun row => decide (row.key ∉ stale) := by
  unfold deleteFaded Graph.reapCounted
  simp only [Graph.reap_edges]
  exact deleteStale_rows stale 0 g

theorem deleteStale_nodes (stale : List EdgeKey) (removed : Nat) (g : Graph) :
    (stale.foldl (fun (removed, g) key => (removed + (g.edges.rows.filter fun row => decide (row.key = key)).length,
      g.deleteEdges fun row => decide (row.key = key))) (removed, g)).2.nodes = g.nodes := by
  induction stale generalizing removed g with
  | nil => rfl
  | cons key rest ih => exact ih _ (g.deleteEdges _)

theorem deleteFaded_keeps {id : String} (touched : (deleteFaded stale g).2.isolated id = false) :
    (deleteFaded stale g).2.nodes.find? id = g.nodes.find? id := by
  have cleared : (deleteFaded stale g).2.edges = (deleteStale stale g).2.edges := by
    unfold deleteFaded Graph.reapCounted
    simp only [Graph.reap_edges]
  have still {h : Graph} (same : h.edges = (deleteStale stale g).2.edges) : h.isolated id = false :=
    (Graph.isolated_congr (same.trans cleared.symm) id).trans touched
  unfold deleteFaded Graph.reapCounted
  rw [Graph.find?_reap (still (by simp only [Graph.reap_edges])), Graph.find?_reap (still (by simp only [Graph.reap_edges])),
    Graph.find?_reap (still rfl)]
  exact congrArg (·.find? id) (deleteStale_nodes stale 0 g)

/-- What another call's statement that comes between a prune's read and its transaction leaves alone. -/
structure Spares (math : FloatMath) (settings : GraphSettings) (now : Int) (read before after : Graph) : Prop where
  /-- It writes no signal that approaches expiry, and none of the edges that the prune found faded. -/
  writes : ∀ row ∈ after.edges.rows, row ∉ before.edges.rows → expiring math settings after row now = false ∧
    ∀ stale ∈ read.edges.rows, stale.key = row.key → faded math settings read stale now = false
  /-- The evidence for the edges there, and for those that the prune found, stays what it was. -/
  evidence : ∀ row, row ∈ read.edges.rows ∨ row ∈ before.edges.rows → Alike math settings row now before after

structure Holds (math : FloatMath) (settings : GraphSettings) (now : Int) (read found : Graph) : Prop where
  expiring : ∀ row ∈ found.edges.rows, expiring math settings found row now = true → row ∈ read.edges.rows
  stale : ∀ row ∈ found.edges.rows, ∀ stale ∈ read.edges.rows, stale.key = row.key → faded math settings read stale now = true → row = stale
  evidence : ∀ row ∈ read.edges.rows, Alike math settings row now read found

theorem Holds.refl (read : Graph) : Holds math settings now read read :=
  ⟨fun _ member _ => member, fun _ member _ other same _ => List.inj_on_of_nodup_map read.edges.unique member other same.symm, fun _ _ => rfl⟩

theorem Holds.onward (holds : Holds math settings now read before) (spares : Spares math settings now read before after) :
    Holds math settings now read after := by
  have older {row : EdgeRow} (member : row ∈ after.edges.rows) (out : row ∉ before.edges.rows) := spares.writes row member out
  refine ⟨fun row member expires => ?_, fun row member stale listed same fades => ?_, fun row listed => ?_⟩
  · by_cases was : row ∈ before.edges.rows
    · rw [(spares.evidence row (.inr was)).expiring] at expires
      exact holds.expiring row was expires
    · rw [(older member was).1] at expires
      cases expires
  · by_cases was : row ∈ before.edges.rows
    · exact holds.stale row was stale listed same fades
    · rw [(older member was).2 stale listed same] at fades
      cases fades
  · exact (spares.evidence row (.inl listed)).trans (holds.evidence row listed)

def shielded (math : FloatMath) (settings : GraphSettings) (now : Int) (first : Graph) : List EdgeKey :=
  (expiringSignalCandidates math settings first now).map (·.key)

theorem prune_program : (GraphCall.prune settings now).program math =
    (query (expiringSignalCandidates math settings · now)).bind fun candidates =>
      (query (·.edges.rows)).bind fun rows =>
        (staleEdges math settings (candidates.map (·.key)) now rows).bind fun stale =>
          (execute fun g => .ok (deleteFaded stale g)).bind fun removed =>
            .pure (some ⟨removed.1, removed.2, candidates⟩) := by
  unfold GraphCall.program pruneWithSignal
  simp only [bind_eq, bind_assoc, pure_eq]
  rfl

theorem prune_next {found : List Graph} {update : Graph → Graph} {next : Graph → Statements Graph MindLeakError (Option PruneOutcome)}
    (rest : ((GraphCall.prune settings now).program math).resume found = .statement update next)
    (held : found.Pairwise fun later earlier => Holds math settings now earlier later) :
    update = id ∨ ∃ later read first, found = later ++ [read, first] ∧ (∀ s, ∃ answer, next s = .pure answer) ∧
      update = fun g => (deleteFaded (staleIn math settings read (shielded math settings now first) now read.edges.rows) g).2 := by
  have stands : ((GraphCall.prune settings now).program math).Stands found (.statement update next) := ⟨.of_resume rest, rest⟩
  rw [prune_program] at stands
  rcases stands.query with ⟨_, _, same⟩ | ⟨others, first, rfl, second⟩
  · cases same
    exact .inl rfl
  rcases second.query with ⟨_, _, same⟩ | ⟨later, read, rfl, third⟩
  · cases same
    exact .inl rfl
  have alike : ∀ h ∈ later, ∀ raw ∈ read.edges.rows, Alike math settings raw now read h := fun h member raw listed =>
    ((List.pairwise_append.mp (List.pairwise_append.mp held).1).2.2 h member read (List.mem_singleton_self read)).evidence raw listed
  rcases (staleEdges_reads read (shielded math settings now first) now read.edges.rows).stands third alike with ⟨_, same⟩ | ⟨last, _, _, behind⟩
  · cases same
    exact .inl rfl
  right
  rcases behind.statement with ⟨_, same⟩ | ⟨_, _, _, passed⟩
  · cases same
    exact ⟨later, read, first, List.append_assoc .., fun s => ⟨_, rfl⟩, rfl⟩
  · obtain ⟨_, same⟩ := passed.answer (.ok _) rfl
    cases same

section
variable {τ : Type} [DecidableEq τ] {start : Graph} {history : List (Entry (Calls τ Graph MindLeakError (Option PruneOutcome) GraphCall) (CallOp τ GraphCall))}
  {state : Calls τ Graph MindLeakError (Option PruneOutcome) GraphCall} {caller : τ} {found : List Graph}

/-- No other call's statement disturbs a prune between its first read and its transaction. -/
def Undisturbed (math : FloatMath) (entry : Entry (Calls τ Graph MindLeakError (Option PruneOutcome) GraphCall) (CallOp τ GraphCall)) : Prop :=
  ∀ caller settings now found update next, entry.op ≠ .step caller → entry.before.standing caller = .running (.prune settings now) found →
    ((GraphCall.prune settings now).program math).resume found = .statement update next →
      ∀ read ∈ found, Spares math settings now read entry.before.store entry.after.store

structure Prunes (math : FloatMath) (settings : GraphSettings) (now : Int) (caller : τ)
    (history : List (Entry (Calls τ Graph MindLeakError (Option PruneOutcome) GraphCall) (CallOp τ GraphCall))) (store : Graph)
    (found : List Graph) : Prop where
  holds : ∀ read ∈ found, Holds math settings now read store
  chain : found.Pairwise fun later earlier => Holds math settings now earlier later
  /-- An edge with the key of one that a read found faded has stood there ever since. -/
  stood : ∀ entry ∈ history, ∀ earlier, entry.before.standing caller = .running (.prune settings now) earlier → ∀ read ∈ earlier,
    ∀ stale ∈ read.edges.rows, faded math settings read stale now = true → ∀ row ∈ store.edges.rows, stale.key = row.key →
      row ∈ entry.before.store.edges.rows

omit [DecidableEq τ] in
theorem Spares.unchanged (read before : Graph) : Spares math settings now read before before :=
  ⟨fun _ member out => absurd member out, fun _ _ => rfl⟩

omit [DecidableEq τ] in
theorem Prunes.onward {before : Calls τ Graph MindLeakError (Option PruneOutcome) GraphCall} {op : CallOp τ GraphCall}
    {reached : Calls τ Graph MindLeakError (Option PruneOutcome) GraphCall}
    (kept : Prunes math settings now caller history before.store found)
    (spares : ∀ read ∈ found, Spares math settings now read before.store reached.store)
    (pruning : before.standing caller = .running (.prune settings now) found)
    (grown : ∀ entry ∈ history, ∀ had, entry.before.standing caller = .running (.prune settings now) had → ∃ more, found = more ++ had) :
    Prunes math settings now caller (⟨before, op, reached⟩ :: history) reached.store found := by
  refine ⟨fun read member => (kept.holds read member).onward (spares read member), kept.chain, ?_⟩
  -- What stands there now was there before, for the statement writes no edge that a read found faded.
  have was {had : List Graph} (part : ∃ more, found = more ++ had) {read : Graph} (member : read ∈ had) {stale row : EdgeRow}
      (listed : stale ∈ read.edges.rows) (fades : faded math settings read stale now = true) (inside : row ∈ reached.store.edges.rows)
      (same : stale.key = row.key) : row ∈ before.store.edges.rows := by
    obtain ⟨more, rfl⟩ := part
    by_contra out
    have fresh := ((spares read (List.mem_append_right more member)).writes row inside out).2 stale listed same
    cases fades.symm.trans fresh
  refine List.forall_mem_cons.mpr ⟨fun had running read member stale listed fades row inside same => ?_,
    fun entry old had running read member stale listed fades row inside same => ?_⟩
  · cases pruning.symm.trans running
    exact was ⟨[], rfl⟩ member listed fades inside same
  · exact kept.stood entry old had running read member stale listed fades row
      (was (grown entry old had running) member listed fades inside same) same

theorem mem_staleIn {key : EdgeKey} {keys : List EdgeKey} (member : key ∈ staleIn math settings g keys now g.edges.rows) :
    ∃ row ∈ g.edges.rows, row.key = key ∧ faded math settings g row now = true ∧ key ∉ keys := by
  obtain ⟨row, kept, rfl⟩ := List.mem_map.mp member
  obtain ⟨inside, passed⟩ := List.mem_filter.mp kept
  rw [Bool.and_eq_true, decide_eq_true_eq] at passed
  exact ⟨row, inside, rfl, passed⟩

theorem run_prunes (run : (calling τ (GraphCall.program math) start).Run history state)
    (undisturbed : ∀ entry ∈ history, Undisturbed math entry) {update : Graph → Graph}
    {next : Graph → Statements Graph MindLeakError (Option PruneOutcome)}
    (pruning : state.standing caller = .running (.prune settings now) found)
    (rest : ((GraphCall.prune settings now).program math).resume found = .statement update next) :
    Prunes math settings now caller history state.store found := by
  induction run generalizing found update next with
  | start => cases pruning
  | @step history before past op ready ih =>
    obtain ⟨here, earlier⟩ := List.forall_mem_cons.mp undisturbed
    change (before.apply (GraphCall.program math) op).standing caller = _ at pruning
    change Prunes math settings now caller _ (before.apply (GraphCall.program math) op).store found
    rcases Calls.apply_standing (GraphCall.program math) before op caller with ⟨same, silent⟩ | ⟨_, _, idle, nowAt⟩ | ⟨_, _, _, _, nowAt⟩ |
      ⟨_, _, _, _, _, nowAt, _⟩ | ⟨call, had, update', next', mine, was, rest', nowAt, done⟩
    · rw [same] at pruning
      have kept := ih earlier pruning rest
      have spares : ∀ read ∈ found, Spares math settings now read before.store (before.apply (GraphCall.program math) op).store := by
        by_cases mine : op = .step caller
        · rw [silent mine]
          exact fun read _ => .unchanged read before.store
        · exact here caller settings now found update next mine pruning rest
      exact kept.onward (fun read member => spares read member) pruning fun entry member had running =>
        (Calls.run_grows past caller entry member (congrArg Calls.trace running)).imp fun more its => by
          rw [pruning] at its
          exact (Prod.mk.inj (Option.some.inj its)).2
    · cases nowAt.symm.trans pruning
      refine ⟨by simp, .nil, ?_⟩
      refine List.forall_mem_cons.mpr ⟨fun had running => ?_, fun entry member had running => ?_⟩
      · cases idle.symm.trans running
      · obtain ⟨_, its⟩ := Calls.run_grows past caller entry member (congrArg Calls.trace running)
        rw [idle] at its
        cases its
    · cases nowAt.symm.trans pruning
    · cases nowAt.symm.trans pruning
    · cases nowAt.symm.trans pruning
      have kept := ih earlier was rest'
      have silent : update' = id := by
        rcases prune_next rest' kept.chain with silent | ⟨_, _, _, _, last, _⟩
        · exact silent
        · obtain ⟨_, passed⟩ := last before.store
          rw [resume, rest'] at rest
          cases passed.symm.trans rest
      rw [done, silent]
      refine ⟨List.forall_mem_cons.mpr ⟨.refl before.store, kept.holds⟩, .cons kept.holds kept.chain, ?_⟩
      refine List.forall_mem_cons.mpr ⟨fun had running read member stale listed fades row inside same => inside, kept.stood⟩

/-- On whole numbers, and as far as the decay of an edge without evidence asks for more. -/
def wholeMath : FloatMath where
  exp2 x := if 0 ≤ x then 2 ^ x.floor.toNat else 1 / 2 ^ (-x).floor.toNat
  log2 x := Nat.log2 x.floor.toNat
  ln1p x := if x = 16 then 2833213344056216 / 1000000000000000 else 0

def defaultSettings : GraphSettings := ⟨⟨[], 1 / 20⟩, 12⟩

def modifiedOnce : Graph where
  nodes := ⟨[Node.new "execution:run" .execution "cargo test" 0, Node.new "artifact:src/a.rs" .artifact "src/a.rs" 0], by decide⟩
  edges := ⟨[⟨⟨"execution:run", "artifact:src/a.rs", .modified⟩, 1, 24, 0, 0, 1, none⟩], by decide⟩
  structureVersions := .empty
  artifactStubs := .empty
  stubCandidates := .empty

def fiveDays : Int := 432000

def modifiedAgain : GraphCall :=
  .other (execute fun g => (g.upsertEdge (Edge.new "execution:run" "artifact:src/a.rs" .modified fiveDays) none).map fun (_, after) => ((), after))

abbrev Prompt : Type := Calls Bool Graph MindLeakError (Option PruneOutcome) GraphCall → CallOp Bool GraphCall

def pruneReads : List Prompt := [fun _ => .step false, fun _ => .step false, fun _ => .start false (.prune defaultSettings fiveDays)]

def pruneRun (prompts : List Prompt) := (calling Bool (GraphCall.program wholeMath) modifiedOnce).replay prompts

def isApart (entry : Entry (Calls Bool Graph MindLeakError (Option PruneOutcome) GraphCall) (CallOp Bool GraphCall)) : Bool :=
  [true, false].all fun caller =>
    (match entry.op with
      | .step mover => decide (mover = caller)
      | _ => false) ||
    match entry.before.standing caller with
      | .running (.prune _ _) (_ :: _) => false
      | _ => true

theorem undisturbed_of_apart {entry : Entry (Calls Bool Graph MindLeakError (Option PruneOutcome) GraphCall) (CallOp Bool GraphCall)}
    (apart : isApart entry = true) : Undisturbed math entry := by
  intro caller settings now found update next other running _ read member
  have here := List.all_eq_true.mp apart caller (by cases caller <;> simp)
  rw [Bool.or_eq_true, running] at here
  rcases here with mine | silent
  · split at mine
    on_goal 2 => cases mine
    rename_i mover same
    cases of_decide_eq_true mine
    exact absurd same other
  · cases found with
    | nil => cases member
    | cons => cases silent

/-- Where every write between a prune's reads and its transaction leaves alone what the prune goes by, whatever the prune deletes has
faded where it is deleted. -/
theorem prune_removes_faded (run : (calling τ (GraphCall.program math) start).Run history state)
    (undisturbed : ∀ entry ∈ history, Undisturbed math entry) (pruning : state.standing caller = .running (.prune settings now) found) :
    let after := (state.apply (GraphCall.program math) (.step caller)).store
    (∀ row ∈ state.store.edges.rows, row ∉ after.edges.rows →
      (weighed math settings state.store row now).effective < settings.decayPolicy.pruneThreshold ∧
        (∀ candidate ∈ expiringSignalCandidates math settings state.store now, candidate.key ≠ row.key) ∧
        (∀ later read first, found = later ++ [read, first] → row ∈ read.edges.rows) ∧
        ∀ entry ∈ history, ∀ had, entry.before.standing caller = .running (.prune settings now) had → 2 ≤ had.length →
          row ∈ entry.before.store.edges.rows) ∧
      ∀ node ∈ state.store.nodes.rows, ∀ row ∈ after.edges.rows, row.touches node.id = true → node ∈ after.nodes.rows := by
  intro after
  rcases Statements.answers_or_statement (((GraphCall.prune settings now).program math).resume found) with ⟨answer, gives⟩ | ⟨update, next, rest⟩
  · have same : after = state.store := (congrArg Calls.store (Calls.step_answer pruning gives)).trans rfl
    rw [same]
    exact ⟨fun row member out => absurd member out, fun node member _ _ _ => member⟩
  · have same : after = update state.store := congrArg Calls.store (Calls.step_statement pruning rest)
    have kept := run_prunes run undisturbed pruning rest
    rcases prune_next rest kept.chain with rfl | ⟨later, read, first, rfl, _, rfl⟩
    · rw [same]
      exact ⟨fun row member out => absurd member out, fun node member _ _ _ => member⟩
    · have held := kept.holds read (by simp)
      have first_held := kept.holds first (by simp)
      rw [same]
      refine ⟨fun row member out => ?_, fun node member row inside touches => ?_⟩
      · have deleted : row.key ∈ staleIn math settings read (shielded math settings now first) now read.edges.rows := by
          rw [deleteFaded_rows, List.mem_filter, decide_eq_true_eq] at out
          by_contra spared
          exact out ⟨member, spared⟩
        obtain ⟨stale, listed, key, fades, open_⟩ := mem_staleIn deleted
        cases held.stale row member stale listed key fades
        have alike := held.evidence row listed
        refine ⟨of_decide_eq_true (alike.faded.trans fades), fun candidate expiring same => open_ ?_, fun _ _ _ split => ?_,
          fun entry past had running long => ?_⟩
        · obtain ⟨other, there, same', expires⟩ := mem_candidates.mp (List.mem_map.mpr ⟨candidate, expiring, same⟩)
          cases List.inj_on_of_nodup_map state.store.edges.unique there member same'
          have earlier := first_held.expiring row member expires
          rw [(first_held.evidence row earlier).expiring] at expires
          exact mem_candidates.mpr ⟨row, earlier, rfl, expires⟩
        · obtain ⟨_, last⟩ := List.append_inj' split rfl
          cases last
          exact listed
        · obtain ⟨more, its⟩ := Calls.run_grows run caller entry past (congrArg Calls.trace running)
          rw [pruning] at its
          have whole := (Prod.mk.inj (Option.some.inj its)).2
          have had_read : read ∈ had := by
            have ends : [read, first] <:+ had :=
              List.suffix_of_suffix_length_le (List.suffix_append later _) ⟨more, whole.symm⟩ long
            exact ends.subset List.mem_cons_self
          exact kept.stood entry past had running read had_read row listed fades row member rfl
      · have touched : (deleteFaded (staleIn math settings read (shielded math settings now first) now read.edges.rows) state.store).2.isolated
            node.id = false := by
          refine Bool.eq_false_iff.mpr fun alone => ?_
          have apart := List.all_eq_true.mp alone row inside
          rw [touches] at apart
          cases apart
        exact (Table.mem_of_find? ((deleteFaded_keeps touched).trans (Table.find?_of_mem member))).1

/-- A prune with nobody else's write among its reads: the edge goes, for it has faded. -/
theorem prune_alone_removes_faded : (pruneRun pruneReads).2.store.edges.rows ≠ [] ∧
    ((pruneRun pruneReads).2.apply (GraphCall.program wholeMath) (.step false)).store.edges.rows = [] ∧
    ∀ row ∈ (pruneRun pruneReads).2.store.edges.rows,
      (weighed wholeMath defaultSettings (pruneRun pruneReads).2.store row fiveDays).effective < defaultSettings.decayPolicy.pruneThreshold := by
  have gone : ((pruneRun pruneReads).2.apply (GraphCall.program wholeMath) (.step false)).store.edges.rows = [] := by decide +kernel
  refine ⟨by decide +kernel, gone, fun row member => ?_⟩
  have apart : (pruneRun pruneReads).1.all isApart = true := by decide +kernel
  have run : (calling Bool (GraphCall.program wholeMath) modifiedOnce).Run (pruneRun pruneReads).1 (pruneRun pruneReads).2 :=
    Machine.replay_run fun _ _ _ _ _ => trivial
  have pruning : (pruneRun pruneReads).2.standing false = .running (.prune defaultSettings fiveDays) [modifiedOnce, modifiedOnce] := rfl
  have undisturbed : ∀ entry ∈ (pruneRun pruneReads).1, Undisturbed wholeMath entry :=
    fun entry member => undisturbed_of_apart (List.all_eq_true.mp apart entry member)
  exact ((prune_removes_faded run undisturbed pruning).1 row member (by rw [gone]; exact List.not_mem_nil)).1

/-- The file is modified again behind the prune's reads, and the edge, as fresh as can be, is deleted. -/
theorem refreshed_edge_counterexample : ∃ history state, (calling Bool (GraphCall.program wholeMath) modifiedOnce).Run history state ∧
    state.standing false = .running (.prune defaultSettings fiveDays) [modifiedOnce, modifiedOnce] ∧
    ∃ row ∈ state.store.edges.rows, row ∉ (state.apply (GraphCall.program wholeMath) (.step false)).store.edges.rows ∧
      ¬(weighed wholeMath defaultSettings state.store row fiveDays).effective < defaultSettings.decayPolicy.pruneThreshold ∧
      row.reinforcementCount = 2 ∧ row.updatedAt = fiveDays := by
  refine ⟨_, (pruneRun ([fun _ => .step true, fun _ => .start true modifiedAgain] ++ pruneReads)).2,
    Machine.replay_run fun _ _ _ _ _ => trivial, rfl, ?_⟩
  refine ⟨⟨⟨"execution:run", "artifact:src/a.rs", .modified⟩, 1, 24, fiveDays, 0, 2, none⟩, ?_, ?_, ?_, rfl, rfl⟩ <;> decide +kernel

end
end MindLeak.Core.Prune
