import MindLeak.Proofs.Reruns

/-! Where a repair may stop, and what the next one makes of it. -/

namespace MindLeak.Core

open List

theorem Graph.moveOwner_total (g : Graph) (fromId toId : String) : (g.moveOwner fromId toId).total = g.total := by
  unfold total moveOwner Table.update
  rw [map_map]
  refine congrArg List.sum (map_congr_left fun row _ => ?_)
  rw [Function.comp_apply]
  split <;> rfl

variable {g h sources targets after : Graph} {root fromId toId : String} {stopped : RepairStore}

namespace Repair
open Core.Graph Statements

theorem Collapsed.reclaimed_eq (done : Collapsed root g) (rows : ∀ row ∈ g.edges.rows, row.Sound) :
    reclaimed g = mapOwners (fun owner => (ownerRewrite? g owner).getD owner) g := by
  have listed (owner : String) : owner ∈ ownerIds g ↔ ∃ row ∈ g.edges.rows, row.ownerId = some owner := by
    rw [ownerIds, mem_dedup, mem_filterMap]
  refine (foldl_moveOwner (ownerRewrite? g) (ownerIds g) (fun owner member toId renames => ?_) g).trans ?_
  · obtain ⟨row, inside, owns⟩ := (listed owner).mp member
    exact (done.settled ((rows row inside).owned owner owns) renames).1
  · refine mapOwners_congr fun row inside owner owns => ?_
    rw [if_pos ((listed owner).mpr ⟨row, inside, owns⟩)]

theorem Collapsed.moveOwner (done : Collapsed root g) (rows : ∀ row ∈ g.edges.rows, row.Sound) {owner : String}
    (artifact : Text.startsWith owner "artifact:" = true) (renames : ownerRewrite? g owner = some toId) :
    reclaimed (g.moveOwner owner toId) = reclaimed g := by
  have still : Collapsed root (g.moveOwner owner toId) := ⟨done.paths, done.unknown⟩
  have settled := done.settled artifact renames
  rw [still.reclaimed_eq (moveOwner_rows (fun _ => settled.2) rows), done.reclaimed_eq rows, moveOwner_eq, mapOwners_comp]
  refine congrArg (mapOwners · g) (funext fun other => ?_)
  change (ownerRewrite? g (if other = owner then toId else other)).getD (if other = owner then toId else other) = _
  by_cases same : other = owner
  · simp [same, renames, settled.1]
  · simp [same]

structure Resumes (root : String) (g h : Graph) : Prop where
  repairable : h.Repairable
  settles : Settles root h
  same : repaired root h = repaired root g
  total : h.total = g.total

theorem merged_total (ends : g.EdgesEnd) (apart : fromId ≠ toId) : (merged fromId toId g).total = g.total := by
  obtain ⟨sources, targets, after, merges⟩ := ends.merges fromId toId
  rw [Merges.merged merges, merges.total apart]

theorem Resumes.merge (resumes : Resumes root g h) (next : Next root h fromId toId) : Resumes root g (merged fromId toId h) := by
  have ends := resumes.repairable.ends
  have fewer := next.paths_merged ends resumes.settles
  obtain ⟨sources, targets, after, merges⟩ := ends.merges fromId toId
  refine ⟨?_, fun pair member => ?_, (next.repaired ends resumes.settles).trans resumes.same,
    (merged_total ends next.apart).trans resumes.total⟩
  · rw [Merges.merged merges]
    exact merges.repairable next.names resumes.repairable
  · rw [fewer] at member
    exact resumes.settles pair (mem_filter.mp member).1

theorem Resumes.moveOwner (resumes : Resumes root g h) (done : Collapsed root h) {owner : String}
    (artifact : Text.startsWith owner "artifact:" = true) (renames : ownerRewrite? h owner = some toId) :
    Resumes root g (h.moveOwner owner toId) := by
  have still : Collapsed root (h.moveOwner owner toId) := ⟨done.paths, done.unknown⟩
  refine ⟨⟨resumes.repairable.ends.moveOwner owner toId, moveOwner_rows (fun _ => (done.settled artifact renames).2) resumes.repairable.rows⟩,
    resumes.settles, ?_, ?_⟩
  · rw [still.repaired, done.moveOwner resumes.repairable.rows artifact renames, ← done.repaired, resumes.same]
  · rw [moveOwner_total, resumes.total]

inductive MergeCut (g : Graph) (fromId toId : String) (sources targets : Graph) : RepairStore → Prop
  | inserted : MergeCut g fromId toId sources targets ⟨g.insertNode fromId toId, none⟩
  | sources : MergeCut g fromId toId sources targets ⟨sources, some (fromId, [.source])⟩
  | targets : MergeCut g fromId toId sources targets ⟨targets, some (fromId, [.source, .target])⟩
  | moved : MergeCut g fromId toId sources targets ⟨targets.moveOwner fromId toId, some (fromId, [.source, .target])⟩

theorem mergeNode_stops (merges : g.Merges fromId toId sources targets after) (stops : (mergeNode fromId toId).Stops ⟨g, none⟩ stopped) :
    stopped = ⟨g, none⟩ ∨ MergeCut g fromId toId sources targets stopped ∨ stopped = ⟨after, none⟩ := by
  have ran {before after : Graph} {mark copied : Option (String × List Endpoint)} {run : Graph → Result Graph}
      {next : Unit → RepairProgram Bool} (stops : ((execute copied run).bind next).Stops ⟨before, mark⟩ stopped)
      (returned : run before = .ok after) :
      stopped = ⟨before, mark⟩ ∨ (next ()).Stops ⟨after, copied⟩ stopped := by
    refine Stops.execute ?_ stops
    rw [returned]
    rfl
  obtain ⟨copied, copied', rfl, _⟩ := merges
  rcases Stops.query stops with rfl | stops
  · exact .inl rfl
  rcases ran stops rfl with rfl | stops
  · exact .inl rfl
  rcases ran stops copied with rfl | stops
  · exact .inr (.inl .inserted)
  rcases ran stops copied' with rfl | stops
  · exact .inr (.inl .sources)
  rcases ran stops rfl with rfl | stops
  · exact .inr (.inl .targets)
  rcases ran stops rfl with rfl | stops
  · exact .inr (.inl .moved)
  exact .inr (.inr stops.of_pure)

inductive Interrupted (root : String) (g : Graph) : RepairStore → Prop
  | between {h : Graph} (resumes : Resumes root g h) : Interrupted root g ⟨h, none⟩
  | within {h sources targets after : Graph} {fromId toId : String} {stopped : RepairStore} (resumes : Resumes root g h)
    (next : Next root h fromId toId) (merges : h.Merges fromId toId sources targets after) (cut : MergeCut h fromId toId sources targets stopped) :
    Interrupted root g stopped

theorem Resumes.stops {α : Type} {program : Bool → RepairProgram α} (resumes : Resumes root g h) (next : Next root h fromId toId)
    (stops : ((mergeNode fromId toId).bind program).Stops ⟨h, none⟩ stopped) :
    Interrupted root g stopped ∨ (program (h.nodeExists toId)).Stops ⟨merged fromId toId h, none⟩ stopped := by
  have ends := resumes.repairable.ends
  obtain ⟨sources, targets, after, merges⟩ := ends.merges fromId toId
  refine (Stops.bind (mergeNode_merged ends fromId toId) stops).imp_left fun inside => ?_
  rcases mergeNode_stops merges inside with rfl | cut | rfl
  · exact .between resumes
  · exact .within resumes next merges cut
  · rw [← Merges.merged merges]
    exact .between (resumes.merge next)

theorem Resumes.mergeNodes (resumes : Resumes root g h) {pairs : List (String × String)} (paths : absolutePathNodes root h = pairs)
    (outcome : RepairOutcome) : Resumes root g (mergedAll pairs h) ∧ absolutePathNodes root (mergedAll pairs h) = [] ∧
      ∀ stopped, (mergeNodes pairs outcome).Stops ⟨h, none⟩ stopped → Interrupted root g stopped := by
  induction pairs generalizing h outcome with
  | nil =>
    refine ⟨resumes, paths, fun stopped stops => ?_⟩
    rw [stops.of_pure]
    exact .between resumes
  | cons pair rest ih =>
    obtain ⟨fromId, toId⟩ := pair
    have next : Next root h fromId toId := .plain rest paths
    obtain ⟨behind, none, later⟩ := ih (resumes.merge next) (paths_rest resumes.repairable.ends resumes.settles paths)
      (count outcome (h.nodeExists toId))
    rw [mergeNodes, mergedAll, if_neg next.apart, if_neg next.apart]
    exact ⟨behind, none, fun stopped stops => (resumes.stops next stops).elim id (later stopped)⟩

theorem longestKnownSuffix_stops {file : FileId} {s : RepairStore} (stops : (longestKnownSuffix file).Stops s stopped) : stopped = s := by
  unfold longestKnownSuffix at stops
  generalize candidates file.path = parts at stops
  induction parts with
  | nil => exact stops.of_pure
  | cons candidate shorter ih =>
    rcases Stops.query stops with same | stops
    · exact same
    · split at stops
      · exact stops.of_pure
      · exact ih stops

theorem Resumes.collapseIds (resumes : Resumes root g h) (paths : absolutePathNodes root h = []) {skipped ids : List (String × FileId)}
    (listed : absoluteIds h = skipped ++ ids) (unknown : ∀ pair ∈ skipped, knownSuffix h pair.2 = none) (outcome : RepairOutcome) :
    Resumes root g (collapsed ids h) ∧ Collapsed root (collapsed ids h) ∧
      ∀ stopped, (collapseIds ids outcome).Stops ⟨h, none⟩ stopped → Interrupted root g stopped := by
  induction ids generalizing h skipped outcome with
  | nil =>
    rw [append_nil] at listed
    refine ⟨resumes, ⟨paths, listed ▸ unknown⟩, fun stopped stops => ?_⟩
    rw [stops.of_pure]
    exact .between resumes
  | cons pair rest ih =>
    obtain ⟨fromId, file⟩ := pair
    have ends := resumes.repairable.ends
    have looks (stopped : RepairStore) (stops : (Repair.collapseIds ((fromId, file) :: rest) outcome).Stops ⟨h, none⟩ stopped) :=
      (Stops.bind (longestKnownSuffix_exec h none file) stops).imp_left longestKnownSuffix_stops
    rw [collapsed]
    cases found : knownSuffix h file with
    | none =>
      have listed' : absoluteIds h = (skipped ++ [(fromId, file)]) ++ rest := by
        rw [listed, append_assoc]
        rfl
      obtain ⟨behind, done, later⟩ := ih resumes paths listed' (fun pair member => (mem_append.mp member).elim (unknown pair)
        fun here => mem_singleton.mp here ▸ found) outcome
      refine ⟨behind, done, fun stopped stops => ?_⟩
      rcases looks stopped stops with rfl | stops
      · exact .between resumes
      · rw [found] at stops
        exact later stopped stops
    | some relative =>
      have next : Next root h fromId (file.at relative) := .known paths skipped rest file relative listed unknown found
      have there := knownSuffix_there found
      have paths' : absolutePathNodes root (merged fromId (file.at relative) h) = [] := by
        rw [next.paths_merged ends resumes.settles, paths]
        rfl
      obtain ⟨behind, done, later⟩ := ih (resumes.merge next) paths' (ids_rest ends there listed)
        (fun pair member => knownSuffix_none (merged_fewer ends there) (unknown pair member)) (count outcome (h.nodeExists (file.at relative)))
      dsimp only
      rw [if_neg (Ne.symm next.apart)]
      refine ⟨behind, done, fun stopped stops => ?_⟩
      rcases looks stopped stops with rfl | stops
      · exact .between resumes
      rw [found] at stops
      dsimp only at stops
      rw [if_neg (Ne.symm next.apart)] at stops
      exact (resumes.stops next stops).elim id (later stopped)

theorem ownerRewrites_stops {owners : List String} (stops : (ownerRewrites owners).Stops ⟨g, none⟩ stopped) : stopped = ⟨g, none⟩ := by
  induction owners with
  | nil => exact stops.of_pure
  | cons owner rest ih =>
    rw [ownerRewrites] at stops
    split at stops
    · exact ih stops
    rename_i lead path cut
    split at stops
    next =>
      rcases Stops.bind (longestKnownSuffix_exec g none ⟨lead, path, ""⟩) stops with inside | stops
      · exact longestKnownSuffix_stops inside
      split at stops
      · exact ih stops
      rcases Stops.bind (ownerRewrites_exec g rest) stops with inside | stops
      · exact ih inside
      · exact stops.of_pure
    next => exact ih stops

theorem moveOwners_stops (resumes : Resumes root g h) (done : Collapsed root h) {pairs : List (String × String)}
    (renames : ∀ pair ∈ pairs, Text.startsWith pair.1 "artifact:" = true ∧ ownerRewrite? h pair.1 = some pair.2)
    (stops : (moveOwners pairs).Stops ⟨h, none⟩ stopped) : Interrupted root g stopped := by
  induction pairs generalizing h with
  | nil =>
    rw [stops.of_pure]
    exact .between resumes
  | cons pair rest ih =>
    obtain ⟨⟨artifact, renamed⟩, later⟩ := forall_mem_cons.mp renames
    have moved : (fun s : RepairStore => (Except.ok (s.graph.moveOwner pair.1 pair.2) : Result Graph).map fun graph => ((), (⟨graph, none⟩ : RepairStore)))
        ⟨h, none⟩ = .ok ((), ⟨h.moveOwner pair.1 pair.2, none⟩) := rfl
    rcases Stops.execute moved stops with rfl | stops
    · exact .between resumes
    · exact ih (resumes.moveOwner done artifact renamed) ⟨done.paths, done.unknown⟩ later stops

theorem reclaim_stops (resumes : Resumes root g h) (done : Collapsed root h) (stops : reclaimAbsoluteOwnership.Stops ⟨h, none⟩ stopped) :
    Interrupted root g stopped := by
  rcases Stops.query stops with rfl | stops
  · exact .between resumes
  rcases Stops.bind (ownerRewrites_exec h _) stops with inside | stops
  · rw [ownerRewrites_stops inside]
    exact .between resumes
  · refine moveOwners_stops resumes done (fun pair member => ?_) stops
    obtain ⟨owner, listed, renames⟩ := mem_filterMap.mp member
    obtain ⟨toId, rewrites, rfl⟩ := Option.map_eq_some_iff.mp renames
    obtain ⟨row, inside, owns⟩ := mem_filterMap.mp (mem_dedup.mp listed)
    exact ⟨(resumes.repairable.rows row inside).owned owner owns, rewrites⟩

theorem repair_stops (sound : g.Repairable) (settles : Settles (trimRoot root) g) (stops : (repairWorkspacePaths root).Stops ⟨g, none⟩ stopped) :
    Interrupted (trimRoot root) g stopped := by
  have resumes : Resumes (trimRoot root) g g := ⟨sound, settles, rfl, rfl⟩
  unfold repairWorkspacePaths at stops
  dsimp only at stops
  split at stops
  next =>
    rw [stops.of_pure]
    exact .between resumes
  rcases Stops.query stops with rfl | stops
  · exact .between resumes
  obtain ⟨outcome, done, ends⟩ := mergeNodes_exec sound.ends (absolutePathNodes (trimRoot root) g) ⟨0, 0⟩
  obtain ⟨plain, paths, within⟩ := resumes.mergeNodes rfl ⟨0, 0⟩
  rcases Stops.bind done stops with inside | stops
  · exact within stopped inside
  rcases Stops.query stops with rfl | stops
  · exact .between plain
  obtain ⟨outcome', done', _⟩ := collapseIds_exec ends (absoluteIds (mergedAll (absolutePathNodes (trimRoot root) g) g)) outcome
  obtain ⟨behind, through, within⟩ := plain.collapseIds paths (nil_append _).symm (fun _ member => by cases member) outcome
  rcases Stops.bind done' stops with inside | stops
  · exact within stopped inside
  rcases Stops.bind (reclaim_exec _) stops with inside | stops
  · exact reclaim_stops behind through inside
  have last := Stops.last reclaimAbsoluteOwnership ⟨collapsed (absoluteIds (mergedAll (absolutePathNodes (trimRoot root) g) g))
    (mergedAll (absolutePathNodes (trimRoot root) g) g), none⟩
  rw [reclaim_exec] at last
  rw [stops.of_pure]
  exact reclaim_stops behind through last

end Repair

namespace Graph
variable {column : Endpoint}

theorem leaving_eq_nil : g.leaving column fromId = [] ↔ ∀ row ∈ g.edges.rows, column.of row.key ≠ fromId := by
  rw [leaving, filter_eq_nil_iff]
  simp only [decide_eq_true_eq, ne_eq]

theorem copyEdges_none (none : g.leaving column fromId = []) : g.copyEdges column fromId toId = .ok g := by
  change (g.leaving column fromId).foldlM _ g = _
  rw [none]
  rfl

theorem copyEdges_more (counted : ∀ row ∈ g.edges.rows, row.Sound) (some : g.leaving column fromId ≠ [])
    (copied : g.copyEdges column fromId toId = .ok after) : g.total < after.total := by
  rw [copyEdges_total copied]
  obtain ⟨row, rest, leaves⟩ := exists_cons_of_ne_nil some
  have first : row ∈ g.leaving column fromId := leaves ▸ mem_cons_self
  have positive := (counted row (mem_filter.mp first).1).counted
  rw [leaves, map_cons, sum_cons]
  omega

theorem copyEdges_leaving (ends : g.EdgesEnd) (there : g.nodeExists fromId = true → g.nodeExists toId = true)
    (copied : g.copyEdges column fromId toId = .ok after) {other : Endpoint} (some : g.leaving other fromId ≠ []) :
    after.leaving other fromId ≠ [] := by
  obtain ⟨edges, copied', looks⟩ := @copyEdges_ok _ column _ _ ends there
  cases copied.symm.trans copied'
  rw [Ne, leaving_eq_nil] at some ⊢
  simp only [not_forall, not_not, exists_prop] at some ⊢
  obtain ⟨row, member, leaves⟩ := some
  have here : g.edge row.key = Option.some row := Table.find?_of_mem member
  have found := looks row.key
  rw [here] at found
  obtain ⟨row', found'⟩ : ∃ row', edges.find? row.key = Option.some row' := by
    rw [found]
    split
    · cases (g.edge (column.set fromId row.key)).map (EdgeRow.rekey row.key) <;> exact ⟨_, rfl⟩
    · exact ⟨row, rfl⟩
  obtain ⟨inside, same⟩ := Table.mem_of_find? found'
  exact ⟨row', inside, by rw [show row'.key = row.key from same]; exact leaves⟩

theorem moveOwner_leaving (g : Graph) (fromId toId id : String) :
    (g.moveOwner fromId toId).leaving column id = [] ↔ g.leaving column id = [] := by
  rw [leaving_eq_nil, leaving_eq_nil]
  constructor
  · intro clear row member
    have image := clear _ (mem_map_of_mem member)
    split at image <;> exact image
  · intro clear row member
    obtain ⟨old, inside, rfl⟩ := mem_map.mp member
    split <;> exact clear old inside

end Graph

def RepairStore.Doubled (s : RepairStore) : Prop :=
  ∃ fromId columns, s.copied = some (fromId, columns) ∧ ∃ column ∈ columns, s.graph.leaving column fromId ≠ []

namespace Repair
open Core.Graph Statements

theorem Merges.again (merges : g.Merges fromId toId sources targets after) (apart : fromId ≠ toId) :
    (g.insertNode fromId toId).Merges fromId toId sources targets after := by
  have again := @insertNode_again g (g.insertNode fromId toId) _ _ apart rfl
  have same : (g.insertNode fromId toId).edge = g.edge := by
    funext key
    unfold Graph.edge
    rw [insertNode_edges]
  obtain ⟨copied, copied', behind, halfNodes, nodes, gathers, half, ends, keeps⟩ := merges
  refine ⟨again.symm ▸ copied, copied', behind, again.symm ▸ halfNodes, again.symm ▸ nodes, same.symm ▸ gathers, half, ends, ?_⟩
  rw [insertNode_edges]
  exact keeps

theorem merged_moved (apart : fromId ≠ toId) (ends : g.EdgesEnd) (carried : g.nodes = (h.insertNode fromId toId).nodes)
    (nowhere : ∀ column, g.leaving column fromId = []) : merged fromId toId (g.moveOwner fromId toId) = (g.moveOwner fromId toId).deleteNode fromId := by
  obtain ⟨sources, targets, after, merges⟩ := (ends.moveOwner fromId toId).merges fromId toId
  have again : (g.moveOwner fromId toId).insertNode fromId toId = g.moveOwner fromId toId :=
    @insertNode_again h (g.moveOwner fromId toId) _ _ apart carried
  have clear (column : Endpoint) : (g.moveOwner fromId toId).leaving column fromId = [] := (moveOwner_leaving ..).mpr (nowhere column)
  have first := merges.ofSources
  rw [again, copyEdges_none (clear .source)] at first
  cases first
  have second := merges.ofTargets
  rw [copyEdges_none (clear .target)] at second
  cases second
  rw [Merges.merged merges, merges.behind, moveOwner_again g apart]

theorem doubled_sources (its : stopped.copied = some (fromId, [.source])) : stopped.Doubled ↔ stopped.graph.leaving .source fromId ≠ [] := by
  constructor
  · rintro ⟨id, columns, same, column, member, some⟩
    cases its.symm.trans same
    rwa [mem_singleton.mp member] at some
  · exact fun some => ⟨fromId, [.source], its, .source, mem_singleton_self _, some⟩

theorem doubled_targets (its : stopped.copied = some (fromId, [.source, .target])) :
    stopped.Doubled ↔ ∃ column, stopped.graph.leaving column fromId ≠ [] := by
  constructor
  · rintro ⟨id, columns, same, column, _, some⟩
    cases its.symm.trans same
    exact ⟨column, some⟩
  · rintro ⟨column, some⟩
    exact ⟨fromId, [.source, .target], its, column, by cases column <;> simp, some⟩

theorem insertNode_sound (sound : h.Repairable) (fromId toId : String) : ∀ row ∈ (h.insertNode fromId toId).edges.rows, row.Sound := by
  rw [insertNode_edges]
  exact sound.rows

theorem insertNode_total (h : Graph) (fromId toId : String) : (h.insertNode fromId toId).total = h.total := by
  unfold Graph.total
  rw [insertNode_edges]

section
variable (merges : h.Merges fromId toId sources targets after) (apart : fromId ≠ toId) (sound : h.Repairable)
include merges sound

theorem sources_doubled_or : sources.leaving .source fromId ≠ [] ∧ h.total < sources.total ∨
    sources.leaving .source fromId = [] ∧ sources = h.insertNode fromId toId := by
  by_cases first : (h.insertNode fromId toId).leaving .source fromId = []
  · have copied := merges.ofSources
    rw [copyEdges_none first] at copied
    cases copied
    exact .inr ⟨first, rfl⟩
  · refine .inl ⟨copyEdges_leaving (sound.ends.insertNode fromId toId) (h.insertNode_carries fromId toId) merges.ofSources first, ?_⟩
    rw [← insertNode_total h fromId toId]
    exact copyEdges_more (insertNode_sound sound fromId toId) first merges.ofSources

theorem targets_doubled_or : (∃ column, targets.leaving column fromId ≠ []) ∧ h.total < targets.total ∨
    (∀ column, targets.leaving column fromId = []) ∧ targets = h.insertNode fromId toId := by
  have there : sources.nodeExists fromId = true → sources.nodeExists toId = true := by
    unfold nodeExists
    rw [merges.halfNodes]
    exact h.insertNode_carries fromId toId
  have grows : sources.total ≤ targets.total := by
    rw [copyEdges_total merges.ofTargets]
    exact Nat.le_add_right _ _
  rcases sources_doubled_or merges sound with ⟨first, more⟩ | ⟨first, same⟩
  · exact .inl ⟨⟨.source, copyEdges_leaving merges.half there merges.ofTargets first⟩, by omega⟩
  by_cases second : sources.leaving .target fromId = []
  · have copied := merges.ofTargets
    rw [copyEdges_none second] at copied
    cases copied
    exact .inr ⟨fun column => by cases column <;> assumption, same⟩
  · have counted := insertNode_sound sound fromId toId
    rw [← same] at counted
    refine .inl ⟨⟨.target, copyEdges_leaving merges.half there merges.ofTargets second⟩, ?_⟩
    rw [← insertNode_total h fromId toId, ← same]
    exact copyEdges_more counted second merges.ofTargets

include apart

theorem MergeCut.doubled_or (cut : MergeCut h fromId toId sources targets stopped) : stopped.graph.EdgesEnd ∧
    (stopped.Doubled ∧ h.total < stopped.graph.total ∨
      ¬stopped.Doubled ∧ stopped.graph.nodes = (h.insertNode fromId toId).nodes ∧ merged fromId toId stopped.graph = after) := by
  have again := Merges.merged (Merges.again merges apart)
  cases cut with
  | inserted => exact ⟨sound.ends.insertNode fromId toId, .inr ⟨fun ⟨_, _, its, _⟩ => (by cases its), rfl, again⟩⟩
  | sources =>
    refine ⟨merges.half, ?_⟩
    rw [doubled_sources rfl]
    rcases sources_doubled_or merges sound with ⟨some, more⟩ | ⟨none, rfl⟩
    · exact .inl ⟨some, more⟩
    · exact .inr ⟨not_not_intro none, rfl, again⟩
  | targets =>
    refine ⟨merges.ends, ?_⟩
    rw [doubled_targets rfl]
    rcases targets_doubled_or merges sound with ⟨some, more⟩ | ⟨none, rfl⟩
    · exact .inl ⟨some, more⟩
    · exact .inr ⟨fun ⟨column, left⟩ => left (none column), rfl, again⟩
  | moved =>
    refine ⟨merges.ends.moveOwner fromId toId, ?_⟩
    rw [doubled_targets rfl]
    rcases targets_doubled_or merges sound with ⟨⟨column, some⟩, more⟩ | ⟨none, same⟩
    · refine .inl ⟨⟨column, fun gone => some ((moveOwner_leaving ..).mp gone)⟩, ?_⟩
      rwa [moveOwner_total]
    · refine .inr ⟨fun ⟨column, left⟩ => left ((moveOwner_leaving ..).mpr (none column)), show targets.nodes = _ from congrArg Graph.nodes same, ?_⟩
      rw [merged_moved apart merges.ends (congrArg Graph.nodes same) none, merges.behind]

end

theorem Next.carried (next : Next root h fromId toId) (settles : Settles root h) (carried : g.nodes = (h.insertNode fromId toId).nodes) :
    Next root g fromId toId ∧ Settles root g := by
  have ids : g.nodeIds = (h.insertNode fromId toId).nodeIds := congrArg (·.rows.map Node.id) carried
  have paths : absolutePathNodes root g = absolutePathNodes root h := by
    rw [← next.paths_insertNode settles, absolutePathNodes_eq, absolutePathNodes_eq, ids]
  refine ⟨?_, fun pair member => settles pair (paths ▸ member)⟩
  cases next with
  | plain rest first => exact .plain rest (paths.trans first)
  | known none skipped rest file relative listed unknown found =>
    have same : g.nodeIds = h.nodeIds := ids.trans (Next.nodeIds_known fromId (knownSuffix_there found))
    have known (file : FileId) : knownSuffix g file = knownSuffix h file := by
      unfold knownSuffix
      congr 1
      funext candidate
      rw [Bool.eq_iff_iff, nodeExists_iff, nodeExists_iff, same]
    refine .known (paths.trans none) skipped rest file relative ?_ (fun pair member => (known pair.2).trans (unknown pair member))
      ((known file).trans found)
    rw [absoluteIds_eq, same, ← absoluteIds_eq, listed]

section

theorem mergedAll_total (ends : g.EdgesEnd) (pairs : List (String × String)) :
    (mergedAll pairs g).total = g.total ∧ (mergedAll pairs g).EdgesEnd := by
  induction pairs generalizing g with
  | nil => exact ⟨rfl, ends⟩
  | cons pair rest ih =>
    rw [mergedAll]
    split
    · exact ih ends
    rename_i apart
    obtain ⟨same, ends'⟩ := ih (merged_ends ends pair.1 pair.2)
    exact ⟨same.trans (merged_total ends apart), ends'⟩

theorem collapsed_total (ends : g.EdgesEnd) (ids : List (String × FileId)) : (collapsed ids g).total = g.total := by
  induction ids generalizing g with
  | nil => rfl
  | cons pair rest ih =>
    obtain ⟨fromId, file⟩ := pair
    rw [collapsed]
    split
    · exact ih ends
    split
    next => exact ih ends
    next apart => exact (ih (merged_ends ends fromId _)).trans (merged_total ends (Ne.symm apart))

theorem reclaimed_total (g : Graph) : (reclaimed g).total = g.total := by
  refine List.foldlRecOn (motive := fun now : Graph => now.total = g.total) _ _ rfl fun before kept pair _ => ?_
  exact (moveOwner_total ..).trans kept

theorem repaired_total (ends : g.EdgesEnd) (root : String) : (repaired root g).total = g.total := by
  obtain ⟨same, ends'⟩ := mergedAll_total ends (absolutePathNodes root g)
  exact (reclaimed_total _).trans ((collapsed_total ends' _).trans same)

end

theorem Interrupted.resumes_iff (interrupted : Interrupted root g stopped) :
    stopped.graph.EdgesEnd ∧ (repaired root stopped.graph = repaired root g ↔ ¬stopped.Doubled) := by
  cases interrupted with
  | between resumes => exact ⟨resumes.repairable.ends, iff_of_true resumes.same fun ⟨_, _, its, _⟩ => (by cases its)⟩
  | within resumes next merges cut =>
    obtain ⟨ends, doubled | ⟨single, carried, again⟩⟩ := cut.doubled_or merges next.apart resumes.repairable
    · refine ⟨ends, iff_of_false (fun same => ?_) (not_not_intro doubled.1)⟩
      have first := repaired_total ends root
      rw [same, ← resumes.same, repaired_total resumes.repairable.ends] at first
      exact absurd first (Nat.ne_of_lt doubled.2)
    · refine ⟨ends, iff_of_true ?_ single⟩
      obtain ⟨next', settles⟩ := next.carried resumes.settles carried
      rw [← next'.repaired ends settles, again, ← Merges.merged merges, next.repaired resumes.repairable.ends resumes.settles, resumes.same]

def observedFile : Graph :=
  { Graph.empty with
    nodes := ⟨[Node.new "artifact:/w/a.rs" .artifact "a.rs" 0, Node.new "agent:x" .agent "x" 0], by decide⟩
    edges := ⟨[⟨⟨"agent:x", "artifact:/w/a.rs", .observed⟩, 1, 48, 0, 0, 1, none⟩], by decide⟩ }

theorem observedFile_repairable : observedFile.Repairable := by
  refine ⟨by unfold EdgesEnd; decide +kernel, fun row member => ?_⟩
  rw [mem_singleton.mp member]
  exact ⟨by decide, nofun⟩

/-- A repair that was stopped is made good by the next one unless edges stand beside their copies. -/
theorem repair_resumes_iff (root : String) (g : Graph) (stopped : RepairStore) (sound : g.Repairable) (settles : Settles (trimRoot root) g)
    (stops : (repairWorkspacePaths root).Stops ⟨g, none⟩ stopped) :
    ((repairWorkspacePaths root).exec ⟨stopped.graph, none⟩).2.graph = ((repairWorkspacePaths root).exec ⟨g, none⟩).2.graph ↔ ¬stopped.Doubled := by
  cases named : (trimRoot root).isEmpty with
  | true =>
    have idle : repairWorkspacePaths root = .pure ⟨0, 0⟩ := by
      unfold repairWorkspacePaths
      dsimp only
      rw [named]
      rfl
    rw [idle] at stops ⊢
    rw [stops.of_pure]
    exact iff_of_true rfl fun ⟨_, _, its, _⟩ => (by cases its)
  | false =>
    obtain ⟨ends, whether⟩ := (repair_stops sound settles stops).resumes_iff
    obtain ⟨_, done⟩ := repair_exec root ends named
    obtain ⟨_, done'⟩ := repair_exec root sound.ends named
    rw [done, done']
    dsimp only
    exact whether

theorem repair_resumes_inserted : ((repairWorkspacePaths "/w").exec
    ⟨((repairWorkspacePaths "/w").behind 3 ⟨observedFile, none⟩).graph, none⟩).2.graph = ((repairWorkspacePaths "/w").exec ⟨observedFile, none⟩).2.graph :=
  (repair_resumes_iff "/w" observedFile _ observedFile_repairable (by unfold Settles; decide +kernel) (.behind_count 3 _ _)).mpr (by
    rintro ⟨fromId, columns, its, _⟩
    have idle : ((repairWorkspacePaths "/w").behind 3 ⟨observedFile, none⟩).copied.isSome = false := by decide +kernel
    rw [its] at idle
    cases idle)

/-- Stopped behind the copies, the repair is made good by counting an observation twice. -/
theorem counted_twice_counterexample : ∃ stopped, (repairWorkspacePaths "/w").Stops ⟨observedFile, none⟩ stopped ∧
    (((repairWorkspacePaths "/w").exec ⟨observedFile, none⟩).2.graph.edges.rows.map EdgeRow.reinforcementCount = [1]) ∧
    ((repairWorkspacePaths "/w").exec ⟨stopped.graph, none⟩).2.graph.edges.rows.map EdgeRow.reinforcementCount = [2] :=
  ⟨_, .behind_count 5 _ _, by decide +kernel⟩

end Repair
end MindLeak.Core
