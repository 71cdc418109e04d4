import MindLeak.Proofs.Repairs

/-! A repair that is stopped, and run again. -/

namespace MindLeak.Core

open List Table Text EdgeRow

structure EdgeRow.Sound (row : EdgeRow) : Prop where
  counted : 0 < row.reinforcementCount
  owned : ∀ owner, row.ownerId = some owner → Text.startsWith owner "artifact:" = true

variable {g sources targets after : Graph} {fromId toId id : String}

namespace Graph
variable {column : Endpoint}

structure Repairable (g : Graph) : Prop where
  ends : g.EdgesEnd
  rows : ∀ row ∈ g.edges.rows, row.Sound

theorem moveOwner_rows (names : Text.startsWith fromId "artifact:" = true → Text.startsWith toId "artifact:" = true)
    (rows : ∀ row ∈ g.edges.rows, row.Sound) : ∀ row ∈ (g.moveOwner fromId toId).edges.rows, row.Sound := by
  intro row member
  obtain ⟨old, inside, rfl⟩ := mem_map.mp member
  have sound := rows old inside
  split
  next owns =>
    refine ⟨sound.counted, fun owner same => ?_⟩
    cases same
    exact names (sound.owned fromId (of_decide_eq_true owns))
  next => exact sound

theorem Merges.repairable (merges : g.Merges fromId toId sources targets after)
    (names : Text.startsWith fromId "artifact:" = true → Text.startsWith toId "artifact:" = true) (sound : g.Repairable) :
    after.Repairable := by
  refine ⟨merges.edgesEnd, ?_⟩
  have kept : ∀ row ∈ targets.edges.rows, row.Sound := by
    refine merges.keeps EdgeRow.Sound (fun row other one two => ⟨?_, fun owner same => ?_⟩) (fun row _ one => ⟨one.counted, one.owned⟩) sound.rows
    · exact Nat.add_pos_left one.counted _
    rcases Option.or_eq_some_iff.mp same with first | ⟨_, second⟩
    · exact one.owned owner first
    · exact two.owned owner second
  rw [merges.behind]
  intro row member
  exact moveOwner_rows names kept row (mem_filter.mp member).1

theorem insertNode_settled {row excluded : Node} (left : g.nodes.find? fromId = some excluded) (met : g.nodes.find? toId = some row)
    (older : row.createdAt ≤ excluded.createdAt) (newer : excluded.lastAccessedAt ≤ row.lastAccessedAt)
    (told : row.content.or excluded.content = row.content) : g.insertNode fromId toId = g := by
  unfold insertNode
  simp only [left, met, min_eq_left older, max_eq_left newer, told]
  have same := put_self (mem_of_find? met).1
  exact congrArg (fun nodes => ({ g with nodes } : Graph)) same

theorem insertNode_again (apart : fromId ≠ toId) (carried : after.nodes = (g.insertNode fromId toId).nodes) :
    after.insertNode fromId toId = after := by
  have stays : after.nodes.find? fromId = g.nodes.find? fromId := by rw [carried, g.insertNode_find? apart]
  cases left : g.nodes.find? fromId with
  | none =>
    unfold insertNode
    rw [stays, left]
  | some excluded =>
    unfold insertNode at carried
    simp only [left] at carried
    cases met : g.nodes.find? toId with
    | none =>
      simp only [met] at carried
      have there : after.nodes.find? toId = some { excluded with id := toId, label := labelFor toId } := by
        rw [carried, Table.find?_put]
        exact if_pos rfl
      exact insertNode_settled (stays.trans left) there (le_refl _) (le_refl _) (by cases excluded.content <;> rfl)
    | some row =>
      simp only [met] at carried
      have there : after.nodes.find? toId = some { row with
          createdAt := min row.createdAt excluded.createdAt
          lastAccessedAt := max row.lastAccessedAt excluded.lastAccessedAt
          content := row.content.or excluded.content } := by
        rw [carried, Table.find?_put]
        exact if_pos (mem_of_find? met).2
      refine insertNode_settled (stays.trans left) there (min_le_right _ _) (le_max_right _ _) ?_
      cases row.content <;> cases excluded.content <;> rfl

theorem moveOwner_again (g : Graph) (apart : fromId ≠ toId) : (g.moveOwner fromId toId).moveOwner fromId toId = g.moveOwner fromId toId := by
  have settled : (g.moveOwner fromId toId).edges.update (fun row => row.ownerId = some fromId) ({ · with ownerId := some toId }) =
      (g.moveOwner fromId toId).edges :=
    update_eq_self fun row member owns => absurd (of_decide_eq_true owns) (moveOwner_owner apart member)
  exact congrArg (fun edges => ({ g with edges } : Graph)) settled

theorem insertCopy_total {row : EdgeRow} (inserted : g.insertCopy row = .ok after) : after.total = g.total + row.reinforcementCount := by
  unfold insertCopy at inserted
  cases found : g.edges.find? row.key with
  | some old =>
    rw [found] at inserted
    cases inserted
    have named := (mem_of_find? found).2
    have before := ((perm_find? found).map reinforcementCount).sum_eq
    have behind := ((g.edges.perm_put (old.absorb row)).map reinforcementCount).sum_eq
    rw [show Row.key (old.absorb row) = row.key from named] at behind
    rw [map_cons, sum_cons] at before behind
    unfold total
    rw [before, behind]
    change old.reinforcementCount + row.reinforcementCount + _ = _
    omega
  | none =>
    rw [found] at inserted
    obtain ⟨_, inserted⟩ := ite_then inserted
    cases inserted
    have behind := ((g.edges.perm_put row).map reinforcementCount).sum_eq
    have all : g.edges.rows.filter (fun other => Row.key other ≠ Row.key row) = g.edges.rows := by
      refine filter_eq_self.mpr fun other member => decide_eq_true fun same => ?_
      exact Table.find?_eq_none_iff.mp found (mem_map.mpr ⟨other, member, same⟩)
    rw [all, map_cons, sum_cons] at behind
    exact behind.trans (Nat.add_comm ..)

theorem copyEdges_total (copied : g.copyEdges column fromId toId = .ok after) :
    after.total = g.total + ((g.leaving column fromId).map reinforcementCount).sum := by
  change (g.leaving column fromId).foldlM _ g = _ at copied
  generalize g.leaving column fromId = rows at copied
  induction rows generalizing g with
  | nil =>
    cases copied
    rfl
  | cons row rest ih =>
    rw [foldlM_cons] at copied
    cases first : g.insertCopy { row with key := column.set toId row.key } with
    | error failed =>
      rw [first] at copied
      cases copied
    | ok middle =>
      rw [first] at copied
      rw [ih copied, insertCopy_total first, map_cons, sum_cons, Nat.add_assoc]

end Graph

namespace Repair
open Core.Graph Statements
variable {h : Graph} {root : String}

section

def Keyed {α : Type} (reads : String → Option (String × α)) : Prop := ∀ id pair, reads id = some pair → pair.1 = id

variable {α : Type} {reads : String → Option (String × α)} {ids : List String}

theorem Keyed.filterMap_filter (keyed : Keyed reads) (ids : List String) (gone : String) :
    (ids.filter (· ≠ gone)).filterMap reads = (ids.filterMap reads).filter (·.1 ≠ gone) := by
  rw [List.filterMap_filter, List.filter_filterMap]
  congr 1
  funext id
  cases read : reads id with
  | none => simp
  | some pair => simp [keyed id pair read, Option.filter]

theorem Keyed.distinct (keyed : Keyed reads) (distinct : ids.Nodup) : ((ids.filterMap reads).map Prod.fst).Nodup := by
  rw [map_filterMap]
  refine distinct.filterMap fun one two id found found' => ?_
  obtain ⟨pair, read, rfl⟩ := Option.map_eq_some_iff.mp found
  obtain ⟨pair', read', same⟩ := Option.map_eq_some_iff.mp found'
  rw [← keyed one pair read, ← keyed two pair' read', same]

theorem Keyed.without (keyed : Keyed reads) (distinct : ids.Nodup) {before rest : List (String × α)} {gone : String} {value : α}
    (read : ids.filterMap reads = before ++ (gone, value) :: rest) : (ids.filter (· ≠ gone)).filterMap reads = before ++ rest := by
  have apart := keyed.distinct distinct
  rw [read, map_append, map_cons] at apart
  rw [keyed.filterMap_filter, read, filter_append, filter_cons]
  obtain ⟨_, tail, clear⟩ := nodup_append.mp apart
  have first : before.filter (·.1 ≠ gone) = before := filter_eq_self.mpr fun pair member =>
    decide_eq_true (clear pair.1 (mem_map_of_mem member) gone mem_cons_self)
  have second : rest.filter (·.1 ≠ gone) = rest := filter_eq_self.mpr fun pair member =>
    decide_eq_true fun same => (nodup_cons.mp tail).1 (mem_map.mpr ⟨pair, member, same⟩)
  rw [first, second]
  simp

def pathOf (root id : String) : Option (String × String) :=
  if (Text.likePrefix id "artifact:" || Text.likePrefix id "symbol:") = true then (rewritten? root id).map (id, ·) else none

def absoluteOf (id : String) : Option (String × FileId) :=
  if (Text.likePrefix id "artifact:" || Text.likePrefix id "symbol:") = true then
    ((fileId? id).filter fun file => isAbsolutePath file.path).map (id, ·)
  else none

theorem absolutePathNodes_eq (root : String) (g : Graph) : absolutePathNodes root g = g.nodeIds.filterMap (pathOf root) := by
  rw [absolutePathNodes, fileIds, filterMap_filter]
  rfl

theorem absoluteIds_eq (g : Graph) : absoluteIds g = g.nodeIds.filterMap absoluteOf := by
  rw [absoluteIds, fileIds, filterMap_filter]
  rfl

theorem keyed_pathOf (root : String) : Keyed (pathOf root) := by
  intro id pair read
  obtain ⟨_, read⟩ := then_of_ne read nofun
  obtain ⟨_, _, rfl⟩ := Option.map_eq_some_iff.mp read
  rfl

theorem keyed_absoluteOf : Keyed absoluteOf := by
  intro id pair read
  obtain ⟨_, read⟩ := then_of_ne read nofun
  obtain ⟨_, _, rfl⟩ := Option.map_eq_some_iff.mp read
  rfl

end

def Settles (root : String) (g : Graph) : Prop := ∀ pair ∈ absolutePathNodes root g, rewritten? root pair.2 = none

inductive Next (root : String) (g : Graph) (fromId : String) : String → Prop
  | plain {toId : String} (rest : List (String × String)) (paths : absolutePathNodes root g = (fromId, toId) :: rest) : Next root g fromId toId
  | known (paths : absolutePathNodes root g = []) (skipped rest : List (String × FileId)) (file : FileId) (relative : String)
    (ids : absoluteIds g = skipped ++ (fromId, file) :: rest) (unknown : ∀ pair ∈ skipped, knownSuffix g pair.2 = none)
    (found : knownSuffix g file = some relative) : Next root g fromId (file.at relative)

theorem pathOf_eq_some {pair : String × String} (read : pathOf root id = some pair) : ∃ file relative, fileId? id = some file ∧
    pair = (id, file.at relative) ∧ relative ≠ file.path := by
  obtain ⟨_, read⟩ := then_of_ne read nofun
  obtain ⟨toId, rewrites, rfl⟩ := Option.map_eq_some_iff.mp read
  obtain ⟨file, parsed, moved⟩ := Option.bind_eq_some_iff.mp rewrites
  obtain ⟨differs, moved⟩ := then_of_ne moved nofun
  cases moved
  exact ⟨file, _, parsed, rfl, differs⟩

theorem absoluteOf_eq_some {pair : String × FileId} (read : absoluteOf id = some pair) : pair.1 = id ∧ fileId? id = some pair.2 := by
  obtain ⟨_, read⟩ := then_of_ne read nofun
  obtain ⟨file, parsed, rfl⟩ := Option.map_eq_some_iff.mp read
  exact ⟨rfl, (Option.filter_eq_some_iff.mp parsed).1⟩

theorem Next.file (next : Next root g fromId toId) : ∃ file relative, fileId? fromId = some file ∧ toId = file.at relative ∧
    relative ≠ file.path ∧ fromId ∈ g.nodeIds := by
  cases next with
  | plain rest paths =>
    rw [absolutePathNodes_eq] at paths
    obtain ⟨id, inside, read⟩ := mem_filterMap.mp (paths ▸ mem_cons_self : (fromId, toId) ∈ g.nodeIds.filterMap (pathOf root))
    obtain ⟨file, relative, parsed, same, differs⟩ := pathOf_eq_some read
    cases same
    exact ⟨file, relative, parsed, rfl, differs, inside⟩
  | known paths skipped rest file relative ids unknown found =>
    rw [absoluteIds_eq] at ids
    have member : (fromId, file) ∈ skipped ++ (fromId, file) :: rest := mem_append_right _ mem_cons_self
    obtain ⟨id, inside, read⟩ := mem_filterMap.mp (ids ▸ member : (fromId, file) ∈ g.nodeIds.filterMap absoluteOf)
    obtain ⟨same, parsed⟩ := absoluteOf_eq_some read
    cases same
    exact ⟨file, relative, parsed, rfl, candidates_proper (mem_of_find?_eq_some found), inside⟩

theorem Next.apart (next : Next root g fromId toId) : fromId ≠ toId := by
  obtain ⟨file, relative, parsed, rfl, differs, _⟩ := next.file
  rw [← fileId?_at parsed]
  exact fun same => differs (at_inj same).symm

variable {file : FileId}

theorem fileId?_artifact (parsed : fileId? id = some file) (names : Text.startsWith id "artifact:" = true) : file.lead = "artifact" := by
  obtain ⟨⟨lead, rest⟩, cut, parts⟩ := Option.bind_eq_some_iff.mp parsed
  obtain ⟨tail, whole⟩ := startsWith_iff.mp names
  have cut' : Text.splitOnce ':' id = some ("artifact", String.ofList tail) :=
    splitOnce_eq_some.mpr ⟨by rw [whole]; simp, by decide⟩
  cases cut.symm.trans cut'
  cases parts
  rfl

theorem Next.names (next : Next root g fromId toId) (names : Text.startsWith fromId "artifact:" = true) : Text.startsWith toId "artifact:" = true := by
  obtain ⟨file, relative, parsed, rfl, _⟩ := next.file
  rw [FileId.at, fileId?_artifact parsed names, String.append_assoc]
  exact startsWith_append "artifact:" _

theorem knownSuffix_there {relative : String} (found : knownSuffix g file = some relative) :
    g.nodeExists (file.at relative) = true := List.find?_some (p := fun candidate => g.nodeExists (file.at candidate)) found

section
variable (ends : g.EdgesEnd) (settles : Settles root g)
include settles

theorem Next.paths_insertNode (next : Next root g fromId toId) :
    absolutePathNodes root (g.insertNode fromId toId) = absolutePathNodes root g := by
  rw [absolutePathNodes_eq, absolutePathNodes_eq]
  rcases g.nodeIds_insertNode fromId toId with same | ⟨fresh, grown⟩
  · rw [same]
  rw [grown, filterMap_append]
  cases next with
  | plain rest paths =>
    have plain : pathOf root toId = none := by
      unfold pathOf
      split
      · rw [settles (fromId, toId) (paths ▸ mem_cons_self)]
        rfl
      · rfl
    simp [plain]
  | known paths skipped rest file relative ids unknown found =>
    exact absurd (nodeExists_iff.mp (knownSuffix_there found)) fresh

include ends

theorem Next.paths_merged (next : Next root g fromId toId) :
    absolutePathNodes root (merged fromId toId g) = (absolutePathNodes root g).filter (·.1 ≠ fromId) := by
  obtain ⟨sources, targets, after, merges⟩ := ends.merges fromId toId
  rw [Merges.merged merges, ← next.paths_insertNode settles, absolutePathNodes_eq, merges.nodeIds, (keyed_pathOf root).filterMap_filter,
    ← absolutePathNodes_eq]

end

theorem Next.nodeIds_known (fromId : String) (there : g.nodeExists toId = true) : (g.insertNode fromId toId).nodeIds = g.nodeIds := by
  rcases g.nodeIds_insertNode fromId toId with same | ⟨fresh, _⟩
  · exact same
  · exact absurd (nodeExists_iff.mp there) fresh

theorem knownSuffix_none (fewer : ∀ id, h.nodeExists id = true → g.nodeExists id = true) (unknown : knownSuffix g file = none) :
    knownSuffix h file = none := by
  rw [knownSuffix, List.find?_eq_none] at unknown ⊢
  exact fun candidate member known => unknown candidate member (fewer _ known)

theorem collapsed_skip {skipped : List (String × FileId)} (rest : List (String × FileId)) (unknown : ∀ pair ∈ skipped, knownSuffix g pair.2 = none) :
    collapsed (skipped ++ rest) g = collapsed rest g := by
  induction skipped with
  | nil => rfl
  | cons pair skipped ih =>
    obtain ⟨here, later⟩ := forall_mem_cons.mp unknown
    rw [cons_append, collapsed, here]
    exact ih later

section
variable (ends : g.EdgesEnd)
include ends

theorem paths_rest (settles : Settles root g) {rest : List (String × String)} (paths : absolutePathNodes root g = (fromId, toId) :: rest) :
    absolutePathNodes root (merged fromId toId g) = rest := by
  have distinct := (keyed_pathOf root).distinct g.nodeIds_nodup
  rw [← absolutePathNodes_eq, paths, map_cons, nodup_cons] at distinct
  rw [(Next.plain rest paths).paths_merged ends settles, paths, filter_cons_of_neg (by simp)]
  exact filter_eq_self.mpr fun pair member => decide_eq_true fun same => distinct.1 (mem_map.mpr ⟨pair, member, same⟩)

theorem merged_fewer (there : g.nodeExists toId = true) (id : String) (stays : (merged fromId toId g).nodeExists id = true) :
    g.nodeExists id = true := by
  obtain ⟨sources, targets, after, merges⟩ := ends.merges fromId toId
  rw [Merges.merged merges, nodeExists_iff, merges.nodeIds, Next.nodeIds_known fromId there] at stays
  exact nodeExists_iff.mpr (mem_filter.mp stays).1

theorem ids_rest {skipped rest : List (String × FileId)} {file : FileId} (there : g.nodeExists toId = true)
    (ids : absoluteIds g = skipped ++ (fromId, file) :: rest) : absoluteIds (merged fromId toId g) = skipped ++ rest := by
  obtain ⟨sources, targets, after, merges⟩ := ends.merges fromId toId
  rw [Merges.merged merges, absoluteIds_eq, merges.nodeIds, Next.nodeIds_known fromId there]
  exact keyed_absoluteOf.without g.nodeIds_nodup (absoluteIds_eq g ▸ ids)

end

theorem Next.repaired (ends : g.EdgesEnd) (settles : Settles root g) (next : Next root g fromId toId) :
    repaired root (merged fromId toId g) = repaired root g := by
  have paths' := next.paths_merged ends settles
  have apart := next.apart
  cases next with
  | plain rest paths =>
    unfold Repair.repaired
    rw [paths_rest ends settles paths, paths, mergedAll, if_neg apart]
  | known paths skipped rest file relative ids unknown found =>
    have there := knownSuffix_there found
    have gone (pair : String × FileId) (member : pair ∈ skipped) : knownSuffix (merged fromId (file.at relative) g) pair.2 = none :=
      knownSuffix_none (merged_fewer ends there) (unknown pair member)
    rw [paths] at paths'
    unfold Repair.repaired
    rw [paths, paths']
    change reclaimed (collapsed (absoluteIds (merged fromId (file.at relative) g)) (merged fromId (file.at relative) g)) =
      reclaimed (collapsed (absoluteIds g) g)
    rw [ids_rest ends there ids, ids, collapsed_skip rest gone, collapsed_skip _ unknown, collapsed, found]
    dsimp only
    rw [if_neg (Ne.symm apart)]

section

def mapOwners (rename : String → String) (g : Graph) : Graph :=
  { g with edges := g.edges.update (fun _ => true) (fun row => { row with ownerId := row.ownerId.map rename }) }

theorem moveOwner_eq (g : Graph) (fromId toId : String) :
    g.moveOwner fromId toId = mapOwners (fun owner => if owner = fromId then toId else owner) g := by
  unfold moveOwner mapOwners
  congr 1
  refine eq_of_rows (map_congr_left fun row _ => ?_)
  obtain ⟨_, _, _, _, _, _, ownerId⟩ := row
  cases ownerId with
  | none => simp
  | some owner => by_cases same : owner = fromId <;> simp [same]

theorem mapOwners_comp (first second : String → String) (g : Graph) :
    mapOwners second (mapOwners first g) = mapOwners (second ∘ first) g := by
  unfold mapOwners
  congr 1
  apply eq_of_rows
  simp only [Table.update, map_map]
  refine map_congr_left fun row _ => ?_
  simp [Function.comp_def, Option.map_map]

theorem mapOwners_congr {first second : String → String}
    (same : ∀ row ∈ g.edges.rows, ∀ owner, row.ownerId = some owner → first owner = second owner) : mapOwners first g = mapOwners second g := by
  unfold mapOwners
  congr 1
  refine eq_of_rows (map_congr_left fun row member => ?_)
  have agree : row.ownerId.map first = row.ownerId.map second := Option.map_congr fun owner owns => same row member owner owns
  dsimp only
  rw [agree]

theorem mapOwners_id (g : Graph) : mapOwners (fun owner => owner) g = g := by
  have settled : g.edges.update (fun _ => true) (fun row => { row with ownerId := row.ownerId.map fun owner => owner }) = g.edges := by
    refine update_eq_self fun row _ _ => ?_
    simp
  exact congrArg (fun edges => ({ g with edges } : Graph)) settled

theorem foldl_moveOwner (rewrite : String → Option String) (owners : List String)
    (settled : ∀ owner ∈ owners, ∀ toId, rewrite owner = some toId → rewrite toId = none) (g : Graph) :
    (owners.filterMap fun owner => (rewrite owner).map (owner, ·)).foldl (fun g (fromId, toId) => g.moveOwner fromId toId) g =
      mapOwners (fun owner => if owner ∈ owners then (rewrite owner).getD owner else owner) g := by
  induction owners generalizing g with
  | nil => exact (mapOwners_id g).symm
  | cons first rest ih =>
    obtain ⟨here, later⟩ := forall_mem_cons.mp settled
    rw [filterMap_cons]
    cases renames : rewrite first with
    | none =>
      refine (ih later g).trans (congrArg (mapOwners · g) (funext fun owner => ?_))
      by_cases same : owner = first
      · simp [same, renames]
      · simp [same]
    | some toId =>
      rw [Option.map_some, foldl_cons, ih later]
      dsimp only
      rw [moveOwner_eq, mapOwners_comp]
      refine congrArg (mapOwners · g) (funext fun owner => ?_)
      by_cases same : owner = first
      · simp [same, renames, here toId renames]
      · simp [same]

structure Collapsed (root : String) (g : Graph) : Prop where
  paths : absolutePathNodes root g = []
  unknown : ∀ pair ∈ absoluteIds g, knownSuffix g pair.2 = none

theorem Collapsed.repaired (done : Collapsed root g) : repaired root g = reclaimed g := by
  have through := collapsed_skip [] done.unknown
  rw [append_nil] at through
  rw [Repair.repaired, done.paths, mergedAll, through, collapsed]

theorem mem_absoluteIds {path : String} (absolute : isAbsolutePath path = true) (there : g.nodeExists (FileId.at ⟨"artifact", path, ""⟩ path) = true) :
    ("artifact" ++ ":" ++ path, ⟨"artifact", path, ""⟩) ∈ absoluteIds g := by
  have plain : FileId.at ⟨"artifact", path, ""⟩ path = "artifact" ++ ":" ++ path := String.append_empty
  rw [plain, nodeExists_iff] at there
  rw [absoluteIds_eq]
  refine mem_filterMap.mpr ⟨_, there, ?_⟩
  have like : Text.likePrefix ("artifact" ++ ":" ++ path) "artifact:" = true :=
    startsWith_iff.mpr ⟨path.toList.map Char.toLower, by simp [Text.asciiLower]⟩
  have cut : Text.splitOnce ':' ("artifact" ++ ":" ++ path) = some ("artifact", path) :=
    splitOnce_eq_some.mpr ⟨by simp, by decide⟩
  rw [absoluteOf, like, Bool.true_or, if_pos rfl, fileId?, cut, Option.bind_some]
  dsimp only
  rw [if_neg (by decide), Option.filter_some, if_pos absolute, Option.map_some]

theorem Collapsed.settled (done : Collapsed root g) {owner toId : String} (artifact : Text.startsWith owner "artifact:" = true)
    (renames : ownerRewrite? g owner = some toId) : ownerRewrite? g toId = none ∧ Text.startsWith toId "artifact:" = true := by
  obtain ⟨⟨lead, path⟩, cut, named⟩ := Option.bind_eq_some_iff.mp renames
  obtain ⟨tail, whole⟩ := startsWith_iff.mp artifact
  have cut' : Text.splitOnce ':' owner = some ("artifact", String.ofList tail) :=
    splitOnce_eq_some.mpr ⟨by rw [whole]; simp, by decide⟩
  cases cut.symm.trans cut'
  obtain ⟨_, named⟩ := then_of_ne named nofun
  obtain ⟨relative, found, moved⟩ := Option.bind_eq_some_iff.mp named
  obtain ⟨_, moved⟩ := then_of_ne moved nofun
  cases moved
  have there := knownSuffix_there found
  refine ⟨?_, ?_⟩
  · have cut' : Text.splitOnce ':' ("artifact" ++ ":" ++ relative) = some ("artifact", relative) :=
      splitOnce_eq_some.mpr ⟨by simp, by decide⟩
    rw [ownerRewrite?, cut', Option.bind_some]
    dsimp only
    split
    next absolute =>
      rw [done.unknown _ (mem_absoluteIds absolute there)]
      rfl
    next => rfl
  · rw [String.append_assoc]
    exact startsWith_append "artifact:" relative

end

end Repair
end MindLeak.Core
