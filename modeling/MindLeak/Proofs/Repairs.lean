import Mathlib.Algebra.BigOperators.Group.Finset.Basic
import Mathlib.Data.List.Infix
import MindLeak.Proofs.Merges

/-! What a repair makes of a graph when nothing stops it. -/

namespace MindLeak.Core

open List EdgeRow

variable {g : Graph} {fromId toId : String}

namespace Graph
variable {sources targets after : Graph} {column : Endpoint}

def nodeIds (g : Graph) : List String := g.nodes.rows.map Node.id

theorem nodeIds_nodup (g : Graph) : g.nodeIds.Nodup := g.nodes.unique

theorem nodeExists_iff {id : String} : g.nodeExists id = true ↔ id ∈ g.nodeIds := by
  rw [nodeExists, Option.isSome_iff_ne_none, Ne, Table.find?_eq_none_iff, not_not]
  rfl

theorem nodeIds_insertNode (g : Graph) (fromId toId : String) : (g.insertNode fromId toId).nodeIds = g.nodeIds ∨
    toId ∉ g.nodeIds ∧ (g.insertNode fromId toId).nodeIds = g.nodeIds ++ [toId] := by
  rcases g.insertNode_eq fromId toId with ⟨same, _⟩ | ⟨row, rfl, same⟩
  · exact .inl (congrArg nodeIds same)
  rw [same]
  have keys : ({ g with nodes := g.nodes.put row } : Graph).nodeIds = _ := g.nodes.keys_put row
  rw [keys]
  split
  next => exact .inl rfl
  next fresh => exact .inr ⟨fresh, rfl⟩

theorem nodeIds_deleteNode (g : Graph) (id : String) : (g.deleteNode id).nodeIds = g.nodeIds.filter (· ≠ id) := by
  unfold nodeIds
  rw [filter_map]
  refine congrArg (List.map Node.id) (filter_congr fun node _ => ?_)
  simp

theorem Merges.nodeIds (merges : g.Merges fromId toId sources targets after) :
    after.nodeIds = (g.insertNode fromId toId).nodeIds.filter (· ≠ fromId) := by
  have same : (targets.moveOwner fromId toId).nodeIds = (g.insertNode fromId toId).nodeIds := congrArg (·.rows.map Node.id) merges.nodes
  rw [merges.behind, nodeIds_deleteNode, same]

def total (g : Graph) : Nat := (g.edges.rows.map EdgeRow.reinforcementCount).sum

theorem total_eq_finset (g : Graph) : g.total = ∑ row ∈ g.edges.rows.toFinset, row.reinforcementCount :=
  (sum_toFinset _ g.edges.unique.of_map).symm

theorem Merges.total (merges : g.Merges fromId toId sources targets after) (apart : fromId ≠ toId) : after.total = g.total := by
  have arrives : ∀ row ∈ g.edges.rows.toFinset, row.key.renamed fromId toId ∈ (after.edges.rows.map key).toFinset := by
    intro row member
    rw [mem_toFinset] at member ⊢
    have gathers := merges.renamed apart (EdgeKey.renamed_clear apart row.key)
    by_contra absent
    rw [show after.edge (row.key.renamed fromId toId) = none from Table.find?_eq_none_iff.mpr absent] at gathers
    exact filter_eq_nil_iff.mp gathers row member (decide_eq_true rfl)
  have distinct : (after.edges.rows.map key).Nodup := after.edges.unique
  rw [g.total_eq_finset, ← Finset.sum_fiberwise_of_maps_to arrives, sum_toFinset _ distinct, map_map]
  refine congrArg List.sum (map_congr_left fun row member => ?_)
  have gathers := merges.renamed apart (merges.clear apart member).1
  rw [show after.edge row.key = some row from Table.find?_of_mem member] at gathers
  rw [Gathers.count gathers, Function.comp_apply, ← sum_toFinset _ (g.edges.unique.of_map.filter _)]
  refine Finset.sum_congr ?_ fun _ _ => rfl
  ext other
  simp

end Graph

namespace Repair
section
variable {separator : Char} {id path candidate : String} {file : FileId}

theorem rsplitOnce_eq_some {text before after : List Char} (found : rsplitOnce separator text = some (before, after)) :
    text = before ++ separator :: after := by
  obtain ⟨inside, found⟩ := then_of_ne found nofun
  cases found
  have whole := takeWhile_append_dropWhile (p := fun c => decide (c ≠ separator)) (l := text.reverse)
  have first := List.head?_dropWhile_not (fun c => decide (c ≠ separator)) text.reverse
  cases rest : text.reverse.dropWhile fun c => decide (c ≠ separator) with
  | nil =>
    have none := dropWhile_eq_nil_iff.mp rest separator (mem_reverse.mpr inside)
    simp at none
  | cons c rest' =>
    rw [rest] at whole first
    have same : c = separator := by simpa using first
    calc text = (text.reverse.takeWhile (fun c => decide (c ≠ separator)) ++ c :: rest').reverse := by rw [whole, reverse_reverse]
      _ = ((c :: rest').drop 1).reverse ++ separator :: afterLast separator text := by
        rw [afterLast, reverse_append, reverse_cons, append_assoc, same]
        rfl

theorem fileId?_at (parsed : fileId? id = some file) : file.at file.path = id := by
  obtain ⟨⟨lead, rest⟩, cut, parts⟩ := Option.bind_eq_some_iff.mp parsed
  obtain ⟨whole, _⟩ := Text.splitOnce_eq_some.mp cut
  dsimp only at parts
  apply String.toList_injective
  rw [whole]
  by_cases symbol : lead = "symbol"
  · rw [if_pos symbol] at parts
    obtain ⟨⟨before, name⟩, found, rfl⟩ := Option.map_eq_some_iff.mp parts
    simp [FileId.at, rsplitOnce_eq_some found]
  · rw [if_neg symbol] at parts
    cases parts
    simp [FileId.at]

def spread (parts : List (List Char)) : Nat := (parts.map fun part => part.length + 1).sum

theorem spread_segments (text : List Char) : spread (segments separator text) = text.length + 1 := by
  induction text with
  | nil => rfl
  | cons c text ih =>
    rw [segments]
    split
    · simp only [spread, map_cons, sum_cons, length_cons] at ih ⊢; simp [ih, Nat.add_comm]
    split
    next none => rw [none] at ih; simp [spread] at ih
    rename_i first others some
    rw [some] at ih
    simp only [spread, map_cons, sum_cons, length_cons] at ih ⊢
    omega

theorem length_intercalate {parts : List (List Char)} (nonempty : parts ≠ []) :
    (List.intercalate ['/'] parts).length + 1 = spread parts := by
  induction parts with
  | nil => exact absurd rfl nonempty
  | cons part parts ih =>
    cases parts with
    | nil => simp [spread]
    | cons next parts =>
      have rest := ih (cons_ne_nil _ _)
      simp only [intercalate_cons_cons, spread, map_cons, sum_cons, length_append, length_singleton] at rest ⊢
      omega

theorem spread_le {parts more : List (List Char)} (inside : parts.Sublist more) : spread parts ≤ spread more := by
  induction inside with
  | slnil => exact Nat.le_refl _
  | cons part _ ih | cons_cons part _ ih =>
    simp only [spread, map_cons, sum_cons] at ih ⊢
    omega

theorem candidates_proper (member : candidate ∈ candidates path) : candidate ≠ path := by
  obtain ⟨parts, inside, rfl⟩ := mem_map.mp member
  obtain ⟨inside, nonempty⟩ := mem_filter.mp inside
  have nonempty := of_decide_eq_true nonempty
  have whole : spread (segments '/' path.toList) = path.toList.length + 1 := spread_segments _
  have filtered := spread_le (filter_sublist (p := fun part => decide (part ≠ [])) (l := segments '/' path.toList))
  have filled : ∀ part ∈ (segments '/' path.toList).filter (fun part => part ≠ []), part ≠ [] := fun part kept =>
    of_decide_eq_true (mem_filter.mp kept).2
  intro same
  have longest := length_intercalate nonempty
  rw [show List.intercalate ['/'] parts = path.toList from (String.toList_ofList).symm.trans (congrArg String.toList same)] at longest
  cases kept : (segments '/' path.toList).filter (fun part => part ≠ []) with
  | nil =>
    rw [kept] at inside
    cases inside
  | cons first more =>
    rw [kept] at inside filled filtered
    have suffix : parts <:+ more := (mem_tails _ _).mp inside
    have smaller := spread_le suffix.sublist
    simp only [spread, map_cons, sum_cons] at *
    omega

theorem at_inj {other : String} (same : file.at path = file.at other) : path = other := by
  exact String.append_right_inj _ |>.mp (String.append_left_inj _ |>.mp same)

def knownSuffix (g : Graph) (file : FileId) : Option String := (candidates file.path).find? fun candidate => g.nodeExists (file.at candidate)

end

section
open Core.Graph Statements

def merged (fromId toId : String) (g : Graph) : Graph := ((mergeNode fromId toId).exec ⟨g, none⟩).2.graph

theorem Merges.merged {sources targets after : Graph} (merges : g.Merges fromId toId sources targets after) : merged fromId toId g = after := by
  rw [Repair.merged, mergeNode_exec merges]

theorem mergeNode_merged (ends : g.EdgesEnd) (fromId toId : String) :
    (mergeNode fromId toId).exec ⟨g, none⟩ = (.ok (g.nodeExists toId), ⟨merged fromId toId g, none⟩) := by
  obtain ⟨sources, targets, after, merges⟩ := ends.merges fromId toId
  rw [merged, mergeNode_exec merges]

theorem merged_ends (ends : g.EdgesEnd) (fromId toId : String) : (merged fromId toId g).EdgesEnd := by
  obtain ⟨sources, targets, after, merges⟩ := ends.merges fromId toId
  rw [Merges.merged merges]
  exact merges.edgesEnd

def mergedAll : List (String × String) → Graph → Graph
  | [], g => g
  | (fromId, toId) :: rest, g => mergedAll rest (if fromId = toId then g else merged fromId toId g)

def collapsed : List (String × FileId) → Graph → Graph
  | [], g => g
  | (fromId, file) :: rest, g =>
    match knownSuffix g file with
    | none => collapsed rest g
    | some relative => collapsed rest (if file.at relative = fromId then g else merged fromId (file.at relative) g)

def ownerRewrite? (g : Graph) (owner : String) : Option String :=
  (Text.splitOnce ':' owner).bind fun (lead, path) =>
    if isAbsolutePath path then (knownSuffix g ⟨lead, path, ""⟩).bind fun relative =>
      if lead ++ ":" ++ relative ≠ owner then some (lead ++ ":" ++ relative) else none
    else none

def reclaimed (g : Graph) : Graph :=
  ((ownerIds g).filterMap fun owner => (ownerRewrite? g owner).map (owner, ·)).foldl (fun g (fromId, toId) => g.moveOwner fromId toId) g

theorem mergeNodes_exec (ends : g.EdgesEnd) (pairs : List (String × String)) (outcome : RepairOutcome) :
    ∃ outcome', (mergeNodes pairs outcome).exec ⟨g, none⟩ = (.ok outcome', ⟨mergedAll pairs g, none⟩) ∧ (mergedAll pairs g).EdgesEnd := by
  induction pairs generalizing g outcome with
  | nil => exact ⟨outcome, rfl, ends⟩
  | cons pair rest ih =>
    obtain ⟨fromId, toId⟩ := pair
    rw [mergeNodes, mergedAll]
    split
    · exact ih ends outcome
    obtain ⟨outcome', done, ends'⟩ := ih (merged_ends ends fromId toId) (count outcome (g.nodeExists toId))
    exact ⟨outcome', (exec_bind (mergeNode_merged ends fromId toId)).trans done, ends'⟩

theorem longestKnownSuffix_exec (g : Graph) (mark : Option (String × List Endpoint)) (file : FileId) :
    (longestKnownSuffix file).exec ⟨g, mark⟩ = (.ok (knownSuffix g file), ⟨g, mark⟩) := by
  unfold longestKnownSuffix knownSuffix
  induction candidates file.path with
  | nil => rfl
  | cons candidate shorter ih =>
    refine (exec_bind exec_query).trans ?_
    by_cases known : g.nodeExists (file.at candidate) = true
    · rw [if_pos known, List.find?_cons_of_pos (p := fun candidate => g.nodeExists (file.at candidate)) known]
      rfl
    · rw [if_neg known, List.find?_cons_of_neg (p := fun candidate => g.nodeExists (file.at candidate)) known]
      exact ih

theorem collapseIds_exec (ends : g.EdgesEnd) (ids : List (String × FileId)) (outcome : RepairOutcome) :
    ∃ outcome', (collapseIds ids outcome).exec ⟨g, none⟩ = (.ok outcome', ⟨collapsed ids g, none⟩) ∧ (collapsed ids g).EdgesEnd := by
  induction ids generalizing g outcome with
  | nil => exact ⟨outcome, rfl, ends⟩
  | cons pair rest ih =>
    obtain ⟨fromId, file⟩ := pair
    have looked (next : Option String → RepairProgram RepairOutcome) :
        ((longestKnownSuffix file).bind next).exec ⟨g, none⟩ = (next (knownSuffix g file)).exec ⟨g, none⟩ :=
      exec_bind (longestKnownSuffix_exec g none file)
    rw [collapseIds, collapsed, bind_eq, looked]
    cases knownSuffix g file with
    | none => exact ih ends outcome
    | some relative =>
      dsimp only
      split
      · exact ih ends outcome
      obtain ⟨outcome', done, ends'⟩ := ih (merged_ends ends fromId (file.at relative)) (count outcome (g.nodeExists (file.at relative)))
      exact ⟨outcome', (exec_bind (mergeNode_merged ends fromId (file.at relative))).trans done, ends'⟩

theorem ownerRewrites_exec (g : Graph) (owners : List String) : (ownerRewrites owners).exec ⟨g, none⟩ =
    (.ok (owners.filterMap fun owner => (ownerRewrite? g owner).map (owner, ·)), ⟨g, none⟩) := by
  induction owners with
  | nil => rfl
  | cons owner rest ih =>
    rw [ownerRewrites, filterMap_cons, ownerRewrite?]
    cases Text.splitOnce ':' owner with
    | none => exact ih
    | some parts =>
      obtain ⟨lead, path⟩ := parts
      by_cases absolute : isAbsolutePath path = true
      · simp only [absolute, if_true, Option.bind_some]
        refine (exec_bind (longestKnownSuffix_exec g none _)).trans ?_
        cases knownSuffix g ⟨lead, path, ""⟩ with
        | none => exact ih
        | some relative =>
          refine (exec_bind ih).trans ?_
          rw [exec_pure, Option.bind_some]
          split <;> rfl
      · simp only [absolute, Option.bind_some]
        exact ih

theorem moveOwners_exec (g : Graph) (pairs : List (String × String)) : (moveOwners pairs).exec ⟨g, none⟩ =
    (.ok (), ⟨pairs.foldl (fun g (fromId, toId) => g.moveOwner fromId toId) g, none⟩) := by
  induction pairs generalizing g with
  | nil => rfl
  | cons pair rest ih =>
    have moved : (execute none fun g => .ok (g.moveOwner pair.1 pair.2)).exec ⟨g, none⟩ = (.ok (), ⟨g.moveOwner pair.1 pair.2, none⟩) :=
      execute_exec rfl
    exact (exec_bind moved).trans (ih _)

theorem reclaim_exec (g : Graph) : reclaimAbsoluteOwnership.exec ⟨g, none⟩ = (.ok (), ⟨reclaimed g, none⟩) := by
  refine (exec_bind exec_query).trans ?_
  refine (exec_bind (ownerRewrites_exec g _)).trans ?_
  exact moveOwners_exec g _

def repaired (root : String) (g : Graph) : Graph :=
  let plain := mergedAll (absolutePathNodes root g) g
  reclaimed (collapsed (absoluteIds plain) plain)

theorem repair_exec (root : String) (ends : g.EdgesEnd) (named : (trimRoot root).isEmpty = false) :
    ∃ outcome, (repairWorkspacePaths root).exec ⟨g, none⟩ = (.ok outcome, ⟨repaired (trimRoot root) g, none⟩) := by
  unfold repairWorkspacePaths repaired
  dsimp only
  rw [named]
  obtain ⟨outcome, done, ends'⟩ := mergeNodes_exec ends (absolutePathNodes (trimRoot root) g) ⟨0, 0⟩
  obtain ⟨outcome', done', _⟩ := collapseIds_exec ends' (absoluteIds (mergedAll (absolutePathNodes (trimRoot root) g) g)) outcome
  refine ⟨outcome', ?_⟩
  refine (exec_bind exec_query).trans ?_
  refine (exec_bind done).trans ?_
  refine (exec_bind exec_query).trans ?_
  refine (exec_bind done').trans ?_
  exact (exec_bind (reclaim_exec _)).trans rfl

end
end Repair
end MindLeak.Core
