import MindLeak.Core.Repair
import MindLeak.Proofs.Growth
import Mathlib.Algebra.BigOperators.Group.List.Basic
import Mathlib.Order.MinMax

/-! What merging one node into another leaves: each edge that the merge renames, with the edges that it
meets there, is one edge, and nothing else is changed. -/

namespace MindLeak.Core

open List Table

namespace EdgeRow

def rekey (key : EdgeKey) (row : EdgeRow) : EdgeRow := { row with key }

def join : Option EdgeRow → Option EdgeRow → Option EdgeRow
  | some row, some excluded => some (row.absorb excluded)
  | some row, none => some row
  | none, copied => copied

/-- The row is what these rows are together, an owner being given on as `own` says. -/
structure Gathers (own : Option String → Option String) (row : EdgeRow) (rows : List EdgeRow) : Prop where
  count : row.reinforcementCount = (rows.map EdgeRow.reinforcementCount).sum
  latest : (∃ other ∈ rows, other.updatedAt = row.updatedAt) ∧ ∀ other ∈ rows, other.updatedAt ≤ row.updatedAt
  earliest : (∃ other ∈ rows, other.firstSeen = row.firstSeen) ∧ ∀ other ∈ rows, row.firstSeen ≤ other.firstSeen
  alone : ∀ other, rows = [other] → row = { other with key := row.key, ownerId := own other.ownerId }

def GathersAll (own : Option String → Option String) : Option EdgeRow → List EdgeRow → Prop
  | none, rows => rows = []
  | some row, rows => row.Gathers own rows

variable {own : Option String → Option String} {row other : EdgeRow} {rows others : List EdgeRow} {one two : Option EdgeRow} {key : EdgeKey}

theorem Gathers.nonempty (gathers : row.Gathers own rows) : rows ≠ [] := by
  obtain ⟨⟨other, member, _⟩, _⟩ := gathers.latest
  exact ne_nil_of_mem member

theorem gathers_self (row : EdgeRow) : row.Gathers id [row] := by
  refine ⟨by simp, ⟨⟨row, mem_singleton_self row, rfl⟩, ?_⟩, ⟨⟨row, mem_singleton_self row, rfl⟩, ?_⟩, ?_⟩
  · intro other member
    rw [mem_singleton.mp member]
  · intro other member
    rw [mem_singleton.mp member]
  · intro other same
    cases same
    rfl

theorem Gathers.rekey (gathers : row.Gathers own rows) (key : EdgeKey) : (row.rekey key).Gathers own rows where
  count := gathers.count
  latest := gathers.latest
  earliest := gathers.earliest
  alone other same := by
    have whole := gathers.alone other same
    rw [whole]
    rfl

theorem Gathers.absorb (gathers : row.Gathers own rows) (gathers' : other.Gathers own others) : (row.absorb other).Gathers own (rows ++ others) where
  count := by
    rw [map_append, sum_append, ← gathers.count, ← gathers'.count]
    rfl
  latest := by
    obtain ⟨⟨first, inFirst, isFirst⟩, least⟩ := gathers.latest
    obtain ⟨⟨second, inSecond, isSecond⟩, least'⟩ := gathers'.latest
    refine ⟨?_, fun third member => ?_⟩
    · change ∃ third ∈ rows ++ others, third.updatedAt = max row.updatedAt other.updatedAt
      rcases max_choice row.updatedAt other.updatedAt with same | same
      · exact ⟨first, mem_append_left _ inFirst, isFirst.trans same.symm⟩
      · exact ⟨second, mem_append_right _ inSecond, isSecond.trans same.symm⟩
    · change third.updatedAt ≤ max row.updatedAt other.updatedAt
      rcases mem_append.mp member with inside | inside
      · exact le_max_of_le_left (least third inside)
      · exact le_max_of_le_right (least' third inside)
  earliest := by
    obtain ⟨⟨first, inFirst, isFirst⟩, least⟩ := gathers.earliest
    obtain ⟨⟨second, inSecond, isSecond⟩, least'⟩ := gathers'.earliest
    refine ⟨?_, fun third member => ?_⟩
    · change ∃ third ∈ rows ++ others, third.firstSeen = min row.firstSeen other.firstSeen
      rcases min_choice row.firstSeen other.firstSeen with same | same
      · exact ⟨first, mem_append_left _ inFirst, isFirst.trans same.symm⟩
      · exact ⟨second, mem_append_right _ inSecond, isSecond.trans same.symm⟩
    · change min row.firstSeen other.firstSeen ≤ third.firstSeen
      rcases mem_append.mp member with inside | inside
      · exact min_le_of_left_le (least third inside)
      · exact min_le_of_right_le (least' third inside)
  alone third same := by
    rcases append_eq_singleton_iff.mp same with ⟨none, _⟩ | ⟨_, none⟩
    · exact absurd none gathers.nonempty
    · exact absurd none gathers'.nonempty

theorem GathersAll.rekey (gathers : GathersAll own one rows) (key : EdgeKey) : GathersAll own (one.map (EdgeRow.rekey key)) rows := by
  cases one with
  | none => exact gathers
  | some row => exact Gathers.rekey gathers key

theorem GathersAll.join (gathers : GathersAll own one rows) (gathers' : GathersAll own two others) :
    GathersAll own (EdgeRow.join one two) (rows ++ others) := by
  cases one with
  | none =>
    cases gathers
    exact gathers'
  | some row =>
    cases two with
    | none =>
      cases gathers'
      rw [append_nil]
      exact gathers
    | some other => exact Gathers.absorb gathers gathers'

theorem gathersAll_self (one : Option EdgeRow) : GathersAll id one one.toList := by
  cases one with
  | none => rfl
  | some row => exact gathers_self row

theorem Gathers.perm (gathers : row.Gathers own rows) (same : rows.Perm others) : row.Gathers own others where
  count := gathers.count.trans (same.map _).sum_eq
  latest := by simpa only [same.mem_iff] using gathers.latest
  earliest := by simpa only [same.mem_iff] using gathers.earliest
  alone other single := gathers.alone other (perm_singleton.mp (single ▸ same))

theorem GathersAll.perm (gathers : GathersAll own one rows) (same : rows.Perm others) : GathersAll own one others := by
  cases one with
  | none =>
    cases gathers
    exact same.nil_eq.symm
  | some row => exact Gathers.perm gathers same

theorem Gathers.disown (gathers : row.Gathers id rows) (own : Option String → Option String) :
    ({ row with ownerId := own row.ownerId } : EdgeRow).Gathers own rows where
  count := gathers.count
  latest := gathers.latest
  earliest := gathers.earliest
  alone other same := by
    have whole := gathers.alone other same
    rw [whole]
    rfl

theorem GathersAll.disown (gathers : GathersAll id one rows) (own : Option String → Option String) :
    GathersAll own (one.map fun row => { row with ownerId := own row.ownerId }) rows := by
  cases one with
  | none => exact gathers
  | some row => exact Gathers.disown gathers own

end EdgeRow

namespace Endpoint
variable {column : Endpoint} {id : String} {key other : EdgeKey}

theorem set_eq_iff (column : Endpoint) (fromId toId : String) (row key : EdgeKey) :
    column.of row = fromId ∧ column.set toId row = key ↔ column.of key = toId ∧ row = column.set fromId key := by
  cases column <;> (obtain ⟨s, t, relation⟩ := row; obtain ⟨s', t', relation'⟩ := key; simp only [of, set, EdgeKey.mk.injEq]; grind)

def gathered (column : Endpoint) (fromId toId : String) (key : EdgeKey) : List EdgeKey :=
  if column.of key = toId then [key, column.set fromId key] else [key]

end Endpoint

def EdgeKey.renamed (fromId toId : String) (key : EdgeKey) : EdgeKey where
  sourceId := if key.sourceId = fromId then toId else key.sourceId
  targetId := if key.targetId = fromId then toId else key.targetId
  relation := key.relation

def EdgeKey.names (key : EdgeKey) (id : String) : Prop := key.sourceId = id ∨ key.targetId = id

namespace Graph

def EdgesEnd (g : Graph) : Prop :=
  ∀ row ∈ g.edges.rows, g.nodeExists row.key.sourceId = true ∧ g.nodeExists row.key.targetId = true

abbrev edge (g : Graph) (key : EdgeKey) : Option EdgeRow := g.edges.find? key

variable {g : Graph} {column : Endpoint} {fromId toId : String}

variable {row : EdgeRow}

theorem EdgesEnd.edge (ends : g.EdgesEnd) {key : EdgeKey} (found : g.edge key = some row) :
    g.nodeExists key.sourceId = true ∧ g.nodeExists key.targetId = true := by
  obtain ⟨member, rfl⟩ := mem_of_find? found
  exact ends row member

theorem EdgesEnd.of (ends : g.EdgesEnd) (column : Endpoint) (member : row ∈ g.edges.rows) :
    g.nodeExists (column.of row.key) = true := by
  cases column with
  | source => exact (ends row member).1
  | target => exact (ends row member).2

theorem insertCopy_ok (source : g.nodeExists row.key.sourceId = true) (target : g.nodeExists row.key.targetId = true) :
    ∃ edges, g.insertCopy row = .ok { g with edges } ∧
      ∀ key, edges.find? key = if row.key = key then EdgeRow.join (g.edge key) (some row) else g.edge key := by
  unfold insertCopy
  cases found : g.edges.find? row.key with
  | some old =>
    refine ⟨_, rfl, fun key => ?_⟩
    have named := (mem_of_find? found).2
    rw [Table.find?_put]
    change (if old.key = key then _ else _) = _
    change old.key = row.key at named
    rw [named]
    split
    next same =>
      subst same
      rw [edge, found]
      rfl
    next => rfl
  | none =>
    rw [if_pos (by rw [source, target]; rfl)]
    refine ⟨_, rfl, fun key => ?_⟩
    rw [Table.find?_put]
    change (if row.key = key then _ else _) = _
    split
    next same =>
      subst same
      rw [edge, found]
      rfl
    next => rfl

theorem insertCopies_ok {rows : List EdgeRow} (distinct : (rows.map EdgeRow.key).Nodup)
    (ends : ∀ row ∈ rows, g.nodeExists row.key.sourceId = true ∧ g.nodeExists row.key.targetId = true) :
    ∃ edges, rows.foldlM insertCopy g = .ok { g with edges } ∧
      ∀ key, edges.find? key = EdgeRow.join (g.edge key) (rows.find? fun row => decide (row.key = key)) := by
  induction rows generalizing g with
  | nil =>
    refine ⟨g.edges, rfl, fun key => ?_⟩
    change g.edge key = EdgeRow.join (g.edge key) none
    cases g.edge key <;> rfl
  | cons row rows ih =>
    obtain ⟨fresh, distinct⟩ := nodup_cons.mp distinct
    obtain ⟨here, later⟩ := forall_mem_cons.mp ends
    obtain ⟨edges, inserted, looks⟩ := insertCopy_ok here.1 here.2
    obtain ⟨edges', done, looks'⟩ := @ih { g with edges } distinct later
    refine ⟨edges', ?_, fun key => ?_⟩
    · rw [foldlM_cons, inserted]
      exact done
    · rw [looks', List.find?_cons]
      change EdgeRow.join (edges.find? key) _ = _
      rw [looks]
      by_cases same : row.key = key
      · have none : rows.find? (fun row => decide (row.key = key)) = none := by
          rw [List.find?_eq_none]
          intro other member
          rw [decide_eq_true_eq]
          exact fun equal => fresh ((same.trans equal.symm) ▸ mem_map_of_mem member)
        rw [if_pos same, none, decide_eq_true same]
        cases EdgeRow.join (g.edge key) (some row) <;> rfl
      · rw [if_neg same, decide_eq_false same]

def copyOf (column : Endpoint) (toId : String) (row : EdgeRow) : EdgeRow := row.rekey (column.set toId row.key)

def leaving (g : Graph) (column : Endpoint) (fromId : String) : List EdgeRow :=
  g.edges.rows.filter fun row => column.of row.key = fromId

theorem copies_distinct (g : Graph) (column : Endpoint) (fromId toId : String) :
    (((g.leaving column fromId).map (copyOf column toId)).map EdgeRow.key).Nodup := by
  rw [map_map]
  refine Nodup.map_on ?_ (g.edges.unique.of_map.filter _)
  intro row member other member' same
  obtain ⟨member, leaves⟩ := mem_filter.mp member
  obtain ⟨member', leaves'⟩ := mem_filter.mp member'
  have one := ((column.set_eq_iff fromId toId row.key _).mp ⟨of_decide_eq_true leaves, rfl⟩).2
  have two := ((column.set_eq_iff fromId toId other.key _).mp ⟨of_decide_eq_true leaves', rfl⟩).2
  exact inj_on_of_nodup_map g.edges.unique member member' (one.trans ((congrArg (column.set fromId) same).trans two.symm))

theorem find?_copies (g : Graph) (column : Endpoint) (fromId toId : String) (key : EdgeKey) :
    ((g.leaving column fromId).map (copyOf column toId)).find? (fun row => decide (row.key = key)) =
      if column.of key = toId then (g.edge (column.set fromId key)).map (EdgeRow.rekey key) else none := by
  have whole : (g.leaving column fromId).find? (fun row => decide ((copyOf column toId row).key = key)) =
      g.edges.rows.find? fun row => decide (column.of key = toId ∧ row.key = column.set fromId key) := by
    rw [leaving, List.find?_filter]
    congr 1
    funext row
    simp only [decide_eq_true_eq]
    exact decide_eq_decide.mpr (column.set_eq_iff fromId toId row.key key)
  rw [List.find?_map]
  refine (congrArg (Option.map _) whole).trans ?_
  split
  next arrives =>
    simp only [arrives, true_and]
    change Option.map _ (g.edge (column.set fromId key)) = _
    cases found : g.edge (column.set fromId key) with
    | none => rfl
    | some row =>
      have named := ((column.set_eq_iff fromId toId row.key key).mpr ⟨arrives, (mem_of_find? found).2⟩).2
      rw [Option.map_some, Option.map_some, copyOf, named]
  next away =>
    simp only [away, false_and, decide_false]
    rw [List.find?_eq_none.mpr (fun _ _ => Bool.false_ne_true)]
    rfl

theorem copyEdges_ok (ends : g.EdgesEnd) (there : g.nodeExists fromId = true → g.nodeExists toId = true) :
    ∃ edges, g.copyEdges column fromId toId = .ok { g with edges } ∧ ∀ key, edges.find? key =
      if column.of key = toId then EdgeRow.join (g.edge key) ((g.edge (column.set fromId key)).map (EdgeRow.rekey key)) else g.edge key := by
  have copiesEnd : ∀ row ∈ (g.leaving column fromId).map (copyOf column toId),
      g.nodeExists row.key.sourceId = true ∧ g.nodeExists row.key.targetId = true := by
    intro copy copied
    obtain ⟨row, left, rfl⟩ := mem_map.mp copied
    obtain ⟨inside, leaves⟩ := mem_filter.mp left
    have arrives := there (of_decide_eq_true leaves ▸ ends.of column inside)
    cases column with
    | source => exact ⟨arrives, (ends row inside).2⟩
    | target => exact ⟨(ends row inside).1, arrives⟩
  obtain ⟨edges, copied, looks⟩ := insertCopies_ok (g.copies_distinct column fromId toId) copiesEnd
  refine ⟨edges, ?_, fun key => ?_⟩
  · rw [foldlM_map] at copied
    exact copied
  · rw [looks, find?_copies]
    split
    next => rfl
    next => cases g.edge key <;> rfl

theorem copyEdges_ends (ends : g.EdgesEnd) (there : g.nodeExists fromId = true → g.nodeExists toId = true) {edges : Table EdgeRow}
    (looks : ∀ key, edges.find? key = if column.of key = toId then
      EdgeRow.join (g.edge key) ((g.edge (column.set fromId key)).map (EdgeRow.rekey key)) else g.edge key) :
    ({ g with edges } : Graph).EdgesEnd := by
  intro row member
  have found := Table.find?_of_mem member
  cases was : g.edge row.key with
  | some old => exact ends.edge was
  | none =>
    change edges.find? row.key = some row at found
    rw [looks, was] at found
    obtain ⟨arrives, found⟩ := then_of_ne found nofun
    obtain ⟨old, was', _⟩ := Option.map_eq_some_iff.mp found
    have olds := ends.edge was'
    cases column with
    | source =>
      cases arrives
      exact ⟨there olds.1, olds.2⟩
    | target =>
      cases arrives
      exact ⟨olds.1, there olds.2⟩

theorem insertNode_eq (g : Graph) (fromId toId : String) : g.insertNode fromId toId = g ∧ g.nodeExists fromId = false ∨
    ∃ row : Node, row.id = toId ∧ g.insertNode fromId toId = { g with nodes := g.nodes.put row } := by
  unfold insertNode
  cases left : g.nodes.find? fromId with
  | none => exact .inl ⟨rfl, by rw [nodeExists, left]; rfl⟩
  | some excluded =>
    right
    cases met : g.nodes.find? toId with
    | none => exact ⟨{ excluded with id := toId, label := labelFor toId }, rfl, rfl⟩
    | some row =>
      obtain ⟨_, rfl⟩ := mem_of_find? met
      exact ⟨{ row with
        createdAt := min row.createdAt excluded.createdAt
        lastAccessedAt := max row.lastAccessedAt excluded.lastAccessedAt
        content := row.content.or excluded.content }, rfl, rfl⟩

theorem insertNode_find? (g : Graph) {fromId toId id : String} (apart : id ≠ toId) :
    (g.insertNode fromId toId).nodes.find? id = g.nodes.find? id := by
  rcases g.insertNode_eq fromId toId with ⟨same, _⟩ | ⟨row, rfl, same⟩
  · rw [same]
  · rw [same]
    exact (Table.find?_put ..).trans (if_neg apart.symm)

theorem insertNode_exists (g : Graph) (fromId toId : String) {id : String} (there : g.nodeExists id = true) :
    (g.insertNode fromId toId).nodeExists id = true := by
  rcases g.insertNode_eq fromId toId with ⟨same, _⟩ | ⟨row, _, same⟩
  · rw [same]
    exact there
  · rw [same, nodeExists, Table.find?_put]
    split
    · rfl
    · exact there

theorem insertNode_carries (g : Graph) (fromId toId : String)
    (there : (g.insertNode fromId toId).nodeExists fromId = true) : (g.insertNode fromId toId).nodeExists toId = true := by
  rcases g.insertNode_eq fromId toId with ⟨same, absent⟩ | ⟨row, rfl, same⟩
  · rw [same, absent] at there
    cases there
  · rw [same, nodeExists, Table.find?_put]
    exact congrArg Option.isSome (if_pos rfl)

theorem insertNode_edges (g : Graph) (fromId toId : String) : (g.insertNode fromId toId).edges = g.edges := by
  rcases g.insertNode_eq fromId toId with ⟨same, _⟩ | ⟨row, _, same⟩ <;> rw [same]

theorem EdgesEnd.insertNode (ends : g.EdgesEnd) (fromId toId : String) : (g.insertNode fromId toId).EdgesEnd := by
  intro row member
  rw [insertNode_edges] at member
  exact ⟨g.insertNode_exists fromId toId (ends row member).1, g.insertNode_exists fromId toId (ends row member).2⟩

def renameOwner (fromId toId : String) (owner : Option String) : Option String := if owner = some fromId then some toId else owner

theorem moveOwner_edge (g : Graph) (fromId toId : String) (key : EdgeKey) :
    (g.moveOwner fromId toId).edge key = (g.edge key).map fun row => { row with ownerId := renameOwner fromId toId row.ownerId } := by
  unfold edge moveOwner
  rw [Table.find?_update]
  congr 1
  funext row
  by_cases owns : row.ownerId = some fromId
  · rw [if_pos (decide_eq_true owns), renameOwner, if_pos owns]
  · rw [if_neg (by rwa [decide_eq_true_eq]), renameOwner, if_neg owns]

theorem deleteNode_edge (g : Graph) {id : String} {key : EdgeKey} (apart : ¬key.names id) : (g.deleteNode id).edge key = g.edge key := by
  refine (Table.find?_delete ..).trans ?_
  change Option.filter _ (g.edge key) = g.edge key
  cases found : g.edge key with
  | none => rfl
  | some row =>
    obtain ⟨_, rfl⟩ := mem_of_find? found
    rw [Option.filter_some, if_pos]
    rw [Bool.not_eq_true', EdgeRow.touches, decide_eq_false_iff_not]
    exact apart

theorem deleteNode_touches (g : Graph) {id : String} (member : row ∈ (g.deleteNode id).edges.rows) : row.touches id = false := by
  have kept := (mem_filter.mp member).2
  rwa [Bool.not_eq_true'] at kept

theorem gathersAll_pass {look look' : EdgeKey → Option EdgeRow} {rows : EdgeKey → List EdgeRow}
    (gathers : ∀ key, EdgeRow.GathersAll id (look key) (rows key)) (looks : ∀ key, look' key = if column.of key = toId then
      EdgeRow.join (look key) ((look (column.set fromId key)).map (EdgeRow.rekey key)) else look key) (key : EdgeKey) :
    EdgeRow.GathersAll id (look' key) ((column.gathered fromId toId key).flatMap rows) := by
  rw [looks, Endpoint.gathered]
  split
  next =>
    rw [flatMap_cons, flatMap_singleton]
    exact (gathers key).join ((gathers _).rekey key)
  next =>
    rw [flatMap_singleton]
    exact gathers key

end Graph

namespace EdgeKey

def origins (fromId toId : String) (key : EdgeKey) : List EdgeKey :=
  (Endpoint.target.gathered fromId toId key).flatMap (Endpoint.source.gathered fromId toId)

variable {fromId toId : String} {key other : EdgeKey}

theorem renamed_clear (apart : fromId ≠ toId) (key : EdgeKey) : ¬(key.renamed fromId toId).names fromId := by
  unfold names renamed
  split <;> split <;> simp [*, Ne.symm apart]

theorem origins_nodup (apart : fromId ≠ toId) (key : EdgeKey) : (key.origins fromId toId).Nodup := by
  obtain ⟨s, t, relation⟩ := key
  by_cases source : s = toId <;> by_cases target : t = toId <;>
    simp [origins, Endpoint.gathered, Endpoint.of, Endpoint.set, source, target, apart, apart.symm]

theorem mem_origins (apart : fromId ≠ toId) (clear : ¬key.names fromId) : other ∈ key.origins fromId toId ↔ other.renamed fromId toId = key := by
  obtain ⟨s, t, relation⟩ := key
  obtain ⟨s', t', relation'⟩ := other
  simp only [names, not_or] at clear
  by_cases source : s = toId <;> by_cases target : t = toId <;>
    simp [origins, Endpoint.gathered, Endpoint.of, Endpoint.set, renamed, source, target] <;> grind

end EdgeKey

namespace Graph
variable {g : Graph} {column : Endpoint} {fromId toId : String}

theorem renamed_perm (apart : fromId ≠ toId) {key : EdgeKey} (clear : ¬key.names fromId) :
    ((key.origins fromId toId).flatMap fun key => (g.edge key).toList).Perm
      (g.edges.rows.filter fun row => row.key.renamed fromId toId = key) := by
  rw [← filterMap_eq_flatMap_toList]
  refine (perm_ext_iff_of_nodup ((EdgeKey.origins_nodup apart key).filterMap ?_) (g.edges.unique.of_map.filter _)).mpr fun row => ?_
  · intro one two row found found'
    exact (mem_of_find? found).2.symm.trans (mem_of_find? found').2
  · rw [mem_filterMap, mem_filter, decide_eq_true_eq]
    constructor
    · rintro ⟨origin, member, found⟩
      obtain ⟨inside, rfl⟩ := mem_of_find? found
      exact ⟨inside, (EdgeKey.mem_origins apart clear).mp member⟩
    · rintro ⟨inside, renames⟩
      exact ⟨row.key, (EdgeKey.mem_origins apart clear).mpr renames, Table.find?_of_mem inside⟩

theorem moveOwner_owner {row : EdgeRow} (apart : fromId ≠ toId) (member : row ∈ (g.moveOwner fromId toId).edges.rows) :
    row.ownerId ≠ some fromId := by
  obtain ⟨old, _, rfl⟩ := mem_map.mp member
  split
  next => exact fun same => apart (Option.some.inj same).symm
  next others => simpa using others

theorem deleteNode_absent (g : Graph) (id : String) : (g.deleteNode id).nodeExists id = false := by
  unfold nodeExists deleteNode
  rw [Table.find?_delete]
  cases found : g.nodes.find? id with
  | none => rfl
  | some node => rw [Option.filter_some, if_neg (by simp [show node.id = id from (mem_of_find? found).2])]; rfl

theorem EdgesEnd.moveOwner (ends : g.EdgesEnd) (fromId toId : String) : (g.moveOwner fromId toId).EdgesEnd := by
  intro row member
  obtain ⟨old, inside, rfl⟩ := mem_map.mp member
  split <;> exact ends old inside

theorem EdgesEnd.deleteNode (ends : g.EdgesEnd) (id : String) : (g.deleteNode id).EdgesEnd := by
  intro row member
  have clear := g.deleteNode_touches member
  rw [EdgeRow.touches, decide_eq_false_iff_not, not_or] at clear
  have old := ends row (mem_filter.mp member).1
  unfold nodeExists at old ⊢
  rwa [find?_deleteNode (Ne.symm clear.1), find?_deleteNode (Ne.symm clear.2)]

theorem copyEdges_keeps {holds : EdgeRow → Prop} (absorbs : ∀ row other, holds row → holds other → holds (row.absorb other))
    (rekeys : ∀ row key, holds row → holds (row.rekey key)) {edges : Table EdgeRow} (looks : ∀ key, edges.find? key =
      if column.of key = toId then EdgeRow.join (g.edge key) ((g.edge (column.set fromId key)).map (EdgeRow.rekey key)) else g.edge key)
    (all : ∀ row ∈ g.edges.rows, holds row) : ∀ row ∈ edges.rows, holds row := by
  have each {key : EdgeKey} {row : EdgeRow} (found : g.edge key = some row) : holds row := all row (mem_of_find? found).1
  intro row member
  have found := Table.find?_of_mem member
  change edges.find? row.key = some row at found
  rw [looks] at found
  split at found
  next =>
    cases here : g.edge row.key with
    | none =>
      rw [here] at found
      obtain ⟨old, there, same⟩ := Option.map_eq_some_iff.mp found
      exact same ▸ rekeys old row.key (each there)
    | some old =>
      rw [here] at found
      cases there : g.edge (column.set fromId row.key) with
      | none =>
        rw [there] at found
        cases found
        exact each here
      | some other =>
        rw [there] at found
        exact Option.some.inj found ▸ absorbs old _ (each here) (rekeys other row.key (each there))
  next => exact each found

structure Merges (g : Graph) (fromId toId : String) (sources targets after : Graph) : Prop where
  ofSources : (g.insertNode fromId toId).copyEdges .source fromId toId = .ok sources
  ofTargets : sources.copyEdges .target fromId toId = .ok targets
  behind : after = (targets.moveOwner fromId toId).deleteNode fromId
  halfNodes : sources.nodes = (g.insertNode fromId toId).nodes
  nodes : targets.nodes = (g.insertNode fromId toId).nodes
  gathers : ∀ key, EdgeRow.GathersAll id (targets.edge key) ((key.origins fromId toId).flatMap fun key => (g.edge key).toList)
  half : sources.EdgesEnd
  ends : targets.EdgesEnd
  keeps : ∀ holds : EdgeRow → Prop, (∀ row other, holds row → holds other → holds (row.absorb other)) →
    (∀ row key, holds row → holds (row.rekey key)) → (∀ row ∈ g.edges.rows, holds row) → ∀ row ∈ targets.edges.rows, holds row

theorem EdgesEnd.merges (ends : g.EdgesEnd) (fromId toId : String) : ∃ sources targets after, g.Merges fromId toId sources targets after := by
  have carried := ends.insertNode fromId toId
  have there := g.insertNode_carries fromId toId
  obtain ⟨edges, copied, looks⟩ := @copyEdges_ok _ .source _ _ carried there
  have half := copyEdges_ends carried there looks
  obtain ⟨edges', copied', looks'⟩ := @copyEdges_ok _ .target _ _ half there
  refine ⟨_, _, _, copied, copied', rfl, rfl, rfl, fun key => ?_, half, copyEdges_ends half there looks', fun holds absorbs rekeys all => ?_⟩
  · rw [EdgeKey.origins, flatMap_assoc]
    refine gathersAll_pass (gathersAll_pass (fun key => EdgeRow.gathersAll_self (g.edge key)) fun key => ?_) looks' key
    have before : (g.insertNode fromId toId).edge = g.edge := by
      funext key
      unfold Graph.edge
      rw [insertNode_edges]
    rw [← before]
    exact looks key
  · refine copyEdges_keeps absorbs rekeys looks' (copyEdges_keeps absorbs rekeys looks ?_)
    rwa [insertNode_edges]

variable {sources targets after : Graph}

section
variable (merges : g.Merges fromId toId sources targets after)
include merges

theorem Merges.renamed (apart : fromId ≠ toId) {key : EdgeKey}
    (clear : ¬key.names fromId) : EdgeRow.GathersAll (renameOwner fromId toId) (after.edge key)
      (g.edges.rows.filter fun row => row.key.renamed fromId toId = key) := by
  obtain ⟨_, _, rfl, _, _, gathers, _⟩ := merges
  rw [deleteNode_edge _ clear, moveOwner_edge]
  exact ((gathers key).perm (renamed_perm apart clear)).disown _

theorem Merges.clear (apart : fromId ≠ toId) {row : EdgeRow}
    (member : row ∈ after.edges.rows) : ¬row.key.names fromId ∧ row.ownerId ≠ some fromId := by
  obtain ⟨_, _, rfl, _⟩ := merges
  have clear := deleteNode_touches _ member
  rw [EdgeRow.touches, decide_eq_false_iff_not] at clear
  exact ⟨clear, moveOwner_owner apart (mem_filter.mp member).1⟩

theorem Merges.edgesEnd : after.EdgesEnd := by
  obtain ⟨_, _, rfl, _, _, _, _, ends, _⟩ := merges
  exact (ends.moveOwner fromId toId).deleteNode fromId

end

end Graph

namespace Repair
open Core.Graph Statements
variable {g sources targets after : Graph} {fromId toId : String} {mark : Option (String × List Endpoint)}

theorem execute_exec {run : Graph → Result Graph} {copied : Option (String × List Endpoint)} (ran : run g = .ok after) :
    (execute copied run).exec ⟨g, mark⟩ = (.ok (), ⟨after, copied⟩) := by
  refine exec_execute ?_
  rw [ran]
  rfl

theorem mergeNode_exec (merges : g.Merges fromId toId sources targets after) :
    (mergeNode fromId toId).exec ⟨g, mark⟩ = (.ok (g.nodeExists toId), ⟨after, none⟩) := by
  obtain ⟨copied, copied', rfl, _⟩ := merges
  have inserted : (execute none fun g => .ok (g.insertNode fromId toId)).exec ⟨g, mark⟩ = (.ok (), ⟨g.insertNode fromId toId, none⟩) :=
    execute_exec rfl
  have moved : (execute (some (fromId, [.source, .target])) fun g => .ok (g.moveOwner fromId toId)).exec
      ⟨targets, some (fromId, [.source, .target])⟩ = (.ok (), ⟨targets.moveOwner fromId toId, some (fromId, [.source, .target])⟩) :=
    execute_exec rfl
  have deleted : (execute none fun g => .ok (g.deleteNode fromId)).exec ⟨targets.moveOwner fromId toId, some (fromId, [.source, .target])⟩ =
      (.ok (), ⟨(targets.moveOwner fromId toId).deleteNode fromId, none⟩) := execute_exec rfl
  refine (exec_bind exec_query).trans ?_
  refine (exec_bind inserted).trans ?_
  refine (exec_bind (execute_exec copied)).trans ?_
  refine (exec_bind (execute_exec copied')).trans ?_
  refine (exec_bind moved).trans ?_
  exact (exec_bind deleted).trans rfl

def twoSpellings : Graph :=
  let node (id : String) : Node := Node.new id .artifact id 0
  let row (sourceId targetId : String) (updatedAt : Int) (count : Nat) : EdgeRow :=
    ⟨⟨sourceId, targetId, .relatesTo⟩, 1, 48, updatedAt, 0, count, some "artifact:/w/a.rs"⟩
  { Graph.empty with
    nodes := ⟨[node "artifact:/w/a.rs", node "artifact:a.rs"], by decide⟩
    edges := ⟨[row "artifact:/w/a.rs" "artifact:/w/a.rs" 5 1, row "artifact:/w/a.rs" "artifact:a.rs" 9 2,
      row "artifact:a.rs" "artifact:/w/a.rs" 7 3, row "artifact:a.rs" "artifact:a.rs" 8 4], by decide⟩ }

/-- A merge leaves one edge where there were any for it, which is what they were together, and nothing of
the node that is merged. -/
theorem mergeNode_conserves (g : Graph) (fromId toId : String) (mark : Option (String × List Endpoint)) (ends : g.EdgesEnd)
    (apart : fromId ≠ toId) : ∃ after, (mergeNode fromId toId).exec ⟨g, mark⟩ = (.ok (g.nodeExists toId), ⟨after, none⟩) ∧
      (∀ key : EdgeKey, ¬key.names fromId → EdgeRow.GathersAll (renameOwner fromId toId) (after.edge key)
        (g.edges.rows.filter fun row => row.key.renamed fromId toId = key)) ∧
      (∀ row ∈ after.edges.rows, ¬row.key.names fromId ∧ row.ownerId ≠ some fromId) ∧ after.nodeExists fromId = false ∧ after.EdgesEnd := by
  obtain ⟨sources, targets, after, merges⟩ := ends.merges fromId toId
  refine ⟨after, mergeNode_exec merges, ?_⟩
  refine ⟨fun key clear => merges.renamed apart clear, fun row member => merges.clear apart member, ?_, merges.edgesEnd⟩
  rw [merges.behind]
  exact deleteNode_absent _ fromId

theorem mergeNode_conserves_spellings : ∃ after row, (mergeNode "artifact:/w/a.rs" "artifact:a.rs").exec ⟨twoSpellings, none⟩ =
    (.ok true, ⟨after, none⟩) ∧ after.edge ⟨"artifact:a.rs", "artifact:a.rs", .relatesTo⟩ = some row ∧
      row.reinforcementCount = 10 ∧ ∀ row ∈ after.edges.rows, row.ownerId ≠ some "artifact:/w/a.rs" := by
  obtain ⟨after, done, gathers, clear, _⟩ := mergeNode_conserves twoSpellings "artifact:/w/a.rs" "artifact:a.rs" none
    (by unfold EdgesEnd; decide +kernel) (by decide)
  have gathered := gathers ⟨"artifact:a.rs", "artifact:a.rs", .relatesTo⟩ (by unfold EdgeKey.names; decide)
  cases found : after.edge ⟨"artifact:a.rs", "artifact:a.rs", .relatesTo⟩ with
  | none =>
    rw [found] at gathered
    exact absurd (congrArg List.isEmpty (show List.filter _ _ = [] from gathered)) (by decide +kernel)
  | some row =>
    rw [found] at gathered
    exact ⟨after, row, done, found, EdgeRow.Gathers.count gathered |>.trans (by decide +kernel), fun row member => (clear row member).2⟩

end Repair
end MindLeak.Core
