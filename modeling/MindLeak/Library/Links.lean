import Mathlib.Data.List.Nodup
import Mathlib.Data.List.Perm.Subperm
import Mathlib.Logic.Relation
import Mathlib.Data.Nat.Find
import Mathlib.Tactic.Common

/-! One-to-one links: no source and no target twice. Both uniqueness
constraints are fields. Following links from a point is then a walk, and a walk
as long as the table sees everything reachable, which is what lets a validator
that walks before it links keep the relation acyclic. -/

namespace MindLeak

open List Option

universe u v

structure Links (ε : Type u) {α : Type v} (source target : ε → α) where
  rows : List ε
  sources : (rows.map source).Nodup
  targets : (rows.map target).Nodup

namespace Links
variable {ε : Type u} {α : Type v} {source target : ε → α}
variable {links after : Links ε source target} {point first second reached : α} {row : ε} {count : Nat}

def empty : Links ε source target := ⟨[], nodup_nil, nodup_nil⟩

instance : Inhabited (Links ε source target) := ⟨empty⟩

def Linked (links : Links ε source target) (first second : α) : Prop :=
  ∃ row ∈ links.rows, source row = first ∧ target row = second

variable [DecidableEq α]

def from? (links : Links ε source target) (point : α) : Option ε :=
  links.rows.find? fun row => decide (source row = point)

def to? (links : Links ε source target) (point : α) : Option ε :=
  links.rows.find? fun row => decide (target row = point)

def next? (links : Links ε source target) (point : α) : Option α := (links.from? point).map target

/-- `INSERT`: refused when the source or the target is already linked. -/
def insert? (links : Links ε source target) (row : ε) : Option (Links ε source target) :=
  if fresh : source row ∉ links.rows.map source ∧ target row ∉ links.rows.map target then
    some ⟨links.rows ++ [row], by
      rw [map_append, map_singleton]
      refine links.sources.append (nodup_singleton _) ?_
      exact fun _ member single => fresh.1 (mem_singleton.mp single ▸ member), by
      rw [map_append, map_singleton]
      refine links.targets.append (nodup_singleton _) ?_
      exact fun _ member single => fresh.2 (mem_singleton.mp single ▸ member)⟩
  else none

def insertOrIgnore (links : Links ε source target) (row : ε) : Links ε source target :=
  (links.insert? row).getD links

def walk (links : Links ε source target) : Nat → α → List α
  | 0, _ => []
  | fuel + 1, point =>
    match links.next? point with
    | none => []
    | some following => following :: links.walk fuel following

def chain (links : Links ε source target) (point : α) : List α := links.walk links.rows.length point

def Acyclic (links : Links ε source target) : Prop := ∀ point, ¬ Relation.TransGen links.Linked point point

theorem from?_eq_some_iff : links.from? point = some row ↔ row ∈ links.rows ∧ source row = point := by
  refine ⟨fun found => ⟨mem_of_find?_eq_some found, by simpa using List.find?_some found⟩, ?_⟩
  rintro ⟨member, rfl⟩
  cases found : links.from? (source row) with
  | none => simpa using List.find?_eq_none.mp found row member
  | some other =>
    have inside := mem_of_find?_eq_some found
    have same : source other = source row := by simpa using List.find?_some found
    rw [inj_on_of_nodup_map links.sources inside member same]

theorem to?_eq_some_iff : links.to? point = some row ↔ row ∈ links.rows ∧ target row = point := by
  refine ⟨fun found => ⟨mem_of_find?_eq_some found, by simpa using List.find?_some found⟩, ?_⟩
  rintro ⟨member, rfl⟩
  cases found : links.to? (target row) with
  | none => simpa using List.find?_eq_none.mp found row member
  | some other =>
    have inside := mem_of_find?_eq_some found
    have same : target other = target row := by simpa using List.find?_some found
    rw [inj_on_of_nodup_map links.targets inside member same]

theorem next?_eq_some_iff :
    links.next? first = some second ↔ links.Linked first second := by
  constructor
  · intro found
    obtain ⟨row, stored, rfl⟩ := map_eq_some_iff.mp found
    obtain ⟨member, same⟩ := from?_eq_some_iff.mp stored
    exact ⟨row, member, same, rfl⟩
  · rintro ⟨row, member, same, rfl⟩
    exact map_eq_some_iff.mpr ⟨row, from?_eq_some_iff.mpr ⟨member, same⟩, rfl⟩

theorem Linked.next_unique {other : α} (link : links.Linked first second) (also : links.Linked first other) : second = other := by
  have found := next?_eq_some_iff.mpr link
  rw [next?_eq_some_iff.mpr also] at found
  exact (Option.some.inj found).symm

omit [DecidableEq α] in
theorem Linked.previous_unique {other : α} (link : links.Linked first second) (also : links.Linked other second) :
    first = other := by
  obtain ⟨row, member, rfl, same⟩ := link
  obtain ⟨row', member', rfl, same'⟩ := also
  rw [inj_on_of_nodup_map links.targets member member' (same.trans same'.symm)]

theorem insert?_rows (inserted : links.insert? row = some after) : after.rows = links.rows ++ [row] := by
  unfold insert? at inserted
  split at inserted
  on_goal 2 => cases inserted
  cases inserted; rfl

theorem linked_insert (inserted : links.insert? row = some after) (first second : α) :
    after.Linked first second ↔ links.Linked first second ∨ (source row = first ∧ target row = second) := by
  simp only [Linked, insert?_rows inserted, mem_append, mem_singleton, or_and_right, exists_or, exists_eq_left]

theorem insertOrIgnore_cases (links : Links ε source target) (row : ε) :
    (∃ after, links.insert? row = some after ∧ links.insertOrIgnore row = after) ∨
      (links.insertOrIgnore row = links ∧
        ((∃ other, links.Linked (source row) other) ∨ ∃ other, links.Linked other (target row))) := by
  unfold insertOrIgnore
  cases inserted : links.insert? row with
  | some after => exact .inl ⟨after, rfl, rfl⟩
  | none =>
    refine .inr ⟨rfl, ?_⟩
    unfold insert? at inserted
    split at inserted
    · cases inserted
    rename_i taken
    rw [not_and_or, not_not, not_not] at taken
    rcases taken with taken | taken
    · obtain ⟨other, member, same⟩ := mem_map.mp taken
      exact .inl ⟨target other, other, member, same, rfl⟩
    · obtain ⟨other, member, same⟩ := mem_map.mp taken
      exact .inr ⟨source other, other, member, rfl, same⟩

structure Paths (links : Links ε source target) : Prop where
  next : ∀ {point first second}, links.Linked point first → links.Linked point second → first = second
  previous : ∀ {point first second}, links.Linked first point → links.Linked second point → first = second
  irreflexive : ∀ point, ¬ links.Linked point point
  acyclic : links.Acyclic

theorem Acyclic.paths (acyclic : links.Acyclic) : links.Paths where
  next := Linked.next_unique
  previous := Linked.previous_unique
  irreflexive point linked := acyclic point (.single linked)
  acyclic := acyclic

def ahead (links : Links ε source target) : Nat → α → Option α
  | 0, point => some point
  | count + 1, point => (links.ahead count point).bind links.next?

theorem ahead_add (links : Links ε source target) (first second : Nat) (point : α) :
    links.ahead (first + second) point = (links.ahead first point).bind (links.ahead second) := by
  induction second with
  | zero => cases links.ahead first point <;> rfl
  | succ second ih =>
    rw [← Nat.add_assoc]
    simp only [ahead, ih]
    cases links.ahead first point <;> rfl

theorem ahead_of_reached (reached : Relation.TransGen links.Linked first second) :
    ∃ count, links.ahead (count + 1) first = some second := by
  induction reached with
  | single link => exact ⟨0, next?_eq_some_iff.mpr link⟩
  | tail _ link ih =>
    obtain ⟨count, found⟩ := ih
    refine ⟨count + 1, ?_⟩
    rw [ahead, found]
    exact next?_eq_some_iff.mpr link

theorem mem_walk (links : Links ε source target) {fuel : Nat} (short : count < fuel)
    (found : links.ahead (count + 1) point = some reached) : reached ∈ links.walk fuel point := by
  induction fuel generalizing point count with
  | zero => omega
  | succ fuel ih =>
    rw [Nat.add_comm, ahead_add] at found
    simp only [ahead, bind_some] at found
    cases step : links.next? point with
    | none => simp [step] at found
    | some following =>
      simp only [step, bind_some] at found
      simp only [walk, step, mem_cons]
      cases count with
      | zero =>
        cases found
        exact .inl rfl
      | succ count => exact .inr (ih (by omega) found)

theorem passes {before after : Nat} (found : links.ahead (before + after) point = some reached) :
    ∃ middle, links.ahead before point = some middle ∧ links.ahead after middle = some reached := by
  rw [ahead_add] at found
  exact bind_eq_some_iff.mp found

theorem source_of_ahead (found : links.ahead (1 + count) point = some reached) : point ∈ links.rows.map source := by
  obtain ⟨following, step, _⟩ := passes found
  obtain ⟨row, stored, same, _⟩ := next?_eq_some_iff.mp (by simpa [ahead] using step)
  exact mem_map.mpr ⟨row, stored, same⟩

/-- A shortest way repeats no point: a repeat would be cut out. -/
theorem shortest_distinct (found : links.ahead (count + 1) point = some reached)
    (shortest : ∀ shorter, shorter < count → links.ahead (shorter + 1) point ≠ some reached) :
    ((List.range (count + 1)).map fun i => links.ahead i point).Nodup := by
  refine Nodup.map_on ?_ nodup_range
  intro i insideI j insideJ same
  rw [mem_range] at insideI insideJ
  by_contra different
  wlog less : i < j generalizing i j
  · exact this j insideJ i insideI same.symm (Ne.symm different) (by omega)
  obtain ⟨rest, split⟩ : ∃ rest, count = j + rest := ⟨count - j, by omega⟩
  subst split
  obtain ⟨middle, atJ, onward⟩ :=
    passes (show links.ahead (j + (rest + 1)) point = some reached by rwa [← Nat.add_assoc])
  refine shortest (i + rest) (by omega) ?_
  rw [Nat.add_assoc, ahead_add, same, atJ]
  exact onward

theorem mem_chain (connected : Relation.TransGen links.Linked point reached) : reached ∈ links.chain point := by
  classical
  have some_way := ahead_of_reached connected
  have found := Nat.find_spec some_way
  generalize length : Nat.find some_way = count at found
  have distinct := shortest_distinct found fun shorter less => Nat.find_min some_way (length ▸ less)
  have inside : ((List.range (count + 1)).map fun i => links.ahead i point) ⊆
      (links.rows.map source).map some := by
    intro seen member
    obtain ⟨i, range, rfl⟩ := mem_map.mp member
    rw [mem_range] at range
    obtain ⟨rest, split⟩ : ∃ rest, count + 1 = i + (1 + rest) := ⟨count - i, by omega⟩
    obtain ⟨middle, here, onward⟩ := passes (split ▸ found)
    exact mem_map.mpr ⟨middle, source_of_ahead onward, here.symm⟩
  have bounded : count + 1 ≤ links.rows.length := by
    simpa using (subperm_of_subset distinct inside).length_le
  exact links.mem_walk (by omega) found

/-- One more link makes a new path only by passing through it. -/
theorem reached_insert (inserted : links.insert? row = some after) (reached : Relation.TransGen after.Linked first second) :
    Relation.TransGen links.Linked first second ∨ (Relation.ReflTransGen links.Linked first (source row) ∧
        Relation.ReflTransGen links.Linked (target row) second) := by
  induction reached with
  | single link =>
    rcases (linked_insert inserted _ _).mp link with old | ⟨rfl, rfl⟩
    · exact .inl (.single old)
    · exact .inr ⟨.refl, .refl⟩
  | tail _ link ih =>
    rcases (linked_insert inserted _ _).mp link with old | ⟨rfl, rfl⟩
    · rcases ih with before | ⟨before, after⟩
      · exact .inl (before.tail old)
      · exact .inr ⟨before, after.tail old⟩
    · rcases ih with before | ⟨before, _⟩
      · exact .inr ⟨before.to_reflTransGen, .refl⟩
      · exact .inr ⟨before, .refl⟩

/-- Walking from the new target before linking is enough to stay acyclic. -/
theorem Acyclic.insert (acyclic : links.Acyclic) (inserted : links.insert? row = some after)
    (apart : target row ≠ source row) (unseen : source row ∉ links.chain (target row)) : after.Acyclic := by
  intro point cycle
  rcases reached_insert inserted cycle with old | ⟨back, forth⟩
  · exact acyclic point old
  · rcases Relation.reflTransGen_iff_eq_or_transGen.mp (forth.trans back) with same | connected
    · exact apart same.symm
    · exact unseen (mem_chain connected)

omit [DecidableEq α] in
theorem Acyclic.empty : (empty : Links ε source target).Acyclic := by
  intro point cycle
  obtain ⟨_, ⟨_, member, _⟩, _⟩ := Relation.TransGen.head'_iff.mp cycle
  cases member

end Links
end MindLeak
