import Mathlib.Data.List.Nodup

/-! A relational table with a primary key, as a guarded-statement store uses
one. Key uniqueness is a field, so every statement below returns a table that
still has it and no later proof re-proves it. -/

namespace MindLeak

open List Function

universe u v w

class Row (ρ : Type u) (κ : outParam (Type v)) where
  key : ρ → κ

structure Table (ρ : Type u) {κ : Type v} [Row ρ κ] where
  rows : List ρ
  unique : (rows.map Row.key).Nodup

namespace Table
variable {ρ : Type u} {κ : Type v} [Row ρ κ]
variable {table : Table ρ} {row other : ρ} {selects passes : ρ → Bool} {set : ρ → ρ} {key : κ}

def empty : Table ρ := ⟨[], nodup_nil⟩

instance : Inhabited (Table ρ) := ⟨empty⟩

/-- `UPDATE … SET set WHERE selects`: the new value may not move a key. -/
def update (table : Table ρ) (selects : ρ → Bool) (set : ρ → ρ)
    (keeps : ∀ row, Row.key (set row) = Row.key row := by intro row; rfl) : Table ρ where
  rows := table.rows.map fun row => if selects row then set row else row
  unique := by
    have same : (table.rows.map fun row => if selects row then set row else row).map Row.key =
        table.rows.map Row.key := by
      simp only [map_map]
      refine map_congr_left fun row _ => ?_
      simp only [Function.comp]
      split <;> simp only [keeps]
    rw [same]
    exact table.unique

def delete (table : Table ρ) (selects : ρ → Bool) : Table ρ where
  rows := table.rows.filter fun row => !selects row
  unique := table.unique.sublist (filter_sublist.map _)

def map {ρ' : Type u} [Row ρ' κ] (table : Table ρ) (image : ρ → ρ')
    (keeps : ∀ row, Row.key (image row) = Row.key row := by intro row; rfl) : Table ρ' where
  rows := table.rows.map image
  unique := by
    have same : (table.rows.map image).map Row.key = table.rows.map Row.key := by
      rw [map_map]
      exact map_congr_left fun row _ => keeps row
    rw [same]
    exact table.unique

theorem eq_of_rows {other : Table ρ} (rows : table.rows = other.rows) : table = other := by
  cases table
  cases rows
  rfl

theorem eq_empty (rows : table.rows = []) : table = .empty := eq_of_rows rows

variable {keeps : ∀ row, Row.key (set row) = Row.key row}

theorem update_eq_self
    (still : ∀ row ∈ table.rows, selects row = true → set row = row) : table.update selects set keeps = table := by
  apply eq_of_rows
  refine (map_congr_left ?_).trans (map_id table.rows)
  intro row member
  split
  next selected => exact still row member selected
  next => rfl

theorem find?_rows_update
    (apart : ∀ row ∈ table.rows.find? passes, selects row = false)
    (bars : ∀ row, selects row = true → passes (set row) = true → passes row = true) :
    (table.update selects set keeps).rows.find? passes = table.rows.find? passes := by
  unfold update
  obtain ⟨rows, distinct⟩ := table
  dsimp only at apart ⊢
  clear distinct
  induction rows with
  | nil => rfl
  | cons first rest ih =>
    rw [map_cons]
    by_cases here : passes first = true
    · rw [List.find?_cons_of_pos here] at apart ⊢
      rw [if_neg (by simp [apart first rfl]), List.find?_cons_of_pos here]
    · rw [List.find?_cons_of_neg here] at apart ⊢
      rw [List.find?_cons_of_neg, ih apart]
      split
      next selected => exact fun passing => here (bars first selected passing)
      next => exact here

theorem any_rows_update (same : ∀ row, passes (set row) = passes row) :
    (table.update selects set keeps).rows.any passes = table.rows.any passes := by
  unfold update
  rw [any_map]
  congr 1
  funext row
  simp only [comp]
  split
  · exact same row
  · rfl

theorem ne_of_free {ι : Type w} {held : List ι} {first second : κ} (lock : κ → ι) (mine : lock first ∈ held)
    (free : ∀ guard ∈ [lock second], guard ∉ held) : first ≠ second := by
  rintro rfl
  exact free _ (mem_singleton_self _) mine

variable [DecidableEq κ]

def find? (table : Table ρ) (key : κ) : Option ρ :=
  table.rows.find? fun row => decide (Row.key row = key)

def insert? (table : Table ρ) (row : ρ) : Option (Table ρ) :=
  if fresh : Row.key row ∉ table.rows.map Row.key then
    some ⟨table.rows ++ [row], by
      rw [map_append, map_singleton]
      refine table.unique.append (nodup_singleton _) ?_
      intro key member single
      rw [mem_singleton] at single
      exact fresh (single ▸ member)⟩
  else none

def insertOrIgnore (table : Table ρ) (row : ρ) : Table ρ :=
  (table.insert? row).getD table

def move (table : Table ρ) (key : κ) (row : ρ) : Table ρ where
  rows := (table.rows.filter fun other => decide (Row.key other = key) || decide (Row.key other ≠ Row.key row)).map
    fun other => if Row.key other = key then row else other
  unique := by
    rw [map_map]
    refine Nodup.map_on ?_ (table.unique.of_map.filter _)
    intro first inFirst second inSecond same
    simp only [mem_filter, Bool.or_eq_true, decide_eq_true_eq] at inFirst inSecond
    have distinct := inj_on_of_nodup_map table.unique inFirst.1 inSecond.1
    simp only [Function.comp] at same
    split at same <;> split at same
    next here there => exact distinct (here.trans there.symm)
    next here there => exact absurd same.symm (inSecond.2.resolve_left there)
    next here there => exact absurd same (inFirst.2.resolve_left here)
    next => exact distinct same

def put (table : Table ρ) (row : ρ) : Table ρ := (table.insertOrIgnore row).move (Row.key row) row

def standing (selects : ρ → Bool) (set : ρ → ρ) : List κ → List ρ → List ρ
  | _, [] => []
  | gone, row :: rest =>
    if selects row = true ∧ Row.key row ∉ gone then row :: standing selects set (Row.key (set row) :: gone) rest
    else standing selects set gone rest

def movers (table : Table ρ) (selects : ρ → Bool) (set : ρ → ρ) : List ρ := standing selects set [] table.rows

/-- `UPDATE OR REPLACE … SET set WHERE selects`, row by row. -/
def replace (table : Table ρ) (selects : ρ → Bool) (set : ρ → ρ) : Table ρ :=
  (table.movers selects set).foldl (fun result row => result.move (Row.key row) (set row)) table

theorem mem_of_find? (found : table.find? key = some row) : row ∈ table.rows ∧ Row.key row = key := by
  refine ⟨mem_of_find?_eq_some found, ?_⟩
  simpa using List.find?_some found

theorem find?_of_mem (member : row ∈ table.rows) : table.find? (Row.key row) = some row := by
  obtain ⟨rows, distinct⟩ := table
  simp only [find?] at member ⊢
  induction rows with
  | nil => cases member
  | cons first rest ih =>
    rw [map_cons, nodup_cons] at distinct
    rcases mem_cons.mp member with rfl | later
    · simp
    have other : Row.key first ≠ Row.key row := fun same =>
      distinct.1 (same ▸ mem_map_of_mem later)
    rw [List.find?_cons_of_neg (by simpa using other)]
    exact ih distinct.2 later

theorem find?_eq_some_iff : table.find? key = some row ↔ row ∈ table.rows ∧ Row.key row = key := by
  refine ⟨mem_of_find?, ?_⟩
  rintro ⟨member, rfl⟩
  exact find?_of_mem member

theorem find?_eq_none_iff : table.find? key = none ↔ key ∉ table.rows.map Row.key := by
  simp [find?, List.find?_eq_none]

theorem countP_key (table : Table ρ) (key : κ) (selects : ρ → Bool) :
    table.rows.countP (fun row => decide (Row.key row = key) && selects row) =
      ((table.find? key).any selects).toNat := by
  obtain ⟨rows, distinct⟩ := table
  simp only [find?]
  induction rows with
  | nil => rfl
  | cons first rest ih =>
    rw [map_cons, nodup_cons] at distinct
    rw [countP_cons]
    by_cases same : Row.key first = key
    · have apart : rest.countP (fun row => decide (Row.key row = key) && selects row) = 0 := by
        rw [countP_eq_zero]
        intro other member
        have different : Row.key other ≠ key := fun equal =>
          distinct.1 (same.trans equal.symm ▸ mem_map_of_mem member)
        simp [different]
      rw [apart, List.find?_cons_of_pos (by simpa using same)]
      cases taken : selects first <;> simp [same, taken]
    · rw [List.find?_cons_of_neg (by simpa using same), ih distinct.2]
      simp [same]

@[simp] theorem find?_empty (key : κ) : (empty : Table ρ).find? key = none := rfl

theorem rows_eq_nil (absent : ∀ key, table.find? key = none) : table.rows = [] := by
  refine eq_nil_iff_forall_not_mem.mpr fun row member => ?_
  have found := find?_of_mem member
  rw [absent] at found
  cases found

@[simp] theorem find?_update (table : Table ρ) (selects : ρ → Bool) (set : ρ → ρ)
    (keeps : ∀ row, Row.key (set row) = Row.key row) (key : κ) :
    (table.update selects set keeps).find? key =
      (table.find? key).map fun row => if selects row then set row else row := by
  unfold find? update
  rw [List.find?_map]
  have same : ((fun row => decide (Row.key row = key)) ∘ fun row => if selects row then set row else row) =
      fun row => decide (Row.key row = key) := by
    funext row
    simp only [comp]
    split <;> simp only [keeps]
  rw [same]

theorem find?_update_one (table : Table ρ) (key other : κ) (set : ρ → ρ) (keeps : ∀ row, Row.key (set row) = Row.key row) :
    (table.update (fun row => decide (Row.key row = key)) set keeps).find? other =
      if key = other then (table.find? key).map set else table.find? other := by
  rw [find?_update]
  split
  next same =>
    subst same
    cases found : table.find? key with
    | none => rfl
    | some row => rw [Option.map_some, Option.map_some, if_pos (decide_eq_true (mem_of_find? found).2)]
  next apart =>
    cases found : table.find? other with
    | none => rfl
    | some row =>
      rw [Option.map_some, if_neg]
      rw [decide_eq_true_eq, (mem_of_find? found).2]
      exact Ne.symm apart

@[simp] theorem find?_delete (table : Table ρ) (selects : ρ → Bool) (key : κ) :
    (table.delete selects).find? key = (table.find? key).filter fun row => !selects row := by
  cases found : table.find? key with
  | none =>
    rw [find?_eq_none_iff] at found
    refine find?_eq_none_iff.mpr fun member => ?_
    obtain ⟨row, inside, same⟩ := mem_map.mp member
    exact found (mem_map.mpr ⟨row, (mem_filter.mp inside).1, same⟩)
  | some row =>
    obtain ⟨member, same⟩ := mem_of_find? found
    by_cases gone : selects row = true
    · simp only [Option.filter_some, gone, Bool.not_true, Bool.false_eq_true, if_false]
      rw [find?_eq_none_iff]
      intro kept
      obtain ⟨other, inside, equal⟩ := mem_map.mp kept
      obtain ⟨inside, survives⟩ := mem_filter.mp inside
      have identical : other = row := by
        have := find?_of_mem inside
        rw [equal, found] at this
        exact (Option.some.inj this).symm
      simp [identical, gone] at survives
    · simp only [Option.filter_some, gone, Bool.not_false, if_true]
      exact find?_eq_some_iff.mpr ⟨mem_filter.mpr ⟨member, by simpa using gone⟩, same⟩

theorem insert?_rows {after : Table ρ} (inserted : table.insert? row = some after) :
    after.rows = table.rows ++ [row] ∧ table.find? (Row.key row) = none := by
  unfold insert? at inserted
  split at inserted
  on_goal 2 => cases inserted
  rename_i fresh
  cases inserted
  exact ⟨rfl, find?_eq_none_iff.mpr fresh⟩

theorem find?_insert {after : Table ρ} (inserted : table.insert? row = some after) (key : κ) :
    after.find? key = if Row.key row = key then some row else table.find? key := by
  obtain ⟨rows, fresh⟩ := insert?_rows inserted
  split
  next same => exact find?_eq_some_iff.mpr ⟨by simp [rows], same⟩
  rename_i other
  unfold find?
  rw [rows, List.find?_append]
  simp [other]

theorem insert?_of_fresh (fresh : table.find? (Row.key row) = none) :
    ∃ after, table.insert? row = some after := by
  unfold insert?
  rw [dif_pos (find?_eq_none_iff.mp fresh)]
  exact ⟨_, rfl⟩

theorem insertOrIgnore_rows (fresh : table.find? (Row.key row) = none) :
    (table.insertOrIgnore row).rows = table.rows ++ [row] := by
  obtain ⟨after, inserted⟩ := insert?_of_fresh fresh
  rw [insertOrIgnore, inserted, Option.getD_some, (insert?_rows inserted).1]

theorem mem_insertOrIgnore (member : other ∈ (table.insertOrIgnore row).rows) :
    other ∈ table.rows ∨ other = row := by
  unfold insertOrIgnore at member
  cases inserted : table.insert? row with
  | none =>
    rw [inserted] at member
    exact .inl member
  | some after =>
    rw [inserted, Option.getD_some, (insert?_rows inserted).1, mem_append, mem_singleton] at member
    exact member

theorem insertOrIgnore_taken (taken : table.find? (Row.key row) ≠ none) : table.insertOrIgnore row = table := by
  obtain ⟨other, found⟩ := Option.ne_none_iff_exists'.mp taken
  obtain ⟨member, named⟩ := mem_of_find? found
  have there : ¬Row.key row ∉ table.rows.map Row.key := fun fresh => fresh (named ▸ mem_map_of_mem member)
  rw [insertOrIgnore, insert?, dif_neg there, Option.getD_none]

theorem insertOrIgnore_keeps (member : other ∈ table.rows) : other ∈ (table.insertOrIgnore row).rows := by
  unfold insertOrIgnore
  cases inserted : table.insert? row with
  | none => exact member
  | some after =>
    rw [Option.getD_some, (insert?_rows inserted).1]
    exact mem_append_left _ member

theorem find?_insertOrIgnore (table : Table ρ) (row : ρ) (key : κ) : (table.insertOrIgnore row).find? key =
    if Row.key row = key then some ((table.find? key).getD row) else table.find? key := by
  unfold insertOrIgnore
  cases inserted : table.insert? row with
  | some after =>
    rw [Option.getD_some, find?_insert inserted]
    split
    next same => rw [← same, (insert?_rows inserted).2, Option.getD_none]
    next => rfl
  | none =>
    rw [Option.getD_none]
    split
    next same =>
      cases found : table.find? key with
      | some held => rfl
      | none =>
        obtain ⟨after, done⟩ := insert?_of_fresh (same ▸ found)
        rw [inserted] at done
        cases done
    next => rfl

def Extends (before after : Table ρ) : Prop := ∀ key row, before.find? key = some row → after.find? key = some row

theorem Extends.refl (table : Table ρ) : table.Extends table := fun _ _ found => found

theorem Extends.trans {first middle last : Table ρ} (one : first.Extends middle) (other : middle.Extends last) : first.Extends last :=
  fun key row found => other key row (one key row found)

theorem extends_insertOrIgnore (table : Table ρ) (row : ρ) : table.Extends (table.insertOrIgnore row) := by
  intro key held found
  rw [find?_insertOrIgnore, found]
  split <;> rfl

theorem find?_insertOrIgnore_free {ι : Type w} {held : List ι} (lock : κ → ι) (mine : lock (Row.key row) ∈ held)
    (free : ∀ guard ∈ [lock key], guard ∉ held) : (table.insertOrIgnore row).find? key = table.find? key :=
  (find?_insertOrIgnore table row key).trans (if_neg (ne_of_free lock mine free))

theorem find?_insertOrIgnore_self (row : ρ) (fresh : table.find? (Row.key row) = none) :
    (table.insertOrIgnore row).find? (Row.key row) = some row := by
  rw [find?_insertOrIgnore, if_pos rfl, fresh, Option.getD_none]

theorem find?_rows_insertOrIgnore (out : passes row = false) :
    (table.insertOrIgnore row).rows.find? passes = table.rows.find? passes := by
  unfold insertOrIgnore
  cases inserted : table.insert? row with
  | none => rfl
  | some after =>
    rw [Option.getD_some, (insert?_rows inserted).1, List.find?_append]
    simp [out]

theorem any_rows_insertOrIgnore (out : passes row = false) :
    (table.insertOrIgnore row).rows.any passes = table.rows.any passes := by
  unfold insertOrIgnore
  cases inserted : table.insert? row with
  | none => rfl
  | some after =>
    rw [Option.getD_some, (insert?_rows inserted).1, any_append]
    simp [out]

theorem find?_move {other : κ} {moved : ρ} (found : table.find? key = some row) :
    (table.move key moved).find? other =
      if Row.key moved = other then some moved else if key = other then none else table.find? other := by
  obtain ⟨member, named⟩ := mem_of_find? found
  have rows (image : ρ) : image ∈ (table.move key moved).rows ↔
      image = moved ∨ image ∈ table.rows ∧ Row.key image ≠ key ∧ Row.key image ≠ Row.key moved := by
    simp only [move, mem_map, mem_filter, Bool.or_eq_true, decide_eq_true_eq]
    constructor
    · rintro ⟨origin, ⟨inside, kept⟩, rfl⟩
      by_cases here : Row.key origin = key
      · simp [here]
      · rw [if_neg here]
        exact .inr ⟨inside, here, kept.resolve_left here⟩
    · rintro (rfl | ⟨inside, here, apart⟩)
      · exact ⟨row, ⟨member, .inl named⟩, if_pos named⟩
      · exact ⟨image, ⟨inside, .inr apart⟩, if_neg here⟩
  by_cases arrives : Row.key moved = other
  · rw [if_pos arrives, find?_eq_some_iff, rows]
    exact ⟨.inl rfl, arrives⟩
  · rw [if_neg arrives]
    by_cases leaves : key = other
    · rw [if_pos leaves, find?_eq_none_iff]
      intro taken
      obtain ⟨image, inside, same⟩ := mem_map.mp taken
      rcases (rows image).mp inside with rfl | ⟨_, apart, _⟩
      · exact arrives same
      · exact apart (same.trans leaves.symm)
    · rw [if_neg leaves]
      apply Option.ext
      intro image
      rw [find?_eq_some_iff, find?_eq_some_iff, rows]
      constructor
      · rintro ⟨rfl | ⟨inside, _⟩, same⟩
        · exact absurd same arrives
        · exact ⟨inside, same⟩
      · intro ⟨inside, same⟩
        refine ⟨.inr ⟨inside, ?_, ?_⟩, same⟩
        · exact fun equal => leaves (equal.symm.trans same)
        · exact fun equal => arrives (equal.symm.trans same)

theorem find?_put (table : Table ρ) (row : ρ) (key : κ) :
    (table.put row).find? key = if Row.key row = key then some row else table.find? key := by
  have found : (table.insertOrIgnore row).find? (Row.key row) = some ((table.find? (Row.key row)).getD row) := by
    rw [find?_insertOrIgnore, if_pos rfl]
  rw [put, find?_move found, find?_insertOrIgnore]
  split <;> rfl

theorem put_self (member : row ∈ table.rows) : table.put row = table := by
  have found := find?_of_mem member
  have there : table.insertOrIgnore row = table := by
    unfold insertOrIgnore insert?
    rw [dif_neg fun fresh => fresh (mem_map_of_mem member)]
    rfl
  apply eq_of_rows
  rw [put, there]
  have all : table.rows.filter (fun other => decide (Row.key other = Row.key row) || decide (Row.key other ≠ Row.key row)) =
      table.rows := filter_eq_self.mpr fun other _ => by by_cases same : Row.key other = Row.key row <;> simp [same]
  refine (congrArg (List.map _) all).trans ((map_congr_left fun other inside => ?_).trans (map_id table.rows))
  split
  next same =>
    have found' := find?_of_mem inside
    rw [same, found] at found'
    exact Option.some.inj found'
  next => rfl

theorem mem_put :
    other ∈ (table.put row).rows ↔ other = row ∨ other ∈ table.rows ∧ Row.key other ≠ Row.key row := by
  have found (table : Table ρ) : other ∈ table.rows ↔ table.find? (Row.key other) = some other := by
    rw [find?_eq_some_iff, and_iff_left rfl]
  rw [found, find?_put, found]
  by_cases same : Row.key row = Row.key other
  · rw [if_pos same]
    refine ⟨fun here => .inl (Option.some.inj here).symm, ?_⟩
    rintro (rfl | ⟨_, apart⟩)
    · rfl
    · exact absurd same.symm apart
  · rw [if_neg same]
    refine ⟨fun inside => .inr ⟨inside, Ne.symm same⟩, ?_⟩
    rintro (rfl | ⟨inside, _⟩)
    · exact absurd rfl same
    · exact inside

theorem keys_put (table : Table ρ) (row : ρ) : (table.put row).rows.map Row.key =
    if Row.key row ∈ table.rows.map Row.key then table.rows.map Row.key else table.rows.map Row.key ++ [Row.key row] := by
  have moved : (table.put row).rows.map Row.key = (table.insertOrIgnore row).rows.map Row.key := by
    rw [put, move, map_map]
    have all : (table.insertOrIgnore row).rows.filter
        (fun other => decide (Row.key other = Row.key row) || decide (Row.key other ≠ Row.key row)) = (table.insertOrIgnore row).rows :=
      filter_eq_self.mpr fun other _ => by by_cases same : Row.key other = Row.key row <;> simp [same]
    rw [all]
    refine map_congr_left fun other _ => ?_
    rw [comp_apply]
    split
    next same => exact same.symm
    next => rfl
  rw [moved]
  split
  next taken =>
    rw [insertOrIgnore_taken]
    rwa [Ne, find?_eq_none_iff, not_not]
  next fresh => rw [insertOrIgnore_rows (find?_eq_none_iff.mpr fresh), map_append, map_singleton]

theorem perm_find? (found : table.find? key = some row) :
    table.rows.Perm (row :: table.rows.filter fun other => Row.key other ≠ key) := by
  obtain ⟨member, rfl⟩ := mem_of_find? found
  have distinct : (row :: table.rows.filter fun other => Row.key other ≠ Row.key row).Nodup :=
    nodup_cons.mpr ⟨fun inside => by simpa using (mem_filter.mp inside).2, table.unique.of_map.filter _⟩
  refine (perm_ext_iff_of_nodup table.unique.of_map distinct).mpr fun other => ?_
  rw [mem_cons, mem_filter, decide_eq_true_eq]
  constructor
  · intro inside
    by_cases same : Row.key other = Row.key row
    · exact .inl (inj_on_of_nodup_map table.unique inside member same)
    · exact .inr ⟨inside, same⟩
  · rintro (rfl | ⟨inside, _⟩)
    · exact member
    · exact inside

theorem perm_put (table : Table ρ) (row : ρ) :
    (table.put row).rows.Perm (row :: table.rows.filter fun other => Row.key other ≠ Row.key row) := by
  have distinct : (row :: table.rows.filter fun other => Row.key other ≠ Row.key row).Nodup :=
    nodup_cons.mpr ⟨fun inside => by simpa using (mem_filter.mp inside).2, table.unique.of_map.filter _⟩
  refine (perm_ext_iff_of_nodup (table.put row).unique.of_map distinct).mpr fun other => ?_
  rw [mem_put, mem_cons, mem_filter, decide_eq_true_eq]

theorem mem_standing {gone : List κ} {rows : List ρ} (member : row ∈ standing selects set gone rows) :
    row ∈ rows ∧ selects row = true ∧ Row.key row ∉ gone := by
  induction rows generalizing gone with
  | nil => cases member
  | cons first rest ih =>
    unfold standing at member
    split at member
    next taken =>
      rcases mem_cons.mp member with rfl | later
      · exact ⟨mem_cons_self, taken⟩
      · obtain ⟨inside, selected, free⟩ := ih later
        exact ⟨mem_cons_of_mem _ inside, selected, fun old => free (mem_cons_of_mem _ old)⟩
    next =>
      obtain ⟨inside, rest⟩ := ih member
      exact ⟨mem_cons_of_mem _ inside, rest⟩

theorem find?_replace (table : Table ρ) (selects : ρ → Bool) (set : ρ → ρ) (key : κ) :
    (table.replace selects set).find? key =
      ((((table.movers selects set).filter fun row => decide (Row.key (set row) = key)).getLast?).map set).or
        (if key ∈ (table.movers selects set).map Row.key then none else table.find? key) := by
  have walk (rows : List ρ) (gone : List κ) (current : Table ρ) (distinct : (rows.map Row.key).Nodup)
      (there : ∀ row ∈ rows, Row.key row ∉ gone → current.find? (Row.key row) = some row) :
      ((standing selects set gone rows).foldl (fun result row => result.move (Row.key row) (set row)) current).find? key =
        ((((standing selects set gone rows).filter fun row => decide (Row.key (set row) = key)).getLast?).map set).or
          (if key ∈ (standing selects set gone rows).map Row.key then none else current.find? key) := by
    induction rows generalizing gone current with
    | nil => simp [standing]
    | cons row rest ih =>
      rw [map_cons, nodup_cons] at distinct
      unfold standing
      split
      next taken =>
        have found := there row mem_cons_self taken.2
        have later : ∀ other ∈ rest, Row.key other ∉ Row.key (set row) :: gone →
            (current.move (Row.key row) (set row)).find? (Row.key other) = some other := by
          intro other inside free
          rw [mem_cons, not_or] at free
          rw [find?_move found, if_neg (Ne.symm free.1), if_neg]
          · exact there other (mem_cons_of_mem _ inside) free.2
          · intro same
            exact distinct.1 (same ▸ mem_map_of_mem inside)
        rw [foldl_cons, ih _ _ distinct.2 later, find?_move found]
        simp only [filter_cons, map_cons, mem_cons]
        by_cases arrives : Row.key (set row) = key
        · have kept : key ∉ (standing selects set (Row.key (set row) :: gone) rest).map Row.key := by
            intro taken
            obtain ⟨other, inside, same⟩ := mem_map.mp taken
            exact (mem_standing inside).2.2 (by rw [same, arrives]; exact mem_cons_self)
          rw [if_pos (decide_eq_true arrives), if_neg kept, if_pos arrives, List.getLast?_cons]
          cases last : ((standing selects set (Row.key (set row) :: gone) rest).filter fun row =>
            decide (Row.key (set row) = key)).getLast? <;> simp
        · simp only [arrives, decide_false, Bool.false_eq_true, if_false]
          congr 1
          by_cases leaves : Row.key row = key
          · rw [if_pos leaves, ite_self, if_pos (Or.inl leaves.symm)]
          · rw [if_neg leaves]
            exact if_congr (by rw [or_iff_right (Ne.symm leaves)]) rfl rfl
      next passed =>
        refine ih gone current distinct.2 ?_
        intro other inside free
        exact there other (mem_cons_of_mem _ inside) free
  exact walk table.rows [] table table.unique fun row inside _ => find?_of_mem inside

theorem replace_arrives (moves : row ∈ table.movers selects set) :
    ∃ image, (table.replace selects set).find? (Row.key (set row)) = some image := by
  have listed : row ∈ (table.movers selects set).filter fun other => decide (Row.key (set other) = Row.key (set row)) :=
    mem_filter.mpr ⟨moves, by simp⟩
  obtain ⟨last, found⟩ := Option.isSome_iff_exists.mp (List.getLast?_isSome.mpr (ne_nil_of_mem listed))
  rw [find?_replace, found]
  exact ⟨set last, rfl⟩

theorem displaced (member : row ∈ table.rows) (selected : selects row = true) (stays : row ∉ table.movers selects set) :
    ∃ mover ∈ table.movers selects set, Row.key (set mover) = Row.key row := by
  have walk (gone : List κ) (rows : List ρ) (inside : row ∈ rows) (out : row ∉ standing selects set gone rows) :
      Row.key row ∈ gone ∨ ∃ mover ∈ standing selects set gone rows, Row.key (set mover) = Row.key row := by
    induction rows generalizing gone with
    | nil => cases inside
    | cons first rest ih =>
      unfold standing at out ⊢
      split at out
      next taken =>
        rw [if_pos taken]
        rw [mem_cons, not_or] at out
        rcases ih _ ((mem_cons.mp inside).resolve_left out.1) out.2 with here | ⟨mover, moves, same⟩
        · rcases mem_cons.mp here with same | old
          · exact .inr ⟨first, mem_cons_self, same.symm⟩
          · exact .inl old
        · exact .inr ⟨mover, mem_cons_of_mem _ moves, same⟩
      next passed =>
        rw [if_neg passed]
        rcases mem_cons.mp inside with rfl | later
        · left
          by_contra free
          exact passed ⟨selected, free⟩
        · exact ih gone later out
  rcases walk [] table.rows member stays with old | mover
  · cases old
  · exact mover

/-! Queries that one row answers alone. -/

omit [DecidableEq κ] in
theorem flatMap_of_alone {β : Type w} (table : Table ρ) (member : row ∈ table.rows) {yields : ρ → List β}
    (alone : ∀ other ∈ table.rows, other ≠ row → yields other = []) : table.rows.flatMap yields = yields row := by
  have distinct : table.rows.Nodup := table.unique.of_map
  obtain ⟨before, after, split⟩ := append_of_mem member
  rw [split] at alone distinct ⊢
  have apart := (nodup_append.mp distinct).2.2
  have last := (nodup_cons.mp (nodup_append.mp distinct).2.1).1
  have first : before.flatMap yields = [] := flatMap_eq_nil_iff.mpr fun other inside =>
    alone other (mem_append_left _ inside) (apart other inside row mem_cons_self)
  have rest : after.flatMap yields = [] := flatMap_eq_nil_iff.mpr fun other inside =>
    alone other (mem_append_right _ (mem_cons_of_mem _ inside)) fun same => last (same ▸ inside)
  rw [flatMap_append, flatMap_cons, first, rest, nil_append, append_nil]

omit [DecidableEq κ] in
theorem filter_of_alone [DecidableEq ρ] (table : Table ρ) (member : row ∈ table.rows)
    (alone : ∀ other ∈ table.rows, passes other = true ↔ other = row) : table.rows.filter passes = [row] := by
  have distinct : table.rows.Nodup := table.unique.of_map
  have same : table.rows.filter passes = table.rows.filter fun other => decide (other = row) :=
    filter_congr fun other inside => by rw [Bool.eq_iff_iff, alone other inside, decide_eq_true_eq]
  rw [same, filter_eq, count_eq_one_of_mem distinct member, replicate_one]

end Table
end MindLeak
