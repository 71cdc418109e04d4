import Mathlib.Data.List.Nodup
import Mathlib.Data.List.Range

/-! Items that are numbered one after another. What is cut off at a number is cut off at a place. -/

namespace MindLeak

open List

def Numbered {α : Type} (number : α → Nat) (start : Nat) (items : List α) : Prop :=
  items.map number = List.range' start items.length

namespace Numbered
variable {α : Type} {number : α → Nat} {start : Nat} {items : List α}

theorem nil : Numbered number start [] := rfl

theorem cons_iff {first : α} : Numbered number start (first :: items) ↔ number first = start ∧ Numbered number (start + 1) items := by
  unfold Numbered
  rw [map_cons, length_cons, List.range'_succ, List.cons.injEq]

section
variable (numbered : Numbered number start items)
include numbered

theorem append {item : α} (next : number item = start + items.length) :
    Numbered number start (items ++ [item]) := by
  unfold Numbered at numbered ⊢
  rw [map_append, map_singleton, length_append, length_singleton, List.range'_concat, Nat.one_mul, numbered, next]

theorem drop (count : Nat) : Numbered number (start + count) (items.drop count) := by
  unfold Numbered at numbered ⊢
  rw [map_drop, numbered, length_drop, drop_range', Nat.mul_one]

theorem mem {item : α} (member : item ∈ items) :
    start ≤ number item ∧ number item < start + items.length := by
  have inside : number item ∈ List.range' start items.length := numbered ▸ mem_map_of_mem member
  exact mem_range'_1.mp inside

theorem nodup : (items.map number).Nodup := by
  rw [numbered]
  exact nodup_range'

theorem filter_lt (bound : Nat) :
    items.filter (fun item => decide (bound < number item)) = items.drop (bound + 1 - start) := by
  induction items generalizing start with
  | nil => simp
  | cons first rest ih =>
    obtain ⟨rfl, others⟩ := cons_iff.mp numbered
    by_cases behind : bound < number first
    · rw [filter_cons_of_pos (p := fun item => decide (bound < number item)) (decide_eq_true behind), ih others,
        Nat.sub_eq_zero_of_le (by omega : bound + 1 ≤ number first),
        Nat.sub_eq_zero_of_le (by omega), drop_zero, drop_zero]
    · rw [filter_cons_of_neg (p := fun item => decide (bound < number item)) (by rwa [decide_eq_true_eq]), ih others,
        show bound + 1 - number first = (bound + 1 - (number first + 1)) + 1 by omega, drop_succ_cons]

theorem filter_le (bound : Nat) :
    items.filter (fun item => decide (number item ≤ bound)) = items.take (bound + 1 - start) := by
  induction items generalizing start with
  | nil => simp
  | cons first rest ih =>
    obtain ⟨rfl, others⟩ := cons_iff.mp numbered
    by_cases behind : bound < number first
    · rw [filter_cons_of_neg (p := fun item => decide (number item ≤ bound)) (by rwa [decide_eq_true_eq, Nat.not_le]), ih others,
        Nat.sub_eq_zero_of_le (by omega : bound + 1 ≤ number first), Nat.sub_eq_zero_of_le (by omega), take_zero, take_zero]
    · rw [filter_cons_of_pos (p := fun item => decide (number item ≤ bound)) (decide_eq_true (Nat.not_lt.mp behind)), ih others,
        show bound + 1 - number first = (bound + 1 - (number first + 1)) + 1 by omega, take_succ_cons]

theorem ordered : items.Pairwise fun a b => number a ≤ number b := by
  have increasing : (items.map number).Pairwise (· ≤ ·) := by
    rw [numbered]
    exact pairwise_le_range'
  exact pairwise_map.mp increasing

theorem min? : (items.map number).min? = if items = [] then none else some start := by
  induction items generalizing start with
  | nil => rfl
  | cons first rest ih =>
    obtain ⟨rfl, others⟩ := cons_iff.mp numbered
    rw [map_cons, List.min?_cons, ih others, if_neg (cons_ne_nil _ _)]
    split
    · rfl
    · simp

end

end Numbered

theorem le_foldr_max {numbers : List Nat} {number : Nat} (member : number ∈ numbers) : number ≤ numbers.foldr max 0 := by
  induction numbers with
  | nil => cases member
  | cons first rest ih =>
    rcases mem_cons.mp member with rfl | inside
    · exact Nat.le_max_left _ _
    · exact Nat.le_trans (ih inside) (Nat.le_max_right _ _)

/-- Each number, the newest first, is at most the next after the largest before it. -/
def Gapless : List Nat → Prop
  | [] => True
  | number :: earlier => number ≤ earlier.foldr max 0 + 1 ∧ Gapless earlier

theorem Gapless.mem {numbers : List Nat} (gapless : Gapless numbers) {number : Nat} (positive : 1 ≤ number)
    (bounded : number ≤ numbers.foldr max 0) : number ∈ numbers := by
  induction numbers with
  | nil =>
    rw [foldr_nil] at bounded
    omega
  | cons newest earlier ih =>
    obtain ⟨next, before⟩ := gapless
    by_cases old : number ≤ earlier.foldr max 0
    · exact mem_cons_of_mem _ (ih before old)
    · rw [foldr_cons] at bounded
      have same : number = newest := by omega
      exact same ▸ mem_cons_self

end MindLeak
