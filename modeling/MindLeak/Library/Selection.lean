import Mathlib

/-! Items ranked by a key, and greedy selection under a budget: they are offered in
order, and each is taken if it still fits. -/

namespace MindLeak

open List

section
variable {α κ : Type} [LinearOrder κ] {r : α → α → Prop} [DecidableRel r] {items others : List α}

theorem sorted_by_key (key : α → κ) (same : ∀ a b, r a b ↔ key a ≤ key b) : (items.insertionSort r).Pairwise fun a b => key a ≤ key b := by
  have total : Std.Total r := ⟨fun a b => by simpa only [same] using le_total (key a) (key b)⟩
  have trans : IsTrans α r := ⟨fun a b c => by simpa only [same] using le_trans⟩
  exact (pairwise_insertionSort r items).imp fun {a b} => (same a b).mp

theorem sort_eq_of_perm (key : α → κ) (same : ∀ a b, r a b ↔ key a ≤ key b) (alike : ∀ a ∈ items, ∀ b ∈ items, key a = key b → a = b)
    (perm : items.Perm others) : items.insertionSort r = others.insertionSort r := by
  refine Perm.eq_of_pairwise ?_ (sorted_by_key key same) (sorted_by_key key same)
    ((perm_insertionSort r items).trans (perm.trans (perm_insertionSort r others).symm))
  intro a b first second up down
  exact alike a ((mem_insertionSort r).mp first) b (perm.mem_iff.mpr ((mem_insertionSort r).mp second)) (le_antisymm up down)

end

section
variable {α : Type} (cost : α → Nat) (room : Nat)

/-- What is taken, and what is passed over, from where `used` is spent already. -/
def greedy : Nat → List α → List α × List α
  | _, [] => ([], [])
  | used, item :: rest =>
    if used + cost item ≤ room then (item :: (greedy (used + cost item) rest).1, (greedy (used + cost item) rest).2)
    else ((greedy used rest).1, item :: (greedy used rest).2)

variable {cost room} {used : Nat} {items : List α}

variable {item : α}

theorem greedy_fits {rest : List α} (fits : used + cost item ≤ room) : greedy cost room used (item :: rest) =
    (item :: (greedy cost room (used + cost item) rest).1, (greedy cost room (used + cost item) rest).2) := if_pos fits

theorem greedy_passes {rest : List α} (skipped : ¬used + cost item ≤ room) : greedy cost room used (item :: rest) =
    ((greedy cost room used rest).1, item :: (greedy cost room used rest).2) := if_neg skipped

theorem greedy_perm : ((greedy cost room used items).1 ++ (greedy cost room used items).2).Perm items := by
  induction items generalizing used with
  | nil => exact .refl _
  | cons item rest ih =>
    by_cases fits : used + cost item ≤ room
    · rw [greedy_fits fits]
      exact ih.cons item
    · rw [greedy_passes fits]
      exact perm_middle.trans (ih.cons item)

theorem mem_of_taken (taken : item ∈ (greedy cost room used items).1) : item ∈ items :=
  greedy_perm.subset (mem_append_left _ taken)

theorem greedy_within (start : used ≤ room) : used + ((greedy cost room used items).1.map cost).sum ≤ room := by
  induction items generalizing used with
  | nil => exact start
  | cons item rest ih =>
    by_cases fits : used + cost item ≤ room
    · rw [greedy_fits fits, map_cons, sum_cons, ← Nat.add_assoc]
      exact ih fits
    · rw [greedy_passes fits]
      exact ih start

theorem taken_fits (taken : item ∈ (greedy cost room used items).1) : used + cost item ≤ room := by
  induction items generalizing used with
  | nil => cases taken
  | cons first rest ih =>
    by_cases fits : used + cost first ≤ room
    · rw [greedy_fits fits] at taken
      rcases mem_cons.mp taken with rfl | taken
      · exact fits
      · have later := ih taken
        omega
    · rw [greedy_passes fits] at taken
      exact ih taken

theorem greedy_prefers {above : α → α → Prop} (sorted : items.Pairwise fun a b => ¬above b a) {passed taken : α}
    (skipped : passed ∈ (greedy cost room used items).2) (kept : taken ∈ (greedy cost room used items).1)
    (ranks : above passed taken) : cost taken < cost passed := by
  induction items generalizing used with
  | nil => cases skipped
  | cons item rest ih =>
    obtain ⟨first, sorted⟩ := pairwise_cons.mp sorted
    by_cases fits : used + cost item ≤ room
    · rw [greedy_fits fits] at skipped kept
      rcases mem_cons.mp kept with rfl | kept
      · exact absurd ranks (first _ (greedy_perm.subset (mem_append_right _ skipped)))
      · exact ih sorted skipped kept
    · rw [greedy_passes fits] at skipped kept
      rcases mem_cons.mp skipped with rfl | skipped
      · have later := taken_fits kept
        omega
      · exact ih sorted skipped kept

/-- In a strict order, an item is passed over exactly when it does not fit beside what is taken above it. -/
theorem mem_passed_iff {above : α → α → Prop} [DecidableRel above] (strict : ∀ a b, above a b → ¬above b a)
    (sorted : items.Pairwise above) (offered : item ∈ items) : item ∈ (greedy cost room used items).2 ↔
      room < used + (((greedy cost room used items).1.filter (above · item)).map cost).sum + cost item := by
  induction items generalizing used with
  | nil => cases offered
  | cons first rest ih =>
    obtain ⟨leads, sorted⟩ := pairwise_cons.mp sorted
    have none_above : ∀ kept : List α, kept ⊆ rest → kept.filter (above · first) = [] := fun kept inside =>
      filter_eq_nil_iff.mpr fun other member => by simpa using strict _ _ (leads _ (inside member))
    have irrefl : ¬above first first := fun self => strict _ _ self self
    have inside : (greedy cost room used rest).1 ⊆ rest := fun _ => mem_of_taken
    by_cases fits : used + cost first ≤ room
    · rw [greedy_fits fits]
      rcases mem_cons.mp offered with rfl | offered
      · rw [filter_cons_of_neg (by simpa using irrefl), none_above _ fun _ => mem_of_taken]
        refine iff_of_false (fun skipped => irrefl (leads _ (greedy_perm.subset (mem_append_right _ skipped)))) ?_
        simpa using fits
      · rw [filter_cons_of_pos (by simpa using leads _ offered), map_cons, sum_cons, ← Nat.add_assoc]
        exact ih sorted offered
    · rw [greedy_passes fits]
      rcases mem_cons.mp offered with rfl | offered
      · rw [none_above _ inside]
        exact iff_of_true mem_cons_self (by simpa using fits)
      · have apart : item ≠ first := fun same => irrefl (same ▸ leads _ offered)
        rw [mem_cons, or_iff_right apart]
        exact ih sorted offered

/-- Whatever fits the whole room, beside the items before it that do, fits the narrower one as well. -/
def Spares (cost : α → Nat) (narrow room : Nat) : Nat → List α → Prop
  | _, [] => True
  | used, item :: rest =>
    if used + cost item ≤ room then used + cost item ≤ narrow ∧ Spares cost narrow room (used + cost item) rest
    else Spares cost narrow room used rest

theorem greedy_spares {narrow : Nat} (start : used ≤ narrow) :
    used + ((greedy cost room used items).1.map cost).sum ≤ narrow ↔ Spares cost narrow room used items := by
  induction items generalizing used with
  | nil => exact iff_of_true start trivial
  | cons item rest ih =>
    unfold Spares
    by_cases fits : used + cost item ≤ room
    · rw [greedy_fits fits, if_pos fits, map_cons, sum_cons, ← Nat.add_assoc]
      by_cases spared : used + cost item ≤ narrow
      · exact (ih spared).trans (and_iff_right spared).symm
      · exact iff_of_false (by omega) fun both => spared both.1
    · rw [greedy_passes fits, if_neg fits]
      exact ih start

end
end MindLeak
