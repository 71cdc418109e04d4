import Mathlib.Data.List.Dedup
import Mathlib.Logic.Relation
import Mathlib.Tactic.Common

/-! A search along a relation: whatever is newly seen is looked at in its turn, and nothing is looked at twice. -/

namespace MindLeak

open List

universe u

variable {α : Type u} [DecidableEq α] (next : α → List α)

def search : Nat → List α → List α → List α
  | 0, _, seen => seen
  | _, [], seen => seen
  | fuel + 1, item :: frontier, seen =>
    let fresh := (next item).filter fun other => decide (other ∉ seen)
    search fuel (fresh.reverse ++ frontier) (seen ++ fresh)

namespace Search
variable {next} {start item other : α} {frontier seen targets : List α} {fuel : Nat}

def unseen (targets seen : List α) : List α := targets.dedup.filter fun item => decide (item ∉ seen)

theorem unseen_append {fresh : List α} (distinct : fresh.Nodup) (among : ∀ item ∈ fresh, item ∈ targets ∧ item ∉ seen) :
    (unseen targets (seen ++ fresh)).length + fresh.length = (unseen targets seen).length := by
  have split : (unseen targets seen).Perm (unseen targets (seen ++ fresh) ++ fresh) := by
    refine (perm_ext_iff_of_nodup ((nodup_dedup _).filter _) ?_).mpr fun item => ?_
    · refine ((nodup_dedup _).filter _).append distinct fun item left right => ?_
      have out := of_decide_eq_true (mem_filter.mp left).2
      exact out (mem_append_right seen right)
    · simp only [unseen, mem_append, mem_filter, mem_dedup, decide_eq_true_eq, not_or]
      constructor
      · rintro ⟨target, out⟩
        by_cases new : item ∈ fresh
        · exact .inr new
        · exact .inl ⟨target, out, new⟩
      · rintro (⟨target, out, _⟩ | new)
        · exact ⟨target, out⟩
        · exact among item new
  rw [split.length_eq, length_append]

theorem search_sound (reached : ∀ item ∈ frontier, item = start ∨ Relation.TransGen (fun a b => b ∈ next a) start item)
    (found : ∀ item ∈ seen, Relation.TransGen (fun a b => b ∈ next a) start item) :
    ∀ item ∈ search next fuel frontier seen, Relation.TransGen (fun a b => b ∈ next a) start item := by
  induction fuel generalizing frontier seen with
  | zero => exact found
  | succ fuel ih =>
    cases frontier with
    | nil => exact found
    | cons item frontier =>
      have onward {other : α} (step : other ∈ next item) : Relation.TransGen (fun a b => b ∈ next a) start other := by
        rcases reached item mem_cons_self with rfl | path
        · exact .single step
        · exact path.tail step
      have fresh {other : α} (new : other ∈ (next item).filter fun other => decide (other ∉ seen)) := onward (mem_filter.mp new).1
      refine ih (fun other member => ?_) fun other member => ?_
      · rcases mem_append.mp member with new | old
        · exact .inr (fresh (mem_reverse.mp new))
        · exact reached other (mem_cons_of_mem _ old)
      · rcases mem_append.mp member with old | new
        · exact found other old
        · exact fresh new

theorem search_closed (bounded : ∀ item, ∀ other ∈ next item, other ∈ targets) (distinct : ∀ item, (next item).Nodup)
    (enough : frontier.length + (unseen targets seen).length ≤ fuel)
    (looked : ∀ item, item = start ∨ item ∈ seen → item ∈ frontier ∨ ∀ other ∈ next item, other ∈ seen) :
    (∀ item ∈ seen, item ∈ search next fuel frontier seen) ∧
      ∀ item, item = start ∨ item ∈ search next fuel frontier seen → ∀ other ∈ next item, other ∈ search next fuel frontier seen := by
  induction fuel generalizing frontier seen with
  | zero =>
    have none : frontier = [] := length_eq_zero_iff.mp (by omega)
    subst none
    exact ⟨fun _ member => member, fun item among => (looked item among).resolve_left not_mem_nil⟩
  | succ fuel ih =>
    cases frontier with
    | nil => exact ⟨fun _ member => member, fun item among => (looked item among).resolve_left not_mem_nil⟩
    | cons item frontier =>
      have fresh (other : α) : other ∈ (next item).filter (fun other => decide (other ∉ seen)) ↔ other ∈ next item ∧ other ∉ seen := by
        rw [mem_filter, decide_eq_true_eq]
      have among (other : α) (new : other ∈ (next item).filter fun other => decide (other ∉ seen)) :
          other ∈ targets ∧ other ∉ seen := ⟨bounded item other ((fresh other).mp new).1, ((fresh other).mp new).2⟩
      have fewer := unseen_append ((distinct item).filter fun other => decide (other ∉ seen)) among
      have seenNow {last : α} (member : last ∈ next item) : last ∈ seen ++ (next item).filter fun other => decide (other ∉ seen) := by
        by_cases old : last ∈ seen
        · exact mem_append_left _ old
        · exact mem_append_right _ ((fresh last).mpr ⟨member, old⟩)
      have onward (other : α) (among : other = start ∨ other ∈ seen ++ (next item).filter fun other => decide (other ∉ seen)) :
          other ∈ ((next item).filter fun other => decide (other ∉ seen)).reverse ++ frontier ∨
            ∀ last ∈ next other, last ∈ seen ++ (next item).filter fun other => decide (other ∉ seen) := by
        rw [mem_append, ← or_assoc] at among
        rcases among with was | new
        · rcases looked other was with waiting | done
          · rcases mem_cons.mp waiting with rfl | waiting
            · exact .inr fun last member => seenNow member
            · exact .inl (mem_append_right _ waiting)
          · exact .inr fun last member => mem_append_left _ (done last member)
        · exact .inl (mem_append_left _ (mem_reverse.mpr new))
      obtain ⟨keeps, closed⟩ := ih
        (by rw [length_append, length_reverse]; rw [length_cons] at enough; omega) onward
      exact ⟨fun other member => keeps other (mem_append_left _ member), closed⟩

theorem mem_search_iff (bounded : ∀ item, ∀ other ∈ next item, other ∈ targets) (distinct : ∀ item, (next item).Nodup)
    (enough : targets.length + 1 ≤ fuel) :
    item ∈ search next fuel [start] [] ↔ Relation.TransGen (fun a b => b ∈ next a) start item := by
  have fits : [start].length + (unseen targets []).length ≤ fuel := by
    have fewer : (unseen targets []).length ≤ targets.length :=
      Nat.le_trans (length_filter_le _ _) (dedup_sublist targets).length_le
    rw [length_singleton]
    omega
  obtain ⟨_, closed⟩ := search_closed bounded distinct fits fun item among => by
    rcases among with rfl | member
    · exact .inl mem_cons_self
    · cases member
  refine ⟨search_sound (by simp) (by simp) item, fun path => ?_⟩
  induction path with
  | single step => exact closed start (.inl rfl) _ step
  | tail _ step ih => exact closed _ (.inr ih) _ step

end Search
end MindLeak
