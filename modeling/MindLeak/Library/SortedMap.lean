import Mathlib.Order.Lattice
import Mathlib.Data.List.Nodup
import Mathlib.Tactic.Common

/-! An ordered map as the list of its entries, keys ascending: what iterating
over a `BTreeMap` gives. -/

namespace MindLeak.SortedMap

open List

universe u v

variable {κ : Type u} {ν : Type v} [LinearOrder κ]

def insert (key : κ) (value : ν) : List (κ × ν) → List (κ × ν)
  | [] => [(key, value)]
  | (other, held) :: rest =>
    if key = other then (key, value) :: rest
    else if key < other then (key, value) :: (other, held) :: rest
    else (other, held) :: insert key value rest

def Ascending (entries : List (κ × ν)) : Prop := entries.Pairwise fun left right => left.1 < right.1

variable {entries : List (κ × ν)}

theorem mem_insert (ascending : Ascending entries) (key : κ) (value : ν) (entry : κ × ν) :
    entry ∈ insert key value entries ↔ entry = (key, value) ∨ (entry.1 ≠ key ∧ entry ∈ entries) := by
  induction entries with
  | nil => simp [insert]
  | cons first rest ih =>
    obtain ⟨other, held⟩ := first
    obtain ⟨later, ascending⟩ := pairwise_cons.mp ascending
    unfold insert
    split
    next same =>
      subst same
      have apart (member : entry ∈ rest) : entry.1 ≠ key := ne_of_gt (later entry member)
      rw [mem_cons, mem_cons]
      constructor
      · rintro (here | member)
        · exact .inl here
        · exact .inr ⟨apart member, .inr member⟩
      · rintro (here | ⟨different, rfl | member⟩)
        · exact .inl here
        · exact absurd rfl different
        · exact .inr member
    next different =>
      split
      next less =>
        have apart (member : entry ∈ (other, held) :: rest) : entry.1 ≠ key := by
          rcases mem_cons.mp member with rfl | member
          · exact ne_of_gt less
          · exact ne_of_gt (less.trans (later entry member))
        rw [mem_cons]
        constructor
        · rintro (here | member)
          · exact .inl here
          · exact .inr ⟨apart member, member⟩
        · rintro (here | ⟨_, member⟩)
          · exact .inl here
          · exact .inr member
      next =>
        rw [mem_cons, ih ascending, mem_cons]
        constructor
        · rintro (rfl | here | ⟨apart, member⟩)
          · exact .inr ⟨Ne.symm different, .inl rfl⟩
          · exact .inl here
          · exact .inr ⟨apart, .inr member⟩
        · rintro (here | ⟨apart, rfl | member⟩)
          · exact .inr (.inl here)
          · exact .inl rfl
          · exact .inr (.inr ⟨apart, member⟩)

theorem Ascending.insert (ascending : Ascending entries) (key : κ) (value : ν) :
    Ascending (insert key value entries) := by
  induction entries with
  | nil => exact pairwise_singleton _ _
  | cons first rest ih =>
    obtain ⟨later, below⟩ := pairwise_cons.mp ascending
    unfold SortedMap.insert
    split
    next same =>
      subst same
      exact pairwise_cons.mpr ⟨later, below⟩
    next different =>
      split
      next less =>
        refine pairwise_cons.mpr ⟨?_, ascending⟩
        intro entry member
        rcases mem_cons.mp member with rfl | member
        · exact less
        · exact less.trans (later entry member)
      next above =>
        refine pairwise_cons.mpr ⟨?_, ih below⟩
        intro entry member
        rcases (mem_insert below key value entry).mp member with rfl | ⟨_, member⟩
        · exact lt_of_le_of_ne (not_lt.mp above) (Ne.symm different)
        · exact later entry member

theorem Ascending.nodup (ascending : Ascending entries) : (entries.map Prod.fst).Nodup := by
  rw [List.Nodup, pairwise_map]
  exact ascending.imp fun less => ne_of_lt less

end MindLeak.SortedMap
