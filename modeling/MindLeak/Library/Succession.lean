import MindLeak.Library.Search

/-! Items that may each name one successor. Following successors from an item
ends, at an item that has none, or goes on for ever round a cycle, or stops at
a name that nothing carries. What replaces an item, adds one or removes some
keeps every chain ending under a condition on the one link or the removed set. -/

namespace MindLeak

open Option

universe u

/-- What a lookup answers: no such item, an item without a successor, or the
successor it names. -/
abbrev Succession (α : Type u) := α → Option (Option α)

namespace Succession
variable {α : Type u} {items after : Succession α} {item old new : α}

def Follows (items : Succession α) (first second : α) : Prop := items first = some (some second)

def Leads (items : Succession α) : α → α → Prop := Relation.ReflTransGen items.Follows

inductive Ends (items : Succession α) : α → Prop
  | last {item : α} (here : items item = some none) : Ends items item
  | next {item successor : α} (follows : items.Follows item successor) (rest : Ends items successor) : Ends items item

def Grounded (items : Succession α) : Prop := ∀ item, (items item).isSome → items.Ends item

def Sound (items : Succession α) : Prop := items.Grounded ∧ ∀ item, ¬ Relation.TransGen items.Follows item item

theorem Follows.unique {first second other : α} (follows : items.Follows first second)
    (also : items.Follows first other) : second = other :=
  some.inj (some.inj (follows.symm.trans also))

theorem Ends.isSome (ends : items.Ends item) : (items item).isSome := by
  cases ends with
  | last here => rw [here]; rfl
  | next follows _ => rw [follows]; rfl

theorem Ends.acyclic (ends : items.Ends item) : ¬ Relation.TransGen items.Follows item item := by
  induction ends with
  | last here =>
    intro cycle
    obtain ⟨_, follows, _⟩ := Relation.TransGen.head'_iff.mp cycle
    cases here.symm.trans follows
  | @next item successor follows _ ih =>
    intro cycle
    obtain ⟨first, begins, back⟩ := Relation.TransGen.head'_iff.mp cycle
    cases follows.unique begins
    exact ih (Relation.TransGen.tail' back follows)

theorem Grounded.acyclic (grounded : items.Grounded) (item : α) : ¬ Relation.TransGen items.Follows item item := by
  intro cycle
  obtain ⟨_, follows, _⟩ := Relation.TransGen.head'_iff.mp cycle
  exact (grounded item (by rw [follows]; rfl)).acyclic cycle

/-- One link set anew closes no ring where its new end does not lead back. -/
theorem acyclic_relink (acyclic : ∀ item, ¬Relation.TransGen items.Follows item item)
    (relinked : ∀ item, after item = items item ∨ item = old ∧ after item = some (some new)) (apart : ¬items.Leads new old)
    (item : α) : ¬Relation.TransGen after.Follows item item := by
  have step {first second : α} (follows : after.Follows first second) : items.Follows first second ∨ first = old ∧ second = new := by
    rcases relinked first with same | ⟨here, set⟩
    · exact .inl (same.symm.trans follows)
    · exact .inr ⟨here, some.inj (some.inj (follows.symm.trans set))⟩
  have path {last : α} (onward : Relation.TransGen after.Follows item last) :
      Relation.TransGen items.Follows item last ∨ items.Leads item old ∧ items.Leads new last := by
    induction onward with
    | single follows =>
      rcases step follows with kept | ⟨rfl, rfl⟩
      · exact .inl (.single kept)
      · exact .inr ⟨.refl, .refl⟩
    | tail _ follows ih =>
      rcases step follows with kept | ⟨rfl, rfl⟩
      · exact ih.imp (fun old => old.tail kept) fun around => ⟨around.1, around.2.tail kept⟩
      · rcases ih with old | ⟨_, back⟩
        · exact .inr ⟨old.to_reflTransGen, .refl⟩
        · exact absurd back apart
  intro ring
  rcases path ring with old | ⟨first, second⟩
  · exact acyclic item old
  · exact apart (second.trans first)

theorem sound_iff : items.Sound ↔ items.Grounded := ⟨fun sound => sound.1, fun grounded => ⟨grounded, grounded.acyclic⟩⟩

theorem Grounded.successor (grounded : items.Grounded) {first second : α} (follows : items.Follows first second) :
    (items second).isSome := by
  cases grounded first (by rw [follows]; rfl) with
  | last here => cases here.symm.trans follows
  | next begins rest =>
    cases follows.unique begins
    exact rest.isSome

theorem leads_of_last (here : items item = some none) {other : α} (leads : items.Leads item other) : other = item := by
  rcases Relation.ReflTransGen.cases_head leads with same | ⟨_, follows, _⟩
  · exact same.symm
  · cases here.symm.trans follows

theorem leads_of_absent (absent : items item = none) {other : α} (leads : items.Leads item other) : other = item := by
  rcases Relation.ReflTransGen.cases_head leads with same | ⟨_, follows, _⟩
  · exact same.symm
  · cases absent.symm.trans follows

theorem Ends.carry (ends : items.Ends item) (same : ∀ other, items.Leads item other → after other = items other) :
    after.Ends item := by
  induction ends with
  | last here => exact .last ((same _ .refl).trans here)
  | next follows _ ih =>
    exact .next ((same _ .refl).trans follows) (ih fun other leads => same other (.head follows leads))

theorem Grounded.add [DecidableEq α] (grounded : items.Grounded)
    (fresh : items new = none) (added : ∀ item, after item = if item = new then some none else items item) :
    after.Grounded := by
  intro item there
  rw [added] at there
  split at there
  next same => exact .last (by rw [added, if_pos same])
  have untouched (other : α) (leads : items.Leads item other) : after other = items other := by
    rw [added, if_neg]
    rintro rfl
    rcases Relation.ReflTransGen.cases_tail leads with same | ⟨_, _, follows⟩
    · rw [← same, fresh] at there
      cases there
    · have present := grounded.successor follows
      rw [fresh] at present
      cases present
  exact (grounded item there).carry untouched

theorem Grounded.replace_iff [DecidableEq α] (grounded : items.Grounded) (current : items old = some none)
    (replaced : ∀ item, after item = if item = old then some (some new) else items item) :
    after.Grounded ↔ (items new).isSome ∧ ¬ items.Leads new old := by
  have link : after.Follows old new := by rw [Follows, replaced, if_pos rfl]
  constructor
  · intro still
    have apart : new ≠ old := by
      rintro rfl
      exact still.acyclic new (.single link)
    refine ⟨?_, fun leads => ?_⟩
    · have present := still.successor link
      rwa [replaced, if_neg apart] at present
    · have kept : after.Leads new old := by
        refine Relation.ReflTransGen.mono (fun first second follows => ?_) _ _ leads
        rw [Follows, replaced, if_neg]
        · exact follows
        · rintro rfl
          cases current.symm.trans follows
      exact still.acyclic old (Relation.TransGen.head' link kept)
  · rintro ⟨present, apart⟩
    have onward : after.Ends new := (grounded new present).carry fun other leads => by
      rw [replaced, if_neg]
      rintro rfl
      exact apart leads
    have all {item : α} (ends : items.Ends item) : after.Ends item := by
      induction ends with
      | @last item here =>
        by_cases same : item = old
        · exact .next (same ▸ link) onward
        · exact .last (by rw [replaced, if_neg same, here])
      | @next item successor follows _ ih =>
        refine .next ?_ ih
        rw [Follows, replaced, if_neg]
        · exact follows
        · rintro rfl
          cases current.symm.trans follows
    intro item there
    rw [replaced] at there
    split at there
    next same => exact .next (same ▸ link) onward
    next => exact all (grounded item there)

theorem Grounded.remove_iff {gone : α → Bool} (grounded : items.Grounded)
    (removed : ∀ item, after item = if gone item then none else items item) :
    after.Grounded ↔ ∀ first second, items.Follows first second → gone first = false → gone second = false := by
  constructor
  · intro still first second follows stays
    have link : after.Follows first second := by rw [Follows, removed, stays]; exact follows
    have present := still.successor link
    rw [removed] at present
    cases lost : gone second with
    | false => rfl
    | true =>
      rw [lost] at present
      cases present
  · intro closed
    have all {item : α} (ends : items.Ends item) (stays : gone item = false) : after.Ends item := by
      induction ends with
      | last here => exact .last (by rw [removed, stays]; exact here)
      | next follows _ ih =>
        refine .next ?_ (ih (closed _ _ follows stays))
        rw [Follows, removed, stays]
        exact follows
    intro item there
    rw [removed] at there
    cases lost : gone item with
    | true =>
      rw [lost] at there
      cases there
    | false =>
      rw [lost] at there
      exact all (grounded item there) lost

end Succession
end MindLeak
