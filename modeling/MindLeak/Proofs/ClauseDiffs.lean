import MindLeak.Lodestar.Goals

/-! The diff of two constitutional versions says all of how they differ, and nothing else. -/

namespace MindLeak.Lodestar

open List

variable {before after : List Goal} {old new : Goal} {slug : String} {entry : ClauseDiff}

structure Goal.Governed where
  kind : GoalKind
  (title statement : String)
  (rationale scope evidenceContract : Option String)
  consequence : Option Consequence
  waivable : Bool
  waiverAuthority : Option String
  deriving DecidableEq

def Goal.governed (clause : Goal) : Goal.Governed :=
  ⟨clause.kind, clause.title, clause.statement, clause.rationale, clause.scope, clause.evidenceContract, clause.consequence, clause.waivable,
    clause.waiverAuthority⟩

def Goal.replaceFields (fields : List String) (clause revised : Goal) : Goal :=
  { clause with
    kind := if "kind" ∈ fields then revised.kind else clause.kind
    title := if "title" ∈ fields then revised.title else clause.title
    statement := if "statement" ∈ fields then revised.statement else clause.statement
    rationale := if "rationale" ∈ fields then revised.rationale else clause.rationale
    scope := if "scope" ∈ fields then revised.scope else clause.scope
    evidenceContract := if "evidence_contract" ∈ fields then revised.evidenceContract else clause.evidenceContract
    consequence := if "consequence" ∈ fields then revised.consequence else clause.consequence
    waivable := if "waivable" ∈ fields then revised.waivable else clause.waivable
    waiverAuthority := if "waiver_authority" ∈ fields then revised.waiverAuthority else clause.waiverAuthority }

def applyEntry (diff : List ClauseDiff) (old : Goal) : Option Goal :=
  match diff.find? fun entry => decide (entry.slug = old.slug) with
  | none => some old
  | some entry =>
    match entry.change, entry.after with
    | .removed, _ => none
    | .changed, some new => some (old.replaceFields entry.fields new)
    | _, _ => some old

def addedBy (entry : ClauseDiff) : Option Goal := if entry.change = .added then entry.after else none

def applyDiff (before : List Goal) (diff : List ClauseDiff) : List Goal := before.filterMap (applyEntry diff) ++ diff.filterMap addedBy

theorem mem_noted {name : String} {notes : List (String × Bool)} :
    name ∈ (notes.filterMap fun (name, differs) => if differs then some name else none) ↔ (name, true) ∈ notes := by
  simp

theorem replaced_eq {α : Type} [DecidableEq α] (one other : α) : (if one ≠ other then other else one) = other := by
  by_cases same : one = other
  · rw [if_neg (not_not.mpr same), same]
  · rw [if_pos same]

theorem governed_replaceFields : (old.replaceFields (changedFields old new) new).governed = new.governed := by
  unfold Goal.governed Goal.replaceFields changedFields
  simp only [mem_noted, mem_cons, Prod.mk.injEq, String.reduceEq, false_and, true_and, false_or, or_false, not_mem_nil,
    eq_comm (a := true), decide_eq_true_eq, replaced_eq]

theorem changedFields_eq_nil : changedFields old new = [] ↔ old.governed = new.governed := by
  constructor
  · intro none
    have replaced : (old.replaceFields (changedFields old new) new).governed = new.governed := governed_replaceFields
    rw [none] at replaced
    exact replaced
  · intro same
    obtain ⟨kind, title, statement, rationale, scope, contract, consequence, waivable, authority⟩ := Goal.Governed.mk.inj same
    refine eq_nil_iff_forall_not_mem.mpr fun name member => ?_
    simp [changedFields, kind, title, statement, rationale, scope, contract, consequence, waivable, authority] at member

section
variable {α β κ : Type} {items : List α}

theorem find?_key_iff [DecidableEq κ] {key : α → κ} (unique : (items.map key).Nodup) {wanted : κ} {item : α} :
    items.find? (fun item => decide (key item = wanted)) = some item ↔ item ∈ items ∧ key item = wanted := by
  constructor
  · exact fun found => ⟨mem_of_find?_eq_some found, of_decide_eq_true (List.find?_some found :)⟩
  · rintro ⟨member, rfl⟩
    cases found : items.find? fun other => decide (key other = key item) with
    | none => exact absurd (List.find?_eq_none.mp found item member) (by simp)
    | some other =>
      have same : key other = key item := of_decide_eq_true (List.find?_some found :)
      rw [inj_on_of_nodup_map unique (mem_of_find?_eq_some found) member same]

theorem filterMap_keys {image : α → Option β} {key : α → κ} {key' : β → κ}
    (keeps : ∀ item ∈ items, ∀ kept, image item = some kept → key' kept = key item) :
    ((items.filterMap image).map key').Sublist (items.map key) := by
  induction items with
  | nil => exact .slnil
  | cons item rest ih =>
    obtain ⟨here, others⟩ := forall_mem_cons.mp keeps
    cases its : image item with
    | none =>
      rw [filterMap_cons_none its, map_cons]
      exact (ih others).cons _
    | some kept =>
      rw [filterMap_cons_some its, map_cons, map_cons, here kept its]
      exact (ih others).cons_cons _

end

def removal (old : Goal) : ClauseDiff := ⟨old.slug, .removed, [], some old, none⟩
def change (old new : Goal) : ClauseDiff := ⟨old.slug, .changed, changedFields old new, some old, some new⟩
def addition (new : Goal) : ClauseDiff := ⟨new.slug, .added, [], none, some new⟩

def outgoingEntry (after : List Goal) (old : Goal) : Option ClauseDiff :=
  match after.find? fun new => decide (new.slug = old.slug) with
  | none => some (removal old)
  | some new => if (changedFields old new).isEmpty then none else some (change old new)

def incomingEntry (before : List Goal) (new : Goal) : Option ClauseDiff :=
  if before.any fun old => decide (old.slug = new.slug) then none else some (addition new)

theorem diffClauses_perm (before after : List Goal) :
    (diffClauses before after).Perm (before.filterMap (outgoingEntry after) ++ after.filterMap (incomingEntry before)) :=
  perm_insertionSort _ _

theorem outgoingEntry_absent (absent : ∀ new ∈ after, new.slug ≠ old.slug) : outgoingEntry after old = some (removal old) := by
  have none : after.find? (fun new => decide (new.slug = old.slug)) = none :=
    List.find?_eq_none.mpr fun new member => by simpa using absent new member
  rw [outgoingEntry, none]

theorem outgoingEntry_present (unique : (after.map Goal.slug).Nodup) (member : new ∈ after) (same : new.slug = old.slug) :
    outgoingEntry after old = if old.governed = new.governed then none else some (change old new) := by
  rw [outgoingEntry, (find?_key_iff unique).mpr ⟨member, same⟩]
  simp only [List.isEmpty_iff, changedFields_eq_nil]

theorem outgoingEntry_slug (made : outgoingEntry after old = some entry) : entry.slug = old.slug ∧ entry.change ≠ .added := by
  unfold outgoingEntry at made
  split at made
  · cases made
    exact ⟨rfl, nofun⟩
  · split at made
    · cases made
    · cases made
      exact ⟨rfl, nofun⟩

theorem incomingEntry_eq_some : incomingEntry before new = some entry ↔ entry = addition new ∧ ∀ old ∈ before, old.slug ≠ new.slug := by
  unfold incomingEntry
  split
  next known =>
    obtain ⟨old, member, same⟩ := any_eq_true.mp known
    refine ⟨nofun, fun ⟨_, fresh⟩ => absurd (of_decide_eq_true same) (fresh old member)⟩
  next fresh =>
    rw [Option.some.injEq, eq_comm]
    exact ⟨fun same => ⟨same, fun old member same => fresh (any_eq_true.mpr ⟨old, member, decide_eq_true same⟩)⟩, And.left⟩

theorem diffClauses_slugs (before_unique : (before.map Goal.slug).Nodup) (after_unique : (after.map Goal.slug).Nodup) :
    ((diffClauses before after).map ClauseDiff.slug).Nodup := by
  rw [((diffClauses_perm before after).map ClauseDiff.slug).nodup_iff, map_append]
  have outgoing : ((before.filterMap (outgoingEntry after)).map ClauseDiff.slug).Sublist (before.map Goal.slug) :=
    filterMap_keys fun old _ entry made => (outgoingEntry_slug made).1
  have incoming : ((after.filterMap (incomingEntry before)).map ClauseDiff.slug).Sublist (after.map Goal.slug) :=
    filterMap_keys fun new _ entry made => by
      rw [(incomingEntry_eq_some.mp made).1]
      rfl
  refine (before_unique.sublist outgoing).append (after_unique.sublist incoming) fun slug left right => ?_
  obtain ⟨entry, listed, rfl⟩ := mem_map.mp right
  obtain ⟨new, _, made⟩ := mem_filterMap.mp listed
  obtain ⟨rfl, fresh⟩ := incomingEntry_eq_some.mp made
  obtain ⟨old, member, same⟩ := mem_map.mp (outgoing.subset left)
  exact fresh old member same

theorem find?_diffClauses (before_unique : (before.map Goal.slug).Nodup) (after_unique : (after.map Goal.slug).Nodup) (member : old ∈ before) :
    (diffClauses before after).find? (fun entry => decide (entry.slug = old.slug)) = outgoingEntry after old := by
  have unique := diffClauses_slugs before_unique after_unique
  cases made : outgoingEntry after old with
  | some entry =>
    refine (find?_key_iff unique).mpr ⟨(diffClauses_perm before after).mem_iff.mpr ?_, (outgoingEntry_slug made).1⟩
    exact mem_append_left _ (mem_filterMap.mpr ⟨old, member, made⟩)
  | none =>
    refine List.find?_eq_none.mpr fun entry listed same => ?_
    have slug : entry.slug = old.slug := of_decide_eq_true same
    rcases mem_append.mp ((diffClauses_perm before after).mem_iff.mp listed) with outgoing | incoming
    · obtain ⟨other, inside, made'⟩ := mem_filterMap.mp outgoing
      rw [inj_on_of_nodup_map before_unique inside member ((outgoingEntry_slug made').1.symm.trans slug), made] at made'
      cases made'
    · obtain ⟨new, _, made'⟩ := mem_filterMap.mp incoming
      obtain ⟨rfl, fresh⟩ := incomingEntry_eq_some.mp made'
      exact fresh old member slug.symm

theorem diffClauses_eq_nil (after_unique : (after.map Goal.slug).Nodup) :
    diffClauses before after = [] ↔ (∀ slug, slug ∈ before.map Goal.slug ↔ slug ∈ after.map Goal.slug) ∧
      ∀ old ∈ before, ∀ new ∈ after, new.slug = old.slug → old.governed = new.governed := by
  have empty : diffClauses before after = [] ↔ before.filterMap (outgoingEntry after) = [] ∧ after.filterMap (incomingEntry before) = [] := by
    rw [← append_eq_nil_iff, ← perm_nil, ← perm_nil]
    exact ⟨(diffClauses_perm before after).symm.trans, (diffClauses_perm before after).trans⟩
  rw [empty, filterMap_eq_nil_iff, filterMap_eq_nil_iff]
  constructor
  · rintro ⟨outgoing, incoming⟩
    have matched : ∀ old ∈ before, ∃ new ∈ after, new.slug = old.slug ∧ old.governed = new.governed := by
      intro old member
      by_contra differs
      by_cases there : ∃ new ∈ after, new.slug = old.slug
      · obtain ⟨new, inside, same⟩ := there
        have made := outgoing old member
        rw [outgoingEntry_present after_unique inside same, if_neg fun governs => differs ⟨new, inside, same, governs⟩] at made
        cases made
      · have made := outgoing old member
        rw [outgoingEntry_absent fun new inside same => there ⟨new, inside, same⟩] at made
        cases made
    refine ⟨fun slug => ⟨fun listed => ?_, fun listed => ?_⟩, fun old member new inside same => ?_⟩
    · obtain ⟨old, member, rfl⟩ := mem_map.mp listed
      obtain ⟨new, inside, same, _⟩ := matched old member
      exact mem_map.mpr ⟨new, inside, same⟩
    · obtain ⟨new, inside, rfl⟩ := mem_map.mp listed
      by_contra out
      have made := incoming new inside
      rw [incomingEntry_eq_some.mpr ⟨rfl, fun old member same => out (mem_map.mpr ⟨old, member, same⟩)⟩] at made
      cases made
    · obtain ⟨other, there, slug, governs⟩ := matched old member
      rw [governs, inj_on_of_nodup_map after_unique there inside (slug.trans same.symm)]
  · rintro ⟨slugs, governs⟩
    refine ⟨fun old member => ?_, fun new inside => ?_⟩
    · obtain ⟨new, inside, same⟩ := mem_map.mp ((slugs old.slug).mp (mem_map_of_mem member))
      rw [outgoingEntry_present after_unique inside same, if_pos (governs old member new inside same)]
    · obtain ⟨old, member, same⟩ := mem_map.mp ((slugs new.slug).mpr (mem_map_of_mem inside))
      exact Option.eq_none_iff_forall_ne_some.mpr fun entry made => (incomingEntry_eq_some.mp made).2 old member same

def Goal.rule (clause : Goal) : String × Goal.Governed := (clause.slug, clause.governed)

section
variable (before_unique : (before.map Goal.slug).Nodup) (after_unique : (after.map Goal.slug).Nodup)
include before_unique after_unique

theorem applyEntry_absent (member : old ∈ before) (absent : ∀ new ∈ after, new.slug ≠ old.slug) :
    applyEntry (diffClauses before after) old = none := by
  rw [applyEntry, find?_diffClauses before_unique after_unique member, outgoingEntry_absent absent]
  rfl

theorem applyEntry_present (member : old ∈ before) (inside : new ∈ after) (same : new.slug = old.slug) :
    ∃ kept, applyEntry (diffClauses before after) old = some kept ∧ kept.rule = new.rule := by
  rw [applyEntry, find?_diffClauses before_unique after_unique member, outgoingEntry_present after_unique inside same]
  by_cases governs : old.governed = new.governed
  · rw [if_pos governs]
    exact ⟨old, rfl, Prod.ext same.symm governs⟩
  · rw [if_neg governs]
    exact ⟨_, rfl, Prod.ext same.symm governed_replaceFields⟩

omit before_unique after_unique in
theorem added_cases (listed : entry ∈ diffClauses before after) (added : addedBy entry = some new) :
    entry = addition new ∧ new ∈ after ∧ ∀ old ∈ before, old.slug ≠ new.slug := by
  obtain ⟨is, its⟩ := Option.ite_none_right_eq_some.mp added
  rcases mem_append.mp ((diffClauses_perm before after).mem_iff.mp listed) with outgoing | incoming
  · obtain ⟨old, _, made⟩ := mem_filterMap.mp outgoing
    exact absurd is (outgoingEntry_slug made).2
  · obtain ⟨other, inside, made⟩ := mem_filterMap.mp incoming
    obtain ⟨rfl, fresh⟩ := incomingEntry_eq_some.mp made
    cases its
    exact ⟨rfl, inside, fresh⟩

omit before_unique after_unique in
theorem mem_added : new ∈ (diffClauses before after).filterMap addedBy ↔ new ∈ after ∧ ∀ old ∈ before, old.slug ≠ new.slug := by
  rw [mem_filterMap]
  constructor
  · rintro ⟨entry, listed, added⟩
    exact (added_cases listed added).2
  · rintro ⟨inside, fresh⟩
    refine ⟨addition new, (diffClauses_perm before after).mem_iff.mpr (mem_append_right _ ?_), rfl⟩
    exact mem_filterMap.mpr ⟨new, inside, incomingEntry_eq_some.mpr ⟨rfl, fresh⟩⟩

theorem applyDiff_perm : ((applyDiff before (diffClauses before after)).map Goal.rule).Perm (after.map Goal.rule) := by
  have kept_slug : ∀ old ∈ before, ∀ kept, applyEntry (diffClauses before after) old = some kept →
      ∃ new ∈ after, new.slug = old.slug ∧ kept.rule = new.rule := by
    intro old member kept applied
    by_cases there : ∃ new ∈ after, new.slug = old.slug
    · obtain ⟨new, inside, same⟩ := there
      obtain ⟨other, applied', governs⟩ := applyEntry_present before_unique after_unique member inside same
      cases applied.symm.trans applied'
      exact ⟨new, inside, same, governs⟩
    · rw [applyEntry_absent before_unique after_unique member fun new inside same => there ⟨new, inside, same⟩] at applied
      cases applied
  have distinct : ((applyDiff before (diffClauses before after)).map Goal.slug).Nodup := by
    unfold applyDiff
    rw [map_append]
    have survivors : ((before.filterMap (applyEntry (diffClauses before after))).map Goal.slug).Sublist (before.map Goal.slug) := by
      refine filterMap_keys fun old member kept applied => ?_
      obtain ⟨new, _, same, rule⟩ := kept_slug old member kept applied
      exact (congrArg Prod.fst rule).trans same
    have added : (((diffClauses before after).filterMap addedBy).map Goal.slug).Sublist ((diffClauses before after).map ClauseDiff.slug) := by
      refine filterMap_keys fun entry listed new its => ?_
      rw [(added_cases listed its).1]
      rfl
    refine (before_unique.sublist survivors).append ((diffClauses_slugs before_unique after_unique).sublist added) fun slug left right => ?_
    obtain ⟨new, listed, rfl⟩ := mem_map.mp right
    obtain ⟨old, member, same⟩ := mem_map.mp (survivors.subset left)
    exact (mem_added.mp listed).2 old member same
  have rules {clauses : List Goal} (unique : (clauses.map Goal.slug).Nodup) : (clauses.map Goal.rule).Nodup := by
    refine Nodup.of_map Prod.fst ?_
    rw [map_map]
    exact unique
  refine (perm_ext_iff_of_nodup (rules distinct) (rules after_unique)).mpr fun rule => ?_
  simp only [applyDiff, map_append, mem_append, mem_map, mem_added]
  constructor
  · rintro (⟨kept, survives, rfl⟩ | ⟨new, ⟨inside, _⟩, rfl⟩)
    · obtain ⟨old, member, applied⟩ := mem_filterMap.mp survives
      obtain ⟨new, inside, _, governs⟩ := kept_slug old member kept applied
      exact ⟨new, inside, governs.symm⟩
    · exact ⟨new, inside, rfl⟩
  · rintro ⟨new, inside, rfl⟩
    by_cases known : ∃ old ∈ before, old.slug = new.slug
    · obtain ⟨old, member, same⟩ := known
      obtain ⟨kept, applied, governs⟩ := applyEntry_present before_unique after_unique member inside same.symm
      exact .inl ⟨kept, mem_filterMap.mpr ⟨old, member, applied⟩, governs⟩
    · exact .inr ⟨new, ⟨inside, fun old member same => known ⟨old, member, same⟩⟩, rfl⟩

end

def earlierClauses : List Goal :=
  [newGoal "goal:tests-v1" "tests" .invariant "Tests" "Every change has a test." .superseded 1,
    newGoal "goal:style-v1" "style" .principle "Style" "Lines are short." .superseded 1]

def laterClauses : List Goal :=
  [newGoal "goal:reviews-v2" "reviews" .constraint "Reviews" "Every change is reviewed." .active 2,
    { newGoal "goal:tests-v2" "tests" .invariant "Tests" "Every change has a test that fails without it." .active 2 with waivable := true }]

/-- The diff is empty where the versions have the same rules, has one entry for a slug at most, and makes the later version's rules of the
earlier one's. -/
theorem diffClauses_exact (before_unique : (before.map Goal.slug).Nodup) (after_unique : (after.map Goal.slug).Nodup) :
    (diffClauses before after = [] ↔ (∀ slug, slug ∈ before.map Goal.slug ↔ slug ∈ after.map Goal.slug) ∧
        ∀ old ∈ before, ∀ new ∈ after, new.slug = old.slug → old.governed = new.governed) ∧
      ((diffClauses before after).map ClauseDiff.slug).Nodup ∧
        ((applyDiff before (diffClauses before after)).map Goal.rule).Perm (after.map Goal.rule) :=
  ⟨diffClauses_eq_nil after_unique, diffClauses_slugs before_unique after_unique, applyDiff_perm before_unique after_unique⟩

theorem amended_clauses_exact : ((applyDiff earlierClauses (diffClauses earlierClauses laterClauses)).map Goal.rule).Perm
    (laterClauses.map Goal.rule) := (diffClauses_exact (by decide) (by decide)).2.2

end MindLeak.Lodestar
