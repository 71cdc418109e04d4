import MindLeak.Proofs.Changes

/-! Goal ids and the slugs they spell. A title's goal is `goal:<slug>` and its
clause in a version `goal:<slug>@<version>`; while nothing mints another kind of
id, every id spells the slug its row stores, and tasks name stored goals. -/

namespace MindLeak.Lodestar

open List Option Table Text

def Unversioned (text : String) : Prop := '@' ∉ text.toList

def Plain (slug id : String) : Prop := id = "goal:" ++ slug ∨ ∃ version, id = "goal:" ++ slug ++ "@" ++ version

def Env.Hexadecimal (env : Env) : Prop := ∀ text, (env.shortHash text).toList.all Text.isAsciiHexDigit = true

variable {env : Env}

section
variable {slug id : String}

theorem goalSlug_eq (id : String) : goalSlug id = String.ofList
    (((stripListPrefix? "goal:".toList id.toList).getD id.toList).takeWhile fun c => decide (c ≠ '@')) := by
  rw [← splitOnceList_before]
  unfold goalSlug stripPrefix? splitOnce
  cases stripListPrefix? "goal:".toList id.toList with
  | none =>
    dsimp only [map_none, getD_none]
    cases splitOnceList '@' id.toList with
    | none => exact String.ofList_toList.symm
    | some parts => rfl
  | some text =>
    dsimp only [map_some, getD_some]
    rw [String.toList_ofList]
    cases splitOnceList '@' text with
    | none | some => rfl

theorem goalSlug_version (id version : String) : goalSlug (id ++ "@" ++ version) = goalSlug id := by
  have split : (id ++ "@" ++ version).toList = id.toList ++ '@' :: version.toList := by
    simp [String.toList_append]
  rw [goalSlug_eq, goalSlug_eq, split, stripListPrefix?_separated (by decide)]
  cases stripListPrefix? "goal:".toList id.toList with
  | none | some => exact congrArg String.ofList takeWhile_separated

theorem goalSlug_bare (free : Unversioned slug) : goalSlug ("goal:" ++ slug) = slug := by
  rw [goalSlug_eq, String.toList_append, stripListPrefix?_append, getD_some, takeWhile_eq_self_iff.mpr,
    String.ofList_toList]
  intro c inside
  refine decide_eq_true ?_
  rintro rfl
  exact free inside

theorem Plain.spells (plain : Plain slug id) (free : Unversioned slug) : goalSlug id = slug := by
  rcases plain with rfl | ⟨version, rfl⟩
  · exact goalSlug_bare free
  · rw [goalSlug_version, goalSlug_bare free]

theorem toLower_ne_at {c : Char} (word : c.isAlphanum = true) : c.toLower ≠ '@' := by
  intro at_
  unfold Char.toLower at at_
  split at at_
  next upper =>
    have code := congrArg (fun c => c.val.toNat) at_
    have low := UInt32.le_iff_toNat_le.mp upper.1
    have high := UInt32.le_iff_toNat_le.mp upper.2
    simp at code low high
    omega
  next =>
    subst at_
    revert word
    decide

theorem Env.Hexadecimal.unversioned (hex : env.Hexadecimal) (text : String) : Unversioned (env.shortHash text) := by
  intro inside
  have digit := all_eq_true.mp (hex text) '@' inside
  revert digit
  decide

theorem slugify_unversioned (hex : env.Hexadecimal) (title : String) : Unversioned (slugify env title) := by
  unfold slugify
  generalize walk : title.toList.foldl _ ([], false) = walked
  -- every character written on the way is a lowered letter, a digit or a dash
  have folded : '@' ∉ walked.1 := by
    rw [← walk]
    refine List.foldlRecOn (motive := fun walked : List Char × Bool => '@' ∉ walked.1) _ _ not_mem_nil ?_
    intro so clean c _
    dsimp only at clean ⊢
    split
    next word =>
      rw [mem_append, mem_singleton, not_or]
      exact ⟨clean, (toLower_ne_at word).symm⟩
    next =>
      split
      · simp [clean]
      · exact clean
  dsimp only at folded ⊢
  split
  · exact hex.unversioned title
  intro inside
  rw [String.toList_ofList, mem_reverse] at inside
  have inner := mem_reverse.mp ((dropWhile_sublist _).subset inside)
  exact folded (mem_of_mem_take ((dropWhile_sublist _).subset inner))

end

namespace Store

/-- The step mints no id but a title's first and a clause's in its version:
nothing is superseded, imported or adopted from a pack, and no title is taken a
second time. A step that changes nothing mints nothing. -/
def MintsPlainly (env : Env) (s : Store) (op : Op) : Prop :=
  s.perform env op = s ∨ match op with
    | .defineGoal _ title _ _ _ => s.goalExists ("goal:" ++ slugify env title) = false
    | .importGoals .. | .supersede .. | .retire .. => False
    | .reviewPack _ disposition .. => disposition = .rejected
    | _ => True

/-- Goals stay under their ids with their slugs, what is new is plain, and a
successor that is named shares the slug. -/
structure Continues (goals after : Table GoalRow) : Prop where
  kept : ∀ row ∈ goals.rows, ∃ now ∈ after.rows, now.id = row.id ∧ now.slug = row.slug
  origin : ∀ now ∈ after.rows, (∃ row ∈ goals.rows, now.id = row.id ∧ now.slug = row.slug ∧
      (now.supersededBy = row.supersededBy ∨ ∃ heir ∈ after.rows, now.supersededBy = some heir.id ∧ heir.slug = now.slug)) ∨
    (Unversioned now.slug ∧ Plain now.slug now.id ∧ now.supersededBy = none)

structure Spelled (s : Store) : Prop where
  slugs : ∀ row ∈ s.goals.rows, Unversioned row.slug
  ids : ∀ row ∈ s.goals.rows, Plain row.slug row.id
  heirs : ∀ row ∈ s.goals.rows, ∀ heir, row.supersededBy = some heir →
    ∃ next ∈ s.goals.rows, next.id = heir ∧ next.slug = row.slug

section
variable {s seen after : Store} {now : Int}

theorem Continues.refl (goals : Table GoalRow) : Continues goals goals :=
  ⟨fun row member => ⟨row, member, rfl, rfl⟩, fun row member => .inl ⟨row, member, rfl, rfl, .inl rfl⟩⟩

theorem Spelled.continues (spelled : s.Spelled) (on : Continues s.goals after.goals) : after.Spelled := by
  refine ⟨?_, ?_, ?_⟩
  · intro row member
    rcases on.origin row member with ⟨old, known, _, slug, _⟩ | ⟨free, _, _⟩
    · rw [slug]
      exact spelled.slugs old known
    · exact free
  · intro row member
    rcases on.origin row member with ⟨old, known, id, slug, _⟩ | ⟨_, plain, _⟩
    · rw [slug, id]
      exact spelled.ids old known
    · exact plain
  · intro row member heir named
    rcases on.origin row member with ⟨old, known, _, slug, same | ⟨next, here, heirs, shared⟩⟩ | ⟨_, _, fresh⟩
    · obtain ⟨next, there, id, shared⟩ := spelled.heirs old known heir (same ▸ named)
      obtain ⟨now, here, id', slug'⟩ := on.kept next there
      exact ⟨now, here, id'.trans id, slug'.trans (shared.trans slug.symm)⟩
    · cases heirs.symm.trans named
      exact ⟨next, here, rfl, shared⟩
    · cases fresh.symm.trans named

variable {goal : Goal}

theorem Continues.inserted {goals after : Table GoalRow}
    (inserted : goals.insert? { toGoal := goal } = some after) (free : Unversioned goal.slug)
    (plain : Plain goal.slug goal.id) (fresh : goal.supersededBy = none) : Continues goals after := by
  have rows := (Table.insert?_rows inserted).1
  refine ⟨?_, ?_⟩
  · intro row member
    exact ⟨row, rows ▸ mem_append_left _ member, rfl, rfl⟩
  · intro row member
    rw [rows, mem_append, mem_singleton] at member
    rcases member with old | rfl
    · exact .inl ⟨row, old, rfl, rfl, .inl rfl⟩
    · exact .inr ⟨free, plain, fresh⟩

theorem Continues.mapped {goals after : Table GoalRow} {set : GoalRow → GoalRow}
    (find : ∀ key, after.find? key = (goals.find? key).map set) (slug : ∀ row, (set row).slug = row.slug)
    (links : ∀ row ∈ goals.rows, (set row).supersededBy = row.supersededBy ∨
      ∃ heir ∈ after.rows, (set row).supersededBy = some heir.id ∧ heir.slug = row.slug) : Continues goals after := by
  refine ⟨?_, ?_⟩
  · intro row member
    have found := find (Row.key row)
    rw [Table.find?_of_mem member, map_some] at found
    exact ⟨set row, (mem_of_find? found).1, (mem_of_find? found).2, slug row⟩
  · intro now member
    have found := Table.find?_of_mem member
    rw [find] at found
    obtain ⟨row, stored, rfl⟩ := map_eq_some_iff.mp found
    have known := (mem_of_find? stored).1
    have id : (set row).id = row.id := (mem_of_find? stored).2.symm
    refine .inl ⟨row, known, id, slug row, ?_⟩
    rw [slug row]
    exact links row known

theorem Continues.updated (goals : Table GoalRow) (selects : GoalRow → Bool) (set : GoalRow → GoalRow)
    (keeps : ∀ row, Row.key (set row) = Row.key row)
    (same : ∀ row, (set row).slug = row.slug ∧ (set row).supersededBy = row.supersededBy) :
    Continues goals (goals.update selects set keeps) := by
  refine .mapped (Table.find?_update goals selects set keeps) ?_ ?_
  · intro row
    split
    · exact (same row).1
    · rfl
  · intro row _
    split
    · exact .inl (same row).2
    · exact .inl rfl

theorem defineGoalOn_continues {kind : GoalKind} {title statement : String} {parent : Option String}
    (hex : env.Hexadecimal) (free : s.goalExists ("goal:" ++ slugify env title) = false)
    (done : s.defineGoalOn env kind title statement parent now = .ok (goal, after)) :
    Continues s.goals after.goals := by
  obtain ⟨inserted, _, rfl, named⟩ := defineGoalOn_inserts done
  cases named free
  refine .inserted (insertGoalOn_ok inserted).goals ?_ ?_ rfl <;> dsimp only [newGoal]
  · exact slugify_unversioned hex title
  · exact .inl rfl

theorem draftClause_continues {draftId : String} {kind : GoalKind} {title statement : String}
    (hex : env.Hexadecimal) (done : draftClause env seen s draftId kind title statement now = .ok (goal, after)) :
    Continues s.goals after.goals := by
  obtain ⟨inserted, rfl⟩ := draftClause_inserts done
  refine .inserted (insertGoalOn_ok inserted).goals ?_ ?_ rfl <;> dsimp only [newGoal]
  · exact slugify_unversioned hex title
  · exact .inr ⟨draftId, rfl⟩

theorem copyClauseToVersion_continues {fromVersion toVersion clauseId : String} (read : seen.Spelled)
    (done : copyClauseToVersion seen s fromVersion toVersion clauseId = .ok after) :
    Continues s.goals after.goals := by
  obtain ⟨clause, found, inserted⟩ := copyClauseToVersion_inserts done
  have listed := (perm_insertionSort _ _).mem_iff.mp found
  obtain ⟨row, stored, rfl⟩ := mem_map.mp listed
  have slug := read.slugs row (mem_filter.mp stored).1
  exact .inserted (insertGoalOn_ok inserted).goals slug (.inr ⟨toVersion, rfl⟩) rfl

theorem reviewPackClause_rejected {proposalId : String} {tailored : Option PackClause} {actor : String}
    {why : Option String} (done : s.reviewPackClause env proposalId .rejected tailored actor why now = .ok after) :
    after.goals = s.goals := by
  obtain ⟨_, done⟩ := ite_else done
  obtain ⟨_, done⟩ := ite_else done
  split at done
  · cases done
  split at done
  next =>
    split at done <;> cases done
    rfl
  next =>
    cases done
    rfl

theorem completeClauseContract_continues {goalId scope evidenceContract : String} {consequence : Option Consequence}
    {waivable : Bool} {waiverAuthority : Option String}
    (done : completeClauseContract seen s goalId scope evidenceContract consequence waivable waiverAuthority = .ok after) :
    Continues s.goals after.goals := by
  simp only [completeClauseContract, throw_eq, error_bind, pure_eq] at done
  repeat' split at done
  all_goals cases done
  refine .updated s.goals _ _ ?_ ?_
  · intro row
    rfl
  · exact fun row => ⟨rfl, rfl⟩

theorem amendConstitution_continues {reads : AmendmentReads} {draftId amendedBy approvedBy rationale : String}
    {amendment : ConstitutionAmendment}
    (done : amendConstitution env reads s draftId amendedBy approvedBy rationale now = .ok (amendment, after)) :
    Continues s.goals after.goals := by
  obtain ⟨before, staged, amendments, _, _, setup, _, _, _, _, _, done⟩ := amendConstitution_ok done
  have goals : after.goals =
      (((s.retireVersion before).promote draftId (trim amendedBy) now).linkSuccessors before draftId).goals := by
    rw [done, setup]
    rfl
  generalize handed : (s.retireVersion before).promote draftId (trim amendedBy) now = promoted at goals
  have find (key : String) : after.goals.find? key = ((s.goals.find? key).map fun row => row.handedOver before draftId).map
      fun row => if row.constitutionVersion = some before ∧ row.supersededBy = none ∧
          (promoted.successorOf draftId row.slug).isSome then
        { row with supersededBy := promoted.successorOf draftId row.slug } else row := by
    rw [goals, find?_linkSuccessors, ← find?_handedOver s before draftId (trim amendedBy) key now, handed]
  refine .mapped (fun key => (find key).trans (map_map _ _ _)) ?_ ?_
  · intro row
    dsimp only [Function.comp]
    split <;> exact row.handedOver_slug
  · intro row member
    dsimp only [Function.comp]
    split
    next linked =>
      obtain ⟨heirId, named⟩ := isSome_iff_exists.mp linked.2.2
      obtain ⟨heir, chosen, id⟩ := map_eq_some_iff.mp named
      have shared := List.find?_some chosen
      simp only [Bool.and_eq_true, decide_eq_true_eq, GoalRow.handedOver_slug] at shared
      have found : promoted.goals.find? heir.id = some heir := Table.find?_of_mem (mem_of_find?_eq_some chosen)
      have here := find heir.id
      rw [← find?_handedOver s before draftId (trim amendedBy) heir.id now, handed, found, map_some] at here
      refine .inr ⟨_, (mem_of_find? here).1, ?_, ?_⟩
      · have same := (mem_of_find? here).2
        rw [named, ← id]
        exact congrArg some same.symm
      · split <;> exact shared.2
    next => exact .inl row.handedOver_supersededBy

theorem promote_continues (s : Store) (draftId activatedBy : String) (now : Int) :
    Continues s.goals (s.promote draftId activatedBy now).goals := by
  refine .updated s.goals _ _ ?_ ?_
  · intro row
    rfl
  · exact fun row => ⟨rfl, rfl⟩

theorem continues_of_same (same : after.goals = s.goals) : Continues s.goals after.goals := by
  rw [same]
  exact .refl s.goals

theorem settle_continues {result : Result Store} (each : ∀ after, result = .ok after → Continues s.goals after.goals) :
    Continues s.goals (s.settle result).goals := by
  cases result with
  | error failure => exact .refl s.goals
  | ok after => exact each after rfl

theorem settled_continues {α : Type} {result : Result (α × Store)}
    (each : ∀ value after, result = .ok (value, after) → Continues s.goals after.goals) :
    Continues s.goals (s.settled result).goals := by
  rcases result with failure | ⟨value, after⟩
  · exact .refl s.goals
  · exact each value after rfl

theorem perform_continues (hex : env.Hexadecimal) {op : Op} (reads : ∀ seen ∈ op.reads, seen.Spelled)
    (plainly : s.MintsPlainly env op) : Continues s.goals (s.perform env op).goals ∨ s.perform env op = s.cleared := by
  rcases plainly with same | plainly
  · exact .inl (continues_of_same (congrArg goals same))
  cases op with
  | importGoals | supersede | retire => cases plainly
  | defineGoal => exact .inl (settled_continues fun _ _ done => defineGoalOn_continues hex plainly done)
  | contract => exact .inl (settle_continues fun _ done => completeClauseContract_continues done)
  | reviewPack =>
    refine .inl (settle_continues fun _ done => continues_of_same ?_)
    rw [show _ = PackClauseDisposition.rejected from plainly] at done
    exact reviewPackClause_rejected done
  | copyClause seen =>
    exact .inl (settle_continues fun _ done => copyClauseToVersion_continues (reads seen mem_cons_self) done)
  | draftClause => exact .inl (settled_continues fun _ _ done => draftClause_continues hex done)
  | activate draftId activatedBy now =>
    refine .inl (settle_continues fun _ done => ?_)
    rw [(activateConstitution_ok done).2.2]
    exact s.promote_continues draftId (trim activatedBy) now
  | amend => exact .inl (settled_continues fun _ _ done => amendConstitution_continues done)
  | reset confirmation =>
    change Continues s.goals (s.settle (s.resetDatabase confirmation)).goals ∨
      s.settle (s.resetDatabase confirmation) = s.cleared
    unfold resetDatabase
    split
    · exact .inl (.refl s.goals)
    · exact .inr rfl
  | _ => exact .inl (continues_of_same (perform_touches env s _ .goals (by simp [Op.writes])))

end
end Store
end MindLeak.Lodestar
