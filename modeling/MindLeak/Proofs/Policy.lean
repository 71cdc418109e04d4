import MindLeak.Proofs.Operations

/-! What the operations on goals, versions and packs do to the governing set: a
clause is stated, rows are edited in place, a version is drafted, or the set
stays. None of them touches a table of coordination. -/

namespace MindLeak.Lodestar
namespace Store
variable {s after seen : Store} {now : Int} {env : Env} {goal : Goal} {statement title draftId : String}
  {kind : GoalKind} {createdBy : Option String}

structure Stated (s after : Store) (goal : Goal) : Prop where
  goals : s.goals.insert? { toGoal := goal } = some after.goals
  versions : after.constitutionVersions = s.constitutionVersions
  amendments : after.amendments = s.amendments
  work : s.SameWork after

/-- Clauses rewritten in place: none changes version, and none becomes active. -/
structure Edited (s after : Store) : Prop where
  goals : ∃ selects set keeps, after.goals = s.goals.update selects set keeps ∧
    ∀ row, (set row).constitutionVersion = row.constitutionVersion ∧
      ((set row).status = row.status ∨ (set row).status = .superseded)
  versions : after.constitutionVersions = s.constitutionVersions
  amendments : after.amendments = s.amendments
  work : s.SameWork after

structure Drafted (s after : Store) (version : ConstitutionVersion) : Prop where
  versions : s.constitutionVersions.insert? version = some after.constitutionVersions
  draft : version.status = .draft
  goals : after.goals = s.goals
  amendments : after.amendments = s.amendments
  work : s.SameWork after

structure Aside (s after : Store) : Prop where
  policy : s.SamePolicy after
  work : s.SameWork after

theorem Aside.refl (s : Store) : s.Aside s := ⟨.refl s, .refl s⟩

theorem insertGoalOn_ok (done : s.insertGoalOn goal = .ok after) : s.Stated after goal := by
  obtain ⟨_, done⟩ := ite_else done
  split at done
  · cases done
  rename_i goals inserted
  cases done
  exact ⟨inserted, rfl, rfl, rfl, rfl, rfl, rfl, rfl⟩

theorem defineGoalOn_inserts {parent : Option String}
    (done : s.defineGoalOn env kind title statement parent now = .ok (goal, after)) :
    s.insertGoalOn goal = .ok after ∧ ∃ id,
      goal = { newGoal id (slugify env title) kind title statement .active now with parentId := parent } ∧
      (s.goalExists ("goal:" ++ slugify env title) = false → id = "goal:" ++ slugify env title) := by
  simp only [defineGoalOn, throw_eq, error_bind, pure_eq] at done
  have named (free : s.goalExists ("goal:" ++ slugify env title) = false) :
      (if s.goalExists ("goal:" ++ slugify env title) = true
        then "goal:" ++ slugify env title ++ "-" ++ env.shortHash statement else "goal:" ++ slugify env title) =
        "goal:" ++ slugify env title := by
    rw [free]
    rfl
  generalize (if s.goalExists ("goal:" ++ slugify env title) = true
    then "goal:" ++ slugify env title ++ "-" ++ env.shortHash statement else "goal:" ++ slugify env title) = id at done named
  obtain ⟨_, done⟩ := ite_else done
  obtain ⟨last, inserted, done⟩ := bind_ok done
  cases done
  exact ⟨inserted, id, rfl, named⟩

theorem defineGoalOn_ok {parent : Option String}
    (done : s.defineGoalOn env kind title statement parent now = .ok (goal, after)) :
    s.Stated after goal ∧ goal.constitutionVersion = none := by
  obtain ⟨inserted, id, rfl, _⟩ := defineGoalOn_inserts done
  exact ⟨insertGoalOn_ok inserted, rfl⟩

def Imported (s after : Store) : Prop := ∃ goal, s.Stated after goal ∧ goal.constitutionVersion = none

theorem importRecord_ok {sourceSystem : String} {record : ExternalGoalRecord}
    (done : importRecord env sourceSystem now s record = .ok after) :
    after = s ∨ s.Imported after := by
  unfold importRecord at done
  dsimp only at done
  split at done
  next =>
    cases done
    exact .inl rfl
  next =>
    split at done
    next =>
      cases done
      exact .inl rfl
    next => exact .inr ⟨_, insertGoalOn_ok done, rfl⟩

theorem importExternalGoals_ok {sourceSystem : String} {records : List ExternalGoalRecord}
    (done : s.importExternalGoals env sourceSystem records now = .ok after) :
    Relation.ReflTransGen Imported s after := by
  obtain ⟨_, done⟩ := ite_else done
  obtain ⟨_, _, done⟩ := bind_ok done
  refine foldlM_ok (Relation.ReflTransGen Imported s) done .refl ?_
  intro before record middle earlier one
  rcases importRecord_ok one with rfl | imported
  · exact earlier
  · exact earlier.tail imported

theorem supersedeGoal_inserts {oldId why : String}
    (done : supersedeGoal seen s oldId statement why now = .ok (goal, after)) :
    s.insertGoalOn goal = .ok after ∧
      ∃ old, seen.goals.find? oldId = some old ∧ goal = supersession old.toGoal statement why now := by
  unfold supersedeGoal at done
  split at done
  · cases done
  rename_i old found
  obtain ⟨last, inserted, done⟩ := bind_ok done
  cases done
  exact ⟨inserted, old, found, rfl⟩

theorem supersedeGoal_ok {oldId why : String} (done : supersedeGoal seen s oldId statement why now = .ok (goal, after)) :
    ∃ old, seen.goals.find? oldId = some old ∧ goal = supersession old.toGoal statement why now ∧
      s.Stated after goal := by
  obtain ⟨inserted, old, found, same⟩ := supersedeGoal_inserts done
  exact ⟨old, found, same, insertGoalOn_ok inserted⟩

theorem retireSuperseded_edited (s : Store) (oldId newId agent : String) (now : Int) :
    s.Edited (s.retireSuperseded oldId newId agent now) := by
  refine ⟨⟨_, _, ?_, rfl, ?_⟩, rfl, rfl, rfl, rfl, rfl, rfl, rfl⟩
  · intro row
    rfl
  · exact fun row => ⟨rfl, .inr rfl⟩

theorem completeClauseContract_ok {goalId scope evidenceContract : String} {consequence : Option Consequence}
    {waivable : Bool} {waiverAuthority : Option String}
    (done : completeClauseContract seen s goalId scope evidenceContract consequence waivable waiverAuthority = .ok after) :
    s.Edited after := by
  unfold completeClauseContract at done
  repeat' split at done
  all_goals cases done
  refine ⟨⟨_, _, ?_, rfl, ?_⟩, rfl, rfl, rfl, rfl, rfl, rfl, rfl⟩
  · intro row
    rfl
  · exact fun row => ⟨rfl, .inl rfl⟩

theorem adoptClause_ok {proposal : PackClauseProposal} {selected : PackClause} {why : Option String}
    {adopted : Option String} (done : s.adoptClause env proposal selected why now = .ok (adopted, after)) :
    ∃ goal, s.Stated after goal ∧ ∀ id, goal.status = .active → goal.constitutionVersion = some id →
      ∃ version, s.constitutionVersions.find? id = some version ∧ version.status = .active := by
  simp only [adoptClause, throw_eq, error_bind, pure_eq] at done
  split at done
  · cases done
  split at done
  · cases done
  obtain ⟨status, joined, done⟩ := bind_ok done
  obtain ⟨middle, inserted, done⟩ := bind_ok done
  split at done
  · cases done
  cases done
  have stated := insertGoalOn_ok inserted
  refine ⟨_, ⟨stated.goals, stated.versions, stated.amendments, ?_⟩, ?_⟩
  · exact ⟨stated.work.tasks, stated.work.events, stated.work.handoffs, stated.work.conformance,
      stated.work.counter⟩
  · intro id active named
    subst active
    unfold constitutionStatusOn at joined
    obtain ⟨named', named⟩ := else_of_ne named (by simp)
    cases named
    rw [if_neg named'] at joined
    split at joined
    · cases joined
    rename_i version found
    exact ⟨version, found, by simpa using joined⟩

theorem reviewPackClause_ok {proposalId : String} {disposition : PackClauseDisposition} {tailored : Option PackClause}
    {actor : String} {why : Option String}
    (done : s.reviewPackClause env proposalId disposition tailored actor why now = .ok after) :
    s.Aside after ∨ ∃ goal, s.Stated after goal ∧ ∀ id, goal.status = .active → goal.constitutionVersion = some id →
      ∃ version, s.constitutionVersions.find? id = some version ∧ version.status = .active := by
  obtain ⟨_, done⟩ := ite_else done
  obtain ⟨_, done⟩ := ite_else done
  split at done
  · cases done
  split at done
  next =>
    split at done <;> cases done
    exact .inl (.refl s)
  next =>
    obtain ⟨selected, _, done⟩ := bind_ok done
    split at done
    next =>
      cases done
      exact .inl ⟨⟨rfl, rfl, rfl⟩, rfl, rfl, rfl, rfl, rfl⟩
    next =>
      obtain ⟨⟨adopted, middle⟩, made, done⟩ := bind_ok done
      cases done
      obtain ⟨goal, stated, joins⟩ := adoptClause_ok made
      exact .inr ⟨goal, ⟨stated.goals, stated.versions, stated.amendments, stated.work.tasks,
        stated.work.events, stated.work.handoffs, stated.work.conformance, stated.work.counter⟩, joins⟩

theorem createConstitutionVersion_ok {id : String} {number : Int}
    (done : s.createConstitutionVersion id number .draft createdBy now = .ok after) :
    ∃ version, s.Drafted after version := by
  unfold createConstitutionVersion at done
  split at done
  · cases done
  rename_i inserted
  cases done
  exact ⟨_, inserted, rfl, rfl, rfl, rfl, rfl, rfl, rfl, rfl⟩

theorem proposeConstitution_ok (done : proposeConstitution seen s createdBy now = .ok after) :
    ∃ version, s.Drafted after version := by
  simp only [proposeConstitution, throw_eq, error_bind] at done
  split at done
  · cases done
  obtain ⟨_, _, done⟩ := bind_ok done
  exact createConstitutionVersion_ok done

theorem proposeAmendment_ok (done : proposeAmendment seen s createdBy now = .ok after) : ∃ version, s.Drafted after version := by
  obtain ⟨_, done⟩ := ite_else done
  obtain ⟨_, _, done⟩ := bind_ok done
  exact createConstitutionVersion_ok done

theorem copyClauseToVersion_inserts {fromVersion toVersion clauseId : String}
    (done : copyClauseToVersion seen s fromVersion toVersion clauseId = .ok after) :
    ∃ clause ∈ seen.clausesForVersion fromVersion, s.insertGoalOn (copiedClause clause toVersion) = .ok after := by
  unfold copyClauseToVersion at done
  split at done
  · cases done
  rename_i clause found
  exact ⟨clause, List.mem_of_find?_eq_some found, done⟩

theorem copyClauseToVersion_ok {fromVersion toVersion clauseId : String}
    (done : copyClauseToVersion seen s fromVersion toVersion clauseId = .ok after) :
    ∃ goal, s.Stated after goal ∧ goal.status = .draft := by
  obtain ⟨clause, _, inserted⟩ := copyClauseToVersion_inserts done
  exact ⟨_, insertGoalOn_ok inserted, rfl⟩

theorem draftClause_inserts (done : draftClause env seen s draftId kind title statement now = .ok (goal, after)) :
    s.insertGoalOn goal = .ok after ∧ goal = { newGoal s!"goal:{slugify env title}@{draftId}" (slugify env title)
      kind title statement .draft now with constitutionVersion := some draftId } := by
  unfold draftClause at done
  split at done
  · cases done
  obtain ⟨_, done⟩ := ite_else done
  obtain ⟨_, done⟩ := ite_else done
  obtain ⟨last, inserted, done⟩ := bind_ok done
  cases done
  exact ⟨inserted, rfl⟩

theorem draftClause_ok (done : draftClause env seen s draftId kind title statement now = .ok (goal, after)) :
    s.Stated after goal ∧ goal.status = .draft := by
  obtain ⟨inserted, rfl⟩ := draftClause_inserts done
  exact ⟨insertGoalOn_ok inserted, rfl⟩

theorem activateConstitution_ok {activatedBy : String} (done : s.activateConstitution draftId activatedBy now = .ok after) :
    (∃ version, s.constitutionVersions.find? draftId = some version ∧ version.status = .draft) ∧
      (∀ version ∈ s.constitutionVersions.rows, version.status ≠ .active) ∧
      after = s.promote draftId (Text.trim activatedBy) now := by
  simp only [activateConstitution, throw_eq, error_bind, pure_eq] at done
  obtain ⟨_, done⟩ := ite_else done
  split at done
  · cases done
  rename_i version found
  obtain ⟨draft, done⟩ := ite_else done
  split at done
  · cases done
  rename_i free
  obtain ⟨_, done⟩ := ite_else done
  obtain ⟨_, done⟩ := ite_else done
  cases done
  exact ⟨⟨version, found, not_not.mp draft⟩, by simpa using free, rfl⟩

theorem amendConstitution_ok {reads : AmendmentReads} {amendedBy approvedBy rationale : String}
    {amendment : ConstitutionAmendment}
    (done : amendConstitution env reads s draftId amendedBy approvedBy rationale now = .ok (amendment, after)) :
    ∃ before staged amendments, reads.before = some before ∧ before ≠ draftId ∧
      staged = (((s.retireVersion before).promote draftId (Text.trim amendedBy) now).carryControls draftId
        |>.linkSuccessors before draftId).carryBindings before ∧
      (∃ version, s.constitutionVersions.find? draftId = some version ∧ version.status = .draft) ∧
      s.amendments.insert? amendment = some amendments ∧
      amendment.fromVersion = before ∧ amendment.toVersion = draftId ∧
      amendment.diff = diffClauses reads.beforeClauses reads.afterClauses ∧
      after = { staged.carryTasks before now with amendments } := by
  obtain ⟨_, done⟩ := ite_else done
  obtain ⟨_, done⟩ := ite_else done
  obtain ⟨_, done⟩ := ite_else done
  split at done
  · cases done
  rename_i before read
  obtain ⟨apart, done⟩ := ite_else done
  obtain ⟨_, done⟩ := ite_else done
  obtain ⟨_, done⟩ := ite_else done
  simp only [commitAmendment, throw_eq, error_bind, pure_eq] at done
  split at done
  · cases done
  rename_i version found
  obtain ⟨draft, done⟩ := ite_else done
  obtain ⟨_, done⟩ := ite_else done
  split at done
  · cases done
  rename_i amendments inserted
  cases done
  exact ⟨before, _, amendments, read, apart, rfl, ⟨version, found, not_not.mp draft⟩, inserted,
    rfl, rfl, rfl, rfl⟩

end Store
end MindLeak.Lodestar
