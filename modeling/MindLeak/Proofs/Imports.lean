import MindLeak.Lodestar.Imports
import MindLeak.Proofs.Adoptions

/-! External goals: what a goal keeps of where it came from, under every
operation but a reset, and an import as a fold of its records into that. -/

namespace MindLeak.Lodestar

open List Table Text

structure Imprint where
  id : String
  (sourceSystem externalId sourceDigest : Option String)

def Goal.imprint (goal : Goal) : Imprint := ⟨goal.id, goal.sourceSystem, goal.externalId, goal.sourceDigest⟩

/-- A goal of another system carries the digest it came with. -/
def Imprint.Digested (imprint : Imprint) : Prop := imprint.sourceSystem ≠ none → imprint.sourceDigest ≠ none

def Imprint.names (sourceSystem externalId : String) (imprint : Imprint) : Bool :=
  decide (imprint.sourceSystem = some sourceSystem ∧ imprint.externalId = some externalId)

variable {now : Int} {env : Env} {s after : Store} {sourceSystem externalId : String}

namespace Store

def imprints (s : Store) : List Imprint := s.goals.rows.map fun row => row.imprint

def known (s : Store) (sourceSystem externalId : String) : Option Imprint :=
  s.imprints.find? (Imprint.names sourceSystem externalId)

def Digested (s : Store) : Prop := ∀ imprint ∈ s.imprints, imprint.Digested

theorem importedAs_known (s : Store) (sourceSystem externalId : String) :
    (s.importedAs sourceSystem externalId).map (fun row => row.imprint) = s.known sourceSystem externalId := by
  unfold importedAs known imprints
  rw [List.find?_map]
  rfl

variable {imprint : Imprint}

theorem known_of_grown (grown : s.imprints <+: after.imprints)
    (there : s.known sourceSystem externalId = some imprint) : after.known sourceSystem externalId = some imprint :=
  grown.find?_eq_some there

theorem known_names (there : s.known sourceSystem externalId = some imprint) :
    imprint ∈ s.imprints ∧ imprint.sourceSystem = some sourceSystem ∧ imprint.externalId = some externalId := by
  have named : Imprint.names sourceSystem externalId imprint = true := List.find?_some there
  exact ⟨mem_of_find?_eq_some there, of_decide_eq_true named⟩

/-- Goals are added, each with its digest, and none loses where it came from. -/
structure Grown (s after : Store) : Prop where
  grew : s.imprints <+: after.imprints
  digested : s.Digested → after.Digested

theorem Grown.refl (s : Store) : s.Grown s := ⟨prefix_rfl, id⟩

theorem Grown.trans {middle : Store} (one : s.Grown middle) (other : middle.Grown after) : s.Grown after :=
  ⟨one.grew.trans other.grew, other.digested ∘ one.digested⟩

theorem Grown.of_imprints (same : after.imprints = s.imprints) : s.Grown after := by
  refine ⟨?_, fun digested => ?_⟩
  · exact same ▸ prefix_rfl
  · unfold Digested
    rwa [same]

theorem Grown.of_goals (same : after.goals = s.goals) : s.Grown after := .of_imprints (by rw [imprints, same]; rfl)

theorem Grown.of_update {selects : GoalRow → Bool} {set : GoalRow → GoalRow}
    (written : after.goals.rows = s.goals.rows.map fun row => if selects row then set row else row)
    (kept : ∀ row, (set row).imprint = row.imprint) : s.Grown after := by
  refine .of_imprints ?_
  unfold imprints
  rw [written, map_map]
  refine map_congr_left fun row _ => ?_
  simp only [Function.comp_apply]
  split
  · exact kept row
  · rfl

theorem inserted_imprints {goal : Goal} (inserted : s.goals.insert? { toGoal := goal } = some after.goals) :
    after.imprints = s.imprints ++ [goal.imprint] := by
  unfold imprints
  rw [(insert?_rows inserted).1, map_append]
  rfl

theorem Grown.of_inserted {goal : Goal} (inserted : s.goals.insert? { toGoal := goal } = some after.goals)
    (digested : goal.imprint.Digested) : s.Grown after := by
  have grown := inserted_imprints inserted
  refine ⟨grown ▸ prefix_append .., fun before imprint member => ?_⟩
  rw [grown, mem_append, mem_singleton] at member
  rcases member with old | rfl
  · exact before imprint old
  · exact digested

theorem Digested.goal {seen : Store} (digested : seen.Digested) {row : GoalRow} (member : row ∈ seen.goals.rows) :
    row.imprint.Digested := digested _ (mem_map_of_mem member)

theorem digested_of_unsourced (unsourced : imprint.sourceSystem = none) : imprint.Digested :=
  fun sourced => absurd unsourced sourced

theorem clausesForVersion_goal {seen : Store} {versionId : String} {clause : Goal}
    (listed : clause ∈ seen.clausesForVersion versionId) : ∃ row ∈ seen.goals.rows, row.toGoal = clause := by
  unfold clausesForVersion at listed
  rw [mem_insertionSort] at listed
  obtain ⟨row, member, rfl⟩ := mem_map.mp listed
  exact ⟨row, mem_of_mem_filter member, rfl⟩

theorem importRecord_grown {record : ExternalGoalRecord} (done : importRecord env sourceSystem now s record = .ok after) :
    s.Grown after := by
  unfold importRecord at done
  dsimp only at done
  split at done
  next =>
    cases done
    exact .refl s
  next =>
    split at done
    next =>
      cases done
      exact .refl s
    next => exact .of_inserted (insertGoalOn_ok done).goals fun _ => nofun

theorem importExternalGoals_grown {records : List ExternalGoalRecord}
    (done : s.importExternalGoals env sourceSystem records now = .ok after) : s.Grown after := by
  obtain ⟨_, done⟩ := ite_else done
  obtain ⟨_, _, done⟩ := bind_ok done
  refine foldlM_ok s.Grown done (.refl s) ?_
  exact fun before record middle earlier one => earlier.trans (importRecord_grown one)

theorem reviewPackClause_grown {proposalId : String} {disposition : PackClauseDisposition} {tailored : Option PackClause}
    {actor : String} {why : Option String}
    (done : s.reviewPackClause env proposalId disposition tailored actor why now = .ok after) : s.Grown after := by
  obtain ⟨proposal, _, ⟨_, rfl⟩ | ⟨_, ⟨_, rfl⟩ | ⟨_, selected, goal, middle, adopts, rfl⟩⟩⟩ := reviewPackClause_cases done
  · exact .refl after
  · exact .of_goals rfl
  · have stated : s.Grown middle := .of_inserted adopts.goals (digested_of_unsourced (by rw [adopts.clause]; rfl))
    exact stated.trans (.of_goals rfl)

/-- An amendment moves clauses between statuses and names their successors. -/
theorem amendConstitution_grown {reads : AmendmentReads} {draftId amendedBy approvedBy rationale : String}
    {amendment : ConstitutionAmendment}
    (done : amendConstitution env reads s draftId amendedBy approvedBy rationale now = .ok (amendment, after)) :
    s.Grown after := by
  obtain ⟨before, staged, amendments, _, _, rfl, _, _, _, _, _, rfl⟩ := amendConstitution_ok done
  have retired : s.Grown (s.retireVersion before) := .of_update rfl fun _ => rfl
  have promoted : (s.retireVersion before).Grown ((s.retireVersion before).promote draftId (trim amendedBy) now) :=
    .of_update rfl fun _ => rfl
  have controlled : s.Grown (((s.retireVersion before).promote draftId (trim amendedBy) now).carryControls draftId) :=
    (retired.trans promoted).trans (.of_goals rfl)
  have linked : s.Grown ((((s.retireVersion before).promote draftId (trim amendedBy) now).carryControls draftId)
      |>.linkSuccessors before draftId) := controlled.trans (.of_update rfl fun _ => rfl)
  exact linked.trans (.of_goals rfl)

theorem settle_grown {result : Result Store} (each : ∀ after, result = .ok after → s.Grown after) :
    s.Grown (s.settle result) := by
  cases result with
  | error => exact .refl s
  | ok after => exact each after rfl

theorem settled_grown {α : Type} {result : Result (α × Store)}
    (each : ∀ value after, result = .ok (value, after) → s.Grown after) : s.Grown (s.settled result) := by
  rcases result with failure | ⟨value, after⟩
  · exact .refl s
  · exact each value after rfl

theorem perform_grown {op : Op} (read : ∀ seen ∈ op.reads, seen.Digested) (standing : ∀ confirmation, op ≠ .reset confirmation) :
    s.Grown (s.perform env op) := by
  have apart := perform_samePolicy env s op
  cases op with
  | defineGoal =>
    refine settled_grown fun _ _ done => ?_
    obtain ⟨inserted, id, rfl, _⟩ := defineGoalOn_inserts done
    exact .of_inserted (insertGoalOn_ok inserted).goals (digested_of_unsourced rfl)
  | importGoals => exact settle_grown fun _ done => importExternalGoals_grown done
  | supersede seen =>
    refine settled_grown fun _ _ done => ?_
    obtain ⟨old, found, rfl, stated⟩ := supersedeGoal_ok done
    exact .of_inserted stated.goals ((read seen (by simp [Op.reads])).goal (mem_of_find? found).1)
  | retire => exact .of_update rfl fun _ => rfl
  | contract =>
    refine settle_grown fun _ done => ?_
    unfold completeClauseContract at done
    repeat' split at done
    all_goals cases done
    exact .of_update rfl fun _ => rfl
  | reviewPack => exact settle_grown fun _ done => reviewPackClause_grown done
  | proposeConstitution =>
    refine settle_grown fun _ done => ?_
    obtain ⟨_, drafted⟩ := proposeConstitution_ok done
    exact .of_goals drafted.goals
  | proposeAmendment =>
    refine settle_grown fun _ done => ?_
    obtain ⟨_, drafted⟩ := proposeAmendment_ok done
    exact .of_goals drafted.goals
  | copyClause seen =>
    refine settle_grown fun _ done => ?_
    obtain ⟨clause, listed, inserted⟩ := copyClauseToVersion_inserts done
    obtain ⟨row, member, rfl⟩ := clausesForVersion_goal listed
    exact .of_inserted (insertGoalOn_ok inserted).goals ((read seen (by simp [Op.reads])).goal member)
  | draftClause =>
    refine settled_grown fun _ _ done => ?_
    obtain ⟨inserted, rfl⟩ := draftClause_inserts done
    exact .of_inserted (insertGoalOn_ok inserted).goals (digested_of_unsourced rfl)
  | activate draftId activatedBy now =>
    refine settle_grown fun _ done => ?_
    obtain ⟨_, _, rfl⟩ := activateConstitution_ok done
    exact .of_update rfl fun _ => rfl
  | amend => exact settled_grown fun _ _ done => amendConstitution_grown done
  | reset confirmation => exact absurd rfl (standing confirmation)
  | _ => exact .of_goals (apart (by simp [Op.writes])).goals

theorem perform_digested {op : Op} (digested : s.Digested) (read : ∀ seen ∈ op.reads, seen.Digested) :
    (s.perform env op).Digested := by
  by_cases resets : ∃ confirmation, op = .reset confirmation
  · obtain ⟨confirmation, rfl⟩ := resets
    by_cases exactly : confirmation = "RESET LODESTAR"
    · have emptied : s.perform env (.reset confirmation) = s.cleared := by
        simp only [perform, resetDatabase, exactly, ne_eq, not_true_eq_false, if_false, settle]
      rw [emptied]
      intro imprint member
      cases member
    · have stands : s.perform env (.reset confirmation) = s := by
        simp only [perform, resetDatabase, ne_eq, exactly, not_false_eq_true, if_true, settle]
      rwa [stands]
  · exact (perform_grown read fun confirmation same => resets ⟨confirmation, same⟩).digested digested

theorem visited_digested {history : List (Entry Store Op)} (run : (localStore env).Run history s) :
    ∀ seen ∈ (localStore env).visited history, seen.Digested := by
  induction run with
  | start =>
    intro seen member
    cases mem_singleton.mp member
    intro imprint absent
    cases absent
  | step past op ready ih =>
    intro seen member
    rcases mem_cons.mp member with rfl | earlier
    · exact perform_digested (ih _ past.current_visited) fun read member => ih read (ready.1 read member)
    · exact ih seen earlier

theorem run_grown {later past : List (Entry Store Op)} {first last : Store}
    (run : (localStore env).Run (later ++ past) last) (standing : ∀ entry ∈ later, ∀ confirmation, entry.op ≠ .reset confirmation)
    (reached : ∀ middle, (localStore env).Run past middle → first.Grown middle) : first.Grown last := by
  refine run.since first.Grown (fun _ op => (∀ seen ∈ op.reads, seen.Digested) ∧ ∀ confirmation, op ≠ .reset confirmation)
    reached ?_ ?_
  · intro entry member
    obtain ⟨before, ready, known⟩ := run.entry_ready (mem_append_left _ member)
    exact ⟨fun seen read => visited_digested run seen (known (ready.1 seen read)), standing entry member⟩
  · exact fun before op met earlier => earlier.trans (perform_grown met.1 met.2)

end Store

namespace ExternalGoalImportResult

def tallied (outcomes : List ExternalGoalImportOutcome) : ExternalGoalImportResult where
  outcomes := outcomes
  created := outcomes.countP fun outcome => decide (outcome.disposition = .created)
  unchanged := outcomes.countP fun outcome => decide (outcome.disposition = .unchanged)
  skipped := outcomes.countP fun outcome => decide (outcome.disposition = .skipped)
  conflicts := outcomes.countP fun outcome => decide (outcome.disposition = .conflict)

theorem tallied_sum (outcomes : List ExternalGoalImportOutcome) :
    (tallied outcomes).created + (tallied outcomes).unchanged + (tallied outcomes).skipped +
      (tallied outcomes).conflicts = outcomes.length := by
  induction outcomes with
  | nil => rfl
  | cons outcome rest ih =>
    simp only [tallied, countP_cons, length_cons] at ih ⊢
    cases outcome.disposition <;> simp <;> omega

end ExternalGoalImportResult

/-- What becomes of the record when it comes again: a goal it made is there now. -/
def ExternalGoalImportOutcome.again (outcome : ExternalGoalImportOutcome) : ExternalGoalImportOutcome :=
  if outcome.disposition = .created then { outcome with disposition := .unchanged } else outcome

def ExternalGoalImportResult.again (result : ExternalGoalImportResult) : ExternalGoalImportResult :=
  .tallied (result.outcomes.map ExternalGoalImportOutcome.again)

def ExternalGoalRecord.accepted (record : ExternalGoalRecord) : Prop := Text.trim record.status = "accepted"

instance (record : ExternalGoalRecord) : Decidable record.accepted :=
  inferInstanceAs (Decidable (Text.trim record.status = "accepted"))

namespace Store
variable {records : List ExternalGoalRecord}

variable {record : ExternalGoalRecord}

def reportOf (s : Store) (sourceSystem : String) (record : ExternalGoalRecord) : Option ExternalGoalImportOutcome :=
  let externalId := Text.trim record.externalId
  if record.accepted then (s.known sourceSystem externalId).map fun imprint =>
    ⟨externalId, if imprint.sourceDigest = some (Text.trim record.sourceDigest) then .unchanged else .conflict,
      some imprint.id⟩
  else some ⟨externalId, .skipped, none⟩

def Free (env : Env) (s : Store) (sourceSystem : String) (record : ExternalGoalRecord) : Prop :=
  s.reportOf sourceSystem record = none →
    s.goalExists (externalGoalId env sourceSystem (Text.trim record.externalId)) = false

theorem reportOf_grown (grown : s.Grown after) {outcome : ExternalGoalImportOutcome}
    (answered : s.reportOf sourceSystem record = some outcome) : after.reportOf sourceSystem record = some outcome := by
  unfold reportOf at answered ⊢
  dsimp only at answered ⊢
  split
  next accepted =>
    rw [if_pos accepted] at answered
    obtain ⟨imprint, there, same⟩ := Option.map_eq_some_iff.mp answered
    rw [known_of_grown grown.grew there, Option.map_some, same]
  next other => rwa [if_neg other] at answered

theorem reportOf_again {outcome : ExternalGoalImportOutcome} (answered : s.reportOf sourceSystem record = some outcome) :
    outcome.again = outcome := by
  unfold reportOf at answered
  split at answered
  next =>
    obtain ⟨imprint, _, rfl⟩ := Option.map_eq_some_iff.mp answered
    by_cases same : imprint.sourceDigest = some (trim record.sourceDigest)
    · rw [if_pos same]
      rfl
    · rw [if_neg same]
      rfl
  next =>
    cases answered
    rfl

def creation (env : Env) (sourceSystem : String) (record : ExternalGoalRecord) : ExternalGoalImportOutcome :=
  ⟨Text.trim record.externalId, .created, some (externalGoalId env sourceSystem (Text.trim record.externalId))⟩

theorem importOne_eq (digested : s.Digested) (outcomes : List ExternalGoalImportOutcome) :
    importOne env sourceSystem now s (.tallied outcomes) record =
      match s.reportOf sourceSystem record with
      | some outcome => .ok (.tallied (outcomes ++ [outcome]), s)
      | none => (s.insertGoalOn (importedGoal env sourceSystem record now)).map fun after =>
          (.tallied (outcomes ++ [creation env sourceSystem record]), after) := by
  have pushed (outcome : ExternalGoalImportOutcome) : ExternalGoalImportResult.tallied (outcomes ++ [outcome]) =
      { outcomes := outcomes ++ [outcome]
        created := (ExternalGoalImportResult.tallied outcomes).created + if outcome.disposition = .created then 1 else 0
        unchanged := (ExternalGoalImportResult.tallied outcomes).unchanged + if outcome.disposition = .unchanged then 1 else 0
        skipped := (ExternalGoalImportResult.tallied outcomes).skipped + if outcome.disposition = .skipped then 1 else 0
        conflicts := (ExternalGoalImportResult.tallied outcomes).conflicts +
          if outcome.disposition = .conflict then 1 else 0 } := by
    simp [ExternalGoalImportResult.tallied, countP_append, countP_singleton]
  have knows := s.importedAs_known sourceSystem (trim record.externalId)
  unfold importOne reportOf
  by_cases accepted : record.accepted
  · have passes : ¬trim record.status ≠ "accepted" := not_not.mpr accepted
    simp only [if_neg passes, if_pos accepted]
    cases there : s.importedAs sourceSystem (trim record.externalId) with
    | none =>
      rw [there, Option.map_none] at knows
      rw [← knows, Option.map_none, pushed]
      cases inserted : s.insertGoalOn (importedGoal env sourceSystem record now) <;> rfl
    | some existing =>
      rw [there, Option.map_some] at knows
      obtain ⟨member, sourced, _⟩ := known_names knows.symm
      have present := digested _ member (by rw [sourced]; nofun)
      obtain ⟨digest, found⟩ := Option.ne_none_iff_exists'.mp present
      have read : existing.sourceDigest = some digest := found
      rw [← knows, Option.map_some]
      simp only [read, found, Option.some.injEq]
      split
      · rw [pushed]
        rfl
      · rw [pushed]
        rfl
  · have fails : trim record.status ≠ "accepted" := accepted
    simp only [if_pos fails, if_neg accepted, pushed]
    rfl

theorem reportOf_eq_none : s.reportOf sourceSystem record = none ↔
    record.accepted ∧ s.known sourceSystem (trim record.externalId) = none := by
  unfold reportOf
  split
  next accepted => simp [accepted]
  next other => simp [other]

theorem importRecord_eq : importRecord env sourceSystem now s record =
    match s.reportOf sourceSystem record with
    | some _ => .ok s
    | none => s.insertGoalOn (importedGoal env sourceSystem record now) := by
  have knows := congrArg Option.isSome (s.importedAs_known sourceSystem (trim record.externalId))
  rw [Option.isSome_map, importedAs, isSome_find?] at knows
  unfold importRecord
  dsimp only
  rw [knows]
  cases answered : s.reportOf sourceSystem record with
  | none =>
    obtain ⟨accepted, unknown⟩ := reportOf_eq_none.mp answered
    have passes : ¬trim record.status ≠ "accepted" := not_not.mpr accepted
    rw [if_neg passes, unknown]
    rfl
  | some outcome =>
    by_cases accepted : record.accepted
    · have passes : ¬trim record.status ≠ "accepted" := not_not.mpr accepted
      rw [if_neg passes]
      have there : s.known sourceSystem (trim record.externalId) ≠ none := fun unknown => by
        rw [reportOf_eq_none.mpr ⟨accepted, unknown⟩] at answered
        cases answered
      rw [if_pos (Option.isSome_iff_ne_none.mpr there)]
    · exact if_pos accepted

theorem inserted_report (unknown : s.reportOf sourceSystem record = none)
    (inserted : s.insertGoalOn (importedGoal env sourceSystem record now) = .ok after) :
    after.reportOf sourceSystem record = some (creation env sourceSystem record).again := by
  obtain ⟨accepted, absent⟩ := reportOf_eq_none.mp unknown
  have named : after.known sourceSystem (trim record.externalId) =
      some (importedGoal env sourceSystem record now).imprint := by
    unfold known at absent ⊢
    rw [inserted_imprints (insertGoalOn_ok inserted).goals, List.find?_append, absent, Option.none_or]
    exact List.find?_cons_of_pos (decide_eq_true ⟨rfl, rfl⟩)
  have same : (importedGoal env sourceSystem record now).imprint.sourceDigest = some (trim record.sourceDigest) := rfl
  unfold reportOf
  rw [if_pos accepted, named, Option.map_some, if_pos same]
  rfl

theorem importRecords_cons (digested : s.Digested) (rest : List ExternalGoalRecord)
    (outcomes : List ExternalGoalImportOutcome) :
    importRecords env sourceSystem now (record :: rest) (.tallied outcomes) s =
      match s.reportOf sourceSystem record with
      | some outcome => importRecords env sourceSystem now rest (.tallied (outcomes ++ [outcome])) s
      | none => match s.insertGoalOn (importedGoal env sourceSystem record now) with
        | .error failure => (.error failure, s)
        | .ok after =>
          importRecords env sourceSystem now rest (.tallied (outcomes ++ [creation env sourceSystem record])) after := by
  rw [importRecords, importOne_eq digested]
  cases s.reportOf sourceSystem record with
  | some outcome => rfl
  | none => cases s.insertGoalOn (importedGoal env sourceSystem record now) <;> rfl

theorem inserted_grown (inserted : s.insertGoalOn (importedGoal env sourceSystem record now) = .ok after) : s.Grown after :=
  .of_inserted (insertGoalOn_ok inserted).goals fun _ => nofun

/-- A loop that came through made one outcome a record, each what the store now
answers for it, but for the goals it made itself. -/
theorem importRecords_ok {outcomes : List ExternalGoalImportOutcome} {result : ExternalGoalImportResult}
    (digested : s.Digested)
    (done : importRecords env sourceSystem now records (.tallied outcomes) s = (.ok result, after)) :
    s.Grown after ∧ ∃ news, result = .tallied (outcomes ++ news) ∧
      List.Forall₂ (fun record outcome => after.reportOf sourceSystem record = some outcome.again) records news := by
  induction records generalizing s outcomes with
  | nil =>
    cases done
    exact ⟨.refl _, [], by rw [append_nil], .nil⟩
  | cons record rest ih =>
    rw [importRecords_cons digested] at done
    cases answered : s.reportOf sourceSystem record with
    | some outcome =>
      rw [answered] at done
      obtain ⟨grown, news, rfl, each⟩ := ih digested done
      refine ⟨grown, outcome :: news, by rw [append_assoc, singleton_append], .cons ?_ each⟩
      rw [reportOf_again answered]
      exact reportOf_grown grown answered
    | none =>
      rw [answered] at done
      cases inserted : s.insertGoalOn (importedGoal env sourceSystem record now) with
      | error failure =>
        rw [inserted] at done
        cases done
      | ok middle =>
        rw [inserted] at done
        have first := inserted_grown inserted
        obtain ⟨grown, news, rfl, each⟩ := ih (first.digested digested) done
        refine ⟨first.trans grown, creation env sourceSystem record :: news, by rw [append_assoc, singleton_append],
          .cons ?_ each⟩
        exact reportOf_grown grown (inserted_report answered inserted)

theorem importRecords_answered {outcomes answers : List ExternalGoalImportOutcome} (digested : s.Digested)
    (each : List.Forall₂ (fun record outcome => s.reportOf sourceSystem record = some outcome) records answers) :
    importRecords env sourceSystem now records (.tallied outcomes) s = (.ok (.tallied (outcomes ++ answers)), s) := by
  induction each generalizing outcomes with
  | nil =>
    rw [append_nil]
    rfl
  | @cons record outcome rest others here _ ih =>
    rw [importRecords_cons digested, here]
    simp only [ih, append_assoc, singleton_append]

section
variable {otherSystem otherId : String}
variable {id : String}

def pairName (sourceSystem externalId : String) : String := s!"{sourceSystem}:{externalId}"

theorem pairName_inj (same : pairName sourceSystem externalId = pairName sourceSystem otherId) : externalId = otherId :=
  (String.append_right_inj _).mp same

theorem externalGoalId_inj (collisionFree : Function.Injective env.shortHash)
    (same : externalGoalId env sourceSystem externalId = externalGoalId env otherSystem otherId) :
    pairName sourceSystem externalId = pairName otherSystem otherId :=
  collisionFree ((String.append_right_inj _).mp same)

theorem goalExists_imprint : s.goalExists id = true ↔ ∃ imprint ∈ s.imprints, imprint.id = id := by
  unfold goalExists imprints
  rw [Option.isSome_iff_exists]
  constructor
  · rintro ⟨row, found⟩
    obtain ⟨member, named⟩ := mem_of_find? found
    exact ⟨row.imprint, mem_map_of_mem member, named⟩
  · rintro ⟨imprint, member, named⟩
    obtain ⟨row, inside, rfl⟩ := mem_map.mp member
    exact ⟨row, find?_eq_some_iff.mpr ⟨inside, named⟩⟩

theorem goalExists_inserted (inserted : s.insertGoalOn (importedGoal env sourceSystem record now) = .ok after) :
    after.goalExists id = true ↔
      s.goalExists id = true ∨ id = externalGoalId env sourceSystem (trim record.externalId) := by
  rw [goalExists_imprint, goalExists_imprint, inserted_imprints (insertGoalOn_ok inserted).goals]
  simp only [mem_append, mem_singleton, or_and_right, exists_or, exists_eq_left]
  exact or_congr_right eq_comm

theorem known_elsewhere (inserted : s.insertGoalOn (importedGoal env sourceSystem record now) = .ok after)
    (other : otherId ≠ trim record.externalId) : after.known sourceSystem otherId = s.known sourceSystem otherId := by
  unfold known
  rw [inserted_imprints (insertGoalOn_ok inserted).goals, List.find?_append]
  have out : ¬Imprint.names sourceSystem otherId (importedGoal env sourceSystem record now).imprint = true := fun named =>
    other (Option.some.inj (of_decide_eq_true named).2).symm
  rw [List.find?_cons_of_neg out, List.find?_nil, Option.or_none]

theorem inserted_iff (env : Env) (now : Int) (unknown : s.reportOf sourceSystem record = none) :
    (∃ after, s.insertGoalOn (importedGoal env sourceSystem record now) = .ok after) ↔
      s.goalExists (externalGoalId env sourceSystem (trim record.externalId)) = false := by
  have absent := (reportOf_eq_none.mp unknown).2
  rw [← s.importedAs_known, Option.map_eq_none_iff] at absent
  have fresh : (s.goals.rows.any fun row => decide (row.sourceSystem = (importedGoal env sourceSystem record now).sourceSystem ∧
      row.externalId = (importedGoal env sourceSystem record now).externalId)) = false := by
    rw [← isSome_find?]
    exact Option.isSome_eq_false_iff.mpr (Option.isNone_iff_eq_none.mpr absent)
  unfold insertGoalOn
  simp only [fresh, Bool.and_false, Bool.false_eq_true, if_false]
  constructor
  · rintro ⟨after, inserted⟩
    split at inserted
    · cases inserted
    rename_i goals written
    have none_there := (insert?_rows written).2
    exact Option.isSome_eq_false_iff.mpr (Option.isNone_iff_eq_none.mpr none_there)
  · intro free
    have unheld : s.goals.find? (Row.key ({ toGoal := importedGoal env sourceSystem record now } : GoalRow)) = none :=
      Option.isNone_iff_eq_none.mp (Option.isSome_eq_false_iff.mp free)
    obtain ⟨goals, written⟩ := insert?_of_fresh unheld
    rw [written]
    exact ⟨_, rfl⟩

theorem free_elsewhere (collisionFree : Function.Injective env.shortHash) {other : ExternalGoalRecord}
    (apart : trim other.externalId ≠ trim record.externalId)
    (inserted : s.insertGoalOn (importedGoal env sourceSystem record now) = .ok after) :
    after.Free env sourceSystem other ↔ s.Free env sourceSystem other := by
  unfold Free
  rw [reportOf_eq_none, reportOf_eq_none, known_elsewhere inserted apart]
  refine imp_congr_right fun _ => ?_
  rw [← Bool.not_eq_true, ← Bool.not_eq_true, goalExists_inserted inserted]
  have own : ¬externalGoalId env sourceSystem (trim other.externalId) =
      externalGoalId env sourceSystem (trim record.externalId) := fun same =>
    apart (pairName_inj (externalGoalId_inj collisionFree same))
  rw [or_iff_left own]

/-- A batch of distinct ids comes through exactly where nothing else holds the id
of one of its new goals. -/
theorem importRecords_ok_iff (collisionFree : Function.Injective env.shortHash) {records : List ExternalGoalRecord}
    {outcomes : List ExternalGoalImportOutcome} (digested : s.Digested)
    (distinct : (records.map fun record => trim record.externalId).Nodup) :
    (∃ result, (importRecords env sourceSystem now records (.tallied outcomes) s).1 = .ok result) ↔
      ∀ record ∈ records, s.Free env sourceSystem record := by
  induction records generalizing s outcomes with
  | nil => exact ⟨fun _ _ absent => absurd absent not_mem_nil, fun _ => ⟨_, rfl⟩⟩
  | cons record rest ih =>
    rw [map_cons, nodup_cons] at distinct
    obtain ⟨fresh, others⟩ := distinct
    have apart (other : ExternalGoalRecord) (member : other ∈ rest) :
        trim other.externalId ≠ trim record.externalId :=
      fun same => fresh (mem_map.mpr ⟨other, member, same⟩)
    rw [importRecords_cons digested, forall_mem_cons]
    cases answered : s.reportOf sourceSystem record with
    | some outcome =>
      have free : s.Free env sourceSystem record := fun unknown => by
        cases answered.symm.trans unknown
      exact (ih digested others).trans ⟨fun each => ⟨free, each⟩, And.right⟩
    | none =>
      have head := inserted_iff env now answered
      cases inserted : s.insertGoalOn (importedGoal env sourceSystem record now) with
      | error failure =>
        constructor
        · rintro ⟨_, done⟩
          cases done
        · rintro ⟨free, _⟩
          obtain ⟨_, done⟩ := head.mpr (free answered)
          cases inserted.symm.trans done
      | ok middle =>
        have free : s.Free env sourceSystem record := fun _ => head.mp ⟨middle, inserted⟩
        refine (ih ((inserted_grown inserted).digested digested) others).trans ?_
        constructor
        · exact fun each => ⟨free, fun other member =>
            (free_elsewhere collisionFree (apart other member) inserted).mp (each other member)⟩
        · exact fun each other member =>
            (free_elsewhere collisionFree (apart other member) inserted).mpr (each.2 other member)

theorem importRecords_ids {records : List ExternalGoalRecord} {outcomes : List ExternalGoalImportOutcome}
    {result : ExternalGoalImportResult} (digested : s.Digested)
    (done : importRecords env sourceSystem now records (.tallied outcomes) s = (.ok result, after))
    (there : after.goalExists id = true) : s.goalExists id = true ∨ ∃ record ∈ records, record.accepted ∧
      id = externalGoalId env sourceSystem (trim record.externalId) ∧
      after.known sourceSystem (trim record.externalId) ≠ none := by
  induction records generalizing s outcomes with
  | nil =>
    cases done
    exact .inl there
  | cons record rest ih =>
    rw [importRecords_cons digested] at done
    cases answered : s.reportOf sourceSystem record with
    | some outcome =>
      rw [answered] at done
      rcases ih digested done with old | ⟨other, member, made⟩
      · exact .inl old
      · exact .inr ⟨other, mem_cons_of_mem _ member, made⟩
    | none =>
      rw [answered] at done
      cases inserted : s.insertGoalOn (importedGoal env sourceSystem record now) with
      | error failure =>
        rw [inserted] at done
        cases done
      | ok middle =>
        rw [inserted] at done
        have sound := (inserted_grown inserted).digested digested
        rcases ih sound done with old | ⟨other, member, made⟩
        · rcases (goalExists_inserted inserted).mp old with older | rfl
          · exact .inl older
          · have accepted := (reportOf_eq_none.mp answered).1
            refine .inr ⟨record, mem_cons_self, accepted, rfl, fun unknown => ?_⟩
            have lost := reportOf_grown (importRecords_ok sound done).1 (inserted_report answered inserted)
            rw [reportOf_eq_none.mpr ⟨accepted, unknown⟩] at lost
            cases lost
        · exact .inr ⟨other, mem_cons_of_mem _ member, made⟩

end

theorem importRecords_folds (outcomes : List ExternalGoalImportOutcome) (digested : s.Digested) :
    records.foldlM (importRecord env sourceSystem now) s =
      (importRecords env sourceSystem now records (.tallied outcomes) s).1.map fun _ =>
        (importRecords env sourceSystem now records (.tallied outcomes) s).2 := by
  induction records generalizing s outcomes with
  | nil => rfl
  | cons record rest ih =>
    rw [foldlM_cons, importRecord_eq, importRecords_cons digested]
    cases s.reportOf sourceSystem record with
    | some outcome => exact ih _ digested
    | none =>
      cases inserted : s.insertGoalOn (importedGoal env sourceSystem record now) with
      | error failure => rfl
      | ok middle => exact ih _ ((inserted_grown inserted).digested digested)

structure WellFormed (sourceSystem : String) (records : List ExternalGoalRecord) : Prop where
  named : (Text.trim sourceSystem).isEmpty = false
  filled : ∀ record ∈ records, blankRecord record = false
  distinct : (records.map fun record => Text.trim record.externalId).Nodup

theorem validateRecords_iff {identities : List String} :
    validateRecords identities records = .ok () ↔ (∀ record ∈ records, blankRecord record = false) ∧
      (records.map fun record => trim record.externalId).Nodup ∧
      ∀ record ∈ records, trim record.externalId ∉ identities := by
  induction records generalizing identities with
  | nil => simp [validateRecords]
  | cons record rest ih =>
    unfold validateRecords
    dsimp only
    split
    next blank => simp [blank]
    next filled =>
      split
      next repeats => simp [repeats]
      next fresh =>
        rw [ih, forall_mem_cons, map_cons, nodup_cons, forall_mem_cons]
        simp only [mem_map, not_exists, not_and, mem_cons, not_or]
        constructor
        · rintro ⟨others, distinct, outside⟩
          exact ⟨⟨Bool.eq_false_iff.mpr filled, others⟩, ⟨fun other member => (outside other member).1, distinct⟩, fresh,
            fun other member => (outside other member).2⟩
        · rintro ⟨⟨_, others⟩, ⟨first, distinct⟩, _, outside⟩
          exact ⟨others, distinct, fun other member => ⟨first other member, outside other member⟩⟩

section
variable {result : ExternalGoalImportResult}

theorem importExternalGoalsResult_of (formed : WellFormed sourceSystem records) :
    s.importExternalGoalsResult env sourceSystem records now =
      s.transacted (importRecords env (trim sourceSystem) now records (.tallied []) s) := by
  have passed : validateRecords [] records = .ok () :=
    validateRecords_iff.mpr ⟨formed.filled, formed.distinct, fun _ _ => not_mem_nil⟩
  unfold importExternalGoalsResult
  dsimp only
  rw [formed.named, if_neg Bool.false_ne_true, passed]
  rfl

theorem importExternalGoalsResult_malformed (env : Env) (s : Store) (now : Int) (malformed : ¬WellFormed sourceSystem records) :
    ∃ failure, s.importExternalGoalsResult env sourceSystem records now = (.error failure, s) := by
  unfold importExternalGoalsResult
  dsimp only
  split
  next => exact ⟨_, rfl⟩
  next named =>
    split
    next => exact ⟨_, rfl⟩
    next passed =>
      obtain ⟨filled, distinct, _⟩ := validateRecords_iff.mp passed
      exact absurd ⟨Bool.eq_false_iff.mpr named, filled, distinct⟩ malformed

theorem transacted_error {α : Type} {ran : Result α × Store} {failure : LodestarError}
    (failed : (s.transacted ran).1 = .error failure) : (s.transacted ran).2 = s := by
  rcases ran with ⟨refused | value, working⟩
  · rfl
  · cases failed

theorem transacted_ok {α : Type} {ran : Result α × Store} {value : α} :
    s.transacted ran = (.ok value, after) ↔ ran = (.ok value, after) := by
  rcases ran with ⟨refused | value, working⟩
  · simp [transacted]
  · rfl

theorem importExternalGoalsResult_ok :
    s.importExternalGoalsResult env sourceSystem records now = (.ok result, after) ↔ WellFormed sourceSystem records ∧
      importRecords env (trim sourceSystem) now records (.tallied []) s = (.ok result, after) := by
  by_cases formed : WellFormed sourceSystem records
  · rw [importExternalGoalsResult_of formed, transacted_ok, and_iff_right formed]
  · obtain ⟨failure, refused⟩ := importExternalGoalsResult_malformed env s now formed
    simp [refused, formed]

theorem importExternalGoalsResult_error {failure : LodestarError}
    (failed : (s.importExternalGoalsResult env sourceSystem records now).1 = .error failure) :
    (s.importExternalGoalsResult env sourceSystem records now).2 = s := by
  by_cases formed : WellFormed sourceSystem records
  · rw [importExternalGoalsResult_of formed] at failed ⊢
    exact transacted_error failed
  · obtain ⟨refused, same⟩ := importExternalGoalsResult_malformed env s now formed
    rw [same]

theorem perform_import (digested : s.Digested) : s.perform env (.importGoals sourceSystem records now) =
    (s.importExternalGoalsResult env sourceSystem records now).2 := by
  have folds : records.foldlM (importRecord env (trim sourceSystem) now) s =
      (importRecords env (trim sourceSystem) now records (.tallied []) s).1.map fun _ =>
        (importRecords env (trim sourceSystem) now records (.tallied []) s).2 := importRecords_folds [] digested
  unfold perform importExternalGoals importExternalGoalsResult
  simp only [throw_eq, error_bind]
  split
  next => rfl
  next =>
    cases validateRecords [] records with
    | error failure => rfl
    | ok passed =>
      rw [folds]
      change _ = (s.transacted (importRecords env (trim sourceSystem) now records (.tallied []) s)).2
      rcases importRecords env (trim sourceSystem) now records (.tallied []) s with ⟨refused | value, working⟩ <;> rfl

theorem importExternalGoalsResult_again {last : Store} (digested : s.Digested)
    (done : s.importExternalGoalsResult env sourceSystem records now = (.ok result, after)) (grown : after.Grown last)
    (again : Int) : last.importExternalGoalsResult env sourceSystem records again = (.ok result.again, last) := by
  obtain ⟨formed, ran⟩ := importExternalGoalsResult_ok.mp done
  obtain ⟨first, news, rfl, each⟩ := importRecords_ok digested ran
  refine importExternalGoalsResult_ok.mpr ⟨formed, ?_⟩
  refine importRecords_answered ((first.trans grown).digested digested) (forall₂_map_right_iff.mpr (each.imp ?_))
  exact fun record outcome answered => reportOf_grown grown answered

theorem importExternalGoalsResult_counts (digested : s.Digested)
    (done : s.importExternalGoalsResult env sourceSystem records now = (.ok result, after)) :
    result = .tallied result.outcomes ∧
      result.created + result.unchanged + result.skipped + result.conflicts = records.length := by
  obtain ⟨_, news, rfl, each⟩ := importRecords_ok digested (importExternalGoalsResult_ok.mp done).2
  refine ⟨rfl, ?_⟩
  rw [ExternalGoalImportResult.tallied_sum, nil_append]
  exact each.length_eq.symm

theorem importExternalGoalsResult_ok_iff (collisionFree : Function.Injective env.shortHash) (digested : s.Digested) :
    (∃ result, (s.importExternalGoalsResult env sourceSystem records now).1 = .ok result) ↔
      WellFormed sourceSystem records ∧ ∀ record ∈ records, s.Free env (trim sourceSystem) record := by
  by_cases formed : WellFormed sourceSystem records
  · rw [and_iff_right formed, ← importRecords_ok_iff collisionFree digested formed.distinct,
      importExternalGoalsResult_of formed]
    rcases importRecords env (trim sourceSystem) now records (.tallied []) s with ⟨refused | value, working⟩ <;> rfl
  · obtain ⟨failure, refused⟩ := importExternalGoalsResult_malformed env s now formed
    simp [refused, formed]

end

section

structure ExternalGoalBatch where
  sourceSystem : String
  records : List ExternalGoalRecord
  now : Int

namespace ExternalGoalBatch

def WellFormed (batch : ExternalGoalBatch) : Prop := Store.WellFormed batch.sourceSystem batch.records

def pairs (batch : ExternalGoalBatch) : List (String × String) :=
  (batch.records.filter fun record => decide record.accepted).map fun record =>
    (Text.trim batch.sourceSystem, Text.trim record.externalId)

end ExternalGoalBatch

inductive AllImported (env : Env) : List ExternalGoalBatch → Store → Store → Prop
  | nil (s : Store) : AllImported env [] s s
  | cons {batch : ExternalGoalBatch} {rest : List ExternalGoalBatch} {s middle after : Store} {result : ExternalGoalImportResult}
      (imported : s.importExternalGoalsResult env batch.sourceSystem batch.records batch.now = (.ok result, middle))
      (others : AllImported env rest middle after) : AllImported env (batch :: rest) s after

theorem known_apart {first second : String × String} (other : first ≠ second) {one two : Imprint}
    (here : s.known first.1 first.2 = some one) (there : s.known second.1 second.2 = some two) : one.id ≠ two.id := by
  obtain ⟨inside, system, external⟩ := known_names here
  obtain ⟨within, system', external'⟩ := known_names there
  obtain ⟨row, member, rfl⟩ := mem_map.mp inside
  obtain ⟨row', member', rfl⟩ := mem_map.mp within
  intro same
  have alike : row = row' := Option.some.inj ((find?_of_mem member).symm.trans
    ((congrArg s.goals.find? same).trans (find?_of_mem member')))
  subst alike
  exact other (Prod.ext (Option.some.inj (system.symm.trans system')) (Option.some.inj (external.symm.trans external')))

theorem free_after (collisionFree : Function.Injective env.shortHash) (digested : s.Digested)
    {batch : ExternalGoalBatch} {result : ExternalGoalImportResult}
    (imported : s.importExternalGoalsResult env batch.sourceSystem batch.records batch.now = (.ok result, after))
    (apart : record.accepted → ∀ pair ∈ batch.pairs, pair.1 ≠ sourceSystem →
      pairName pair.1 pair.2 ≠ pairName sourceSystem (trim record.externalId))
    (free : s.Free env sourceSystem record) : after.Free env sourceSystem record := by
  have ran := (importExternalGoalsResult_ok.mp imported).2
  intro unknown
  have new : s.reportOf sourceSystem record = none := by
    cases answered : s.reportOf sourceSystem record with
    | none => rfl
    | some outcome =>
      rw [reportOf_grown (importRecords_ok digested ran).1 answered] at unknown
      cases unknown
  rw [← Bool.not_eq_true]
  intro taken
  rcases importRecords_ids digested ran taken with old | ⟨maker, member, accepted, same, known⟩
  · rw [free new] at old
    cases old
  · have joined := externalGoalId_inj collisionFree same
    by_cases system : trim batch.sourceSystem = sourceSystem
    · subst system
      rw [← pairName_inj joined] at known
      exact known (reportOf_eq_none.mp unknown).2
    · have listed : (trim batch.sourceSystem, trim maker.externalId) ∈ batch.pairs :=
        mem_map.mpr ⟨maker, mem_filter.mpr ⟨member, decide_eq_true accepted⟩, rfl⟩
      exact apart (reportOf_eq_none.mp unknown).1 _ listed system joined.symm

theorem pairs_known (digested : s.Digested) {batch : ExternalGoalBatch} {result : ExternalGoalImportResult}
    (imported : s.importExternalGoalsResult env batch.sourceSystem batch.records batch.now = (.ok result, after)) :
    ∀ pair ∈ batch.pairs, after.known pair.1 pair.2 ≠ none := by
  obtain ⟨_, news, rfl, each⟩ := importRecords_ok digested (importExternalGoalsResult_ok.mp imported).2
  intro pair listed unknown
  obtain ⟨record, member, rfl⟩ := mem_map.mp listed
  obtain ⟨inside, accepted⟩ := mem_filter.mp member
  obtain ⟨place, bound, rfl⟩ := getElem_of_mem inside
  have answered := each.get bound (each.length_eq ▸ bound)
  rw [get_eq_getElem, reportOf_eq_none.mpr ⟨of_decide_eq_true accepted, unknown⟩] at answered
  cases answered

theorem allImported (collisionFree : Function.Injective env.shortHash) {batches : List ExternalGoalBatch} (digested : s.Digested)
    (formed : ∀ batch ∈ batches, batch.WellFormed)
    (apart : ∀ one ∈ batches.flatMap ExternalGoalBatch.pairs, ∀ other ∈ batches.flatMap ExternalGoalBatch.pairs,
      one.1 ≠ other.1 → pairName one.1 one.2 ≠ pairName other.1 other.2)
    (free : ∀ batch ∈ batches, ∀ record ∈ batch.records, s.Free env (trim batch.sourceSystem) record) :
    ∃ after, AllImported env batches s after ∧ s.Grown after ∧
      ∀ pair ∈ batches.flatMap ExternalGoalBatch.pairs, after.known pair.1 pair.2 ≠ none := by
  induction batches generalizing s with
  | nil => exact ⟨s, .nil s, .refl s, fun _ absent => absurd absent not_mem_nil⟩
  | cons batch rest ih =>
    rw [forall_mem_cons] at formed free
    have whole : ∃ result, (s.importExternalGoalsResult env batch.sourceSystem batch.records batch.now).1 = .ok result :=
      (importExternalGoalsResult_ok_iff collisionFree digested).mpr ⟨formed.1, free.1⟩
    rcases imported : s.importExternalGoalsResult env batch.sourceSystem batch.records batch.now with ⟨failure | result, middle⟩
    · rw [imported] at whole
      obtain ⟨_, impossible⟩ := whole
      cases impossible
    · have grown := (importRecords_ok digested (importExternalGoalsResult_ok.mp imported).2).1
      have listed (pair : String × String) (member : pair ∈ rest.flatMap ExternalGoalBatch.pairs) :
          pair ∈ (batch :: rest).flatMap ExternalGoalBatch.pairs := by
        exact mem_append_right _ member
      have first (pair : String × String) (member : pair ∈ batch.pairs) :
          pair ∈ (batch :: rest).flatMap ExternalGoalBatch.pairs := by
        exact mem_append_left _ member
      obtain ⟨after, others, later, known⟩ := ih (grown.digested digested) formed.2
        (fun one here other there => apart one (listed one here) other (listed other there)) fun later inside record member =>
          free_after collisionFree digested imported (fun accepted pair brought system => by
            refine apart pair (first pair brought) (trim later.sourceSystem, trim record.externalId) (listed _ ?_) system
            exact mem_flatMap.mpr ⟨later, inside,
              mem_map.mpr ⟨record, mem_filter.mpr ⟨member, decide_eq_true accepted⟩, rfl⟩⟩)
            (free.2 later inside record member)
      refine ⟨after, .cons imported others, grown.trans later, fun pair member => ?_⟩
      rw [flatMap_cons, mem_append] at member
      rcases member with here | there
      · obtain ⟨imprint, found⟩ := Option.ne_none_iff_exists'.mp (pairs_known digested imported pair here)
        rw [known_of_grown later.grew found]
        nofun
      · exact known pair there

end

/-- What one import owes its caller: it commits exactly where the batch is well formed
and nothing else holds an id it needs, leaves nothing behind otherwise, counts each
record once, and coming again later alters nothing. -/
structure ImportSettles (env : Env) (history : List (Entry Store Op)) (s : Store) (sourceSystem : String)
    (records : List ExternalGoalRecord) (now : Int) : Prop where
  performs : s.perform env (.importGoals sourceSystem records now) =
    (s.importExternalGoalsResult env sourceSystem records now).2
  commits : (∃ result, (s.importExternalGoalsResult env sourceSystem records now).1 = .ok result) ↔
    WellFormed sourceSystem records ∧ ∀ record ∈ records, s.Free env (Text.trim sourceSystem) record
  atomic : ∀ failure, (s.importExternalGoalsResult env sourceSystem records now).1 = .error failure →
    (s.importExternalGoalsResult env sourceSystem records now).2 = s
  counts : ∀ result after, s.importExternalGoalsResult env sourceSystem records now = (.ok result, after) →
    result = .tallied result.outcomes ∧
      result.created + result.unchanged + result.skipped + result.conflicts = records.length
  again : ∀ result after, s.importExternalGoalsResult env sourceSystem records now = (.ok result, after) →
    ∀ later last, (localStore env).Run (later ++ ⟨s, .importGoals sourceSystem records now, after⟩ :: history) last →
      (∀ entry ∈ later, ∀ confirmation, entry.op ≠ .reset confirmation) →
        ∀ again, last.importExternalGoalsResult env sourceSystem records again = (.ok result.again, last)

def Together (env : Env) (s : Store) (batches : List ExternalGoalBatch) : Prop :=
  ∃ after, AllImported env batches s after ∧ ∀ one ∈ batches.flatMap ExternalGoalBatch.pairs,
    ∃ goal, after.known one.1 one.2 = some goal ∧ ∀ other ∈ batches.flatMap ExternalGoalBatch.pairs, other ≠ one →
      ∀ twin, after.known other.1 other.2 = some twin → twin.id ≠ goal.id

/-- In every run, with a hash that tells texts apart: an import settles, and batches
whose pairs join to different texts come in together where their ids are free. -/
theorem external_imports_settle {env : Env} (collisionFree : Function.Injective env.shortHash)
    {history : List (Entry Store Op)} {s : Store} (run : (localStore env).Run history s) :
    (∀ sourceSystem records now, ImportSettles env history s sourceSystem records now) ∧
      ∀ batches : List ExternalGoalBatch, (∀ batch ∈ batches, batch.WellFormed) →
        (∀ one ∈ batches.flatMap ExternalGoalBatch.pairs, ∀ other ∈ batches.flatMap ExternalGoalBatch.pairs,
          one.1 ≠ other.1 → pairName one.1 one.2 ≠ pairName other.1 other.2) →
        (∀ batch ∈ batches, ∀ record ∈ batch.records, s.Free env (Text.trim batch.sourceSystem) record) →
          s.Together env batches := by
  have digested := visited_digested run s run.current_visited
  constructor
  · intro sourceSystem records now
    refine ⟨perform_import digested, importExternalGoalsResult_ok_iff collisionFree digested,
      fun failure failed => importExternalGoalsResult_error failed,
      fun result after done => importExternalGoalsResult_counts digested done, ?_⟩
    intro result after done later last reached standing again
    refine importExternalGoalsResult_again digested done (run_grown reached standing ?_) again
    intro middle upTo
    cases upTo with
    | step before op ready => exact .refl _
  · intro batches formed apart free
    obtain ⟨after, imported, _, known⟩ := allImported collisionFree digested formed apart free
    refine ⟨after, imported, fun one here => ?_⟩
    obtain ⟨goal, found⟩ := Option.ne_none_iff_exists'.mp (known one here)
    exact ⟨goal, found, fun other _ apart twin there => known_apart apart there found⟩

def acceptedRecord (externalId : String) : ExternalGoalRecord where
  externalId := externalId
  kind := .objective
  title := "Ship"
  statement := "Ship it."
  status := "accepted"
  sourceRef := "adr/1"
  sourceDigest := "d1"

/-- Two systems' batches from empty: three pairs, three goals. -/
theorem external_imports_settle_empty :
    ({} : Store).Together Env.plain [⟨"adr", [acceptedRecord "1", acceptedRecord "2"], 0⟩, ⟨"rfc", [acceptedRecord "1"], 5⟩] := by
  have free (sourceSystem : String) (record : ExternalGoalRecord) : ({} : Store).Free Env.plain sourceSystem record := fun _ => rfl
  refine (external_imports_settle (fun _ _ same => same) (@Machine.Run.start _ _ (localStore Env.plain))).2 _ ?_ ?_
    fun batch _ record _ => free _ record
  · intro batch member
    simp only [mem_cons, not_mem_nil, or_false] at member
    rcases member with rfl | rfl
    · exact ⟨by decide +kernel, by decide +kernel, by decide +kernel⟩
    · exact ⟨by decide +kernel, by decide +kernel, by decide +kernel⟩
  · decide +kernel

/-- A record that is not accepted comes back skipped, and two pairs that join to one
text take one id. -/
theorem external_import_breaks :
    ((({} : Store).importExternalGoalsResult Env.plain "adr" [{ acceptedRecord "1" with status := "proposed" }] 0
        ).2.importExternalGoalsResult Env.plain "adr" [{ acceptedRecord "1" with status := "proposed" }] 1).1.toOption =
      some ⟨[⟨"1", .skipped, none⟩], 0, 0, 1, 0⟩ ∧
    (({} : Store).importExternalGoalsResult Env.plain "a:b" [acceptedRecord "c"] 0).1.toOption =
      some ⟨[⟨"c", .created, some "goal:external-a:b:c"⟩], 1, 0, 0, 0⟩ ∧
    ((({} : Store).importExternalGoalsResult Env.plain "a:b" [acceptedRecord "c"] 0).2.importExternalGoalsResult Env.plain "a"
      [acceptedRecord "b:c"] 1).1 = .error (.sqlite "UNIQUE constraint failed: goals.id") := by
  refine ⟨by decide +kernel, by decide +kernel, by with_unfolding_all rfl⟩

end Store
end MindLeak.Lodestar
