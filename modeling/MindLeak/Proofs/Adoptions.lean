import Mathlib
import MindLeak.Proofs.Governance

/-! Reviews of pack clauses: what one writes, which clause a pack's clause became,
and when at most one stands for it. -/

namespace MindLeak.Lodestar

open List Table Option

def PackClauseProvenance.identity (row : PackClauseProvenance) (constitutionVersion : Option String) : String :=
  row.packId ++ ":" ++ row.packVersion ++ ":" ++ constitutionVersion.getD "" ++ ":" ++ row.clauseKey

namespace Store

variable {env : Env} {s after : Store} {proposal : PackClauseProposal} {selected : PackClause}
  {disposition : PackClauseDisposition} {tailored : Option PackClause} {actor : String} {why : Option String} {now : Int}

structure Adopts (env : Env) (s after : Store) (proposal : PackClauseProposal) (selected : PackClause)
    (why : Option String) (now : Int) (goal : Goal) : Prop where
  unopposed : s.unresolvedConflictsOn proposal.packId proposal.packVersion proposal.constitutionVersion = []
  first : ∀ prior ∈ s.packProvenance.rows, prior.packId = proposal.packId → prior.clauseKey = proposal.clause.key →
    prior.packVersion ≠ proposal.packVersion → ∀ row, s.goals.find? prior.goalId = some row → row.status ≠ .active
  status : s.constitutionStatusOn proposal.constitutionVersion = .ok goal.status
  clause : goal = materializedClause env proposal selected goal.status why now
  goals : s.goals.insert? { toGoal := goal } = some after.goals
  provenance : s.packProvenance.insert? ⟨goal.id, proposal.packId, proposal.packVersion, proposal.packDigest,
    proposal.clause.key, proposal.clause⟩ = some after.packProvenance
  rest : after = { s with goals := after.goals, packProvenance := after.packProvenance }

variable {goal : Goal}

theorem insertGoalOn_only (done : s.insertGoalOn goal = .ok after) :
    s.goals.insert? { toGoal := goal } = some after.goals ∧ after = { s with goals := after.goals } := by
  unfold insertGoalOn at done
  dsimp only at done
  obtain ⟨_, done⟩ := ite_else done
  split at done
  · cases done
  rename_i goals inserted
  cases done
  exact ⟨inserted, rfl⟩

theorem adoptClause_adopts {adopted : Option String}
    (done : s.adoptClause env proposal selected why now = .ok (adopted, after)) :
    ∃ goal, adopted = some goal.id ∧ s.Adopts env after proposal selected why now goal := by
  simp only [adoptClause, throw_eq, error_bind, pure_eq] at done
  obtain ⟨unopposed, done⟩ := ite_else done
  split at done
  · cases done
  rename_i first
  obtain ⟨status, joined, done⟩ := bind_ok done
  obtain ⟨middle, inserted, done⟩ := bind_ok done
  obtain ⟨goals, rest⟩ := insertGoalOn_only inserted
  have same : middle.packProvenance = s.packProvenance := by rw [rest]
  split at done
  · cases done
  rename_i provenance traced
  cases done
  rw [same] at traced
  refine ⟨_, rfl, ?_, ?_, joined, rfl, goals, traced, by rw [rest]⟩
  · simpa using unopposed
  · intro prior member pack key version row found active
    have none_there := List.find?_eq_none.mp first prior member
    simp [pack, key, version, found, active] at none_there

theorem decided_key (disposition : PackClauseDisposition) (actor : String) (why : Option String) (now : Int)
    (adoptedGoalId : Option String) (row : PackClauseProposal) :
    Row.key ({ row with disposition := some disposition, reviewedBy := some actor, reviewReason := why
                        reviewedAt := some now, adoptedGoalId := adoptedGoalId } : PackClauseProposal) = Row.key row := rfl

def decided (s : Store) (proposalId : String) (disposition : PackClauseDisposition) (actor : String)
    (why : Option String) (now : Int) (adoptedGoalId : Option String) : Store :=
  { s with
    packProposals := s.packProposals.update (fun row => decide (row.id = proposalId) && row.disposition.isNone)
      (fun row =>
        { row with
          disposition := some disposition, reviewedBy := some actor, reviewReason := why
          reviewedAt := some now, adoptedGoalId := adoptedGoalId })
      (decided_key disposition actor why now adoptedGoalId) }

/-- A review writes nothing where the proposal was decided so already, else the
decision, behind the clause unless that was rejected. -/
theorem reviewPackClause_cases {proposalId : String}
    (done : s.reviewPackClause env proposalId disposition tailored actor why now = .ok after) :
    ∃ proposal, s.packProposals.find? proposalId = some proposal ∧
      (proposal.disposition = some disposition ∧ after = s ∨ proposal.disposition = none ∧
          (disposition = .rejected ∧ after = s.decided proposalId disposition actor why now none ∨
            disposition ≠ .rejected ∧ ∃ selected goal middle, s.Adopts env middle proposal selected why now goal ∧
              after = middle.decided proposalId disposition actor why now (some goal.id))) := by
  simp only [reviewPackClause, throw_eq, error_bind, pure_eq] at done
  obtain ⟨_, done⟩ := ite_else done
  obtain ⟨_, done⟩ := ite_else done
  split at done
  · cases done
  rename_i proposal found
  refine ⟨proposal, found, ?_⟩
  split at done
  next existing decided =>
    obtain ⟨same, done⟩ := ite_else done
    cases done
    exact .inl ⟨by rw [decided, not_not.mp same], rfl⟩
  next undecided =>
    obtain ⟨selected, _, done⟩ := bind_ok done
    refine .inr ⟨undecided, ?_⟩
    split at done
    next rejects =>
      cases done
      exact .inl ⟨rejects, rfl⟩
    next accepts =>
      obtain ⟨⟨adopted, middle⟩, made, done⟩ := bind_ok done
      cases done
      obtain ⟨goal, rfl, adopts⟩ := adoptClause_adopts made
      exact .inr ⟨accepts, selected, goal, middle, adopts, rfl⟩

def OneAdopted (s : Store) : Prop := ∀ first second, s.Adopted first → s.Adopted second → first = second

structure Singular (env : Env) (s : Store) : Prop where
  one : s.OneAdopted
  there : ∀ origin ∈ s.packProvenance.rows, ∃ row, s.goals.find? origin.goalId = some row ∧
    origin.goalId = "goal:pack-" ++ env.shortHash (origin.identity row.constitutionVersion)
  rooted : ∀ origin ∈ s.packProvenance.rows, ∀ row, s.goals.find? origin.goalId = some row → row.status = .active →
    ∃ id, row.constitutionVersion = some id ∧ s.Adopted id
  alone : ∀ first ∈ s.packProvenance.rows, ∀ second ∈ s.packProvenance.rows, first.packId = second.packId →
    first.clauseKey = second.clauseKey → ∀ one two, s.goals.find? first.goalId = some one →
      s.goals.find? second.goalId = some two → one.constitutionVersion = two.constitutionVersion →
        one.constitutionVersion ≠ none → one.status ≠ .superseded → two.status ≠ .superseded → first = second

def activeGoal (s : Store) (id : String) : Bool := (s.goals.find? id).any fun row => decide (row.status = .active)

def AdoptsOnce (s : Store) : Prop :=
  ∀ first ∈ s.packProvenance.rows, ∀ second ∈ s.packProvenance.rows, first.packId = second.packId →
    first.clauseKey = second.clauseKey → s.activeGoal first.goalId = true → s.activeGoal second.goalId = true → first = second

instance (s : Store) : Decidable s.AdoptsOnce :=
  inferInstanceAs (Decidable (∀ first ∈ s.packProvenance.rows, ∀ second ∈ s.packProvenance.rows, _ → _ → _ → _ → first = second))

theorem activeGoal_row {id : String} (active : s.activeGoal id = true) : ∃ row, s.goals.find? id = some row ∧ row.status = .active := by
  unfold activeGoal at active
  cases found : s.goals.find? id with
  | none =>
    rw [found] at active
    cases active
  | some row =>
    rw [found] at active
    exact ⟨row, rfl, of_decide_eq_true active⟩

theorem Singular.adoptsOnce (singular : s.Singular env) : s.AdoptsOnce := by
  intro first inside second within pack key active active'
  obtain ⟨one, here, governs⟩ := activeGoal_row active
  obtain ⟨two, there, rules⟩ := activeGoal_row active'
  obtain ⟨id, named, adopted⟩ := singular.rooted first inside one here governs
  obtain ⟨id', named', adopted'⟩ := singular.rooted second within two there rules
  have same := singular.one id id' adopted adopted'
  subst same
  exact singular.alone first inside second within pack key one two here there (named.trans named'.symm)
    (by rw [named]; nofun) (by rw [governs]; nofun) (by rw [rules]; nofun)

/-- What an operation that adopts nothing does to one of those goals. -/
structure Restated (s after : Store) (before row : GoalRow) : Prop where
  version : row.constitutionVersion = before.constitutionVersion
  stays : before.status = .superseded → row.status = .superseded
  rooted : row.status = .active → ∃ id, before.constitutionVersion = some id ∧ after.Adopted id

section
variable (singular : s.Singular env)
include singular

/-- An operation that records no adoption keeps all of it, if it keeps one version in
force and restates the goals of the rows there are. -/
theorem Singular.kept (origins : after.packProvenance = s.packProvenance) (one : after.OneAdopted)
    (restated : ∀ origin ∈ s.packProvenance.rows, ∀ before, s.goals.find? origin.goalId = some before →
      ∃ row, after.goals.find? origin.goalId = some row ∧ s.Restated after before row) : after.Singular env := by
  have back {origin : PackClauseProvenance} (member : origin ∈ s.packProvenance.rows) {row : GoalRow}
      (found : after.goals.find? origin.goalId = some row) :
      ∃ before, s.goals.find? origin.goalId = some before ∧ s.Restated after before row := by
    obtain ⟨before, stored, _⟩ := singular.there origin member
    obtain ⟨row', found', moved⟩ := restated origin member before stored
    cases some.inj (found'.symm.trans found)
    exact ⟨before, stored, moved⟩
  refine ⟨one, ?_, ?_, ?_⟩
  · intro origin member
    rw [origins] at member
    obtain ⟨before, stored, named⟩ := singular.there origin member
    obtain ⟨row, found, moved⟩ := restated origin member before stored
    exact ⟨row, found, by rw [moved.version]; exact named⟩
  · intro origin member row found active
    rw [origins] at member
    obtain ⟨before, _, moved⟩ := back member found
    rw [moved.version]
    exact moved.rooted active
  · intro first inside second within pack key one two here there same versioned standing still
    rw [origins] at inside within
    obtain ⟨old, stored, moved⟩ := back inside here
    obtain ⟨older, kept, moved'⟩ := back within there
    exact singular.alone first inside second within pack key old older stored kept
      (moved.version.symm.trans (same.trans moved'.version)) (moved.version ▸ versioned)
      (fun gone => standing (moved.stays gone)) fun gone => still (moved'.stays gone)

theorem Singular.framed (origins : after.packProvenance = s.packProvenance)
    (adopted : ∀ id, after.Adopted id ↔ s.Adopted id)
    (rows : ∀ origin ∈ s.packProvenance.rows, after.goals.find? origin.goalId = s.goals.find? origin.goalId) :
    after.Singular env := by
  refine singular.kept origins ?_ fun origin member before stored => ⟨before, (rows origin member).trans stored, rfl, id, ?_⟩
  · intro first second left right
    exact singular.one first second ((adopted first).mp left) ((adopted second).mp right)
  · intro active
    obtain ⟨id, named, inForce⟩ := singular.rooted origin member before stored active
    exact ⟨id, named, (adopted id).mpr inForce⟩

theorem Singular.inserted
    (inserted : s.goals.insert? { toGoal := goal } = some after.goals)
    (versions : after.constitutionVersions = s.constitutionVersions)
    (origins : after.packProvenance = s.packProvenance) : after.Singular env := by
  refine singular.framed origins (adopted_frame versions) fun origin member => ?_
  obtain ⟨before, stored, _⟩ := singular.there origin member
  have fresh := (insert?_rows inserted).2
  rw [find?_insert inserted, if_neg]
  intro same
  rw [same, stored] at fresh
  cases fresh

theorem Singular.edited (edited : s.Edited after)
    (origins : after.packProvenance = s.packProvenance) : after.Singular env := by
  obtain ⟨⟨selects, set, keeps, goals, each⟩, versions, _, _⟩ := edited
  refine singular.kept origins ?_ fun origin member before stored => ?_
  · intro first second left right
    exact singular.one first second ((adopted_frame versions first).mp left) ((adopted_frame versions second).mp right)
  · have rooted (active : before.status = .active) : ∃ id, before.constitutionVersion = some id ∧ after.Adopted id := by
      obtain ⟨id, named, inForce⟩ := singular.rooted origin member before stored active
      exact ⟨id, named, (adopted_frame versions id).mpr inForce⟩
    rw [goals, find?_update, stored, map_some]
    refine ⟨_, rfl, ?_⟩
    split
    · refine ⟨(each before).1, fun gone => ?_, fun active => ?_⟩
      · exact (each before).2.elim (fun kept => kept.trans gone) id
      rcases (each before).2 with kept | retired
      · exact rooted (kept.symm.trans active)
      · cases retired.symm.trans active
    · exact ⟨rfl, id, rooted⟩

theorem Singular.activated {draftId activatedBy : String} {now : Int}
    (drafts : ∃ version, s.constitutionVersions.find? draftId = some version ∧ version.status = .draft)
    (free : ∀ version ∈ s.constitutionVersions.rows, version.status ≠ .active) :
    (s.promote draftId activatedBy now).Singular env := by
  have none_adopted (id : String) : ¬s.Adopted id := by
    rintro ⟨version, found, active⟩
    exact free version (mem_of_find? found).1 active
  refine singular.kept rfl ?_ fun origin member before stored => ?_
  · intro first second left right
    rcases adopted_promote.mp left with old | ⟨rfl, _⟩
    · exact absurd old (none_adopted first)
    · rcases adopted_promote.mp right with older | ⟨rfl, _⟩
      · exact absurd older (none_adopted second)
      · rfl
  · refine ⟨before.restated draftId .draft .active, ?_, GoalRow.restated_version before, fun gone => ?_, fun active => ?_⟩
    · rw [promote, find?_setClauses]
      exact congrArg (Option.map _) stored
    · rw [GoalRow.restated, if_neg]
      · exact gone
      · rintro ⟨_, draft⟩
        cases gone.symm.trans draft
    · by_cases drafted : before.constitutionVersion = some draftId ∧ before.status = .draft
      · exact ⟨draftId, drafted.1, adopted_promote.mpr (.inr ⟨rfl, drafts⟩)⟩
      · rw [GoalRow.restated, if_neg drafted] at active
        obtain ⟨id, _, inForce⟩ := singular.rooted origin member before stored active
        exact absurd inForce (none_adopted id)

theorem Singular.amended {reads : AmendmentReads} {draftId amendedBy approvedBy rationale : String} {now : Int}
    {amendment : ConstitutionAmendment}
    (committed : amendConstitution env reads s draftId amendedBy approvedBy rationale now = .ok (amendment, after))
    (current : ∀ before, reads.before = some before → s.Adopted before) : after.Singular env := by
  obtain ⟨outgoing, staged, amendments, read, apart, setup, drafts, _, _, _, _, done⟩ := amendConstitution_ok committed
  have inForce := current outgoing read
  have versions : after.constitutionVersions =
      ((s.retireVersion outgoing).promote draftId (Text.trim amendedBy) now).constitutionVersions := by
    rw [done, setup]
    rfl
  have goals : after.goals =
      (((s.retireVersion outgoing).promote draftId (Text.trim amendedBy) now).linkSuccessors outgoing draftId).goals := by
    rw [done, setup]
    rfl
  have adopted (id : String) : after.Adopted id ↔ id = draftId :=
    adopted_amended versions drafts apart (fun other old => singular.one other outgoing old inForce) id
  refine singular.kept (by rw [done, setup]; rfl) ?_ fun origin member before stored => ?_
  · exact fun first second left right => ((adopted first).mp left).trans ((adopted second).mp right).symm
  have rooted (active : (before.handedOver outgoing draftId).status = .active) :
      ∃ id, before.constitutionVersion = some id ∧ after.Adopted id := by
    rcases GoalRow.handedOver_active active with ⟨_, draftClause⟩ | ⟨governing, other⟩
    · exact ⟨draftId, draftClause, (adopted draftId).mpr rfl⟩
    · obtain ⟨id, named, governs⟩ := singular.rooted origin member before stored governing
      rw [singular.one id outgoing governs inForce] at named
      exact absurd named other
  have stays (gone : before.status = .superseded) : (before.handedOver outgoing draftId).status = .superseded := by
    simp [GoalRow.handedOver, GoalRow.restated, gone]
  simp only [goals, find?_linkSuccessors, find?_handedOver, stored, map_some]
  refine ⟨_, rfl, ?_⟩
  split
  · exact ⟨GoalRow.handedOver_version before, stays, rooted⟩
  · exact ⟨GoalRow.handedOver_version before, stays, rooted⟩

end

def Accepts (s : Store) (packId constitutionVersion : String) : Prop :=
  ∃ row ∈ s.packProposals.rows, row.packId = packId ∧ row.constitutionVersion = constitutionVersion ∧
    row.disposition ≠ none ∧ row.disposition ≠ some .rejected

def Opposed (s : Store) (packId otherId : String) : Prop :=
  ∃ row ∈ s.packConflicts.rows, row.packId = packId ∧ row.conflictingPackId = otherId ∨
    row.packId = otherId ∧ row.conflictingPackId = packId

instance (s : Store) (packId constitutionVersion : String) : Decidable (s.Accepts packId constitutionVersion) :=
  inferInstanceAs (Decidable (∃ row ∈ s.packProposals.rows, _))

instance (s : Store) (packId otherId : String) : Decidable (s.Opposed packId otherId) :=
  inferInstanceAs (Decidable (∃ row ∈ s.packConflicts.rows, _))

def AdoptsApart (env : Env) (s : Store) : Op → Prop
  | .reviewPack proposalId disposition .. => ∀ proposal, s.packProposals.find? proposalId = some proposal →
      proposal.disposition = none → disposition ≠ .rejected →
        (∀ origin ∈ s.packProvenance.rows, origin.packId = proposal.packId → origin.clauseKey = proposal.clause.key →
          ∀ row, s.goals.find? origin.goalId = some row →
            row.constitutionVersion = some proposal.constitutionVersion → row.status ≠ .draft) ∧
        ∀ conflict ∈ s.packConflicts.rows, conflict.packId = proposal.packId → conflict.packVersion ≠ proposal.packVersion →
          ¬s.Accepts conflict.conflictingPackId proposal.constitutionVersion
  | .amend active outgoing incoming draftId amendedBy approvedBy rationale now =>
    ∀ result, amendConstitution env (amendmentReads active outgoing incoming draftId) s draftId amendedBy approvedBy
        rationale now = .ok result →
      ∀ before, (amendmentReads active outgoing incoming draftId).before = some before → s.Adopted before
  | _ => True

theorem Adopts.rooted (adopts : s.Adopts env after proposal selected why now goal) (active : goal.status = .active) :
    ∃ id, goal.constitutionVersion = some id ∧ s.Adopted id := by
  have status := adopts.status
  unfold constitutionStatusOn at status
  split at status
  next =>
    cases status.trans (congrArg Except.ok active)
  next named =>
    split at status
    · cases status
    rename_i version found
    refine ⟨proposal.constitutionVersion, ?_, version, found, (Except.ok.inj status).trans active⟩
    rw [adopts.clause, materializedClause, if_neg named]

theorem Adopts.version (adopts : s.Adopts env after proposal selected why now goal) :
    goal.constitutionVersion = (if proposal.constitutionVersion.isEmpty then none else some proposal.constitutionVersion) ∧
      goal.constitutionVersion.getD "" = proposal.constitutionVersion := by
  have versioned : goal.constitutionVersion =
      (if proposal.constitutionVersion.isEmpty then none else some proposal.constitutionVersion) := by
    rw [adopts.clause]
    rfl
  refine ⟨versioned, ?_⟩
  rw [versioned]
  split
  next empty => exact (String.isEmpty_iff.mp empty).symm
  next => rfl

theorem perform_reviewPack {proposalId disposition tailored actor why now} :
    s.perform env (.reviewPack proposalId disposition tailored actor why now) =
      s.settle (s.reviewPackClause env proposalId disposition tailored actor why now) := rfl

section
variable (singular : s.Singular env)
include singular

theorem Singular.adopts (adopts : s.Adopts env after proposal selected why now goal)
    (apart : ∀ origin ∈ s.packProvenance.rows, origin.packId = proposal.packId → origin.clauseKey = proposal.clause.key →
      ∀ row, s.goals.find? origin.goalId = some row →
        row.constitutionVersion = some proposal.constitutionVersion → row.status ≠ .draft) : after.Singular env := by
  have versions : after.constitutionVersions = s.constitutionVersions := by rw [adopts.rest]
  have adopted := adopted_frame versions
  obtain ⟨rows, _⟩ := insert?_rows adopts.provenance
  have fresh := (insert?_rows adopts.goals).2
  have find := find?_insert adopts.goals
  have named : goal.id = "goal:pack-" ++ env.shortHash (proposal.packId ++ ":" ++ proposal.packVersion ++ ":" ++
      proposal.constitutionVersion ++ ":" ++ proposal.clause.key) := by
    rw [adopts.clause]
    rfl
  have here : after.goals.find? goal.id = some { toGoal := goal } := (find goal.id).trans (if_pos rfl)
  have old {origin : PackClauseProvenance} (member : origin ∈ s.packProvenance.rows) :
      after.goals.find? origin.goalId = s.goals.find? origin.goalId := by
    obtain ⟨before, stored, _⟩ := singular.there origin member
    rw [find, if_neg]
    intro same
    rw [same, stored] at fresh
    cases fresh
  have only {origin : PackClauseProvenance} (member : origin ∈ s.packProvenance.rows) (pack : origin.packId = proposal.packId)
      (key : origin.clauseKey = proposal.clause.key) {row : GoalRow} (stored : s.goals.find? origin.goalId = some row)
      (version : row.constitutionVersion = goal.constitutionVersion) (versioned : goal.constitutionVersion ≠ none) :
      row.status = .superseded := by
    have inContext : goal.constitutionVersion = some proposal.constitutionVersion := by
      rw [adopts.version.1] at versioned ⊢
      split at versioned
      next => exact absurd rfl versioned
      next named' => rw [if_neg named']
    cases standing : row.status with
    | superseded => rfl
    | draft => exact absurd standing (apart origin member pack key row stored (version.trans inContext))
    | active =>
      by_cases release : origin.packVersion = proposal.packVersion
      · obtain ⟨known, found, own⟩ := singular.there origin member
        cases some.inj (stored.symm.trans found)
        have same : origin.goalId = goal.id := by
          rw [own, named, PackClauseProvenance.identity, pack, key, release, version, adopts.version.2]
        rw [same] at stored
        cases fresh.symm.trans stored
      · exact absurd standing (adopts.first origin member pack key release row stored)
  refine ⟨?_, ?_, ?_, ?_⟩
  · intro first second left right
    exact singular.one first second ((adopted first).mp left) ((adopted second).mp right)
  · intro origin member
    rw [rows, mem_append, mem_singleton] at member
    rcases member with earlier | rfl
    · rw [old earlier]
      exact singular.there origin earlier
    · refine ⟨_, here, named.trans ?_⟩
      rw [PackClauseProvenance.identity, adopts.version.2]
  · intro origin member row found active
    rw [rows, mem_append, mem_singleton] at member
    rcases member with earlier | rfl
    · rw [old earlier] at found
      obtain ⟨id, version, inForce⟩ := singular.rooted origin earlier row found active
      exact ⟨id, version, (adopted id).mpr inForce⟩
    · cases here.symm.trans found
      obtain ⟨id, version, inForce⟩ := adopts.rooted active
      exact ⟨id, version, (adopted id).mpr inForce⟩
  · intro first inside second within pack key one two found found' same versioned standing still
    rw [rows, mem_append, mem_singleton] at inside within
    rcases inside with earlier | rfl <;> rcases within with before | rfl
    · rw [old earlier] at found
      rw [old before] at found'
      exact singular.alone first earlier second before pack key one two found found' same versioned standing still
    · cases here.symm.trans found'
      rw [old earlier] at found
      exact absurd (only earlier pack key found same (same ▸ versioned)) standing
    · cases here.symm.trans found
      rw [old before] at found'
      exact absurd (only before pack.symm key.symm found' same.symm versioned) still
    · rfl

theorem Singular.reviewed {proposalId : String}
    (apart : s.AdoptsApart env (.reviewPack proposalId disposition tailored actor why now))
    (done : s.reviewPackClause env proposalId disposition tailored actor why now = .ok after) : after.Singular env := by
  obtain ⟨proposal, found, ⟨_, rfl⟩ | ⟨undecided, ⟨_, rfl⟩ | ⟨accepts, selected, goal, middle, adopts, rfl⟩⟩⟩ :=
    reviewPackClause_cases done
  · exact singular
  · exact singular.framed rfl (fun _ => Iff.rfl) fun _ _ => rfl
  · have adopted := singular.adopts adopts (apart proposal found undecided accepts).1
    exact adopted.framed rfl (fun _ => Iff.rfl) fun _ _ => rfl

theorem Singular.joined (joined : Relation.ReflTransGen Joined s after)
    (origins : after.packProvenance = s.packProvenance) : after.Singular env := by
  suffices kept : ({ after with packProvenance := s.packProvenance } : Store).Singular env by
    rwa [← origins] at kept
  clear origins
  induction joined with
  | refl => exact singular
  | tail _ last ih =>
    obtain ⟨goal, stated, _⟩ := last
    exact ih.inserted stated.goals stated.versions rfl

theorem Singular.cleared : s.cleared.Singular env := by
  refine ⟨singular.one, ?_, ?_, ?_⟩
  all_goals
    intro origin member
    cases member

theorem Singular.changed {op : Op} (change : PolicyChange env s op after)
    (apart : s.AdoptsApart env op) (origins : after.packProvenance = s.packProvenance) : after.Singular env := by
  cases change with
  | same policy => exact singular.framed origins (adopted_frame policy.versions) fun _ _ => by rw [policy.goals]
  | joined joined => exact singular.joined joined origins
  | superseded _ _ stated => exact singular.inserted stated.goals stated.versions origins
  | edited edited => exact singular.edited edited origins
  | drafted drafted => exact singular.framed origins (adopted_drafted drafted) fun _ _ => by rw [drafted.goals]
  | activated drafts free => exact singular.activated drafts free
  | amended committed => exact singular.amended committed (apart _ committed)
  | cleared => exact singular.cleared

theorem Singular.step {op : Op} (apart : s.AdoptsApart env op) : (s.perform env op).Singular env := by
  by_cases adopting : TableName.packProvenance ∈ op.writes
  · cases op with
    | reviewPack proposalId disposition tailored actor why now =>
      rw [perform_reviewPack]
      cases done : s.reviewPackClause env proposalId disposition tailored actor why now with
      | error failure => exact singular
      | ok after => exact singular.reviewed apart done
    | reset confirmation =>
      change (s.settle (s.resetDatabase confirmation)).Singular env
      rw [resetDatabase]
      split
      · exact singular
      · exact singular.cleared
    | _ => simp [Op.writes] at adopting
  · have origins : (s.perform env op).packProvenance = s.packProvenance := perform_touches env s op _ adopting
    exact singular.changed (perform_policy env s op) apart origins

end

section

theorem insertProposal_rows (table : Table PackClauseProposal) (proposal : PackClauseProposal) :
    (∀ row ∈ table.rows, row ∈ (insertProposal table proposal).rows) ∧
      ∀ row ∈ (insertProposal table proposal).rows, row ∈ table.rows ∨ row = proposal := by
  unfold insertProposal
  split
  next => exact ⟨fun _ member => member, fun _ member => .inl member⟩
  next => exact ⟨fun _ member => insertOrIgnore_keeps member, fun _ member => mem_insertOrIgnore member⟩

theorem insertProposals_rows (pack : ConstitutionPack) (context : String) (clauses : List PackClause)
    (table : Table PackClauseProposal) :
    let proposed := clauses.foldl (fun table clause => insertProposal table (packProposal env pack context now clause)) table
    (∀ row ∈ table.rows, row ∈ proposed.rows) ∧ ∀ row ∈ proposed.rows, row ∈ table.rows ∨ row.disposition = none := by
  induction clauses generalizing table with
  | nil => exact ⟨fun _ member => member, fun _ member => .inl member⟩
  | cons clause rest ih =>
    obtain ⟨keeps, adds⟩ := insertProposal_rows table (packProposal env pack context now clause)
    obtain ⟨keeps', adds'⟩ := ih (insertProposal table (packProposal env pack context now clause))
    refine ⟨fun row member => keeps' row (keeps row member), fun row member => ?_⟩
    rcases adds' row member with old | undecided
    · rcases adds row old with older | rfl
      · exact .inl older
      · exact .inr rfl
    · exact .inr undecided

theorem proposePolicyPack_rows {seen : Store} {packId version : String} {constitutionVersion : Option String}
    (done : proposePolicyPack env seen s packId version constitutionVersion now = .ok after) :
    (∀ row ∈ s.packProposals.rows, row ∈ after.packProposals.rows) ∧
      ∀ row ∈ after.packProposals.rows, row ∈ s.packProposals.rows ∨ row.disposition = none := by
  simp only [proposePolicyPack, throw_eq, error_bind, pure_eq] at done
  split at done
  · cases done
  rename_i pack _
  obtain ⟨_, done⟩ := ite_else done
  obtain ⟨_, done⟩ := ite_else done
  cases done
  exact insertProposals_rows ..

variable {row : PackClauseProposal}

theorem mem_decided {proposalId : String} {adoptedGoalId : Option String}
    (member : row ∈ (s.decided proposalId disposition actor why now adoptedGoalId).packProposals.rows) :
    row ∈ s.packProposals.rows ∨ ∃ old ∈ s.packProposals.rows, old.id = proposalId ∧ old.packId = row.packId ∧
      old.constitutionVersion = row.constitutionVersion ∧ row.disposition = some disposition := by
  obtain ⟨old, inside, same⟩ := mem_map.mp member
  split at same
  next selected =>
    subst same
    exact .inr ⟨old, inside, by simpa using And.left (by simpa using selected), rfl, rfl, rfl⟩
  next =>
    subst same
    exact .inl inside

theorem decided_keeps {proposalId : String} {adoptedGoalId : Option String}
    (member : row ∈ s.packProposals.rows) (settled : row.disposition ≠ none) :
    row ∈ (s.decided proposalId disposition actor why now adoptedGoalId).packProposals.rows := by
  refine mem_map.mpr ⟨row, member, if_neg ?_⟩
  simp [settled]

theorem perform_proposals {op : Op} (standing : ∀ confirmation, op ≠ .reset confirmation) :
    (s.perform env op).packProposals = s.packProposals ∨
      (∃ seen packId version constitutionVersion now,
        proposePolicyPack env seen s packId version constitutionVersion now = .ok (s.perform env op)) ∨
      ∃ proposalId disposition tailored actor why now, op = .reviewPack proposalId disposition tailored actor why now ∧
        s.reviewPackClause env proposalId disposition tailored actor why now = .ok (s.perform env op) := by
  by_cases writes : TableName.packProposals ∈ op.writes
  swap
  · exact .inl (perform_touches env s op _ writes)
  cases op with
  | proposePack seen packId version constitutionVersion now =>
    have settles : s.perform env (.proposePack seen packId version constitutionVersion now) =
        s.settle (proposePolicyPack env seen s packId version constitutionVersion now) := rfl
    rw [settles]
    cases done : proposePolicyPack env seen s packId version constitutionVersion now with
    | error => exact .inl rfl
    | ok after => exact .inr (.inl ⟨_, _, _, _, _, done⟩)
  | reviewPack proposalId disposition tailored actor why now =>
    rw [perform_reviewPack]
    cases done : s.reviewPackClause env proposalId disposition tailored actor why now with
    | error => exact .inl rfl
    | ok after => exact .inr (.inr ⟨_, _, _, _, _, _, rfl, done⟩)
  | reset confirmation => exact absurd rfl (standing confirmation)
  | _ => simp [Op.writes] at writes

theorem perform_decided {op : Op} (standing : ∀ confirmation, op ≠ .reset confirmation)
    (member : row ∈ s.packProposals.rows) (settled : row.disposition ≠ none) : row ∈ (s.perform env op).packProposals.rows := by
  have turn := @perform_proposals env s op standing
  generalize s.perform env op = after at turn ⊢
  rcases turn with same | ⟨_, _, _, _, _, done⟩ | ⟨_, _, _, _, _, _, _, done⟩
  · rwa [same]
  · exact (proposePolicyPack_rows done).1 row member
  · obtain ⟨proposal, _, ⟨_, rfl⟩ | ⟨_, ⟨_, rfl⟩ | ⟨_, selected, goal, middle, adopts, rfl⟩⟩⟩ := reviewPackClause_cases done
    · exact member
    · exact decided_keeps member settled
    · refine decided_keeps ?_ settled
      rw [adopts.rest]
      exact member

end

section
variable {packId otherId context : String}

theorem registerPolicyPack_conflicts {pack : ConstitutionPack} (done : s.registerPolicyPack env pack now = .ok after) :
    ∀ row ∈ s.packConflicts.rows, row ∈ after.packConflicts.rows := by
  simp only [registerPolicyPack, throw_eq, error_bind, pure_eq] at done
  obtain ⟨_, _, done⟩ := bind_ok done
  obtain ⟨_, done⟩ := ite_else done
  split at done
  next =>
    obtain ⟨_, done⟩ := ite_else done
    cases done
    exact fun _ member => member
  next =>
    split at done
    · cases done
    obtain ⟨conflicts, inserted, done⟩ := bind_ok done
    cases done
    refine foldlM_ok (fun table => ∀ row ∈ s.packConflicts.rows, row ∈ table.rows) inserted (fun _ member => member) ?_
    intro before conflict table earlier one row member
    unfold insertConflict at one
    split at one
    · cases one
    rename_i written
    cases one
    rw [(insert?_rows written).1]
    exact mem_append_left _ (earlier row member)

theorem perform_opposed {op : Op} (standing : ∀ confirmation, op ≠ .reset confirmation) (opposed : s.Opposed packId otherId) :
    (s.perform env op).Opposed packId otherId := by
  obtain ⟨row, member, between⟩ := opposed
  refine ⟨row, ?_, between⟩
  by_cases writes : TableName.packConflicts ∈ op.writes
  · cases op with
    | registerPack pack now =>
      have settles : s.perform env (.registerPack pack now) = s.settle (s.registerPolicyPack env pack now) := rfl
      rw [settles]
      cases done : s.registerPolicyPack env pack now with
      | error failure => exact member
      | ok after => exact registerPolicyPack_conflicts done row member
    | reset confirmation => exact absurd rfl (standing confirmation)
    | _ => simp [Op.writes] at writes
  · have same : (s.perform env op).packConflicts = s.packConflicts := perform_touches env s op _ writes
    rwa [same]

theorem perform_accepts {op : Op} (standing : ∀ confirmation, op ≠ .reset confirmation)
    (accepts : (s.perform env op).Accepts packId context) : s.Accepts packId context ∨
      ∃ proposalId disposition tailored actor why now proposal selected goal middle,
        op = .reviewPack proposalId disposition tailored actor why now ∧
        s.packProposals.find? proposalId = some proposal ∧ proposal.disposition = none ∧ disposition ≠ .rejected ∧
        s.Adopts env middle proposal selected why now goal ∧ proposal.packId = packId ∧ proposal.constitutionVersion = context := by
  have turn := @perform_proposals env s op standing
  generalize s.perform env op = after at turn accepts
  obtain ⟨row, member, pack, version, settled, accepted⟩ := accepts
  rcases turn with same | ⟨_, _, _, _, _, done⟩ | ⟨proposalId, disposition, tailored, actor, why, now, rfl, done⟩
  · exact .inl ⟨row, same ▸ member, pack, version, settled, accepted⟩
  · rcases (proposePolicyPack_rows done).2 row member with old | undecided
    · exact .inl ⟨row, old, pack, version, settled, accepted⟩
    · exact absurd undecided settled
  obtain ⟨proposal, found, ⟨_, rfl⟩ | ⟨undecided, ⟨rejects, rfl⟩ | ⟨accepts, selected, goal, middle, adopts, rfl⟩⟩⟩ :=
    reviewPackClause_cases done
  · exact .inl ⟨row, member, pack, version, settled, accepted⟩
  · rcases mem_decided member with old | ⟨_, _, _, _, _, decided⟩
    · exact .inl ⟨row, old, pack, version, settled, accepted⟩
    · rw [decided, rejects] at accepted
      exact absurd rfl accepted
  · have proposals : middle.packProposals = s.packProposals := by rw [adopts.rest]
    rcases mem_decided member with old | ⟨origin, inside, named, same, context, _⟩
    · rw [proposals] at old
      exact .inl ⟨row, old, pack, version, settled, accepted⟩
    · rw [proposals] at inside
      have alike : origin = proposal := by
        have here := find?_of_mem inside
        rw [show Row.key origin = proposalId from named, found] at here
        exact (some.inj here).symm
      subst alike
      exact .inr ⟨proposalId, disposition, tailored, actor, why, now, origin, selected, goal, middle, rfl, found, undecided, accepts,
        adopts, same.trans pack, context.trans version⟩

theorem unresolved_nil {version : String} (clear : s.unresolvedConflictsOn packId version context = []) :
    ∀ row ∈ s.packConflicts.rows,
      (row.packId = packId → row.packVersion = version → ¬s.Accepts row.conflictingPackId context) ∧
        (row.conflictingPackId = packId → ¬s.Accepts row.packId context) := by
  have listed {conflict : PackConflict} (accepts : s.Accepts conflict.packId context)
      (declared : conflict ∈ (s.packConflicts.rows.filter fun row => decide (row.packId = packId ∧ row.packVersion = version)).map
          (fun row => (⟨row.conflictingPackId, row.reason⟩ : PackConflict)) ∨
        conflict ∈ (s.packConflicts.rows.filter fun row => decide (row.conflictingPackId = packId)).map
          fun row => (⟨row.packId, row.reason⟩ : PackConflict)) : False := by
    obtain ⟨proposal, member, pack, named, _, accepted⟩ := accepts
    have inside : conflict ∈ s.unresolvedConflictsOn packId version context := by
      unfold unresolvedConflictsOn
      rw [mem_insertionSort, mem_filter, mem_dedup, mem_append]
      refine ⟨declared, any_eq_true.mpr ⟨proposal, member, ?_⟩⟩
      rw [decide_eq_true ⟨pack, named⟩, decide_eq_true accepted]
      rfl
    rw [clear] at inside
    cases inside
  refine fun row member => ⟨fun own release accepts => ?_, fun own accepts => ?_⟩
  · exact listed accepts (.inl (mem_map.mpr ⟨row, mem_filter.mpr ⟨member, decide_eq_true ⟨own, release⟩⟩, rfl⟩))
  · exact listed accepts (.inr (mem_map.mpr ⟨row, mem_filter.mpr ⟨member, decide_eq_true own⟩, rfl⟩))

theorem Adopts.unopposed_accepts {goal : Goal} (adopts : s.Adopts env after proposal selected why now goal)
    (apart : ∀ conflict ∈ s.packConflicts.rows, conflict.packId = proposal.packId →
      conflict.packVersion ≠ proposal.packVersion → ¬s.Accepts conflict.conflictingPackId proposal.constitutionVersion)
    (opposed : s.Opposed proposal.packId otherId) : ¬s.Accepts otherId proposal.constitutionVersion := by
  obtain ⟨row, member, ⟨own, rfl⟩ | ⟨rfl, own⟩⟩ := opposed
  · by_cases release : row.packVersion = proposal.packVersion
    · exact (unresolved_nil adopts.unopposed row member).1 own release
    · exact apart row member own release
  · exact (unresolved_nil adopts.unopposed row member).2 own

theorem perform_apart {op : Op} (other : packId ≠ otherId) (standing : ∀ confirmation, op ≠ .reset confirmation)
    (apart : s.AdoptsApart env op) (opposed : s.Opposed packId otherId)
    (before : ¬(s.Accepts packId context ∧ s.Accepts otherId context)) :
    ¬((s.perform env op).Accepts packId context ∧ (s.perform env op).Accepts otherId context) := by
  rintro ⟨one, two⟩
  rcases perform_accepts standing one with old | ⟨_, _, _, _, _, _, proposal, _, _, _, rfl, found, undecided, accepts, adopts,
    rfl, rfl⟩
  · rcases perform_accepts standing two with older | ⟨_, _, _, _, _, _, proposal, _, _, _, rfl, found, undecided, accepts, adopts,
      rfl, rfl⟩
    · exact before ⟨old, older⟩
    · have reversed : s.Opposed proposal.packId packId := by
        obtain ⟨row, member, between⟩ := opposed
        exact ⟨row, member, between.symm⟩
      exact adopts.unopposed_accepts (apart proposal found undecided accepts).2 reversed old
  · rcases perform_accepts standing two with older | ⟨_, _, _, _, _, _, second, _, _, _, same, found', _, _, _, pack, _⟩
    · exact adopts.unopposed_accepts (apart proposal found undecided accepts).2 opposed older
    · cases same
      cases some.inj (found.symm.trans found')
      exact other pack

end

def NeverBoth (env : Env) (history : List (Entry Store Op)) (s : Store) : Prop :=
  ∀ later past, history = later ++ past → (∀ entry ∈ later, ∀ confirmation, entry.op ≠ .reset confirmation) →
    ∀ first, (localStore env).Run past first → ∀ packId otherId context, packId ≠ otherId → first.Opposed packId otherId →
      ¬(first.Accepts packId context ∧ first.Accepts otherId context) → ¬(s.Accepts packId context ∧ s.Accepts otherId context)

structure Decides (env : Env) (entry : Entry Store Op) : Prop where
  fixed : (∀ confirmation, entry.op ≠ .reset confirmation) → ∀ row ∈ entry.before.packProposals.rows, row.disposition ≠ none →
    row ∈ entry.after.packProposals.rows
  refused : ∀ proposalId disposition tailored actor why now failure, entry.op = .reviewPack proposalId disposition tailored actor why now →
    entry.before.reviewPackClause env proposalId disposition tailored actor why now = .error failure → entry.after = entry.before

theorem decides_performed {entry : Entry Store Op} (performed : entry.after = entry.before.perform env entry.op) :
    Decides env entry := by
  refine ⟨fun standing row member settled => ?_, ?_⟩
  · rw [performed]
    exact perform_decided standing member settled
  · intro proposalId disposition tailored actor why now failure review failed
    rw [performed, review, perform_reviewPack, failed]
    rfl

theorem singular_empty (env : Env) : ({} : Store).Singular env := by
  refine ⟨?_, ?_, ?_, ?_⟩
  · rintro _ _ ⟨_, found, _⟩
    cases found
  all_goals
    intro origin member
    cases member

/-- Where every review that adopts, and every amendment, acts apart from what stands:
one active goal for each pack's clause, opposed packs never both accepted, and in
any case decided proposals fixed and refused reviews without effect. -/
theorem pack_adoption_singular {env : Env} {history : List (Entry Store Op)} {s : Store}
    (run : (localStore env).Run history s) (apart : ∀ entry ∈ history, entry.before.AdoptsApart env entry.op) :
    s.AdoptsOnce ∧ NeverBoth env history s ∧ ∀ entry ∈ history, Decides env entry := by
  refine ⟨?_, ?_, ?_⟩
  · have singular := run.invariant_of_steps (fun seen => seen.Singular env) (singular_empty env)
      (fun before op => before.AdoptsApart env op) apart fun before op met earlier => earlier.step met
    exact singular.adoptsOnce
  · rintro later past rfl standing first reached packId otherId context other opposed before
    have kept := run.since (fun seen => seen.Opposed packId otherId ∧ ¬(seen.Accepts packId context ∧ seen.Accepts otherId context))
      (fun seen op => seen.AdoptsApart env op ∧ ∀ confirmation, op ≠ .reset confirmation) ?_ ?_ ?_
    · exact kept.2
    · intro middle upTo
      have same : middle = first := by
        cases upTo <;> cases reached <;> rfl
      subst same
      exact ⟨opposed, before⟩
    · exact fun entry member => ⟨apart entry (mem_append_left _ member), standing entry member⟩
    · exact fun seen op met earlier => ⟨perform_opposed met.2 earlier.1, perform_apart other met.2 met.1 earlier.1 earlier.2⟩
  · intro entry member
    obtain ⟨_, _, performed⟩ := run.entry_past member
    exact decides_performed performed

def clausePack (id version : String) (opposed : List String) : ConstitutionPack where
  id := id
  version := version
  digest := id ++ "@" ++ version
  title := "Delivery"
  description := ""
  compatibleEngineVersions := ["*"]
  preambleFragments := []
  clauses := [⟨"evidence", .constraint, "Evidence", "Bring evidence.", "It tells.", none, none, none, []⟩]
  conflicts := opposed.map fun other => ⟨other, "opposed"⟩

/-- One release of a pack adopted into the first draft, which is then activated,
newest first. -/
def oneRelease : List (Store → Op) :=
  [fun _ => .activate "constitution:v1" "ann" 5,
    fun _ => .reviewPack "pack-proposal:delivery:1:constitution:v1:evidence" .adopted none "ann" none 4,
    fun s => .proposePack s "delivery" "1" (some "constitution:v1") 3,
    fun _ => .registerPack (clausePack "delivery" "1" []) 1,
    fun s => .proposeConstitution s none 0]

/-- One release, adopted and in force, once. -/
theorem pack_adoption_singular_released : ((localStore Env.plain).replay oneRelease).2.AdoptsOnce ∧
    NeverBoth Env.plain ((localStore Env.plain).replay oneRelease).1 ((localStore Env.plain).replay oneRelease).2 ∧
    ∀ entry ∈ ((localStore Env.plain).replay oneRelease).1, Decides Env.plain entry := by
  refine pack_adoption_singular (Ready.run ?_) ?_
  · simp +contextual [oneRelease, Op.enabled, Op.reads]
  refine forall_mem_cons.mpr ⟨trivial, forall_mem_cons.mpr ⟨?_, ?_⟩⟩
  · have untraced : ∀ origin ∈ ((localStore Env.plain).replay (oneRelease.drop 2)).2.packProvenance.rows, False := by
      decide +kernel
    have unopposed : ∀ conflict ∈ ((localStore Env.plain).replay (oneRelease.drop 2)).2.packConflicts.rows, False := by
      decide +kernel
    intro proposal _ _ _
    exact ⟨fun origin member => (untraced origin member).elim, fun conflict member => (unopposed conflict member).elim⟩
  · iterate 3 refine forall_mem_cons.mpr ⟨trivial, ?_⟩
    exact fun _ absent => absurd absent not_mem_nil

def twoReleases : List (Store → Op) :=
  [fun _ => .activate "constitution:v1" "ann" 8,
    fun _ => .reviewPack "pack-proposal:delivery:2:constitution:v1:evidence" .adopted none "ann" none 7,
    fun s => .proposePack s "delivery" "2" (some "constitution:v1") 6,
    fun _ => .registerPack (clausePack "delivery" "2" []) 5,
    fun _ => .reviewPack "pack-proposal:delivery:1:constitution:v1:evidence" .adopted none "ann" none 4,
    fun s => .proposePack s "delivery" "1" (some "constitution:v1") 3,
    fun _ => .registerPack (clausePack "delivery" "1" []) 1,
    fun s => .proposeConstitution s none 0]

/-- A pack whose first release opposes another, both registered. -/
def opposedPacks : List (Store → Op) :=
  [fun _ => .registerPack (clausePack "permissive" "1" []) 3, fun _ => .registerPack (clausePack "strict" "2" []) 2,
    fun _ => .registerPack (clausePack "strict" "1" ["permissive"]) 1, fun s => .proposeConstitution s none 0]

/-- The other adopted first, and then the opposing pack's second release. -/
def opposedAdoptions : List (Store → Op) :=
  [fun _ => .reviewPack "pack-proposal:strict:2:constitution:v1:evidence" .adopted none "ann" none 7,
    fun s => .proposePack s "strict" "2" (some "constitution:v1") 6,
    fun _ => .reviewPack "pack-proposal:permissive:1:constitution:v1:evidence" .adopted none "ann" none 5,
    fun s => .proposePack s "permissive" "1" (some "constitution:v1") 4]

/-- Both releases' clauses are active; and opposed packs are both accepted in the
order the guard does not look back in. -/
theorem pack_adoption_doubled : ¬((localStore Env.plain).replay twoReleases).2.AdoptsOnce ∧
      ((localStore Env.plain).replay opposedPacks).2.Opposed "strict" "permissive" ∧
      ¬((localStore Env.plain).replay opposedPacks).2.Accepts "permissive" "constitution:v1" ∧
      ((localStore Env.plain).replay (opposedAdoptions ++ opposedPacks)).2.Accepts "strict" "constitution:v1" ∧
      ((localStore Env.plain).replay (opposedAdoptions ++ opposedPacks)).2.Accepts "permissive" "constitution:v1" := by
  decide +kernel

end Store
end MindLeak.Lodestar
