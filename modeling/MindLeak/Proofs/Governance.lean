import MindLeak.Proofs.Changes

/-! One constitution governs: what every operation does to versions, clauses and
amendments, and the invariant that holds as long as a supersession and an
amendment act on what still stands when they commit. -/

namespace MindLeak.Lodestar

open List Option Table

variable {env : Env}

namespace Store

def Adopted (s : Store) (id : String) : Prop :=
  ∃ version, s.constitutionVersions.find? id = some version ∧ version.status = .active

/-- A clause more, which governs at once only under an active version. -/
def Joined (s after : Store) : Prop :=
  ∃ goal, s.Stated after goal ∧ (goal.status = .active → ∀ id, goal.constitutionVersion = some id → s.Adopted id)

inductive PolicyChange (env : Env) (s : Store) : Op → Store → Prop
  | same {op : Op} {after : Store} (policy : s.SamePolicy after) : PolicyChange env s op after
  | joined {op : Op} {after : Store} (joined : Relation.ReflTransGen Joined s after) : PolicyChange env s op after
  | superseded {seen : Store} {oldId statement why : String} {now : Int} {old : GoalRow} {result : Goal} {after : Store}
      (committed : supersedeGoal seen s oldId statement why now = .ok (result, after))
      (read : seen.goals.find? oldId = some old)
      (stated : s.Stated after (supersession old.toGoal statement why now)) :
      PolicyChange env s (.supersede seen oldId statement why now) after
  | edited {op : Op} {after : Store} (edited : s.Edited after) : PolicyChange env s op after
  | drafted {op : Op} {after : Store} {version : ConstitutionVersion} (drafted : s.Drafted after version) :
      PolicyChange env s op after
  | activated {draftId activatedBy : String} {now : Int}
      (drafts : ∃ version, s.constitutionVersions.find? draftId = some version ∧ version.status = .draft)
      (free : ∀ version ∈ s.constitutionVersions.rows, version.status ≠ .active) :
      PolicyChange env s (.activate draftId activatedBy now) (s.promote draftId (Text.trim activatedBy) now)
  | amended {active outgoing incoming : Store} {draftId amendedBy approvedBy rationale : String} {now : Int}
      {amendment : ConstitutionAmendment} {after : Store}
      (committed : amendConstitution env (amendmentReads active outgoing incoming draftId) s draftId amendedBy approvedBy
        rationale now = .ok (amendment, after)) :
      PolicyChange env s (.amend active outgoing incoming draftId amendedBy approvedBy rationale now) after
  | cleared {confirmation : String} : PolicyChange env s (.reset confirmation) s.cleared

variable {s after : Store}

section

theorem settle_policy {env : Env} {op : Op} {result : Result Store}
    (each : ∀ after, result = .ok after → PolicyChange env s op after) : PolicyChange env s op (s.settle result) := by
  cases result with
  | error failure => exact .same (.refl s)
  | ok after => exact each after rfl

theorem settled_policy {α : Type} {env : Env} {op : Op} {result : Result (α × Store)}
    (each : ∀ value after, result = .ok (value, after) → PolicyChange env s op after) :
    PolicyChange env s op (s.settled result) := by
  rcases result with failure | ⟨value, after⟩
  · exact .same (.refl s)
  · exact each value after rfl

theorem Stated.joined {goal : Goal} (stated : s.Stated after goal)
    (quiet : goal.status = .draft ∨ goal.constitutionVersion = none) : Relation.ReflTransGen Joined s after := by
  refine .single ⟨goal, stated, fun active id version => ?_⟩
  rcases quiet with draft | free
  · cases draft.symm.trans active
  · cases free.symm.trans version

theorem imported_joined (imported : Relation.ReflTransGen Imported s after) : Relation.ReflTransGen Joined s after := by
  refine imported.lift id ?_
  rintro _ _ ⟨goal, stated, free⟩
  exact ⟨goal, stated, fun _ id version => by cases free.symm.trans version⟩

end

theorem perform_policy (env : Env) (s : Store) (op : Op) : PolicyChange env s op (s.perform env op) := by
  have apart := perform_samePolicy env s op
  cases op with
  | defineGoal =>
    refine settled_policy fun _ _ done => .joined ?_
    exact (defineGoalOn_ok done).1.joined (.inr (defineGoalOn_ok done).2)
  | importGoals => exact settle_policy fun _ done => .joined (imported_joined (importExternalGoals_ok done))
  | supersede =>
    refine settled_policy fun _ _ done => ?_
    obtain ⟨old, read, rfl, stated⟩ := supersedeGoal_ok done
    exact .superseded done read stated
  | retire oldId newId agent now => exact .edited (retireSuperseded_edited s oldId newId agent now)
  | contract => exact settle_policy fun _ done => .edited (completeClauseContract_ok done)
  | reviewPack =>
    refine settle_policy fun _ done => ?_
    rcases reviewPackClause_ok done with same | ⟨goal, stated, joins⟩
    · exact .same same.policy
    · exact .joined (.single ⟨goal, stated, fun active id version => joins id active version⟩)
  | proposeConstitution =>
    refine settle_policy fun _ done => ?_
    obtain ⟨_, drafted⟩ := proposeConstitution_ok done
    exact .drafted drafted
  | proposeAmendment =>
    refine settle_policy fun _ done => ?_
    obtain ⟨_, drafted⟩ := proposeAmendment_ok done
    exact .drafted drafted
  | copyClause =>
    refine settle_policy fun _ done => ?_
    obtain ⟨_, stated, draft⟩ := copyClauseToVersion_ok done
    exact .joined (stated.joined (.inl draft))
  | draftClause =>
    refine settled_policy fun _ _ done => .joined ?_
    exact (draftClause_ok done).1.joined (.inl (draftClause_ok done).2)
  | activate draftId activatedBy now =>
    refine settle_policy fun _ done => ?_
    obtain ⟨drafts, free, same⟩ := activateConstitution_ok done
    rw [same]
    exact .activated drafts free
  | amend => exact settled_policy fun _ _ done => .amended done
  | reset confirmation =>
    refine settle_policy fun _ done => ?_
    unfold resetDatabase at done
    split at done <;> cases done
    exact .cleared
  -- the others write none of the three tables
  | _ => exact .same (apart (by simp [Op.writes]))

structure Governed (s : Store) : Prop where
  single : ∀ first second, s.Adopted first → s.Adopted second → first = second
  clauses : ∀ clause ∈ s.goals.rows, clause.status = .active → ∀ id, clause.constitutionVersion = some id → s.Adopted id

/-- What a supersession and an amendment rely on still stands when they commit:
the version of the clause, and for an amendment the outgoing version with both
clause sets. -/
def ReadsCurrent (env : Env) (s : Store) : Op → Prop
  | .supersede seen oldId statement why now =>
    ∀ result, supersedeGoal seen s oldId statement why now = .ok result →
      ∀ old, seen.goals.find? oldId = some old → ∀ id, old.constitutionVersion = some id → s.Adopted id
  | .amend active outgoing incoming draftId amendedBy approvedBy rationale now =>
    ∀ result, amendConstitution env (amendmentReads active outgoing incoming draftId) s draftId amendedBy approvedBy
        rationale now = .ok result →
      ∀ before, (active.activeConstitutionVersion.map ConstitutionVersion.id) = some before →
        s.Adopted before ∧ outgoing.clausesForVersion before = s.clausesForVersion before ∧
          incoming.clausesForVersion draftId = s.clausesForVersion draftId
  | _ => True

section

theorem adopted_frame (versions : after.constitutionVersions = s.constitutionVersions) (id : String) :
    after.Adopted id ↔ s.Adopted id := by
  unfold Adopted
  rw [versions]

theorem Governed.frame (governed : s.Governed) (policy : s.SamePolicy after) : after.Governed where
  single first second left right := by
    rw [adopted_frame policy.versions] at left right
    exact governed.single first second left right
  clauses clause member active id version := by
    rw [policy.goals] at member
    rw [adopted_frame policy.versions]
    exact governed.clauses clause member active id version

theorem Governed.joined (governed : s.Governed) (joined : s.Joined after) : after.Governed := by
  obtain ⟨goal, stated, joins⟩ := joined
  refine ⟨?_, ?_⟩
  · intro first second left right
    rw [adopted_frame stated.versions] at left right
    exact governed.single first second left right
  · intro clause member active id version
    rw [adopted_frame stated.versions]
    rw [(Table.insert?_rows stated.goals).1, mem_append, mem_singleton] at member
    rcases member with old | rfl
    · exact governed.clauses clause old active id version
    · exact joins active id version

theorem Governed.edited (governed : s.Governed) (edited : s.Edited after) : after.Governed := by
  obtain ⟨⟨selects, set, keeps, goals, each⟩, versions, _, _⟩ := edited
  refine ⟨?_, ?_⟩
  · intro first second left right
    rw [adopted_frame versions] at left right
    exact governed.single first second left right
  · intro clause member active id version
    rw [adopted_frame versions]
    have found := Table.find?_of_mem member
    rw [goals, Table.find?_update] at found
    obtain ⟨old, stored, same⟩ := map_eq_some_iff.mp found
    have known := (mem_of_find? stored).1
    split at same
    · subst same
      rw [(each old).1] at version
      rcases (each old).2 with kept | retired
      · rw [kept] at active
        exact governed.clauses old known active id version
      · cases retired.symm.trans active
    · subst same
      exact governed.clauses old known active id version

theorem adopted_drafted {version : ConstitutionVersion} (drafted : s.Drafted after version) (id : String) :
    after.Adopted id ↔ s.Adopted id := by
  unfold Adopted
  rw [Table.find?_insert drafted.versions]
  split
  next same =>
    have fresh := (Table.insert?_rows drafted.versions).2
    rw [same] at fresh
    rw [fresh]
    constructor
    · rintro ⟨_, found, active⟩
      cases found
      cases drafted.draft.symm.trans active
    · rintro ⟨_, found, _⟩
      cases found
  next => rfl

theorem Governed.drafted {version : ConstitutionVersion} (governed : s.Governed) (drafted : s.Drafted after version) :
    after.Governed := by
  have adopted (id : String) : after.Adopted id ↔ s.Adopted id := adopted_drafted drafted id
  refine ⟨?_, ?_⟩
  · intro first second left right
    exact governed.single first second ((adopted first).mp left) ((adopted second).mp right)
  · intro clause member active id named
    rw [drafted.goals] at member
    exact (adopted id).mpr (governed.clauses clause member active id named)

variable {now : Int}

theorem adopted_promote {draftId activatedBy : String} {id : String} :
    (s.promote draftId activatedBy now).Adopted id ↔
      s.Adopted id ∨ (id = draftId ∧ ∃ version, s.constitutionVersions.find? id = some version ∧ version.status = .draft) := by
  have row : (s.promote draftId activatedBy now).constitutionVersions.find? id =
      (s.constitutionVersions.find? id).map fun version =>
        if decide (version.id = draftId) && decide (version.status = .draft) then
          { version with status := .active, activatedBy := some activatedBy, activatedAt := some now } else version := by
    simp only [promote, setClauses, setVersion, Table.find?_update]
  unfold Adopted
  rw [row]
  cases found : s.constitutionVersions.find? id with
  | none => simp
  | some version =>
    have named : version.id = id := (mem_of_find? found).2
    by_cases drafted : id = draftId ∧ version.status = .draft
    · simp [named, drafted]
    rw [not_and] at drafted
    by_cases same : id = draftId
    · simp [named, same, drafted same]
    · simp [named, same]

theorem Governed.activated {draftId activatedBy : String} (governed : s.Governed)
    (drafts : ∃ version, s.constitutionVersions.find? draftId = some version ∧ version.status = .draft)
    (free : ∀ version ∈ s.constitutionVersions.rows, version.status ≠ .active) :
    (s.promote draftId activatedBy now).Governed := by
  have none_adopted (id : String) : ¬ s.Adopted id := by
    rintro ⟨version, found, active⟩
    exact free version (mem_of_find? found).1 active
  have only {id : String} (adopted : (s.promote draftId activatedBy now).Adopted id) : id = draftId := by
    rcases adopted_promote.mp adopted with old | ⟨same, _⟩
    · exact absurd old (none_adopted id)
    · exact same
  refine ⟨fun first second left right => (only left).trans (only right).symm, ?_⟩
  intro clause member active id version
  have found := Table.find?_of_mem member
  rw [promote, find?_setClauses] at found
  obtain ⟨old, stored, rfl⟩ := map_eq_some_iff.mp found
  rw [GoalRow.restated_version] at version
  have known : old ∈ s.goals.rows := (mem_of_find? stored).1
  by_cases drafted : old.constitutionVersion = some draftId ∧ old.status = .draft
  · cases drafted.1.symm.trans version
    exact adopted_promote.mpr (.inr ⟨rfl, drafts⟩)
  · rw [GoalRow.restated, if_neg drafted] at active
    exact absurd (governed.clauses old known active id version) (none_adopted id)

theorem adopted_retireVersion {versionId id : String} :
    (s.retireVersion versionId).Adopted id ↔ s.Adopted id ∧ id ≠ versionId := by
  have row : (s.retireVersion versionId).constitutionVersions.find? id =
      (s.constitutionVersions.find? id).map fun version =>
        if version.id = versionId then { version with status := .superseded } else version := by
    simp only [retireVersion, setClauses, setVersion, Table.find?_update, Bool.and_true, decide_eq_true_eq]
  unfold Adopted
  rw [row]
  cases found : s.constitutionVersions.find? id with
  | none => simp
  | some version =>
    have named : version.id = id := (mem_of_find? found).2
    by_cases same : id = versionId
    · simp [named, same]
    · simp [named, same]

theorem adopted_amended {before draftId amendedBy : String}
    (versions : after.constitutionVersions = ((s.retireVersion before).promote draftId amendedBy now).constitutionVersions)
    (drafts : ∃ version, s.constitutionVersions.find? draftId = some version ∧ version.status = .draft)
    (apart : before ≠ draftId) (only : ∀ id, s.Adopted id → id = before) (id : String) : after.Adopted id ↔ id = draftId := by
  obtain ⟨draft, found, drafted⟩ := drafts
  have retired : ∃ version, (s.retireVersion before).constitutionVersions.find? draftId = some version ∧
      version.status = .draft := by
    refine ⟨draft, ?_, drafted⟩
    simp only [retireVersion, setClauses, setVersion, Table.find?_update, found, map_some]
    have named : draft.id = draftId := (mem_of_find? found).2
    rw [named]
    simp [Ne.symm apart]
  rw [adopted_frame versions, adopted_promote, adopted_retireVersion]
  constructor
  · rintro (⟨old, other⟩ | ⟨same, _⟩)
    · exact absurd (only id old) other
    · exact same
  · rintro rfl
    exact .inr ⟨rfl, retired⟩

theorem Governed.amended {reads : AmendmentReads} {draftId amendedBy approvedBy rationale : String}
    {amendment : ConstitutionAmendment} (governed : s.Governed)
    (committed : amendConstitution env reads s draftId amendedBy approvedBy rationale now = .ok (amendment, after))
    (current : ∀ before, reads.before = some before → s.Adopted before) : after.Governed := by
  obtain ⟨before, staged, amendments, read, apart, setup, drafts, _, _, _, _, done⟩ := amendConstitution_ok committed
  have inForce := current before read
  have versions : after.constitutionVersions =
      ((s.retireVersion before).promote draftId (Text.trim amendedBy) now).constitutionVersions := by
    rw [done, setup]
    rfl
  have adopted (id : String) : after.Adopted id ↔ id = draftId :=
    adopted_amended versions drafts apart (fun other old => governed.single other before old inForce) id
  refine ⟨fun first second left right => ((adopted first).mp left).trans ((adopted second).mp right).symm, ?_⟩
  intro clause member active id version
  have goals : after.goals =
      (((s.retireVersion before).promote draftId (Text.trim amendedBy) now).linkSuccessors before draftId).goals := by
    rw [done, setup]
    rfl
  have row := Table.find?_of_mem member
  rw [goals, find?_linkSuccessors, find?_handedOver] at row
  obtain ⟨handed, here, same⟩ := map_eq_some_iff.mp row
  obtain ⟨old, stored, rfl⟩ := map_eq_some_iff.mp here
  have known : old ∈ s.goals.rows := (mem_of_find? stored).1
  have status : (old.handedOver before draftId).status = .active := by
    split at same <;> (subst same; exact active)
  have named : old.constitutionVersion = some id := by
    split at same <;> (subst same; simpa using version)
  rw [adopted]
  rcases GoalRow.handedOver_active status with ⟨_, draftClause⟩ | ⟨governing, other⟩
  · rw [named] at draftClause
    exact Option.some.inj draftClause
  · have governs := governed.clauses old known governing id named
    rw [governed.single id before governs inForce] at named
    exact absurd named other

theorem Governed.step {op : Op} (governed : s.Governed) (change : PolicyChange env s op after)
    (current : s.ReadsCurrent env op) : after.Governed := by
  cases change with
  | same policy => exact governed.frame policy
  | joined joined =>
    induction joined with
    | refl => exact governed
    | tail _ last ih => exact ih.joined last
  | superseded committed read stated =>
    refine governed.joined ⟨_, stated, fun _ id version => ?_⟩
    exact current _ committed _ read id version
  | edited edited => exact governed.edited edited
  | drafted drafted => exact governed.drafted drafted
  | activated drafts free => exact governed.activated drafts free
  | amended committed => exact governed.amended committed fun before read => (current _ committed before read).1
  | cleared =>
    refine ⟨governed.single, ?_⟩
    intro clause member
    cases member

theorem PolicyChange.amendments {op : Op} (change : PolicyChange env s op after) {amendment : ConstitutionAmendment}
    (member : amendment ∈ after.amendments.rows) :
    amendment ∈ s.amendments.rows ∨ ∃ active outgoing incoming draftId amendedBy approvedBy rationale now,
      op = .amend active outgoing incoming draftId amendedBy approvedBy rationale now ∧
      amendConstitution env (amendmentReads active outgoing incoming draftId) s draftId amendedBy approvedBy rationale
        now = .ok (amendment, after) := by
  cases change with
  | same policy => exact .inl (policy.amendments ▸ member)
  | joined joined =>
    refine .inl ?_
    induction joined with
    | refl => exact member
    | tail _ last ih =>
      obtain ⟨_, stated, _⟩ := last
      exact ih (stated.amendments ▸ member)
  | superseded committed read stated => exact .inl (stated.amendments ▸ member)
  | edited edited => exact .inl (edited.amendments ▸ member)
  | drafted drafted => exact .inl (drafted.amendments ▸ member)
  | activated drafts free => exact .inl member
  | @amended active outgoing incoming draftId amendedBy approvedBy rationale now recorded after committed =>
    obtain ⟨before, staged, amendments, _, _, _, _, inserted, _, _, _, done⟩ := amendConstitution_ok committed
    have rows : after.amendments.rows = s.amendments.rows ++ [recorded] := by
      rw [done]
      exact (Table.insert?_rows inserted).1
    rw [rows, mem_append, mem_singleton] at member
    rcases member with old | rfl
    · exact .inl old
    · exact .inr ⟨active, outgoing, incoming, draftId, amendedBy, approvedBy, rationale, now, rfl, committed⟩
  | cleared => exact .inl member

end
end Store

/-- The amendment was recorded by a step that found its outgoing version active
and both clause sets exactly as far apart as its diff says. -/
def Enacted (history : List (Entry Store Op)) (amendment : ConstitutionAmendment) : Prop :=
  ∃ entry ∈ history, ∃ active outgoing incoming amendedBy approvedBy rationale now,
    entry.op = .amend active outgoing incoming amendment.toVersion amendedBy approvedBy rationale now ∧
    entry.after.amendments.find? amendment.id = some amendment ∧ entry.before.Adopted amendment.fromVersion ∧
    amendment.diff = diffClauses (entry.before.clausesForVersion amendment.fromVersion)
      (entry.before.clausesForVersion amendment.toVersion)

def OneConstitution (history : List (Entry Store Op)) (state : Store) : Prop :=
  state.Governed ∧ ∀ amendment ∈ state.amendments.rows, Enacted history amendment

theorem Store.adopted_of_status {s : Store} {id : String}
    (status : (s.constitutionVersions.find? id).map ConstitutionVersion.status = some .active) : s.Adopted id := by
  obtain ⟨version, found, active⟩ := map_eq_some_iff.mp status
  exact ⟨version, found, active⟩

theorem Store.readsCurrent_amend (env : Env) (s : Store) (draftId amendedBy approvedBy rationale : String) (now : Int) :
    s.ReadsCurrent env (.amend s s s draftId amendedBy approvedBy rationale now) := by
  intro _ _ before read
  refine ⟨?_, rfl, rfl⟩
  obtain ⟨version, found, rfl⟩ := map_eq_some_iff.mp read
  have newest := (perm_insertionSort _ _).mem_iff.mp (mem_of_head? found)
  obtain ⟨member, active⟩ := mem_filter.mp newest
  exact ⟨version, Table.find?_of_mem member, by simpa using active⟩

section
variable {history : List (Entry Store Op)} {state : Store}

/-- While supersessions and amendments act on what still stands, one
constitution governs. -/
theorem one_constitution_governs (run : (localStore env).Run history state)
    (current : ∀ entry ∈ history, entry.before.ReadsCurrent env entry.op) : OneConstitution history state := by
  induction run with
  | start =>
    refine ⟨⟨?_, ?_⟩, ?_⟩
    · rintro _ _ ⟨_, found, _⟩
      cases found
    · intro clause member
      cases member
    · intro amendment member
      cases member
  | @step history before past op ready ih =>
    obtain ⟨governed, enacted⟩ := ih fun entry member => current entry (mem_cons_of_mem _ member)
    have met : before.ReadsCurrent env op := current _ mem_cons_self
    have change : Store.PolicyChange env before op ((localStore env).apply before op) := Store.perform_policy env before op
    generalize (localStore env).apply before op = after at change ⊢
    refine ⟨governed.step change met, ?_⟩
    intro amendment member
    rcases change.amendments member with old | ⟨active, outgoing, incoming, draftId, amendedBy, approvedBy, rationale, now,
      rfl, committed⟩
    · obtain ⟨entry, earlier, rest⟩ := enacted amendment old
      exact ⟨entry, mem_cons_of_mem _ earlier, rest⟩
    · obtain ⟨from_, staged, amendments, read, _, _, _, inserted, outgoingId, incomingId, diff, done⟩ :=
        Store.amendConstitution_ok committed
      obtain ⟨inForce, same, same'⟩ := met _ committed from_ read
      refine ⟨_, mem_cons_self, active, outgoing, incoming, amendedBy, approvedBy, rationale, now, ?_, ?_, ?_, ?_⟩
      · rw [incomingId]
      · exact Table.find?_of_mem member
      · rw [outgoingId]
        exact inForce
      · rw [diff, outgoingId, incomingId]
        have read' : active.activeConstitutionVersion.map ConstitutionVersion.id = some from_ := read
        simp only [Store.amendmentReads, read', map_some, getD_some, same, same']

end
theorem amendedOnce_governed : OneConstitution ((localStore Env.plain).replay amendedOnce).1
    ((localStore Env.plain).replay amendedOnce).2 := by
  refine one_constitution_governs amendedOnce_ready.run ?_
  intro entry member
  simp only [amendedOnce, redrafted, Machine.replay, mem_cons, not_mem_nil, or_false] at member
  rcases member with rfl | rfl | rfl | rfl | rfl | rfl | rfl
  · exact Store.readsCurrent_amend _ _ _ _ _ _ _
  all_goals trivial

def draftedAgain : List (Store → Op) :=
  [fun s => Op.draftClause s "constitution:v3" .objective "Ship" "It ships hourly" 8,
    fun s => Op.proposeAmendment s none 7,
    fun s => Op.amend s s s "constitution:v2" "ann" "bob" "daily" 6] ++ redrafted

/-- An amendment by a process that read the active version before the other
amendment and its own draft after it. -/
def staleAmendment : Op :=
  .amend ((localStore Env.plain).replay redrafted).2 ((localStore Env.plain).replay redrafted).2
    ((localStore Env.plain).replay draftedAgain).2 "constitution:v3" "cat" "bob" "hourly" 9

/-- It commits, and two versions are active. -/
theorem two_active_versions : ¬ ∀ env history state, (localStore env).Run history state → OneConstitution history state := by
  intro always
  have past : (localStore Env.plain).Replays draftedAgain :=
    Ready.run (by simp +contextual [draftedAgain, redrafted_ready, Op.enabled, Op.reads])
  have stale : ((localStore Env.plain).replay redrafted).2 ∈
      (localStore Env.plain).visited ((localStore Env.plain).replay draftedAgain).1 := Machine.replay_visited _ _
  have ready : Op.enabled ((localStore Env.plain).visited ((localStore Env.plain).replay draftedAgain).1) staleAmendment := by
    refine ⟨?_, trivial⟩
    intro seen member
    simp only [staleAmendment, Op.reads, mem_cons, not_mem_nil, or_false] at member
    rcases member with rfl | rfl | rfl
    · exact stale
    · exact stale
    · exact past.current_visited
  have run := past.step staleAmendment ready
  have second : (((localStore Env.plain).apply ((localStore Env.plain).replay draftedAgain).2
      staleAmendment).constitutionVersions.find? "constitution:v2").map ConstitutionVersion.status = some .active := by
    decide +kernel
  have third : (((localStore Env.plain).apply ((localStore Env.plain).replay draftedAgain).2
      staleAmendment).constitutionVersions.find? "constitution:v3").map ConstitutionVersion.status = some .active := by
    decide +kernel
  have same := (always _ _ _ run).1.single _ _ (Store.adopted_of_status second) (Store.adopted_of_status third)
  simp at same

end MindLeak.Lodestar
