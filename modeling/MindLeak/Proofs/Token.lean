import MindLeak.Proofs.Certification
import MindLeak.Proofs.Evidence

/-! What a check's token watches. It pins the rows of the waivers a verdict leans
on, so a revocation between the check and the completion's reads shows. It pins
their expiry as a number, so the clock passing it does not. -/

namespace MindLeak.Lodestar

open List Table Env

theorem mem_sortDedup {values : List String} {value : String} : value ∈ sortDedup values ↔ value ∈ values := by
  have sorted : (values.insertionSort fun left right => left ≤ right).Pairwise fun left right => left ≤ right :=
    pairwise_insertionSort _ _
  unfold sortDedup
  rw [sorted.destutter_eq_dedup, mem_dedup, mem_insertionSort]

def Waiver.face (waiver : Waiver) : TokenFact :=
  .waiver waiver.id waiver.clauseId waiver.scope waiver.status waiver.expiresAt

variable {env : Env} {seen told made before : Store} {evidence : ConformanceEvidence} {task : Option Task}
  {lessons : List Lesson} {now : Int} {check : ConformanceCheck}

namespace Store

/-- The waivers a verdict leans on: the one that stands the first lock down, and
once no lock stopped the walk those that answer for uncovered nodes. -/
def reliedWaivers (s : Store) (evidence : ConformanceEvidence) (task : Option Task) (inputs : CheckInputs) :
    List Waiver :=
  if (evidence.changedNodeIds.isEmpty && evidence.ledgerActIds.isEmpty) || evidence.provenance.isEmpty then []
  else
    let covered := match task with
      | some task => s.goalCoverageOf task.id
      | none => []
    let governing := s.resolveGoverningClausesCovering evidence.changedNodeIds (task.map Task.goalId) covered
    match s.lockStep governing inputs.lockNow [] with
    | .inl _ => []
    | .inr _ =>
      (governing.forbid.head?.bind fun (node, clause) => s.excusingWaiver clause node inputs.lockNow).toList ++
        governing.other.filterMap fun (node, clause) => s.excusingWaiver clause node inputs.driftNow

def Holds (s : Store) (waiver : Waiver) : Prop := ∃ row ∈ s.waivers.rows, row.face = waiver.face

def InForce (s : Store) (waiver : Waiver) (now : Int) : Prop :=
  ∃ row ∈ s.waivers.rows, row.id = waiver.id ∧ row.clauseId = waiver.clauseId ∧ row.scope = waiver.scope ∧
    row.expiresAt = waiver.expiresAt ∧ row.isLive now = true

instance (s : Store) (waiver : Waiver) : Decidable (s.Holds waiver) :=
  inferInstanceAs (Decidable (∃ row ∈ s.waivers.rows, row.face = waiver.face))

/-- A token made here names the waiver: its clause is bound to a changed node. -/
def Pins (s : Store) (evidence : ConformanceEvidence) (waiver : Waiver) : Prop :=
  s.Holds waiver ∧ ∃ node ∈ evidence.changedNodeIds, ∃ binding ∈ s.activeBindingsForNode node,
    binding.goal.id = waiver.clauseId

/-- Gone by the time of the transaction, though the two states the token compares
do not show it: it was not pinned, or went after the completion had read. -/
def GoneUnseen (made seen before : Store) (evidence : ConformanceEvidence) (waiver : Waiver) : Prop :=
  ¬ before.Holds waiver ∧ (made.Pins evidence waiver → seen.Holds waiver)

variable {s : Store} {inputs : CheckInputs} {waiver : Waiver}

theorem inForce_iff (active : waiver.status = .active) : s.InForce waiver now ↔ s.Holds waiver ∧ now < waiver.expiresAt := by
  constructor
  · rintro ⟨row, member, id, clause, scope, expiry, alive⟩
    simp only [Waiver.isLive, Bool.and_eq_true, decide_eq_true_eq] at alive
    refine ⟨⟨row, member, ?_⟩, expiry ▸ alive.2⟩
    rw [Waiver.face, Waiver.face, id, clause, scope, alive.1, active, expiry]
  · rintro ⟨⟨row, member, same⟩, early⟩
    simp only [Waiver.face, TokenFact.waiver.injEq] at same
    obtain ⟨id, clause, scope, status, expiry⟩ := same
    refine ⟨row, member, id, clause, scope, expiry, ?_⟩
    simp [Waiver.isLive, status, active, expiry, early]

theorem excusingWaiver_active {clause : Goal} {node : String} (excused : s.excusingWaiver clause node now = some waiver) :
    waiver.status = .active := by
  have listed := (perm_insertionSort _ _).mem_iff.mp (mem_of_mem_head? excused)
  have applies := (mem_filter.mp listed).2
  simp only [Waiver.appliesTo, Bool.and_eq_true, decide_eq_true_eq] at applies
  exact applies.1.1

theorem relied_active (relied : waiver ∈ s.reliedWaivers evidence task inputs) : waiver.status = .active := by
  unfold reliedWaivers at relied
  split at relied
  · cases relied
  dsimp only at relied
  split at relied
  · cases relied
  rcases mem_append.mp relied with lock | drift
  · obtain ⟨⟨node, clause⟩, _, excused⟩ := Option.bind_eq_some_iff.mp (Option.mem_toList.mp lock)
    exact excusingWaiver_active excused
  · obtain ⟨⟨node, clause⟩, _, excused⟩ := mem_filterMap.mp drift
    exact excusingWaiver_active excused

def policyFacts (s : Store) (evidence : ConformanceEvidence) (lessons : List Lesson) : List TokenFact :=
  let nodes := sortDedup evidence.changedNodeIds
  let clauseIds := sortDedup (nodes.flatMap fun node => (s.activeBindingsForNode node).map fun binding => binding.goal.id)
  (nodes.flatMap fun node =>
      (s.activeBindingsForNode node).map fun binding => TokenFact.binding node binding.mode binding.goal) ++
    (lessons.filter fun lesson => lesson.referencedNodes.any fun node => decide (node ∈ nodes)).map TokenFact.knowledge ++
    (s.activeConstitutionVersion.map fun version => TokenFact.constitution version.id version.version).toList ++
    clauseIds.flatMap fun clauseId =>
      ((s.controlsForClause clauseId).map fun control =>
        TokenFact.control control.id control.clauseId control.version control.power) ++
        (s.waiversForClause clauseId).map Waiver.face

theorem face_mem_basis {basis : List TokenFact} (made : s.tokenBasis evidence task lessons = .ok basis) :
    waiver.face ∈ basis ↔ s.Pins evidence waiver := by
  have split : ∃ claim, waiver.face ∉ claim ∧ (.ok basis : Result (List TokenFact)) = .ok (claim ++ s.policyFacts evidence lessons) := by
    rw [← made]
    cases task with
    | none => exact ⟨[], not_mem_nil, rfl⟩
    | some row =>
      cases found : s.goals.find? row.goalId with
      | none => simp [tokenBasis, found, throw_eq] at made
      | some goal =>
        refine ⟨[.claim row.id row.goalId (row.owner.getD "") (row.claimStartedAt.getD 0) (s.claimWindow row.id).lapses,
          .taskGoal goal.toGoal], by simp [Waiver.face], ?_⟩
        simp only [tokenBasis, found]
        rfl
  obtain ⟨claim, unclaimed, same⟩ := split
  cases same
  unfold Waiver.face at unclaimed
  simp only [policyFacts, mem_append, unclaimed, false_or, mem_flatMap, mem_map, mem_sortDedup, Option.mem_toList,
    Option.map_eq_some_iff, Waiver.face, reduceCtorEq, and_false, exists_false, false_or, or_false]
  constructor
  · rintro ⟨clauseId, ⟨node, changed, binding, bound, named⟩, row, listed, same⟩
    obtain ⟨member, clause⟩ := mem_filter.mp ((perm_insertionSort _ _).mem_iff.mp listed)
    refine ⟨⟨row, member, same⟩, node, changed, binding, bound, ?_⟩
    simp only [TokenFact.waiver.injEq] at same
    rw [named, ← of_decide_eq_true clause, same.2.1]
  · rintro ⟨⟨row, member, same⟩, node, changed, binding, bound, named⟩
    refine ⟨waiver.clauseId, ⟨node, changed, binding, bound, named⟩, row, ?_, same⟩
    refine (perm_insertionSort _ _).mem_iff.mpr (mem_filter.mpr ⟨member, ?_⟩)
    simp only [Waiver.face, TokenFact.waiver.injEq] at same
    exact decide_eq_true same.2.1

theorem checkConformance_issues {requested : Option String} {checkedAt : Int}
    (done : checkConformance env told s evidence requested inputs now checkedAt = .ok (check, made)) :
    ∃ task result record basis, told.judgeEvidence evidence requested inputs now = .ok (task, result) ∧
      record.id = check.id ∧ record.evidence = evidence ∧ check.id = s.conformanceSeq + 1 ∧
      made.conformance = s.conformance.insertOrIgnore record ∧
      made.tokenBasis evidence task inputs.lessons = .ok basis ∧
      check.token = env.tokenDigest check.id evidence check.verdict check.findings basis := by
  obtain ⟨⟨task, result⟩, judged, done⟩ := bind_ok done
  obtain ⟨token, tokened, done⟩ := bind_ok done
  obtain ⟨basis, based, tokened⟩ := bind_ok tokened
  cases done
  cases tokened
  exact ⟨task, result, _, basis, judged, rfl, rfl, rfl, rfl, based, rfl⟩

structure ReachesToken (s : Store) (id agent : String) (evidence : ConformanceEvidence) (check : ConformanceCheck)
    (lessons : List Lesson) (now : Int) (task : Task) (basis : List TokenFact) : Prop where
  found : s.getTask id = some task
  claim : s.validateClaimEvidence task agent evidence now = .ok ()
  recorded : ∃ record, s.conformance.find? check.id = some record ∧ authorises record task evidence check now = true
  based : s.tokenBasis evidence (some task) lessons = .ok basis

theorem validateCompletion_token {id agent : String}
    (valid : s.validateCompletion env id agent evidence check lessons now = .ok ()) :
    ∃ task basis, s.ReachesToken id agent evidence check lessons now task basis ∧
      check.token = env.tokenDigest check.id evidence check.verdict check.findings basis := by
  simp only [validateCompletion, throw_eq, error_bind] at valid
  split at valid
  · cases valid
  rename_i task found
  obtain ⟨_, claim, valid⟩ := bind_ok valid
  split at valid
  · cases valid
  rename_i record stored
  obtain ⟨authorised, valid⟩ := ite_else valid
  obtain ⟨token, tokened, valid⟩ := bind_ok valid
  obtain ⟨basis, based, tokened⟩ := bind_ok tokened
  obtain ⟨same, valid⟩ := ite_else valid
  cases tokened
  exact ⟨task, basis, ⟨found, claim, ⟨record, stored, by simpa using authorised⟩, based⟩, by simpa using same⟩

def staleCheck (number : Int) : LodestarError :=
  .invalid s!"conformance check {number} is stale; check the evidence again"

theorem ReachesToken.stale {id agent : String} {row : Task} {basis : List TokenFact}
    (reaches : s.ReachesToken id agent evidence check lessons now row basis)
    (differs : check.token ≠ env.tokenDigest check.id evidence check.verdict check.findings basis) :
    s.validateCompletion env id agent evidence check lessons now = .error (staleCheck check.id) := by
  obtain ⟨found, claim, ⟨record, stored, authorised⟩, based⟩ := reaches
  simp only [validateCompletion, found, claim, ok_bind, stored, authorised, conformanceToken, based, pure_eq, throw_eq]
  simp [differs, staleCheck]

end Store

section
variable {history : List (Entry Store Op)} {state after : Store} {submitted : ConformanceEvidence}
  {inputs : Store.CheckInputs} {id agent : String}

/-- A check in the history judged what `told` read and handed `check` out in `made`. -/
def Issued (env : Env) (history : List (Entry Store Op)) (told made : Store) (evidence : ConformanceEvidence)
    (task : Option Task) (inputs : Store.CheckInputs) (check : ConformanceCheck) : Prop :=
  ∃ before requested now checkedAt result,
    ⟨before, .check told evidence requested inputs now checkedAt, made⟩ ∈ history ∧
      Store.checkConformance env told before evidence requested inputs now checkedAt = .ok (check, made) ∧
      told.judgeEvidence evidence requested inputs now = .ok (task, result)

theorem Issued.recorded (run : (localStore env).Run history state)
    (issued : Issued env history told made evidence task inputs check) : made ∈ (localStore env).visited history ∧
      (∃ record, made.conformance.find? check.id = some record ∧ record.evidence = evidence) ∧
      ∃ basis, made.tokenBasis evidence task inputs.lessons = .ok basis ∧
        check.token = env.tokenDigest check.id evidence check.verdict check.findings basis := by
  obtain ⟨before, requested, now, checkedAt, result, member, done, judged⟩ := issued
  have visited : made ∈ (localStore env).visited history := mem_append_left _ (mem_map_of_mem member)
  have numbered : before.Numbered := by
    refine (run.entry_good Store.Numbered ?_ ?_ member).1
    · intro record stored
      cases stored
    · intro before op numbered
      exact numbered.step (Store.perform_change env before op).recording
  obtain ⟨row, _, record, basis, rejudged, named, agreed, next, records, based, tokened⟩ := Store.checkConformance_issues done
  cases judged.symm.trans rejudged
  refine ⟨visited, ⟨record, ?_, agreed⟩, basis, based, tokened⟩
  have fresh : before.conformance.find? record.id = none := by
    rw [find?_eq_none_iff]
    intro taken
    obtain ⟨other, stored, same⟩ := mem_map.mp taken
    have bounded := numbered other stored
    have number : other.id = check.id := same.trans named
    omega
  obtain ⟨table, inserted⟩ := insert?_of_fresh fresh
  rw [records, insertOrIgnore, inserted, Option.getD_some, find?_insert inserted]
  exact if_pos named

theorem Issued.evidence_eq (run : (localStore env).Run history state)
    (issued : Issued env history told made evidence task inputs check) {record : ConformanceRecord}
    (visited : seen ∈ (localStore env).visited history) (stored : seen.conformance.find? check.id = some record) :
    record.evidence = evidence := by
  obtain ⟨visitedMade, ⟨original, kept, agreed⟩, _⟩ := issued.recorded run
  have same : record = original := by
    rcases run.ordered Store.Recorded Store.Recorded.refl Store.Recorded.trans
      (fun before op => (Store.perform_change env before op).recording.recorded) made visitedMade seen visited with
      later | earlier
    · exact (Store.Recorded.find?_eq ((run_numbered run).2 made visitedMade) later kept stored).symm
    · exact Store.Recorded.find?_eq ((run_numbered run).2 seen visited) earlier stored kept
  rw [same, agreed]

/-- No two bases of the check and the completion collide in the digest. -/
def NoCollision (env : Env) (evidence : ConformanceEvidence) (check : ConformanceCheck)
    (made seen : Store) (task : Option Task) (id : String) (first second : List Lesson) : Prop :=
  ∀ row issued compared, seen.getTask id = some row → made.tokenBasis evidence task first = .ok issued →
    seen.tokenBasis evidence (some row) second = .ok compared →
      env.tokenDigest check.id evidence check.verdict check.findings issued =
        env.tokenDigest check.id evidence check.verdict check.findings compared → issued.Perm compared

/-- A completion that gets through under a check's token finds a waiver the
verdict relied on in force exactly when its expiry has not passed and it did not
go unseen; one that went in sight of the token makes the check stale. -/
theorem token_watches_waivers (run : (localStore env).Run history state)
    (issued : Issued env history told made evidence task inputs check)
    (attempted : ⟨before, .complete seen id agent submitted check lessons now, after⟩ ∈ history)
    (distinct : NoCollision env evidence check made seen task id inputs.lessons lessons) :
    ∀ waiver ∈ told.reliedWaivers evidence task inputs,
      (∀ result last, Store.completeTask env seen before id agent submitted check lessons now = .ok (result, last) →
        (before.InForce waiver now ↔
          now < waiver.expiresAt ∧ ¬ Store.GoneUnseen made seen before evidence waiver)) ∧
      (¬ before.InForce waiver now → now < waiver.expiresAt → ¬ Store.GoneUnseen made seen before evidence waiver →
        ∀ owner row basis, resolveAgent agent = .ok owner →
          seen.ReachesToken id owner submitted check lessons now row basis →
            Store.completeTask env seen before id agent submitted check lessons now =
              .error (Store.staleCheck check.id)) := by
  intro waiver relied
  have active := Store.relied_active relied
  have visited : seen ∈ (localStore env).visited history := by
    obtain ⟨past, ready, known⟩ := run.entry_ready attempted
    exact known (ready.1 seen (mem_singleton.mpr rfl))
  obtain ⟨_, _, first, based, tokened⟩ := issued.recorded run
  -- equal tokens show the completion every row the check pinned
  have shown (owner : String) (row : Task) (basis : List TokenFact)
      (reaches : seen.ReachesToken id owner submitted check lessons now row basis)
      (same : check.token = env.tokenDigest check.id submitted check.verdict check.findings basis)
      (pinned : made.Pins evidence waiver) : seen.Holds waiver := by
    obtain ⟨record, stored, authorised⟩ := reaches.recorded
    have agreed : submitted = evidence :=
      (Store.authorises_evidence authorised).symm.trans (issued.evidence_eq run visited stored)
    subst agreed
    have equal := distinct row first basis reaches.found based reaches.based (tokened.symm.trans same)
    have named := (Store.face_mem_basis based).mpr pinned
    exact ((Store.face_mem_basis reaches.based).mp (equal.mem_iff.mp named)).1
  constructor
  · intro result last done
    obtain ⟨owner, _, _, _, valid, _⟩ := Store.completeTask_ok done
    obtain ⟨row, basis, reaches, same⟩ := Store.validateCompletion_token valid
    rw [Store.inForce_iff active]
    constructor
    · intro ⟨holds, early⟩
      exact ⟨early, fun gone => gone.1 holds⟩
    · intro ⟨early, watched⟩
      refine ⟨?_, early⟩
      by_contra lost
      exact watched ⟨lost, shown owner row basis reaches same⟩
  · intro lost early watched owner row basis resolved reaches
    have differs : check.token ≠ env.tokenDigest check.id submitted check.verdict check.findings basis := by
      intro same
      apply watched
      refine ⟨?_, shown owner row basis reaches same⟩
      intro holds
      exact lost ((Store.inForce_iff active).mpr ⟨holds, early⟩)
    unfold Store.completeTask
    rw [resolved, ok_bind, reaches.stale differs, error_bind]

end

def waivedLock : List (Store → Op) :=
  [fun _ => Op.grantWaiver "waiver:1" ⟨"goal:keys@constitution:v1", "artifact:keys", "rotation", "bob", 100, none⟩ 8,
    fun s => Op.link s "goal:keys@constitution:v1" ["artifact:keys"] .forbidChange] ++
    claimedByAnn.take 3 ++
    [fun s => Op.contract s "goal:keys@constitution:v1" "keys" "a rotation log" none true none,
      fun s => Op.draftClause s "constitution:v1" .constraint "Keys" "Keys stay" 3] ++
    claimedByAnn.drop 3

def checkedUnderWaiver : List (Store → Op) :=
  (fun s => .check s changesKeys none ⟨none, [], 10, 10⟩ 10 10) :: waivedLock

def checkOfKeys : ConformanceCheck :=
  let findings := ["goal:keys@constitution:v1 forbids changes to artifact:keys, waived by bob until 100 (waiver:1)",
    "evidence does not touch code bound to the task goal"]
  ⟨1, "1:aligned:" ++ "; ".intercalate findings, .aligned, findings⟩

def completesKeys (now : Int) : Store → Op := fun s =>
  .complete s "task:goal:ship@constitution:v1|first|6" "ann" changesKeys checkOfKeys [] now

theorem completesKeys_run (now : Int) :
    (localStore plain).Replays (completesKeys now :: checkedUnderWaiver) := by
  have ready : Ready (completesKeys now :: checkedUnderWaiver) := by
    simp +contextual [completesKeys, checkedUnderWaiver, waivedLock, claimedByAnn, Op.enabled, Op.reads]
  exact ready.run

def waiverOfBob : Waiver where
  id := "waiver:1"
  clauseId := "goal:keys@constitution:v1"
  constitutionVersion := some "constitution:v1"
  scope := "artifact:keys"
  reason := "rotation"
  approvedBy := "bob"
  createdAt := 8
  expiresAt := 100
  remediationTaskId := none
  status := .active

/-- The check behind the waiver, and the state that it leaves: the task may be completed inside the waiver's time and past it. -/
theorem checkOfKeys_reads :
    let locked := ((localStore plain).replay waivedLock).2
    let checked := ((localStore plain).replay checkedUnderWaiver).2
    (Store.checkConformance plain locked locked changesKeys none ⟨none, [], 10, 10⟩ 10 10).toOption.map Prod.fst = some checkOfKeys ∧
      locked.judgeEvidence changesKeys none ⟨none, [], 10, 10⟩ 10 = .ok (some taskOfAnn, ⟨.aligned, checkOfKeys.findings⟩) ∧
      waiverOfBob ∈ locked.reliedWaivers changesKeys (some taskOfAnn) ⟨none, [], 10, 10⟩ ∧
      checked.getTask "task:goal:ship@constitution:v1|first|6" = some taskOfAnn ∧ checked.Holds waiverOfBob ∧
      ∀ now ∈ [(20 : Int), 105], (Store.completeTask plain checked checked "task:goal:ship@constitution:v1|first|6" "ann" changesKeys
        checkOfKeys [] now).toOption.map (fun answer => answer.1.verdict) = some .aligned := by
  decide +kernel

theorem checkOfKeys_issued (now : Int) :
    Issued plain ((localStore plain).replay (completesKeys now :: checkedUnderWaiver)).1
      ((localStore plain).replay waivedLock).2
      ((localStore plain).replay checkedUnderWaiver).2 changesKeys (some taskOfAnn) ⟨none, [], 10, 10⟩
      checkOfKeys := by
  obtain ⟨⟨check, made⟩, done, rfl⟩ := of_toOption_map checkOfKeys_reads.1
  have left : ((localStore plain).replay checkedUnderWaiver).2 = made := by
    rw [checkedUnderWaiver, Machine.replay_cons]
    generalize ((localStore plain).replay waivedLock).2 = locked at done ⊢
    simp only [localStore, Store.perform, done, Store.settled]
  refine ⟨_, none, 10, 10, ⟨.aligned, checkOfKeys.findings⟩, mem_cons_of_mem _ mem_cons_self, ?_, ?_⟩
  · rw [left]
    exact done
  · exact checkOfKeys_reads.2.1

theorem checkOfKeys_distinct : NoCollision plain changesKeys checkOfKeys
    ((localStore plain).replay checkedUnderWaiver).2 ((localStore plain).replay checkedUnderWaiver).2
    (some taskOfAnn) "task:goal:ship@constitution:v1|first|6" [] [] := by
  intro row issued compared found first second _
  cases checkOfKeys_reads.2.2.2.1.symm.trans found
  cases first.symm.trans second
  exact .refl _

/-- Inside the waiver's time the completion goes through and finds it in force. -/
theorem token_watches_waivers_early :
    ((localStore Env.plain).replay checkedUnderWaiver).2.InForce waiverOfBob 20 := by
  obtain ⟨⟨result, last⟩, done, _⟩ := of_toOption_map (checkOfKeys_reads.2.2.2.2.2 20 (by decide))
  have watched := token_watches_waivers (completesKeys_run 20) (checkOfKeys_issued 20) mem_cons_self
    checkOfKeys_distinct waiverOfBob checkOfKeys_reads.2.2.1
  refine (watched.1 result last done).mpr ⟨by decide, ?_⟩
  intro gone
  exact gone.1 checkOfKeys_reads.2.2.2.2.1

/-- The clock passes the expiry, the token still matches, and the task is done. -/
theorem expiry_outlives_token : ¬ ∀ env history state told made seen before after evidence submitted task inputs check
    id agent lessons now, (localStore env).Run history state →
      Issued env history told made evidence task inputs check →
        ⟨before, .complete seen id agent submitted check lessons now, after⟩ ∈ history →
          NoCollision env evidence check made seen task id inputs.lessons lessons →
            ∀ waiver ∈ told.reliedWaivers evidence task inputs, ∀ result last,
              Store.completeTask env seen before id agent submitted check lessons now = .ok (result, last) →
                before.InForce waiver now := by
  intro always
  obtain ⟨⟨result, last⟩, done, _⟩ := of_toOption_map (checkOfKeys_reads.2.2.2.2.2 105 (by decide))
  have inForce := always Env.plain _ _ _ _ _ _ _ _ _ _ _ _ _ _ _ _ (completesKeys_run 105) (checkOfKeys_issued 105)
    mem_cons_self checkOfKeys_distinct waiverOfBob checkOfKeys_reads.2.2.1 result last done
  have early := ((Store.inForce_iff rfl).mp inForce).2
  exact absurd early (by decide)

end MindLeak.Lodestar
