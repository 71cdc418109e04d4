import MindLeak.Proofs.Evidence
import MindLeak.Proofs.Fates

/-! How many claims one agent may hold, over runs from any state within the cap.
Claiming and recovering count first; answering and resuming do not. -/

namespace MindLeak.Lodestar

open List Bool

namespace Store

def claimsOf (s : Store) (agent : String) : List String :=
  (s.tasks.rows.filter fun task => decide (task.status = .claimed) && heldBy agent task).map Task.id

def Capped (s : Store) : Prop := ∀ agent, (s.heldClaims agent).length ≤ MAX_CONCURRENT_CLAIMS

def LeavesRoom (s : Store) : Op → Prop
  | .answer id _ _ _ _ => ∀ task ∈ s.getTask id, task.status = .needsInput →
      ∀ agent ∈ task.owner, (s.heldClaims agent).length < MAX_CONCURRENT_CLAIMS
  | .resume id agent _ _ => ∀ task ∈ s.getTask id, task.status = .paused → task.owner = some agent →
      (s.heldClaims agent).length < MAX_CONCURRENT_CLAIMS
  | _ => True

instance (s : Store) : ∀ op : Op, Decidable (s.LeavesRoom op) := by
  rintro ⟨⟩ <;> (dsimp only [LeavesRoom]; infer_instance)

variable {s after : Store} {agent id : String}

section

theorem mem_claimsOf : id ∈ s.claimsOf agent ↔
    ∃ task, s.getTask id = some task ∧ task.status = .claimed ∧ task.owner = some agent := by
  simp only [claimsOf, heldBy, mem_map, mem_filter, and_eq_true, decide_eq_true_eq]
  constructor
  · rintro ⟨task, ⟨member, claimed, owned⟩, rfl⟩
    exact ⟨task, mem_getTask member, claimed, owned⟩
  · rintro ⟨task, found, claimed, owned⟩
    exact ⟨task, ⟨getTask_mem found, claimed, owned⟩, getTask_id found⟩

theorem claimsOf_nodup (s : Store) (agent : String) : (s.claimsOf agent).Nodup :=
  s.tasks.unique.sublist (filter_sublist.map _)

theorem heldClaims_length (s : Store) (agent : String) : (s.heldClaims agent).length = (s.claimsOf agent).length := by
  rw [heldClaims, length_insertionSort, claimsOf, length_map]

theorem claims_grow (others : ∀ key ∈ after.claimsOf agent, key ≠ id → key ∈ s.claimsOf agent) :
    (after.claimsOf agent).length ≤ (s.claimsOf agent).length + 1 := by
  have inside : after.claimsOf agent ⊆ id :: s.claimsOf agent := by
    intro key held
    by_cases same : key = id
    · simp [same]
    · exact mem_cons_of_mem _ (others key held same)
  exact ((after.claimsOf_nodup agent).subperm inside).length_le

theorem claims_shrink (kept : ∀ key ∈ after.claimsOf agent, key ∈ s.claimsOf agent) :
    (after.claimsOf agent).length ≤ (s.claimsOf agent).length :=
  ((after.claimsOf_nodup agent).subperm kept).length_le

theorem claims_join (fresh : id ∉ s.claimsOf agent) (joined : id ∈ after.claimsOf agent)
    (kept : ∀ key ∈ s.claimsOf agent, key ∈ after.claimsOf agent) :
    (s.claimsOf agent).length + 1 ≤ (after.claimsOf agent).length := by
  have inside : id :: s.claimsOf agent ⊆ after.claimsOf agent := by
    intro key member
    rcases mem_cons.mp member with rfl | held
    · exact joined
    · exact kept key held
  exact ((nodup_cons.mpr ⟨fresh, s.claimsOf_nodup agent⟩).subperm inside).length_le

end

inductive Enters (s : Store) (id agent : String) : Op → Prop
  | claim {leaseSecs paths symbols now} : Enters s id agent (.claim id agent leaseSecs paths symbols now)
  | recover {expectedOwner recovering why reviewer leaseSecs now} (target : recovering.agent = agent) :
      Enters s id agent (.recover id expectedOwner recovering why reviewer leaseSecs now)
  | answer {answer author leaseSecs now task} (found : s.getTask id = some task) (parked : task.status = .needsInput)
      (owned : task.owner = some agent) : Enters s id agent (.answer id answer author leaseSecs now)
  | resume {leaseSecs now task} (found : s.getTask id = some task) (parked : task.status = .paused)
      (owned : task.owner = some agent) : Enters s id agent (.resume id agent leaseSecs now)

theorem Enters.unique {s : Store} {id key agent : String} {op : Op} (first : s.Enters id agent op)
    (second : s.Enters key agent op) : id = key := by
  cases first <;> cases second <;> rfl

section
variable {env : Env} {op : Op}

theorem Fate.enters (fate : s.Fate op after id) (held : id ∈ after.claimsOf agent) :
    id ∈ s.claimsOf agent ∨ s.Enters id agent op := by
  obtain ⟨task, found, claimed, owned⟩ := mem_claimsOf.mp held
  cases fate with
  | still alone => exact .inl (mem_claimsOf.mpr ⟨task, alone.row.symm.trans found, claimed, owned⟩)
  | @wrote now row write kind acts taken cause written =>
    cases written.left.symm.trans found
    cases cause with
    | rewrite rewrite issued admitted =>
      have before := rewrite.takes_from taken admitted
      cases issued with
      | claim =>
        cases Option.some.inj owned
        exact .inr .claim
      | recover => exact .inr (.recover (Option.some.inj owned))
      | answer => exact .inr (.answer written.found (mem_singleton.mp before) owned)
      | resume =>
        simp only [Rewrite.write, resumeWrite, heldBy, and_eq_true, decide_eq_true_eq] at taken
        cases taken.1.symm.trans owned
        exact .inr (.resume written.found taken.2 owned)
      | renew | touch | reconnect =>
        exact .inl (mem_claimsOf.mpr ⟨row, written.found, mem_singleton.mp before, owned⟩)
      | release | ask | pause | reopen => cases claimed
    | @complete seen by_ evidence check lessons owner issued => cases owned
    | block | abandon | resolve | unblock => cases claimed
  | noted acts working written =>
    cases written.left.symm.trans found
    exact .inl (mem_claimsOf.mpr ⟨task, written.found, working, owned⟩)
  | @carried row goalId updatedAt kept left log =>
    cases left.symm.trans found
    exact .inl (mem_claimsOf.mpr ⟨row, kept, claimed, owned⟩)
  | born acts fresh written =>
    obtain ⟨_, _, _, _, _, gate, rfl⟩ := fresh
    cases written.left.symm.trans found
    cases owned
  | gone left log =>
    cases left.symm.trans found

theorem perform_refused_claim {leaseSecs now : Int} {paths symbols : Option (List String)}
    (full : MAX_CONCURRENT_CLAIMS ≤ (s.heldClaims agent).length) (fresh : id ∉ s.claimsOf agent) :
    s.perform env (.claim id agent leaseSecs paths symbols now) = s := by
  have unheld : ((s.getTask id).any fun task => decide (task.status = .claimed) && heldBy agent task) = false := by
    cases found : s.getTask id with
    | none => rfl
    | some task =>
      rw [Option.any_some]
      by_contra held
      simp only [heldBy, not_eq_false, and_eq_true, decide_eq_true_eq] at held
      exact fresh (mem_claimsOf.mpr ⟨task, found, held⟩)
  have refused : ∃ failure, s.refuseBeyondClaimLimit id agent = .error failure := by
    unfold refuseBeyondClaimLimit
    rw [if_neg (by simp [unheld]), if_neg (by omega)]
    exact ⟨_, rfl⟩
  obtain ⟨failure, refused⟩ := refused
  cases declared : normalizeDeclared env paths with
  | error unreadable =>
    apply settled_error
    rw [claimTask, declared]
    rfl
  | ok paths' =>
    apply settled_error
    rw [claimTask, declared, ok_bind, refused]
    rfl

theorem error_after {α β : Type} (first : Result α) (failure : LodestarError) :
    ∃ other, (first >>= fun _ => (.error failure : Result β)) = .error other := by
  cases first <;> exact ⟨_, rfl⟩

theorem perform_refused_recover {expectedOwner why : String} {recovering : RecoveringSession} {reviewer : Option String}
    {leaseSecs now : Int} (full : MAX_CONCURRENT_CLAIMS ≤ (s.heldClaims recovering.agent).length) :
    s.perform env (.recover id expectedOwner recovering why reviewer leaseSecs now) = s := by
  have counted : MAX_CONCURRENT_CLAIMS ≤
      s.tasks.rows.countP fun task => decide (task.status = .claimed) && heldBy recovering.agent task := by
    rw [countP_eq_length_filter]
    rwa [heldClaims, length_insertionSort] at full
  suffices refused : ∃ failure, s.recoverClaimAuthorized id expectedOwner recovering why reviewer leaseSecs now =
      .error failure by
    obtain ⟨failure, refused⟩ := refused
    exact settled_error refused
  unfold recoverClaimAuthorized
  simp only [throw_eq, error_bind]
  split
  · exact ⟨_, rfl⟩
  split
  · exact ⟨_, rfl⟩
  · split
    · exact ⟨_, rfl⟩
    · exact error_after _ _

theorem Enters.room (enters : s.Enters id agent op) (fresh : id ∉ s.claimsOf agent)
    (held : id ∈ (s.perform env op).claimsOf agent) (room : s.LeavesRoom op) :
    (s.heldClaims agent).length < MAX_CONCURRENT_CLAIMS := by
  cases enters with
  | claim =>
    by_contra full
    rw [perform_refused_claim (by omega) fresh] at held
    exact fresh held
  | recover target =>
    by_contra full
    subst target
    rw [perform_refused_recover (by omega)] at held
    exact fresh held
  | answer found parked owned => exact room _ found parked agent owned
  | resume found parked owned => exact room _ found parked owned

theorem Capped.step (capped : s.Capped) (room : s.LeavesRoom op) : (s.perform env op).Capped := by
  intro agent
  have before := capped agent
  rw [heldClaims_length] at before ⊢
  have fate := fun key => (perform_change env s op).fate key
  by_cases joined : ∃ key ∈ (s.perform env op).claimsOf agent, key ∉ s.claimsOf agent
  · obtain ⟨id, held, fresh⟩ := joined
    have enters := ((fate id).enters held).resolve_left fresh
    have room := enters.room fresh held room
    have others : ∀ key ∈ (s.perform env op).claimsOf agent, key ≠ id → key ∈ s.claimsOf agent := by
      intro key also apart
      rcases (fate key).enters also with kept | second
      · exact kept
      · exact absurd (second.unique enters) apart
    have grown := claims_grow others
    rw [heldClaims_length] at room
    omega
  · have kept : ∀ key ∈ (s.perform env op).claimsOf agent, key ∈ s.claimsOf agent := by
      intro key held
      by_contra fresh
      exact joined ⟨key, held, fresh⟩
    have shrunk := claims_shrink kept
    omega

theorem Moves.joins {now : Int} {write : TaskWrite} {note : EventNote} {task : Task}
    (moves : s.Moves id now write note after) (found : s.getTask id = some task) (parked : task.status ≠ .claimed)
    (claimed : (write.leaves task).status = .claimed) (owned : (write.leaves task).owner = some agent) :
    (s.heldClaims agent).length + 1 ≤ (after.heldClaims agent).length := by
  obtain ⟨middle, ⟨row, stored, taken, rfl⟩, beside⟩ := moves
  cases found.symm.trans stored
  have one := moved_oneRow now note found taken
  rw [heldClaims_length, heldClaims_length]
  apply claims_join
  · intro held
    obtain ⟨also, same, working, _⟩ := mem_claimsOf.mp held
    cases found.symm.trans same
    exact parked working
  · exact mem_claimsOf.mpr ⟨_, (beside.sameWork.getTask id).trans one.here, claimed, owned⟩
  · intro key held
    obtain ⟨other, kept, working, theirs⟩ := mem_claimsOf.mp held
    have apart : key ≠ id := by
      rintro rfl
      cases found.symm.trans kept
      exact parked working
    exact mem_claimsOf.mpr ⟨other, (beside.sameWork.getTask key).trans ((one.elsewhere apart).trans kept), working, theirs⟩

/-- Giving a parked claim back without room for it goes past the cap. -/
theorem Capped.leavesRoom (kept : (s.perform env op).Capped) : s.LeavesRoom op := by
  cases op with
  | answer id answer author leaseSecs now =>
    intro task found parked agent owned
    have taken : (s.getTask id).filter (answerWrite leaseSecs now).takes = some task := by
      simp [Option.mem_def.mp found, answerWrite, parked]
    have done : ∃ after, s.answerQuestion id answer author leaseSecs now = .ok (true, after) ∧
        s.Moves id now (answerWrite leaseSecs now) ⟨.answered, some author, .leaseSecs leaseSecs⟩ after := by
      simp only [answerQuestion, transition_eq, ok_bind, pure_eq, taken, Option.map_some]
      exact ⟨_, rfl, _, ⟨task, found, by simp [answerWrite, parked], rfl⟩, .appendQa _ _⟩
    obtain ⟨after, done, moves⟩ := done
    have joined := moves.joins found (by simp [parked]) rfl owned
    have capped : after.Capped := settled_ok done ▸ kept
    have most := capped agent
    omega
  | resume id agent leaseSecs now =>
    intro task found parked owned
    have taken : (s.getTask id).filter (resumeWrite agent leaseSecs now).takes = some task := by
      simp [Option.mem_def.mp found, resumeWrite, heldBy, parked, owned]
    have done : ∃ after, s.resumeTask id agent leaseSecs now = .ok (true, after) ∧
        s.Moves id now (resumeWrite agent leaseSecs now) ⟨.resumed, some agent, .leaseSecs leaseSecs⟩ after := by
      simp only [resumeTask, attempt, transition_eq, ok_bind, pure_eq, taken, Option.map_some]
      exact ⟨_, rfl, _, ⟨task, found, by simp [resumeWrite, heldBy, parked, owned], rfl⟩, .refl _⟩
    obtain ⟨after, done, moves⟩ := done
    have joined := moves.joins found (by simp [parked]) rfl owned
    have capped : after.Capped := settled_ok done ▸ kept
    have most := capped agent
    omega
  | _ => trivial

end
end Store

def localFrom (env : Env) (s : Store) : Machine Store Op := { localStore env with start := s }

/-- From a state within the cap, every state of a run is within it exactly when
every claim given back found room. -/
theorem cap_holds {env : Env} {first : Store} {history : List (Entry Store Op)} {state : Store}
    (capped : first.Capped) (run : (localFrom env first).Run history state) :
    (∀ seen ∈ (localFrom env first).visited history, seen.Capped) ↔
      ∀ entry ∈ history, entry.before.LeavesRoom entry.op := by
  refine run.visited_good_iff Store.Capped (fun before op => before.LeavesRoom op) capped ?_
  intro before op capped
  exact ⟨Store.Capped.leavesRoom, capped.step⟩

def handsFull : List (Store → Op) :=
  [fun _ => Op.claim "task:goal:ship@constitution:v1|fourth|8" "ann" 100 none none 9,
    fun _ => Op.claim "task:goal:ship@constitution:v1|third|8" "ann" 100 none none 9,
    fun _ => Op.claim "task:goal:ship@constitution:v1|second|8" "ann" 100 none none 9,
    fun _ => Op.createTask "goal:ship@constitution:v1" "fourth" "works" none none [] 8,
    fun _ => Op.createTask "goal:ship@constitution:v1" "third" "works" none none [] 8,
    fun _ => Op.createTask "goal:ship@constitution:v1" "second" "works" none none [] 8,
    fun _ => Op.pause "task:goal:ship@constitution:v1|first|6" "ann" none 8] ++ claimedByAnn

def resumedAfterRelease : List (Store → Op) :=
  [fun _ => Op.resume "task:goal:ship@constitution:v1|first|6" "ann" 100 11,
    fun _ => Op.release "task:goal:ship@constitution:v1|third|8" "ann" 10] ++ handsFull

def resumedAnyway : List (Store → Op) :=
  [fun _ => Op.resume "task:goal:ship@constitution:v1|first|6" "ann" 100 11] ++ handsFull

theorem handsFull_ready : Ready handsFull := by simp +contextual [handsFull, claimedByAnn_ready, Op.enabled, Op.reads]

theorem resumedAfterRelease_ready : Ready resumedAfterRelease := by simp +contextual [resumedAfterRelease, handsFull_ready, Op.enabled, Op.reads]

theorem resumedAnyway_ready : Ready resumedAnyway := by simp +contextual [resumedAnyway, handsFull_ready, Op.enabled, Op.reads]

theorem empty_capped : ({} : Store).Capped := fun _ => Nat.zero_le _

theorem cap_holds_released :
    (((localFrom Env.plain {}).replay resumedAfterRelease).2.heldClaims "ann").length = 3 ∧
      ∀ seen ∈ (localFrom Env.plain {}).visited ((localFrom Env.plain {}).replay resumedAfterRelease).1,
        seen.Capped := by
  rw [cap_holds empty_capped (Machine.replay_run resumedAfterRelease_ready)]
  decide +kernel

/-- Resuming makes it four. -/
theorem resume_exceeds_cap : ¬ ∀ env first history state, first.Capped → (localFrom env first).Run history state →
    state.Capped := by
  intro always
  have run : (localFrom Env.plain {}).Replays resumedAnyway :=
    Machine.replay_run resumedAnyway_ready
  have capped := always Env.plain {} _ _ empty_capped run "ann"
  exact absurd capped (by decide +kernel)

end MindLeak.Lodestar
