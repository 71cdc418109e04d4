import MindLeak.Proofs.KnowledgeCalls

/-! The lifecycle of shared knowledge over whole runs: what makes a row Active, what never changes again,
where the chain of replacements ends, and what a refusal says. -/

namespace MindLeak.Ackplane.SharedKnowledge

open List Option Function

variable {account : Account}

namespace Account
variable {row : KnowledgeRow}

def authorizations (account : Account) : List String :=
  account.activations.map KnowledgeActivation.authorizedBy ++ account.introductions.map KnowledgeSupersession.authorizedBy

structure Sound (account : Account) : Prop where
  authorized : account.authorizations.length = if account.row.any (·.lifecycleState ≠ .candidate) then 1 else 0
  satisfied : ∀ basis ∈ account.authorizations, Text.isBlank basis = false
  linked : account.supersessions.map KnowledgeSupersession.newKnowledgeId = (account.row.bind KnowledgeRow.supersededBy).toList
  marked : ∀ row, account.row = some row → (row.lifecycleState = .superseded ↔ row.supersededBy.isSome)
  kept : ∀ row, account.row = some row → row.lifecycleState = .superseded → row.retiredAt = none

def Settled (account : Account) : Prop :=
  ∃ row, account.row = some row ∧ (row.lifecycleState = .superseded ∨ row.retiredAt.isSome)

section
variable (sound : account.Sound)
include sound

theorem Sound.recorded (absent : account.row = none) (candidate : row.lifecycleState = .candidate)
    (last : row.supersededBy = none) : (account.recorded row).Sound where
  authorized := by
    have none := sound.authorized
    rw [absent] at none
    simpa [Account.recorded, authorizations, candidate] using none
  satisfied := sound.satisfied
  linked := by
    have none := sound.linked
    rw [absent] at none
    simpa [Account.recorded, last] using none
  marked := by
    rintro _ ⟨rfl⟩
    simp [candidate, last]
  kept := by
    rintro _ ⟨rfl⟩ superseded
    cases candidate.symm.trans superseded

theorem Sound.activated {activation : KnowledgeActivation} (there : account.row = some row)
    (ready : row.isPromotable = true) (basis : Text.isBlank activation.authorizedBy = false) :
    (account.activated row activation).Sound := by
  simp only [KnowledgeRow.isPromotable, decide_eq_true_eq] at ready
  have none := sound.authorized
  have linked := sound.linked
  have marked := sound.marked row there
  rw [there] at none linked
  refine ⟨?_, ?_, linked, ?_, ?_⟩
  · obtain ⟨activations, introductions⟩ : account.activations = [] ∧ account.introductions = [] := by
      simpa [authorizations, ready.1] using none
    simp [authorizations, Account.activated, activations, introductions]
  · intro given member
    simp only [authorizations, Account.activated, map_append, mem_append] at member
    rcases member with (earlier | new) | introduced
    · exact sound.satisfied given (mem_append_left _ earlier)
    · cases mem_singleton.mp new
      exact basis
    · exact sound.satisfied given (mem_append_right _ introduced)
  · rintro _ ⟨rfl⟩
    rw [ready.1] at marked
    simpa using marked
  · rintro _ ⟨rfl⟩ superseded
    cases superseded

theorem Sound.replaced {receipt : KnowledgeSupersession} (there : account.row = some row)
    (ready : row.isReplaceable = true) : (account.replaced row receipt).Sound := by
  simp only [KnowledgeRow.isReplaceable, decide_eq_true_eq] at ready
  have one := sound.authorized
  have linked := sound.linked
  have marked := sound.marked row there
  rw [there] at one linked
  have last : row.supersededBy = none := by
    rw [ready.1] at marked
    simpa using marked
  refine ⟨?_, sound.satisfied, ?_, ?_, ?_⟩
  · simpa [authorizations, Account.replaced, ready.1] using one
  · simp only [bind_some, last] at linked
    simp only [Account.replaced, map_append, linked]
    rfl
  · rintro _ ⟨rfl⟩
    simp
  · rintro _ ⟨rfl⟩ _
    exact ready.2

theorem Sound.introduced {receipt : KnowledgeSupersession} (absent : account.row = none)
    (active : row.lifecycleState = .active) (last : row.supersededBy = none) (basis : Text.isBlank receipt.authorizedBy = false) :
    (account.introduced row receipt).Sound := by
  have none := sound.authorized
  have linked := sound.linked
  rw [absent] at none linked
  refine ⟨?_, ?_, ?_, ?_, ?_⟩
  · simp [authorizations] at none
    simp [authorizations, Account.introduced, active, none]
  · intro given member
    simp only [authorizations, Account.introduced, map_append, mem_append] at member
    rcases member with activated | earlier | new
    · exact sound.satisfied given (mem_append_left _ activated)
    · exact sound.satisfied given (mem_append_right _ earlier)
    · cases mem_singleton.mp new
      exact basis
  · simpa [Account.introduced, last] using linked
  · rintro _ ⟨rfl⟩
    simp [active, last]
  · rintro _ ⟨rfl⟩ superseded
    cases active.symm.trans superseded

theorem Sound.touched {after : Account} {row' : KnowledgeRow} (there : account.row = some row)
    (now : after.row = some row') (state : row'.lifecycleState = row.lifecycleState) (link : row'.supersededBy = row.supersededBy)
    (kept : row'.lifecycleState = .superseded → row'.retiredAt = none) (authorizations : after.authorizations = account.authorizations)
    (supersessions : after.supersessions = account.supersessions) : after.Sound := by
  refine ⟨?_, authorizations ▸ sound.satisfied, ?_, ?_, ?_⟩
  · rw [authorizations, sound.authorized, there, now, any_some, any_some, state]
  · rw [supersessions, sound.linked, there, now, bind_some, bind_some, link]
  · intro other same
    cases now.symm.trans same
    rw [state, link]
    exact sound.marked row there
  · intro other same
    cases now.symm.trans same
    exact kept

end

end Account

def chain (accounts : Accounts) : Succession KnowledgeKey := fun key => (accounts key).row.map fun row => row.supersededBy.map key.named

structure Sound (accounts : Accounts) : Prop where
  each : ∀ key, (accounts key).Sound
  grounded : (chain accounts).Grounded

section
variable {accounts after : Accounts} {key : KnowledgeKey}

theorem chain_update (other : KnowledgeKey) : chain (Function.update accounts key account) other =
    if other = key then account.row.map fun row => row.supersededBy.map key.named else chain accounts other := by
  unfold chain
  split
  next same => rw [same, update_self]
  next apart => rw [update_of_ne apart]

theorem Sound.update (sound : Sound accounts) (here : account.Sound) {row row' : KnowledgeRow} (there : (accounts key).row = some row)
    (now : account.row = some row') (link : row'.supersededBy = row.supersededBy) : Sound (Function.update accounts key account) where
  each := (forall_update_iff accounts fun _ account => account.Sound).mpr ⟨here, fun other _ => sound.each other⟩
  grounded := by
    have same : chain (Function.update accounts key account) = chain accounts := by
      funext other
      rw [chain_update]
      split
      next same => rw [same, chain, there, now, map_some, map_some, link]
      next => rfl
    rw [same]
    exact sound.grounded

theorem Sound.change (sound : Sound accounts) (change : Change accounts after) : Sound after := by
  cases change with
  | recorded row absent candidate unretired last =>
    refine ⟨(forall_update_iff accounts fun _ account => account.Sound).mpr
      ⟨(sound.each row.key).recorded absent candidate last, fun other _ => sound.each other⟩, ?_⟩
    have fresh : chain accounts row.key = none := by rw [chain, absent]; rfl
    refine sound.grounded.add fresh fun other => ?_
    rw [chain_update, Account.recorded, map_some, last]
    rfl
  | activated key row activation there ready basis => exact sound.update ((sound.each key).activated there ready basis) there rfl rfl
  | reconfirmed key row reconfirmation there ready =>
    have here : ((accounts key).reconfirmed row reconfirmation).Sound :=
      (sound.each key).touched there rfl rfl rfl ((sound.each key).kept row there) rfl rfl
    exact sound.update here there rfl rfl
  | retired key row reason retiredBy now there ready standing =>
    have here : ((accounts key).withdrawn row reason retiredBy now).Sound :=
      (sound.each key).touched there rfl rfl rfl (fun superseded => absurd superseded standing) rfl rfl
    exact sound.update here there rfl rfl
  | superseded receipt row new there ready basis named absent active unretired last =>
    have apart : receipt.replacement ≠ receipt.knowledge := by
      intro same
      rw [same, there] at absent
      cases absent
    have current : row.supersededBy = none := by
      have marked := (sound.each receipt.knowledge).marked row there
      simp only [KnowledgeRow.isReplaceable, decide_eq_true_eq] at ready
      rw [ready.1] at marked
      simpa using marked
    refine ⟨(forall_update_iff _ fun _ (account : Account) => account.Sound).mpr
      ⟨(sound.each receipt.replacement).introduced absent active last basis, fun other _ =>
        (forall_update_iff accounts fun _ account => account.Sound).mpr
          ⟨(sound.each receipt.knowledge).replaced there ready, fun other _ => sound.each other⟩ other⟩, ?_⟩
    -- The replacement comes first, as an end of its own; then the row is linked to it.
    let added : Succession KnowledgeKey := fun item => if item = receipt.replacement then some none else chain accounts item
    have fresh : chain accounts receipt.replacement = none := by rw [chain, absent]; rfl
    have grounded : added.Grounded := sound.grounded.add fresh fun _ => rfl
    have ends : added receipt.replacement = some none := if_pos rfl
    have unlinked : added receipt.knowledge = some none := by
      change (if _ then _ else _) = _
      rw [if_neg apart.symm, chain, there, map_some, current]
      rfl
    have linked (other : KnowledgeKey) : chain (Function.update (Function.update accounts receipt.knowledge
        ((accounts receipt.knowledge).replaced row receipt.supersession)) receipt.replacement
        ((accounts receipt.replacement).introduced new receipt.supersession)) other =
          if other = receipt.knowledge then some (some receipt.replacement) else added other := by
      rw [chain_update, chain_update]
      split
      next same =>
        rw [if_neg (by rw [same]; exact apart), same, ends, Account.introduced, map_some, last]
        rfl
      next apart' =>
        split
        next => rfl
        next => exact (if_neg apart').symm
    exact (grounded.replace_iff unlinked linked).mpr
      ⟨by rw [ends]; rfl, fun leads => apart (Succession.leads_of_last ends leads).symm⟩

theorem Change.settled (change : Change accounts after) (settled : (accounts key).Settled) : after key = accounts key := by
  obtain ⟨row, there, settled⟩ := settled
  cases change with
  | recorded row' absent =>
    refine update_of_ne ?_ ..
    rintro rfl
    cases there.symm.trans absent
  | activated key' row' _ there' ready | reconfirmed key' row' _ there' ready | retired key' row' _ _ _ there' ready standing =>
    refine update_of_ne ?_ ..
    rintro rfl
    simp [KnowledgeRow.isPromotable, KnowledgeRow.isReconfirmable, KnowledgeRow.isUnretired] at ready
    rcases settled with superseded | retired <;> simp_all
  | superseded receipt row' new there' ready _ _ absent =>
    rw [update_of_ne, update_of_ne]
    · rintro rfl
      simp [KnowledgeRow.isReplaceable] at ready
      rcases settled with superseded | retired <;> simp_all
    · rintro rfl
      cases there.symm.trans absent

end
variable {τ : Type} [DecidableEq τ] {history : List (Entry (KnowledgeState τ) (CallOp τ KnowledgeCall))} {state : KnowledgeState τ}

structure Lifecycle (history : List (Entry (KnowledgeState τ) (CallOp τ KnowledgeCall))) (state : KnowledgeState τ) : Prop where
  /-- A row is Active, or was, by one receipt, which names an authorization basis. -/
  authorized : ∀ key row, state.store.get? key = some row → row.lifecycleState ≠ .candidate →
    ∃ basis, (state.store.account key).authorizations = [basis] ∧ Text.isBlank basis = false
  candidate : ∀ key row, state.store.get? key = some row → row.lifecycleState = .candidate →
    (state.store.account key).authorizations = []
  /-- What is superseded or retired has the row, and the receipts, that it had. -/
  settled : ∀ entry ∈ history, ∀ key, (entry.before.store.account key).Settled →
    state.store.account key = entry.before.store.account key
  kept : ∀ key row, state.store.get? key = some row → row.lifecycleState = .superseded → row.retiredAt = none
  linked : ∀ key row successor, state.store.get? key = some row → row.supersededBy = some successor →
    ∃ receipt, (state.store.account key).supersessions = [receipt] ∧ receipt.newKnowledgeId = successor
  grounded : (chain state.store.account).Grounded
  refused : ∀ caller call found answer, state.standing caller = .answered call found answer → Refused answer →
    (∀ entry ∈ history, entry.op = .step caller → entry.after.store = entry.before.store) ∧
      ∀ key, target? call = some key → ∃ error, answer = .error error ∧ Tells call key found error

theorem account_empty (key : KnowledgeKey) : Store.empty.account key = ⟨none, [], [], [], []⟩ := rfl

theorem sound_empty : Sound Store.empty.account where
  each key := by
    rw [account_empty]
    exact ⟨rfl, by simp [Account.authorizations], rfl, by simp, by simp⟩
  grounded key there := by
    cases there

section
variable (run : (sharedKnowledge τ).Run history state)
include run

section
variable (careful : ∀ entry ∈ history, Careful entry.before entry.op)
include careful

theorem run_sound :
    Sound state.store.account := by
  refine Calls.run_keeps run (fun s => Sound s.account) sound_empty fun entry member call found update runs sound => ?_
  have meets := careful entry member call found update runs
  obtain ⟨_, _, _, _, rest⟩ := runs
  rcases statement_changes rest meets with same | change
  · rw [same]
    exact sound
  · exact sound.change change

theorem run_settled
    {entry : Entry (KnowledgeState τ) (CallOp τ KnowledgeCall)} (member : entry ∈ history) {key : KnowledgeKey}
    (settled : (entry.before.store.account key).Settled) : state.store.account key = entry.before.store.account key := by
  refine (Calls.run_since run (fun s => s.account key = entry.before.store.account key) ?_ entry member rfl).2
  intro other inside call found update runs same
  have meets := careful other inside call found update runs
  obtain ⟨_, _, _, _, rest⟩ := runs
  rcases statement_changes rest meets with stays | change
  · rw [stays, same]
  · rw [change.settled (by rw [same]; exact settled), same]

theorem run_careful
    {caller : τ} {call : KnowledgeCall} {later earlier : List Store} {s : Store}
    (its : Calls.trace (state.standing caller) = some (call, later ++ s :: earlier)) : CarefulAt s earlier call := by
  obtain ⟨entry, member, step, standing, rfl⟩ := Calls.run_found run caller its
  have ran := Calls.run_ran run caller its
  have statement : ∃ update next, call.program.resume earlier = .statement update next := by
    clear its
    induction later with
    | nil => exact ran.1
    | cons _ _ ih => exact ih ran.2
  obtain ⟨update, next, rest⟩ := statement
  exact careful entry member call earlier update ⟨caller, next, step, standing, rest⟩

end

end

def lesson : RecordKnowledgeRequest where
  tenantId := "tenant"
  repositoryId := "repository"
  content := "keep the lock order"
  sourceRef := none
  recordedBy := some "node:one"
  reachNodeIds := ["artifact:src/lock.rs"]
  reachGoalId := none
  halfLifeHours := 0x4086800000000000
  embedding := none

def lessonKey : KnowledgeKey := ⟨"tenant", "repository", "knowledge-1"⟩

def revision : SupersedeKnowledgeRequest where
  key := lessonKey
  newContent := "keep the lock order, gates first"
  newSourceRef := none
  newRecordedBy := none
  newReachNodeIds := []
  newReachGoalId := none
  newHalfLifeHours := 0x4086800000000000
  authorizedBy := "human:reviewer"
  reason := "more precise"

def callOps (caller : Nat) (call : KnowledgeCall) (statements : Nat) : List (KnowledgeState Nat → CallOp Nat KnowledgeCall) :=
  List.replicate (statements + 1) (fun _ => CallOp.step caller) ++ [fun _ => CallOp.start caller call]

def supersededLesson : List (KnowledgeState Nat → CallOp Nat KnowledgeCall) :=
  callOps 2 (.supersede revision "knowledge-2" "supersession-1" 2) 1 ++
    callOps 1 (.activate lessonKey "human:reviewer" none "activation-1" 1) 1 ++ callOps 0 (.record lesson "knowledge-1" 0) 1

theorem knowledge_lifecycle (run : (sharedKnowledge τ).Run history state)
    (careful : ∀ entry ∈ history, Careful entry.before entry.op) : Lifecycle history state := by
  have sound := run_sound run careful
  refine ⟨fun key row there apart => ?_, fun key row there candidate => ?_, fun entry member key settled => run_settled run careful member settled,
    fun key => (sound.each key).kept, fun key row successor there link => ?_, sound.grounded, ?_⟩
  · have here : (state.store.account key).row = some row := there
    have one := (sound.each key).authorized
    rw [here, any_some, if_pos (by simpa using apart)] at one
    obtain ⟨basis, same⟩ := length_eq_one_iff.mp one
    exact ⟨basis, same, (sound.each key).satisfied basis (by rw [same]; exact mem_singleton_self _)⟩
  · have here : (state.store.account key).row = some row := there
    have none := (sound.each key).authorized
    rw [here, any_some, if_neg (by simp [candidate])] at none
    exact length_eq_zero_iff.mp none
  · have here : (state.store.account key).row = some row := there
    have linked := (sound.each key).linked
    rw [here, bind_some, link] at linked
    obtain ⟨receipt, same, named⟩ := map_eq_singleton_iff.mp linked
    exact ⟨receipt, same, named⟩
  · intro caller call found answer standing refused
    have its : Calls.trace (state.standing caller) = some (call, found) := by rw [standing]; rfl
    have ran := Calls.run_ran run caller its
    have answers := Calls.run_answers run standing
    have done (leaves : call.program.Leaves found) : ∀ entry ∈ history, entry.op = .step caller → entry.after.store = entry.before.store :=
      Calls.run_unchanged run its leaves
    cases call with
    | record request knowledgeId confirmedAt =>
      refine ⟨done (record_refused (fun last first same => ?_) ran answers refused), nofun⟩
      have its : Calls.trace (state.standing caller) =
          some (KnowledgeCall.record request knowledgeId confirmedAt, [] ++ last :: [first]) := its.trans (by rw [same]; rfl)
      exact run_careful run careful its
    | reconfirm key evidenceRef reconfirmedBy reconfirmationId now =>
      rw [reconfirm_program] at ran answers done
      exact ⟨done (attempted_refused (fun _ _ => guarded_idle) id ran answers refused), nofun⟩
    | retire key reason retiredBy now =>
      rw [retire_program] at ran answers done
      exact ⟨done (attempted_refused (fun _ _ => withdraw_idle) id ran answers refused), nofun⟩
    | activate key authorizedBy reason activationId now =>
      rw [activate_program] at ran answers done
      obtain ⟨leaves, error, same, why⟩ := diagnosed_refused (fun _ _ => guarded_idle) id ran answers refused
      refine ⟨done leaves, fun _ target => ⟨error, same, ?_⟩⟩
      cases target
      rcases why with ⟨none, fails⟩ | ⟨first, rfl, failed⟩ | ⟨last, first, rfl, rfl⟩
      · exact .inl ⟨none, (activate_program ..).trans fails⟩
      · exact .inr (.inl ⟨first, rfl, promote_error failed⟩)
      · have its : Calls.trace (state.standing caller) = some (_, [] ++ last :: [first]) := its
        exact .inr (.inr ⟨last, first, rfl, activationRefusal_names.mpr (run_careful run careful its (by simp))⟩)
    | supersede request newKnowledgeId supersessionId now =>
      rw [supersede_program] at ran answers done
      obtain ⟨leaves, error, same, why⟩ := diagnosed_refused (fun _ _ => replace_idle) id ran answers refused
      refine ⟨done leaves, fun _ target => ⟨error, same, ?_⟩⟩
      cases target
      rcases why with ⟨none, fails⟩ | ⟨first, rfl, failed⟩ | ⟨last, first, rfl, rfl⟩
      · exact .inl ⟨none, (supersede_program ..).trans fails⟩
      · exact .inr (.inl ⟨first, rfl, replace_error failed⟩)
      · exact .inr (.inr ⟨last, first, rfl, supersessionRefusal_names ..⟩)

theorem superseded_lesson_lives : Lifecycle ((sharedKnowledge Nat).replay supersededLesson).1 ((sharedKnowledge Nat).replay supersededLesson).2 := by
  refine knowledge_lifecycle (Machine.replay_run fun _ _ _ _ _ => trivial) fun entry member => careful_of ?_
  have all : ((sharedKnowledge Nat).replay supersededLesson).1.all (fun entry => isCareful entry.before entry.op) = true := by
    decide +kernel
  exact all_eq_true.mp all entry member

def misreadLesson : List (KnowledgeState Nat → CallOp Nat KnowledgeCall) :=
  callOps 4 (.retire lessonKey "stale" "human:reviewer" 5) 1 ++
    callOps 3 (.activate lessonKey "human:reviewer" none "activation-2" 4) 2 ++ supersededLesson

/-- The superseded row is taken for an active one, and then it is retired. -/
theorem superseded_row_counterexample : ∃ history state, (sharedKnowledge Nat).Run history state ∧
    (state.standing 3).answer? = some (.error (.alreadyActive "knowledge-1")) ∧
    (state.store.get? lessonKey).map (fun row => (row.lifecycleState, row.retiredAt)) = some (.superseded, some 5) ∧
    ¬Lifecycle history state := by
  obtain ⟨answer, read⟩ : let s := ((sharedKnowledge Nat).replay misreadLesson).2
      (s.standing 3).answer? = some (.error (.alreadyActive "knowledge-1")) ∧
      (s.store.get? lessonKey).map (fun row => (row.lifecycleState, row.retiredAt)) = some (.superseded, some 5) := by decide +kernel
  refine ⟨_, _, Machine.replay_run fun _ _ _ _ _ => trivial, answer, read, fun lifecycle => ?_⟩
  obtain ⟨row, there, same⟩ := map_eq_some_iff.mp read
  have retired : row.retiredAt = some 5 := congrArg Prod.snd same
  rw [lifecycle.kept lessonKey row there (congrArg Prod.fst same)] at retired
  cases retired

end MindLeak.Ackplane.SharedKnowledge
