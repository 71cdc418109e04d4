import MindLeak.Lodestar.Waits
import MindLeak.Proofs.Projections

/-! Waits against the rows they are about. A question stays open until its task
is answered, and a task may be taken up again without an answer: so a later
question can find an older one still open. -/

namespace MindLeak.Lodestar

open List

section
variable {α : Type} {xs ys : List α} {entry : α × List α}

theorem mem_withLater_append : entry ∈ withLater (xs ++ ys) ↔
    (∃ later, (entry.1, later) ∈ withLater xs ∧ entry.2 = later ++ ys) ∨ entry ∈ withLater ys := by
  induction xs with
  | nil => simp [withLater]
  | cons x xs ih =>
    rw [cons_append, withLater, mem_cons, ih, withLater]
    simp only [mem_cons, Prod.ext_iff]
    constructor
    · rintro (⟨first, rest⟩ | ⟨later, member, rest⟩ | inside)
      · exact .inl ⟨xs, .inl ⟨first, rfl⟩, rest⟩
      · exact .inl ⟨later, .inr member, rest⟩
      · exact .inr inside
    · rintro (⟨later, ⟨first, rfl⟩ | member, rest⟩ | inside)
      · exact .inl ⟨first, rest⟩
      · exact .inr (.inl ⟨later, member, rest⟩)
      · exact .inr (.inr inside)

theorem isOpen_append {question : TaskQa} {later said : List TaskQa} :
    isOpen question (later ++ said) = true ↔ isOpen question later = true ∧
      ∀ reply ∈ said, reply.taskId ≠ question.taskId ∨ reply.kind ≠ .answer := by
  simp [isOpen, and_assoc]

end

namespace Store

def parks (s : Store) (question : TaskQa) (later : List TaskQa) : Bool :=
  ((s.getTask question.taskId).any fun task =>
    decide (task.status = .needsInput ∧ task.owner = some question.author ∧ task.parkedAt = some question.createdAt)) &&
    later.all fun other => decide (other.taskId ≠ question.taskId) || decide (other.kind ≠ .question)

def WaitsLive (s : Store) : Prop :=
  ∀ entry ∈ withLater s.taskQa, (s.waitOf entry.1 entry.2).isSome = true → s.parks entry.1 entry.2 = true

/-- Every stall said to wait on an agent names the addressee of the row that
parked its task. -/
def StallsLive (s : Store) : Prop :=
  ∀ now, ∀ stall ∈ s.stalledWork now, stall.kind = .awaitingAgent ∨ stall.kind = .deadlocked →
    ∃ entry ∈ withLater s.taskQa, s.parks entry.1 entry.2 = true ∧ entry.1.taskId = stall.taskId ∧
      ∃ audience, entry.1.audience = some audience ∧
        (stall.detail = awaitingDetail audience ∨ stall.detail = deadlockedDetail audience)

def addressedOpen (s : Store) (id : String) : Bool :=
  (withLater s.taskQa).any fun (question, later) =>
    isOpen question later && decide (question.taskId = id) && question.audience.isSome

/-- A question that goes through finds none left open on its task; a projected
one names the row's owner besides. -/
def asksFresh (s : Store) : Op ⊕ FederatedOp → Bool
  | .inl (.ask id agent _ audience now) =>
    !((s.getTask id).any (askWrite agent now).takes && decide (normalizeAudience audience ≠ some agent) && s.addressedOpen id)
  | .inr (.park id agent _ audience _) =>
    (s.getTask id).all fun task => !s.addressedOpen id && (audience.isNone || heldBy agent task)
  | _ => true

instance (s : Store) : Decidable s.WaitsLive :=
  inferInstanceAs (Decidable (∀ entry ∈ withLater s.taskQa, (s.waitOf entry.1 entry.2).isSome = true →
    s.parks entry.1 entry.2 = true))

variable {s : Store} {id : String}

section
variable {question : TaskQa} {later : List TaskQa}

theorem waitOf_isSome : (s.waitOf question later).isSome = true ↔
    isOpen question later = true ∧ s.isParked question.taskId = true ∧ question.audience.isSome = true := by
  unfold waitOf
  split
  next both =>
    rw [Bool.and_eq_true] at both
    simp [both]
  next out =>
    rw [Bool.and_eq_true] at out
    constructor
    · intro impossible
      cases impossible
    · rintro ⟨asked, parked, _⟩
      exact absurd ⟨asked, parked⟩ out

theorem isParked_iff : s.isParked id = true ↔ ∃ task, s.getTask id = some task ∧ task.status = .needsInput := by
  simp [isParked, Option.any_eq_true]

theorem parks_iff : s.parks question later = true ↔
    (∃ task, s.getTask question.taskId = some task ∧ task.status = .needsInput ∧ task.owner = some question.author ∧
      task.parkedAt = some question.createdAt) ∧
      ∀ other ∈ later, other.taskId ≠ question.taskId ∨ other.kind ≠ .question := by
  simp [parks, Option.any_eq_true]

theorem WaitsLive.stalls (live : s.WaitsLive) : s.StallsLive := by
  intro now stall member waiting
  unfold stalledWork Lodestar.stalls at member
  rw [mem_insertionSort, mem_filterMap] at member
  obtain ⟨task, _, stalled⟩ := member
  obtain ⟨fact, found, rfl⟩ := Option.map_eq_some_iff.mp stalled
  have parked : task.status = .needsInput ∧ fact = parkedStall s.waits ((waitCycles s.waits).flatMap WaitCycle.taskIds) task := by
    unfold stallFact at found
    split at found
    next => split at found <;> cases found; simp at waiting
    next => cases found; simp at waiting
    next status => exact ⟨status, (Option.some.inj found).symm⟩
    next => cases found; simp at waiting
    next =>
      split at found
      · cases found
      split at found
      next => cases found; simp at waiting
      next => split at found <;> cases found; simp at waiting
    all_goals cases found
  obtain ⟨_, rfl⟩ := parked
  unfold parkedStall at waiting ⊢
  cases first : s.waits.find? fun wait => decide (wait.taskId = task.id) with
  | none => simp [first] at waiting
  | some wait =>
    have same : wait.taskId = task.id := by simpa using List.find?_some first
    obtain ⟨⟨question, later⟩, inside, made⟩ := mem_filterMap.mp (mem_of_find?_eq_some first)
    have parks := live _ inside (Option.isSome_iff_exists.mpr ⟨wait, made⟩)
    obtain ⟨_, made⟩ := then_of_ne made nofun
    obtain ⟨audience, addressed, rfl⟩ := Option.map_eq_some_iff.mp made
    refine ⟨(question, later), inside, parks, same, audience, addressed, ?_⟩
    simp only
    split
    · exact .inr rfl
    · exact .inl rfl

end

def StaysParked (s after : Store) : Prop :=
  ∀ id row', after.getTask id = some row' → row'.status = .needsInput →
    ∃ row, s.getTask id = some row ∧ row.status = .needsInput ∧ row'.owner = row.owner ∧ row'.parkedAt = row.parkedAt

def Quiet (s after : Store) : Prop := ∃ said, after.taskQa = s.taskQa ++ said ∧ ∀ qa ∈ said, qa.kind ≠ .question

variable {after : Store} {now : Int}

section
variable {middle : Store} {write : TaskWrite} {note : EventNote}

theorem Quiet.of_same (same : after.taskQa = s.taskQa) : s.Quiet after := ⟨[], by simpa using same, by simp⟩

theorem Quiet.refl (s : Store) : s.Quiet s := .of_same rfl

theorem Quiet.trans (first : s.Quiet middle) (second : middle.Quiet after) : s.Quiet after := by
  obtain ⟨said, same, kinds⟩ := first
  obtain ⟨more, same', kinds'⟩ := second
  refine ⟨said ++ more, by rw [same', same, append_assoc], ?_⟩
  simpa [or_imp, forall_and] using ⟨kinds, kinds'⟩

theorem Quiet.appendQa {qa : TaskQa} (s : Store) (kind : qa.kind ≠ .question) : s.Quiet (s.appendQa qa) :=
  ⟨[qa], rfl, by simpa using kind⟩

theorem Quiet.appendNote (s : Store) (id : String) (reason : Option String) (author : String) (now : Int) :
    s.Quiet (s.appendNote id reason author now) := by
  unfold Store.appendNote
  split
  · exact .refl s
  · exact .appendQa s (by simp)

theorem Wrote.quiet (wrote : s.Wrote id now write note after) : s.Quiet after := by
  obtain ⟨_, _, _, rfl⟩ := wrote
  exact .of_same rfl

theorem Quiet.opened (s : Store) (predecessor : String) (now : Int) : s.Quiet (s.opened predecessor now) :=
  .of_same (s.opened_touches predecessor now .taskQa (by simp))

theorem Quiet.replaceDeclared {kind : ScopeKind} {values : Option (List String)}
    (done : s.replaceDeclared id kind values = .ok after) : s.Quiet after := by
  unfold Store.replaceDeclared at done
  split at done
  next =>
    obtain ⟨_, _, done⟩ := bind_ok done
    cases done
    exact .of_same rfl
  next =>
    cases done
    exact .refl s

theorem attempt_quiet {won : Bool} (done : s.attempt id now write note = .ok (won, after)) : s.Quiet after := by
  simp only [attempt, transition_eq, ok_bind, pure_eq] at done
  split at done
  next =>
    cases done
    exact .refl s
  next committed =>
    cases done
    exact (wrote_of_taken committed).quiet

theorem settled_quiet {α : Type} {result : Result (α × Store)}
    (each : ∀ value after, result = .ok (value, after) → s.Quiet after) : s.Quiet (s.settled result) := by
  rcases result with failure | ⟨value, after⟩
  · exact .refl s
  · exact each value after rfl

end

variable {env : Env}

section
variable {agent why : String} {leaseSecs : Int} {won : Bool}

theorem claimTask_quiet {paths symbols : Option (List String)}
    (done : s.claimTask env id agent leaseSecs paths symbols now = .ok (won, after)) : s.Quiet after := by
  obtain ⟨_, _, done⟩ := bind_ok done
  obtain ⟨_, _, done⟩ := bind_ok done
  simp only [transition_eq, ok_bind, pure_eq] at done
  split at done
  next =>
    cases done
    exact .refl s
  next middle committed =>
    obtain ⟨_, first, done⟩ := bind_ok done
    obtain ⟨_, second, done⟩ := bind_ok done
    cases done
    exact ((wrote_of_taken committed).quiet.trans (.replaceDeclared first)).trans (.replaceDeclared second)

theorem recoverClaimAuthorized_quiet {expectedOwner : String} {recovering : RecoveringSession} {reviewer : Option String}
    (done : s.recoverClaimAuthorized id expectedOwner recovering why reviewer leaseSecs now = .ok (won, after)) :
    s.Quiet after := by
  simp only [recoverClaimAuthorized, throw_eq, error_bind, transition_eq, ok_bind, pure_eq] at done
  split at done
  next => cases done
  split at done
  next => cases done
  split at done
  next => cases done
  obtain ⟨_, _, done⟩ := bind_ok done
  split at done
  next => cases done
  split at done
  next =>
    cases done
    exact .refl s
  next committed =>
    split at done
    · cases done
      exact (wrote_of_taken committed).quiet
    · cases done
      exact (wrote_of_taken committed).quiet.trans (.appendQa _ (by simp))

theorem pauseTask_quiet {reason : Option String} (done : s.pauseTask id agent reason now = .ok (won, after)) :
    s.Quiet after := by
  simp only [pauseTask, transition_eq, ok_bind, pure_eq] at done
  split at done
  next =>
    cases done
    exact .refl s
  next committed =>
    cases done
    exact (wrote_of_taken committed).quiet.trans (.appendNote _ _ _ _ _)

theorem answerQuestion_quiet {answer author : String}
    (done : s.answerQuestion id answer author leaseSecs now = .ok (won, after)) : s.Quiet after := by
  simp only [answerQuestion, transition_eq, ok_bind, pure_eq] at done
  split at done
  next =>
    cases done
    exact .refl s
  next committed =>
    cases done
    exact (wrote_of_taken committed).quiet.trans (.appendQa _ (by simp))

theorem blockTask_quiet {blockedBy reason : Option String} {actor : String}
    (done : s.blockTask id blockedBy reason actor now = .ok (won, after)) : s.Quiet after := by
  simp only [blockTask, throw_eq, error_bind, pure_eq, transition_eq, ok_bind] at done
  split at done
  · cases done
  rename_i task found
  obtain ⟨_, done⟩ := ite_else done
  have taken : (s.getTask id).filter (blockWrite blockedBy now).takes = some task := by simp [found, blockWrite]
  rw [taken] at done
  have wrote : s.Quiet (s.moved id now (blockWrite blockedBy now) ⟨.blocked, some actor, detailOf reason⟩ task) :=
    .of_same rfl
  cases blockedBy with
  | none =>
    cases done
    exact wrote.trans (.appendNote _ _ _ _ _)
  | some predecessor =>
    obtain ⟨_, done⟩ := ite_else done
    obtain ⟨complete, _, done⟩ := bind_ok done
    obtain ⟨_, done⟩ := ite_else done
    cases done
    exact wrote.trans (.trans (.of_same rfl) (.appendNote _ _ _ _ _))

theorem resolveInReview_quiet {resolver : String} (done : s.resolveInReview id resolver now = .ok (won, after)) :
    s.Quiet after := by
  simp only [resolveInReview, throw_eq, error_bind, pure_eq, transition_eq, ok_bind, openBlockedSuccessorOn_eq] at done
  split at done
  next => cases done
  split at done
  next => cases done
  split at done
  next =>
    cases done
    exact .opened s _ _
  next committed =>
    cases done
    exact (wrote_of_taken committed).quiet.trans ((Quiet.appendNote _ _ _ _ _).trans (.opened _ _ _))

theorem reconnectClaimClause_quiet {successor : String}
    (done : s.reconnectClaimClause id agent now = .ok (successor, after)) : s.Quiet after := by
  simp only [reconnectClaimClause, throw_eq, error_bind, pure_eq, transition_eq, ok_bind] at done
  split at done
  next => cases done
  split at done
  next => cases done
  split at done
  next => cases done
  split at done
  next => cases done
  next =>
    split at done
    · cases done
    rename_i committed
    cases done
    exact (wrote_of_taken committed).quiet
  next => cases done

theorem reopenTask_quiet (done : s.reopenTask id now = .ok (won, after)) : s.Quiet after := by
  simp only [reopenTask, throw_eq, error_bind] at done
  split at done
  next => cases done
  split at done
  · exact attempt_quiet done
  · exact attempt_quiet done
  · cases done
  · cases done

theorem abandonTask_quiet {branches : List String} {acknowledgeBranch : Bool}
    (done : s.abandonTask branches id acknowledgeBranch now = .ok (won, after)) : s.Quiet after := by
  simp only [abandonTask, throw_eq, error_bind, pure_eq] at done
  split at done
  next => cases done
  obtain ⟨_, _, done⟩ := bind_ok done
  split at done
  next => cases done
  obtain ⟨⟨_, middle⟩, written, done⟩ := bind_ok done
  rw [openBlockedSuccessorOn_eq, ok_bind] at done
  cases done
  exact (attempt_quiet written).trans (.opened middle _ _)

theorem perform_quiet (env : Env) (s : Store) (op : Op)
    (silent : ∀ id agent question audience now, op ≠ .ask id agent question audience now)
    (kept : ∀ confirmation, op ≠ .reset confirmation) : s.Quiet (s.perform env op) := by
  have aside (outside : TableName.taskQa ∉ op.writes) : s.Quiet (s.perform env op) :=
    .of_same (perform_touches env s op .taskQa outside)
  cases op with
  | claim => exact settled_quiet fun _ _ done => claimTask_quiet done
  | renew | touch | release | resume => exact settled_quiet fun _ _ done => attempt_quiet done
  | recover => exact settled_quiet fun _ _ done => recoverClaimAuthorized_quiet done
  | ask id agent question audience now => exact absurd rfl (silent id agent question audience now)
  | answer => exact settled_quiet fun _ _ done => answerQuestion_quiet done
  | pause => exact settled_quiet fun _ _ done => pauseTask_quiet done
  | reconnect => exact settled_quiet fun _ _ done => reconnectClaimClause_quiet done
  | block => exact settled_quiet fun _ _ done => blockTask_quiet done
  | reopen => exact settled_quiet fun _ _ done => reopenTask_quiet done
  | abandon => exact settled_quiet fun _ _ done => abandonTask_quiet done
  | resolve => exact settled_quiet fun _ _ done => resolveInReview_quiet done
  | complete =>
    refine settled_quiet fun _ after done => ?_
    obtain ⟨_, _, middle, _, _, _, _, _, wrote, done⟩ := completeTask_ok done
    split at done
    · subst done
      exact wrote.quiet.trans (.opened middle _ _)
    · subst done
      exact wrote.quiet
  | reset confirmation => exact absurd rfl (kept confirmation)
  | _ => exact aside (by simp [Op.writes])

theorem askQuestion_said {question : String} {audience : Option String}
    (done : s.askQuestion id agent question audience now = .ok (won, after)) :
    normalizeAudience audience ≠ some agent ∧
      (∃ task, s.getTask id = some task ∧ (askWrite agent now).takes task = true ∧
        s.OneRow after id task ((askWrite agent now).leaves task)) ∧
      after.taskQa = s.taskQa ++ [⟨id, .question, question, agent, normalizeAudience audience, now⟩] := by
  simp only [askQuestion, throw_eq, error_bind, transition_eq, ok_bind, pure_eq] at done
  obtain ⟨other, done⟩ := ite_else done
  split at done
  · split at done <;> cases done
  rename_i middle committed
  cases done
  obtain ⟨task, found, taken, rfl⟩ := wrote_of_taken committed
  have one := moved_oneRow now
    ⟨.questioned, some agent, ((normalizeAudience audience).map EventDetail.audience).getD .empty⟩ found taken
  exact ⟨other, ⟨task, found, taken, found, one.rows⟩, rfl⟩

end

section
variable {op : Op}

theorem perform_staysParked (env : Env) (s : Store) (op : Op)
    (silent : ∀ id agent question audience now, op ≠ .ask id agent question audience now) :
    s.StaysParked (s.perform env op) := by
  intro id row' left parked
  have fate := (perform_change env s op).fate id
  cases fate with
  | still alone => exact ⟨row', alone.row.symm.trans left, parked, rfl, rfl⟩
  | @wrote now row write kind acts taken cause written =>
    cases written.left.symm.trans left
    exfalso
    cases cause with
    | rewrite rewrite issued admitted =>
      have led := Rewrite.leads_to taken admitted
      rw [parked] at led
      cases issued with
      | ask => exact silent _ _ _ _ _ rfl
      | _ => cases led
    | block => cases parked
    | @complete _ _ _ check =>
      change check.verdict.targetStatus = _ at parked
      cases verdict : check.verdict <;> simp [verdict, Verdict.targetStatus] at parked
    | abandon | resolve | unblock => cases parked
  | noted acts claimed written =>
    cases written.left.symm.trans left
    cases parked.symm.trans claimed
  | carried found left' log =>
    cases left'.symm.trans left
    exact ⟨_, found, parked, rfl, rfl⟩
  | born acts fresh written =>
    cases written.left.symm.trans left
    obtain ⟨_, _, _, _, _, gate, rfl⟩ := fresh
    unfold newTask at parked
    split at parked <;> cases parked
  | gone left' log =>
    cases left'.symm.trans left

theorem performFederated_waits (s : Store) (op : FederatedOp) (silent : ∀ id agent question audience now,
    op ≠ .park id agent question audience now) : s.StaysParked (s.performFederated op) ∧ s.Quiet (s.performFederated op) := by
  have kept : s.StaysParked s ∧ s.Quiet s := ⟨fun _ row' found parked => ⟨row', found, parked, rfl, rfl⟩, .refl s⟩
  have moved {id : String} {now : Int} {write : TaskWrite} {note : EventNote} {middle after : Store}
      (wrote : s.Wrote id now write note middle) (rows : ∀ key, after.getTask key = middle.getTask key)
      (unparks : ∀ task, (write.leaves task).status ≠ .needsInput) : s.StaysParked after := by
    obtain ⟨task, found, taken, rfl⟩ := wrote
    intro key row' left parked
    rw [rows] at left
    rcases (moved_oneRow now note found taken).cases left with ⟨_, rfl⟩ | ⟨_, before⟩
    · exact absurd parked (unparks task)
    · exact ⟨row', before, parked, rfl, rfl⟩
  have settled {result : Result Store} (each : ∀ after, result = .ok after → s.StaysParked after ∧ s.Quiet after) :
      s.StaysParked (s.settle result) ∧ s.Quiet (s.settle result) := by
    cases result with
    | error failure => exact kept
    | ok after => exact each after rfl
  cases op with
  | grant id agent grant kind now =>
    refine settled fun after done => ?_
    obtain ⟨middle, projected, done⟩ := bind_ok done
    obtain ⟨next, paths, symbols⟩ := bind_ok done
    have wrote := project_ok (fun _ => rfl) projected
    have beside := (Beside.replaceScope paths).trans (Beside.replaceScope symbols)
    have scopes : middle.Quiet after :=
      (Quiet.replaceDeclared (show middle.replaceDeclared id .path (some grant.paths) = .ok next from paths)).trans
        (Quiet.replaceDeclared (show next.replaceDeclared id .symbol (some grant.symbols) = .ok after from symbols))
    exact ⟨moved wrote beside.sameWork.getTask fun _ => by simp [federatedGrantWrite, projectWrite], wrote.quiet.trans scopes⟩
  | release id agent now =>
    refine settled fun after done => ?_
    have wrote := project_ok (fun _ => rfl) done
    exact ⟨moved wrote (fun _ => rfl) fun _ => by simp [federatedReleaseWrite, projectWrite, federatedReleased], wrote.quiet⟩
  | park id agent question audience now => exact absurd rfl (silent id agent question audience now)
  | answer id author answer grant now =>
    refine settled fun after done => ?_
    obtain ⟨middle, projected, done⟩ := bind_ok done
    cases done
    have wrote := project_ok (fun _ => rfl) projected
    exact ⟨moved wrote (fun _ => rfl) fun _ => by simp [federatedUnparkWrite, projectWrite],
      wrote.quiet.trans (.appendQa _ (by simp))⟩
  | pause id agent why now =>
    refine settled fun after done => ?_
    obtain ⟨middle, projected, done⟩ := bind_ok done
    cases done
    have wrote := project_ok (fun _ => rfl) projected
    exact ⟨moved wrote (Beside.appendNote middle id why agent now).sameWork.getTask
        fun _ => by simp [federatedParkWrite, projectWrite],
      wrote.quiet.trans (.appendNote _ _ _ _ _)⟩
  | resume id agent grant now =>
    refine settled fun after done => ?_
    have wrote := project_ok (fun _ => rfl) done
    exact ⟨moved wrote (fun _ => rfl) fun _ => by simp [federatedUnparkWrite, projectWrite], wrote.quiet⟩

end

section

theorem addressedOpen_iff : s.addressedOpen id = true ↔
    ∃ entry ∈ withLater s.taskQa, isOpen entry.1 entry.2 = true ∧ entry.1.taskId = id ∧ entry.1.audience.isSome = true := by
  simp [addressedOpen, any_eq_true, and_assoc]

theorem WaitsLive.quiet (live : s.WaitsLive) (stays : s.StaysParked after) (quiet : s.Quiet after) : after.WaitsLive := by
  obtain ⟨said, same, kinds⟩ := quiet
  rintro ⟨question, later'⟩ member reported
  obtain ⟨asked, parked, addressed⟩ := waitOf_isSome.mp reported
  rw [same, mem_withLater_append] at member
  rcases member with ⟨later, old, rfl⟩ | new
  · obtain ⟨row', left, status'⟩ := isParked_iff.mp parked
    obtain ⟨row, found, status, owner, since⟩ := stays _ row' left status'
    have before := live _ old (waitOf_isSome.mpr ⟨(isOpen_append.mp asked).1, isParked_iff.mpr ⟨row, found, status⟩, addressed⟩)
    obtain ⟨⟨task, found', _, held, parkedAt⟩, last⟩ := parks_iff.mp before
    cases found.symm.trans found'
    refine parks_iff.mpr ⟨⟨row', left, status', owner.trans held, since.trans parkedAt⟩, ?_⟩
    intro other inside
    rcases mem_append.mp inside with earlier | fresh
    · exact last other earlier
    · exact .inr (kinds other fresh)
  · have kind : question.kind = .question := by
      simp only [isOpen, Bool.and_eq_true, decide_eq_true_eq] at asked
      exact asked.1
    have inside : question ∈ said := by
      clear same kinds reported asked parked
      induction said with
      | nil => cases new
      | cons row said ih =>
        rcases mem_cons.mp new with first | rest
        · cases first
          exact mem_cons_self
        · exact mem_cons_of_mem _ (ih rest)
    exact absurd kind (kinds question inside)

theorem WaitsLive.asked {question : TaskQa} {row row' : Task} (live : s.WaitsLive)
    (said : after.taskQa = s.taskQa ++ [question]) (one : s.OneRow after question.taskId row row')
    (free : s.addressedOpen question.taskId = false) (parked : row'.status = .needsInput)
    (since : row'.parkedAt = some question.createdAt)
    (owned : question.audience.isSome = true → row'.owner = some question.author) : after.WaitsLive := by
  rintro ⟨other, later'⟩ member reported
  obtain ⟨asked, waiting, addressed⟩ := waitOf_isSome.mp reported
  rw [said, mem_withLater_append] at member
  rcases member with ⟨later, old, rfl⟩ | new
  · by_cases here : other.taskId = question.taskId
    · have taken := addressedOpen_iff.mpr ⟨_, old, (isOpen_append.mp asked).1, here, addressed⟩
      cases free.symm.trans taken
    · have row := one.elsewhere here
      have before := live _ old (waitOf_isSome.mpr
        ⟨(isOpen_append.mp asked).1, by simpa only [isParked, row] using waiting, addressed⟩)
      obtain ⟨standing, last⟩ := parks_iff.mp before
      rw [← row] at standing
      refine parks_iff.mpr ⟨standing, ?_⟩
      intro next inside
      rcases mem_append.mp inside with earlier | fresh
      · exact last next earlier
      · rw [mem_singleton.mp fresh]
        exact .inl (Ne.symm here)
  · cases mem_singleton.mp new
    exact parks_iff.mpr ⟨⟨row', one.here, parked, owned addressed, since⟩, by simp⟩

theorem WaitsLive.asked_free {question : TaskQa} {row row' : Task} (live : after.WaitsLive)
    (said : after.taskQa = s.taskQa ++ [question]) (asked : question.kind = .question)
    (one : s.OneRow after question.taskId row row') (parked : row'.status = .needsInput) :
    s.addressedOpen question.taskId = false ∧
      (question.audience.isSome = true → row'.owner = some question.author) := by
  have waiting : after.isParked question.taskId = true := isParked_iff.mpr ⟨row', one.here, parked⟩
  constructor
  · rw [Bool.eq_false_iff]
    intro taken
    obtain ⟨⟨other, later⟩, old, unanswered, same, addressed⟩ := addressedOpen_iff.mp taken
    have member : (other, later ++ [question]) ∈ withLater after.taskQa := by
      rw [said, mem_withLater_append]
      exact .inl ⟨later, old, rfl⟩
    have reported := live _ member (waitOf_isSome.mpr ⟨isOpen_append.mpr ⟨unanswered, by simp [asked]⟩,
      by rw [same]; exact waiting, addressed⟩)
    rcases (parks_iff.mp reported).2 question (by simp) with apart | silent
    · exact apart same.symm
    · exact silent asked
  · intro addressed
    have member : (question, []) ∈ withLater after.taskQa := by
      rw [said, mem_withLater_append]
      exact .inr (by simp [withLater])
    have reported := live _ member (waitOf_isSome.mpr ⟨by simp [isOpen, asked], waiting, addressed⟩)
    obtain ⟨⟨task, found, _, owner, _⟩, _⟩ := parks_iff.mp reported
    cases one.here.symm.trans found
    exact owner

theorem WaitsLive.step_iff (live : s.WaitsLive) (op : Op ⊕ FederatedOp) :
    ((anyStore env).apply s op).WaitsLive ↔ s.asksFresh op = true := by
  rcases op with op | op
  · change (s.perform env op).WaitsLive ↔ _
    by_cases asks : ∃ id agent question audience now, op = .ask id agent question audience now
    · obtain ⟨id, agent, question, audience, now, rfl⟩ := asks
      change (s.settled (s.askQuestion id agent question audience now)).WaitsLive ↔ _
      cases done : s.askQuestion id agent question audience now with
      | error failure =>
        refine iff_of_true live ?_
        by_contra met
        simp only [asksFresh, Bool.not_eq_true', Bool.not_eq_false, Bool.and_eq_true, Option.any_eq_true,
          decide_eq_true_eq] at met
        obtain ⟨⟨⟨task, found, taken⟩, other⟩, _⟩ := met
        have moves : (s.getTask id).filter (askWrite agent now).takes = some task := by simp [found, taken]
        simp [askQuestion, other, transition_eq, moves, ok_bind, pure_eq] at done
      | ok answered =>
        obtain ⟨other, ⟨task, found, taken, one⟩, said⟩ := askQuestion_said done
        have owner : task.owner = some agent := by
          simp only [askWrite, heldBy, Bool.and_eq_true, decide_eq_true_eq] at taken
          exact taken.1
        simp only [asksFresh, found, Option.any_some, taken, other, ne_eq, not_false_eq_true, decide_true, Bool.true_and,
          Bool.not_eq_true']
        constructor
        · intro after
          exact (WaitsLive.asked_free after said rfl one rfl).1
        · intro free
          exact live.asked said one free rfl rfl fun _ => owner
    · by_cases resets : ∃ confirmation, op = .reset confirmation
      · obtain ⟨confirmation, rfl⟩ := resets
        refine iff_of_true ?_ rfl
        change (s.settle (s.resetDatabase confirmation)).WaitsLive
        unfold resetDatabase
        split
        · exact live
        · intro entry member
          cases member
      · simp only [not_exists] at asks resets
        refine iff_of_true (live.quiet (perform_staysParked env s op asks) (perform_quiet env s op asks resets)) ?_
        cases op with
        | ask id agent question audience now => exact absurd rfl (asks id agent question audience now)
        | _ => rfl
  · change (s.performFederated op).WaitsLive ↔ _
    by_cases parks : ∃ id agent question audience now, op = .park id agent question audience now
    · obtain ⟨id, agent, question, audience, now, rfl⟩ := parks
      change (s.settle (s.applyFederatedPark id agent question audience now)).WaitsLive ↔ _
      cases found : s.getTask id with
      | none =>
        have failed : s.applyFederatedPark id agent question audience now = .error (.notFound id) := by
          simp [applyFederatedPark, project, record, getTask_updateTask, found]
        rw [failed]
        exact iff_of_true live (by simp [asksFresh, found])
      | some task =>
        have taken : (federatedParkWrite .needsInput now).takes task = true := rfl
        have done : s.applyFederatedPark id agent question audience now = .ok
            ((s.moved id now (federatedParkWrite .needsInput now)
              ⟨.questioned, some agent, .federated none audience⟩ task).appendQa
                ⟨id, .question, question, agent, audience, now⟩) := by
          simp [applyFederatedPark, project, record, getTask_updateTask, found, getTask_id found, taken, moved, ok_bind, pure_eq]
        have one := moved_oneRow now ⟨.questioned, some agent, .federated none audience⟩ found taken
        have one : s.OneRow ((s.moved id now (federatedParkWrite .needsInput now)
            ⟨.questioned, some agent, .federated none audience⟩ task).appendQa
              ⟨id, .question, question, agent, audience, now⟩) id task _ := ⟨found, one.rows⟩
        rw [done]
        simp only [asksFresh, found, Option.all_some, Bool.and_eq_true, Bool.not_eq_true', Bool.or_eq_true, heldBy,
          decide_eq_true_eq, Option.isNone_iff_eq_none]
        constructor
        · intro after
          obtain ⟨free, owner⟩ := WaitsLive.asked_free (s := s) after rfl rfl one rfl
          refine ⟨free, ?_⟩
          cases audience with
          | none => exact .inl rfl
          | some addressee => exact .inr (owner rfl)
        · rintro ⟨free, owner⟩
          refine live.asked rfl one free rfl rfl fun addressed => ?_
          rcases owner with rfl | owner
          · cases addressed
          · exact owner
    · simp only [not_exists] at parks
      obtain ⟨stays, quiet⟩ := s.performFederated_waits op parks
      refine iff_of_true (live.quiet stays quiet) ?_
      cases op with
      | park id agent question audience now => exact absurd rfl (parks id agent question audience now)
      | _ => rfl

end
end Store

/-- Through every interleaving of local operations and projections, waits and the
stalls drawn from them are live exactly while every question finds none left open
on its task. -/
theorem waits_are_live {env : Env} {history : List (Entry Store (Op ⊕ FederatedOp))} {state : Store}
    (run : (anyStore env).Run history state) :
    (∀ seen ∈ (anyStore env).visited history, seen.WaitsLive ∧ seen.StallsLive) ↔
      ∀ entry ∈ history, entry.before.asksFresh entry.op = true := by
  rw [← run.visited_good_iff Store.WaitsLive (fun s op => s.asksFresh op = true) (by intro entry member; cases member)
    fun before op live => live.step_iff op]
  exact forall₂_congr fun _ _ => ⟨fun both => both.1, fun live => ⟨live, live.stalls⟩⟩

def askedByAnn : List (Store → Op ⊕ FederatedOp) := anyOps
  [fun _ => .ask "task:goal:ship|first|2" "ann" "which port?" (some "bob") 4,
    fun _ => .claim "task:goal:ship|first|2" "ann" 100 none none 3,
    fun _ => .createTask "goal:ship" "first" "works" none none [] 2,
    fun _ => .defineGoal .objective "Ship" "It ships" none 1]

theorem askedByAnn_run : (anyStore Env.plain).Replays askedByAnn :=
  Machine.replay_run (Ready.any (by simp +contextual [Op.enabled, Op.reads]))

theorem waits_are_live_asked :
    ((anyStore Env.plain).replay askedByAnn).2.waits = [⟨"task:goal:ship|first|2", "ann", "bob", 4⟩] ∧
      ∀ seen ∈ (anyStore Env.plain).visited ((anyStore Env.plain).replay askedByAnn).1, seen.WaitsLive ∧ seen.StallsLive := by
  refine ⟨by decide +kernel, (waits_are_live askedByAnn_run).mpr ?_⟩
  decide +kernel

def askedAgain : List (Store → Op ⊕ FederatedOp) :=
  anyOps
    [fun _ => .ask "task:goal:ship|first|2" "eve" "which port?" none 604811,
      fun _ => .claim "task:goal:ship|first|2" "eve" 100 none none 604810] ++ askedByAnn

/-- Ann is still reported as waiting on bob, and eve's task as awaiting him. -/
theorem unanswered_question_outlives_owner :
    (¬ ∀ env history state, (anyStore env).Run history state → state.WaitsLive ∧ state.StallsLive) ∧
      ((anyStore Env.plain).replay askedAgain).2.waits = [⟨"task:goal:ship|first|2", "ann", "bob", 4⟩] ∧
      ((((anyStore Env.plain).replay askedAgain).2.stalledWork 604812).map fun stall => (stall.kind, stall.detail)) =
        [(.awaitingAgent, "parked awaiting an answer from bob")] := by
  refine ⟨?_, by decide +kernel, by decide +kernel⟩
  intro always
  have run : (anyStore Env.plain).Replays askedAgain :=
    askedByAnn_run.replay_append (Ready.any (by simp +contextual [Op.enabled, Op.reads]))
  have stale : ¬ ((anyStore Env.plain).replay askedAgain).2.WaitsLive := by decide +kernel
  exact stale (always Env.plain _ _ run).1

end MindLeak.Lodestar
