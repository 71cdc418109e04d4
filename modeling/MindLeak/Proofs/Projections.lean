import MindLeak.Proofs.Fates
import MindLeak.Proofs.Gate

/-! Claims decided by another authority, beside local operations on the same
rows. A local operation leaves work at rest alone; a projection writes what was
decided, whatever row it reaches. -/

namespace MindLeak.Lodestar

open Option

def FederatedOp.target : FederatedOp → String
  | .grant id .. | .release id .. | .park id .. | .answer id .. | .pause id .. | .resume id .. => id

section
variable {after : Store} {op : Op} {id : String} {row : Task} {now : Int} {write : TaskWrite} {kind : TaskEventKind}

theorem Cause.unfinished (cause : Cause after op id now row write kind) (taken : write.takes row = true) :
    row.status.isFinished = false := by
  cases cause with
  | rewrite rewrite issued admitted => exact (rewrite.unfinished taken admitted).1
  | block issued unfinished => exact unfinished
  | complete issued =>
    simp only [completeWrite, Bool.and_eq_true, decide_eq_true_eq] at taken
    rw [taken.1.1.2]
    rfl
  | abandon issued allowed => exact (Store.refuseAbandon_ok allowed).1
  | resolve issued waiting =>
    rw [waiting]
    rfl
  | unblock acts found finished =>
    simp only [unblockWrite, Bool.and_eq_true, decide_eq_true_eq] at taken
    rw [taken.2]
    rfl

theorem Cause.gated {predecessor : String} (cause : Cause after op id now row write kind) (taken : write.takes row = true)
    (blocked : row.status = .blocked) (gate : row.blockedBy = some predecessor) :
    (write.leaves row).status = .blocked ∨ (write.leaves row).status = .abandoned ∨ ((write.leaves row).status = .open ∧
      ∃ ended, after.getTask predecessor = some ended ∧ ended.status.isFinished = true) := by
  cases cause with
  | rewrite rewrite issued admitted =>
    have before := rewrite.takes_from taken admitted
    cases rewrite with
    | reopen =>
      rcases admitted with review | free
      · cases blocked.symm.trans review
      · rw [gate] at free
        cases free.2
    | _ => simp [Rewrite.takesFrom, blocked] at before
  | block => exact .inl rfl
  | abandon => exact .inr (.inl rfl)
  | complete issued => simp [completeWrite, blocked] at taken
  | resolve issued waiting =>
    cases blocked.symm.trans waiting
  | unblock acts found finished =>
    simp only [unblockWrite, Bool.and_eq_true, decide_eq_true_eq] at taken
    cases gate.symm.trans taken.1
    exact .inr (.inr ⟨rfl, _, found, finished⟩)

end

namespace Store

structure LeavesAtRest (s after : Store) : Prop where
  finished : ∀ id row row', s.getTask id = some row → row.status.isFinished = true → after.getTask id = some row' →
    row'.status = row.status
  gated : ∀ id row row' predecessor, s.getTask id = some row → row.status = .blocked → row.blockedBy = some predecessor →
    after.getTask id = some row' → row'.status = .blocked ∨ row'.status = .abandoned ∨
      (row'.status = .open ∧ ∃ ended, after.getTask predecessor = some ended ∧ ended.status.isFinished = true)

def ReachesActive (s : Store) : Op ⊕ FederatedOp → Prop
  | .inl _ => True
  | .inr op => ∀ row ∈ s.getTask op.target,
      row.status.isFinished = false ∧ ¬ (row.status = .blocked ∧ row.blockedBy.isSome = true)

instance (s : Store) : ∀ op : Op ⊕ FederatedOp, Decidable (s.ReachesActive op) := by
  rintro ⟨⟩ <;> (dsimp only [ReachesActive]; infer_instance)

section

theorem perform_leavesAtRest (env : Env) (s : Store) (op : Op) : s.LeavesAtRest (s.perform env op) := by
  constructor
  · intro id row row' found finished left
    cases (perform_change env s op).fate id with
    | still alone =>
      cases found.symm.trans (alone.row.symm.trans left)
      rfl
    | wrote acts taken cause written =>
      cases found.symm.trans written.found
      have running := cause.unfinished taken
      rw [running] at finished
      cases finished
    | noted acts claimed written =>
      cases found.symm.trans written.found
      rw [claimed] at finished
      cases finished
    | carried kept carried log =>
      cases found.symm.trans kept
      cases left.symm.trans carried
      rfl
    | born acts fresh written =>
      cases written.found.symm.trans found
    | gone missing log =>
      cases missing.symm.trans left
  · intro id row row' predecessor found blocked gate left
    cases (perform_change env s op).fate id with
    | still alone =>
      cases found.symm.trans (alone.row.symm.trans left)
      exact .inl blocked
    | wrote acts taken cause written =>
      cases found.symm.trans written.found
      cases left.symm.trans written.left
      exact cause.gated taken blocked gate
    | noted acts claimed written =>
      cases found.symm.trans written.found
      cases blocked.symm.trans claimed
    | carried kept carried log =>
      cases found.symm.trans kept
      cases left.symm.trans carried
      exact .inl blocked
    | born acts fresh written =>
      cases written.found.symm.trans found
    | gone missing log =>
      cases missing.symm.trans left

end

section
variable {s after : Store}

theorem project_ok {id : String} {now : Int} {write : TaskWrite} {note : EventNote} (always : ∀ task, write.takes task = true)
    (done : s.project id now write note = .ok after) : s.Wrote id now write note after := by
  simp only [project, record, getTask_updateTask] at done
  cases found : s.getTask id with
  | none => simp [found] at done
  | some task =>
    simp only [found, map_some, getTask_id found, always, decide_true, Bool.and_self, if_true] at done
    cases done
    exact ⟨task, found, always task, rfl⟩

theorem performFederated_ok (s : Store) (op : FederatedOp) :
    s.performFederated op = s ∨ ∃ now write note, s.Moves op.target now write note (s.performFederated op) := by
  have settled {result : Result Store} (each : ∀ after, result = .ok after → ∃ now write note,
      s.Moves op.target now write note after) :
      s.settle result = s ∨ ∃ now write note, s.Moves op.target now write note (s.settle result) := by
    cases result with
    | error failure => exact .inl rfl
    | ok after => exact .inr (each after rfl)
  cases op with
  | grant id agent grant kind now =>
    refine settled fun after done => ?_
    obtain ⟨middle, projected, done⟩ := bind_ok done
    obtain ⟨_, paths, symbols⟩ := bind_ok done
    exact ⟨_, _, _, middle, project_ok (fun _ => rfl) projected,
      (Beside.replaceScope paths).trans (Beside.replaceScope symbols)⟩
  | release id agent now => exact settled fun after done => ⟨_, _, _, (project_ok (fun _ => rfl) done).moves⟩
  | park | answer =>
    refine settled fun after done => ?_
    obtain ⟨middle, projected, done⟩ := bind_ok done
    cases done
    exact ⟨_, _, _, middle, project_ok (fun _ => rfl) projected, .appendQa middle _⟩
  | pause id agent why now =>
    refine settled fun after done => ?_
    obtain ⟨middle, projected, done⟩ := bind_ok done
    cases done
    exact ⟨_, _, _, middle, project_ok (fun _ => rfl) projected, .appendNote middle id why agent now⟩
  | resume id agent grant now => exact settled fun after done => ⟨_, _, _, (project_ok (fun _ => rfl) done).moves⟩

theorem performFederated_elsewhere (s : Store) (op : FederatedOp) {key : String} (other : key ≠ op.target) :
    (s.performFederated op).getTask key = s.getTask key := by
  rcases s.performFederated_ok op with same | ⟨now, write, note, middle, ⟨task, found, taken, rfl⟩, beside⟩
  · rw [same]
  · exact (beside.sameWork.getTask key).trans ((moved_oneRow now note found taken).elsewhere other)

theorem performFederated_leavesAtRest {op : FederatedOp} (active : s.ReachesActive (.inr op)) :
    s.LeavesAtRest (s.performFederated op) := by
  constructor
  · intro id row row' found finished left
    by_cases here : id = op.target
    · have running := (active row (here ▸ found)).1
      cases running.symm.trans finished
    · rw [s.performFederated_elsewhere op here, found] at left
      cases left
      rfl
  · intro id row row' predecessor found blocked gate left
    by_cases here : id = op.target
    · have ungated := (active row (here ▸ found)).2
      exact absurd ⟨blocked, by simp [gate]⟩ ungated
    · rw [s.performFederated_elsewhere op here, found] at left
      cases left
      exact .inl blocked

end
end Store

/-- Through every interleaving of local operations and projections, work at rest
stays at rest while the projections reach active rows only. -/
theorem work_stays_at_rest {env : Env} {history : List (Entry Store (Op ⊕ FederatedOp))} {state : Store}
    (run : (anyStore env).Run history state) (steps : ∀ entry ∈ history, entry.before.ReachesActive entry.op) :
    ∀ entry ∈ history, entry.before.LeavesAtRest entry.after := by
  intro entry member
  have active := steps entry member
  obtain ⟨_, after⟩ := run.entry_good (fun _ => True) trivial (fun _ _ _ => trivial) member
  rw [after]
  obtain ⟨before, op, _⟩ := entry
  cases op with
  | inl op => exact before.perform_leavesAtRest env op
  | inr op => exact Store.performFederated_leavesAtRest active

def anyOps (ops : List (Store → Op)) : List (Store → Op ⊕ FederatedOp) := ops.map fun op s => .inl (op s)

theorem Ready.any {env : Env} {ops : List (Store → Op)} (ready : Ready ops) :
    ∀ op ∈ anyOps ops, ∀ visited s, s ∈ visited → (anyStore env).enabled visited (op s) := by
  intro op member visited s met here same
  obtain ⟨op, inside, rfl⟩ := List.mem_map.mp member
  cases same
  exact ready op inside visited s met

def granted : FederatedClaimGrant where
  owner := "bob"
  branch := none
  claimStartedAt := 5
  leaseExpiresAt := 105
  claimLapses := 0
  paths := []
  symbols := []

/-- Claimed, paused and resumed by the other authority, newest first. -/
def projectedThrough : List (Store → Op ⊕ FederatedOp) :=
  ([fun _ => .inr (.resume "task:goal:ship|first|1" "bob" granted 8),
    fun _ => .inr (.pause "task:goal:ship|first|1" "bob" none 7),
    fun _ => .inr (.grant "task:goal:ship|first|1" "bob" granted .claimed 5)] : List (Store → Op ⊕ FederatedOp)) ++ anyOps handedOff

theorem work_stays_at_rest_projected :
    (((anyStore Env.plain).replay projectedThrough).2.getTask "task:goal:ship|first|1").map (·.status) = some .claimed ∧
      ∀ entry ∈ ((anyStore Env.plain).replay projectedThrough).1, entry.before.LeavesAtRest entry.after := by
  refine ⟨by decide +kernel, work_stays_at_rest ((Machine.replay_run handedOff_ready.any).replay_append ?_) ?_⟩
  · simp [anyStore]
  · decide +kernel

def abandonedFirst : List (Store → Op ⊕ FederatedOp) :=
  (fun s => .inl (.abandon s "task:goal:ship|first|1" true 6)) :: anyOps handedOff

theorem abandonedFirst_run : (anyStore Env.plain).Replays abandonedFirst :=
  Machine.replay_run (List.forall_mem_cons.mpr ⟨by simp +contextual [anyStore, Op.enabled, Op.reads], handedOff_ready.any⟩)

/-- A projection claims an abandoned task, and a gated one. -/
theorem projection_revives :
    (¬ ∀ env history state, (anyStore env).Run history state → ∀ entry ∈ history, ∀ id row row',
      entry.before.getTask id = some row → row.status.isFinished = true → entry.after.getTask id = some row' →
        row'.status = row.status) ∧
    ¬ ∀ env history state, (anyStore env).Run history state → ∀ entry ∈ history, ∀ id row row' predecessor,
      entry.before.getTask id = some row → row.status = .blocked → row.blockedBy = some predecessor →
        entry.before.Unfinished predecessor → entry.after.getTask id = some row' → row'.status ≠ .claimed := by
  have ready (visited : List Store) (id : String) :
      (anyStore Env.plain).enabled visited (.inr (.grant id "bob" granted .claimed 7)) := by
    intro here same
    cases same
  constructor
  · intro always
    have kept := always Env.plain _ _ (abandonedFirst_run.step _ (ready _ "task:goal:ship|first|1")) _ List.mem_cons_self
      "task:goal:ship|first|1"
    have before : (((anyStore Env.plain).replay abandonedFirst).2.getTask "task:goal:ship|first|1").map Task.status =
        some .abandoned := by
      decide +kernel
    have after : (((anyStore Env.plain).apply ((anyStore Env.plain).replay abandonedFirst).2 (.inr
        (.grant "task:goal:ship|first|1" "bob" granted .claimed 7))).getTask "task:goal:ship|first|1").map Task.status =
          some .claimed := by
      decide +kernel
    obtain ⟨row, found, abandoned⟩ := map_eq_some_iff.mp before
    obtain ⟨row', left, claimed⟩ := map_eq_some_iff.mp after
    have same := kept row row' found (by rw [abandoned]; rfl) left
    rw [claimed, abandoned] at same
    cases same
  · intro always
    have past : (anyStore Env.plain).Replays (anyOps handedOff) := Machine.replay_run handedOff_ready.any
    have kept := always Env.plain _ _ (past.step _ (ready _ "task:goal:ship|second|2")) _ List.mem_cons_self
      "task:goal:ship|second|2"
    have before : (((anyStore Env.plain).replay (anyOps handedOff)).2.getTask "task:goal:ship|second|2").map
        (fun row => (row.status, row.blockedBy)) = some (.blocked, some "task:goal:ship|first|1") := by
      decide +kernel
    have ahead : (((anyStore Env.plain).replay (anyOps handedOff)).2.getTask "task:goal:ship|first|1").map Task.status =
        some .open := by
      decide +kernel
    have after : (((anyStore Env.plain).apply ((anyStore Env.plain).replay (anyOps handedOff)).2 (.inr
        (.grant "task:goal:ship|second|2" "bob" granted .claimed 7))).getTask "task:goal:ship|second|2").map Task.status =
          some .claimed := by
      decide +kernel
    obtain ⟨row, found, same⟩ := map_eq_some_iff.mp before
    obtain ⟨first, stored, free⟩ := map_eq_some_iff.mp ahead
    obtain ⟨row', left, claimed⟩ := map_eq_some_iff.mp after
    have unfinished : first.status.isFinished = false := by
      rw [free]
      rfl
    exact kept row row' _ found (congrArg Prod.fst same) (congrArg Prod.snd same) ⟨first, stored, unfinished⟩ left claimed

end MindLeak.Lodestar
