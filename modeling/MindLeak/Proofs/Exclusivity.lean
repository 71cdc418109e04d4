import MindLeak.Proofs.Handoffs

/-! Exclusive claims: while a lease runs nobody else's operation moves the row,
a claim opens an evidence window or continues its owner's own, and a lost claim
leaves no trace. -/

namespace MindLeak.Lodestar

open Option

/-- The agent behind an operation on a claim, and the time it acts at. -/
def Op.issuer : Op → Option (String × Int)
  | .claim _ agent _ _ _ now | .renew _ agent _ now | .touch _ agent _ now | .release _ agent now
  | .ask _ agent _ _ now | .pause _ agent _ now | .resume _ agent _ now => some (agent, now)
  | .recover _ _ recovering _ _ _ now => some (recovering.agent, now)
  | .complete _ _ agent _ _ _ now => (resolveAgent agent).toOption.map fun owner => (owner, now)
  | _ => none

structure Task.Leased (task : Task) (owner : String) (lease : Int) : Prop where
  claimed : task.status = .claimed
  owned : task.owner = some owner
  until_ : task.leaseExpiresAt = some lease

variable {task : Task} {owner agent : String} {lease now : Int}

section

theorem Task.Leased.not_held (leased : task.Leased owner lease) (other : agent ≠ owner) : heldBy agent task = false := by
  have apart : owner ≠ agent := Ne.symm other
  simp [heldBy, leased.owned, apart]

theorem Task.Leased.not_lapsed (leased : task.Leased owner lease) (running : now ≤ lease) : lapsed now task = false := by
  simp only [lapsed, leased.until_, any_some, decide_eq_false_iff_not]
  omega

theorem Rewrite.Issues.spares {op : Op} {id : String} {acted : Int} {rewrite : Rewrite}
    (issued : Rewrite.Issues op id acted rewrite) (issuer : op.issuer = some (agent, now))
    (leased : task.Leased owner lease) (other : agent ≠ owner) (running : now ≤ lease)
    (admitted : rewrite.Admits acted task) : (rewrite.write acted).takes task = false := by
  cases issued with
  | claim =>
    cases issuer
    have apart := leased.not_held other
    have current := leased.not_lapsed running
    simp [Rewrite.write, claimWrite, leased.claimed, apart, current]
  | recover =>
    cases issuer
    rcases admitted.2 with lapsed | asked | paused
    · rw [leased.not_lapsed running] at lapsed
      cases lapsed.2
    · cases leased.claimed.symm.trans asked
    · cases leased.claimed.symm.trans paused
  | renew | touch | release | ask | pause | resume =>
    cases issuer
    have apart := leased.not_held other
    simp [Rewrite.write, renewWrite, touchWrite, releaseWrite, askWrite, pauseWrite, resumeWrite, apart]
  | answer | reconnect | reopen => cases issuer

end

namespace Store
section
variable {env : Env} {s after : Store} {op : Op} {id : String}

theorem Change.spares (change : Change env s op after) (issuer : op.issuer = some (agent, now))
    (found : s.getTask id = some task) (leased : task.Leased owner lease) (other : agent ≠ owner)
    (running : now ≤ lease) : after.getTask id = some task := by
  cases change with
  | aside same => exact (same.getTask id).trans found
  | checked record numbered done =>
    subst done
    exact found
  | noted middle stored claimed same kind done =>
    subst done
    exact (same.getTask id).trans found
  | @rewrote op key acted after middle note row rewrite issued stored taken admitted kind wrote beside =>
    subst wrote
    have apart : id ≠ key := by
      rintro rfl
      cases found.symm.trans stored
      have spared := issued.spares issuer leased other running admitted
      cases taken.symm.trans spared
    exact (beside.sameWork.getTask id).trans (((moved_oneRow acted note stored taken).elsewhere apart).trans found)
  | @completed seen key by_ evidence check lessons acted holder record row middle after resolved validated kept named
      agrees stored taken wrote done =>
    subst wrote
    simp only [Op.issuer, resolved, Except.toOption, map_some, some.injEq, Prod.mk.injEq] at issuer
    obtain ⟨rfl, rfl⟩ := issuer
    have apart : id ≠ key := by
      rintro rfl
      cases found.symm.trans stored
      simp [completeWrite, leased.not_held other] at taken
    have one := moved_oneRow acted ⟨.conformanceRecorded, some holder, .verdict check.verdict check.id⟩ stored taken
    have still := (one.elsewhere apart).trans found
    split at done
    · subst done
      rcases opened_row _ key acted with same | ⟨successor, row, row', opens, _, blocked, _⟩
      · rwa [same]
      refine (opens.elsewhere ?_).trans still
      rintro rfl
      cases still.symm.trans opens.found
      cases leased.claimed.symm.trans blocked
    · rwa [done]
  | blocked | abandoned | resolved | created | materialized | amended | reset => cases issuer

theorem perform_spares (ops : List Op) (found : s.getTask id = some task) (leased : task.Leased owner lease)
    (others : ∀ op ∈ ops, ∃ agent now, op.issuer = some (agent, now) ∧ agent ≠ owner ∧ now ≤ lease) :
    (ops.foldl (Store.perform env) s).getTask id = some task := by
  induction ops generalizing s with
  | nil => exact found
  | cons op rest ih =>
    obtain ⟨agent, now, issuer, other, running⟩ := others op List.mem_cons_self
    have next := (perform_change env s op).spares issuer found leased other running
    exact ih next fun op member => others op (List.mem_cons_of_mem _ member)

theorem claimTask_window {leaseSecs : Int} {paths symbols : Option (List String)}
    (won : s.claimTask env id agent leaseSecs paths symbols now = .ok (true, after)) :
    ∃ before row, s.getTask id = some before ∧ after.getTask id = some row ∧
      row.status = .claimed ∧ row.owner = some agent ∧
      (before.status = .claimed → before.owner = some agent →
        row.claimStartedAt = before.claimStartedAt ∧ row.branch = before.branch) ∧
      (before.status ≠ .claimed ∨ before.owner ≠ some agent →
        row.claimStartedAt = some now ∧ row.branch = s.declaredBranch agent) := by
  rcases claimTask_ok won with ⟨lost, _⟩ | ⟨_, middle, ⟨before, found, taken, wrote⟩, beside⟩
  · cases lost
  subst wrote
  have row := (moved_oneRow now ⟨.claimed, some agent, .leaseSecs leaseSecs⟩ found taken).here
  refine ⟨before, _, found, (beside.sameWork.getTask id).trans row, rfl, rfl, ?_, ?_⟩
  · intro claimed owned
    simp [claimWrite, heldBy, claimed, owned]
  · intro fresh
    rcases fresh with status | held
    · simp [claimWrite, status]
    · simp [claimWrite, heldBy, held]

theorem claimTask_lost {leaseSecs : Int} {paths symbols : Option (List String)}
    (lost : ∀ after, s.claimTask env id agent leaseSecs paths symbols now ≠ .ok (true, after)) :
    s.perform env (.claim id agent leaseSecs paths symbols now) = s := by
  simp only [perform, settled]
  split
  next won after answered =>
    rcases claimTask_ok answered with ⟨_, same, _⟩ | ⟨rfl, _⟩
    · exact same
    · exact absurd answered (lost after)
  next => rfl

end
end Store

/-- Exclusive claims, window ownership and lost claims, from any store on. -/
theorem claims_are_exclusive (env : Env) (s : Store) :
    (∀ (ops : List Op) id task owner lease, s.getTask id = some task → task.Leased owner lease →
      (∀ op ∈ ops, ∃ agent now, Op.issuer op = some (agent, now) ∧ agent ≠ owner ∧ now ≤ lease) →
      (ops.foldl (Store.perform env) s).getTask id = some task) ∧
    (∀ id agent leaseSecs paths symbols now after,
      s.claimTask env id agent leaseSecs paths symbols now = .ok (true, after) →
      ∃ before row, s.getTask id = some before ∧ after.getTask id = some row ∧
        row.status = .claimed ∧ row.owner = some agent ∧
        (before.status = .claimed → before.owner = some agent →
          row.claimStartedAt = before.claimStartedAt ∧ row.branch = before.branch) ∧
        (before.status ≠ .claimed ∨ before.owner ≠ some agent →
          row.claimStartedAt = some now ∧ row.branch = s.declaredBranch agent)) ∧
    ∀ id agent leaseSecs paths symbols now,
      (∀ after, s.claimTask env id agent leaseSecs paths symbols now ≠ .ok (true, after)) →
      s.perform env (.claim id agent leaseSecs paths symbols now) = s :=
  ⟨fun ops _ _ _ _ found leased others => Store.perform_spares ops found leased others,
    fun _ _ _ _ _ _ _ won => Store.claimTask_window won, fun _ _ _ _ _ _ lost => Store.claimTask_lost lost⟩

end MindLeak.Lodestar
