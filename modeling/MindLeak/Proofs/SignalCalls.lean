import MindLeak.Proofs.Attribution
import MindLeak.Proofs.SignalCommits

/-! What any number of calls that consolidate signal leave of the raw signal, in any order. -/

namespace MindLeak.Core

open Option

variable {display : MindLeakError → String}

section
variable {store : SignalStore} {event : SignalEvent}

theorem commit_cases (display : MindLeakError → String) {call : ConsolidationCall} {candidates : List SignalCandidate} (leased : store.calls call = .leased candidates)
    (answer : Result IntentSummary) (persistenceTime now : Int) :
    (∃ error, (SignalEvent.commit call answer persistenceTime now).committed store = none ∧
      store.apply display (.commit call answer persistenceTime now) = store.moveTo call (.settled (.error error))) ∨
    ∃ summary facts written after outcome, answer = .ok summary ∧ distill summary candidates persistenceTime = .ok facts ∧
      commitSignalConsolidation store.lease call.owner now candidates facts.nodes facts.edges store.graph = .ok (written, after) ∧
      (SignalEvent.commit call answer persistenceTime now).committed store = some ⟨call, candidates, facts, now⟩ ∧
      store.apply display (.commit call answer persistenceTime now) =
        { store with graph := after }.moveTo call (.settled (.ok outcome)) := by
  unfold SignalEvent.committed SignalStore.apply consolidateUnderLease
  dsimp only
  rw [leased]
  cases answer with
  | error error => exact .inl ⟨error, rfl, rfl⟩
  | ok summary =>
    cases made : distill summary candidates persistenceTime with
    | error error =>
      refine .inl ⟨error, ?_, ?_⟩
      · simp only [Except.bind, made]
      · simp only [bind, Except.bind, made]
    | ok facts =>
      cases wrote : commitSignalConsolidation store.lease call.owner now candidates facts.nodes facts.edges store.graph with
      | error error =>
        refine .inl ⟨error, ?_, ?_⟩
        · simp only [Except.bind, made, wrote]
          rfl
        · simp only [bind, Except.bind, made, wrote]
      | ok given =>
        obtain ⟨⟨outcome, removed, reaped⟩, after⟩ := given
        refine .inr ⟨summary, facts, _, after, ⟨facts.intentId, candidates.length, removed, reaped,
          { outcome with nodeIds := outcome.nodeIds ++ [facts.intentId] }⟩, rfl, made, wrote, ?_, ?_⟩
        · simp only [Except.bind, made, wrote]
          rfl
        · simp only [bind, Except.bind, made, wrote]

theorem SignalEvent.committed_leased {done : SignalCommit} (committed : event.committed store = some done) :
    ∃ answer persistenceTime, event = .commit done.call answer persistenceTime done.now ∧
      store.calls done.call = .leased done.candidates := by
  unfold SignalEvent.committed at committed
  split at committed
  on_goal 2 => cases committed
  rename_i call answer persistenceTime now
  split at committed
  on_goal 2 => cases committed
  rename_i candidates leased
  split at committed
  on_goal 2 => cases committed
  obtain ⟨_, committed⟩ := then_of_ne committed nofun
  cases committed
  exact ⟨answer, persistenceTime, rfl, leased⟩

theorem apply_graph (here : event.elsewhere = false) (quiet : event.committed store = none) :
    (store.apply display event).graph = store.graph := by
  cases event with
  | commit call answer persistenceTime now =>
    cases at_ : store.calls call with
    | leased candidates =>
      rcases commit_cases display at_ answer persistenceTime now with ⟨error, -, same⟩ | ⟨_, _, _, _, _, -, -, -, committed, -⟩
      · rw [same]
        rfl
      · cases committed.symm.trans quiet
    | _ =>
      unfold SignalStore.apply
      dsimp only
      rw [at_]
  | write | reset => cases here
  | _ =>
    unfold SignalStore.apply
    dsimp only
    repeat' split
    all_goals rfl

def SignalEvent.Loses (store : SignalStore) (call : ConsolidationCall) : SignalEvent → Prop
  | .release releasing now => releasing = call ∧ (releaseConsolidationLease call.owner now store.lease).1 = false
  | .fail failing _ => failing = call ∧ ∃ result, store.calls call = .settled result
  | _ => False

inductive CallStep (loses : Prop) : CallPhase → CallPhase → Prop
  | stays (phase : CallPhase) : CallStep loses phase phase
  | reads {candidates : List SignalCandidate} (some_ : candidates ≠ []) : CallStep loses .idle (.read candidates)
  | leases (candidates : List SignalCandidate) : CallStep loses (.read candidates) (.leased candidates)
  | refuses (error : MindLeakError) : CallStep loses .idle (.returned (.error error))
  | declines (candidates : List SignalCandidate) (error : MindLeakError) : CallStep loses (.read candidates) (.returned (.error error))
  | settles (candidates : List SignalCandidate) (error : MindLeakError) : CallStep loses (.leased candidates) (.settled (.error error))
  | returns {result answer : Result SignalConsolidationOutcome} (kept : ∀ outcome, answer = .ok outcome → result = .ok outcome)
      (lost : ∀ outcome error, result = .ok outcome → answer = .error error → loses) : CallStep loses (.settled result) (.returned answer)
  | ends (phase : CallPhase) : CallStep loses phase .gone

theorem settle_cases (display : MindLeakError → String) (result : Result SignalConsolidationOutcome) (released : Bool) :
    (∀ outcome, settle display result released = .ok outcome → result = .ok outcome) ∧
      ∀ outcome error, result = .ok outcome → settle display result released = .error error → released = false := by
  unfold settle
  cases result <;> cases released <;> simp

theorem settleFailed_ne (result : Result SignalConsolidationOutcome) (failure : MindLeakError) (outcome : SignalConsolidationOutcome) :
    settleFailed display result failure ≠ .ok outcome := by
  unfold settleFailed
  cases result <;> simp

theorem moveTo_step {mover : ConsolidationCall} {before phase : CallPhase} {moved : SignalStore} (at_ : store.calls mover = before)
    (moves : CallStep (event.Loses store mover) before phase) (calls : moved.calls = Function.update store.calls mover phase)
    (call : ConsolidationCall) : CallStep (event.Loses store call) (store.calls call) (moved.calls call) := by
  rw [calls]
  by_cases same : call = mover
  · subst same
    rwa [Function.update_self, at_]
  · rw [Function.update_of_ne same]
    exact .stays _

theorem apply_step (quiet : event.committed store = none) (call : ConsolidationCall) :
    CallStep (event.Loses store call) (store.calls call) ((store.apply display event).calls call) := by
  cases event with
  | read mover answer limit =>
    unfold SignalStore.apply
    dsimp only
    split
    next idle =>
      split
      next error => exact moveTo_step idle (.refuses error) rfl call
      split
      next => exact moveTo_step idle (.refuses _) rfl call
      next some_ => exact moveTo_step idle (.reads some_) rfl call
    next => exact .stays _
  | acquire mover leaseSecs minIntervalSecs =>
    unfold SignalStore.apply
    dsimp only
    split
    next candidates read =>
      split
      next => exact moveTo_step read (.leases candidates) rfl call
      next => exact moveTo_step read (.declines candidates _) rfl call
    next => exact .stays _
  | commit mover answer persistenceTime now =>
    cases at_ : store.calls mover with
    | leased candidates =>
      rcases commit_cases display at_ answer persistenceTime now with ⟨error, -, same⟩ | ⟨_, _, _, _, _, -, -, -, committed, -⟩
      · rw [same]
        exact moveTo_step at_ (.settles candidates error) rfl call
      · cases committed.symm.trans quiet
    | _ =>
      unfold SignalStore.apply
      dsimp only
      rw [at_]
      exact .stays _
  | release mover now =>
    unfold SignalStore.apply
    dsimp only
    split
    next result settled =>
      obtain ⟨kept, lost⟩ := settle_cases display result (releaseConsolidationLease mover.owner now store.lease).1
      have returns : CallStep ((SignalEvent.release mover now).Loses store mover) (.settled result)
          (.returned (settle display result (releaseConsolidationLease mover.owner now store.lease).1)) :=
        .returns kept fun outcome error was failed => ⟨rfl, lost outcome error was failed⟩
      exact moveTo_step settled returns rfl call
    next => exact .stays _
  | cancel mover =>
    unfold SignalStore.apply
    dsimp only
    split
    next idle => exact moveTo_step idle (.refuses _) rfl call
    next candidates read => exact moveTo_step read (.declines candidates _) rfl call
    next candidates leased => exact moveTo_step leased (.settles candidates _) rfl call
    next => exact .stays _
  | fail mover error =>
    unfold SignalStore.apply
    dsimp only
    split
    next idle => exact moveTo_step idle (.refuses _) rfl call
    next candidates read => exact moveTo_step read (.declines candidates _) rfl call
    next candidates leased => exact moveTo_step leased (.settles candidates _) rfl call
    next result settled =>
      have returns : CallStep ((SignalEvent.fail mover error).Loses store mover) (.settled result)
          (.returned (settleFailed display result error)) :=
        .returns (fun outcome same => absurd same (settleFailed_ne result error outcome)) fun _ _ _ _ => ⟨rfl, result, settled⟩
      exact moveTo_step settled returns rfl call
    next => exact .stays _
  | crash mover =>
    unfold SignalStore.apply
    dsimp only
    split
    next => exact .stays _
    next => exact moveTo_step rfl (.ends _) rfl call
  | write | reset => exact .stays _

end

section
variable {history : List (Entry SignalStore SignalEvent)} {state : SignalStore}

def HasCommitted (history : List (Entry SignalStore SignalEvent)) (call : ConsolidationCall) : Prop :=
  ∃ entry ∈ history, ∃ done, entry.op.committed entry.before = some done ∧ done.call = call

def HasLostLease (history : List (Entry SignalStore SignalEvent)) (call : ConsolidationCall) : Prop :=
  ∃ entry ∈ history, entry.op.Loses entry.before call

theorem hasCommitted_cons (entry : Entry SignalStore SignalEvent) (call : ConsolidationCall) :
    HasCommitted (entry :: history) call ↔
      (∃ done, entry.op.committed entry.before = some done ∧ done.call = call) ∨ HasCommitted history call := by
  unfold HasCommitted
  simp only [List.mem_cons, exists_eq_or_imp]

theorem hasLostLease_cons (entry : Entry SignalStore SignalEvent) (call : ConsolidationCall) :
    HasLostLease (entry :: history) call ↔ entry.op.Loses entry.before call ∨ HasLostLease history call := by
  unfold HasLostLease
  simp only [List.mem_cons, exists_eq_or_imp]

def CallPhase.Tells (kept lost : Prop) : CallPhase → Prop
  | .idle => ¬kept
  | .read candidates | .leased candidates => candidates ≠ [] ∧ ¬kept
  | .settled (.ok _) | .returned (.ok _) => kept
  | .settled (.error _) => ¬kept
  | .returned (.error _) => kept → lost
  | .gone => True

theorem CallStep.tells {kept lost loses : Prop} {before after : CallPhase} (step : CallStep loses before after)
    (tells : before.Tells kept lost) : after.Tells kept (loses ∨ lost) := by
  cases step with
  | stays =>
    cases before with
    | returned answer =>
      cases answer with
      | ok => exact tells
      | error => exact fun done => .inr (tells done)
    | settled result => cases result <;> exact tells
    | _ => exact tells
  | reads some_ => exact ⟨some_, tells⟩
  | leases => exact tells
  | refuses => exact fun done => absurd done tells
  | declines => exact fun done => absurd done tells.2
  | settles => exact tells.2
  | @returns result answer kept_ lost_ =>
    cases answer with
    | ok outcome =>
      cases kept_ outcome rfl
      exact tells
    | error error =>
      cases result with
      | ok outcome => exact fun _ => .inl (lost_ outcome error rfl rfl)
      | error => exact fun done => absurd done tells
  | ends => trivial

theorem apply_committed (display : MindLeakError → String) {store : SignalStore} {event : SignalEvent} {done : SignalCommit} (committed : event.committed store = some done)
    (some_ : done.candidates ≠ []) :
    leaseValid done.call.owner done.now store.lease = true ∧ done.Consumes store.graph (store.apply display event).graph ∧
      ∃ outcome, (store.apply display event).calls = Function.update store.calls done.call (.settled (.ok outcome)) := by
  obtain ⟨answer, persistenceTime, rfl, leased⟩ := SignalEvent.committed_leased committed
  rcases commit_cases display leased answer persistenceTime done.now with
    ⟨error, quiet, -⟩ | ⟨summary, facts, written, after, outcome, rfl, made, wrote, committed', same⟩
  · cases committed.symm.trans quiet
  · obtain rfl : done.facts = facts := congrArg SignalCommit.facts (Option.some.inj (committed.symm.trans committed'))
    rw [same]
    exact ⟨(commitSignalConsolidation_ok wrote).1, SignalCommit.consumes some_ made wrote, outcome, rfl⟩

theorem calls_tell (run : (signalMachine display).Run history state) (call : ConsolidationCall) :
    (state.calls call).Tells (HasCommitted history call) (HasLostLease history call) := by
  induction run generalizing call with
  | start =>
    rintro ⟨entry, inside, -⟩
    cases inside
  | @step history store past event ready ih =>
    rw [hasCommitted_cons, hasLostLease_cons]
    dsimp only [signalMachine]
    cases committed : event.committed store with
    | none =>
      have quiet : (∃ done : SignalCommit, none = some done ∧ done.call = call) = False := propext ⟨nofun, nofun⟩
      rw [quiet, false_or]
      exact (apply_step committed call).tells (ih call)
    | some done =>
      obtain ⟨answer, persistenceTime, -, leased⟩ := SignalEvent.committed_leased committed
      have before := ih done.call
      rw [leased] at before
      obtain ⟨-, -, outcome, calls⟩ := apply_committed display committed before.1
      rw [calls]
      by_cases same : call = done.call
      · subst same
        rw [Function.update_self]
        exact .inl ⟨done, rfl, rfl⟩
      · have other : (∃ mine, some done = some mine ∧ mine.call = call) = False :=
          propext ⟨fun ⟨_, is_, mine⟩ => same (Option.some.inj is_ ▸ mine.symm), False.elim⟩
        rw [Function.update_of_ne same, other, false_or]
        exact (CallStep.stays _).tells (ih call)

/-- Only commits of calls that hold the lease change the graph for a call, and each consumes its candidates as they were read, with
what was distilled of them in their place. What two of them consume was created anew in between. A call that answers has committed, and
one that fails has not, but where it could not give its lease back. -/
theorem consolidation_loses_nothing (run : (signalMachine display).Run history state) :
    (∀ entry ∈ history, entry.op.elsewhere = false → entry.op.committed entry.before = none →
      entry.after.graph = entry.before.graph) ∧
    (∀ entry ∈ history, ∀ done, entry.op.committed entry.before = some done →
      leaseValid done.call.owner done.now entry.before.lease = true ∧ done.Consumes entry.before.graph entry.after.graph) ∧
    (∀ later second middle first past, history = later ++ second :: (middle ++ first :: past) →
      ∀ one other, first.op.committed first.before = some one → second.op.committed second.before = some other →
        ∀ key ∈ one.candidates.map SignalCandidate.key, key ∈ other.candidates.map SignalCandidate.key →
          key ∈ one.facts.edges.map Edge.key ∨ ∃ entry ∈ middle, entry.before.graph.edges.find? key = none ∧
            (entry.after.graph.edges.find? key).isSome = true) ∧
    (∀ call outcome, state.calls call = .returned (.ok outcome) → HasCommitted history call) ∧
    ∀ call error, state.calls call = .returned (.error error) → HasCommitted history call → HasLostLease history call := by
  have commits (entry : Entry SignalStore SignalEvent) (inside : entry ∈ history) (done : SignalCommit)
      (committed : entry.op.committed entry.before = some done) :
      leaseValid done.call.owner done.now entry.before.lease = true ∧ done.Consumes entry.before.graph entry.after.graph := by
    obtain ⟨past, before, after⟩ := run.entry_past inside
    obtain ⟨_, _, -, leased⟩ := SignalEvent.committed_leased committed
    have tells := calls_tell before done.call
    rw [leased] at tells
    obtain ⟨valid, consumes, -⟩ := apply_committed display committed tells.1
    rw [after]
    exact ⟨valid, consumes⟩
  refine ⟨fun entry inside here quiet => ?_, commits, ?_, fun call outcome returned => ?_, fun call error returned => ?_⟩
  · obtain ⟨past, -, after⟩ := run.entry_past inside
    rw [after]
    exact apply_graph here quiet
  · rintro later second middle first past rfl one other oneDone otherDone key inOne inOther
    by_cases own : key ∈ one.facts.edges.map Edge.key
    · exact .inl own
    have gone := (commits first (by simp) one oneDone).2.edges key
    obtain ⟨candidate, listed, rfl⟩ := List.mem_map.mp inOther
    obtain ⟨row, found, -⟩ := (commits second (by simp) other otherDone).2.versions candidate listed
    obtain ⟨entry, between, off, on⟩ := run.turned (fun store => (store.graph.edges.find? candidate.key).isSome = true)
      (fun there => (gone.mp there).elim own fun both => both.1 inOne) (by rw [found]; rfl)
    exact .inr ⟨entry, between, not_isSome_iff_eq_none.mp off, on⟩
  · have tells := calls_tell run call
    rwa [returned] at tells
  · have tells := calls_tell run call
    rwa [returned] at tells

end

section

def SignalStore.refactored (store : SignalStore) : List SignalCandidate :=
  (store.graph.edges.rows.filter fun row => decide (row.key.relation = .refactored)).map fun row =>
    ⟨row.key.sourceId, row.key.targetId, row.key.relation, row.reinforcementCount, row.updatedAt⟩

def worksOnFile : List Step := [
  ⟨10, ⟨["/r"], none⟩, quietSensors, .ingestExecution none ⟨"cargo test", 0, "ok", none, ["/r/src/a.rs"], 4⟩⟩,
  ⟨10, ⟨["/r"], none⟩, quietSensors, .ingestCommit none ⟨none, "fix", ["/r/src/a.rs"], 5⟩⟩]

def ingestsWork (store : SignalStore) : SignalEvent := .write (worksOnFile.foldl (fun g step => step.after blankScanners g) store.graph)

def earlyCall : ConsolidationCall := ⟨1, 100000000, 0⟩

def lateCall : ConsolidationCall := ⟨2, 100000300, 0⟩

def fixSummary : IntentSummary := ⟨"fix a", [⟨"src/a.rs", "fixed"⟩], "done"⟩

def readsRefactored (call : ConsolidationCall) (store : SignalStore) : SignalEvent := .read call (.ok store.refactored) 10

def acquires (call : ConsolidationCall) (_ : SignalStore) : SignalEvent := .acquire call 60 0

def commitsFix (call : ConsolidationCall) (now : Int) (_ : SignalStore) : SignalEvent := .commit call (.ok fixSummary) now now

def releases (call : ConsolidationCall) (now : Int) (_ : SignalStore) : SignalEvent := .release call now

def signalRuns : Machine SignalStore SignalEvent := signalMachine fun _ => ""

def asked : List (SignalStore → SignalEvent) := [acquires earlyCall, readsRefactored earlyCall, ingestsWork]

def ingestedAgain : List (SignalStore → SignalEvent) :=
  [acquires lateCall, readsRefactored lateCall, ingestsWork, releases earlyCall 100000020]

/-- The edge of the commit, as each of two calls consumes it. -/
def reworkedFile : SignalCandidate := ⟨"intent:354df6fe8f2d", "artifact:src/a.rs", .refactored, 1, 5⟩

theorem commits_reworked :
    ((commitsFix earlyCall 100000010 (signalRuns.replay asked).2).committed (signalRuns.replay asked).2).map
        (fun done => (done.call, done.candidates)) = some (earlyCall, [reworkedFile]) ∧
      ((commitsFix lateCall 100000310 (signalRuns.replay (ingestedAgain ++ commitsFix earlyCall 100000010 :: asked)).2).committed
        (signalRuns.replay (ingestedAgain ++ commitsFix earlyCall 100000010 :: asked)).2).map (·.candidates) = some [reworkedFile] := by
  decide +kernel

theorem early_call_consolidates : HasCommitted (signalRuns.replay (commitsFix earlyCall 100000010 :: asked)).1 earlyCall ∧
    ∀ entry ∈ (signalRuns.replay (commitsFix earlyCall 100000010 :: asked)).1, ∀ done, entry.op.committed entry.before = some done →
      leaseValid done.call.owner done.now entry.before.lease = true ∧ done.Consumes entry.before.graph entry.after.graph := by
  have run : signalRuns.Replays (commitsFix earlyCall 100000010 :: asked) := Machine.replay_run fun _ _ _ _ _ => trivial
  obtain ⟨-, commits, -⟩ := consolidation_loses_nothing run
  obtain ⟨done, is_, same⟩ := map_eq_some_iff.mp commits_reworked.1
  exact ⟨⟨_, List.mem_cons_self, done, is_, (Prod.mk.inj same).1⟩, commits⟩

/-- A call takes the lease behind the commit of another, which releases it late. -/
def releasesLate : List (SignalStore → SignalEvent) := [releases earlyCall 100000320, acquires lateCall]

def bothAsked : List (SignalStore → SignalEvent) :=
  [acquires earlyCall, readsRefactored lateCall, readsRefactored earlyCall, ingestsWork]

def CallPhase.failure : CallPhase → Option MindLeakError
  | .returned (.error error) => some error
  | _ => none

theorem CallPhase.of_failure {phase : CallPhase} {error : MindLeakError} (failed : phase.failure = some error) :
    phase = .returned (.error error) := by
  unfold CallPhase.failure at failed
  split at failed
  on_goal 2 => cases failed
  rw [Option.some.inj failed]

/-- One version is consumed twice where it was ingested again, and a call fails behind its commit where another took its lease. -/
theorem consolidation_counterexample :
    (¬∀ (display : MindLeakError → String) (history : List (Entry SignalStore SignalEvent)) (state : SignalStore),
      (signalMachine display).Run history state → ∀ later second middle first past,
        history = later ++ second :: (middle ++ first :: past) → ∀ one other,
        first.op.committed first.before = some one → second.op.committed second.before = some other →
          ∀ candidate ∈ one.candidates, candidate ∉ other.candidates) ∧
    ¬∀ (display : MindLeakError → String) (history : List (Entry SignalStore SignalEvent)) (state : SignalStore),
      (signalMachine display).Run history state → ∀ call error, state.calls call = .returned (.error error) → ¬HasCommitted history call := by
  constructor
  · intro claim
    have run : signalRuns.Replays (commitsFix lateCall 100000310 :: (ingestedAgain ++ commitsFix earlyCall 100000010 :: asked)) :=
      Machine.replay_run fun _ _ _ _ _ => trivial
    obtain ⟨one, oneDone, same⟩ := map_eq_some_iff.mp commits_reworked.1
    have oneRead : one.candidates = [reworkedFile] := (Prod.mk.inj same).2
    obtain ⟨other, otherDone, otherRead⟩ := map_eq_some_iff.mp commits_reworked.2
    obtain ⟨latest, between, entry, split, before, op, before', op'⟩ := signalRuns.replay_around (commitsFix earlyCall 100000010)
      (commitsFix lateCall 100000310) ingestedAgain asked
    refine claim _ _ _ run [] latest between entry _ split one other ?_ ?_ reworkedFile ?_ ?_
    · rw [before, op]
      exact oneDone
    · rw [before', op']
      exact otherDone
    · rw [oneRead]
      exact .head _
    · rw [otherRead]
      exact .head _
  · intro claim
    have run : signalRuns.Replays (releasesLate ++ commitsFix earlyCall 100000010 :: bothAsked) := Machine.replay_run fun _ _ _ _ _ => trivial
    obtain ⟨failed, committed⟩ :
        ((signalRuns.replay (releasesLate ++ commitsFix earlyCall 100000010 :: bothAsked)).2.calls earlyCall).failure =
          some (.busy "signal consolidation lease expired before release") ∧
        ((commitsFix earlyCall 100000010 (signalRuns.replay bothAsked).2).committed (signalRuns.replay bothAsked).2).map (·.call) =
          some earlyCall := by decide +kernel
    obtain ⟨done, is_, mine⟩ := map_eq_some_iff.mp committed
    obtain ⟨entry, inside, before, op⟩ := signalRuns.replay_at (commitsFix earlyCall 100000010) releasesLate bothAsked
    have kept : HasCommitted (signalRuns.replay (releasesLate ++ commitsFix earlyCall 100000010 :: bothAsked)).1 earlyCall := by
      refine ⟨entry, inside, done, ?_, mine⟩
      rw [before, op]
      exact is_
    exact claim _ _ _ run earlyCall _ (CallPhase.of_failure failed) kept

end
end MindLeak.Core
