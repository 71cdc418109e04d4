import MindLeak.Proofs.ClaimCalls

/-! Calls side by side. Whatever the order of their statements, each call that changes a claim
does so as if it ran alone, on the claims that its last statement finds. -/

namespace MindLeak.Ackplane

open Function Table Option

variable {now : Int}

variable {key : ClaimKey}

namespace DelegatedClaims
variable {claims after : DelegatedClaims} {call : ClaimCall} {now : Int} {result : Except ClaimStoreError ClaimAnswer}

theorem Called.find?_ne (called : claims.Called call now result after) (other : key ≠ call.key) :
    after.find? key = claims.find? key := by
  cases called with
  | refused => rfl
  | taken valid found takes done =>
    rw [find?_put, if_neg]
    intro same
    exact other (same.symm.trans ((call.left_key now _).trans (mem_of_find? found).2))
  | created valid delegates absent =>
    subst delegates
    exact (find?_put _ _ _).trans (if_neg (Ne.symm other))

theorem Called.keeps (called : claims.Called call now result after) (there : claims.find? key ≠ none) :
    after.find? key ≠ none := by
  cases called with
  | refused => exact there
  | taken | created =>
    rw [find?_put]
    split
    next => simp
    next => exact there

theorem call_found (now : Int) (valid : call.validate = .ok ()) {row : DelegatedClaim} (found : claims.find? call.key = some row) :
    claims.call call now = match call.found now row with
      | .error error => (.error error, claims)
      | .ok (after, answer) => (.ok answer, claims.put after) := by
  cases answered : call.found now row <;> simp only [DelegatedClaims.call, valid, found, answered]

theorem call_missing (now : Int) (valid : call.validate = .ok ()) (absent : claims.find? call.key = none) :
    claims.call call now = (.ok (call.missing now).2, ((call.missing now).1.map claims.put).getD claims) := by
  simp only [DelegatedClaims.call, valid, absent]

theorem Called.refused_eq (called : claims.Called call now result after) {row : DelegatedClaim}
    (found : claims.find? call.key = some row) (shut : ¬call.Takes now row) : after = claims := by
  cases called with
  | refused => rfl
  | taken valid found' takes done =>
    cases found.symm.trans found'
    exact absurd takes shut
  | created valid delegates absent =>
    subst delegates
    exact nomatch found.symm.trans absent

end DelegatedClaims

/-- How a call may end, and what it leaves, told from the claims that its last statement finds. -/
inductive ClaimEnd.Serial (claims : DelegatedClaims) (call : ClaimCall) (now : Int) : ClaimEnd → DelegatedClaims → Prop where
  | failed : Serial claims call now .failed claims
  | answered : Serial claims call now (.answered (claims.call call now).1) (claims.call call now).2
  | unanswered : Serial claims call now .unanswered (claims.call call now).2
  /-- A release or a park that found no row to lock, and then a row that it does not select. -/
  | passed (waits : ∀ request, call ≠ .delegate request) (same : (claims.call call now).2 = claims) :
    Serial claims call now (.answered (.ok (.changed false))) claims

theorem ClaimEnd.Serial.find?_ne {claims after : DelegatedClaims} {call : ClaimCall} {ending : ClaimEnd}
    (serial : ending.Serial claims call now after) {key : ClaimKey} (other : key ≠ call.key) :
    after.find? key = claims.find? key := by
  cases serial with
  | failed | passed => rfl
  | answered | unanswered => exact (claims.called call now).find?_ne other

def ClaimPhase.Reads (claims : DelegatedClaims) : ClaimPhase → Prop
  | .missed call _ => call.validate = .ok ()
  | .locked call _ row => call.validate = .ok () ∧ claims.find? call.key = some row
  | .inserted request _ => (ClaimCall.delegate request).validate = .ok () ∧ claims.find? request.key = none
  | .idle | .begun _ _ | .finished _ _ _ => True

theorem ClaimPhase.unfinished {phase : ClaimPhase} {under : ClaimCall × Int} (going : phase.call? = some under)
    (call : ClaimCall) (now : Int) (ending : ClaimEnd) : phase ≠ .finished call now ending := by
  rintro rfl
  cases going

namespace Delegations
variable {τ : Type} [DecidableEq τ]
variable {op : DelegationOp τ} {transaction : τ} {call : ClaimCall} {now : Int}
  {ending : Except ClaimStoreError ClaimAnswer → ClaimEnd}

theorem finish_claims (s : Delegations τ) (transaction : τ) (call : ClaimCall) (now : Int) (ending : ClaimEnd) :
    (s.finish transaction call now ending).claims = s.claims := rfl

structure Sound (s : Delegations τ) : Prop where
  reads : ∀ transaction, (s.phase transaction).Reads s.claims
  locked : ∀ transaction key, (s.phase transaction).holding = some key → s.locks key = some transaction

inductive Turn (s : Delegations τ) (op : DelegationOp τ) : Delegations τ → Prop where
  | stays : Turn s op s
  | moves {transaction : τ} {phase : ClaimPhase} (under : (s.phase transaction).holding = none) (lets : phase.holding = none)
      (reads : phase.Reads s.claims) (unfinished : ∀ call now ending, phase ≠ .finished call now ending) :
      Turn s op (s.moveTo transaction phase)
  | locks {transaction : τ} {phase : ClaimPhase} {key : ClaimKey} (under : (s.phase transaction).holding = none)
      (free : s.locks key = none) (takes : phase.holding = some key) (reads : phase.Reads s.claims) :
      Turn s op { s.moveTo transaction phase with locks := Function.update s.locks key (some transaction) }
  | ends {transaction : τ} {call : ClaimCall} {now : Int} {ending : ClaimEnd} {claims : DelegatedClaims}
      (its : op = .step transaction ∨ op = .fail transaction ∨ op = .commitUnheard transaction)
      (under : (s.phase transaction).call? = some (call, now)) (serial : ending.Serial s.claims call now claims)
      (alone : s.locks call.key = some transaction ∨ s.locks call.key = none ∨ claims = s.claims) :
      Turn s op ({ s with claims }.finish transaction call now ending)

variable {s : Delegations τ}

theorem turn_ends {result : Except ClaimStoreError ClaimAnswer} {after : DelegatedClaims}
    (its : op = .step transaction ∨ op = .fail transaction ∨ op = .commitUnheard transaction)
    (under : (s.phase transaction).call? = some (call, now)) (heard : ending = .answered ∨ ending = fun _ => .unanswered)
    (whole : s.claims.call call now = (result, after))
    (alone : s.locks call.key = some transaction ∨ s.locks call.key = none ∨ after = s.claims) :
    s.Turn op ({ s with claims := after }.finish transaction call now (ending result)) := by
  refine .ends its under ?_ alone
  rcases heard with rfl | rfl
  · have serial : ClaimEnd.Serial s.claims call now _ _ := .answered
    rwa [whole] at serial
  · have serial : ClaimEnd.Serial s.claims call now _ _ := .unanswered
    rwa [whole] at serial

theorem turn_commit (sound : s.Sound)
    (its : op = .step transaction ∨ op = .fail transaction ∨ op = .commitUnheard transaction)
    (heard : ending = .answered ∨ ending = fun _ => .unanswered) :
    s.Turn op (s.commit transaction ending) := by
  have reads := sound.reads transaction
  have locked := sound.locked transaction
  unfold commit
  cases phase : s.phase transaction with
  | locked call now row =>
    rw [phase] at reads locked
    obtain ⟨valid, found⟩ := reads
    have under : (s.phase transaction).call? = some (call, now) := by
      rw [phase]
      rfl
    have whole := DelegatedClaims.call_found now valid found
    have mine := locked call.key rfl
    cases result : call.found now row with
    | error error =>
      simp only [result] at whole ⊢
      exact turn_ends its under (.inl rfl) whole (.inl mine)
    | ok given =>
      simp only [result] at whole ⊢
      exact turn_ends its under heard whole (.inl mine)
  | inserted request now =>
    rw [phase] at reads locked
    have under : (s.phase transaction).call? = some (.delegate request, now) := by
      rw [phase]
      rfl
    exact turn_ends its under heard (DelegatedClaims.call_missing now reads.1 reads.2) (.inl (locked request.key rfl))
  | idle | begun | missed | finished => exact .stays

theorem turn_guarded (sound : s.Sound)
    (its : op = .step transaction ∨ op = .fail transaction ∨ op = .commitUnheard transaction)
    (missed : s.phase transaction = .missed call now) (heard : ending = .answered ∨ ending = fun _ => .unanswered)
    (waits : ∀ request, call ≠ .delegate request) (late : ∀ row, call.late now row =
      if call.Takes now row then some (call.left now row) else none)
    (done : ∀ row, call.Takes now row → call.found now row = .ok (call.left now row, .changed true))
    (unclaimed : call.missing now = (none, .changed false)) :
    s.Turn op (match (s.claims.find? call.key).bind (call.late now) with
      | none => s.finish transaction call now (ending (.ok (.changed false)))
      | some after =>
        match s.locks call.key with
        | some _ => s
        | none => (s.write after).finish transaction call now (ending (.ok (.changed true)))) := by
  have valid := sound.reads transaction
  rw [missed] at valid
  have under : (s.phase transaction).call? = some (call, now) := by
    rw [missed]
    rfl
  cases found : s.claims.find? call.key with
  | none =>
    have whole := DelegatedClaims.call_missing now valid found
    rw [unclaimed] at whole
    exact turn_ends its under heard whole (.inr (.inr rfl))
  | some row =>
    rw [bind_some, late]
    by_cases takes : call.Takes now row
    · rw [if_pos takes]
      have whole := DelegatedClaims.call_found now valid found
      rw [done row takes] at whole
      cases lock : s.locks call.key with
      | some other => exact .stays
      | none => exact turn_ends its under heard whole (.inr (.inl lock))
    · rw [if_neg takes]
      have same := (s.claims.called call now).refused_eq found takes
      refine .ends its under ?_ (.inr (.inr rfl))
      rcases heard with rfl | rfl
      · exact .passed waits same
      · have serial : ClaimEnd.Serial s.claims call now _ _ := .unanswered
        rwa [same] at serial

theorem turn_proceed (sound : s.Sound)
    (its : op = .step transaction ∨ op = .fail transaction ∨ op = .commitUnheard transaction)
    (missed : s.phase transaction = .missed call now) (heard : ending = .answered ∨ ending = fun _ => .unanswered) :
    s.Turn op (s.proceed transaction call now ending) := by
  have valid := sound.reads transaction
  rw [missed] at valid
  have under : (s.phase transaction).call? = some (call, now) := by
    rw [missed]
    rfl
  have free : (s.phase transaction).holding = none := by
    rw [missed]
    rfl
  unfold proceed
  cases call with
  | delegate request =>
    cases absent : s.claims.find? request.key with
    | some row => simpa only [absent] using .moves free rfl trivial (ClaimPhase.unfinished rfl)
    | none =>
      cases lock : s.locks request.key with
      | some other => simpa only [absent, lock] using .stays
      | none => simpa only [absent, lock] using .locks free lock rfl ⟨valid, absent⟩
  | release key owner => exact turn_guarded sound its missed heard (by simp) (fun row => rfl) (fun row takes => row.release_takes takes) rfl
  | park key owner => exact turn_guarded sound its missed heard (by simp) (fun row => row.park_late) (fun row takes => row.park_takes takes) rfl
  | renew | answer | recover => exact .stays

theorem turn_look (its : op = .step transaction ∨ op = .fail transaction ∨ op = .commitUnheard transaction)
    (begun : s.phase transaction = .begun call now) : s.Turn op (s.look transaction call now) := by
  have under : (s.phase transaction).call? = some (call, now) := by
    rw [begun]
    rfl
  have free : (s.phase transaction).holding = none := by
    rw [begun]
    rfl
  unfold look
  cases valid : call.validate with
  | error error =>
    have whole : s.claims.call call now = (.error error, s.claims) := by simp only [DelegatedClaims.call, valid]
    exact turn_ends its under (.inl rfl) whole (.inr (.inr rfl))
  | ok =>
    cases absent : s.claims.find? call.key with
    | none =>
      have whole := DelegatedClaims.call_missing now valid absent
      cases call with
      | delegate | release | park => exact .moves free rfl valid (ClaimPhase.unfinished rfl)
      | renew | answer | recover => exact turn_ends its under (.inl rfl) whole (.inr (.inr rfl))
    | some row =>
      cases lock : s.locks call.key with
      | some other => exact .stays
      | none => exact .locks free lock rfl ⟨valid, absent⟩

theorem turn (sound : s.Sound) (op : DelegationOp τ) : s.Turn op (s.apply op) := by
  cases op with
  | start transaction call now =>
    simp only [apply]
    split
    next idle => exact .moves (by rw [idle]; rfl) rfl trivial (ClaimPhase.unfinished rfl)
    next => exact .stays
  | fail transaction =>
    simp only [apply]
    split
    next call now under => exact .ends (.inr (.inl rfl)) under .failed (.inr (.inr rfl))
    next => exact .stays
  | commitUnheard transaction =>
    simp only [apply]
    split
    next call now missed => exact turn_proceed sound (.inr (.inr rfl)) missed (.inr rfl)
    next => exact turn_commit sound (.inr (.inr rfl)) (.inr rfl)
  | step transaction =>
    simp only [apply, step]
    cases phase : s.phase transaction with
    | idle | finished => exact .stays
    | begun call now => exact turn_look (.inl rfl) phase
    | missed call now => exact turn_proceed sound (.inl rfl) phase (.inl rfl)
    | locked | inserted => exact turn_commit sound (.inl rfl) (.inl rfl)

theorem call_key {phase : ClaimPhase} {key : ClaimKey} (under : phase.call? = some (call, now))
    (holds : phase.holding = some key) : key = call.key := by
  cases phase <;> cases holds <;> cases under <;> rfl

theorem reads_kept {phase : ClaimPhase} {claims after : DelegatedClaims} (reads : phase.Reads claims)
    (same : ∀ key, phase.holding = some key → after.find? key = claims.find? key) : phase.Reads after := by
  cases phase with
  | locked call now row => exact ⟨reads.1, (same call.key rfl).trans reads.2⟩
  | inserted request now => exact ⟨reads.1, (same request.key rfl).trans reads.2⟩
  | idle | begun | missed | finished => exact reads

theorem Sound.moved (sound : s.Sound) {after : Delegations τ} (transaction : τ)
    (others : ∀ other, other ≠ transaction → after.phase other = s.phase other)
    (reads : (after.phase transaction).Reads after.claims)
    (mine : ∀ key, (after.phase transaction).holding = some key → after.locks key = some transaction)
    (kept : ∀ other, other ≠ transaction → ∀ key, (s.phase other).holding = some key →
      after.claims.find? key = s.claims.find? key ∧ after.locks key = some other) : after.Sound := by
  constructor
  · intro other
    by_cases same : other = transaction
    · exact same ▸ reads
    · rw [others other same]
      exact reads_kept (sound.reads other) fun key holds => (kept other same key holds).1
  · intro other key holds
    by_cases same : other = transaction
    · subst same
      exact mine key holds
    · rw [others other same] at holds
      exact (kept other same key holds).2

theorem Sound.turn (sound : s.Sound) {after : Delegations τ} (turn : s.Turn op after) : after.Sound := by
  cases turn with
  | stays => exact sound
  | @moves transaction phase under lets reads unfinished =>
    refine sound.moved transaction (fun other apart => update_of_ne apart _ _) ?_ ?_
      fun other _ key holds => ⟨rfl, sound.locked other key holds⟩
    · simpa [moveTo] using reads
    · intro key holds
      simp [moveTo, lets] at holds
  | @locks transaction phase key under free takes reads =>
    refine sound.moved transaction (fun other apart => update_of_ne apart _ _) ?_ ?_ ?_
    · simpa [moveTo] using reads
    · intro other holds
      simp only [moveTo, update_self, takes, some.injEq] at holds
      subst holds
      exact update_self ..
    · intro other _ locked holds
      have taken := sound.locked other locked holds
      refine ⟨rfl, (update_of_ne ?_ _ _).trans taken⟩
      rintro rfl
      exact nomatch free.symm.trans taken
  | @ends transaction call now ending claims its under serial alone =>
    refine sound.moved transaction (fun other apart => update_of_ne apart _ _) ?_ ?_ ?_
    · simp [finish, moveTo, ClaimPhase.Reads]
    · intro key holds
      simp [finish, moveTo, ClaimPhase.holding] at holds
    · intro other apart key holds
      have taken := sound.locked other key holds
      have elsewhere : s.locks call.key ≠ some other → key ≠ call.key := by
        rintro free rfl
        exact free taken
      constructor
      · rcases alone with mine | free | same
        · exact serial.find?_ne (elsewhere fun theirs => apart (some.inj (theirs.symm.trans mine)))
        · exact serial.find?_ne (elsewhere fun theirs => nomatch free.symm.trans theirs)
        · exact congrArg (find? · key) same
      · simp only [finish]
        split
        next held =>
          obtain ⟨mine, there⟩ := isSome_iff_exists.mp held
          have lock := sound.locked transaction mine there
          rw [call_key under there] at lock
          rw [update_of_ne (elsewhere fun theirs => apart (some.inj (theirs.symm.trans lock)))]
          exact taken
        next => exact taken

theorem sound_of_entry {claims : DelegatedClaims} {history : List (Entry (Delegations τ) (DelegationOp τ))}
    (run : (delegations τ claims).Run history s) {entry : Entry (Delegations τ) (DelegationOp τ)} (member : entry ∈ history) :
    entry.before.Sound ∧ entry.before.Turn entry.op entry.after := by
  have initial : (delegations τ claims).start.Sound := ⟨fun _ => trivial, fun _ _ holds => nomatch holds⟩
  obtain ⟨sound, after⟩ := run.entry_good Sound initial (fun before op sound => sound.turn (turn sound op)) member
  exact ⟨sound, after ▸ turn sound entry.op⟩

structure Commits (transaction : τ) (call : ClaimCall) (now : Int) (entry : Entry (Delegations τ) (DelegationOp τ)) : Prop where
  under : (entry.before.phase transaction).call? = some (call, now)
  whole : entry.after.claims = (entry.before.claims.call call now).2
  told : entry.after.phase transaction = .finished call now (.answered (entry.before.claims.call call now).1) ∨
    entry.after.phase transaction = .finished call now .unanswered

def Creates (key : ClaimKey) (entry : Entry (Delegations τ) (DelegationOp τ)) : Prop :=
  entry.before.claims.find? key = none ∧ entry.after.claims.find? key ≠ none

variable {claims : DelegatedClaims} {history : List (Entry (Delegations τ) (DelegationOp τ))}
  {entry : Entry (Delegations τ) (DelegationOp τ)}

theorem commits_of_changes (run : (delegations τ claims).Run history s) (member : entry ∈ history)
    (changes : entry.after.claims ≠ entry.before.claims) : ∃ transaction call now, Commits transaction call now entry := by
  obtain ⟨_, turn⟩ := sound_of_entry run member
  obtain ⟨before, op, after⟩ := entry
  change before.Turn op after at turn
  cases turn with
  | stays | moves | locks => exact absurd rfl changes
  | @ends transaction call now ending claims its under serial alone =>
    have finished : (({ before with claims }.finish transaction call now ending).phase transaction) =
        .finished call now ending := update_self ..
    cases serial with
    | failed | passed => exact absurd rfl changes
    | answered => exact ⟨transaction, call, now, under, finish_claims .., .inl finished⟩
    | unanswered => exact ⟨transaction, call, now, under, finish_claims .., .inr finished⟩

end Delegations

structure ClaimCall.Respects (call : ClaimCall) (now : Int) (held left : DelegatedClaim) : Prop where
  exclusive : held.parked = true ∨ now ≤ held.leaseExpiresAt → held.HeldBy call.owner
  window : left.claimStartedAt ≠ held.claimStartedAt ∨ left.branch ≠ held.branch →
    left.ownerId ≠ held.ownerId ∨ left.ownerNodeId ≠ held.ownerNodeId
  lease : (∃ key owner lease, call = .renew key owner lease ∨ call = .answer key owner lease) →
    left = { held with leaseExpiresAt := left.leaseExpiresAt, parked := left.parked }

theorem DelegatedClaim.regrant_window {row : DelegatedClaim} {owner : ClaimOwner} {branch : String} {lease : Nat}
    {paths symbols : List String} {claimLapses : Nat}
    (moved : (row.regrant owner branch lease paths symbols now claimLapses).claimStartedAt ≠ row.claimStartedAt ∨
      (row.regrant owner branch lease paths symbols now claimLapses).branch ≠ row.branch) :
    (row.regrant owner branch lease paths symbols now claimLapses).ownerId ≠ row.ownerId ∨
      (row.regrant owner branch lease paths symbols now claimLapses).ownerNodeId ≠ row.ownerNodeId := by
  by_cases held : row.HeldBy owner
  · simp [regrant, held] at moved
  · by_contra same
    rw [not_or, not_not, not_not] at same
    exact held ⟨same.1.symm, same.2.symm⟩

theorem ClaimCall.respects {call : ClaimCall} {row : DelegatedClaim} (takes : call.Takes now row) :
    call.Respects now row (call.left now row) := by
  cases call with
  | delegate request =>
    obtain ⟨free, held, _⟩ := takes
    refine ⟨fun exclusive => ?_, DelegatedClaim.regrant_window, ?_⟩
    · have live := exclusive.resolve_left (by simp [free])
      exact held.resolve_right (Int.not_lt.mpr live)
    · rintro ⟨_, _, _, impossible | impossible⟩ <;> cases impossible
  | recover request =>
    obtain ⟨free, _, past, _⟩ := takes
    refine ⟨fun exclusive => ?_, DelegatedClaim.regrant_window, ?_⟩
    · have live := exclusive.resolve_left (by simp [free])
      exact absurd live (Int.not_le.mpr past)
    · rintro ⟨_, _, _, impossible | impossible⟩ <;> cases impossible
  | release | renew | park | answer => exact ⟨fun _ => takes.1, fun moved => (moved.elim (absurd rfl) (absurd rfl)), fun _ => rfl⟩

namespace Delegations
variable {τ : Type} [DecidableEq τ] {s : Delegations τ} {claims : DelegatedClaims}
  {history : List (Entry (Delegations τ) (DelegationOp τ))}

variable {entry : Entry (Delegations τ) (DelegationOp τ)} {transaction : τ} {call : ClaimCall} {now : Int}

omit [DecidableEq τ] in
theorem Commits.changes (commits : Commits transaction call now entry)
    (changes : entry.after.claims.find? key ≠ entry.before.claims.find? key) : call.key = key ∧
      (∀ held ∈ entry.before.claims.find? key, ∃ left ∈ entry.after.claims.find? key, call.Respects now held left) ∧
      (entry.before.claims.find? key = none →
        ∃ request, call = .delegate request ∧ entry.after.claims.find? key = some (request.created now)) := by
  have called := entry.before.claims.called call now
  rw [← commits.whole] at called
  have named : call.key = key := by
    by_contra other
    exact changes (called.find?_ne (Ne.symm other))
  subst named
  refine ⟨rfl, ?_⟩
  generalize entry.after.claims = after at called changes ⊢
  generalize (entry.before.claims.call call now).1 = result at called
  cases called with
  | refused => exact absurd rfl changes
  | @taken row _ valid found takes done =>
    have there : (call.left now row).key = call.key := (call.left_key now row).trans (mem_of_find? found).2
    refine ⟨fun held here => ?_, fun absent => nomatch found.symm.trans absent⟩
    cases found.symm.trans here
    exact ⟨call.left now row, (find?_put _ _ _).trans (if_pos there), ClaimCall.respects takes⟩
  | @created request valid delegates absent =>
    subst delegates
    refine ⟨fun held here => (nomatch absent.symm.trans here), fun _ => ⟨request, rfl, ?_⟩⟩
    exact (find?_put _ _ _).trans (if_pos rfl)

section
variable (run : (delegations τ claims).Run history s)
include run

theorem created_of_run (absent : claims.find? key = none)
    (there : s.claims.find? key ≠ none) : ∃ entry ∈ history, Creates key entry := by
  induction run with
  | start => exact absurd absent there
  | @step history before past op ready ih =>
    by_cases old : before.claims.find? key = none
    · exact ⟨_, List.mem_cons_self, old, there⟩
    · obtain ⟨entry, member, creates⟩ := ih old
      exact ⟨entry, List.mem_cons_of_mem _ member, creates⟩

theorem kept_of_entry (member : entry ∈ history)
    (there : entry.before.claims.find? key ≠ none) : entry.after.claims.find? key ≠ none := by
  by_cases same : entry.after.claims = entry.before.claims
  · rwa [same]
  obtain ⟨transaction, call, now, commits⟩ := commits_of_changes run member same
  have called := entry.before.claims.called call now
  rw [← commits.whole] at called
  exact called.keeps there

theorem commits_of_answered {request : ClaimLeaseRequest} {answer : ClaimAnswer}
    (answered : s.phase transaction = .finished (.delegate request) now (.answered (.ok answer))) :
    ∃ entry ∈ history, Commits transaction (.delegate request) now entry ∧
      (entry.before.claims.call (.delegate request) now).1 = .ok answer := by
  induction run with
  | start => cases answered
  | @step history before past op ready ih =>
    have turn := (sound_of_entry (past.step op ready) List.mem_cons_self).2
    change before.Turn op ((delegations τ claims).apply before op) at turn
    have earlier (old : before.phase transaction = .finished (.delegate request) now (.answered (.ok answer))) :
        ∃ entry ∈ ⟨before, op, (delegations τ claims).apply before op⟩ :: history,
          Commits transaction (.delegate request) now entry ∧
            (entry.before.claims.call (.delegate request) now).1 = .ok answer := by
      obtain ⟨entry, member, commits⟩ := ih old
      exact ⟨entry, List.mem_cons_of_mem _ member, commits⟩
    generalize (delegations τ claims).apply before op = after at turn answered earlier ⊢
    cases turn with
    | stays => exact earlier answered
    | moves _ _ _ unfinished =>
      rcases updated_cases answered with old | ⟨_, moved⟩
      · exact earlier old
      · exact absurd moved (unfinished _ _ _)
    | locks _ _ takes _ =>
      rcases updated_cases answered with old | ⟨_, moved⟩
      · exact earlier old
      · rw [moved] at takes
        cases takes
    | @ends _ call later ending _ its under serial alone =>
      rcases updated_cases answered with old | ⟨rfl, moved⟩
      · exact earlier old
      cases moved
      refine ⟨_, List.mem_cons_self, ?_⟩
      generalize result : (Except.ok answer : Except ClaimStoreError ClaimAnswer) = given at answered serial ⊢
      cases serial with
      | passed waits => exact absurd rfl (waits request)
      | answered => exact ⟨⟨under, finish_claims .., .inl answered⟩, rfl⟩

end

/-- Whatever the order of their statements: a live or parked claim is changed by its holder
only, the window moves with the holder only, and of racing first delegates one makes the
claim and every other is decided on what it finds. -/
theorem delegation_is_exclusive (run : (delegations τ claims).Run history s) :
    (∀ entry ∈ history, ∀ key, entry.after.claims.find? key ≠ entry.before.claims.find? key →
      ∃ transaction call now, Commits transaction call now entry ∧ call.key = key ∧
        (∀ held ∈ entry.before.claims.find? key, ∃ left ∈ entry.after.claims.find? key, call.Respects now held left) ∧
        (entry.before.claims.find? key = none →
          ∃ request, call = .delegate request ∧ entry.after.claims.find? key = some (request.created now))) ∧
    (∀ key, claims.find? key = none → s.claims.find? key ≠ none → ∃ entry ∈ history, Creates key entry) ∧
    (∀ key first second, [second, first].Sublist history → Creates key first → ¬Creates key second) ∧
    ∀ transaction request now answer, s.phase transaction = .finished (.delegate request) now (.answered (.ok answer)) →
      ∃ entry ∈ history, Commits transaction (.delegate request) now entry ∧
        (Creates request.key entry → answer.Done) ∧
        (answer.Done → Creates request.key entry ∨ ∃ held ∈ entry.before.claims.find? request.key,
          held.HeldBy request.owner ∨ held.leaseExpiresAt < now) := by
  refine ⟨?_, fun key => created_of_run run, ?_, ?_⟩
  · intro entry member key changes
    obtain ⟨transaction, call, now, commits⟩ := commits_of_changes run member fun same => changes (congrArg (Table.find? · key) same)
    exact ⟨transaction, call, now, commits, commits.changes changes⟩
  · intro key first second order creates
    have bars (entry : Entry (Delegations τ) (DelegationOp τ)) (creates : Creates key entry) :
        ¬entry.before.claims.find? key ≠ none := not_not.mpr creates.1
    refine run.once (Creates key) (fun s => s.claims.find? key ≠ none) ?_ ?_ (fun entry _ => bars entry) order creates
    · exact fun entry _ creates => creates.2
    · exact fun entry member there => kept_of_entry run member there
  · intro transaction request now answer answered
    obtain ⟨entry, member, commits, decided⟩ := commits_of_answered run answered
    refine ⟨entry, member, commits, ?_⟩
    have called := entry.before.claims.called (.delegate request) now
    rw [← commits.whole, decided] at called
    unfold Creates
    generalize entry.after.claims = after at called ⊢
    generalize result : (Except.ok answer : Except ClaimStoreError ClaimAnswer) = given at called
    cases called with
    | refused undone =>
      have refused := undone answer result.symm
      exact ⟨fun creates => absurd creates.1 creates.2, fun done => absurd done refused⟩
    | @taken row _ valid found takes done =>
      cases result
      refine ⟨fun _ => done, fun _ => .inr ⟨row, found, takes.2.1⟩⟩
    | @created _ valid delegates absent =>
      cases delegates
      cases result
      refine ⟨fun _ => rfl, fun _ => .inl ⟨absent, ?_⟩⟩
      rw [Table.find?_put, if_pos (show Row.key (request.created now) = request.key from rfl)]
      nofun

end Delegations
theorem delegations_replay (claims : DelegatedClaims) (ops : List (Delegations Bool → DelegationOp Bool)) :
    (delegations Bool claims).Replays ops :=
  Machine.replay_run fun _ _ _ _ _ => trivial

def delegateOfA : ClaimLeaseRequest := ⟨"acme", "repo", "task:1", "agent-a", "node-a", "agents/a", 60, ["src"], []⟩

def delegateOfB : ClaimLeaseRequest := ⟨"acme", "repo", "task:1", "agent-b", "node-b", "agents/b", 60, ["src"], []⟩

/-- Two first delegates side by side, newest first: neither finds a row, the first inserts its
own and commits, and the second inserts nothing and looks again. -/
def racingDelegates (first second : ClaimLeaseRequest) : List (Delegations Bool → DelegationOp Bool) :=
  [fun _ => .step true, fun _ => .step true, fun _ => .step true, fun _ => .step false, fun _ => .step false,
    fun _ => .step true, fun _ => .step false, fun _ => .start true (.delegate second) 1,
    fun _ => .start false (.delegate first) 0]

/-- node-b loses the race, and is refused on what it finds. -/
theorem delegation_is_exclusive_in_a_race :
    ∃ entry ∈ ((delegations Bool .empty).replay (racingDelegates delegateOfA delegateOfB)).1,
      Delegations.Commits true (.delegate delegateOfB) 1 entry ∧ ¬Delegations.Creates delegateOfB.key entry := by
  obtain ⟨entry, member, commits, done, _⟩ := (Delegations.delegation_is_exclusive
    (delegations_replay .empty (racingDelegates delegateOfA delegateOfB))).2.2.2 true delegateOfB 1
    (.lease ((delegateOfA.created 0).report .rejected 0)) (by decide +kernel)
  exact ⟨entry, member, commits, fun creates => nomatch done creates⟩

/-- The same agent's two first delegates are both granted. -/
theorem racing_retry_is_granted_too : ∃ history s, (delegations Bool .empty).Run history s ∧
    (∃ seen ∈ (delegations Bool .empty).visited history, seen.phase false = .missed (.delegate delegateOfA) 0 ∧
      seen.phase true = .missed (.delegate delegateOfA) 1) ∧
    ∃ first second : ClaimLeaseResult, first.outcome = .granted ∧ second.outcome = .granted ∧
      s.phase false = .finished (.delegate delegateOfA) 0 (.answered (.ok (.lease first))) ∧
      s.phase true = .finished (.delegate delegateOfA) 1 (.answered (.ok (.lease second))) := by
  refine ⟨_, _, delegations_replay .empty (racingDelegates delegateOfA delegateOfA),
    ⟨_, Machine.replay_visited ((racingDelegates delegateOfA delegateOfA).take 5)
      ((racingDelegates delegateOfA delegateOfA).drop 5), by decide +kernel, by decide +kernel⟩, ?_⟩
  exact ⟨(delegateOfA.created 0).report .granted 0, { (delegateOfA.created 0).report .granted 0 with leaseExpiresAt := 61 },
    rfl, rfl, by decide +kernel, by decide +kernel⟩

end MindLeak.Ackplane
