import MindLeak.Library.Clock
import MindLeak.Proofs.Delegations

/-! The lapses of a delegated claim against the leases that ran out. The store tells a lapse by
the stored expiry being past when a lease is granted again; a release and a park move it too. -/

namespace MindLeak.Ackplane

open Function

/-- What became of a task's leases: how many ran out before another grant or a park followed,
and until when the last one runs, unless it was released or parked while live. -/
structure LeaseAccount where
  ranOut : Nat
  running : Option Int

namespace LeaseAccount

def RanOut (account : LeaseAccount) (now : Int) : Prop := ∃ expiresAt ∈ account.running, expiresAt < now

instance (account : LeaseAccount) (now : Int) : Decidable (account.RanOut now) :=
  inferInstanceAs (Decidable (∃ expiresAt ∈ account.running, expiresAt < now))

def settled (account : LeaseAccount) (now : Int) : Nat := account.ranOut + if account.RanOut now then 1 else 0

/-- A release ends a lease that is live; one that has run out is past that. -/
def release (account : LeaseAccount) (now : Int) : LeaseAccount :=
  if account.RanOut now then account else { account with running := none }

def through (account : LeaseAccount) (parked : Bool) (now : Int) : ClaimCall → LeaseAccount
  | .delegate request => ⟨account.settled now, some (now + request.lease)⟩
  | .recover request => ⟨account.settled now, some (now + request.lease)⟩
  | .answer _ _ lease => ⟨account.settled now, some (now + lease)⟩
  | .park _ _ => ⟨account.settled now, none⟩
  | .release _ _ => account.release now
  -- A parked claim waits for its answer, whatever its lease.
  | .renew _ _ lease => if parked then account else { account with running := some (now + lease) }

/-- A call that is let through counts what it ends: a new grant comes past the stored expiry
exactly where a lease has run out, and none has run out where a park comes. -/
def Counts (account : LeaseAccount) (row : DelegatedClaim) (now : Int) : ClaimCall → Prop
  | .delegate _ | .recover _ => row.leaseExpiresAt < now ↔ account.RanOut now
  | .park _ _ => ¬account.RanOut now
  | .release _ _ | .renew _ _ _ | .answer _ _ _ => True

instance (account : LeaseAccount) (row : DelegatedClaim) (now : Int) : (call : ClaimCall) → Decidable (account.Counts row now call)
  | .delegate _ | .recover _ => inferInstanceAs (Decidable (_ ↔ _))
  | .park _ _ => inferInstanceAs (Decidable (¬_))
  | .release _ _ | .renew _ _ _ | .answer _ _ _ => inferInstanceAs (Decidable True)

end LeaseAccount

def achieved : Except ClaimStoreError ClaimAnswer → Bool
  | .ok answer => decide answer.Done
  | .error _ => false

structure Accounted where
  claims : DelegatedClaims
  accounts : ClaimKey → LeaseAccount

namespace Accounted

def parked (s : Accounted) (key : ClaimKey) : Bool := (s.claims.find? key).any DelegatedClaim.parked

def account (s : Accounted) : CustodyOp → ClaimKey → LeaseAccount
  | .claim call now =>
    if achieved (s.claims.call call now).1 then
      Function.update s.accounts call.key ((s.accounts call.key).through (s.parked call.key) now call)
    else s.accounts
  | .releaseLease command payload task now =>
    match command.claimKey with
    | some key =>
      if (s.claims.releaseLease command payload task now).1.toOption = some .applied then
        Function.update s.accounts key ((s.accounts key).release now)
      else s.accounts
    | none => s.accounts

def apply (s : Accounted) (op : CustodyOp) : Accounted := ⟨s.claims.apply op, s.account op⟩

def Counts (s : Accounted) : CustodyOp → Prop
  | .claim call now => call.validate = .ok () → ∀ row ∈ s.claims.find? call.key, call.Takes now row →
    (s.accounts call.key).Counts row now call
  | .releaseLease _ _ _ _ => True

instance (s : Accounted) : (op : CustodyOp) → Decidable (s.Counts op)
  | .claim call now => inferInstanceAs (Decidable (_ = _ → ∀ row ∈ s.claims.find? call.key, call.Takes now row → _))
  | .releaseLease _ _ _ _ => inferInstanceAs (Decidable True)

end Accounted

def accounted : Machine Accounted CustodyOp where
  start := ⟨.empty, fun _ => ⟨0, none⟩⟩
  enabled _ _ := True
  apply := Accounted.apply

def DelegatedClaims.lapses (claims : DelegatedClaims) (key : ClaimKey) : Int :=
  (claims.find? key).elim 0 DelegatedClaim.claimLapses

/-- What an account says about the row, whatever was counted. -/
structure LeaseAccount.Fits (account : LeaseAccount) (row : Option DelegatedClaim) : Prop where
  absent : row = none → account = ⟨0, none⟩
  parked : ∀ held ∈ row, held.parked = true → account.running = none

namespace LeaseAccount
variable {account : LeaseAccount} {row : DelegatedClaim} {call : ClaimCall} {now : Int}

theorem ranOut_none {account : LeaseAccount} (now : Int) (ended : account.running = none) : ¬account.RanOut now := by
  rintro ⟨expiresAt, runs, _⟩
  cases ended.symm.trans runs

theorem settled_eq_iff (account : LeaseAccount) (now : Int) : account.settled now = account.ranOut ↔ ¬account.RanOut now := by
  unfold settled
  split <;> simp [*]

theorem release_ranOut (account : LeaseAccount) (now : Int) : (account.release now).ranOut = account.ranOut := by
  unfold release
  split <;> rfl

theorem Fits.through (fits : account.Fits (some row)) (takes : call.Takes now row) :
    (account.through row.parked now call).Fits (some (call.left now row)) := by
  refine ⟨nofun, ?_⟩
  rintro _ ⟨⟩ parked
  have ended : row.parked = true → account.running = none := fits.parked row rfl
  cases call with
  | delegate | recover => exact nomatch takes.1.symm.trans parked
  | answer => cases parked
  | park => rfl
  | release =>
    change (account.release now).running = none
    unfold release
    split
    next => exact ended parked
    next => rfl
  | renew =>
    simp only [LeaseAccount.through, show row.parked = true from parked, if_true]
    exact ended parked

theorem counted_iff (fits : account.Fits (some row)) (takes : call.Takes now row) (counted : row.claimLapses = account.ranOut) :
    (call.left now row).claimLapses = (account.through row.parked now call).ranOut ↔ account.Counts row now call := by
  unfold Counts
  cases call with
  | delegate request =>
    simp only [ClaimCall.left, DelegatedClaim.regrant, LeaseAccount.through, settled, counted]
    by_cases past : row.leaseExpiresAt < now <;> by_cases out : account.RanOut now <;>
      simp only [past, out, if_true, if_false, iff_true, iff_false, not_true_eq_false] <;> omega
  | recover request =>
    have past : row.leaseExpiresAt < now := takes.2.2.1
    simp only [ClaimCall.left, DelegatedClaim.regrant, LeaseAccount.through, settled, counted, past, true_iff]
    split <;> simp only [*, iff_true, iff_false] <;> omega
  | park =>
    simp only [ClaimCall.left, LeaseAccount.through, counted]
    rw [← settled_eq_iff, eq_comm]
    exact Int.ofNat_inj
  | answer =>
    simp only [ClaimCall.left, LeaseAccount.through, counted, iff_true]
    have ended := ranOut_none now (fits.parked row rfl takes.2.1)
    exact congrArg _ ((settled_eq_iff account now).mpr ended).symm
  | release =>
    simp only [ClaimCall.left, LeaseAccount.through, counted, release_ranOut]
  | renew =>
    simp only [ClaimCall.left, LeaseAccount.through, counted, iff_true]
    split <;> rfl

end LeaseAccount

namespace Accounted
variable {s : Accounted} {op : CustodyOp} {key : ClaimKey}

def Fits (s : Accounted) : Prop := ∀ key, (s.accounts key).Fits (s.claims.find? key)

def Exact (s : Accounted) : Prop := ∀ key, s.claims.lapses key = (s.accounts key).ranOut

structure Turns (s after : Accounted) (key : ClaimKey) (row : DelegatedClaim) (account : LeaseAccount) : Prop where
  row : after.claims.find? key = some row
  account : after.accounts key = account
  others : ∀ other, other ≠ key → after.claims.find? other = s.claims.find? other ∧ after.accounts other = s.accounts other

theorem Turns.fits {after : Accounted} {row : DelegatedClaim} {account : LeaseAccount} (turns : s.Turns after key row account)
    (fits : s.Fits) (new : account.Fits (some row)) : after.Fits := by
  intro other
  by_cases same : other = key
  · subst same
    rwa [turns.row, turns.account]
  · rw [(turns.others other same).1, (turns.others other same).2]
    exact fits other

theorem Turns.exact_iff {after : Accounted} {row : DelegatedClaim} {account : LeaseAccount}
    (turns : s.Turns after key row account) (exact : s.Exact) : after.Exact ↔ row.claimLapses = account.ranOut := by
  have here : after.claims.lapses key = row.claimLapses := by rw [DelegatedClaims.lapses, turns.row]; rfl
  constructor
  · intro all
    rw [← here, all key, turns.account]
  · intro counted other
    by_cases same : other = key
    · subst same
      rw [here, counted, turns.account]
    · rw [DelegatedClaims.lapses, (turns.others other same).1, (turns.others other same).2]
      exact exact other

theorem turns_put (s : Accounted) (row : DelegatedClaim) {account : LeaseAccount} {after : Accounted}
    (claims : after.claims = s.claims.put row) (accounts : after.accounts = update s.accounts row.key account) :
    s.Turns after row.key row account := by
  have found (other : ClaimKey) : after.claims.find? other = if row.key = other then some row else s.claims.find? other := by
    rw [claims]
    exact Table.find?_put s.claims row other
  refine ⟨(found row.key).trans (if_pos rfl), ?_, fun other apart => ⟨(found other).trans (if_neg (Ne.symm apart)), ?_⟩⟩
  · rw [accounts, update_self]
  · rw [accounts, update_of_ne apart]

/-- What a step does: nothing, a call that is let through, a first grant, or a command's release. -/
theorem apply_cases (s : Accounted) (op : CustodyOp) : (s.apply op = s ∧ s.Counts op) ∨
    (∃ call now row, op = .claim call now ∧ call.validate = .ok () ∧ s.claims.find? call.key = some row ∧ call.Takes now row ∧
      s.Turns (s.apply op) call.key (call.left now row) ((s.accounts call.key).through row.parked now call)) ∨
    (∃ request now, op = .claim (.delegate request) now ∧ s.claims.find? request.key = none ∧
      s.Turns (s.apply op) request.key (request.created now)
        ((s.accounts request.key).through false now (.delegate request)) ∧ s.Counts op) ∨
    ∃ key row now, s.claims.find? key = some row ∧ s.Turns (s.apply op) key { row with leaseExpiresAt := now }
        ((s.accounts key).release now) ∧ s.Counts op := by
  cases op with
  | claim call now =>
    have called := s.claims.called call now
    simp only [apply, DelegatedClaims.apply, account]
    generalize (s.claims.call call now).1 = result at called ⊢
    generalize (s.claims.call call now).2 = claims at called ⊢
    cases called with
    | refused undone shut unclaimed =>
      have failed : achieved result = false := by
        cases result with
        | error error => rfl
        | ok answer => exact decide_eq_false (undone answer rfl)
      rw [failed]
      exact .inl ⟨rfl, fun valid row found takes => absurd takes (shut valid row found)⟩
    | @taken row answer valid found takes done =>
      have named : (call.left now row).key = call.key := (call.left_key now row).trans (Table.mem_of_find? found).2
      refine .inr (.inl ⟨call, now, row, rfl, valid, found, takes, ?_⟩)
      have parked : s.parked call.key = row.parked := by
        unfold parked
        rw [found]
        rfl
      rw [show achieved (.ok answer) = true from decide_eq_true done, if_pos rfl, parked]
      exact named ▸ s.turns_put (call.left now row) rfl (by rw [named])
    | @created request valid delegates absent =>
      subst delegates
      have free : s.parked request.key = false := by
        unfold parked
        rw [absent]
        rfl
      refine .inr (.inr (.inl ⟨request, now, rfl, absent, ?_, fun _ row found => nomatch absent.symm.trans found⟩))
      refine s.turns_put (request.created now) rfl ?_
      exact congrArg (fun parked => update s.accounts request.key
        ((s.accounts request.key).through parked now (.delegate request))) free
  | releaseLease command payload task now =>
    simp only [apply, DelegatedClaims.apply, account]
    rcases s.claims.releaseLease_cases command payload task now with ⟨same, undone⟩ | ⟨key, row, named, found, applied⟩
    · left
      refine ⟨?_, trivial⟩
      rw [same]
      cases command.claimKey with
      | none => rfl
      | some key =>
        simp only
        rw [if_neg undone]
    · refine .inr (.inr (.inr ⟨key, row, now, found, ?_, trivial⟩))
      have here : row.key = key := (Table.mem_of_find? found).2
      subst here
      simp only [named, applied]
      exact s.turns_put { row with leaseExpiresAt := now } rfl rfl

theorem apply_fits (fits : s.Fits) (op : CustodyOp) : (s.apply op).Fits := by
  rcases s.apply_cases op with ⟨same, _⟩ | ⟨call, now, row, _, _, found, takes, turns⟩ | ⟨request, now, _, absent, turns, _⟩ |
    ⟨key, row, now, found, turns, _⟩
  · rwa [same]
  · have here := fits call.key
    rw [found] at here
    exact turns.fits fits (here.through takes)
  · refine turns.fits fits ⟨nofun, ?_⟩
    rintro _ ⟨⟩ parked
    cases parked
  · have here := fits key
    rw [found] at here
    refine turns.fits fits ⟨nofun, ?_⟩
    rintro _ ⟨⟩ parked
    have ended := here.parked row rfl parked
    unfold LeaseAccount.release
    split
    next => exact ended
    next => rfl

theorem apply_exact_iff (fits : s.Fits) (exact : s.Exact) (op : CustodyOp) : (s.apply op).Exact ↔ s.Counts op := by
  rcases s.apply_cases op with ⟨same, counts⟩ | ⟨call, now, row, rfl, valid, found, takes, turns⟩ |
    ⟨request, now, _, absent, turns, counts⟩ | ⟨key, row, now, found, turns, counts⟩
  · rw [same]
    exact iff_of_true exact counts
  · have here := fits call.key
    have counted := exact call.key
    rw [DelegatedClaims.lapses, found] at counted
    rw [found] at here
    rw [turns.exact_iff exact, LeaseAccount.counted_iff here takes counted]
    constructor
    · intro counts _ other there _
      cases found.symm.trans there
      exact counts
    · exact fun counts => counts valid row found takes
  · refine iff_of_true ((turns.exact_iff exact).mpr ?_) counts
    have new := (fits request.key).absent absent
    rw [new]
    rfl
  · have counted := exact key
    rw [DelegatedClaims.lapses, found] at counted
    refine iff_of_true ((turns.exact_iff exact).mpr ?_) counts
    rw [LeaseAccount.release_ranOut]
    exact counted

variable {history : List (Entry Accounted CustodyOp)}

/-- The stored lapses are the leases that ran out, in every state, exactly as long as every step counts. -/
theorem lapses_count_leases (run : accounted.Run history s) :
    (∀ seen ∈ accounted.visited history, ∀ key, seen.claims.lapses key = (seen.accounts key).ranOut) ↔
      ∀ entry ∈ history, entry.before.Counts entry.op := by
  have initial : accounted.start.Fits := fun _ => ⟨fun _ => rfl, nofun⟩
  have fits := run.visited_good Fits initial fun _ op fits => apply_fits fits op
  rw [← run.visited_good_iff (fun seen => seen.Fits ∧ seen.Exact) Counts ⟨initial, fun _ => rfl⟩
    fun before op both => ⟨fun after => (apply_exact_iff both.1 both.2 op).mp after.2,
      fun counts => ⟨apply_fits both.1 op, (apply_exact_iff both.1 both.2 op).mpr counts⟩⟩]
  exact forall₂_congr fun seen member => (and_iff_right (fits seen member)).symm

end Accounted

theorem accounted_replay (ops : List CustodyOp) : accounted.Replays (ops.map fun op _ => op) := by
  refine Machine.replay_run ?_
  exact fun _ _ _ _ _ => trivial

def agentA : ClaimOwner := ⟨"agent-a", "node-a"⟩

/-- The lease of node-a's agent runs out, and node-b's agent gets the next; newest first. -/
def lapsedLease : List CustodyOp := [.claim (.delegate delegateOfB) 70, .claim (.delegate delegateOfA) 0]

theorem lapses_count_leases_of_a_lapse : accounted.Replays (lapsedLease.map fun op _ => op) ∧
    ∀ seen ∈ accounted.visited (accounted.replay (lapsedLease.map fun op _ => op)).1,
      ∀ key, seen.claims.lapses key = (seen.accounts key).ranOut :=
  ⟨accounted_replay lapsedLease, (Accounted.lapses_count_leases (accounted_replay lapsedLease)).mpr (by decide +kernel)⟩

/-- A live lease is given back, and the task delegated again. -/
def releasedLease : List CustodyOp :=
  [.claim (.delegate delegateOfB) 20, .claim (.release delegateOfA.key agentA) 10, .claim (.delegate delegateOfA) 0]

def parkedLease : List CustodyOp :=
  [.claim (.answer delegateOfA.key agentA 60) 110, .claim (.park delegateOfA.key agentA) 100, .claim (.delegate delegateOfA) 0]

/-- A release is counted as a lapse, and a lease that ran out before a park is not counted. -/
theorem lapses_miscounted :
    (∃ history s, accounted.Run history s ∧ Machine.Clocked (fun op => some op.now) history 20 ∧
      s.claims.lapses delegateOfA.key = 1 ∧ (s.accounts delegateOfA.key).ranOut = 0) ∧
    ∃ history s, accounted.Run history s ∧ Machine.Clocked (fun op => some op.now) history 110 ∧
      s.claims.lapses delegateOfA.key = 0 ∧ (s.accounts delegateOfA.key).ranOut = 1 :=
  ⟨⟨_, _, accounted_replay releasedLease, by decide +kernel, by decide +kernel, by decide +kernel⟩,
    ⟨_, _, accounted_replay parkedLease, by decide +kernel, by decide +kernel, by decide +kernel⟩⟩

end MindLeak.Ackplane
