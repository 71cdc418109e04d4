import MindLeak.Proofs.Lapses

/-! What a release leaves to the former owner, and to whoever comes next. A release moves the
expiry of the claim and nothing else; every later call reads the rest of the row as it was. -/

namespace MindLeak.Ackplane

open Table

def ClaimCall.leases : ClaimCall → Bool
  | .delegate _ | .renew _ _ _ | .answer _ _ _ | .recover _ => true
  | .release _ _ | .park _ _ => false

namespace CustodyOp

def Grants (claims : DelegatedClaims) (key : ClaimKey) : CustodyOp → Prop
  | .claim call now => call.key = key ∧ call.leases = true ∧ achieved (claims.call call now).1 = true
  | .releaseLease _ _ _ _ => False

def Releases (claims : DelegatedClaims) (key : ClaimKey) : CustodyOp → Prop
  | .claim (.release task owner) now => task = key ∧ achieved (claims.call (.release task owner) now).1 = true
  | .claim _ _ => False
  | .releaseLease command payload task now =>
    command.claimKey = some key ∧ (claims.releaseLease command payload task now).1.toOption = some .applied

end CustodyOp

/-- What a step may find and do where the former owner holds nothing. -/
structure Ended (former : DelegatedClaim) (claims : DelegatedClaims) (op : CustodyOp) : Prop where
  free : ∀ request now, op = .claim (.delegate request) now → (ClaimCall.delegate request).validate = .ok () →
    request.key = former.key → ¬former.HeldBy request.owner → op.Grants claims former.key
  park : ∀ owner now, op = .claim (.park former.key owner) now → former.HeldBy owner →
    achieved (claims.call (.park former.key owner) now).1 = false
  renew : ∀ owner lease now, op = .claim (.renew former.key owner lease) now → former.HeldBy owner →
    ¬op.Grants claims former.key
  /-- Whoever gets the task next gets a fresh window. -/
  window : op.Grants claims former.key → ∀ row ∈ (claims.apply op).find? former.key, row.claimStartedAt = op.now

/-- What a call must not meet on the row that a release left. -/
def ClaimCall.Spares (former held : DelegatedClaim) (now : Int) : ClaimCall → Prop
  | .delegate request =>
    if former.HeldBy request.owner then held.parked = true ∨ former.claimStartedAt = now
    else held.parked = false ∧ held.leaseExpiresAt < now
  | .recover request => former.HeldBy request.owner → former.ownerId = request.expectedOwner →
    held.parked = false → held.leaseExpiresAt < now → former.claimStartedAt = now
  | .park _ owner => former.HeldBy owner → held.parked = true
  | .renew _ owner _ => former.HeldBy owner → held.leaseExpiresAt < now
  | .answer _ owner _ => former.HeldBy owner → held.parked = true → former.claimStartedAt = now
  | .release _ _ => True

instance (former held : DelegatedClaim) (now : Int) : (call : ClaimCall) → Decidable (call.Spares former held now)
  | .delegate request => inferInstanceAs (Decidable (if former.HeldBy request.owner then _ ∨ _ else _ ∧ _))
  | .recover _ => inferInstanceAs (Decidable (_ → _ → _ → _ → _))
  | .park _ _ | .renew _ _ _ => inferInstanceAs (Decidable (_ → _))
  | .answer _ _ _ => inferInstanceAs (Decidable (_ → _ → _))
  | .release _ _ => inferInstanceAs (Decidable True)

def CustodyOp.Spares (former : DelegatedClaim) (claims : DelegatedClaims) : CustodyOp → Prop
  | .claim call now => call.key = former.key → call.validate = .ok () →
    ∀ held ∈ claims.find? former.key, call.Spares former held now
  | .releaseLease _ _ _ _ => True

/-- A step behind a release, later by the clock, with no lease granted on the task in between. -/
def Follows (history : List (Entry DelegatedClaims CustodyOp)) (former : DelegatedClaim)
    (entry : Entry DelegatedClaims CustodyOp) : Prop :=
  ∃ newer middle released earlier, history = newer ++ entry :: (middle ++ released :: earlier) ∧
    released.before.find? former.key = some former ∧ released.op.Releases released.before former.key ∧
    released.op.now < entry.op.now ∧ ∀ between ∈ middle, ¬between.op.Grants between.before former.key

structure DelegatedClaim.Remains (former held : DelegatedClaim) : Prop where
  owner : held.ownerId = former.ownerId
  node : held.ownerNodeId = former.ownerNodeId
  window : held.claimStartedAt = former.claimStartedAt

theorem DelegatedClaim.Remains.heldBy_iff {former held : DelegatedClaim} (remains : former.Remains held) (owner : ClaimOwner) :
    held.HeldBy owner ↔ former.HeldBy owner := by
  unfold HeldBy
  rw [remains.owner, remains.node]

def DelegatedClaims.Counted (claims : DelegatedClaims) : Prop := ∀ row ∈ claims.rows, 0 ≤ row.claimLapses

variable {claims : DelegatedClaims} {former held : DelegatedClaim} {call : ClaimCall} {now : Int}

namespace DelegatedClaims
variable {key : ClaimKey}

theorem Counted.put (counted : claims.Counted) {row : DelegatedClaim} (here : 0 ≤ row.claimLapses) :
    Counted (Table.put claims row) := by
  intro other member
  rcases mem_put.mp member with rfl | ⟨old, _⟩
  · exact here
  · exact counted other old

theorem Counted.apply (counted : claims.Counted) (op : CustodyOp) : (claims.apply op).Counted := by
  cases op with
  | claim call now =>
    have called := claims.called call now
    simp only [DelegatedClaims.apply]
    generalize (claims.call call now).1 = result at called
    generalize (claims.call call now).2 = after at called ⊢
    cases called with
    | refused => exact counted
    | @taken row _ valid found takes done =>
      have old := counted row (mem_of_find? found).1
      refine counted.put ?_
      cases call with
      | delegate | recover => exact Int.natCast_nonneg _
      | release | renew | park | answer => exact old
    | created => exact counted.put (Int.le_refl 0)
  | releaseLease command payload task now =>
    simp only [DelegatedClaims.apply]
    rcases claims.releaseLease_cases command payload task now with ⟨same, _⟩ | ⟨key, row, _, found, applied⟩
    · rwa [same]
    · rw [applied]
      have old : 0 ≤ row.claimLapses := counted row (mem_of_find? found).1
      exact counted.put old

theorem call_on (now : Int) (valid : call.validate = .ok ()) (found : claims.find? call.key = some held) :
    (call.Takes now held ∧ achieved (claims.call call now).1 = true ∧
      (claims.call call now).2.find? call.key = some (call.left now held)) ∨
    ¬call.Takes now held ∧ achieved (claims.call call now).1 = false ∧ (claims.call call now).2 = claims := by
  have called := claims.called call now
  generalize (claims.call call now).1 = result at called ⊢
  generalize (claims.call call now).2 = after at called ⊢
  cases called with
  | refused undone shut =>
    refine .inr ⟨shut valid held found, ?_, rfl⟩
    cases result with
    | error => rfl
    | ok answer => exact decide_eq_false (undone answer rfl)
  | @taken row answer _ here takes done =>
    cases found.symm.trans here
    refine .inl ⟨takes, decide_eq_true done, (Table.find?_put _ _ _).trans (if_pos ?_)⟩
    exact (call.left_key now held).trans (mem_of_find? found).2
  | created _ delegates absent =>
    subst delegates
    exact nomatch found.symm.trans absent

theorem call_invalid (claims : DelegatedClaims) (now : Int) (invalid : call.validate ≠ .ok ()) :
    achieved (claims.call call now).1 = false ∧ (claims.call call now).2 = claims := by
  unfold DelegatedClaims.call
  cases checked : call.validate with
  | error error => exact ⟨rfl, rfl⟩
  | ok => exact absurd checked invalid

theorem remains_of_call (found : claims.find? key = some held) (remains : former.Remains held)
    (ungranted : ¬(CustodyOp.claim call now).Grants claims key) :
    ∃ left, (claims.call call now).2.find? key = some left ∧ former.Remains left := by
  by_cases named : call.key = key
  swap
  · exact ⟨held, ((claims.called call now).find?_ne (Ne.symm named)).trans found, remains⟩
  subst named
  by_cases valid : call.validate = .ok ()
  swap
  · rw [(call_invalid claims now valid).2]
    exact ⟨held, found, remains⟩
  rcases call_on now valid found with ⟨takes, done, left⟩ | ⟨_, _, same⟩
  · refine ⟨_, left, ?_⟩
    cases call with
    | release | park => exact ⟨remains.owner, remains.node, remains.window⟩
    | delegate | renew | answer | recover => exact absurd ⟨rfl, rfl, done⟩ ungranted
  · rw [same]
    exact ⟨held, found, remains⟩

theorem remains_of_apply {op : CustodyOp} (found : claims.find? key = some held) (remains : former.Remains held)
    (ungranted : ¬op.Grants claims key) : ∃ left, (claims.apply op).find? key = some left ∧ former.Remains left := by
  cases op with
  | claim call now => exact remains_of_call found remains ungranted
  | releaseLease command payload task now =>
    simp only [DelegatedClaims.apply]
    rcases claims.releaseLease_cases command payload task now with ⟨same, _⟩ | ⟨other, row, _, there, applied⟩
    · rw [same]
      exact ⟨held, found, remains⟩
    · rw [applied, Table.find?_put]
      split
      next named =>
        have same : key = other := named.symm.trans (mem_of_find? there).2
        subst same
        cases found.symm.trans there
        exact ⟨_, rfl, remains.owner, remains.node, remains.window⟩
      next => exact ⟨held, found, remains⟩

end DelegatedClaims

theorem ended_iff_takes (valid : call.validate = .ok ()) (named : call.key = former.key)
    (found : claims.find? former.key = some held) :
    Ended former claims (.claim call now) ↔
      (∀ request, call = .delegate request → ¬former.HeldBy request.owner → call.Takes now held) ∧
      (∀ owner, call = .park former.key owner → former.HeldBy owner → ¬call.Takes now held) ∧
      (∀ owner lease, call = .renew former.key owner lease → former.HeldBy owner → ¬call.Takes now held) ∧
      (call.leases = true → call.Takes now held → (call.left now held).claimStartedAt = now) := by
  have on := DelegatedClaims.call_on now valid (named ▸ found)
  have through : achieved (claims.call call now).1 = true ↔ call.Takes now held := by
    rcases on with ⟨takes, done, _⟩ | ⟨shut, undone, _⟩
    · exact iff_of_true done takes
    · exact iff_of_false (by simp [undone]) shut
  have left (takes : call.Takes now held) : (claims.call call now).2.find? former.key = some (call.left now held) := by
    rcases on with ⟨_, _, left⟩ | ⟨shut, _, _⟩
    · rwa [named] at left
    · exact absurd takes shut
  constructor
  · intro ended
    refine ⟨?_, ?_, ?_, ?_⟩
    · rintro request rfl other
      exact through.mp (ended.free request now rfl valid named other).2.2
    · rintro owner rfl mine
      exact fun takes => absurd (ended.park owner now rfl mine) (by simp [through.mpr takes])
    · rintro owner lease rfl mine takes
      exact ended.renew owner lease now rfl mine ⟨rfl, rfl, through.mpr takes⟩
    · intro leases takes
      exact ended.window ⟨named, leases, through.mpr takes⟩ _ (left takes)
  · rintro ⟨free, park, renew, window⟩
    refine ⟨?_, ?_, ?_, ?_⟩
    · rintro request now ⟨⟩ _ _ other
      exact ⟨named, rfl, through.mpr (free request rfl other)⟩
    · rintro owner now ⟨⟩ mine
      exact Bool.eq_false_iff.mpr fun done => park owner rfl mine (through.mp done)
    · rintro owner lease now ⟨⟩ mine ⟨_, _, done⟩
      exact renew owner lease rfl mine (through.mp done)
    · rintro ⟨_, leases, done⟩ row after
      have takes := through.mp done
      cases (left takes).symm.trans after
      exact window leases takes

theorem regrant_started_iff (now : Int) (remains : former.Remains held) (owner : ClaimOwner) (branch : String) (lease : Nat)
    (paths symbols : List String) (claimLapses : Nat) :
    (held.regrant owner branch lease paths symbols now claimLapses).claimStartedAt = now ↔
      (former.HeldBy owner → former.claimStartedAt = now) := by
  by_cases own : former.HeldBy owner
  · simp [DelegatedClaim.regrant, (remains.heldBy_iff owner).mpr own, own, remains.window]
  · have other : ¬held.HeldBy owner := fun held => own ((remains.heldBy_iff owner).mp held)
    simp [DelegatedClaim.regrant, other, own]

theorem spares_iff (remains : former.Remains held) (counted : 0 ≤ held.claimLapses) (named : call.key = former.key) :
    ((∀ request, call = .delegate request → ¬former.HeldBy request.owner → call.Takes now held) ∧
      (∀ owner, call = .park former.key owner → former.HeldBy owner → ¬call.Takes now held) ∧
      (∀ owner lease, call = .renew former.key owner lease → former.HeldBy owner → ¬call.Takes now held) ∧
      (call.leases = true → call.Takes now held → (call.left now held).claimStartedAt = now)) ↔
    call.Spares former held now := by
  have mine := remains.heldBy_iff
  cases call with
  | delegate request =>
    have started := regrant_started_iff now remains request.owner request.branch request.lease request.paths
      request.symbols (held.claimLapses.toNat + if held.leaseExpiresAt < now then 1 else 0)
    simp only [ClaimCall.Spares]
    by_cases own : former.HeldBy request.owner
    · rw [if_pos own]
      constructor
      · rintro ⟨_, _, _, window⟩
        rw [or_iff_not_imp_left, Bool.not_eq_true]
        intro free
        exact started.mp (window rfl ⟨free, .inl ((mine _).mpr own), counted⟩) own
      · intro kept
        refine ⟨?_, by simp, by simp, fun _ takes => started.mpr fun _ => kept.resolve_left (by simp [takes.1])⟩
        rintro other ⟨⟩ apart
        exact absurd own apart
    · rw [if_neg own]
      constructor
      · rintro ⟨free, _⟩
        have takes := free request rfl own
        exact ⟨takes.1, takes.2.1.resolve_left fun held => own ((mine _).mp held)⟩
      · rintro ⟨free, past⟩
        refine ⟨?_, by simp, by simp, fun _ _ => started.mpr fun held => absurd held own⟩
        rintro other ⟨⟩ _
        exact ⟨free, .inr past, counted⟩
  | recover request =>
    have started := regrant_started_iff now remains request.owner request.branch request.lease request.paths
      request.symbols (held.claimLapses.toNat + 1)
    constructor
    · rintro ⟨_, _, _, window⟩ own expected free past
      exact started.mp (window rfl ⟨free, remains.owner.trans expected, past, counted⟩) own
    · intro kept
      refine ⟨by simp, by simp, by simp, fun _ takes => started.mpr fun own => ?_⟩
      exact kept own (remains.owner.symm.trans takes.2.1) takes.1 takes.2.2.1
  | park key owner =>
    cases named
    simp [ClaimCall.Spares, ClaimCall.Takes, ClaimCall.leases, mine]
  | renew key owner lease =>
    cases named
    constructor
    · rintro ⟨_, _, renew, _⟩ own
      by_contra live
      exact renew owner lease rfl own ⟨(mine owner).mpr own, Int.not_lt.mp live, counted⟩
    · intro past
      have shut : ¬(ClaimCall.renew former.key owner lease).Takes now held :=
        fun takes => absurd (past ((mine owner).mp takes.1)) (Int.not_lt.mpr takes.2.1)
      exact ⟨by simp, by simp, fun _ _ _ _ => shut, fun _ takes => absurd takes shut⟩
  | answer key owner lease =>
    simp [ClaimCall.Spares, ClaimCall.Takes, ClaimCall.left, ClaimCall.leases, mine, counted, remains.window]
  | release key owner => simp [ClaimCall.Spares, ClaimCall.leases]

theorem ended_iff (counted : claims.Counted) (found : claims.find? former.key = some held) (remains : former.Remains held)
    (op : CustodyOp) : Ended former claims op ↔ op.Spares former claims := by
  cases op with
  | releaseLease => exact iff_of_true ⟨nofun, nofun, nofun, fun granted => granted.elim⟩ trivial
  | claim call now =>
    by_cases named : call.key = former.key
    swap
    · refine iff_of_true ⟨?_, ?_, ?_, fun granted => absurd granted.1 named⟩ fun same => absurd same named
      · rintro request now ⟨⟩ _ same
        exact absurd same named
      · rintro owner now ⟨⟩
        exact absurd rfl named
      · rintro owner lease now ⟨⟩
        exact absurd rfl named
    by_cases valid : call.validate = .ok ()
    swap
    · have undone := (DelegatedClaims.call_invalid claims now valid).1
      have ungranted : ¬(CustodyOp.claim call now).Grants claims former.key := fun granted =>
        absurd granted.2.2 (by simp [undone])
      refine iff_of_true ⟨?_, ?_, fun _ _ _ _ _ => ungranted, fun granted => absurd granted ungranted⟩ fun _ passed =>
        absurd passed valid
      · rintro request now ⟨⟩ passed
        exact absurd passed valid
      · rintro owner now ⟨⟩ _
        exact undone
    rw [ended_iff_takes valid named found, spares_iff remains (counted held (mem_of_find? found).1) named]
    refine ⟨fun kept _ _ row there => ?_, fun all => all named valid held found⟩
    cases found.symm.trans there
    exact kept

variable {history : List (Entry DelegatedClaims CustodyOp)} {s : DelegatedClaims} {entry : Entry DelegatedClaims CustodyOp}

theorem Follows.remains (run : custody.Run history s) (follows : Follows history former entry) :
    entry.before.Counted ∧ ∃ held, entry.before.find? former.key = some held ∧ former.Remains held := by
  obtain ⟨newer, middle, released, earlier, rfl, found, releases, _, ungranted⟩ := follows
  obtain ⟨_, run⟩ := run.past
  cases run with
  | step past op ready =>
    refine ⟨past.invariant DelegatedClaims.Counted nofun fun before op counted => counted.apply op, ?_⟩
    refine past.since (fun claims => ∃ held, claims.find? former.key = some held ∧ former.Remains held)
      (fun claims op => ¬op.Grants claims former.key) ?_ ungranted ?_
    · intro middle run
      cases run with
      | step past op ready =>
        refine DelegatedClaims.remains_of_apply found ⟨rfl, rfl, rfl⟩ fun granted => ?_
        cases op with
        | releaseLease => exact granted
        | claim call now =>
          cases call with
          | release => exact absurd granted.2.1 Bool.false_ne_true
          | delegate | renew | park | answer | recover => exact releases
    · rintro before op ungranted ⟨held, found, remains⟩
      exact DelegatedClaims.remains_of_apply found remains ungranted

/-- A release ends the claim, for every later step up to the next grant, exactly as long as none
of these steps meets on the row what the release left there. -/
theorem release_ends_the_claim (run : custody.Run history s) :
    (∀ former entry, Follows history former entry → Ended former entry.before entry.op) ↔
      ∀ former entry, Follows history former entry → entry.op.Spares former entry.before := by
  refine forall₃_congr fun former entry follows => ?_
  obtain ⟨counted, held, found, remains⟩ := follows.remains run
  exact ended_iff counted found remains entry.op

theorem custody_replay (ops : List CustodyOp) :
    custody.Replays (ops.map fun op _ => op) := by
  refine Machine.replay_run ?_
  exact fun _ _ _ _ _ => trivial

/-- node-a's agent releases its claim, and node-b's agent takes the task. -/
theorem release_ends_the_claim_of_a : custody.Replays (releasedLease.map fun op _ => op) ∧
    ∀ former entry, Follows (custody.replay (releasedLease.map fun op _ => op)).1 former entry →
      Ended former entry.before entry.op := by
  refine ⟨custody_replay releasedLease, (release_ends_the_claim (custody_replay releasedLease)).mpr ?_⟩
  rintro former entry ⟨newer, middle, released, earlier, split, found, releases, _, _⟩
  obtain ⟨third, second, first, shape, taken, left, given, held, claimed⟩ : ∃ third second first,
      (custody.replay (releasedLease.map fun op _ => op)).1 = [third, second, first] ∧
      third.op = .claim (.delegate delegateOfB) 20 ∧
      third.before.find? delegateOfB.key = some { delegateOfA.created 0 with leaseExpiresAt := 10 } ∧
      second.op = .claim (.release delegateOfA.key agentA) 10 ∧
      second.before.find? delegateOfB.key = some (delegateOfA.created 0) ∧
      first.op = .claim (.delegate delegateOfA) 0 :=
    ⟨_, _, _, rfl, rfl, by decide +kernel, rfl, by decide +kernel, rfl⟩
  rw [shape] at split
  have none_before (unreleased : first = released) : False := by
    rw [← unreleased, claimed] at releases
    exact releases
  rcases newer with - | ⟨_, - | ⟨_, newer⟩⟩
  · obtain ⟨here, behind⟩ := List.cons.inj split
    subst here
    rcases middle with - | ⟨_, middle⟩
    · obtain ⟨here, _⟩ := List.cons.inj behind
      subst here
      rw [taken]
      intro named _ row there
      rw [show former.key = delegateOfB.key from named.symm] at found there
      cases held.symm.trans found
      cases left.symm.trans there
      decide +kernel
    · obtain ⟨_, last⟩ := List.cons.inj behind
      rcases middle with - | ⟨_, middle⟩
      · exact (none_before (List.cons.inj last).1).elim
      · simp at last
  · obtain ⟨_, behind⟩ := List.cons.inj split
    obtain ⟨here, _⟩ := List.cons.inj behind
    rw [← here, given]
    exact fun _ _ _ _ => trivial
  · obtain ⟨_, behind⟩ := List.cons.inj split
    obtain ⟨_, last⟩ := List.cons.inj behind
    rcases newer with - | ⟨_, newer⟩ <;> simp at last

/-- A released claim can be parked, and taken up again with its old window. -/
theorem release_leaves_the_owner :
    (∃ history s former entry, custody.Run history s ∧ Machine.Clocked (fun op => some op.now) history 20 ∧
      Follows history former entry ∧ ¬Ended former entry.before entry.op ∧ entry.op = .claim (.park former.key agentA) 20) ∧
    ∃ history s former entry, custody.Run history s ∧ Machine.Clocked (fun op => some op.now) history 20 ∧
      Follows history former entry ∧ ¬Ended former entry.before entry.op ∧ entry.op = .claim (.delegate delegateOfA) 20 := by
  have clocked (op : CustodyOp) (at20 : op.now = 20) : Machine.Clocked (fun op => some op.now)
      (custody.replay ((op :: releasedLease.drop 1).map fun op _ => op)).1 20 := by
    change List.Pairwise _ [20, op.now, 10, 0]
    rw [at20]
    decide
  have follows (op : CustodyOp) (at20 : op.now = 20) : Follows (custody.replay ((op :: releasedLease.drop 1).map fun op _ => op)).1
      (delegateOfA.created 0) ⟨(custody.replay ((releasedLease.drop 1).map fun op _ => op)).2, op,
        (custody.replay ((op :: releasedLease.drop 1).map fun op _ => op)).2⟩ := by
    refine ⟨[], [], _, _, rfl, by decide +kernel, ⟨rfl, by decide +kernel⟩, ?_, fun _ inside => absurd inside List.not_mem_nil⟩
    rw [at20]
    decide
  refine ⟨⟨_, _, _, _, custody_replay _, clocked (.claim (.park delegateOfA.key agentA) 20) rfl, follows _ rfl, ?_, rfl⟩,
    ⟨_, _, _, _, custody_replay _, clocked (.claim (.delegate delegateOfA) 20) rfl, follows _ rfl, ?_, rfl⟩⟩
  · intro ended
    have parked := ended.park agentA 20 rfl (by decide)
    exact absurd parked (by decide +kernel)
  · intro ended
    have window := ended.window ⟨rfl, rfl, by decide +kernel⟩
    exact absurd window (by decide +kernel)

end MindLeak.Ackplane
