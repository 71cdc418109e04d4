import MindLeak.Ackplane.Custody

/-! What each call on a delegated claim asks of the row it finds, and the row it leaves.
Everything else is refused and changes nothing. -/

namespace MindLeak.Ackplane

theorem ClaimOwner.verifyNode_ok_iff (owner : ClaimOwner) (row : DelegatedClaim) :
    owner.verifyNode row.ownerId row.ownerNodeId = .ok () ↔ (row.ownerId = owner.ownerId → row.HeldBy owner) := by
  unfold verifyNode DelegatedClaim.HeldBy
  split
  next apart => exact iff_of_false nofun fun held => apart.2 (held apart.1).2
  next agree => exact iff_of_true rfl fun same => ⟨same, not_not.mp fun apart => agree ⟨same, apart⟩⟩

namespace ClaimCall

def Takes (call : ClaimCall) (now : Int) (row : DelegatedClaim) : Prop :=
  match call with
  | .delegate request => row.parked = false ∧ (row.HeldBy request.owner ∨ row.leaseExpiresAt < now) ∧ 0 ≤ row.claimLapses
  | .release _ owner => row.HeldBy owner ∧ now ≤ row.leaseExpiresAt
  | .renew _ owner _ => row.HeldBy owner ∧ now ≤ row.leaseExpiresAt ∧ 0 ≤ row.claimLapses
  | .park _ owner => row.HeldBy owner ∧ row.parked = false
  | .answer _ owner _ => row.HeldBy owner ∧ row.parked = true ∧ 0 ≤ row.claimLapses
  | .recover request => row.parked = false ∧ row.ownerId = request.expectedOwner ∧ row.leaseExpiresAt < now ∧
      0 ≤ row.claimLapses

def left (call : ClaimCall) (now : Int) (row : DelegatedClaim) : DelegatedClaim :=
  match call with
  | .delegate request => row.regrant request.owner request.branch request.lease request.paths request.symbols now
      (row.claimLapses.toNat + if row.leaseExpiresAt < now then 1 else 0)
  | .release _ _ => { row with leaseExpiresAt := now }
  | .renew _ _ lease => { row with leaseExpiresAt := now + lease }
  | .park _ _ => { row with leaseExpiresAt := now, parked := true }
  | .answer _ _ lease => { row with leaseExpiresAt := now + lease, parked := false }
  | .recover request => row.regrant request.owner request.branch request.lease request.paths request.symbols now
      (row.claimLapses.toNat + 1)

instance (now : Int) (row : DelegatedClaim) : (call : ClaimCall) → Decidable (call.Takes now row)
  | .delegate _ | .release _ _ | .renew _ _ _ | .park _ _ | .answer _ _ _ | .recover _ =>
    inferInstanceAs (Decidable (_ ∧ _))

@[simp] theorem left_key (call : ClaimCall) (now : Int) (row : DelegatedClaim) : (call.left now row).key = row.key := by
  cases call <;> rfl

end ClaimCall

variable {row : DelegatedClaim} {now : Int} {owner : ClaimOwner} {lease : Nat}

namespace DelegatedClaim

theorem lapses_eq (row : DelegatedClaim) :
    row.lapses = if 0 ≤ row.claimLapses then .ok row.claimLapses.toNat else .error .invalidLapseCount := by
  unfold lapses
  by_cases counted : 0 ≤ row.claimLapses
  · rw [if_pos counted, if_neg (Int.not_lt.mpr counted)]
  · rw [if_neg counted, if_pos (Int.not_le.mp counted)]

/-- A call that is let through leaves `after` and answers so; any other leaves the row. -/
def Settles {α : Type} (row after : DelegatedClaim) (takes : Prop) (done : α → Prop)
    (result : Except ClaimStoreError (DelegatedClaim × α)) : Prop :=
  takes ∧ (∃ answer, result = .ok (after, answer) ∧ done answer) ∨
    ¬takes ∧ ((∃ error, result = .error error) ∨ ∃ answer, result = .ok (row, answer) ∧ ¬done answer)

theorem settles_of_guard {check : Except ClaimStoreError Unit} {refused takes : Prop} [Decidable refused]
    {after : Nat → DelegatedClaim} {count : Nat → Nat} (agree : takes ↔ check = .ok () ∧ ¬refused ∧ 0 ≤ row.claimLapses) :
    row.Settles (after row.claimLapses.toNat) takes (fun result => result.outcome = .granted) (do
      let () ← check
      let claimLapses ← row.lapses
      if refused then .ok (row, row.report .rejected claimLapses)
      else .ok (after claimLapses, (after claimLapses).report .granted (count claimLapses))) := by
  rw [agree, lapses_eq]
  cases check with
  | error error => exact .inr ⟨fun takes => (nomatch takes.1), .inl ⟨error, rfl⟩⟩
  | ok =>
    by_cases counted : 0 ≤ row.claimLapses
    swap
    · rw [if_neg counted]
      exact .inr ⟨fun takes => counted takes.2.2, .inl ⟨_, rfl⟩⟩
    rw [if_pos counted]
    by_cases out : refused
    · refine .inr ⟨fun takes => takes.2.1 out, .inr ⟨_, if_pos out, nofun⟩⟩
    · exact .inl ⟨⟨rfl, out, counted⟩, _, if_neg out, rfl⟩

theorem held_iff : row.HeldBy owner ↔ owner.verifyNode row.ownerId row.ownerNodeId = .ok () ∧ row.ownerId = owner.ownerId := by
  rw [ClaimOwner.verifyNode_ok_iff]
  exact ⟨fun held => ⟨fun _ => held, held.1⟩, fun ⟨held, same⟩ => held same⟩

theorem delegate_settles (request : ClaimLeaseRequest) : row.Settles ((ClaimCall.delegate request).left now row)
    ((ClaimCall.delegate request).Takes now row) (fun result => result.outcome = .granted) (row.delegate request now) := by
  have guard : row.delegate request now = (do
      let () ← (if row.parked ∨ now ≤ row.leaseExpiresAt then request.owner.verifyNode row.ownerId row.ownerNodeId else .ok ())
      let claimLapses ← row.lapses
      if row.parked ∨ ¬row.HeldBy request.owner ∧ now ≤ row.leaseExpiresAt then .ok (row, row.report .rejected claimLapses)
      else
        let nextLapses := claimLapses + if row.leaseExpiresAt < now then 1 else 0
        let granted := row.regrant request.owner request.branch request.lease request.paths request.symbols now nextLapses
        .ok (granted, granted.report .granted nextLapses)) := by
    unfold delegate
    by_cases parked : row.parked = true <;> simp [parked]
  rw [guard]
  refine settles_of_guard ?_
  constructor
  · rintro ⟨parked, held, counted⟩
    refine ⟨?_, ?_, counted⟩
    · split
      next exclusive =>
        have live := exclusive.resolve_left (by simp [parked])
        exact (held_iff.mp (held.resolve_right (Int.not_lt.mpr live))).1
      next => rfl
    · rintro (here | ⟨apart, live⟩)
      · simp [parked] at here
      · exact held.elim apart (Int.not_lt.mpr live)
  · rintro ⟨_, free, counted⟩
    rw [not_or, not_and, Int.not_le] at free
    exact ⟨Bool.eq_false_iff.mpr free.1, or_iff_not_imp_left.mpr free.2, counted⟩

theorem recover_settles (request : ClaimRecoverRequest) : row.Settles ((ClaimCall.recover request).left now row)
    ((ClaimCall.recover request).Takes now row) (fun result => result.outcome = .granted) (row.recover request now) := by
  have checked : row.recover request now = (do
      let () ← (.ok () : Except ClaimStoreError Unit)
      row.recover request now) := rfl
  rw [checked]
  refine settles_of_guard ?_
  simp only [ClaimCall.Takes, not_or, not_not, Int.not_le, Bool.not_eq_true, true_and, and_assoc]

theorem renew_settles (key : ClaimKey) : row.Settles ((ClaimCall.renew key owner lease).left now row)
    ((ClaimCall.renew key owner lease).Takes now row) (fun result => result.outcome = .granted) (row.renew owner lease now) := by
  refine settles_of_guard ?_
  simp only [ClaimCall.Takes, held_iff, not_or, not_not, Int.not_lt, and_assoc]

theorem answer_settles (key : ClaimKey) : row.Settles ((ClaimCall.answer key owner lease).left now row)
    ((ClaimCall.answer key owner lease).Takes now row) (fun result => result.outcome = .granted) (row.answer owner lease now) := by
  refine settles_of_guard ?_
  simp only [ClaimCall.Takes, held_iff, not_or, not_not, and_assoc]

variable {after : DelegatedClaim} {takes : Prop}

theorem settles_of_update [Decidable takes] (held : takes → row.HeldBy owner) :
    row.Settles after takes (· = true) (row.lockAndUpdate owner (if takes then some after else none)) := by
  unfold Settles lockAndUpdate
  by_cases through : takes
  · rw [(held_iff.mp (held through)).1, if_pos through]
    exact .inl ⟨through, true, rfl, rfl⟩
  · rw [if_neg through]
    refine .inr ⟨through, ?_⟩
    cases owner.verifyNode row.ownerId row.ownerNodeId with
    | error error => exact .inl ⟨error, rfl⟩
    | ok => exact .inr ⟨false, rfl, nofun⟩

theorem release_settles (key : ClaimKey) : row.Settles ((ClaimCall.release key owner).left now row)
    ((ClaimCall.release key owner).Takes now row) (· = true) (row.release owner now) :=
  settles_of_update And.left

theorem park_settles (key : ClaimKey) : row.Settles ((ClaimCall.park key owner).left now row)
    ((ClaimCall.park key owner).Takes now row) (· = true) (row.park owner now) := by
  unfold park parked?
  simp only [Bool.not_eq_true]
  exact settles_of_update And.left

theorem Settles.ok {α : Type} {done : α → Prop}
    {result : Except ClaimStoreError (DelegatedClaim × α)} (settles : row.Settles after takes done result) (through : takes) :
    ∃ answer, result = .ok (after, answer) ∧ done answer :=
  settles.elim And.right fun shut => absurd through shut.1

variable {key : ClaimKey}

theorem release_takes (takes : (ClaimCall.release key owner).Takes now row) :
    (ClaimCall.release key owner).found now row = .ok ((ClaimCall.release key owner).left now row, .changed true) := by
  obtain ⟨_, result, rfl⟩ := (row.release_settles key).ok takes
  exact congrArg (Except.map _) result

theorem park_takes (takes : (ClaimCall.park key owner).Takes now row) :
    (ClaimCall.park key owner).found now row = .ok ((ClaimCall.park key owner).left now row, .changed true) := by
  obtain ⟨_, result, rfl⟩ := (row.park_settles key).ok takes
  exact congrArg (Except.map _) result

theorem park_late : (ClaimCall.park key owner).late now row =
    if (ClaimCall.park key owner).Takes now row then some ((ClaimCall.park key owner).left now row) else none :=
  if_congr (and_congr_right' (by rw [Bool.not_eq_true])) rfl rfl

theorem Settles.map {α β : Type} {done : β → Prop} {wrap : α → β}
    {result : Except ClaimStoreError (DelegatedClaim × α)} (settles : row.Settles after takes (fun answer => done (wrap answer)) result) :
    row.Settles after takes done (result.map (Prod.map id wrap)) := by
  rcases settles with ⟨through, answer, rfl, granted⟩ | ⟨shut, ⟨error, rfl⟩ | ⟨answer, rfl, refused⟩⟩
  · exact .inl ⟨through, wrap answer, rfl, granted⟩
  · exact .inr ⟨shut, .inl ⟨error, rfl⟩⟩
  · exact .inr ⟨shut, .inr ⟨wrap answer, rfl, refused⟩⟩

end DelegatedClaim

theorem ClaimCall.found_settles (call : ClaimCall) (now : Int) (row : DelegatedClaim) :
    row.Settles (call.left now row) (call.Takes now row) ClaimAnswer.Done (call.found now row) := by
  cases call with
  | delegate request => exact (row.delegate_settles request).map
  | release key owner => exact (row.release_settles key).map
  | renew key owner lease => exact (row.renew_settles key).map
  | park key owner => exact (row.park_settles key).map
  | answer key owner lease => exact (row.answer_settles key).map
  | recover request => exact (row.recover_settles request).map

namespace DelegatedClaims

inductive Called (claims : DelegatedClaims) (call : ClaimCall) (now : Int) :
    Except ClaimStoreError ClaimAnswer → DelegatedClaims → Prop where
  | refused {result : Except ClaimStoreError ClaimAnswer} (undone : ∀ answer, result = .ok answer → ¬answer.Done)
      (shut : call.validate = .ok () → ∀ row ∈ claims.find? call.key, ¬call.Takes now row)
      (unclaimed : call.validate = .ok () → claims.find? call.key = none → ∀ request, call ≠ .delegate request) :
      Called claims call now result claims
  | taken {row : DelegatedClaim} {answer : ClaimAnswer} (valid : call.validate = .ok ())
      (found : claims.find? call.key = some row) (takes : call.Takes now row) (done : answer.Done) :
      Called claims call now (.ok answer) (claims.put (call.left now row))
  | created {request : ClaimLeaseRequest} (valid : call.validate = .ok ()) (delegates : call = .delegate request)
      (absent : claims.find? request.key = none) :
      Called claims call now (.ok (.lease ((request.created now).report .granted 0))) (claims.put (request.created now))

theorem called (claims : DelegatedClaims) (call : ClaimCall) (now : Int) :
    claims.Called call now (claims.call call now).1 (claims.call call now).2 := by
  unfold DelegatedClaims.call
  cases valid : call.validate with
  | error error =>
    have failed {p : Prop} (passed : call.validate = .ok ()) : p := nomatch valid.symm.trans passed
    exact .refused nofun failed failed
  | ok =>
    cases found : claims.find? call.key with
    | none =>
      have shut : ∀ row ∈ claims.find? call.key, ¬call.Takes now row := fun row there => nomatch found.symm.trans there
      cases call with
      | delegate request => exact .created valid rfl found
      | release | renew | park | answer | recover =>
        exact .refused (fun _ answered => by cases answered; nofun) (fun _ => shut) fun _ _ _ => nofun
    | some row =>
      obtain ⟨member, named⟩ := Table.mem_of_find? found
      have there : call.validate = .ok () → claims.find? call.key = none → ∀ request, call ≠ .delegate request :=
        fun _ none => nomatch found.symm.trans none
      have only (shut : ¬call.Takes now row) : call.validate = .ok () → ∀ row ∈ claims.find? call.key, ¬call.Takes now row := by
        intro _ other here
        cases found.symm.trans here
        exact shut
      rcases call.found_settles now row with ⟨takes, answer, left, done⟩ | ⟨shut, ⟨error, failed⟩ | ⟨answer, kept, undone⟩⟩
      · simp only [left]
        exact .taken valid found takes done
      · simp only [failed]
        exact .refused nofun (only shut) there
      · simp only [kept, Table.put_self member]
        exact .refused (fun _ answered => by cases answered; exact undone) (only shut) there

theorem releaseLease_cases (claims : DelegatedClaims) (command : WorkCommand) (payload : ReleaseLeasePayload)
    (task : Option LockedTask) (now : Int) :
    ((claims.releaseLease command payload task now).2 = claims ∧
      (claims.releaseLease command payload task now).1.toOption ≠ some .applied) ∨
    ∃ key row, command.claimKey = some key ∧ claims.find? key = some row ∧
      claims.releaseLease command payload task now = (.ok .applied, claims.put { row with leaseExpiresAt := now }) := by
  unfold releaseLease
  cases named : command.claimKey with
  | none => exact .inl ⟨rfl, nofun⟩
  | some key =>
    rw [Option.bind_some]
    cases found : claims.find? key with
    | none => exact .inl ⟨rfl, nofun⟩
    | some row =>
      by_cases owned : row.ownerId = payload.expectedOwnerId
      swap
      · exact .inl (by simp [owned, Except.toOption])
      by_cases agreed : row.leaseExpiresAt = payload.expectedLeaseExpiresAt
      swap
      · exact .inl (by simp [owned, agreed, Except.toOption])
      cases task with
      | none => exact .inl (by simp [owned, agreed, Except.toOption])
      | some task => exact .inr ⟨key, row, rfl, found, by simp [owned, agreed]⟩

end DelegatedClaims
end MindLeak.Ackplane
