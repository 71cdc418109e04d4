import MindLeak.Proofs.Rotations

/-! How long a key signs on after it is rotated away. Until it retires it can be rotated
away again, and the later retirement takes the place of the earlier. -/

namespace MindLeak.Ackplane

open Option

theorem judge_of_inForce {lifecycle : SigningKeyLifecycle} {identity : Identity} {moment : Int}
    (inForce : lifecycle.InForce identity moment) (signingKeyId : String) :
    judge lifecycle (.of signingKeyId identity moment) = .resolved lifecycle.record := by
  obtain ⟨rfl, active, unrevoked, unexpired, unretired⟩ := inForce
  have ongoing {ends : Option Int} (still : ∀ limit ∈ ends, moment < limit) :
      ¬(ends.any fun limit => decide (limit ≤ moment)) = true := by
    rw [any_eq_true]
    rintro ⟨limit, set, past⟩
    have later := still limit set
    have past := of_decide_eq_true past
    omega
  change judge lifecycle ⟨signingKeyId, lifecycle.record.tenantId, lifecycle.record.repositoryId, lifecycle.record.nodeId, moment⟩ = _
  simp only [judge]
  rw [if_neg (by simp), if_neg (Int.not_lt.mpr active), if_neg (ongoing unrevoked), if_neg (ongoing unexpired),
    if_neg (ongoing unretired)]

namespace SigningKeyLifecycle

def CutBy (lifecycle : SigningKeyLifecycle) (limit : Int) : Prop :=
  (∃ revoked ∈ lifecycle.revokedAt, revoked ≤ limit) ∨ ∃ expires ∈ lifecycle.record.expiresAt, expires ≤ limit

instance (lifecycle : SigningKeyLifecycle) (limit : Int) : Decidable (lifecycle.CutBy limit) :=
  inferInstanceAs (Decidable ((∃ revoked ∈ lifecycle.revokedAt, revoked ≤ limit) ∨
    ∃ expires ∈ lifecycle.record.expiresAt, expires ≤ limit))

def EndsBy (lifecycle : SigningKeyLifecycle) (limit : Int) : Prop :=
  (∃ retired ∈ lifecycle.retiredAt, retired ≤ limit) ∨ lifecycle.CutBy limit

end SigningKeyLifecycle

def SigningKeys.Silent (keys : SigningKeys) (signingKeyId : String) (limit : Int) : Prop :=
  ∀ binding : EnvelopeBinding, binding.signingKeyId = signingKeyId → limit ≤ binding.acceptedAt →
    ∀ record, keys.resolve binding ≠ .resolved record

theorem SigningKeys.silent_iff {keys : SigningKeys} {signingKeyId : String} {row : SigningKeyRow} {limit : Int}
    (found : keys.find? signingKeyId = some row) (active : row.lifecycle.record.activatedAt ≤ limit) :
    keys.Silent signingKeyId limit ↔ row.lifecycle.EndsBy limit := by
  constructor
  · intro silent
    by_contra endless
    have after {ends : Option Int} (never : ¬∃ moment ∈ ends, moment ≤ limit) : ∀ moment ∈ ends, limit < moment := by
      intro moment set
      by_contra past
      exact never ⟨moment, set, Int.not_lt.mp past⟩
    unfold SigningKeyLifecycle.EndsBy SigningKeyLifecycle.CutBy at endless
    rw [not_or, not_or] at endless
    have inForce : row.lifecycle.InForce _ limit := ⟨rfl, active, after endless.2.1, after endless.2.2, after endless.1⟩
    have worth := judge_of_inForce inForce signingKeyId
    refine silent ⟨signingKeyId, row.lifecycle.record.tenantId, row.lifecycle.record.repositoryId,
      row.lifecycle.record.nodeId, limit⟩ rfl (Int.le_refl limit) row.lifecycle.record ?_
    simp only [SigningKeys.resolve, found]
    exact worth
  · rintro ends ⟨keyId, tenantId, repositoryId, producerId, acceptedAt⟩ rfl late record resolved
    simp only [SigningKeys.resolve, found] at resolved
    have worth : judge row.lifecycle (.of keyId ⟨tenantId, repositoryId, producerId⟩ acceptedAt) = .resolved record :=
      resolved
    obtain ⟨_, inForce⟩ := judge_resolved worth
    simp only at late
    rcases ends with ⟨moment, set, past⟩ | ⟨moment, set, past⟩ | ⟨moment, set, past⟩
    · have still := inForce.unretired moment set
      omega
    · have still := inForce.unrevoked moment set
      omega
    · have still := inForce.unexpired moment set
      omega

namespace Rotations
variable {τ : Type} [DecidableEq τ] {s : Rotations τ} {platform : Platform} {signingKeyId : String} {limit : Int}

def wrote (s : Rotations τ) : RotationOp τ → Option (KeyRotation × Int)
  | .step transaction | .commitUnheard transaction =>
    (s.phase transaction).writes.filter fun writing => (s.keys.succeed writing.1 writing.2).isSome
  | _ => none

theorem wrote_cases (platform : Platform) (s : Rotations τ) (op : RotationOp τ) :
    s.wrote op = none ∧ (s.apply platform op).keys = s.keys ∨
      ∃ transaction rotation now, s.wrote op = some (rotation, now) ∧ (s.phase transaction).writes = some (rotation, now) ∧
        s.keys.succeed rotation now = some (s.apply platform op).keys := by
  cases op with
  | start | fail =>
    refine .inl ⟨rfl, ?_⟩
    simp only [apply]
    split <;> rfl
  | commitUnheard transaction =>
    cases phase : s.phase transaction with
    | checked rotation now current =>
      simp only [wrote, apply, phase, RotationPhase.writes, commit]
      cases succeeded : s.keys.succeed rotation now with
      | none => exact .inl ⟨by simp [succeeded], rfl⟩
      | some keys => exact .inr ⟨transaction, rotation, now, by simp [succeeded], by rw [phase], succeeded⟩
    | _ => exact .inl ⟨by simp [wrote, phase, RotationPhase.writes], by simp only [apply, phase]⟩
  | step transaction =>
    cases phase : s.phase transaction with
    | checked rotation now current =>
      simp only [wrote, apply, step, phase, RotationPhase.writes, commit]
      cases succeeded : s.keys.succeed rotation now with
      | none => exact .inl ⟨by simp [succeeded], rfl⟩
      | some keys => exact .inr ⟨transaction, rotation, now, by simp [succeeded], by rw [phase], succeeded⟩
    | idle | finished =>
      exact .inl ⟨by simp [wrote, phase, RotationPhase.writes], by simp only [apply, step, phase]⟩
    | begun rotation now =>
      refine .inl ⟨by simp [wrote, phase, RotationPhase.writes], ?_⟩
      simp only [apply, step, phase]
      split
      next => rfl
      next => split <;> rfl
    | fetched rotation now current =>
      refine .inl ⟨by simp [wrote, phase, RotationPhase.writes], ?_⟩
      simp only [apply, step, phase]
      split <;> rfl

def Begun (signingKeyId : String) (limit : Int) (s : Rotations τ) : Prop :=
  ∃ row, s.keys.find? signingKeyId = some row ∧ row.lifecycle.record.activatedAt ≤ limit

def Ended (signingKeyId : String) (limit : Int) (s : Rotations τ) : Prop :=
  ∃ row, s.keys.find? signingKeyId = some row ∧ row.lifecycle.record.activatedAt ≤ limit ∧ row.lifecycle.EndsBy limit

omit [DecidableEq τ] in
theorem Begun.silent_iff (begun : s.Begun signingKeyId limit) : s.keys.Silent signingKeyId limit ↔ s.Ended signingKeyId limit := by
  obtain ⟨row, found, active⟩ := begun
  rw [SigningKeys.silent_iff found active]
  constructor
  · intro ends
    exact ⟨row, found, active, ends⟩
  · rintro ⟨_, found', _, ends⟩
    cases found.symm.trans found'
    exact ends

theorem Begun.apply (begun : s.Begun signingKeyId limit) (op : RotationOp τ) :
    (s.apply platform op).Begun signingKeyId limit := by
  obtain ⟨row, found, active⟩ := begun
  rcases s.apply_keys platform op with same | ⟨_, _, _, _, succeeded, _⟩
  · exact ⟨row, by rw [same]; exact found, active⟩
  · obtain ⟨later, there, same⟩ := SigningKeys.succeed_keeps succeeded found
    exact ⟨later, there, same ▸ active⟩

def Within (signingKeyId : String) (limit : Int) (s : Rotations τ) (op : RotationOp τ) : Prop :=
  ∀ writing ∈ s.wrote op, writing.1.currentKeyId = signingKeyId →
    writing.1.retiredAt writing.2 ≤ limit ∨ ∃ row ∈ s.keys.find? signingKeyId, row.lifecycle.CutBy limit

instance (op : RotationOp τ) : Decidable (s.Within signingKeyId limit op) :=
  inferInstanceAs (Decidable (∀ writing ∈ s.wrote op, writing.1.currentKeyId = signingKeyId →
    writing.1.retiredAt writing.2 ≤ limit ∨ ∃ row ∈ s.keys.find? signingKeyId, row.lifecycle.CutBy limit))

theorem ended_iff (ended : s.Ended signingKeyId limit) (op : RotationOp τ) :
    (s.apply platform op).Ended signingKeyId limit ↔ s.Within signingKeyId limit op := by
  obtain ⟨row, found, active, ends⟩ := ended
  rcases s.wrote_cases platform op with ⟨idle, same⟩ | ⟨_, rotation, now, wrote, _, succeeded⟩
  · refine iff_of_true ⟨row, by rw [same]; exact found, active, ends⟩ ?_
    intro writing wrote
    cases idle.symm.trans wrote
  · have there := SigningKeys.find?_succeed succeeded signingKeyId
    rw [found] at there
    simp only [map_some, getD_some, ite_self] at there
    by_cases named : rotation.currentKeyId = signingKeyId
    · rw [if_pos named.symm] at there
      constructor
      · rintro ⟨later, found', _, ends'⟩ writing written _
        cases wrote.symm.trans written
        cases there.symm.trans found'
        rcases ends' with ⟨_, set, past⟩ | cut
        · cases set
          exact .inl past
        · exact .inr ⟨row, found, cut⟩
      · intro within
        refine ⟨_, there, active, ?_⟩
        rcases within (rotation, now) wrote named with past | ⟨_, found', cut⟩
        · exact .inl ⟨_, rfl, past⟩
        · cases found.symm.trans found'
          exact .inr cut
    · rw [if_neg (Ne.symm named)] at there
      refine iff_of_true ⟨row, there, active, ends⟩ ?_
      intro writing written same
      cases wrote.symm.trans written
      exact absurd same named

theorem Sound.ended_of_wrote {first : SigningKeys} (sound : s.Sound platform first) {op : RotationOp τ}
    {rotation : KeyRotation} {now : Int} (wrote : s.wrote op = some (rotation, now)) :
    (s.apply platform op).Ended rotation.currentKeyId (now + MAX_ROTATION_OVERLAP) := by
  rcases s.wrote_cases platform op with ⟨idle, _⟩ | ⟨transaction, _, _, written, writes, succeeded⟩
  · cases wrote.symm.trans idle
  · cases wrote.symm.trans written
    obtain ⟨current, checked⟩ := RotationPhase.checked_of_writes writes
    obtain ⟨⟨row, found, rfl⟩, passed⟩ : Reads platform first s.keys (.checked rotation now current) := checked ▸ sound.reads transaction
    have there := SigningKeys.find?_succeed succeeded rotation.currentKeyId
    rw [found] at there
    simp only [map_some, if_true, getD_some, ite_self] at there
    have active := (checkRotation_ok passed).1.active
    have longest : (0 : Int) ≤ MAX_ROTATION_OVERLAP := by decide
    refine ⟨_, there, ?_, .inl ⟨_, rfl, ?_⟩⟩
    · change row.lifecycle.record.activatedAt ≤ _
      omega
    · unfold KeyRotation.retiredAt
      omega

/-- A key that was rotated away at some time authenticates nothing from the longest overlap
later on exactly as long as every further rotation of it retires it by then, or it is revoked or expires. -/
theorem overlap_is_bounded {keys : SigningKeys} {later earlier : List (Entry (Rotations τ) (RotationOp τ))}
    {away : Entry (Rotations τ) (RotationOp τ)} (run : (rotations τ platform keys).Run (later ++ away :: earlier) s)
    {rotation : KeyRotation} {now : Int} (wrote : away.before.wrote away.op = some (rotation, now)) :
    (∀ entry ∈ away :: later, entry.after.keys.Silent rotation.currentKeyId (now + MAX_ROTATION_OVERLAP)) ↔
      ∀ entry ∈ later, entry.before.Within rotation.currentKeyId (now + MAX_ROTATION_OVERLAP) entry.op := by
  have ended : ∀ middle, (rotations τ platform keys).Run (away :: earlier) middle →
      middle.Ended rotation.currentKeyId (now + MAX_ROTATION_OVERLAP) := by
    intro middle past
    cases past with
    | step before op ready => exact (sound_of_run before).ended_of_wrote wrote
  have begun {s : Rotations τ} (ended : s.Ended rotation.currentKeyId (now + MAX_ROTATION_OVERLAP)) :
      s.Begun rotation.currentKeyId (now + MAX_ROTATION_OVERLAP) := ended.imp fun _ there => ⟨there.1, there.2.1⟩
  have always := run.since_good_iff (Begun rotation.currentKeyId (now + MAX_ROTATION_OVERLAP)) (fun _ _ => True)
    (fun middle past => begun (ended middle past)) fun _ op before => iff_of_true (before.apply op) trivial
  have since := run.since_good_iff (Ended rotation.currentKeyId (now + MAX_ROTATION_OVERLAP))
    (Within rotation.currentKeyId (now + MAX_ROTATION_OVERLAP)) ended fun _ op before => ended_iff before op
  have first : away.after.Ended rotation.currentKeyId (now + MAX_ROTATION_OVERLAP) := by
    obtain ⟨middle, past⟩ := run.past
    have there := ended middle past
    cases past
    exact there
  rw [List.forall_mem_cons, and_iff_right ((begun first).silent_iff.mpr first), ← since]
  exact forall₂_congr fun entry member => (always.mpr (fun _ _ => trivial) entry member).silent_iff

end Rotations

/-- The same key is rotated away again within its overlap, to the same key under another id. -/
def rotationLaterOfA : KeyRotation := rotationOf "node-a" "key:a" "key:later" signedLaterByA

def rotatedOnce : List (Rotations Bool → RotationOp Bool) := [continuing true, continuing true, rotating true rotationOfA]

def rotatedLater (now : Int) : List (Rotations Bool → RotationOp Bool) :=
  List.replicate 3 (continuing false) ++ [fun _ => .start false rotationLaterOfA now]

abbrev rotatedTwice (now : Int) : List (Entry (Rotations Bool) (RotationOp Bool)) × Rotations Bool :=
  (rotations Bool signingPlatform.toPlatform nodeKeys).replay (rotatedLater now ++ continuing true :: rotatedOnce)

theorem rotatedTwice_run (now : Int) :
    (rotations Bool signingPlatform.toPlatform nodeKeys).Run (rotatedTwice now).1 (rotatedTwice now).2 :=
  rotations_replay ..

theorem rotated_reads :
    Rotations.wrote ((rotations Bool signingPlatform.toPlatform nodeKeys).replay rotatedOnce).2 (.step true) =
      some (rotationOfA, seconds 60) ∧
    (∀ entry ∈ (rotatedTwice (seconds 100000)).1.take 4,
      entry.before.Within "key:a" (seconds 60 + MAX_ROTATION_OVERLAP) entry.op) ∧
    (rotatedTwice (seconds 82800)).2.keys.resolve ⟨"key:a", "acme", "repo", "node-a", seconds 108000⟩ =
      .resolved ⟨"key:a", "acme", "repo", "node-a", keyOfA,
        "ed25519:34750f98bd59fcfc946da45aaabe933be154a4b5094e1c4abf42866505f3c97e", 0, none⟩ := by
  decide +kernel

/-- Behind its overlap the key cannot be rotated away again. -/
theorem overlap_is_bounded_late :
    Rotations.wrote ((rotations Bool signingPlatform.toPlatform nodeKeys).replay rotatedOnce).2 (.step true) =
        some (rotationOfA, seconds 60) ∧
      ∀ entry ∈ ((rotatedTwice (seconds 100000)).1).take 4,
        entry.after.keys.Silent "key:a" (seconds 60 + MAX_ROTATION_OVERLAP) := by
  have run := rotatedTwice_run (seconds 100000)
  refine ⟨rotated_reads.1, fun entry member => ?_⟩
  exact (Rotations.overlap_is_bounded run rotated_reads.1).mpr rotated_reads.2.1 entry (List.mem_cons_of_mem _ member)

/-- Within it it can. -/
theorem overlap_ends_late :
    ¬∀ (later earlier : List (Entry (Rotations Bool) (RotationOp Bool))) (away : Entry (Rotations Bool) (RotationOp Bool))
        (s : Rotations Bool) (rotation : KeyRotation) (now : Int),
      (rotations Bool signingPlatform.toPlatform nodeKeys).Run (later ++ away :: earlier) s →
      away.before.wrote away.op = some (rotation, now) →
      ∀ entry ∈ away :: later, entry.after.keys.Silent rotation.currentKeyId (now + MAX_ROTATION_OVERLAP) := by
  intro always
  have run := rotatedTwice_run (seconds 82800)
  rw [Machine.replay_split] at run
  have silent := always _ _ _ _ rotationOfA (seconds 60) run rotated_reads.1 _
    (List.mem_cons_of_mem _ List.mem_cons_self)
  exact silent _ rfl (by decide) _ rotated_reads.2.2

end MindLeak.Ackplane
