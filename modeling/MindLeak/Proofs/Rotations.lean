import MindLeak.Proofs.Keys
import MindLeak.Proofs.Streams

/-! Rotations side by side. The lock is on the current key's row, and what was found
of the successor's id was found before it: another rotation may have registered it since. -/

namespace MindLeak.Ackplane

open Option Function

structure KeyRotation.Names (rotation : KeyRotation) (record : SigningKeyRecord) : Prop where
  tenantId : record.tenantId = rotation.tenantId
  repositoryId : record.repositoryId = rotation.repositoryId
  nodeId : record.nodeId = rotation.nodeId
  publicKey : record.publicKey = rotation.successorPublicKey

instance (rotation : KeyRotation) (record : SigningKeyRecord) : Decidable (rotation.Names record) :=
  decidable_of_iff (record.tenantId = rotation.tenantId ∧ record.repositoryId = rotation.repositoryId ∧
      record.nodeId = rotation.nodeId ∧ record.publicKey = rotation.successorPublicKey)
    ⟨fun ⟨tenant, repository, node, key⟩ => ⟨tenant, repository, node, key⟩,
      fun ⟨tenant, repository, node, key⟩ => ⟨tenant, repository, node, key⟩⟩

theorem KeyRotation.names_successor (rotation : KeyRotation) (now : Int) : rotation.Names (rotation.successor now) :=
  ⟨rfl, rfl, rfl, rfl⟩

def SigningKeys.holds (keys : SigningKeys) (record : SigningKeyRecord) : Bool :=
  keys.rows.any fun row =>
    let held := row.lifecycle.record
    decide (held.tenantId = record.tenantId) && decide (held.repositoryId = record.repositoryId) &&
      decide (held.nodeId = record.nodeId) && decide (held.publicKeyFingerprint = record.publicKeyFingerprint) &&
      decide (held.activatedAt = record.activatedAt)

def KeyRotation.changes (rotation : KeyRotation) (now : Int) (keys : SigningKeys) : Bool :=
  match keys.find? rotation.successorKeyId with
  | some _ => (keys.find? rotation.currentKeyId).any fun row => decide (row.lifecycle.retiredAt ≠ some (rotation.retiredAt now))
  | none => !keys.holds (rotation.successor now)

variable {rotation : KeyRotation} {now : Int}

namespace SigningKeys
variable {keys after : SigningKeys}

def Serves (keys : SigningKeys) (rotation : KeyRotation) : Prop :=
  ∃ row, keys.find? rotation.successorKeyId = some row ∧ rotation.Names row.lifecycle.record

def Open (keys : SigningKeys) (rotation : KeyRotation) : Prop :=
  ∀ row ∈ keys.find? rotation.successorKeyId, rotation.Names row.lifecycle.record

instance : Decidable (keys.Open rotation) :=
  inferInstanceAs (Decidable (∀ row ∈ keys.find? rotation.successorKeyId, _))

theorem Serves.succeed (serves : keys.Serves rotation) {other : KeyRotation} (succeeded : keys.succeed other now = some after) :
    after.Serves rotation := by
  obtain ⟨row, found, named⟩ := serves
  obtain ⟨later, there, same⟩ := succeed_keeps succeeded found
  exact ⟨later, there, same ▸ named⟩

/-- The writes serve their rotation exactly when nobody else has the id. -/
theorem serves_succeed_iff (succeeded : keys.succeed rotation now = some after) : after.Serves rotation ↔ keys.Open rotation := by
  have there := find?_succeed succeeded rotation.successorKeyId
  rw [if_pos rfl] at there
  constructor
  · rintro ⟨row, found, named⟩ held taken
    obtain ⟨later, found', same⟩ := succeed_keeps succeeded taken
    cases found.symm.trans found'
    exact same ▸ named
  · intro free
    refine ⟨_, there, ?_⟩
    cases found : keys.find? rotation.successorKeyId with
    | none => exact rotation.names_successor now
    | some held =>
      split
      · exact free held found
      · exact free held found

theorem succeed_of_taken {row : SigningKeyRow} (taken : keys.find? rotation.successorKeyId = some row) :
    keys.succeed rotation now = some (keys.retire rotation.currentKeyId (rotation.retiredAt now)) := by
  have held : ((keys.retire rotation.currentKeyId (rotation.retiredAt now)).find? (rotation.successor now).signingKeyId).isSome := by
    rw [find?_retire]
    change (Option.map _ (keys.find? rotation.successorKeyId)).isSome = true
    rw [taken]
    rfl
  rw [succeed, register, if_pos held]

theorem succeed_of_free (free : keys.find? rotation.successorKeyId = none) :
    keys.succeed rotation now = if keys.holds (rotation.successor now) then none
      else some ((keys.retire rotation.currentKeyId (rotation.retiredAt now)).insertOrIgnore
        ⟨⟨rotation.successor now, none, none⟩, none⟩) := by
  have absent : (keys.retire rotation.currentKeyId (rotation.retiredAt now)).find? (rotation.successor now).signingKeyId = none := by
    rw [find?_retire]
    change Option.map _ (keys.find? rotation.successorKeyId) = none
    rw [free, map_none]
  have same : (keys.retire rotation.currentKeyId (rotation.retiredAt now)).holds (rotation.successor now) =
      keys.holds (rotation.successor now) := by
    simp only [holds, retire, Table.update, List.any_map]
    refine congrArg keys.rows.any (funext fun row => ?_)
    simp only [Function.comp]
    split <;> rfl
  rw [succeed, ← same]
  simp only [register, absent, isSome_none, Bool.false_eq_true, if_false]
  rfl

theorem retire_eq_self_iff {signingKeyId : String} {retiredAt : Int} :
    keys.retire signingKeyId retiredAt = keys ↔
      ∀ row ∈ keys.find? signingKeyId, row.lifecycle.retiredAt = some retiredAt := by
  constructor
  · intro same row found
    have there := find?_retire keys signingKeyId retiredAt signingKeyId
    rw [same, found, map_some, if_pos rfl, Option.some.injEq] at there
    rw [there]
    rfl
  · intro still
    apply Table.update_eq_self
    intro row member selected
    have found := Table.find?_of_mem member
    rw [show Row.key row = signingKeyId from of_decide_eq_true selected] at found
    have retired := still row found
    obtain ⟨⟨record, retiredAt', revokedAt⟩, reason⟩ := row
    cases retired
    rfl

theorem changes_eq_false_iff (keys : SigningKeys) (rotation : KeyRotation) (now : Int) :
    rotation.changes now keys = false ↔ (keys.succeed rotation now).getD keys = keys := by
  unfold KeyRotation.changes
  cases taken : keys.find? rotation.successorKeyId with
  | some row =>
    rw [succeed_of_taken taken, getD_some, retire_eq_self_iff]
    cases keys.find? rotation.currentKeyId <;> simp
  | none =>
    cases held : keys.holds (rotation.successor now) with
    | true => simp [succeed_of_free taken, held]
    | false =>
      obtain ⟨after, written⟩ : ∃ after, keys.succeed rotation now = some after := by
        rw [succeed_of_free taken, held]
        exact ⟨_, rfl⟩
      -- The new row is not among the old ones.
      have there := find?_succeed written rotation.successorKeyId
      rw [taken, if_pos rfl] at there
      rw [written, getD_some]
      refine iff_of_false (by simp) ?_
      rintro rfl
      cases taken.symm.trans there

end SigningKeys

def RotationPhase.writes : RotationPhase → Option (KeyRotation × Int)
  | .checked rotation now _ => some (rotation, now)
  | _ => none

theorem RotationPhase.checked_of_writes {phase : RotationPhase} {rotation : KeyRotation} {now : Int}
    (writes : phase.writes = some (rotation, now)) : ∃ current, phase = .checked rotation now current := by
  cases phase with
  | idle | begun | fetched | finished => cases writes
  | checked _ _ current =>
    cases writes
    exact ⟨current, rfl⟩

namespace Rotations
variable {τ : Type} [DecidableEq τ]

structure Honest (s : Rotations τ) : Prop where
  registered : ∀ transaction rotation now, s.phase transaction = .finished rotation now (.answered .applied) →
    s.keys.Serves rotation
  /-- No two nodes are told so of one successor's id. -/
  apart : ∀ first second rotation other now later,
    s.phase first = .finished rotation now (.answered .applied) →
    s.phase second = .finished other later (.answered .applied) → rotation.successorKeyId = other.successorKeyId →
    rotation.tenantId = other.tenantId ∧ rotation.repositoryId = other.repositoryId ∧ rotation.nodeId = other.nodeId

def Atomic (entry : Entry (Rotations τ) (RotationOp τ)) : Prop :=
  entry.after.keys = entry.before.keys ∨ ∃ transaction rotation now,
    entry.op = .step transaction ∧ entry.after.phase transaction = .finished rotation now (.answered .applied)

/-- Nobody else has registered the successor's id when it is written. -/
def First (s : Rotations τ) : RotationOp τ → Prop
  | .step transaction => ∀ writing ∈ (s.phase transaction).writes, s.keys.Open writing.1
  | _ => True

def Heard (s : Rotations τ) : RotationOp τ → Prop
  | .commitUnheard transaction => ∀ writing ∈ (s.phase transaction).writes, writing.1.changes writing.2 s.keys = false
  | _ => True

instance (s : Rotations τ) : (op : RotationOp τ) → Decidable (s.First op)
  | .step transaction => inferInstanceAs (Decidable (∀ writing ∈ (s.phase transaction).writes, _))
  | .start _ _ _ | .fail _ | .commitUnheard _ => isTrue trivial

instance (s : Rotations τ) : (op : RotationOp τ) → Decidable (s.Heard op)
  | .commitUnheard transaction => inferInstanceAs (Decidable (∀ writing ∈ (s.phase transaction).writes, _))
  | .start _ _ _ | .fail _ | .step _ => isTrue trivial

variable {s : Rotations τ} {transaction : τ} {ending : RotationEnd}

omit [DecidableEq τ] in
theorem honest_iff (s : Rotations τ) : s.Honest ↔ ∀ transaction rotation now,
    s.phase transaction = .finished rotation now (.answered .applied) → s.keys.Serves rotation := by
  refine ⟨Honest.registered, fun registered => ⟨registered, ?_⟩⟩
  intro first second rotation other now later ended ended' same
  obtain ⟨row, found, named⟩ := registered first rotation now ended
  obtain ⟨row', found', named'⟩ := registered second other later ended'
  rw [← same, found] at found'
  cases found'
  exact ⟨named.tenantId.symm.trans named'.tenantId, named.repositoryId.symm.trans named'.repositoryId,
    named.nodeId.symm.trans named'.nodeId⟩

theorem apply_keys (platform : Platform) (s : Rotations τ) (op : RotationOp τ) : (s.apply platform op).keys = s.keys ∨
    ∃ transaction rotation now, (s.phase transaction).writes = some (rotation, now) ∧
      s.keys.succeed rotation now = some (s.apply platform op).keys ∧
      (op = .step transaction ∧ (s.apply platform op).phase transaction = .finished rotation now (.answered .applied) ∨
        op = .commitUnheard transaction) := by
  cases op with
  | start | fail =>
    left
    simp only [apply]
    split <;> rfl
  | commitUnheard transaction =>
    simp only [apply]
    split
    next rotation now current checked =>
      simp only [commit]
      split
      next keys succeeded => exact .inr ⟨transaction, rotation, now, by rw [checked]; rfl, succeeded, .inr rfl⟩
      next => exact .inl rfl
    next => exact .inl rfl
  | step transaction =>
    simp only [apply, step]
    split
    next => exact .inl rfl
    next => exact .inl rfl
    next =>
      left
      split
      next => rfl
      next => split <;> rfl
    next =>
      left
      split <;> rfl
    next rotation now current checked =>
      simp only [commit]
      split
      next keys succeeded =>
        exact .inr ⟨transaction, rotation, now, by rw [checked]; rfl, succeeded, .inl ⟨rfl, update_self ..⟩⟩
      next => exact .inl rfl

theorem apply_applied {platform : Platform} {op : RotationOp τ}
    (applied : (s.apply platform op).phase transaction = .finished rotation now (.answered .applied)) :
    s.phase transaction = .finished rotation now (.answered .applied) ∨
      op = .step transaction ∧ (s.phase transaction).writes = some (rotation, now) ∧
        s.keys.succeed rotation now = some (s.apply platform op).keys := by
  cases op with
  | start other started clock =>
    simp only [apply] at applied
    split at applied
    next =>
      exact .inl (updated_of_ne applied (by simp))
    next => exact .inl applied
  | fail other =>
    simp only [apply] at applied
    split at applied
    next =>
      exact .inl (updated_of_ne applied (by simp))
    next =>
      exact .inl (updated_of_ne applied (by simp))
    next =>
      exact .inl (updated_of_ne applied (by simp))
    next => exact .inl applied
    next => exact .inl applied
  | commitUnheard other =>
    simp only [apply] at applied
    split at applied
    next =>
      simp only [commit] at applied
      split at applied <;> rcases updated_cases applied with old | ⟨_, moved⟩ <;> first | exact .inl old | cases moved
    next => exact .inl applied
  | step other =>
    simp only [apply, step] at applied ⊢
    cases phase : s.phase other with
    | idle | finished =>
      simp only [phase] at applied
      exact .inl applied
    | begun started clock =>
      simp only [phase] at applied
      split at applied
      next =>
        exact .inl (updated_of_ne applied (by simp))
      next =>
        split at applied
        · exact .inl applied
        exact .inl (updated_of_ne applied (by simp))
    | fetched started clock current =>
      simp only [phase] at applied
      split at applied <;> rcases updated_cases applied with old | ⟨_, moved⟩ <;> first | exact .inl old | cases moved
    | checked started clock current =>
      simp only [phase] at applied ⊢
      simp only [commit] at applied ⊢
      split at applied
      next keys succeeded =>
        rcases updated_cases applied with old | ⟨rfl, moved⟩
        · exact .inl old
        cases moved
        refine .inr ⟨rfl, ?_, ?_⟩
        · rw [phase]
          rfl
        · simp only [succeeded]
          rfl
      next =>
        exact .inl (updated_of_ne applied (by simp))

theorem apply_honest {platform : Platform} (honest : s.Honest) (op : RotationOp τ) :
    (s.apply platform op).Honest ↔ s.First op := by
  constructor
  · intro kept
    cases op with
    | step transaction =>
      rintro ⟨rotation, now⟩ writes row taken
      obtain ⟨current, phase⟩ := RotationPhase.checked_of_writes writes
      -- With the id taken nothing stops the writes, and the answer is that they are applied.
      have succeeded : s.keys.succeed rotation now = _ := SigningKeys.succeed_of_taken taken
      have written : s.apply platform (.step transaction) = s.commit transaction rotation now (.answered .applied) := by
        simp only [apply, step, phase]
      rw [written] at kept
      simp only [commit, succeeded] at kept
      have serves := kept.registered transaction rotation now (update_self ..)
      exact (SigningKeys.serves_succeed_iff succeeded).mp serves row taken
    | _ => trivial
  · intro first
    rw [honest_iff]
    intro transaction rotation now applied
    rcases apply_applied applied with old | ⟨rfl, writes, succeeded⟩
    · have before := honest.registered transaction rotation now old
      rcases s.apply_keys platform op with same | ⟨_, _, _, _, succeeded, _⟩
      · rw [same]
        exact before
      · exact before.succeed succeeded
    · exact (SigningKeys.serves_succeed_iff succeeded).mpr (first _ writes)

theorem atomic_iff (platform : Platform) (s : Rotations τ) (op : RotationOp τ) :
    Atomic ⟨s, op, s.apply platform op⟩ ↔ s.Heard op := by
  constructor
  · intro atomic
    cases op with
    | commitUnheard transaction =>
      rintro ⟨rotation, now⟩ writes
      rw [SigningKeys.changes_eq_false_iff]
      obtain ⟨current, phase⟩ := RotationPhase.checked_of_writes writes
      rcases atomic with same | ⟨_, _, _, stepped, _⟩
      · simp only [apply, phase, commit] at same
        cases succeeded : s.keys.succeed rotation now with
        | none => rfl
        | some keys =>
          rw [succeeded] at same
          exact same
      · cases stepped
    | _ => trivial
  · intro heard
    rcases s.apply_keys platform op with same | ⟨transaction, rotation, now, writes, succeeded, ⟨rfl, ended⟩ | rfl⟩
    · exact .inl same
    · exact .inr ⟨transaction, rotation, now, rfl, ended⟩
    left
    have still := (SigningKeys.changes_eq_false_iff s.keys rotation now).mp (heard _ writes)
    rw [succeeded] at still
    exact still

/-- Every answer stays true and stands for what was done exactly as long as no successor's
id is taken by another between check and write, and every commit that changes a row is heard of. -/
theorem applied_means_registered {platform : Platform} {keys : SigningKeys}
    {history : List (Entry (Rotations τ) (RotationOp τ))} (run : (rotations τ platform keys).Run history s) :
    ((∀ seen ∈ (rotations τ platform keys).visited history, seen.Honest) ∧ ∀ entry ∈ history, Atomic entry) ↔
      ∀ entry ∈ history, entry.before.First entry.op ∧ entry.before.Heard entry.op := by
  have first := run.visited_good_iff Honest First ((honest_iff _).mpr fun _ _ _ finished => by cases finished)
    fun _ op honest => apply_honest honest op
  rw [forall₂_and, ← first]
  refine and_congr_right fun _ => forall₂_congr fun entry member => ?_
  obtain ⟨_, left⟩ := run.entry_good (fun _ => True) trivial (fun _ _ _ => trivial) member
  rw [← atomic_iff platform entry.before entry.op]
  unfold Atomic
  rw [left]
  rfl

/-! One statement after another is one rotation: what a transaction read stays as it was read. -/

/-- A transaction's own key is as it was read, and the checks have passed over what `first` had
of the successor. -/
def Reads (platform : Platform) (first keys : SigningKeys) : RotationPhase → Prop
  | .fetched rotation _ current => ∃ row, keys.find? rotation.currentKeyId = some row ∧ row.lifecycle = current
  | .checked rotation now current => (∃ row, keys.find? rotation.currentKeyId = some row ∧ row.lifecycle = current) ∧
      checkRotation platform rotation now current (first.keyExists rotation.successorKeyId) = .ok ()
  | _ => True

structure Sound (platform : Platform) (first : SigningKeys) (s : Rotations τ) : Prop where
  held : ∀ transaction signingKeyId, (s.phase transaction).holding = some signingKeyId →
    s.locks signingKeyId = some transaction
  reads : ∀ transaction, Reads platform first s.keys (s.phase transaction)
  known : ∀ signingKeyId, first.keyExists signingKeyId = true → s.keys.keyExists signingKeyId = true

variable {platform : Platform} {first : SigningKeys}

theorem Reads.succeed {phase : RotationPhase} {keys after : SigningKeys} (reads : Reads platform first keys phase)
    (succeeded : keys.succeed rotation now = some after) (apart : phase.holding ≠ some rotation.currentKeyId) :
    Reads platform first after phase := by
  have stays {other : KeyRotation} {current : SigningKeyLifecycle} (elsewhere : other.currentKeyId ≠ rotation.currentKeyId)
      (read : ∃ row, keys.find? other.currentKeyId = some row ∧ row.lifecycle = current) :
      ∃ row, after.find? other.currentKeyId = some row ∧ row.lifecycle = current := by
    obtain ⟨row, found, same⟩ := read
    refine ⟨row, ?_, same⟩
    rw [SigningKeys.find?_succeed succeeded, found]
    simp only [map_some, if_neg elsewhere, getD_some, ite_self]
  cases phase with
  | idle | begun | finished => trivial
  | fetched other clock current => exact stays (fun same => apart (congrArg some same)) reads
  | checked other clock current => exact ⟨stays (fun same => apart (congrArg some same)) reads.1, reads.2⟩

section
variable (sound : s.Sound platform first)
include sound

theorem Sound.moved {after : Rotations τ}
    (others : ∀ other, other ≠ transaction → after.phase other = s.phase other)
    (locks : ∀ other signingKeyId, other ≠ transaction → s.locks signingKeyId = some other →
      after.locks signingKeyId = some other)
    (holds : ∀ signingKeyId, (after.phase transaction).holding = some signingKeyId →
      after.locks signingKeyId = some transaction)
    (own : Reads platform first after.keys (after.phase transaction))
    (rest : ∀ other, other ≠ transaction → Reads platform first after.keys (s.phase other))
    (known : ∀ signingKeyId, s.keys.keyExists signingKeyId = true → after.keys.keyExists signingKeyId = true) :
    after.Sound platform first where
  held := by
    intro other signingKeyId held
    by_cases same : other = transaction
    · subst same
      exact holds signingKeyId held
    · rw [others other same] at held
      exact locks other signingKeyId same (sound.held other signingKeyId held)
  reads := by
    intro other
    by_cases same : other = transaction
    · subst same
      exact own
    · rw [others other same]
      exact rest other same
  known signingKeyId before := known signingKeyId (sound.known signingKeyId before)

theorem Sound.moveTo {phase : RotationPhase}
    (holding : phase.holding = (s.phase transaction).holding) (reads : Reads platform first s.keys phase) :
    (s.moveTo transaction phase).Sound platform first := by
  have here : (s.moveTo transaction phase).phase transaction = phase := update_self ..
  refine sound.moved (fun other apart => update_of_ne apart ..) (fun _ _ _ locked => locked) ?_ ?_
    (fun other _ => sound.reads other) fun _ before => before
  · intro signingKeyId held
    rw [here, holding] at held
    exact sound.held transaction signingKeyId held
  · rw [here]
    exact reads

theorem Sound.finish (keys : SigningKeys)
    (own : ∀ signingKeyId, (s.phase transaction).holding = some signingKeyId → signingKeyId = rotation.currentKeyId)
    (rest : ∀ other, other ≠ transaction → Reads platform first keys (s.phase other))
    (known : ∀ signingKeyId, s.keys.keyExists signingKeyId = true → keys.keyExists signingKeyId = true) :
    (({ s with keys } : Rotations τ).finish transaction rotation now ending).Sound platform first := by
  have here : (({ s with keys } : Rotations τ).finish transaction rotation now ending).phase transaction =
    .finished rotation now ending := update_self ..
  refine sound.moved (fun other apart => update_of_ne apart ..) ?_ ?_ ?_ rest known
  · intro other signingKeyId apart locked
    simp only [Rotations.finish]
    split
    next holding =>
      obtain ⟨mine, held⟩ := isSome_iff_exists.mp holding
      have elsewhere : signingKeyId ≠ rotation.currentKeyId := by
        rintro rfl
        rw [own mine held] at held
        rw [sound.held transaction _ held] at locked
        exact apart (Option.some.inj locked).symm
      rw [update_of_ne elsewhere]
      exact locked
    next => exact locked
  · intro signingKeyId held
    rw [here] at held
    cases held
  · rw [here]
    trivial

theorem Sound.finish_unchanged
    (own : ∀ signingKeyId, (s.phase transaction).holding = some signingKeyId → signingKeyId = rotation.currentKeyId) :
    (s.finish transaction rotation now ending).Sound platform first :=
  sound.finish s.keys own (fun other _ => sound.reads other) fun _ before => before

theorem Sound.commit {current : SigningKeyLifecycle}
    (checked : s.phase transaction = .checked rotation now current) :
    (s.commit transaction rotation now ending).Sound platform first := by
  have holding : (s.phase transaction).holding = some rotation.currentKeyId := by
    rw [checked]
    rfl
  have own : ∀ signingKeyId, (s.phase transaction).holding = some signingKeyId → signingKeyId = rotation.currentKeyId := by
    intro signingKeyId held
    rw [holding] at held
    exact (Option.some.inj held).symm
  simp only [Rotations.commit]
  split
  next keys succeeded =>
    refine sound.finish keys own ?_ ?_
    · intro other apart
      apply (sound.reads other).succeed succeeded
      intro same
      have locked := sound.held other _ same
      rw [sound.held transaction _ holding] at locked
      exact apart (Option.some.inj locked).symm
    · intro signingKeyId before
      obtain ⟨row, found⟩ := isSome_iff_exists.mp before
      obtain ⟨later, there, _⟩ := SigningKeys.succeed_keeps succeeded found
      exact isSome_iff_exists.mpr ⟨later, there⟩
  next => exact sound.finish_unchanged own

theorem Sound.step (transaction : τ) : (s.step platform transaction).Sound platform first := by
  unfold Rotations.step
  cases phase : s.phase transaction with
  | idle | finished => exact sound
  | begun rotation now =>
    have own : ∀ signingKeyId, (s.phase transaction).holding = some signingKeyId → signingKeyId = rotation.currentKeyId := by
      intro signingKeyId held
      rw [phase] at held
      cases held
    simp only
    split
    · exact sound.finish_unchanged own
    rename_i row found
    split
    · exact sound
    rename_i free
    refine sound.moved (fun other apart => update_of_ne apart ..) ?_ ?_ ?_ (fun other _ => sound.reads other)
      fun _ before => before
    · intro other signingKeyId _ locked
      have elsewhere : signingKeyId ≠ rotation.currentKeyId := by
        rintro rfl
        cases free.symm.trans locked
      exact (update_of_ne elsewhere ..).trans locked
    · intro signingKeyId held
      rw [show Rotations.phase _ transaction = _ from update_self ..] at held
      cases held
      exact update_self ..
    · rw [show Rotations.phase _ transaction = _ from update_self ..]
      exact ⟨row, found, rfl⟩
  | fetched rotation now current =>
    simp only
    split
    next =>
      refine sound.finish_unchanged fun signingKeyId held => ?_
      rw [phase] at held
      exact (Option.some.inj held).symm
    next passed =>
      refine sound.moveTo (by rw [phase]; rfl) ?_
      have reads := sound.reads transaction
      rw [phase] at reads
      refine ⟨reads, ?_⟩
      -- The registry only grows: what is free now was free at first.
      have free := (checkRotation_ok passed).2.1
      have absent : first.keyExists rotation.successorKeyId = false := by
        rw [Bool.eq_false_iff]
        intro there
        rw [sound.known _ there] at free
        cases free
      rw [absent, ← free]
      exact passed
  | checked rotation now current => exact sound.commit phase

theorem Sound.apply (op : RotationOp τ) : (s.apply platform op).Sound platform first := by
  cases op with
  | start transaction rotation now =>
    simp only [Rotations.apply]
    split
    next idle => exact sound.moveTo (by rw [idle]; rfl) trivial
    next => exact sound
  | step transaction => exact sound.step transaction
  | fail transaction =>
    simp only [Rotations.apply]
    split
    next phase =>
      refine sound.finish_unchanged fun signingKeyId held => ?_
      rw [phase] at held
      cases held
    next phase =>
      refine sound.finish_unchanged fun signingKeyId held => ?_
      rw [phase] at held
      exact (Option.some.inj held).symm
    next phase =>
      refine sound.finish_unchanged fun signingKeyId held => ?_
      rw [phase] at held
      exact (Option.some.inj held).symm
    next => exact sound
    next => exact sound
  | commitUnheard transaction =>
    simp only [Rotations.apply]
    split
    next checked => exact sound.commit checked
    next => exact sound

end

theorem sound_of_run {keys : SigningKeys} {history : List (Entry (Rotations τ) (RotationOp τ))}
    (run : (rotations τ platform keys).Run history s) : s.Sound platform keys := by
  refine run.invariant (·.Sound platform keys) ⟨?_, fun _ => trivial, fun _ there => there⟩ fun _ op before => before.apply op
  intro transaction signingKeyId held
  cases held

end Rotations

theorem rotations_replay (platform : Platform) (keys : SigningKeys) (ops : List (Rotations Bool → RotationOp Bool)) :
    (rotations Bool platform keys).Replays ops :=
  Machine.replay_run fun _ _ _ _ _ => trivial

def rotating (transaction : Bool) (rotation : KeyRotation) : Rotations Bool → RotationOp Bool :=
  fun _ => .start transaction rotation (seconds 60)

def continuing (transaction : Bool) : Rotations Bool → RotationOp Bool := fun _ => .step transaction

/-- One rotation to its end, then another node's to the same id. -/
def rotatedInTurn : List (Rotations Bool → RotationOp Bool) :=
  List.replicate 3 (continuing false) ++ rotating false rotationOfB ::
    (List.replicate 3 (continuing true) ++ [rotating true rotationOfA])

theorem applied_means_registered_in_turn :
    (∀ seen ∈ (rotations Bool signingPlatform.toPlatform nodeKeys).visited
        ((rotations Bool signingPlatform.toPlatform nodeKeys).replay rotatedInTurn).1, seen.Honest) ∧
      ∀ entry ∈ ((rotations Bool signingPlatform.toPlatform nodeKeys).replay rotatedInTurn).1, Rotations.Atomic entry :=
  (Rotations.applied_means_registered (rotations_replay _ _ rotatedInTurn)).mpr (by decide +kernel)

def rotatedTogether : List (Rotations Bool → RotationOp Bool) :=
  [continuing false, continuing true, continuing false, continuing true, continuing false, continuing true,
    rotating false rotationOfB, rotating true rotationOfA]

theorem shared_successor_serves_one :
    ¬∀ history (s : Rotations Bool), (rotations Bool signingPlatform.toPlatform nodeKeys).Run history s →
      (∀ seen ∈ (rotations Bool signingPlatform.toPlatform nodeKeys).visited history, seen.Honest) ∧
        ∀ entry ∈ history, Rotations.Atomic entry := by
  intro always
  have run := rotations_replay signingPlatform.toPlatform nodeKeys rotatedTogether
  have honest := (always _ _ run).1 _ run.current_visited
  have apart : _ ∧ _ → _ := fun wrote => honest.apart true false rotationOfA rotationOfB (seconds 60) (seconds 60) wrote.1 wrote.2 rfl
  exact absurd (apart (by decide +kernel)).2.2 (by decide)

end MindLeak.Ackplane
