import MindLeak.Ackplane.Connection

/-! What one record of a batch does to the world, whatever else goes on in it. -/

namespace MindLeak.Ackplane

open List

variable {world after : World}

namespace World

def Revoked (world : World) (signingKeyId : String) : Prop :=
  ∃ row ∈ world.keys.rows, row.lifecycle.record.signingKeyId = signingKeyId ∧ row.lifecycle.revokedAt.isSome

instance (world : World) (signingKeyId : String) : Decidable (world.Revoked signingKeyId) :=
  inferInstanceAs (Decidable (∃ row ∈ world.keys.rows, _))

/-- Records are only ever added, the stream's own account of them too, and no
revocation is taken back. -/
structure Grows (before after : World) : Prop where
  records : ∀ row ∈ before.ledger.records.rows, row ∈ after.ledger.records.rows
  appended : before.appended <+: after.appended
  revoked : ∀ signingKeyId, before.Revoked signingKeyId → after.Revoked signingKeyId

theorem Grows.refl (world : World) : world.Grows world := ⟨fun _ member => member, prefix_rfl, fun _ revoked => revoked⟩

theorem Grows.trans {first middle last : World} (early : first.Grows middle) (late : middle.Grows last) :
    first.Grows last :=
  ⟨fun row member => late.records row (early.records row member), early.appended.trans late.appended,
    fun signingKeyId revoked => late.revoked signingKeyId (early.revoked signingKeyId revoked)⟩

theorem revoked_update {before : World} (selects : SigningKeyRow → Bool) (set : SigningKeyRow → SigningKeyRow)
    (keeps : ∀ row, Row.key (set row) = Row.key row)
    (named : ∀ row, (set row).lifecycle.record = row.lifecycle.record)
    (kept : ∀ row, row.lifecycle.revokedAt.isSome → (set row).lifecycle.revokedAt.isSome) {signingKeyId : String}
    (revoked : before.Revoked signingKeyId) :
    ({ before with keys := before.keys.update selects set keeps } : World).Revoked signingKeyId := by
  obtain ⟨row, member, same, gone⟩ := revoked
  refine ⟨if selects row then set row else row, mem_map.mpr ⟨row, member, rfl⟩, ?_, ?_⟩
  · split
    · rw [named row, same]
    · exact same
  · split
    · exact kept row gone
    · exact gone

theorem register_grows (world : World) (record : SigningKeyRecord) : world.Grows (world.perform (.register record)) := by
  refine ⟨fun _ member => member, prefix_rfl, ?_⟩
  rintro signingKeyId ⟨row, member, revoked⟩
  refine ⟨row, ?_, revoked⟩
  simp only [perform, SigningKeys.register]
  split
  · exact member
  split
  next => exact member
  next => exact Table.insertOrIgnore_keeps member

theorem retire_grows (world : World) (signingKeyId : String) (retiredAt : Int) :
    world.Grows (world.perform (.retire signingKeyId retiredAt)) :=
  ⟨fun _ member => member, prefix_rfl, fun _ =>
    revoked_update (fun row => decide (row.lifecycle.record.signingKeyId = signingKeyId))
      (fun row => { row with lifecycle := { row.lifecycle with retiredAt := some retiredAt } }) (fun _ => rfl)
      (fun _ => rfl) fun _ gone => gone⟩

theorem revoke_grows (world : World) (revocation : KeyRevocation) (revokedAt : Int) :
    world.Grows (world.perform (.revoke revocation revokedAt)) :=
  ⟨fun _ member => member, prefix_rfl, fun _ =>
    revoked_update
      (fun row => decide (row.lifecycle.record.signingKeyId = revocation.signingKeyId) && row.lifecycle.revokedAt.isNone)
      (fun row =>
        { row with
          lifecycle := { row.lifecycle with revokedAt := some revokedAt }
          revocationReason := some revocation.reason }) (fun _ => rfl) (fun _ => rfl) fun _ _ => rfl⟩

theorem Grows.holds {before after : World} (grows : before.Grows after) {envelope : EventEnvelope}
    (held : before.ledger.Holds envelope) : after.ledger.Holds envelope := by
  obtain ⟨row, member, same⟩ := held
  exact ⟨row, grows.records row member, same⟩

theorem perform_grows (world : World) (action : Outside) :
    world.Grows (world.perform action) ∧ (world.perform action).appended = world.appended := by
  cases action with
  | append envelope =>
    simp only [perform]
    split
    next outcome ledger appended =>
      exact ⟨⟨fun row => LedgerStore.append_keeps appended, prefix_rfl, fun _ revoked => revoked⟩, rfl⟩
    next => exact ⟨.refl world, rfl⟩
  | register record => exact ⟨world.register_grows record, rfl⟩
  | retire signingKeyId retiredAt => exact ⟨world.retire_grows signingKeyId retiredAt, rfl⟩
  | revoke revocation revokedAt => exact ⟨world.revoke_grows revocation revokedAt, rfl⟩

theorem turned_grows (world : World) : world.Grows world.turned ∧ world.turned.appended = world.appended := by
  have others (actions : List Outside) (start : World) :
      start.Grows (actions.foldl perform start) ∧ (actions.foldl perform start).appended = start.appended := by
    induction actions generalizing start with
    | nil => exact ⟨.refl start, rfl⟩
    | cons action rest ih =>
      obtain ⟨first, kept⟩ := start.perform_grows action
      obtain ⟨later, same⟩ := ih (start.perform action)
      exact ⟨first.trans later, same.trans kept⟩
  obtain ⟨grows, same⟩ := others world.next.others world
  exact ⟨⟨grows.records, grows.appended, grows.revoked⟩, same⟩

@[simp] theorem turned_appended (world : World) : world.turned.appended = world.appended := world.turned_grows.2

def asked (world : World) : World := world.turned.turned

@[simp] theorem asked_appended (world : World) : world.asked.appended = world.appended := by simp [asked]

theorem asked_grows (world : World) : world.Grows world.asked :=
  world.turned_grows.1.trans world.turned.turned_grows.1

/-- What the registry answers for a key, as of the moment before it is asked. -/
def resolution (world : World) (signingKeyId : String) (identity : Identity) : Except SigningKeyError KeyResolution :=
  if world.turned.next.fault.isSome then .error .database
  else .ok (world.asked.keys.resolve (.of signingKeyId identity world.next.clock))

theorem lookup_eq (world : World) (signingKeyId : String) (identity : Identity) :
    lookup ports signingKeyId identity world = (world.resolution signingKeyId identity, world.asked) := rfl

theorem ports_append (envelope : EventEnvelope) (world : World) : ports.append envelope world = world.append envelope := rfl

def Takes (world : World) (envelope : EventEnvelope) : Prop :=
  world.next.fault ≠ some .refused ∧ ∃ position ledger, world.turned.ledger.append envelope = .ok (.accepted position, ledger)

theorem append_cases (world : World) (envelope : EventEnvelope) :
    ((world.append envelope).2 = world.turned ∧ (∃ error, (world.append envelope).1 = .error error) ∧
        (world.next.fault ≠ some .refused → ∃ error, world.turned.ledger.append envelope = .error error)) ∨
      world.next.fault ≠ some .refused ∧ ∃ outcome ledger,
        world.turned.ledger.append envelope = .ok (outcome, ledger) ∧
        (world.append envelope).2 = { world.turned with
            ledger
            appended := world.appended ++ (if outcome.disposition = .accepted then [envelope] else []) } ∧
        (world.append envelope).1 = if world.next.fault = some .unanswered then .error .database else .ok outcome := by
  simp only [append]
  split
  next refused => exact .inl ⟨rfl, ⟨_, rfl⟩, fun answering => absurd refused answering⟩
  rename_i answering
  split
  next error failed => exact .inl ⟨rfl, ⟨_, rfl⟩, fun _ => ⟨error, failed⟩⟩
  rename_i outcome ledger done
  refine .inr ⟨answering, outcome, ledger, done, ?_, rfl⟩
  cases outcome <;> simp [AppendOutcome.disposition]

theorem append_grows (world : World) (envelope : EventEnvelope) : world.Grows (world.append envelope).2 := by
  rcases world.append_cases envelope with ⟨same, _⟩ | ⟨_, outcome, ledger, done, written, _⟩
  · rw [same]
    exact world.turned_grows.1
  · rw [written]
    exact ⟨fun row member => LedgerStore.append_keeps done (world.turned_grows.1.records row member),
      prefix_append _ _, world.turned_grows.1.revoked⟩

end World

/-- A record that gets as far as the ledger: it translates, and what it carries stands
under what the registry says of its key. -/
structure Admits (platform : Platform) (wire : V1.EventEnvelope) (world : World) (envelope : EventEnvelope) : Prop where
  translated : translate platform wire = .ok envelope
  verified : ∃ resolution, world.resolution wire.signingKeyId envelope.key.identity = .ok resolution ∧
    verify platform wire envelope.provenance resolution = .ok ()

def RefusedAsRevoked (platform : Platform) (wire : V1.EventEnvelope) (world : World) : Prop :=
  ∃ envelope resolution, translate platform wire = .ok envelope ∧
    world.resolution wire.signingKeyId envelope.key.identity = .ok resolution ∧
    verify platform wire envelope.provenance resolution = .error .revoked

section
variable {platform : Platform} {wire : V1.EventEnvelope} {envelope : EventEnvelope}

section
variable (admitted : Admits platform wire world envelope)
include admitted

theorem acceptEvent_admitted :
    acceptEvent World.ports platform wire world = match world.asked.append envelope with
      | (.ok outcome, after) => (.ok (receipt envelope.key outcome), after)
      | (.error error, after) => (.error (rejection envelope.key error), after) := by
  obtain ⟨resolution, resolved, stands⟩ := admitted.verified
  simp only [acceptEvent, admitted.translated, World.lookup_eq, resolved, stands, World.ports_append]
  cases world.asked.append envelope with
  | mk answer after => cases answer <;> rfl

theorem acceptEvent_answered {outcome : AppendOutcome}
    (answered : world.asked.append envelope = (.ok outcome, after)) :
    acceptEvent World.ports platform wire world = (.ok (receipt envelope.key outcome), after) := by
  rw [acceptEvent_admitted admitted, answered]

theorem acceptEvent_failed {error : AppendError}
    (failed : world.asked.append envelope = (.error error, after)) :
    acceptEvent World.ports platform wire world = (.error (rejection envelope.key error), after) := by
  rw [acceptEvent_admitted admitted, failed]

end

theorem acceptEvent_refused (refused : ∀ envelope, ¬Admits platform wire world envelope) :
    ∃ rejection after, acceptEvent World.ports platform wire world = (.error rejection, after) ∧
      (after = world ∧ (∃ malformed, translate platform wire = .error malformed) ∨
        after = world.asked ∧ ∃ envelope, translate platform wire = .ok envelope) ∧
      (rejection.reason = .nodeRevoked ↔ RefusedAsRevoked platform wire world) := by
  unfold acceptEvent
  split
  next rejection bad =>
    refine ⟨rejection, world, rfl, .inl ⟨rfl, rejection, bad⟩, ?_⟩
    rw [(translate_error bad).1]
    constructor
    · intro same
      cases same
    · rintro ⟨envelope, _, translated, _⟩
      cases bad.symm.trans translated
  next envelope translated =>
    simp only [World.lookup_eq]
    cases resolved : world.resolution wire.signingKeyId envelope.key.identity with
    | error fault =>
      refine ⟨_, world.asked, rfl, .inr ⟨rfl, envelope, translated⟩, ?_⟩
      constructor
      · intro same
        cases same
      · rintro ⟨other, _, translated', resolved', _⟩
        cases translated.symm.trans translated'
        cases resolved.symm.trans resolved'
    | ok resolution =>
      cases stands : verify platform wire envelope.provenance resolution with
      | ok => exact absurd ⟨translated, resolution, resolved, stands⟩ (refused envelope)
      | error refusal =>
        refine ⟨unauthenticated envelope.key refusal, world.asked, by simp only [stands],
          .inr ⟨rfl, envelope, translated⟩, ?_⟩
        rw [unauthenticated, SignatureRefusal.reason_nodeRevoked]
        constructor
        · rintro rfl
          exact ⟨envelope, resolution, translated, resolved, stands⟩
        · rintro ⟨other, _, translated', resolved', stands'⟩
          cases translated.symm.trans translated'
          cases resolved.symm.trans resolved'
          rw [stands] at stands'
          exact Except.error.inj stands'

theorem acceptEvent_world (admitted : Admits platform wire world envelope) :
    (acceptEvent World.ports platform wire world).2 = (world.asked.append envelope).2 := by
  rw [acceptEvent_admitted admitted]
  cases world.asked.append envelope with
  | mk answer after => cases answer <;> rfl

theorem acceptEvent_grows (platform : Platform) (wire : V1.EventEnvelope) (world : World) :
    world.Grows (acceptEvent World.ports platform wire world).2 := by
  by_cases possible : ∃ envelope, Admits platform wire world envelope
  · obtain ⟨envelope, admitted⟩ := possible
    rw [acceptEvent_world admitted]
    exact world.asked_grows.trans (world.asked.append_grows envelope)
  · obtain ⟨_, after, did, left, _⟩ := acceptEvent_refused (not_exists.mp possible)
    rw [did]
    rcases left with ⟨rfl, _⟩ | ⟨rfl, _⟩
    · exact .refl _
    · exact world.asked_grows

theorem process_grows (platform : Platform) (events : List V1.EventEnvelope) (receipts : List V1.RecordReceipt)
    (world : World) : world.Grows (Batch.process (acceptEvent World.ports platform) events receipts world).2 :=
  Batch.process_keeps world.Grows (fun wire found grown => grown.trans (acceptEvent_grows platform wire found)) (.refl world)

end

end MindLeak.Ackplane
