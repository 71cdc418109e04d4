import MindLeak.Proofs.Enrollments

/-! What becomes of an activated request. Nothing but its expiry can change it, and an
exact replay reads its receipt and its key from what the activation left. -/

namespace MindLeak.Ackplane

open List Table

def AuthorityOp.Replays (activation : EnrollmentActivation) (op : AuthorityOp) : Prop :=
  ∃ receiptId keyId clock, op = .activate activation receiptId keyId clock

variable {record : SigningKeyRecord}

namespace SigningKeys

def Joins (row : EnrollmentRequest) (now : Int) (record : SigningKeyRecord) : Prop :=
  record.tenantId = row.key.tenantId ∧ record.repositoryId = row.key.repositoryId ∧ record.nodeId = row.proposedNodeId ∧
    record.publicKeyFingerprint = row.publicKeyFingerprint ∧ record.activatedAt = now ∧ record.publicKey = row.publicKey

instance (row : EnrollmentRequest) (now : Int) (record : SigningKeyRecord) : Decidable (Joins row now record) :=
  inferInstanceAs (Decidable (_ ∧ _))

def bindingOf (row : SigningKeyRow) : String × String × String × String × Int :=
  let record := row.lifecycle.record
  (record.tenantId, record.repositoryId, record.nodeId, record.publicKeyFingerprint, record.activatedAt)

/-- No two rows give one node one fingerprint from one moment on. -/
def Distinct (keys : SigningKeys) : Prop := (keys.rows.map bindingOf).Nodup

variable {keys after : SigningKeys}

theorem Distinct.register (distinct : keys.Distinct) (registered : keys.register record = some after) : after.Distinct := by
  unfold SigningKeys.register at registered
  split at registered
  next =>
    cases registered
    exact distinct
  next =>
    obtain ⟨free, registered⟩ := else_of_ne registered (by simp)
    cases registered
    unfold Table.insertOrIgnore
    cases inserted : keys.insert? ⟨⟨record, none, none⟩, none⟩ with
    | none => exact distinct
    | some written =>
      unfold Distinct
      rw [Option.getD_some, (Table.insert?_rows inserted).1, map_append, map_singleton]
      refine List.Nodup.append distinct (nodup_singleton _) ?_
      intro binding listed single
      rw [mem_singleton] at single
      obtain ⟨row, member, same⟩ := mem_map.mp listed
      rw [single] at same
      simp only [bindingOf, Prod.mk.injEq] at same
      apply free
      rw [any_eq_true]
      exact ⟨row, member, by simp [same]⟩

theorem Distinct.retire (distinct : keys.Distinct) (signingKeyId : String) (retiredAt : Int) :
    (keys.retire signingKeyId retiredAt).Distinct := by
  have same : (keys.retire signingKeyId retiredAt).rows.map bindingOf = keys.rows.map bindingOf := by
    simp only [SigningKeys.retire, Table.update, map_map]
    refine map_congr_left fun row _ => ?_
    simp only [Function.comp]
    split <;> rfl
  unfold Distinct
  rw [same]
  exact distinct

theorem rotateKey_keys (platform : Platform) (rotation : KeyRotation) (now : Int) (seen keys : SigningKeys) :
    (seen.rotateKey platform rotation now keys).2 = keys ∨
      keys.succeed rotation now = some (seen.rotateKey platform rotation now keys).2 := by
  unfold rotateKey
  split
  · exact .inl rfl
  split
  · exact .inl rfl
  split
  next succeeded => exact .inr succeeded
  next => exact .inl rfl

end SigningKeys

variable {platform : EnrollmentPlatform} {row : EnrollmentRequest} {now : Int}

namespace EnrollmentStore
variable {s : EnrollmentStore} {receipt : EnrollmentReceipt} {held : SigningKeyRow}

def receiptOf (row : EnrollmentRequest) (enrollmentReceiptId : String) (now : Int) : EnrollmentReceipt :=
  ⟨enrollmentReceiptId, row.key, row.proposedNodeId, row.publicKeyFingerprint, now⟩

def joins (key : RequestKey) (publicKey : Bytes) (receipt : EnrollmentReceipt) (held : SigningKeyRow) : Bool :=
  let record := held.lifecycle.record
  decide (receipt.key = key) && decide (record.tenantId = receipt.key.tenantId) &&
    decide (record.repositoryId = receipt.key.repositoryId) && decide (record.nodeId = receipt.proposedNodeId) &&
    decide (record.publicKeyFingerprint = receipt.publicKeyFingerprint) &&
    decide (record.activatedAt = receipt.activatedAt) && decide (record.publicKey = publicKey)

theorem joins_iff {enrollmentReceiptId : String} :
    joins row.key row.publicKey (receiptOf row enrollmentReceiptId now) held = true ↔
      SigningKeys.Joins row now held.lifecycle.record := by
  simp only [joins, Bool.and_eq_true, decide_eq_true_eq, and_assoc]
  exact and_iff_right rfl

theorem original_pairs : s.original row.key row.publicKey =
    match (s.receipts.rows.flatMap fun receipt => (s.keys.rows.filter (joins row.key row.publicKey receipt)).map
      fun held => (receipt.enrollmentReceiptId, held.lifecycle.record.signingKeyId)) with
    | [pair] => some pair
    | _ => none := rfl

theorem original_eq (receipts : (s.receipts.rows.map EnrollmentReceipt.key).Nodup) {enrollmentReceiptId : String}
    (member : receiptOf row enrollmentReceiptId now ∈ s.receipts.rows) : s.original row.key row.publicKey =
      match s.keys.rows.filter (joins row.key row.publicKey (receiptOf row enrollmentReceiptId now)) with
      | [held] => some (enrollmentReceiptId, held.lifecycle.record.signingKeyId)
      | _ => none := by
  have pairs : (s.receipts.rows.flatMap fun receipt => (s.keys.rows.filter (joins row.key row.publicKey receipt)).map
      fun held => (receipt.enrollmentReceiptId, held.lifecycle.record.signingKeyId)) =
      (s.keys.rows.filter (joins row.key row.publicKey (receiptOf row enrollmentReceiptId now))).map
        fun held => (enrollmentReceiptId, held.lifecycle.record.signingKeyId) := by
    refine s.receipts.flatMap_of_alone member fun other inside differs => ?_
    have elsewhere : other.key ≠ row.key := fun same => differs (inj_on_of_nodup_map receipts inside member same)
    have none : s.keys.rows.filter (joins row.key row.publicKey other) = [] := by simp [joins, elsewhere]
    rw [none, map_nil]
  rw [original_pairs, pairs]
  rcases s.keys.rows.filter (joins row.key row.publicKey (receiptOf row enrollmentReceiptId now)) with _ | ⟨first, _ | _⟩ <;> rfl

theorem original_iff (receipts : (s.receipts.rows.map EnrollmentReceipt.key).Nodup) {enrollmentReceiptId signingKeyId : String}
    (member : receiptOf row enrollmentReceiptId now ∈ s.receipts.rows) (distinct : s.keys.Distinct)
    (found : s.keys.find? signingKeyId = some held) :
    s.original row.key row.publicKey = some (enrollmentReceiptId, signingKeyId) ↔
      SigningKeys.Joins row now held.lifecycle.record := by
  obtain ⟨inside, named⟩ := mem_of_find? found
  rw [original_eq receipts member]
  constructor
  · intro answered
    split at answered
    on_goal 2 => cases answered
    rename_i other only
    have there : other ∈ s.keys.rows.filter (joins row.key row.publicKey (receiptOf row enrollmentReceiptId now)) := by
      rw [only]
      exact mem_singleton_self other
    obtain ⟨inside', passes⟩ := mem_filter.mp there
    have found' := Table.find?_of_mem inside'
    rw [show Row.key other = signingKeyId from congrArg Prod.snd (Option.some.inj answered), found] at found'
    cases found'
    exact joins_iff.mp passes
  · intro own
    have alone : s.keys.rows.filter (joins row.key row.publicKey (receiptOf row enrollmentReceiptId now)) = [held] := by
      refine s.keys.filter_of_alone inside fun other inside' => ?_
      constructor
      · intro passes
        have own' := joins_iff.mp passes
        apply inj_on_of_nodup_map distinct inside' inside
        simp only [SigningKeys.bindingOf, own.1, own.2.1, own.2.2.1, own.2.2.2.1, own.2.2.2.2.1, own'.1, own'.2.1, own'.2.2.1,
          own'.2.2.2.1, own'.2.2.2.2.1]
      · rintro rfl
        exact joins_iff.mpr own
    rw [alone]
    exact congrArg some (congrArg (Prod.mk enrollmentReceiptId) named)

theorem activate_replayed {activation : EnrollmentActivation} {challenge : ActivationChallenge}
    (found : s.requests.find? activation.request.key = some row) (binding : validateBinding activation.request row = true)
    (timely : ¬row.expiresAt < now) (stored : s.challenges.find? activation.request.key = some challenge)
    (proven : ¬(challenge.nonce ≠ activation.nonce ∨ verifyActivationProof platform.toPlatform row.publicKey
      activation.signature activation.nonce activation.request = false))
    (activating : row.state = .activating) (consumed : challenge.consumedAt.isSome = true) (enrollmentReceiptId signingKeyId : String) :
    (s.activate platform activation enrollmentReceiptId signingKeyId now).1 =
      match s.original activation.request.key row.publicKey with
      | some (receiptId, keyId) => .ok ⟨activation.request.requestId, row.state, receiptId, keyId⟩
      | none => .error .database := by
  simp only [activate, found, binding, Bool.not_true, Bool.false_eq_true, if_false, if_neg timely, stored]
  rw [if_neg proven, if_pos ⟨activating, consumed⟩]
  cases s.original activation.request.key row.publicKey <;> rfl

variable {after : EnrollmentStore} {op : AuthorityOp}

section
variable (change : Change platform s op after)
include change

theorem Change.keys : after.keys = s.keys ∨
    (∃ record, s.keys.register record = some after.keys) ∨ ∃ rotation now, s.keys.succeed rotation now = some after.keys := by
  cases change with
  | same | submitted | expired | approved | challenged => exact .inl rfl
  | activated admits enrolled => exact .inr (.inl ⟨_, (enroll_eq_some enrolled).2.2.2.2⟩)
  | @rotated rotation now seen =>
    rcases SigningKeys.rotateKey_keys platform.toPlatform rotation now seen s.keys with same | succeeded
    · exact .inl same
    · exact .inr (.inr ⟨rotation, now, succeeded⟩)

theorem Change.distinct (distinct : s.keys.Distinct) : after.keys.Distinct := by
  rcases change.keys with same | ⟨record, registered⟩ | ⟨rotation, now, succeeded⟩
  · rw [same]
    exact distinct
  · exact distinct.register registered
  · exact (distinct.retire _ _).register succeeded

theorem Change.key {signingKeyId : String} (found : s.keys.find? signingKeyId = some held) :
    ∃ later, after.keys.find? signingKeyId = some later ∧ later.lifecycle.record = held.lifecycle.record := by
  rcases change.keys with same | ⟨record, registered⟩ | ⟨rotation, now, succeeded⟩
  · exact ⟨held, by rw [same]; exact found, rfl⟩
  · refine ⟨held, ?_, rfl⟩
    rw [SigningKeys.find?_register registered, found, Option.getD_some, ite_self]
  · exact SigningKeys.succeed_keeps succeeded found

theorem Change.challenge_kept {key : RequestKey} {challenge : ActivationChallenge}
    (found : s.challenges.find? key = some challenge) (requested : s.requests.find? key = some row)
    (closed : row.state ≠ .approved) : after.challenges.find? key = some challenge := by
  cases change with
  | same | submitted | expired | approved | rotated => exact found
  | @challenged request nonce now other there approved =>
    rw [Table.find?_put, if_neg]
    · exact found
    rintro rfl
    rw [show s.requests.find? request.key = some row from requested] at there
    cases there
    exact closed approved
  | @activated activation enrollmentReceiptId signingKeyId now other held after admits enrolled =>
    rw [(enroll_eq_some enrolled).2.1, Table.find?_put, if_neg]
    · exact found
    intro here
    have there := admits.request
    rw [← show held.key = activation.request.key from (mem_of_find? admits.stored).2,
      show held.key = key from here, requested] at there
    cases there
    exact closed admits.approved

end

end EnrollmentStore

namespace Authority
variable {s : Authority} {activation : EnrollmentActivation} {enrollmentReceiptId signingKeyId : String}

def Kept (row : EnrollmentRequest) (s : Authority) : Prop := s.store.requests.find? row.key = some row.activating

structure Left (activation : EnrollmentActivation) (row : EnrollmentRequest) (enrollmentReceiptId signingKeyId : String)
    (now : Int) (record : SigningKeyRecord) (s : Authority) : Prop where
  request : ∃ state, (state = .activating ∨ state = .expired) ∧ s.store.requests.find? row.key = some { row with state }
  challenge : ∃ challenge, s.store.challenges.find? row.key = some challenge ∧ challenge.nonce = activation.nonce ∧
    challenge.consumedAt.isSome
  receipt : EnrollmentStore.receiptOf row enrollmentReceiptId now ∈ s.store.receipts.rows
  receipts : (s.store.receipts.rows.map EnrollmentReceipt.key).Nodup
  key : ∃ held, s.store.keys.find? signingKeyId = some held ∧ held.lifecycle.record = record
  distinct : s.store.keys.Distinct

theorem Left.apply (left : Left activation row enrollmentReceiptId signingKeyId now record s) (op : AuthorityOp) :
    Left activation row enrollmentReceiptId signingKeyId now record (s.apply platform op) where
  request := by
    obtain ⟨state, past, found⟩ := left.request
    obtain ⟨later, there, moves⟩ := (s.change platform op).request found
    cases moves with
    | kept => exact ⟨state, past, there⟩
    | expired => exact ⟨.expired, .inr rfl, there⟩
    | granted named pending => rcases past with rfl | rfl <;> cases pending
    | activated admits => exact ⟨.activating, .inl rfl, there⟩
  challenge := by
    obtain ⟨challenge, found, consumed⟩ := left.challenge
    obtain ⟨state, past, requested⟩ := left.request
    refine ⟨challenge, (s.change platform op).challenge_kept found requested ?_, consumed⟩
    rintro rfl
    rcases past with impossible | impossible <;> cases impossible
  receipt := by
    rcases (s.change platform op).receipts with same | ⟨receipt, _, inserted⟩
    · rw [same]
      exact left.receipt
    · rw [(Table.insert?_rows inserted).1]
      exact mem_append_left _ left.receipt
  receipts := (s.change platform op).receipted left.receipts
  key := by
    obtain ⟨held, found, same⟩ := left.key
    obtain ⟨later, there, same'⟩ := (s.change platform op).key found
    exact ⟨later, there, same'.trans same⟩
  distinct := (s.change platform op).distinct left.distinct

theorem expires_activating {op : AuthorityOp} : op.Expires row.activating ↔ op.Expires row := by
  cases op <;> exact Iff.rfl

theorem apply_expires (platform : EnrollmentPlatform) (found : s.store.requests.find? row.key = some row) {op : AuthorityOp}
    (late : op.Expires row) : (s.apply platform op).store = s.store.expireEnrollment row := by
  cases op with
  | approve approval now =>
    obtain ⟨named, late⟩ := late
    rw [← named] at found
    simp only [apply, EnrollmentStore.approve, found, if_pos late]
  | issueChallenge request nonce now =>
    obtain ⟨named, binding, late⟩ := late
    rw [← named] at found
    simp only [apply, EnrollmentStore.issueChallenge, found, binding, Bool.not_true, Bool.false_eq_true, if_false, if_pos late]
  | activate activation enrollmentReceiptId signingKeyId now =>
    obtain ⟨named, binding, late⟩ := late
    rw [← named] at found
    simp only [apply, EnrollmentStore.activate, found, binding, Bool.not_true, Bool.false_eq_true, if_false, if_pos late]
  | submit | rotateKey | sign => cases late

theorem kept_iff (kept : s.Kept row) (op : AuthorityOp) : (s.apply platform op).Kept row ↔ ¬op.Expires row := by
  unfold Kept at kept ⊢
  constructor
  · intro still late
    have gone : (s.apply platform op).store.requests.find? row.key = some { row.activating with state := .expired } := by
      rw [apply_expires platform kept (expires_activating.mpr late)]
      exact (Table.find?_put ..).trans (if_pos rfl)
    rw [still] at gone
    have impossible := congrArg EnrollmentRequest.state (Option.some.inj gone)
    cases impossible
  · intro timely
    obtain ⟨later, there, moves⟩ := (s.change platform op).request kept
    rw [there]
    generalize activating : row.activating = before at moves
    cases moves with
    | kept => rfl
    | expired late => exact absurd (expires_activating.mp (activating ▸ late)) timely
    | granted named pending =>
      rw [← activating] at pending
      cases pending
    | activated admits =>
      have approved := admits.approved
      rw [← activating] at approved
      cases approved

theorem replay_iff (left : Left activation row enrollmentReceiptId signingKeyId now record s)
    (kept : s.Kept row) (named : activation.request.key = row.key)
    (binding : validateBinding activation.request row = true)
    (proof : verifyActivationProof platform.toPlatform row.publicKey activation.signature activation.nonce activation.request = true)
    {receiptId keyId : String} {clock : Int} (timely : ¬row.expiresAt < clock) :
    (s.store.activate platform activation receiptId keyId clock).1 =
        .ok ⟨activation.request.requestId, .activating, enrollmentReceiptId, signingKeyId⟩ ↔ SigningKeys.Joins row now record := by
  obtain ⟨challenge, stored, nonce, consumed⟩ := left.challenge
  obtain ⟨held, found, rfl⟩ := left.key
  rw [← EnrollmentStore.original_iff left.receipts left.receipt left.distinct found]
  have proven : ¬(challenge.nonce ≠ activation.nonce ∨
      verifyActivationProof platform.toPlatform row.publicKey activation.signature activation.nonce activation.request = false) := by
    rw [not_or, not_not, Bool.not_eq_false]
    exact ⟨nonce, proof⟩
  unfold Kept at kept
  rw [← named] at kept stored
  have answer := EnrollmentStore.activate_replayed kept binding timely stored proven rfl consumed receiptId keyId
  rw [answer, named]
  change (match s.store.original row.key row.publicKey with
    | some (receiptId, keyId) => _
    | none => _) = _ ↔ _
  cases s.store.original row.key row.publicKey with
  | none => simp
  | some pair =>
    obtain ⟨receiptId, keyId⟩ := pair
    simp [EnrollmentRequest.activating]

structure Activated (platform : EnrollmentPlatform) (activation : EnrollmentActivation) (row : EnrollmentRequest)
    (enrollmentReceiptId signingKeyId : String) (now : Int) (entry : Entry Authority AuthorityOp) : Prop where
  activates : entry.op = .activate activation enrollmentReceiptId signingKeyId now
  request : entry.before.store.requests.find? activation.request.key = some row
  approved : row.state = .approved
  answered : (entry.before.store.activate platform activation enrollmentReceiptId signingKeyId now).1 =
    .ok ⟨activation.request.requestId, .activating, enrollmentReceiptId, signingKeyId⟩

/-- Nobody else has the id that the activation registers its key under. -/
def Own (keys : SigningKeys) (row : EnrollmentRequest) (signingKeyId : String) (now : Int) : Prop :=
  ∀ held ∈ keys.find? signingKeyId, SigningKeys.Joins row now held.lifecycle.record

instance (keys : SigningKeys) (row : EnrollmentRequest) (signingKeyId : String) (now : Int) :
    Decidable (Own keys row signingKeyId now) :=
  inferInstanceAs (Decidable (∀ held ∈ keys.find? signingKeyId, _))

structure Final (platform : EnrollmentPlatform) (activation : EnrollmentActivation) (row : EnrollmentRequest)
    (enrollmentReceiptId signingKeyId : String) (entry : Entry Authority AuthorityOp) : Prop where
  kept : entry.after.Kept row
  replayed : ∀ receiptId keyId clock, entry.op = .activate activation receiptId keyId clock →
    (entry.before.store.activate platform activation receiptId keyId clock).1 =
      .ok ⟨activation.request.requestId, .activating, enrollmentReceiptId, signingKeyId⟩

theorem activated_admits {entry : Entry Authority AuthorityOp}
    (activated : Activated platform activation row enrollmentReceiptId signingKeyId now entry)
    (left : entry.after = entry.before.apply platform entry.op) :
    ∃ challenge, entry.before.store.Admits platform activation now row challenge ∧
      entry.before.store.enroll row challenge enrollmentReceiptId signingKeyId now = some entry.after.store := by
  rcases EnrollmentStore.activate_cases platform entry.before.store activation enrollmentReceiptId signingKeyId now with
    ⟨_, replayed⟩ | ⟨_, _, _, _, ended⟩ | ⟨row', challenge, after, admits, enrolled, ended⟩
  · obtain ⟨other, found, activating⟩ := replayed _ activated.answered
    rw [activated.request] at found
    cases found
    rw [activated.approved] at activating
    cases activating
  · have answered := activated.answered
    rw [ended] at answered
    cases answered
  · have found := admits.request
    cases activated.request.symm.trans found
    have stored : entry.after.store = after := by
      rw [left, activated.activates]
      exact congrArg Prod.snd ended
    exact ⟨challenge, admits, stored ▸ enrolled⟩

theorem left_of_admits {challenge : ActivationChallenge} {after : Authority} (admits : s.store.Admits platform activation now row challenge)
    (enrolled : s.store.enroll row challenge enrollmentReceiptId signingKeyId now = some after.store)
    (receipts : (s.store.receipts.rows.map EnrollmentReceipt.key).Nodup) (distinct : s.store.keys.Distinct) :
    after.Kept row ∧ ∃ record, Left activation row enrollmentReceiptId signingKeyId now record after ∧
      (SigningKeys.Joins row now record ↔ Own s.store.keys row signingKeyId now) := by
  obtain ⟨requests, challenges, free, inserted, registered⟩ := EnrollmentStore.enroll_eq_some enrolled
  have named : row.key = activation.request.key := (mem_of_find? admits.request).2
  have kept : after.Kept row := by
    unfold Kept
    rw [requests, Table.find?_put]
    exact if_pos rfl
  have there := (SigningKeys.find?_register registered signingKeyId).trans (if_pos rfl)
  refine ⟨kept, _, ⟨⟨.activating, .inl rfl, kept⟩, ⟨{ challenge with consumedAt := some now }, ?_, admits.nonce, rfl⟩,
    ?_, ?_, ⟨_, there, rfl⟩, distinct.register registered⟩, ?_⟩
  · rw [challenges, Table.find?_put]
    exact if_pos ((mem_of_find? admits.stored).2.trans named.symm)
  · rw [(Table.insert?_rows inserted).1]
    exact mem_append_right _ (mem_singleton_self _)
  · have change : EnrollmentStore.Change platform s.store (.activate activation enrollmentReceiptId signingKeyId now) after.store :=
      .activated admits enrolled
    exact change.receipted receipts
  · unfold Own
    cases held : s.store.keys.find? signingKeyId with
    | none =>
      refine iff_of_true ⟨rfl, rfl, rfl, rfl, rfl, rfl⟩ ?_
      intro other impossible
      cases impossible
    | some held => simp

variable {history later earlier : List (Entry Authority AuthorityOp)}

theorem distinct_of_run (run : (authority platform).Run history s) : s.store.keys.Distinct :=
  run.invariant (fun s => s.store.keys.Distinct) nodup_nil fun before op distinct => (before.change platform op).distinct distinct

/-- An activated request stays activated, and an exact replay of its activation gets the original
ids, exactly as long as no call on it comes after its expiry and, where it is replayed, its key's id
was nobody else's. -/
theorem activation_is_final {activated : Entry Authority AuthorityOp}
    (run : (authority platform).Run (later ++ activated :: earlier) s)
    (first : Activated platform activation row enrollmentReceiptId signingKeyId now activated) :
    (∀ entry ∈ later, Final platform activation row enrollmentReceiptId signingKeyId entry) ↔
      ∀ entry ∈ later, ¬entry.op.Expires row ∧
        (entry.op.Replays activation → Own activated.before.store.keys row signingKeyId now) := by
  obtain ⟨middle, past⟩ := run.past
  cases past with
  | step before op ready =>
    rename_i store
    obtain ⟨challenge, admits, enrolled⟩ := activated_admits first rfl
    obtain ⟨kept, record, left, own⟩ :=
      left_of_admits admits enrolled (traced_of_run before).receipts (distinct_of_run before)
    have named : activation.request.key = row.key := (mem_of_find? admits.request).2.symm
    have initial {good : Authority → Prop} (here : good (store.apply platform op)) :
        ∀ middle, (authority platform).Run (⟨store, op, store.apply platform op⟩ :: earlier) middle → good middle := by
      intro middle past
      cases past
      exact here
    have lefts := run.since_before _ (initial left) ((run.since_good_iff _ (fun _ _ => True) (initial left)
      fun _ op before => iff_of_true (before.apply op) trivial).mpr fun _ _ => trivial)
    have keeps := run.since_good_iff (Kept row) (fun _ op => ¬op.Expires row) (initial kept)
      fun _ op before => kept_iff before op
    have answered {entry : Entry Authority AuthorityOp} (member : entry ∈ later) {receiptId keyId : String} {clock : Int}
        (replays : entry.op = .activate activation receiptId keyId clock) (timely : ¬entry.op.Expires row)
        (before : entry.before.Kept row) :
        (entry.before.store.activate platform activation receiptId keyId clock).1 =
          .ok ⟨activation.request.requestId, .activating, enrollmentReceiptId, signingKeyId⟩ ↔
            Own store.store.keys row signingKeyId now := by
      refine (replay_iff (lefts entry member) before named admits.binding admits.proof ?_).trans own
      intro late
      rw [replays] at timely
      exact timely ⟨named, admits.binding, late⟩
    constructor
    · intro always
      have timely := keeps.mp fun entry member => (always entry member).kept
      have befores := run.since_before (Kept row) (initial kept) fun entry member => (always entry member).kept
      intro entry member
      refine ⟨timely entry member, ?_⟩
      rintro ⟨receiptId, keyId, clock, replays⟩
      exact (answered member replays (timely entry member) (befores entry member)).mp
        ((always entry member).replayed receiptId keyId clock replays)
    · intro each
      have always := keeps.mpr fun entry member => (each entry member).1
      have befores := run.since_before (Kept row) (initial kept) always
      intro entry member
      refine ⟨always entry member, fun receiptId keyId clock replays => ?_⟩
      exact (answered member replays (each entry member).1 (befores entry member)).mpr
        ((each entry member).2 ⟨receiptId, keyId, clock, replays⟩)

end Authority

def approvedRequestOfA : EnrollmentRequest where
  key := ⟨"acme", "repo", "request:1"⟩
  proposedNodeId := "node-a"
  displayName := "node a"
  publicKey := keyOfA
  publicKeyFingerprint := submissionOfA.publicKeyFingerprint
  requestedCapabilities := ["sync"]
  createdAt := 0
  expiresAt := seconds 86400
  state := .approved
  approvedFingerprint := some submissionOfA.publicKeyFingerprint
  approvedCapabilities := some ["sync"]
  approvedAt := some (seconds 10)
  approvedBy := some "administrator"

theorem activated_a : Authority.Activated signingPlatform activationOfA approvedRequestOfA "receipt:1" "key:a" (seconds 30)
    ⟨((authority signingPlatform).replay (enrollmentOfA.drop 1)).2, .activate activationOfA "receipt:1" "key:a" (seconds 30),
      ((authority signingPlatform).replay enrollmentOfA).2⟩ where
  activates := rfl
  request := by decide +kernel
  approved := rfl
  answered := by decide +kernel

/-- An activation replayed in time, with other ids drawn for it. -/
def replayOfA : AuthorityOp := .activate activationOfA "receipt:2" "key:2" (seconds 40)

theorem activation_is_final_replayed : Authority.Final signingPlatform activationOfA approvedRequestOfA "receipt:1" "key:a"
    ⟨((authority signingPlatform).replay enrollmentOfA).2, replayOfA,
      ((authority signingPlatform).replay enrollmentOfA).2.apply signingPlatform replayOfA⟩ := by
  have run : (authority signingPlatform).Run ([_] ++ _ :: _) _ := enrollmentOfA_run.step replayOfA fun publicKey proven => by
    cases proof_of_a proven
    exact ⟨_, mem_cons_of_mem _ mem_cons_self, mem_cons_self⟩
  have own : Authority.Own ((authority signingPlatform).replay (enrollmentOfA.drop 1)).2.store.keys approvedRequestOfA "key:a"
    (seconds 30) := by decide +kernel
  have timely : ¬replayOfA.Expires approvedRequestOfA := by
    rintro ⟨_, _, late⟩
    exact absurd late (by decide)
  exact (Authority.activation_is_final run activated_a).mpr (forall_mem_singleton.mpr ⟨timely, fun _ => own⟩) _
    mem_cons_self

/-- Behind its expiry an approval of the activated request expires it. -/
theorem activation_expires_late :
    ¬∀ (later earlier : List (Entry Authority AuthorityOp)) (activated : Entry Authority AuthorityOp) (s : Authority)
        (activation : EnrollmentActivation) (row : EnrollmentRequest) (enrollmentReceiptId signingKeyId : String) (now : Int),
      (authority signingPlatform).Run (later ++ activated :: earlier) s →
      Authority.Activated signingPlatform activation row enrollmentReceiptId signingKeyId now activated →
      ∀ entry ∈ later, Authority.Final signingPlatform activation row enrollmentReceiptId signingKeyId entry := by
  intro always
  have run := enrollmentOfA_run.step (.approve approvalOfA (seconds 86401)) trivial
  have final := always [_] _ _ _ _ _ _ _ _ run activated_a _ mem_cons_self
  have kept := final.kept
  exact absurd kept (by unfold Authority.Kept; decide +kernel)

end MindLeak.Ackplane
