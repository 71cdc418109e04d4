import MindLeak.Proofs.Keys

/-! Where a key that an activation registers comes from. What each operation can change is
said once; everything about runs follows from it. -/

namespace MindLeak.Ackplane

open List Table Option

def AuthorityOp.Expires (row : EnrollmentRequest) : AuthorityOp → Prop
  | .approve approval now => approval.key = row.key ∧ row.expiresAt < now
  | .issueChallenge request _ now => request.key = row.key ∧ validateBinding request row = true ∧ row.expiresAt < now
  | .activate activation _ _ now =>
    activation.request.key = row.key ∧ validateBinding activation.request row = true ∧ row.expiresAt < now
  | _ => False

def EnrollmentRequest.granted (row : EnrollmentRequest) (approval : EnrollmentApproval) (now : Int) : EnrollmentRequest :=
  { row with
    state := .approved
    approvedFingerprint := some approval.publicKeyFingerprint
    approvedCapabilities := some approval.approvedCapabilities
    approvedAt := some now
    approvedBy := some approval.approvedBy }

def EnrollmentRequest.activating (row : EnrollmentRequest) : EnrollmentRequest := { row with state := .activating }

def EnrollmentRequest.enrolledKey (row : EnrollmentRequest) (signingKeyId : String) (now : Int) : SigningKeyRecord where
  signingKeyId := signingKeyId
  tenantId := row.key.tenantId
  repositoryId := row.key.repositoryId
  nodeId := row.proposedNodeId
  publicKey := row.publicKey
  publicKeyFingerprint := row.publicKeyFingerprint
  activatedAt := now
  expiresAt := none

variable {platform : EnrollmentPlatform} {op : AuthorityOp} {row : EnrollmentRequest} {now : Int}

namespace EnrollmentStore
variable {s after : EnrollmentStore}
variable {key : RequestKey}

structure Admits (platform : EnrollmentPlatform) (s : EnrollmentStore) (activation : EnrollmentActivation) (now : Int)
    (row : EnrollmentRequest) (challenge : ActivationChallenge) : Prop where
  request : s.requests.find? activation.request.key = some row
  binding : validateBinding activation.request row = true
  timely : now ≤ row.expiresAt
  approved : row.state = .approved
  stored : s.challenges.find? activation.request.key = some challenge
  nonce : challenge.nonce = activation.nonce
  unconsumed : challenge.consumedAt = none
  unexpired : now ≤ challenge.expiresAt
  proof : verifyActivationProof platform.toPlatform row.publicKey activation.signature activation.nonce activation.request = true

inductive Change (platform : EnrollmentPlatform) (s : EnrollmentStore) : AuthorityOp → EnrollmentStore → Prop
  | same (op : AuthorityOp) : Change platform s op s
  | submitted {submission : EnrollmentSubmission} {row : EnrollmentRequest} {actor reason : String}
      (fresh : s.requests.find? row.key = none) (pending : row.state = .pending)
      (fingerprint : publicKeyFingerprint platform.toPlatform row.publicKey = row.publicKeyFingerprint) :
      Change platform s (.submit submission) (s.transition row actor reason)
  | expired {op : AuthorityOp} {row : EnrollmentRequest} (found : s.requests.find? row.key = some row) (late : op.Expires row) :
      Change platform s op (s.expireEnrollment row)
  | approved {approval : EnrollmentApproval} {now : Int} {row : EnrollmentRequest}
      (found : s.requests.find? approval.key = some row) (pending : row.state = .pending)
      (fingerprint : row.publicKeyFingerprint = approval.publicKeyFingerprint)
      (answered : (s.approve approval now).1 = .ok ⟨approval.requestId, .approved⟩) :
      Change platform s (.approve approval now)
        (s.transition (row.granted approval now) approval.approvedBy "fingerprint approved")
  | challenged {request : ActivationChallengeRequest} {nonce : Bytes} {now : Int} {row : EnrollmentRequest}
      (found : s.requests.find? request.key = some row) (approved : row.state = .approved) :
      Change platform s (.issueChallenge request nonce now)
        { s with
          challenges := s.challenges.put
            ⟨request.key, request.proposedNodeId, request.publicKeyFingerprint, nonce, now,
              now + ACTIVATION_CHALLENGE_LIFETIME, none⟩ }
  | activated {activation : EnrollmentActivation} {enrollmentReceiptId signingKeyId : String} {now : Int}
      {row : EnrollmentRequest} {challenge : ActivationChallenge} {after : EnrollmentStore}
      (admits : s.Admits platform activation now row challenge)
      (enrolled : s.enroll row challenge enrollmentReceiptId signingKeyId now = some after) :
      Change platform s (.activate activation enrollmentReceiptId signingKeyId now) after
  | rotated {rotation : KeyRotation} {now : Int} {seen : SigningKeys} :
      Change platform s (.rotateKey rotation now seen)
        { s with keys := (seen.rotateKey platform.toPlatform rotation now s.keys).2 }

theorem submit_change (submission : EnrollmentSubmission) :
    Change platform s (.submit submission) (s.submit platform submission).2 := by
  unfold submit
  split
  · exact .same _
  rename_i fingerprint
  split
  · split <;> exact .same _
  rename_i fresh
  split
  next => exact .same _
  next => exact .same _
  next => exact .submitted fresh rfl (not_not.mp fingerprint)

theorem approve_granted {approval : EnrollmentApproval} (found : s.requests.find? approval.key = some row)
    (timely : ¬row.expiresAt < now) (pending : row.state = .pending)
    (fingerprint : row.publicKeyFingerprint = approval.publicKeyFingerprint) : s.approve approval now =
      (.ok ⟨approval.requestId, .approved⟩, s.transition (row.granted approval now) approval.approvedBy "fingerprint approved") := by
  simp only [approve, found, if_neg timely]
  rw [if_neg (not_not.mpr pending), if_neg (not_not.mpr fingerprint)]
  rfl

theorem approve_change (approval : EnrollmentApproval) (now : Int) :
    Change platform s (.approve approval now) (s.approve approval now).2 := by
  cases found : s.requests.find? approval.key with
  | none =>
    simp only [approve, found]
    exact .same _
  | some row =>
    have named : row.key = approval.key := (mem_of_find? found).2
    by_cases late : row.expiresAt < now
    · simp only [approve, found, if_pos late]
      exact .expired (named ▸ found) ⟨named.symm, late⟩
    · by_cases pending : row.state = .pending
      · by_cases fingerprint : row.publicKeyFingerprint = approval.publicKeyFingerprint
        · have granted := approve_granted found late pending fingerprint
          rw [granted]
          exact .approved found pending fingerprint (by rw [granted])
        · simp only [approve, found, if_neg late, ne_eq, pending, fingerprint, not_true_eq_false, not_false_eq_true, if_true, if_false]
          exact .same _
      · simp only [approve, found, if_neg late, ne_eq, pending, not_false_eq_true, if_true]
        exact .same _

theorem recordChallenge_change {request : ActivationChallengeRequest} {nonce : Bytes}
    (found : s.requests.find? request.key = some row) (approved : row.state = .approved) :
    Change platform s (.issueChallenge request nonce now) (s.recordChallenge request nonce now).2 := by
  unfold recordChallenge
  split
  next => exact .same _
  next => exact .challenged found approved

theorem issueChallenge_change (request : ActivationChallengeRequest) (nonce : Bytes) (now : Int) :
    Change platform s (.issueChallenge request nonce now) (s.issueChallenge request nonce now).2 := by
  unfold issueChallenge
  split
  · exact .same _
  rename_i row found
  have named : row.key = request.key := (mem_of_find? found).2
  split
  · exact .same _
  rename_i binding
  rw [Bool.not_eq_true, Bool.not_eq_false'] at binding
  split
  next late => exact .expired (named ▸ found) ⟨named.symm, binding, late⟩
  split
  · exact .same _
  rename_i approved
  rw [not_not] at approved
  split
  next =>
    split
    next => exact .same _
    next => exact recordChallenge_change found approved
  next => exact recordChallenge_change found approved

theorem activate_cases (platform : EnrollmentPlatform) (s : EnrollmentStore) (activation : EnrollmentActivation)
    (enrollmentReceiptId signingKeyId : String) (now : Int) :
    ((s.activate platform activation enrollmentReceiptId signingKeyId now).2 = s ∧
        ∀ result, (s.activate platform activation enrollmentReceiptId signingKeyId now).1 = .ok result →
          ∃ row, s.requests.find? activation.request.key = some row ∧ row.state = .activating) ∨
      (∃ row, s.requests.find? activation.request.key = some row ∧ validateBinding activation.request row = true ∧
        row.expiresAt < now ∧ s.activate platform activation enrollmentReceiptId signingKeyId now =
          (.error (.requestExpired activation.request.requestId), s.expireEnrollment row)) ∨
      ∃ row challenge after, s.Admits platform activation now row challenge ∧
        s.enroll row challenge enrollmentReceiptId signingKeyId now = some after ∧
        s.activate platform activation enrollmentReceiptId signingKeyId now =
          (.ok ⟨activation.request.requestId, .activating, enrollmentReceiptId, signingKeyId⟩, after) := by
  generalize ran : s.activate platform activation enrollmentReceiptId signingKeyId now = result
  have refused {failure : EnrollmentStoreError} (failed : (.error failure, s) = result) : result.2 = s ∧
      ∀ given, result.1 = .ok given → ∃ row, s.requests.find? activation.request.key = some row ∧ row.state = .activating := by
    subst failed
    exact ⟨rfl, fun _ returned => by cases returned⟩
  simp only [activate] at ran
  split at ran
  · exact .inl (refused ran)
  rename_i row found
  split at ran
  · exact .inl (refused ran)
  rename_i binding
  rw [Bool.not_eq_true, Bool.not_eq_false'] at binding
  split at ran
  next late => exact .inr (.inl ⟨row, found, binding, late, ran.symm⟩)
  rename_i timely
  split at ran
  · exact .inl (refused ran)
  rename_i challenge stored
  split at ran
  · exact .inl (refused ran)
  rename_i proven
  rw [not_or, not_not, Bool.not_eq_false] at proven
  split at ran
  next replayed =>
    left
    split at ran
    next => exact ran ▸ ⟨rfl, fun _ _ => ⟨row, found, replayed.1⟩⟩
    next => exact refused ran
  next =>
    split at ran
    · exact .inl (refused ran)
    rename_i approved
    split at ran
    · exact .inl (refused ran)
    rename_i unconsumed
    split at ran
    · exact .inl (refused ran)
    rename_i unexpired
    split at ran
    next after enrolled =>
      refine .inr (.inr ⟨row, challenge, after, ⟨found, binding, Int.not_lt.mp timely, not_not.mp approved,
        stored, proven.1, ?_, Int.not_lt.mp unexpired, proven.2⟩, enrolled, ran.symm⟩)
      exact not_isSome_iff_eq_none.mp unconsumed
    next => exact .inl (refused ran)

theorem activate_change (activation : EnrollmentActivation) (enrollmentReceiptId signingKeyId : String) (now : Int) :
    Change platform s (.activate activation enrollmentReceiptId signingKeyId now)
      (s.activate platform activation enrollmentReceiptId signingKeyId now).2 := by
  rcases activate_cases platform s activation enrollmentReceiptId signingKeyId now with
    ⟨same, _⟩ | ⟨row, found, binding, late, ended⟩ | ⟨row, challenge, after, admits, enrolled, ended⟩
  · rw [same]
    exact .same _
  · have named : row.key = activation.request.key := (mem_of_find? found).2
    rw [ended]
    exact .expired (named ▸ found) ⟨named.symm, binding, late⟩
  · rw [ended]
    exact .activated admits enrolled

theorem enroll_eq_some {challenge : ActivationChallenge} {enrollmentReceiptId signingKeyId : String}
    (enrolled : s.enroll row challenge enrollmentReceiptId signingKeyId now = some after) :
    after.requests = s.requests.put row.activating ∧
      after.challenges = s.challenges.put { challenge with consumedAt := some now } ∧
      (∀ other ∈ s.receipts.rows, other.key ≠ row.key) ∧
      s.receipts.insert? ⟨enrollmentReceiptId, row.key, row.proposedNodeId, row.publicKeyFingerprint, now⟩ = some after.receipts ∧
      s.keys.register (row.enrolledKey signingKeyId now) = some after.keys := by
  simp only [enroll, bind_eq_bind, bind_eq_some_iff] at enrolled
  obtain ⟨middle, receipted, keys, registered, done⟩ := enrolled
  unfold insertReceipt at receipted
  obtain ⟨free, receipted⟩ := else_of_ne receipted nofun
  obtain ⟨receipts, inserted, rfl⟩ := map_eq_some_iff.mp receipted
  cases done
  refine ⟨rfl, rfl, ?_, inserted, registered⟩
  intro other member same
  exact free (any_eq_true.mpr ⟨other, member, decide_eq_true same⟩)

inductive Moves (platform : EnrollmentPlatform) (s : EnrollmentStore) : AuthorityOp → EnrollmentRequest → EnrollmentRequest → Prop
  | kept (op : AuthorityOp) (row : EnrollmentRequest) : Moves platform s op row row
  | expired {op : AuthorityOp} {row : EnrollmentRequest} (late : op.Expires row) :
      Moves platform s op row { row with state := .expired }
  | granted {approval : EnrollmentApproval} {now : Int} {row : EnrollmentRequest} (named : approval.key = row.key)
      (pending : row.state = .pending) (fingerprint : row.publicKeyFingerprint = approval.publicKeyFingerprint)
      (answered : (s.approve approval now).1 = .ok ⟨approval.requestId, .approved⟩) :
      Moves platform s (.approve approval now) row (row.granted approval now)
  | activated {activation : EnrollmentActivation} {enrollmentReceiptId signingKeyId : String} {now : Int}
      {row : EnrollmentRequest} {challenge : ActivationChallenge} (admits : s.Admits platform activation now row challenge) :
      Moves platform s (.activate activation enrollmentReceiptId signingKeyId now) row row.activating

variable {later : EnrollmentRequest}

theorem Moves.same (moves : Moves platform s op row later) :
    later.key = row.key ∧ later.proposedNodeId = row.proposedNodeId ∧ later.publicKey = row.publicKey ∧
      later.publicKeyFingerprint = row.publicKeyFingerprint ∧ later.expiresAt = row.expiresAt := by
  cases moves <;> exact ⟨rfl, rfl, rfl, rfl, rfl⟩

theorem Change.request (change : Change platform s op after) (found : s.requests.find? key = some row) :
    ∃ later, after.requests.find? key = some later ∧ Moves platform s op row later := by
  have named : row.key = key := (mem_of_find? found).2
  have put (other later : EnrollmentRequest) (there : s.requests.find? other.key = some other) (same : later.key = other.key)
      (moves : Moves platform s op other later) :
      ∃ later', (s.requests.put later).find? key = some later' ∧ Moves platform s op row later' := by
    by_cases here : other.key = key
    · rw [here, found] at there
      cases there
      exact ⟨later, by rw [Table.find?_put]; exact if_pos (same.trans here), moves⟩
    · refine ⟨row, ?_, .kept op row⟩
      rw [Table.find?_put, if_neg]
      · exact found
      · exact fun other' => here (same.symm.trans other')
  cases change with
  | same => exact ⟨row, found, .kept _ row⟩
  | @submitted submission new actor reason fresh pending fingerprint =>
    refine ⟨row, ?_, .kept _ row⟩
    change (s.requests.put new).find? key = some row
    rw [Table.find?_put, if_neg]
    · exact found
    · intro here
      rw [show new.key = key from here, found] at fresh
      cases fresh
  | expired there late => exact put _ _ there rfl (.expired late)
  | @approved approval now other there pending fingerprint answered =>
    have same : other.key = approval.key := (mem_of_find? there).2
    exact put other (other.granted approval now) (same ▸ there) rfl (.granted same.symm pending fingerprint answered)
  | challenged => exact ⟨row, found, .kept _ row⟩
  | @activated activation enrollmentReceiptId signingKeyId now other challenge after admits enrolled =>
    have same : other.key = activation.request.key := (mem_of_find? admits.request).2
    rw [(enroll_eq_some enrolled).1]
    exact put other other.activating (same ▸ admits.request) rfl (.activated admits)
  | rotated => exact ⟨row, found, .kept _ row⟩

theorem Moves.not_pending (moves : Moves platform s op row later)
    (moved : row.state ≠ .pending) : later.state ≠ .pending := by
  cases moves with
  | kept => exact moved
  | expired | granted | activated => exact EnrollmentState.noConfusion

section
variable (change : Change platform s op after)
include change

theorem Change.requested
    (found : after.requests.find? key = some later) :
    s.requests.find? key = none ∧ later.state = .pending ∧
        publicKeyFingerprint platform.toPlatform later.publicKey = later.publicKeyFingerprint ∨
      ∃ row, s.requests.find? key = some row ∧ Moves platform s op row later := by
  cases before : s.requests.find? key with
  | some row =>
    obtain ⟨there, found', moves⟩ := change.request before
    cases found.symm.trans found'
    exact .inr ⟨row, rfl, moves⟩
  | none =>
    left
    have absent (row other : EnrollmentRequest) (there : s.requests.find? row.key = some row) (same : other.key = row.key)
        (found : (s.requests.put other).find? key = some later) : False := by
      rw [Table.find?_put, before] at found
      obtain ⟨here, found⟩ := then_of_ne found nofun
      rw [← same, show other.key = key from here, before] at there
      cases there
    cases change with
    | same | challenged | rotated =>
      rw [show s.requests.find? key = some later from found] at before
      cases before
    | @submitted submission new actor reason fresh pending fingerprint =>
      change (s.requests.put new).find? key = some later at found
      rw [Table.find?_put, before] at found
      obtain ⟨_, found⟩ := then_of_ne found nofun
      cases found
      exact ⟨rfl, pending, fingerprint⟩
    | @expired op row there late => exact (absent row { row with state := .expired } there rfl found).elim
    | @approved approval now other there pending fingerprint answered =>
      have same : other.key = approval.key := (mem_of_find? there).2
      exact (absent other (other.granted approval now) (same ▸ there) rfl found).elim
    | @activated activation enrollmentReceiptId signingKeyId now other challenge after admits enrolled =>
      have same : other.key = activation.request.key := (mem_of_find? admits.request).2
      rw [(enroll_eq_some enrolled).1] at found
      exact (absent other other.activating (same ▸ admits.request) rfl found).elim

theorem Change.challenge {challenge : ActivationChallenge}
    (found : after.challenges.find? key = some challenge) :
    s.challenges.find? key = some challenge ∨
      (∃ request now row, op = .issueChallenge request challenge.nonce now ∧ request.key = key ∧
        s.requests.find? key = some row ∧ row.state = .approved) ∨
      ∃ activation enrollmentReceiptId signingKeyId now row held,
        op = .activate activation enrollmentReceiptId signingKeyId now ∧ activation.request.key = key ∧
          s.Admits platform activation now row held ∧ challenge = { held with consumedAt := some now } := by
  cases change with
  | same | submitted | expired | approved | rotated => exact .inl found
  | @challenged request nonce now row there approved =>
    change (s.challenges.put _).find? key = some challenge at found
    rw [Table.find?_put] at found
    split at found
    next here =>
      cases found
      have named : request.key = key := here
      exact .inr (.inl ⟨request, now, row, rfl, named, named ▸ there, approved⟩)
    next => exact .inl found
  | @activated activation enrollmentReceiptId signingKeyId now row held after admits enrolled =>
    rw [(enroll_eq_some enrolled).2.1, Table.find?_put] at found
    split at found
    next here =>
      cases found
      have named : held.key = activation.request.key := (mem_of_find? admits.stored).2
      exact .inr (.inr ⟨activation, enrollmentReceiptId, signingKeyId, now, row, held, rfl, named.symm.trans here, admits, rfl⟩)
    next => exact .inl found

theorem Change.receipts : after.receipts = s.receipts ∨
    ∃ receipt, (∀ other ∈ s.receipts.rows, other.key ≠ receipt.key) ∧ s.receipts.insert? receipt = some after.receipts := by
  cases change with
  | same | submitted | expired | approved | challenged | rotated => exact .inl rfl
  | activated admits enrolled =>
    obtain ⟨_, _, free, inserted, _⟩ := enroll_eq_some enrolled
    exact .inr ⟨_, free, inserted⟩

theorem Change.receipted
    (receipts : (s.receipts.rows.map EnrollmentReceipt.key).Nodup) : (after.receipts.rows.map EnrollmentReceipt.key).Nodup := by
  rcases change.receipts with same | ⟨receipt, free, inserted⟩
  · rw [same]
    exact receipts
  · rw [(Table.insert?_rows inserted).1, map_append, map_singleton]
    refine receipts.append (nodup_singleton _) ?_
    intro key listed single
    rw [mem_singleton] at single
    obtain ⟨other, member, same⟩ := mem_map.mp listed
    exact free other member (same.trans single)

end

end EnrollmentStore

theorem Authority.change (platform : EnrollmentPlatform) (s : Authority) (op : AuthorityOp) :
    EnrollmentStore.Change platform s.store op (s.apply platform op).store := by
  cases op with
  | submit submission => exact EnrollmentStore.submit_change submission
  | approve approval now => exact EnrollmentStore.approve_change approval now
  | issueChallenge request nonce now => exact EnrollmentStore.issueChallenge_change request nonce now
  | activate activation enrollmentReceiptId signingKeyId now =>
    exact EnrollmentStore.activate_change activation enrollmentReceiptId signingKeyId now
  | rotateKey rotation now seen => exact .rotated
  | sign publicKey message => exact .same _

namespace Authority
variable {history : List (Entry Authority AuthorityOp)} {s : Authority} {entry : Entry Authority AuthorityOp}
  {challenge : ActivationChallenge}
variable {activation : EnrollmentActivation}

def Approves (row : EnrollmentRequest) (entry : Entry Authority AuthorityOp) : Prop :=
  ∃ approval now submitted, entry.op = .approve approval now ∧
    (entry.before.store.approve approval now).1 = .ok ⟨approval.requestId, .approved⟩ ∧
    approval.key = row.key ∧ approval.publicKeyFingerprint = row.publicKeyFingerprint ∧
    entry.before.store.requests.find? row.key = some submitted ∧
    submitted.proposedNodeId = row.proposedNodeId ∧ submitted.publicKey = row.publicKey

def Issues (challenge : ActivationChallenge) (entry : Entry Authority AuthorityOp) : Prop :=
  ∃ request now, entry.op = .issueChallenge request challenge.nonce now ∧ request.key = challenge.key ∧
    entry.after.store.challenges.find? challenge.key = some challenge

def Seals (nonce message : Bytes) : Prop :=
  ∃ requestId tenantId repositoryId nodeId fingerprint,
    message = activationChallengeBytes nonce requestId tenantId repositoryId nodeId fingerprint

structure Trail (history : List (Entry Authority AuthorityOp)) (s : Authority) (row : EnrollmentRequest)
    (challenge : ActivationChallenge) (issuing approving : Entry Authority AuthorityOp) : Prop where
  order : [issuing, approving].Sublist history
  issues : Issues challenge issuing
  approves : Approves row approving
  signed : ∀ publicKey message, Seals challenge.nonce message → (publicKey, message) ∈ s.signed →
    ∃ signing, [signing, issuing, approving].Sublist history ∧ signing.op = .sign publicKey message

theorem mem_signed {publicKey message : Bytes} (member : (publicKey, message) ∈ (s.apply platform op).signed) :
    op = .sign publicKey message ∨ (publicKey, message) ∈ s.signed := by
  cases op with
  | sign =>
    rcases mem_cons.mp member with same | old
    · cases same
      exact .inl rfl
    · exact .inr old
  | _ => exact .inr member

theorem Trail.later {issuing approving : Entry Authority AuthorityOp} (trail : Trail history s row challenge issuing approving)
    (op : AuthorityOp) :
    Trail (⟨s, op, s.apply platform op⟩ :: history) (s.apply platform op) row challenge issuing approving where
  order := trail.order.cons _
  issues := trail.issues
  approves := trail.approves
  signed publicKey message seals member := by
    rcases mem_signed member with rfl | old
    · exact ⟨_, trail.order.cons_cons _, rfl⟩
    · obtain ⟨signing, order, signs⟩ := trail.signed publicKey message seals old
      exact ⟨signing, order.cons _, signs⟩

def Enrolls (key : RequestKey) (entry : Entry Authority AuthorityOp) : Prop :=
  (∃ activation enrollmentReceiptId signingKeyId now,
      entry.op = .activate activation enrollmentReceiptId signingKeyId now ∧ activation.request.key = key) ∧
    (entry.after.store.receipts ≠ entry.before.store.receipts ∨ entry.after.store.keys ≠ entry.before.store.keys)

def Settled (s : Authority) (key : RequestKey) : Prop :=
  ∃ row, s.store.requests.find? key = some row ∧ (row.state = .activating ∨ row.state = .expired)

structure Traced (platform : EnrollmentPlatform) (history : List (Entry Authority AuthorityOp)) (s : Authority) : Prop where
  fingerprints : ∀ key row, s.store.requests.find? key = some row →
    publicKeyFingerprint platform.toPlatform row.publicKey = row.publicKeyFingerprint
  approvals : ∀ key row, s.store.requests.find? key = some row → row.state = .approved →
    ∃ approving ∈ history, Approves row approving
  challenged : ∀ key challenge, s.store.challenges.find? key = some challenge →
    ∃ row, s.store.requests.find? key = some row ∧ row.state ≠ .pending
  trails : ∀ key row challenge, s.store.requests.find? key = some row → row.state = .approved →
    s.store.challenges.find? key = some challenge → challenge.consumedAt = none →
      ∃ issuing approving, Trail history s row challenge issuing approving
  receipts : (s.store.receipts.rows.map EnrollmentReceipt.key).Nodup
  settled : ∀ key, ∀ entry ∈ history, Enrolls key entry → s.Settled key

theorem Settled.apply {key : RequestKey} (settled : s.Settled key) (op : AuthorityOp) : (s.apply platform op).Settled key := by
  obtain ⟨row, found, state⟩ := settled
  obtain ⟨later, there, moves⟩ := (s.change platform op).request found
  refine ⟨later, there, ?_⟩
  cases moves with
  | kept => exact state
  | expired => exact .inr rfl
  | granted named pending =>
    rw [pending] at state
    rcases state with impossible | impossible <;> cases impossible
  | activated admits => exact .inl rfl

theorem settled_of_enrolls {key : RequestKey} (enrolls : Enrolls key ⟨s, op, s.apply platform op⟩) :
    ∃ activation enrollmentReceiptId signingKeyId now row challenge,
      op = .activate activation enrollmentReceiptId signingKeyId now ∧ activation.request.key = key ∧
        s.store.Admits platform activation now row challenge ∧
        s.store.enroll row challenge enrollmentReceiptId signingKeyId now = some (s.apply platform op).store := by
  obtain ⟨⟨activation, enrollmentReceiptId, signingKeyId, now, rfl, named⟩, written⟩ := enrolls
  have change := s.change platform (.activate activation enrollmentReceiptId signingKeyId now)
  simp only at written
  generalize (s.apply platform (.activate activation enrollmentReceiptId signingKeyId now)).store = after at change written
  cases change with
  | same => simp at written
  | expired => simp [EnrollmentStore.expireEnrollment, EnrollmentStore.transition] at written
  | activated admits enrolled => exact ⟨_, _, _, _, _, _, rfl, named, admits, enrolled⟩

theorem Traced.step (traced : Traced platform history s)
    (fresh : ∀ request nonce now, op = .issueChallenge request nonce now → s.Fresh nonce) :
    Traced platform (⟨s, op, s.apply platform op⟩ :: history) (s.apply platform op) where
  fingerprints key row found := by
    rcases (s.change platform op).requested found with ⟨_, _, fingerprint⟩ | ⟨old, before, moves⟩
    · exact fingerprint
    · rw [moves.same.2.2.1, moves.same.2.2.2.1]
      exact traced.fingerprints key old before
  approvals key row found approved := by
    rcases (s.change platform op).requested found with ⟨_, pending, _⟩ | ⟨old, before, moves⟩
    · cases approved.symm.trans pending
    · cases moves with
      | kept =>
        obtain ⟨approving, member, approves⟩ := traced.approvals key row before approved
        exact ⟨approving, mem_cons_of_mem _ member, approves⟩
      | expired => cases approved
      | @granted approval now _ named pending fingerprint answered =>
        have here : old.key = key := (mem_of_find? before).2
        refine ⟨_, mem_cons_self, approval, now, old, rfl, answered, named, fingerprint.symm, ?_, rfl, rfl⟩
        exact here ▸ before
      | activated => cases approved
  challenged key challenge found := by
    have keeps {row : EnrollmentRequest} (before : s.store.requests.find? key = some row) (moved : row.state ≠ .pending) :
        ∃ later, (s.apply platform op).store.requests.find? key = some later ∧ later.state ≠ .pending := by
      obtain ⟨later, there, moves⟩ := (s.change platform op).request before
      exact ⟨later, there, moves.not_pending moved⟩
    rcases (s.change platform op).challenge found with
      old | ⟨_, _, row, _, _, before, approved⟩ | ⟨activation, _, _, _, row, _, _, named, admits, _⟩
    · obtain ⟨row, before, moved⟩ := traced.challenged key challenge old
      exact keeps before moved
    · exact keeps before (by rw [approved]; exact EnrollmentState.noConfusion)
    · exact keeps (named ▸ admits.request) (by rw [admits.approved]; exact EnrollmentState.noConfusion)
  trails key row challenge found approved stored unconsumed := by
    rcases (s.change platform op).requested found with ⟨_, pending, _⟩ | ⟨old, before, moves⟩
    · cases approved.symm.trans pending
    · rcases (s.change platform op).challenge stored with
        held | ⟨request, now, other, rfl, named, _, _⟩ | ⟨_, _, _, _, _, _, _, _, _, rfl⟩
      · cases moves with
        | kept =>
          obtain ⟨issuing, approving, trail⟩ := traced.trails key row challenge before approved held unconsumed
          exact ⟨issuing, approving, trail.later op⟩
        | expired => cases approved
        | granted named pending =>
          -- A challenge goes to an approved request only.
          obtain ⟨_, found', moved⟩ := traced.challenged key challenge held
          cases before.symm.trans found'
          exact absurd pending moved
        | activated => cases approved
      · cases moves with
        | expired => cases approved
        | kept =>
          obtain ⟨approving, member, approves⟩ := traced.approvals key row before approved
          have here : challenge.key = key := (mem_of_find? stored).2
          have order := (singleton_sublist.mpr member).cons_cons
            ⟨s, .issueChallenge request challenge.nonce now, s.apply platform (.issueChallenge request challenge.nonce now)⟩
          refine ⟨_, approving, order, ⟨request, now, rfl, named.trans here.symm, here ▸ stored⟩, approves, ?_⟩
          -- Nobody has signed over a nonce that is new.
          rintro publicKey _ ⟨requestId, tenantId, repositoryId, nodeId, fingerprint, rfl⟩ signed
          exact absurd signed ((fresh request challenge.nonce now rfl).2 publicKey requestId tenantId repositoryId nodeId fingerprint)
      · cases unconsumed
  receipts := (s.change platform op).receipted traced.receipts
  settled key entry member enrolls := by
    rcases mem_cons.mp member with rfl | old
    · obtain ⟨activation, enrollmentReceiptId, signingKeyId, now, row, challenge, _, named, admits, enrolled⟩ :=
        settled_of_enrolls enrolls
      have here : row.key = key := (mem_of_find? admits.request).2.trans named
      refine ⟨row.activating, ?_, .inl rfl⟩
      rw [(EnrollmentStore.enroll_eq_some enrolled).1, Table.find?_put]
      exact if_pos here
    · exact (traced.settled key entry old enrolls).apply op

theorem registers {enrollmentReceiptId signingKeyId : String} {registered : SigningKeyRow}
    (new : registered ∈ (s.apply platform (.activate activation enrollmentReceiptId signingKeyId now)).store.keys.rows)
    (absent : registered ∉ s.store.keys.rows) :
    ∃ row challenge, s.store.Admits platform activation now row challenge ∧
      registered = ⟨⟨row.enrolledKey signingKeyId now, none, none⟩, none⟩ := by
  have change := s.change platform (.activate activation enrollmentReceiptId signingKeyId now)
  generalize (s.apply platform (.activate activation enrollmentReceiptId signingKeyId now)).store = after at change new
  cases change with
  | same | expired => exact absurd new absent
  | @activated _ _ _ _ row challenge _ admits enrolled =>
    obtain ⟨_, _, _, _, registration⟩ := EnrollmentStore.enroll_eq_some enrolled
    rcases SigningKeys.mem_register registration new with old | same
    · exact absurd old absent
    · exact ⟨row, challenge, admits, same⟩

theorem traced_start (platform : EnrollmentPlatform) : Traced platform [] (authority platform).start where
  fingerprints _ _ found := by cases found
  approvals _ _ found := by cases found
  challenged _ _ found := by cases found
  trails _ _ _ found := by cases found
  receipts := nodup_nil
  settled _ _ member := by cases member

theorem traced_of_run (run : (authority platform).Run history s) : Traced platform history s := by
  induction run with
  | start => exact traced_start platform
  | step past op ready ih =>
    refine ih.step ?_
    rintro request nonce now rfl
    exact ready _ past.current_visited

theorem signed_of_seen (run : (authority platform).Run history s) {seen : Authority}
    (visited : seen ∈ (authority platform).visited history) {signature : Bytes × Bytes} (signed : signature ∈ seen.signed) :
    signature ∈ s.signed := by
  refine run.grown (fun before after => ∀ signature ∈ before.signed, signature ∈ after.signed) (fun _ _ member => member)
    (fun first last _ member => last _ (first _ member)) ?_ seen visited signature signed
  intro before op signature member
  cases op with
  | sign => exact mem_cons_of_mem _ member
  | _ => exact member

structure Earned (platform : EnrollmentPlatform) (history : List (Entry Authority AuthorityOp))
    (entry signing issuing approving : Entry Authority AuthorityOp) (activation : EnrollmentActivation) (now : Int)
    (row : EnrollmentRequest) (challenge : ActivationChallenge) : Prop where
  order : [entry, signing, issuing, approving].Sublist history
  approves : Approves row approving
  issues : Issues challenge issuing
  signs : signing.op = .sign row.publicKey activation.message
  admits : entry.before.store.Admits platform activation now row challenge
  fingerprint : publicKeyFingerprint platform.toPlatform row.publicKey = row.publicKeyFingerprint

theorem Earned.later {signing issuing approving : Entry Authority AuthorityOp}
    (earned : Earned platform history entry signing issuing approving activation now row challenge)
    (last : Entry Authority AuthorityOp) :
    Earned platform (last :: history) entry signing issuing approving activation now row challenge :=
  { earned with order := earned.order.cons _ }

theorem earned_of_admits (run : (authority platform).Run history s) {enrollmentReceiptId signingKeyId : String}
    (ready : (authority platform).enabled ((authority platform).visited history)
      (.activate activation enrollmentReceiptId signingKeyId now))
    (admits : s.store.Admits platform activation now row challenge) :
    ∃ signing issuing approving, Earned platform
      (⟨s, .activate activation enrollmentReceiptId signingKeyId now,
        s.apply platform (.activate activation enrollmentReceiptId signingKeyId now)⟩ :: history)
      ⟨s, .activate activation enrollmentReceiptId signingKeyId now,
        s.apply platform (.activate activation enrollmentReceiptId signingKeyId now)⟩
      signing issuing approving activation now row challenge := by
  have traced := traced_of_run run
  obtain ⟨issuing, approving, trail⟩ :=
    traced.trails _ row challenge admits.request admits.approved admits.stored admits.unconsumed
  obtain ⟨seen, visited, signed⟩ := ready row.publicKey admits.proof
  have seals : Seals challenge.nonce activation.message := ⟨_, _, _, _, _, by rw [admits.nonce]; rfl⟩
  obtain ⟨signing, order, signs⟩ := trail.signed _ _ seals (signed_of_seen run visited signed)
  exact ⟨signing, issuing, approving, order.cons_cons _, trail.approves, trail.issues, signs, admits,
    traced.fingerprints _ row admits.request⟩

/-- A key that an activation registers is the one that was submitted, approved and proven, and
a request has one activation, one receipt and one key. -/
theorem enrollment_is_safe (run : (authority platform).Run history s) :
    (∀ entry ∈ history, ∀ activation enrollmentReceiptId signingKeyId now,
      entry.op = .activate activation enrollmentReceiptId signingKeyId now →
        ∀ registered ∈ entry.after.store.keys.rows, registered ∉ entry.before.store.keys.rows →
          ∃ signing issuing approving row challenge,
            Earned platform history entry signing issuing approving activation now row challenge ∧
              registered = ⟨⟨row.enrolledKey signingKeyId now, none, none⟩, none⟩) ∧
      (∀ key first second, [second, first].Sublist history → Enrolls key first → ¬Enrolls key second) ∧
        ∀ seen ∈ (authority platform).visited history, (seen.store.receipts.rows.map EnrollmentReceipt.key).Nodup := by
  refine ⟨?_, ?_, ?_⟩
  · induction run with
    | start =>
      intro entry member
      cases member
    | step past op ready ih =>
      intro entry member activation enrollmentReceiptId signingKeyId now activates registered new absent
      rcases mem_cons.mp member with rfl | old
      · cases activates
        obtain ⟨row, challenge, admits, same⟩ := registers new absent
        obtain ⟨signing, issuing, approving, earned⟩ := earned_of_admits past ready admits
        exact ⟨signing, issuing, approving, row, challenge, earned, same⟩
      · obtain ⟨signing, issuing, approving, row, challenge, earned, same⟩ :=
          ih entry old activation enrollmentReceiptId signingKeyId now activates registered new absent
        exact ⟨signing, issuing, approving, row, challenge, earned.later _, same⟩
  · intro key first second order enrolls again
    induction run with
    | start => cases order
    | step past op ready ih =>
      cases order with
      | cons _ earlier => exact ih earlier
      | cons_cons _ earlier =>
        -- The second would need an approved request, and the first has settled it.
        obtain ⟨row, found, state⟩ :=
          (traced_of_run past).settled key first (singleton_sublist.mp earlier) enrolls
        obtain ⟨activation, _, _, _, row', _, _, named, admits, _⟩ := settled_of_enrolls again
        have there := admits.request
        rw [named, found] at there
        cases there
        rw [admits.approved] at state
        rcases state with impossible | impossible <;> cases impossible
  · induction run with
    | start =>
      intro seen member
      cases mem_singleton.mp member
      exact nodup_nil
    | step past op ready ih =>
      intro seen member
      rcases mem_cons.mp member with rfl | old
      · exact (traced_of_run (past.step op ready)).receipts
      · exact ih seen old

end Authority
def submissionOfA : EnrollmentSubmission where
  requestId := "request:1"
  tenantId := "acme"
  repositoryId := "repo"
  proposedNodeId := "node-a"
  displayName := "node a"
  publicKey := keyOfA
  publicKeyFingerprint := "ed25519:34750f98bd59fcfc946da45aaabe933be154a4b5094e1c4abf42866505f3c97e"
  requestedCapabilities := ["sync"]
  createdAt := "1970-01-01T00:00:00Z"
  expiresAt := "1970-01-02T00:00:00Z"

def approvalOfA : EnrollmentApproval :=
  ⟨"request:1", "acme", "repo", submissionOfA.publicKeyFingerprint, ["sync"], "administrator"⟩

def challengeOfA : ActivationChallengeRequest :=
  ⟨"request:1", "acme", "repo", "node-a", submissionOfA.publicKeyFingerprint⟩

def activationOfA : EnrollmentActivation := ⟨challengeOfA, List.replicate 32 9, provenByA⟩

def enrollmentOfA : List (Authority → AuthorityOp) :=
  [fun _ => .activate activationOfA "receipt:1" "key:a" (seconds 30), fun _ => .sign keyOfA activationOfA.message,
    fun _ => .issueChallenge challengeOfA (List.replicate 32 9) (seconds 20), fun _ => .approve approvalOfA (seconds 10),
    fun _ => .submit submissionOfA]

theorem proof_of_a {publicKey : Bytes}
    (proven : verifyActivationProof signingPlatform.toPlatform publicKey provenByA (List.replicate 32 9) challengeOfA = true) :
    publicKey = keyOfA := by
  simp only [verifyActivationProof, Bool.and_eq_true] at proven
  have listed := of_decide_eq_true proven.2
  have only : ∀ signature ∈ [(keyOfA, signedByA.1), (nextKey, signedByA.2), (keyOfB, signedByB.1), (nextKey, signedByB.2),
      (keyOfA, signedLaterByA.1), (nextKey, signedLaterByA.2), (keyOfA, provenByA)],
      signature.2 = provenByA → signature.1 = keyOfA := by decide +kernel
  exact only _ listed rfl

theorem enrollmentOfA_run : (authority signingPlatform).Replays enrollmentOfA := by
  refine .step (.step (.step (.step (.step .start _ ?_) _ ?_) _ ?_) _ ?_) _ ?_
  · trivial
  · trivial
  · have fresh {s : Authority} (drawn : s.nonces = []) (signed : s.signed = []) : s.Fresh (List.replicate 32 9) := by
      unfold Authority.Fresh
      rw [drawn, signed]
      exact ⟨not_mem_nil, fun _ _ _ _ _ _ => not_mem_nil⟩
    exact forall_mem_cons.mpr ⟨fresh rfl rfl, forall_mem_cons.mpr ⟨fresh rfl rfl,
      forall_mem_cons.mpr ⟨fresh rfl rfl, fun _ member => nomatch member⟩⟩⟩
  · trivial
  · intro publicKey proven
    cases proof_of_a proven
    exact ⟨_, mem_cons_self, mem_cons_self⟩

def enrolledKeyOfA : SigningKeyRow :=
  ⟨⟨⟨"key:a", "acme", "repo", "node-a", keyOfA, submissionOfA.publicKeyFingerprint, seconds 30, none⟩, none, none⟩, none⟩

theorem enrollment_is_safe_of_a : ∃ entry signing issuing approving row challenge,
    Authority.Earned signingPlatform ((authority signingPlatform).replay enrollmentOfA).1 entry signing issuing approving
        activationOfA (seconds 30) row challenge ∧
      enrolledKeyOfA = ⟨⟨row.enrolledKey "key:a" (seconds 30), none, none⟩, none⟩ := by
  have safe := (Authority.enrollment_is_safe enrollmentOfA_run).1 _ mem_cons_self activationOfA "receipt:1" "key:a"
    (seconds 30) rfl enrolledKeyOfA
  have earned : _ ∧ _ → _ := fun facts => safe facts.1 facts.2
  exact ⟨_, earned (by decide +kernel)⟩

end MindLeak.Ackplane
