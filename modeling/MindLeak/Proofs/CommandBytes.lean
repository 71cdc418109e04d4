import MindLeak.Ackplane.Command
import MindLeak.Proofs.SigningBytes

/-! What a request's digest and a receipt's digest are over can be read off the bytes that are hashed. -/

namespace MindLeak.Ackplane

open List Except

section

theorem delimits_count : Delimits (· < UInt64.size) fun n => bigEndian64 (UInt64.ofNat n) := by
  refine .of_width 8 (fun _ _ => length_bigEndian64 _) ?_
  intro m n small small' same
  rw [bigEndian64_inj, ← UInt64.toNat_inj, UInt64.toNat_ofNat_of_lt' small, UInt64.toNat_ofNat_of_lt' small'] at same
  exact same

theorem delimits_part : Delimits (fun part : Bytes => part.length < UInt64.size) appendDigestPart := .prefixed delimits_count

def Countable (text : String) : Prop := (utf8 text).length < UInt64.size

theorem delimits_text : Delimits Countable appendText := delimits_part.comp fun _ _ => utf8_inj.mp

theorem delimits_optionalText : Delimits (fun text : Option String => ∀ value ∈ text, Countable value) appendOptionalText := by
  intro first second short short' rest rest' same
  cases first with
  | none =>
    cases second with
    | none => exact ⟨rfl, (List.cons.inj same).2⟩
    | some => cases (List.cons.inj same).1
  | some one =>
    cases second with
    | none => cases (List.cons.inj same).1
    | some other =>
      obtain ⟨rfl, behind⟩ := delimits_text one other (short one rfl) (short' other rfl) rest rest' (List.cons.inj same).2
      exact ⟨rfl, behind⟩

theorem delimits_identifiers : Delimits (fun items : List String => items.length < UInt64.size ∧ ∀ item ∈ items, Countable item)
    appendIdentifiers := delimits_text.counted delimits_count

theorem bigEndian16_inj {m n : UInt16} (same : bigEndian16 m = bigEndian16 n) : m = n := by
  simp only [bigEndian16, List.cons.injEq, and_true, ← UInt8.toNat_inj, UInt16.toNat_toUInt8, UInt16.toNat_shiftRight] at same
  rw [← UInt16.toNat_inj]
  have bound := m.toNat_lt
  have bound' := n.toNat_lt
  simp [Nat.shiftRight_eq_div_pow] at same
  omega

theorem delimits_i64 : Delimits (fun value : Int => 0 ≤ value ∧ value < UInt64.size) bigEndianI64 := by
  refine .of_width 8 (fun _ _ => length_bigEndian64 _) ?_
  intro m n ⟨positive, small⟩ ⟨positive', small'⟩ same
  rw [bigEndianI64, bigEndianI64, bigEndian64_inj, UInt64.ofInt, UInt64.ofInt, ← UInt64.toNat_inj] at same
  have wide : (UInt64.size : Int) = 2 ^ 64 := rfl
  rw [Int.emod_eq_of_lt positive (wide ▸ small), Int.emod_eq_of_lt positive' (wide ▸ small'), UInt64.toNat_ofNat_of_lt' (by omega),
    UInt64.toNat_ofNat_of_lt' (by omega)] at same
  omega

theorem delimits_kind : Delimits (fun _ => True) fun kind : WorkCommandKind => bigEndianI16 kind.asI16 := by
  refine .of_width 2 (fun _ _ => rfl) ?_
  intro first second _ _ same
  cases first <;> cases second <;> first | rfl | exact absurd same (by decide)

theorem delimits_outcome : Delimits (fun _ => True) fun outcome : WorkCommandOutcome => bigEndianI16 outcome.asI16 := by
  refine .of_width 2 (fun _ _ => rfl) ?_
  intro first second _ _ same
  cases first <;> cases second <;> first | rfl | exact absurd same (by decide)

theorem length_utf8 (text : String) : (utf8 text).length = text.utf8ByteSize := by
  rfl

theorem countable_of_size {text : String} {bound : Nat} (fits : text.utf8ByteSize ≤ bound) (small : bound < UInt64.size) :
    Countable text := by
  exact Nat.lt_of_le_of_lt fits small

theorem delimits_version : Delimits (fun version : Option Int => ∀ value ∈ version, 0 ≤ value ∧ value < UInt64.size) fun version =>
    match version with
    | some version => 1 :: bigEndianI64 version
    | none => [0] := by
  intro first second short short' rest rest' same
  cases first with
  | none =>
    cases second with
    | none => exact ⟨rfl, (List.cons.inj same).2⟩
    | some => cases (List.cons.inj same).1
  | some one =>
    cases second with
    | none => cases (List.cons.inj same).1
    | some other =>
      obtain ⟨rfl, behind⟩ := delimits_i64 one other (short one rfl) (short' other rfl) rest rest' (List.cons.inj same).2
      exact ⟨rfl, behind⟩

theorem length_appendTimestamp {timestamp : Int} {bytes : Bytes} (stamped : appendTimestamp timestamp = .ok bytes) : bytes.length = 12 := by
  obtain ⟨_, stamped⟩ := ite_else stamped
  cases stamped
  rfl

theorem appendTimestamp_inj {first second : Int} {bytes : Bytes} (small : first / seconds 1 < UInt64.size)
    (small' : second / seconds 1 < UInt64.size) (stamped : appendTimestamp first = .ok bytes) (stamped' : appendTimestamp second = .ok bytes) :
    first = second := by
  obtain ⟨positive, stamped⟩ := ite_else stamped
  obtain ⟨positive', stamped'⟩ := ite_else stamped'
  have same := ok.inj (stamped.trans stamped'.symm)
  have unit : seconds 1 = 1000000000 := rfl
  rw [unit] at same small small'
  obtain ⟨whole, rest⟩ := delimits_i64 _ _ ⟨by omega, small⟩ ⟨by omega, small'⟩ _ _ same
  rw [bigEndian32_inj, UInt32.ofInt, UInt32.ofInt, ← UInt32.toNat_inj] at rest
  have narrow (value : Int) : (UInt32.ofNat (value % 1000000000 % 2 ^ 32).toNat).toNat = (value % 1000000000).toNat := by
    have below : (value % 1000000000).toNat < UInt32.size := by
      have : UInt32.size = 4294967296 := rfl
      omega
    rw [Int.emod_eq_of_lt (by omega) (by omega), UInt32.toNat_ofNat_of_lt' below]
  rw [narrow, narrow] at rest
  omega

end

namespace WorkCommands

theorem IsIdentifier.countable {text : String} (its : IsIdentifier text) : Countable text := countable_of_size its.2 (by decide)

theorem requireIdentifier_ok {field value : String} {checked : Unit} (passed : requireIdentifier field value = .ok checked) :
    IsIdentifier value := not_not.mp (refuseIf_ok.mp passed)

theorem validateReferences_ok {values : List String} {checked : Unit} (passed : validateReferences values = .ok checked) :
    values.length < UInt64.size ∧ ∀ value ∈ values, Countable value := by
  obtain ⟨few, named⟩ := not_or.mp (refuseIf_ok.mp passed)
  refine ⟨Nat.lt_of_le_of_lt (Nat.not_lt.mp few) (by decide), fun value member => ?_⟩
  exact (not_not.mp fun unnamed => named ⟨value, member, unnamed⟩ : IsIdentifier value).countable

end WorkCommands

namespace NewWorkCommandReceipt
open WorkCommands
variable {receipt other : NewWorkCommandReceipt}

structure Countable (receipt : NewWorkCommandReceipt) : Prop where
  identifiers : ∀ field ∈ receipt.identifiers, Ackplane.Countable field.2
  reason : Ackplane.Countable receipt.reason
  evidenceRefs : receipt.evidenceRefs.length < UInt64.size ∧ ∀ value ∈ receipt.evidenceRefs, Ackplane.Countable value

theorem countable {now : Int} (valid : receipt.validate now = .ok ()) : receipt.Countable := by
  obtain ⟨_, named, valid⟩ := bind_ok valid
  obtain ⟨_, reasoned, valid⟩ := bind_ok valid
  obtain ⟨_, referred, _⟩ := bind_ok valid
  refine ⟨fun field member => (requireIdentifier_ok (forM_ok named field member)).countable, ?_, validateReferences_ok referred⟩
  exact countable_of_size (Nat.not_lt.mp (refuseIf_ok.mp reasoned)) (by decide)

theorem eq_of_bytes {bytes : Bytes} (countable : receipt.Countable) (countable' : other.Countable) (hashed : receipt.bytes = .ok bytes)
    (hashed' : other.bytes = .ok bytes) : receipt = { other with occurredAt := receipt.occurredAt } := by
  obtain ⟨occurred, _, hashed⟩ := bind_ok hashed
  obtain ⟨occurred', _, hashed'⟩ := bind_ok hashed'
  have same := ok.inj (hashed.trans hashed'.symm)
  simp only [append_assoc, append_cancel_left_eq] at same
  have named := countable.identifiers
  have named' := countable'.identifiers
  simp only [identifiers, forall_mem_cons] at named named'
  obtain ⟨tenantId, repositoryId, commandId, receiptId, _⟩ := named
  obtain ⟨tenantId', repositoryId', commandId', receiptId', _⟩ := named'
  obtain ⟨sameTenant, same⟩ := delimits_text _ _ tenantId tenantId' _ _ same
  obtain ⟨sameRepository, same⟩ := delimits_text _ _ repositoryId repositoryId' _ _ same
  obtain ⟨sameCommand, same⟩ := delimits_text _ _ commandId commandId' _ _ same
  obtain ⟨sameReceipt, same⟩ := delimits_text _ _ receiptId receiptId' _ _ same
  obtain ⟨sameReason, same⟩ := delimits_text _ _ countable.reason countable'.reason _ _ same
  obtain ⟨sameOutcome, same⟩ := delimits_outcome _ _ trivial trivial _ _ same
  obtain ⟨sameRefs, _⟩ := delimits_identifiers _ _ countable.evidenceRefs countable'.evidenceRefs _ _ same
  cases receipt
  simp only at sameTenant sameRepository sameCommand sameReceipt sameReason sameOutcome sameRefs
  simp only [sameTenant, sameRepository, sameCommand, sameReceipt, sameReason, sameOutcome, sameRefs]

end NewWorkCommandReceipt

namespace NewWorkCommand
open WorkCommands
variable {request other : NewWorkCommand}

/-- The lengths of what is hashed fit in front of it, and so do the numbers. -/
structure Countable (request : NewWorkCommand) : Prop where
  identifiers : ∀ field ∈ request.identifiers, Ackplane.Countable field.2
  optionalIdentifiers : ∀ field ∈ request.optionalIdentifiers, ∀ value ∈ field.2, Ackplane.Countable value
  policyRefs : request.policyRefs.length < UInt64.size ∧ ∀ value ∈ request.policyRefs, Ackplane.Countable value
  rationale : Ackplane.Countable request.rationale
  payloadDigest : request.payloadDigest.length < UInt64.size
  version : ∀ version ∈ request.expectedTaskVersion, 0 ≤ version ∧ version < UInt64.size
  expiry : request.expiresAt / seconds 1 < UInt64.size

structure Typed (request : NewWorkCommand) : Prop where
  version : ∀ version ∈ request.expectedTaskVersion, version < UInt64.size
  expiry : request.expiresAt / seconds 1 < UInt64.size

theorem countable {now : Int} (valid : request.validate now = .ok ()) (typed : request.Typed) : request.Countable := by
  obtain ⟨_, named, valid⟩ := bind_ok valid
  obtain ⟨_, optional, valid⟩ := bind_ok valid
  obtain ⟨_, referred, valid⟩ := bind_ok valid
  obtain ⟨_, reasoned, valid⟩ := bind_ok valid
  obtain ⟨_, hashed, valid⟩ := bind_ok valid
  obtain ⟨_, versioned, _⟩ := bind_ok valid
  have length : request.payloadDigest.length = DIGEST_BYTES := not_not.mp (refuseIf_ok.mp hashed)
  refine ⟨fun field member => (requireIdentifier_ok (forM_ok named field member)).countable, fun field member value its => ?_,
    validateReferences_ok referred, countable_of_size (Nat.not_lt.mp (not_or.mp (refuseIf_ok.mp reasoned)).2) (by decide), ?_,
    fun version its => ⟨?_, typed.version version its⟩, typed.expiry⟩
  · have passed := refuseIf_ok.mp (forM_ok optional field member)
    exact (not_not.mp fun unnamed => passed ⟨value, its, unnamed⟩ : IsIdentifier value).countable
  · rw [length]
    decide
  · exact Int.not_lt.mp fun negative => refuseIf_ok.mp versioned ⟨version, its, negative⟩

theorem eq_of_bytes {bytes : Bytes} (countable : request.Countable) (countable' : other.Countable) (hashed : request.bytes = .ok bytes)
    (hashed' : other.bytes = .ok bytes) : request = other := by
  obtain ⟨expiry, stamped, hashed⟩ := bind_ok hashed
  obtain ⟨expiry', stamped', hashed'⟩ := bind_ok hashed'
  have same := ok.inj (hashed.trans hashed'.symm)
  simp only [append_assoc, append_cancel_left_eq] at same
  have named := countable.identifiers
  have named' := countable'.identifiers
  have optional := countable.optionalIdentifiers
  have optional' := countable'.optionalIdentifiers
  simp only [identifiers, optionalIdentifiers, forall_mem_cons] at named named' optional optional'
  obtain ⟨tenantId, repositoryId, schemaVersion, issuingPrincipalId, idempotencyKey, _⟩ := named
  obtain ⟨tenantId', repositoryId', schemaVersion', issuingPrincipalId', idempotencyKey', _⟩ := named'
  obtain ⟨taskId, delegationId, confirmationId, _⟩ := optional
  obtain ⟨taskId', delegationId', confirmationId', _⟩ := optional'
  obtain ⟨sameTenant, same⟩ := delimits_text _ _ tenantId tenantId' _ _ same
  obtain ⟨sameRepository, same⟩ := delimits_text _ _ repositoryId repositoryId' _ _ same
  obtain ⟨sameSchema, same⟩ := delimits_text _ _ schemaVersion schemaVersion' _ _ same
  obtain ⟨samePrincipal, same⟩ := delimits_text _ _ issuingPrincipalId issuingPrincipalId' _ _ same
  obtain ⟨sameRationale, same⟩ := delimits_text _ _ countable.rationale countable'.rationale _ _ same
  obtain ⟨sameKey, same⟩ := delimits_text _ _ idempotencyKey idempotencyKey' _ _ same
  obtain ⟨sameKind, same⟩ := delimits_kind _ _ trivial trivial _ _ same
  obtain ⟨sameTask, same⟩ := delimits_optionalText _ _ taskId taskId' _ _ same
  obtain ⟨sameDelegation, same⟩ := delimits_optionalText _ _ delegationId delegationId' _ _ same
  obtain ⟨sameConfirmation, same⟩ := delimits_optionalText _ _ confirmationId confirmationId' _ _ same
  obtain ⟨sameRefs, same⟩ := delimits_identifiers _ _ countable.policyRefs countable'.policyRefs _ _ same
  obtain ⟨sameVersion, same⟩ := delimits_version _ _ countable.version countable'.version _ _ same
  obtain ⟨sameStamp, same⟩ := append_inj same (by rw [length_appendTimestamp stamped, length_appendTimestamp stamped'])
  have sameExpiry := appendTimestamp_inj countable.expiry countable'.expiry stamped (sameStamp ▸ stamped')
  obtain ⟨sameDigest, _⟩ := delimits_part _ _ countable.payloadDigest countable'.payloadDigest [] [] (by rw [same])
  exact (NewWorkCommand.mk.injEq ..).mpr ⟨sameTenant, sameRepository, sameKind, sameSchema, sameTask, samePrincipal, sameDelegation,
    sameRefs, sameRationale, sameVersion, sameConfirmation, sameExpiry, sameKey, sameDigest⟩

end NewWorkCommand

end MindLeak.Ackplane
