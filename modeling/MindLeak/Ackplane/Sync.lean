import Mathlib
import MindLeak.Ackplane.Types
import MindLeak.Library.Runs

/-! Wire frames as records of the ledger, and what became of them as typed
receipts and rejections. -/

namespace MindLeak.Ackplane

def recordIdentity (key : DedupKey) : String :=
  key.tenantId ++ "/" ++ key.repositoryId ++ "/" ++ key.producerId ++ "@" ++ toString key.producerSequence

def malformed (identity diagnostic : String) : V1.Rejection := ⟨identity, .malformed, false, diagnostic⟩

namespace Rfc3339

def isLeapYear (year : Int) : Bool :=
  (decide (year.tmod 4 = 0) && decide (year.tmod 100 ≠ 0)) || decide (year.tmod 400 = 0)

def daysInMonth (year month : Int) : Int :=
  if month ∈ [1, 3, 5, 7, 8, 10, 12] then 31
  else if month ∈ [4, 6, 9, 11] then 30
  else if month = 2 then if isLeapYear year then 29 else 28
  else 0

def daysFromCivil (year month day : Int) : Int :=
  let year := if month ≤ 2 then year - 1 else year
  let era := (if year ≥ 0 then year else year - 399).tdiv 400
  let yearOfEra := year - era * 400
  let shifted := if month > 2 then month - 3 else month + 9
  let dayOfYear := (153 * shifted + 2).tdiv 5 + day - 1
  let dayOfEra := yearOfEra * 365 + yearOfEra.tdiv 4 - yearOfEra.tdiv 100 + dayOfYear
  era * 146097 + dayOfEra - 719468

def digits (text : List Char) : Option Int :=
  if text.isEmpty || text.any fun c => !c.isDigit then none
  else some (text.foldl (fun value c => value * 10 + (c.toNat - '0'.toNat : Int)) 0)

/-- A field parses as a signed integer does: a sign of its own passes. -/
def num : List Char → Option Int
  | '-' :: rest => (digits rest).map Neg.neg
  | '+' :: rest => digits rest
  | text => digits text

def field (text : List Char) (first last : Nat) : Option Int := num ((text.take last).drop first)

def offset (rest : List Char) : Option Int :=
  match rest with
  | [c] => if c = 'Z' ∨ c = 'z' then some 0 else none
  | sign :: _ =>
    if (sign = '+' ∨ sign = '-') ∧ rest.length = 6 ∧ rest[3]? = some ':' then do
      let hours ← field rest 1 3
      let minutes ← field rest 4 6
      if hours > 23 ∨ minutes > 59 then none
      else
        let magnitude := hours * 60 + minutes
        return if sign = '-' then -magnitude else magnitude
    else none
  | [] => none

/-- Nanoseconds, and what stands behind them. Digits past the ninth are cut off. -/
def fraction (rest : List Char) : Option (Int × List Char) :=
  match rest with
  | '.' :: tail =>
    let written := tail.takeWhile Char.isDigit
    let kept := written.take 9
    (digits (kept ++ List.replicate (9 - kept.length) '0')).bind fun nanos =>
      if written.isEmpty then none else some (nanos, tail.drop written.length)
  | _ => some (0, rest)

/-- In nanoseconds from the epoch. Places count characters: a text that is not
ASCII up to its offset has no field there that parses. -/
def parse (text : String) : Option Int := do
  let text := text.toList
  if text.length < 20 then none
  else if text[4]? ≠ some '-' ∨ text[7]? ≠ some '-' ∨ text[13]? ≠ some ':' ∨ text[16]? ≠ some ':' then none
  else if text[10]? ≠ some 'T' ∧ text[10]? ≠ some 't' then none
  else
    let year ← field text 0 4
    let month ← field text 5 7
    let day ← field text 8 10
    let hour ← field text 11 13
    let minute ← field text 14 16
    let second ← field text 17 19
    if ¬(1 ≤ month ∧ month ≤ 12) ∨ day < 1 ∨ day > daysInMonth year month then none
    else if hour > 23 ∨ minute > 59 ∨ second > 59 then none
    else
      let (nanos, rest) ← fraction (text.drop 19)
      let offsetMinutes ← offset rest
      let seconds :=
        daysFromCivil year month day * 86400 + hour * 3600 + minute * 60 + second - offsetMinutes * 60
      -- A time before the epoch counts its fraction away from it.
      return if seconds ≥ 0 then seconds * 1000000000 + nanos else seconds * 1000000000 - nanos

example : parse "2026-08-13T00:00:00Z" = some 1786579200000000000 := by decide +kernel
example : parse "1970-01-01T00:00:00.5+01:00" = some (-3600500000000) := by decide +kernel
example : parse "2026-02-29T00:00:00Z" = none := by decide +kernel

end Rfc3339

def provenanceClass (number : Int) : Option ProvenanceClass :=
  if number = 1 then some .unverifiedAttribution
  else if number = 2 then some .enrolledNode
  else if number = 3 then some .authenticatedPrincipal
  else if number = 4 then some .providerAttested
  else none

/-- The wire has no absent bytes or text: empty is how a node says none. -/
def optionalBytes (value : Bytes) : Option Bytes := if value.isEmpty then none else some value

def require (holds : Bool) (rejection : V1.Rejection) : Except V1.Rejection Unit :=
  if holds then .ok () else .error rejection

def given {α : Type} (value : Option α) (rejection : V1.Rejection) : Except V1.Rejection α :=
  match value with
  | some value => .ok value
  | none => .error rejection

def nonempty (identity label value : String) : Except V1.Rejection Unit :=
  require (!value.isEmpty) (malformed identity (label ++ " is empty"))

def translate (platform : Platform) (wire : V1.EventEnvelope) : Except V1.Rejection EventEnvelope := do
  let identity := wire.tenantId ++ "/" ++ wire.repositoryId ++ "/" ++ wire.producerId ++ "@" ++
    toString wire.producerSequence
  nonempty identity "tenant_id" wire.tenantId
  nonempty identity "repository_id" wire.repositoryId
  nonempty identity "producer_id" wire.producerId
  let sequence := wire.producerSequence.toNat
  require (decide (0 < sequence ∧ sequence < 2 ^ 63))
    (malformed identity ("producer_sequence " ++ toString wire.producerSequence ++ " is not a positive 63-bit value"))
  nonempty identity "schema_version" wire.schemaVersion
  require (decide (wire.payloadDigest = platform.sha256 wire.payload))
    (malformed identity "payload_digest does not match the SHA-256 of payload")
  let provenance ← given (provenanceClass wire.provenance)
    (malformed identity ("provenance " ++ toString wire.provenance ++ " names no trust class"))
  let occurredAt ← given (Rfc3339.parse wire.occurredAt)
    (malformed identity ("occurred_at " ++ platform.debug wire.occurredAt ++ " is not an RFC 3339 timestamp"))
  return {
    key := ⟨wire.tenantId, wire.repositoryId, wire.producerId, sequence⟩
    payload := wire.payload
    payloadDigest := wire.payloadDigest
    schemaVersion := wire.schemaVersion
    occurredAt
    payloadType := wire.payloadType
    previousEnvelopeDigest := optionalBytes wire.previousEnvelopeDigest
    signingKeyId := if wire.signingKeyId.isEmpty then none else some wire.signingKeyId
    signature := optionalBytes wire.signature
    provenance }

theorem require_error {holds : Bool} {rejection refusal : V1.Rejection}
    (refused : require holds rejection = .error refusal) : refusal = rejection := by
  obtain ⟨_, refused⟩ := else_of_ne refused nofun
  cases refused
  rfl

theorem given_error {α : Type} {value : Option α} {rejection refusal : V1.Rejection}
    (refused : given value rejection = .error refusal) : refusal = rejection := by
  cases value with
  | some => cases refused
  | none =>
    cases refused
    rfl

theorem given_ok {α : Type} {value : Option α} {rejection : V1.Rejection} {result : α}
    (passed : given value rejection = .ok result) : value = some result := by
  cases value with
  | some => exact congrArg some (Except.ok.inj passed)
  | none => cases passed

theorem translate_error {platform : Platform} {wire : V1.EventEnvelope} {rejection : V1.Rejection}
    (refused : translate platform wire = .error rejection) : rejection.reason = .malformed ∧ rejection.retryable = false := by
  rcases bind_error refused with refused | ⟨_, _, refused⟩
  · exact require_error refused ▸ ⟨rfl, rfl⟩
  rcases bind_error refused with refused | ⟨_, _, refused⟩
  · exact require_error refused ▸ ⟨rfl, rfl⟩
  rcases bind_error refused with refused | ⟨_, _, refused⟩
  · exact require_error refused ▸ ⟨rfl, rfl⟩
  rcases bind_error refused with refused | ⟨_, _, refused⟩
  · exact require_error refused ▸ ⟨rfl, rfl⟩
  rcases bind_error refused with refused | ⟨_, _, refused⟩
  · exact require_error refused ▸ ⟨rfl, rfl⟩
  rcases bind_error refused with refused | ⟨_, _, refused⟩
  · exact require_error refused ▸ ⟨rfl, rfl⟩
  rcases bind_error refused with refused | ⟨_, _, refused⟩
  · exact given_error refused ▸ ⟨rfl, rfl⟩
  rcases bind_error refused with refused | ⟨_, _, refused⟩
  · exact given_error refused ▸ ⟨rfl, rfl⟩
  · cases refused

theorem translate_ok {platform : Platform} {wire : V1.EventEnvelope} {envelope : EventEnvelope}
    (translated : translate platform wire = .ok envelope) :
    envelope.key = ⟨wire.tenantId, wire.repositoryId, wire.producerId, wire.producerSequence.toNat⟩ ∧
      provenanceClass wire.provenance = some envelope.provenance := by
  obtain ⟨_, _, translated⟩ := bind_ok translated
  obtain ⟨_, _, translated⟩ := bind_ok translated
  obtain ⟨_, _, translated⟩ := bind_ok translated
  obtain ⟨_, _, translated⟩ := bind_ok translated
  obtain ⟨_, _, translated⟩ := bind_ok translated
  obtain ⟨_, _, translated⟩ := bind_ok translated
  obtain ⟨_, classed, translated⟩ := bind_ok translated
  obtain ⟨_, _, translated⟩ := bind_ok translated
  cases translated
  exact ⟨rfl, given_ok classed⟩

def AppendOutcome.position : AppendOutcome → Int
  | .accepted position => position
  | .duplicate position => position

def AppendOutcome.disposition : AppendOutcome → V1.ReceiptDisposition
  | .accepted _ => .accepted
  | .duplicate _ => .duplicate

/-- A duplicate carries the position of the first send. -/
def receipt (key : DedupKey) (outcome : AppendOutcome) : V1.RecordReceipt :=
  ⟨recordIdentity key, outcome.position.toNat, outcome.disposition⟩

def rejection (key : DedupKey) (error : AppendError) : V1.Rejection :=
  match error with
  | .conflict _ _ =>
    ⟨recordIdentity key, .sequenceConflict, false,
      "this producer_sequence was already accepted with a different envelope digest"⟩
  | .database => ⟨recordIdentity key, .unavailable, true, "the ledger was unavailable; retry with backoff"⟩
  | .poolExhausted => ⟨recordIdentity key, .unavailable, true, "the ledger was unavailable; retry with backoff"⟩

theorem rejection_reason (key : DedupKey) (error : AppendError) : (rejection key error).reason ≠ .nodeRevoked := by
  cases error <;> simp [rejection]

end MindLeak.Ackplane
