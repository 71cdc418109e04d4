import MindLeak.Proofs.DirectiveEffects
import MindLeak.Proofs.DirectiveStreams
import MindLeak.Proofs.StaleCommands

/-! What an inbox answers of a directive that the server stored, before the server's own checks. -/

namespace MindLeak.Ackplane

open CommandStore WorkCommands List Directive Interleaving Option

/-- What both sides rely on outside the repository: a time is read back as it was written, a digest has
its length, and a receipt is encoded as the protocol has it. -/
structure DirectivePlatform.Lawful (platform : DirectivePlatform) : Prop where
  reads : ∀ time text, platform.formatRfc3339 time = some text → platform.parseRfc3339 text = some time
  short : ∀ time text, platform.formatRfc3339 time = some text → text.utf8ByteSize ≤ 35
  hashes : ∀ bytes, (platform.sha256 bytes).length = 32
  encodes : ∀ receipt, platform.encodeReceipt receipt = receipt.encode

def ReferencesFit (references : List String) : Prop :=
  references.length ≤ Directive.MAX_REFS ∧ ∀ reference ∈ references, Directive.IsText Directive.MAX_IDENTIFIER_BYTES reference

variable {platform : DirectivePlatform} {record : DirectiveRecord} {receipt : V1.DirectiveReceipt}

namespace V1.DirectiveReceipt

structure Fits (platform : DirectivePlatform) (record : DirectiveRecord) (receipt : V1.DirectiveReceipt) : Prop where
  its : receipt.Matches record.directive
  status : V1.DirectiveReceiptStatus.tryFrom receipt.status ≠ none
  reason : V1.DirectiveReceiptReason.tryFrom receipt.reason ≠ none
  checkpoints : receipt.checkpointRefs = []
  evidence : ReferencesFit receipt.evidenceRefs
  diagnostic : receipt.diagnostic.utf8ByteSize ≤ Directive.MAX_DIAGNOSTIC_BYTES
  dated : ∃ now, record.createdAt ≤ now ∧ platform.formatRfc3339 now = some receipt.occurredAt

theorem Fits.placed (fits : receipt.Fits platform record) (outboxSequence : Option Nat) :
    Fits platform record { receipt with outboxSequence := outboxSequence } :=
  ⟨fits.its, fits.status, fits.reason, fits.checkpoints, fits.evidence, fits.diagnostic, fits.dated⟩

theorem Fits.unconfirmed (fits : receipt.Fits platform record) {evidenceRefs : List String} (evidence : ReferencesFit evidenceRefs) :
    (receipt.unconfirmed evidenceRefs).Fits platform record where
  its := fits.its
  status := nofun
  reason := nofun
  checkpoints := fits.checkpoints
  evidence := evidence
  diagnostic := by
    simp only [V1.DirectiveReceipt.unconfirmed]
    decide
  dated := fits.dated

theorem Fits.conclude (fits : receipt.Fits platform record) {result : Except AdapterError Unit}
    (told : ∀ error, result = .error error → error.text.utf8ByteSize ≤ Directive.MAX_DIAGNOSTIC_BYTES) :
    (receipt.conclude result).Fits platform record := by
  cases result with
  | ok => exact ⟨fits.its, nofun, nofun, fits.checkpoints, fits.evidence, Nat.zero_le _, fits.dated⟩
  | error error =>
    refine ⟨fits.its, ?_, nofun, fits.checkpoints, fits.evidence, told error rfl, fits.dated⟩
    cases error <;> exact nofun

end V1.DirectiveReceipt

theorem DirectiveRecord.Checked.fields {platform : DirectivePlatform} {record : DirectiveRecord} (checked : record.Checked platform) :
    (∀ field ∈ Directive.identifiers record.directive, Directive.IsText Directive.MAX_IDENTIFIER_BYTES field.2) ∧
      record.directive.payloadDigest.length = Directive.DIGEST_BYTES := by
  obtain ⟨requirement, valid⟩ := checked.valid
  obtain ⟨_, identified, valid⟩ := bind_ok valid
  obtain ⟨_, _, valid⟩ := bind_ok valid
  obtain ⟨_, _, valid⟩ := bind_ok valid
  obtain ⟨_, _, valid⟩ := bind_ok valid
  obtain ⟨_, digest, _⟩ := bind_ok valid
  rw [refuseIf_ok, ne_eq, not_not] at digest
  refine ⟨fun field member => ?_, digest⟩
  have passed := forM_ok identified field member
  exact not_not.mp (refuseIf_ok.mp passed)

namespace V1.DirectiveReceipt

section
variable (fits : receipt.Fits platform record)
include fits

theorem Fits.identifiers (checked : record.Checked platform) :
    ∀ field ∈ receipt.identifiers, Directive.IsText Directive.MAX_IDENTIFIER_BYTES field.2 := by
  obtain ⟨directiveId, tenantId, repositoryId, projectId, nodeId, sessionId, _⟩ := fits.its
  have fields := checked.fields.1
  simp only [Directive.identifiers, forall_mem_cons] at fields
  obtain ⟨one, two, three, four, five, six, _⟩ := fields
  simp only [DirectiveReceipt.identifiers, forall_mem_cons, directiveId, tenantId, repositoryId, projectId, nodeId, sessionId]
  exact ⟨one, two, three, four, five, six, fun _ member => by cases member⟩

theorem Fits.length_encode_le (checked : record.Checked platform) (lawful : platform.Lawful) :
    receipt.encode.length ≤ Directive.MAX_PAYLOAD_BYTES := by
  have identified := fits.identifiers checked
  simp only [DirectiveReceipt.identifiers, forall_mem_cons] at identified
  obtain ⟨⟨_, one⟩, ⟨_, two⟩, ⟨_, three⟩, ⟨_, four⟩, ⟨_, five⟩, ⟨_, six⟩, _⟩ := identified
  obtain ⟨now, _, dated⟩ := fits.dated
  have digest : receipt.payloadDigest.length ≤ 32 := by
    rw [fits.its.2.2.2.2.2.2.2, checked.fields.2]
    exact Nat.le_refl _
  have sequence := Protobuf.length_optionalNumber_le (by decide : 15 < 16) receipt.outboxSequence
  have one := Protobuf.length_text_le (by decide : 1 < 16) one (by decide)
  have two := Protobuf.length_text_le (by decide : 2 < 16) two (by decide)
  have three := Protobuf.length_text_le (by decide : 4 < 16) three (by decide)
  have four := Protobuf.length_text_le (by decide : 3 < 16) four (by decide)
  have five := Protobuf.length_text_le (by decide : 5 < 16) five (by decide)
  have six := Protobuf.length_text_le (by decide : 6 < 16) six (by decide)
  have status := Protobuf.length_number_le (by decide : 7 < 16) (UInt64.ofInt receipt.status).toNat
  have reason := Protobuf.length_number_le (by decide : 8 < 16) (UInt64.ofInt receipt.reason).toNat
  have time := Protobuf.length_text_le (by decide : 9 < 16) (lawful.short _ _ dated) (by decide)
  have payload := Protobuf.length_bytes_le (by decide : 10 < 16) digest (by decide)
  have evidence := Protobuf.length_texts_le (by decide : 12 < 16) (fun value member => (fits.evidence.2 value member).2) (by decide)
  have number := Protobuf.length_number_le (by decide : 13 < 16) receipt.directiveSequence
  have diagnostic := Protobuf.length_text_le (by decide : 14 < 16) fits.diagnostic (by decide)
  have references := Nat.mul_le_mul_right (Directive.MAX_IDENTIFIER_BYTES + 3) fits.evidence.1
  simp only [DirectiveReceipt.encode, length_append, fits.checkpoints, Protobuf.texts, flatMap_nil, length_nil,
    Protobuf.enumeration]
  simp only [Protobuf.texts] at evidence
  simp only [Directive.MAX_IDENTIFIER_BYTES, Directive.MAX_DIAGNOSTIC_BYTES, Directive.MAX_REFS, Directive.MAX_PAYLOAD_BYTES] at *
  omega

theorem Fits.validate (checked : record.Checked platform) (lawful : platform.Lawful)
    (epoch : 0 ≤ record.createdAt) : ∃ occurredAt, receipt.validate platform record.directive record.createdAt = .ok occurredAt := by
  obtain ⟨now, later, dated⟩ := fits.dated
  have parsed : parseTimestamp platform.toEnrollmentPlatform receipt.occurredAt = .ok now := by
    rw [parseTimestamp, lawful.reads now _ dated]
    exact if_neg (Int.not_lt.mpr (Int.le_trans epoch later))
  have references {values : List String} (fit : ReferencesFit values) (field : String) :
      validateReferences field values = .ok () :=
    (ok_bind (refuseIf_of_not (Nat.not_lt.mpr fit.1))).trans
      (forM_of_ok fun value member => refuseIf_of_not (not_not.mpr (fit.2 value member)))
  have none : ReferencesFit receipt.checkpointRefs := by
    rw [fits.checkpoints]
    exact ⟨Nat.zero_le _, nofun⟩
  have digest : receipt.payloadDigest.length = Directive.DIGEST_BYTES := by rw [fits.its.2.2.2.2.2.2.2, checked.fields.2]
  have encoded : (platform.encodeReceipt receipt).length ≤ Directive.MAX_PAYLOAD_BYTES := by
    rw [lawful.encodes]
    exact fits.length_encode_le checked lawful
  refine ⟨now, ?_⟩
  refine (ok_bind (forM_of_ok fun field member => refuseIf_of_not (not_not.mpr (fits.identifiers checked field member)))).trans ?_
  refine (ok_bind (references none _)).trans ((ok_bind (references fits.evidence _)).trans ?_)
  refine (ok_bind (refuseIf_of_not (not_or.mpr ⟨Nat.not_lt.mpr fits.diagnostic, not_not.mpr digest⟩))).trans ?_
  refine (ok_bind (refuseIf_of_not (not_or.mpr ⟨fits.status, fits.reason⟩))).trans ?_
  refine (ok_bind (refuseIf_of_not (not_not.mpr fits.its))).trans ((ok_bind parsed).trans ?_)
  exact (ok_bind (refuseIf_of_not (Int.not_lt.mpr later))).trans (ok_bind (refuseIf_of_not (Nat.not_lt.mpr encoded)))

theorem Fits.commandReason_le : receipt.commandReason.utf8ByteSize ≤ MAX_REASON_BYTES := by
  have status : (toString receipt.status).utf8ByteSize ≤ 2 := by
    have known := fits.status
    generalize receipt.status = status at known
    unfold DirectiveReceiptStatus.tryFrom at known
    split at known <;> first | decide | exact absurd rfl known
  have reason : (toString receipt.reason).utf8ByteSize ≤ 2 := by
    have known := fits.reason
    generalize receipt.reason = reason at known
    unfold DirectiveReceiptReason.tryFrom at known
    split at known <;> first | decide | exact absurd rfl known
  unfold commandReason
  split
  · have first : "supervisor directive receipt: status=".utf8ByteSize = 37 := by decide
    have second : ", reason=".utf8ByteSize = 9 := by decide
    rw [String.utf8ByteSize_append, String.utf8ByteSize_append, String.utf8ByteSize_append, first, second, MAX_REASON_BYTES]
    omega
  · exact fits.diagnostic

end

end V1.DirectiveReceipt

section

theorem utf8ByteSize_of_ascii {chars : List Char} (ascii : ∀ c ∈ chars, c.utf8Size = 1) :
    (String.ofList chars).utf8ByteSize = chars.length := by
  induction chars with
  | nil => rfl
  | cons c rest ih =>
    obtain ⟨here, others⟩ := forall_mem_cons.mp ascii
    rw [String.ofList_cons, String.utf8ByteSize_append, String.utf8ByteSize_singleton, here, ih others, length_cons, Nat.add_comm]

theorem utf8Size_hexDigit (digit : UInt8) (small : digit < 16) : (hexDigit digit).utf8Size = 1 := by
  have each : ∀ n : Fin 16, (hexDigit (UInt8.ofNat n)).utf8Size = 1 := by decide
  have below : digit.toNat < 16 := small
  have its := each ⟨digit.toNat, below⟩
  rwa [UInt8.ofNat_toNat] at its

theorem utf8ByteSize_hexText (bytes : Bytes) : (hexText bytes).utf8ByteSize = 2 * bytes.length := by
  rw [hexText, utf8ByteSize_of_ascii, length_flatMap]
  · change (bytes.map fun _ => 2).sum = _
    rw [map_const', sum_replicate_nat, Nat.mul_comm]
  · intro c member
    obtain ⟨byte, _, its⟩ := mem_flatMap.mp member
    have high : byte / 16 < 16 := by
      exact Nat.div_lt_of_lt_mul byte.toNat_lt
    have low : byte % 16 < 16 := UInt8.mod_lt byte (by decide)
    rcases mem_cons.mp its with rfl | its
    · exact utf8Size_hexDigit _ high
    · cases mem_singleton.mp its
      exact utf8Size_hexDigit _ low

def CommandStore.Assigned (platform : Platform) (s : CommandStore) : Prop :=
  ∀ row ∈ s.commands.rows, ∃ request : NewWorkCommand, row.commandId = request.assignedCommandId platform

theorem CommandCall.Does.assigned {order : CommandStore → CommandStore → Prop} {seen : CommandStore → Prop} {s after : CommandStore}
    {call : CommandCall} {answer : CommandAnswer} (assigned : s.Assigned platform.toPlatform)
    (does : Does platform order seen s call after answer) : after.Assigned platform.toPlatform := by
  intro row member
  rcases does.commands member with ⟨old, inside, same⟩ | ⟨request, digest, now, _, rfl, _⟩
  · rw [same]
    exact assigned old inside
  · exact ⟨request, rfl⟩

theorem isIdentifier_of_isText {value : String} (text : Directive.IsText Directive.MAX_IDENTIFIER_BYTES value) : IsIdentifier value := by
  refine ⟨?_, text.2⟩
  rintro rfl
  exact absurd text.1 (by decide)

theorem isIdentifier_of_size {value : String} {size : Nat} (its : value.utf8ByteSize = size) (positive : 0 < size)
    (fits : size ≤ WorkCommands.MAX_IDENTIFIER_BYTES) : IsIdentifier value := by
  refine ⟨?_, its ▸ fits⟩
  rintro rfl
  exact absurd its (Nat.ne_of_lt positive)

theorem utf8ByteSize_assignedCommandId (lawful : platform.Lawful) (request : NewWorkCommand) :
    (request.assignedCommandId platform.toPlatform).utf8ByteSize = 77 := by
  rw [NewWorkCommand.assignedCommandId, String.utf8ByteSize_append, utf8ByteSize_hexText, lawful.hashes]
  rfl

theorem V1.DirectiveReceipt.Fits.validate_command {record : DirectiveRecord} {receipt : V1.DirectiveReceipt}
    (fits : receipt.Fits platform record) (checked : record.Checked platform) (lawful : platform.Lawful) {command : WorkCommandRow}
    (assigned : ∃ request : NewWorkCommand, command.commandId = request.assignedCommandId platform.toPlatform)
    (issuer : command.issued = some record.directive.key) (outcome : WorkCommandOutcome) (now : Int) :
    (command.directiveReceipt receipt outcome now).validate now = .ok () := by
  obtain ⟨request, commandId⟩ := assigned
  have size : command.commandId.utf8ByteSize = 77 := by rw [commandId, utf8ByteSize_assignedCommandId lawful]
  have receiptId : command.directiveReceiptId.utf8ByteSize = 87 := by
    rw [WorkCommandRow.directiveReceiptId, String.utf8ByteSize_append, size]
    rfl
  obtain ⟨directiveId, _, its⟩ := map_eq_some_iff.mp issuer
  obtain ⟨tenantId, repositoryId, _⟩ := DirectiveKey.mk.inj its
  have fields := checked.fields.1
  simp only [Directive.identifiers, forall_mem_cons] at fields
  obtain ⟨_, tenant, repository, _⟩ := fields
  have identified : ∀ field ∈ (command.directiveReceipt receipt outcome now).identifiers, IsIdentifier field.2 := by
    simp only [NewWorkCommandReceipt.identifiers, WorkCommandRow.directiveReceipt, forall_mem_cons]
    refine ⟨?_, ?_, isIdentifier_of_size size (by decide) (by decide), isIdentifier_of_size receiptId (by decide) (by decide), ?_⟩
    · rw [tenantId]
      exact isIdentifier_of_isText tenant
    · rw [repositoryId]
      exact isIdentifier_of_isText repository
    · exact fun _ member => by cases member
  have references : ¬(MAX_POLICY_REFS < receipt.evidenceRefs.length ∨ ∃ value ∈ receipt.evidenceRefs, ¬IsIdentifier value) := by
    rintro (long | ⟨value, member, unfit⟩)
    · exact absurd fits.evidence.1 (Nat.not_le.mpr long)
    · exact unfit (isIdentifier_of_isText (fits.evidence.2 value member))
  refine (ok_bind (forM_of_ok fun field member => refuseIf_of_not (not_not.mpr (identified field member)))).trans ?_
  refine (ok_bind (refuseIf_of_not (Nat.not_lt.mpr fits.commandReason_le))).trans ((ok_bind (refuseIf_of_not references)).trans ?_)
  exact refuseIf_of_not (Int.not_lt.mpr (Int.le_refl now))

end

namespace InboxOp

def Serves (record : DirectiveRecord) : InboxOp → Prop
  | .receive directive now | .apply directive now _ =>
    directive.directiveId = record.directive.directiveId → directive = record.directive ∧ record.createdAt ≤ now
  | .open _ _ | .record | .run _ | .report | .fail | .crash => True

end InboxOp

def InboxState.Tells (record : DirectiveRecord) (s : InboxState) (op : InboxOp) : Prop :=
  s.asked op = some record.directive → (∀ directive now evidenceRefs, op = .apply directive now evidenceRefs → ReferencesFit evidenceRefs) ∧
    ∀ error, op = .run (.error error) → error.text.utf8ByteSize ≤ Directive.MAX_DIAGNOSTIC_BYTES

def InboxPhase.Fits (platform : DirectivePlatform) (record : DirectiveRecord) : InboxPhase → Prop
  | .closed | .ready _ => True
  | .accepted _ directive _ evidenceRefs receipt => directive.directiveId = record.directive.directiveId →
    directive = record.directive ∧ ReferencesFit evidenceRefs ∧ receipt.Fits platform record
  | .recorded _ directive _ receipt | .ran _ directive receipt => directive.directiveId = record.directive.directiveId →
    directive = record.directive ∧ receipt.Fits platform record

namespace InboxState

/-- What the inbox would answer of the record's directive passes the server's checks. -/
structure Fits (platform : DirectivePlatform) (record : DirectiveRecord) (s : InboxState) : Prop where
  stored : ∀ stored, s.tables.receipts.find? record.directive.directiveId = some stored → stored.intoReceipt.Fits platform record
  told : ∀ effect, s.tables.effects.find? record.directive.directiveId = some effect → effect.receipt.Fits platform record
  phase : s.phase.Fits platform record

theorem fits_empty (platform : DirectivePlatform) (record : DirectiveRecord) : empty.Fits platform record where
  stored _ found := by cases found
  told _ found := by cases found
  phase := trivial

variable {s after : InboxState} {op : InboxOp} {answer : Option InboxAnswer}

theorem Fits.storeEffect (fits : s.Fits platform record) {directiveId : String} {receipt : V1.DirectiveReceipt} {phase : InboxPhase}
    (its : directiveId = record.directive.directiveId → receipt.Fits platform record) (next : phase.Fits platform record) :
    Fits platform record ⟨s.tables.storeEffect directiveId receipt, phase⟩ where
  stored := fits.stored
  told effect found := by
    rw [InboxTables.storeEffect, Table.find?_put] at found
    split at found
    next same =>
      cases found
      exact its same
    next => exact fits.told effect found
  phase := next

theorem Fits.receives (fits : s.Fits platform record) {inbox : SupervisorInbox} {directive : V1.AgentDirective} {now : Int}
    {receipt : V1.DirectiveReceipt} {tables : InboxTables}
    (serves : directive.directiveId = record.directive.directiveId → directive = record.directive ∧ record.createdAt ≤ now)
    (admitted : inbox.admissible platform directive = .ok ()) (received : inbox.Receives platform s.tables directive now receipt tables) :
    (∀ phase : InboxPhase, phase.Fits platform record → Fits platform record ⟨tables, phase⟩) ∧
      (directive = record.directive → receipt.Fits platform record) := by
  cases received with
  | @replays stored found =>
    refine ⟨fun _ next => ⟨fits.stored, fits.told, next⟩, ?_⟩
    rintro rfl
    have named : stored.directiveId = record.directive.directiveId := (Table.mem_of_find? found).2
    unfold InboxTables.receiptOf
    split
    next effect there => exact fits.told effect (named ▸ there)
    next => exact fits.stored stored found
  | @stores requirement expiresAt occurredAt absent _ _ _ formatted stored its =>
    have named : stored.directiveId = directive.directiveId := congrArg StoredReceipt.directiveId its
    have fit (same : directive.directiveId = record.directive.directiveId) : stored.intoReceipt.Fits platform record := by
      obtain ⟨rfl, later⟩ := serves same
      obtain ⟨_, target, _⟩ := bind_ok admitted
      have here := refuseIf_ok.mp target
      simp only [not_or, ne_eq, not_not] at here
      obtain ⟨tenantId, repositoryId, nodeId, sessionId⟩ := here
      subst its
      refine ⟨⟨rfl, tenantId.symm, repositoryId.symm, rfl, nodeId.symm, sessionId.symm, rfl, rfl⟩, ?_, ?_, rfl, ⟨Nat.zero_le _, nofun⟩,
        Nat.zero_le _, now, later, formatted⟩
      · exact fun none => by cases (V1.DirectiveReceiptStatus.tryFrom_asI32 _).symm.trans none
      · exact fun none => by cases (V1.DirectiveReceiptReason.tryFrom_asI32 _).symm.trans none
    refine ⟨fun _ next => ⟨fun other found => ?_, fits.told, next⟩, fun same => fit (congrArg V1.AgentDirective.directiveId same)⟩
    rw [Table.find?_insertOrIgnore] at found
    split at found
    next same =>
      have same : directive.directiveId = record.directive.directiveId := named.symm.trans same
      rw [same] at absent
      rw [absent] at found
      cases found
      exact fit same
    next => exact fits.stored other found

theorem Moves.fits (moves : s.Moves platform op after answer) (serves : op.Serves record) (tells : s.Tells record op)
    (fits : s.Fits platform record) : after.Fits platform record ∧
      ∀ receipt, s.asked op = some record.directive → answer = some (.ok receipt) → receipt.Fits platform record := by
  have held := fits.phase
  cases moves with
  | stays unreceipted => exact ⟨fits, fun receipt _ same => absurd same (unreceipted receipt)⟩
  | opens _ opened =>
    obtain ⟨_, same, _⟩ := SupervisorInbox.fromConnection_bound opened
    refine ⟨⟨?_, ?_, trivial⟩, fun _ _ none => by cases none⟩
    · rw [same]
      exact fits.stored
    · rw [same]
      exact fits.told
  | receives _ admitted received | applied _ admitted received =>
    obtain ⟨kept, told⟩ := fits.receives serves admitted received
    refine ⟨kept _ trivial, fun receipt its same => ?_⟩
    cases same
    exact told (some.inj its)
  | accepts _ admitted received =>
    obtain ⟨kept, told⟩ := fits.receives serves admitted received
    refine ⟨kept _ fun same => ?_, fun _ _ none => by cases none⟩
    obtain ⟨its, _⟩ := serves same
    exact ⟨its, (tells (congrArg some its)).1 _ _ _ rfl, told its⟩
  | replays phase found =>
    refine ⟨⟨fits.stored, fits.told, trivial⟩, fun receipt its same => ?_⟩
    cases same
    simp only [asked, phase, some.injEq] at its
    subst its
    exact fits.told _ found
  | @records inbox directive now evidenceRefs receipt phase =>
    rw [phase] at held
    have fit (same : directive.directiveId = record.directive.directiveId) := (held same).2.2.unconfirmed (held same).2.1
    exact ⟨fits.storeEffect fit fun same => ⟨(held same).1, fit same⟩, fun _ _ none => by cases none⟩
  | runs phase =>
    rw [phase] at held
    refine ⟨⟨fits.stored, fits.told, fun same => ?_⟩, fun _ _ none => by cases none⟩
    obtain ⟨rfl, fit⟩ := held same
    refine ⟨rfl, fit.conclude fun error failed => (tells ?_).2 error (congrArg _ failed)⟩
    simp only [asked, phase]
  | reports phase =>
    rw [phase] at held
    refine ⟨fits.storeEffect (fun same => (held same).2) trivial, fun receipt its same => ?_⟩
    cases same
    simp only [asked, phase, some.injEq] at its
    subst its
    exact (held rfl).2
  | fails | crashes => exact ⟨⟨fits.stored, fits.told, trivial⟩, fun _ _ none => by cases none⟩

end InboxState

section
variable {τ : Type} [DecidableEq τ] {calls : List (WorkStep τ)} {server : WorkControl τ} {history : List InboxStep}
  {state : InboxState}

theorem directives_checked (run : (workControl platform τ .empty).Run calls server) :
    server.store.Sequenced platform ∧ server.store.Assigned platform.toPlatform := by
  refine (run_steps run (CommandCall.program_within platform)
    (fun s => s.Sequenced platform ∧ s.Assigned platform.toPlatform) CommandStore.Grows .refl .trans
    ⟨sequenced_empty platform, fun _ member => by cases member⟩ fun entry member call answer known committing commits => ?_).1.1
  have does := CommandCall.program_does commits
  exact ⟨⟨known.1.directs does.directs, does.assigned known.2⟩, does.grows⟩

/-- No receipt is refused that the inbox returns for a directive of the server, if references and errors
fit that go into it. -/
theorem receipts_are_taken (lawful : platform.Lawful) (served : (workControl platform τ .empty).Run calls server)
    (run : (supervisorInbox platform).Run history state) (record : DirectiveRecord) (stored : record ∈ server.store.directives.rows)
    (epoch : 0 ≤ record.createdAt) (serves : ∀ entry ∈ history, entry.op.Serves record)
    (tells : ∀ entry ∈ history, entry.before.Tells record entry.op) :
    ∀ entry ∈ history, ∀ receipt, Returning platform entry record.directive receipt →
      (∀ outboxSequence, ∃ occurredAt, V1.DirectiveReceipt.validate platform { receipt with outboxSequence := outboxSequence }
        record.directive record.createdAt = .ok occurredAt) ∧
      ∀ command ∈ server.store.commands.rows, command.issued = some record.directive.key → ∀ outcome now,
        (command.directiveReceipt receipt outcome now).validate now = .ok () := by
  obtain ⟨sequenced, assigned⟩ := directives_checked served
  have checked := sequenced.checked record stored
  suffices both : (∀ entry ∈ history, ∀ receipt, Returning platform entry record.directive receipt → receipt.Fits platform record) ∧
      state.Fits platform record by
    intro entry member receipt returning
    have fits := both.1 entry member receipt returning
    exact ⟨fun outboxSequence => (fits.placed outboxSequence).validate checked lawful epoch,
      fun command there issuer outcome now => fits.validate_command checked lawful (assigned command there) issuer outcome now⟩
  induction run with
  | start => exact ⟨fun _ member => by (cases member), InboxState.fits_empty platform record⟩
  | @step history state past op ready ih =>
    obtain ⟨serve, serves⟩ := forall_mem_cons.mp serves
    obtain ⟨tell, tells⟩ := forall_mem_cons.mp tells
    obtain ⟨returned, fits⟩ := ih serves tells
    obtain ⟨fits', told⟩ := (state.step_moves platform op).fits serve tell fits
    exact ⟨forall_mem_cons.mpr ⟨fun receipt returning => told receipt returning.1 returning.2, returned⟩, fits'⟩

end

section

theorem utf8Size_digit {digit : Nat} (small : digit < 10) : (Char.ofNat (48 + digit)).utf8Size = 1 := by
  have each : ∀ n : Fin 10, (Char.ofNat (48 + n)).utf8Size = 1 := by decide
  exact each ⟨digit, small⟩

theorem digit_toNat {digit : Nat} (small : digit < 10) : (Char.ofNat (48 + digit)).toNat - 48 = digit := by
  have each : ∀ n : Fin 10, (Char.ofNat (48 + n)).toNat - 48 = n := by decide
  exact each ⟨digit, small⟩

theorem firstDay_chars : "1970-01-01T".toList = ['1', '9', '7', '0', '-', '0', '1', '-', '0', '1', 'T'] := by decide

theorem utf8ByteSize_firstDay {second : Nat} (small : second < 86400) : (firstDay second).utf8ByteSize = 20 := by
  have pair {value : Nat} (below : value < 100) : ∀ c ∈ twoDigits value, c.utf8Size = 1 := by
    simp only [twoDigits, forall_mem_cons]
    exact ⟨utf8Size_digit (by omega), utf8Size_digit (by omega), nofun⟩
  have date : ∀ c ∈ "1970-01-01T".toList, c.utf8Size = 1 := by
    have all : ("1970-01-01T".toList.all fun c => decide (c.utf8Size = 1)) = true := by
      decide
    exact fun c member => of_decide_eq_true (all_eq_true.mp all c member)
  have ascii : ∀ c ∈ "1970-01-01T".toList ++ twoDigits (second / 3600) ++ ':' :: twoDigits (second / 60 % 60) ++
      ':' :: twoDigits (second % 60) ++ ['Z'], c.utf8Size = 1 := by
    have colon : ':'.utf8Size = 1 := by decide
    have zulu : 'Z'.utf8Size = 1 := by decide
    simp only [forall_mem_append, forall_mem_cons]
    exact ⟨⟨⟨⟨date, pair (by omega)⟩, colon, pair (by omega)⟩, colon, pair (by omega)⟩, zulu, nofun⟩
  refine (utf8ByteSize_of_ascii ascii).trans ?_
  simp only [firstDay_chars, twoDigits, length_append, length_cons, length_nil]

theorem drop_date (rest : List Char) : ("1970-01-01T".toList ++ rest).drop 11 = rest := by
  rfl

theorem toList_firstDay (second : Nat) : (firstDay second).toList = "1970-01-01T".toList ++ (twoDigits (second / 3600) ++
    ':' :: twoDigits (second / 60 % 60) ++ ':' :: twoDigits (second % 60) ++ ['Z']) := by
  refine String.toList_ofList.trans ?_
  simp only [append_assoc]

theorem parseFirstDay_firstDay {second : Nat} (small : second < 86400) : parseFirstDay (firstDay second) = some (seconds second) := by
  have rest := (congrArg (List.drop 11) (toList_firstDay second)).trans (drop_date _)
  have hour : second / 3600 / 10 * 10 + second / 3600 % 10 = second / 3600 := by omega
  have minute : second / 60 % 60 / 10 * 10 + second / 60 % 60 % 10 = second / 60 % 60 := by omega
  have told : second / 3600 * 3600 + second / 60 % 60 * 60 + second % 60 / 10 * 10 + second % 60 % 10 = second := by omega
  rw [parseFirstDay, rest]
  simp only [twoDigits, cons_append, nil_append]
  rw [digit_toNat (by omega), digit_toNat (by omega), digit_toNat (by omega), digit_toNat (by omega), digit_toNat (by omega),
    digit_toNat (by omega), hour, minute, told]
  exact if_pos ⟨small, rfl⟩

theorem formatFirstDay_eq {time : Int} {text : String} (formatted : formatFirstDay time = some text) :
    ∃ second, second < 86400 ∧ time = seconds second ∧ text = firstDay second := by
  obtain ⟨whole, formatted⟩ := then_of_ne formatted nofun
  cases formatted
  obtain ⟨positive, early, exact⟩ := whole
  refine ⟨(time / seconds 1).toNat, ?_, ?_, rfl⟩ <;> simp only [seconds] at early exact ⊢ <;> omega

theorem wire_lawful : wire.Lawful where
  reads time text formatted := by
    obtain ⟨second, small, rfl, rfl⟩ := formatFirstDay_eq formatted
    have reads : wire.parseRfc3339 = parseFirstDay := rfl
    rw [reads, parseFirstDay_firstDay small]
  short time text formatted := by
    obtain ⟨second, small, rfl, rfl⟩ := formatFirstDay_eq formatted
    rw [utf8ByteSize_firstDay small]
    decide
  hashes bytes := Sha256.length_digest bytes
  encodes _ := rfl

end

section

def asksNotice : V1.AgentDirective := { notice with sequence := 0, createdAt := "" }

def noticeCalls : List CommandCall := [.recordSession workerSession, .enqueue asksNotice (seconds 1)]

theorem notice_stored : (afterCalls noticeCalls).directives.rows.map (fun row => (row.directive, row.createdAt)) = [(notice, seconds 1)] := by
  decide +kernel

theorem notice_served : ∃ calls server record, (workControl wire Nat .empty).Run calls server ∧
    record ∈ server.store.directives.rows ∧ record.directive = notice ∧ record.createdAt = seconds 1 := by
  obtain ⟨calls, standing, run, _⟩ := serial_run look guards (CommandCall.program wire) .empty noticeCalls
  have member : (notice, seconds 1) ∈ (afterCalls noticeCalls).directives.rows.map fun row => (row.directive, row.createdAt) := by
    rw [notice_stored]
    exact mem_cons_self
  have run : (workControl wire Nat .empty).Run calls ⟨afterCalls noticeCalls, fun _ => none, standing⟩ := run
  generalize afterCalls noticeCalls = store at member run
  obtain ⟨record, there, its⟩ := mem_map.mp member
  exact ⟨calls, _, record, run, there, (Prod.mk.inj its).1, (Prod.mk.inj its).2⟩

theorem applies_serves {record : DirectiveRecord} (its : record.directive = notice) (created : record.createdAt = seconds 1) :
    ∀ op ∈ applies, op.Serves record := by
  refine forall_mem_cons.mpr ⟨fun _ => ⟨its.symm, ?_⟩, forall_mem_singleton.mpr trivial⟩
  rw [created]
  decide

def failing : AdapterError := .spawnFailed (String.ofList (List.replicate 4096 'x'))

theorem spawnFailed_size {n : Nat} : (AdapterError.spawnFailed (String.ofList (List.replicate n 'x'))).text.utf8ByteSize = 24 + n := by
  have lead : "failed to start worker: ".utf8ByteSize = 24 := by decide
  have ascii : ∀ c ∈ List.replicate n 'x', c.utf8Size = 1 := by
    intro c member
    rw [eq_of_mem_replicate member]
    decide
  refine String.utf8ByteSize_append.trans ?_
  rw [lead, utf8ByteSize_of_ascii ascii, length_replicate]

theorem failing_text : failing.text.utf8ByteSize = 4120 := spawnFailed_size

/-- A receipt that is taken tells no more than there is room for. -/
theorem diagnostic_of_validate {platform : DirectivePlatform} {receipt : V1.DirectiveReceipt} {directive : V1.AgentDirective}
    {created occurredAt : Int} (valid : receipt.validate platform directive created = .ok occurredAt) :
    receipt.diagnostic.utf8ByteSize ≤ Directive.MAX_DIAGNOSTIC_BYTES := by
  obtain ⟨_, _, valid⟩ := bind_ok valid
  obtain ⟨_, _, valid⟩ := bind_ok valid
  obtain ⟨_, _, valid⟩ := bind_ok valid
  obtain ⟨_, fits, _⟩ := bind_ok valid
  exact Nat.not_lt.mp (not_or.mp (refuseIf_ok.mp fits)).1

/-- The error is told in more bytes than the server has room for. -/
theorem long_error_counterexample : ¬∀ calls server, (workControl wire Nat .empty).Run calls server →
    ∀ history state, (supervisorInbox wire).Run history state → ∀ record ∈ server.store.directives.rows, 0 ≤ record.createdAt →
      (∀ entry ∈ history, entry.op.Serves record) → ∀ entry ∈ history, ∀ receipt, Returning wire entry record.directive receipt →
        ∃ occurredAt, receipt.validate wire record.directive record.createdAt = .ok occurredAt := by
  intro taken
  obtain ⟨calls, server, record, run, member, its, created⟩ := notice_served
  have effect : (inboxAfter (.record :: applies)).phase.effect = some (record.directive, seconds 2) := by
    rw [its]
    exact notice_reads.2.1
  have epoch : 0 ≤ record.createdAt := by
    rw [created]
    decide
  have applied := applies_serves its created
  generalize applies = earlier at effect applied
  obtain ⟨inbox, receipt, phase⟩ := InboxPhase.recorded_of_effect effect
  have serves : ∀ op ∈ InboxOp.report :: .run (.error failing) :: .record :: earlier, op.Serves record :=
    forall_mem_cons.mpr ⟨trivial, forall_mem_cons.mpr ⟨trivial, forall_mem_cons.mpr ⟨trivial, applied⟩⟩⟩
  obtain ⟨occurredAt, valid⟩ := taken calls server run _ _ (inbox_run _) record member epoch (inbox_ops serves) _
    (inbox_entry .report [] _) _ (returning_of_recorded phase (.error failing))
  have fits : failing.text.utf8ByteSize ≤ Directive.MAX_DIAGNOSTIC_BYTES := diagnostic_of_validate valid
  rw [failing_text] at fits
  exact absurd fits (by decide)

/-- The notice's receipt is taken. -/
theorem notice_taken : ∃ receipt : V1.DirectiveReceipt, receipt.status = V1.DirectiveReceiptStatus.applied.asI32 ∧
    ∃ occurredAt, receipt.validate wire notice (seconds 1) = .ok occurredAt := by
  obtain ⟨calls, server, record, run, member, its, created⟩ := notice_served
  obtain ⟨_, _, told, asked, _⟩ := notice_reads
  have serves : ∀ op ∈ InboxOp.report :: noticed, op.Serves record :=
    forall_mem_cons.mpr ⟨trivial, forall_mem_cons.mpr ⟨trivial, forall_mem_cons.mpr ⟨trivial, applies_serves its created⟩⟩⟩
  have tells : ∀ op ∈ InboxOp.report :: noticed, (∀ directive now evidenceRefs, op = .apply directive now evidenceRefs →
      ReferencesFit evidenceRefs) ∧ ∀ error, op = .run (.error error) → error.text.utf8ByteSize ≤ Directive.MAX_DIAGNOSTIC_BYTES := by
    refine forall_mem_cons.mpr ⟨by simp, forall_mem_cons.mpr ⟨by simp, forall_mem_cons.mpr ⟨by simp,
      forall_mem_cons.mpr ⟨⟨?_, by simp⟩, forall_mem_singleton.mpr (by simp)⟩⟩⟩⟩
    intro _ _ _ same
    cases same
    exact ⟨Nat.zero_le _, nofun⟩
  obtain ⟨earlier, same⟩ : ∃ earlier, noticed = earlier := ⟨_, rfl⟩
  rw [same] at told asked serves tells
  obtain ⟨receipt, answered, status⟩ := (Option.any_eq_true _ _).mp told
  have epoch : 0 ≤ record.createdAt := by
    rw [created]
    decide
  have taken := (receipts_are_taken wire_lawful run (inbox_run (.report :: earlier)) record member epoch (inbox_ops serves)
    (fun entry inside _ => inbox_ops tells entry inside) _ (inbox_entry .report [] earlier) receipt
    ⟨asked.trans (congrArg some its.symm), InboxState.answered_of_told answered⟩).1 receipt.outboxSequence
  rw [its, created] at taken
  exact ⟨receipt, of_decide_eq_true status, taken⟩

end

end MindLeak.Ackplane
