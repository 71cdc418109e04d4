import Mathlib.Data.List.Sort
import MindLeak.Ackplane.Enrollment
import MindLeak.Library.Sha256
import MindLeak.Library.Text

/-! The context packet of one agent task: what it may hold, and how it is compiled
from mandatory, optional and rejected candidates. -/

namespace MindLeak.Ackplane

def U32_MAX : Nat := 4294967295

inductive ContextItemKind where
  | targetIdentity | objective | acceptance | constitution | policy | safetyControl | evidenceCondition | taskLease
  | evidence | knowledge | outcome | structural
  deriving DecidableEq

inductive ContextMandatoryRequirement where
  | targetIdentity | taskLease | objective | acceptance | constitution | policy | safetyControl | evidenceCondition
  deriving DecidableEq

namespace ContextMandatoryRequirement

def accepts : ContextMandatoryRequirement → ContextItemKind → Bool
  | targetIdentity, .targetIdentity | taskLease, .taskLease | objective, .objective | acceptance, .acceptance
  | constitution, .constitution | policy, .policy | safetyControl, .safetyControl | evidenceCondition, .evidenceCondition => true
  | _, _ => false

def ALL : List ContextMandatoryRequirement :=
  [targetIdentity, taskLease, objective, acceptance, constitution, policy, safetyControl, evidenceCondition]

end ContextMandatoryRequirement

inductive ContextSelectionReason where
  | requiredTargetIdentity | requiredTaskLease | requiredObjective | requiredAcceptance | requiredConstitution | requiredPolicy
  | requiredSafetyControl | requiredEvidenceCondition | explicitTaskReference | evidenceLink | graphReach | semanticSimilarity
  | workingSet | priorOutcome
  deriving DecidableEq

def ContextSelectionReason.mandatoryRequirement : ContextSelectionReason → Option ContextMandatoryRequirement
  | requiredTargetIdentity => some .targetIdentity
  | requiredTaskLease => some .taskLease
  | requiredObjective => some .objective
  | requiredAcceptance => some .acceptance
  | requiredConstitution => some .constitution
  | requiredPolicy => some .policy
  | requiredSafetyControl => some .safetyControl
  | requiredEvidenceCondition => some .evidenceCondition
  | explicitTaskReference | evidenceLink | graphReach | semanticSimilarity | workingSet | priorOutcome => none

inductive ContextPacketError where
  | emptyField (field : String)
  | sourceTenantMismatch (itemId : String)
  | expiryMustFollowIssuance
  | freshnessExpiryMustFollowObservation
  | tokenBudgetExceeded (requested used : Nat)
  | tokenBudgetUsageMismatch (declared selected : Nat)
  | tokenBudgetArithmeticOverflow
  | duplicateSelectedItem (itemId : String)
  | duplicatePacketItem (itemId : String)
  | zeroTokenEstimate (itemId : String)
  | mandatorySelectionMissingRequirement (itemId : String)
  | mandatorySelectionKindMismatch (itemId : String) (itemKind : ContextItemKind) (requirement : ContextMandatoryRequirement)
  | missingMandatoryEnvelopeRequirement (requirement : ContextMandatoryRequirement)
  | mandatorySelectionHasRelevance (itemId : String)
  | optionalSelectionUsesMandatoryReason (itemId : String)
  | optionalSelectionMissingRelevance (itemId : String)
  | rankingTieBreakerMismatch (itemId tieBreaker : String)
  | digestMismatch (expected actual : String)
  deriving DecidableEq

def requireNonEmpty (field value : String) : Except ContextPacketError Unit :=
  if Text.isBlank value then .error (.emptyField field) else .ok ()

def requireOptionalNonEmpty (field : String) : Option String → Except ContextPacketError Unit
  | some value => requireNonEmpty field value
  | none => .ok ()

structure ContextItemScope where
  (tenantId repositoryId : String)
  (projectId taskId goalId : Option String)
  deriving DecidableEq

def ContextItemScope.validate (scope : ContextItemScope) : Except ContextPacketError Unit := do
  requireNonEmpty "selected.source_scope.tenant_id" scope.tenantId
  requireNonEmpty "selected.source_scope.repository_id" scope.repositoryId
  requireOptionalNonEmpty "selected.source_scope.project_id" scope.projectId
  requireOptionalNonEmpty "selected.source_scope.task_id" scope.taskId
  requireOptionalNonEmpty "selected.source_scope.goal_id" scope.goalId

structure ContextProvenance where
  recordedBy : String
  recordedAt : Int
  evidenceReference : Option String
  deriving DecidableEq

def ContextProvenance.validate (provenance : ContextProvenance) : Except ContextPacketError Unit := do
  requireNonEmpty "selected.provenance.recorded_by" provenance.recordedBy
  requireOptionalNonEmpty "selected.provenance.evidence_reference" provenance.evidenceReference

structure ContextFreshness where
  observedAt : Int
  expiresAt : Option Int
  deriving DecidableEq

def ContextFreshness.validate (freshness : ContextFreshness) : Except ContextPacketError Unit :=
  if freshness.expiresAt.any fun expiresAt => decide (expiresAt ≤ freshness.observedAt) then
    .error .freshnessExpiryMustFollowObservation
  else .ok ()

structure ContextSelection where
  itemId : String
  itemKind : ContextItemKind
  sourceReference : String
  sourceScope : ContextItemScope
  provenance : ContextProvenance
  freshness : ContextFreshness
  (sourceVersion rendered : String)
  reason : ContextSelectionReason
  effectiveRelevance : Option Nat
  estimatedTokens : Nat
  mandatory : Bool
  deriving DecidableEq

def ContextSelection.validate (selection : ContextSelection) : Except ContextPacketError Unit := do
  requireNonEmpty "selected.item_id" selection.itemId
  requireNonEmpty "selected.source_reference" selection.sourceReference
  requireNonEmpty "selected.source_version" selection.sourceVersion
  requireNonEmpty "selected.rendered" selection.rendered
  selection.sourceScope.validate
  selection.provenance.validate
  selection.freshness.validate
  if selection.estimatedTokens = 0 then .error (.zeroTokenEstimate selection.itemId)
  else match selection.mandatory, selection.reason.mandatoryRequirement with
    | true, some _ =>
      if selection.effectiveRelevance.isNone then .ok () else .error (.mandatorySelectionHasRelevance selection.itemId)
    | true, none => .error (.mandatorySelectionMissingRequirement selection.itemId)
    | false, some _ => .error (.optionalSelectionUsesMandatoryReason selection.itemId)
    | false, none =>
      if selection.effectiveRelevance.isSome then .ok () else .error (.optionalSelectionMissingRelevance selection.itemId)

structure ContextRankingInputs where
  (effectiveRelevance estimatedTokens : Nat)
  stableTieBreaker : String
  deriving DecidableEq

def ContextRankingInputs.validate (ranking : ContextRankingInputs) (itemId : String) : Except ContextPacketError Unit :=
  if ranking.estimatedTokens = 0 then .error (.zeroTokenEstimate itemId)
  else do
    requireNonEmpty "budget_excluded.ranking.stable_tie_breaker" ranking.stableTieBreaker
    if ranking.stableTieBreaker ≠ itemId then .error (.rankingTieBreakerMismatch itemId ranking.stableTieBreaker) else .ok ()

/-- `Budget` is the only reason there is. -/
structure ContextBudgetExclusion where
  itemId : String
  itemKind : ContextItemKind
  ranking : ContextRankingInputs
  deriving DecidableEq

def ContextBudgetExclusion.validate (exclusion : ContextBudgetExclusion) : Except ContextPacketError Unit := do
  requireNonEmpty "budget_excluded.item_id" exclusion.itemId
  exclusion.ranking.validate exclusion.itemId

inductive ContextCandidateRejectionReason where
  | unauthorized | staleBeyondPolicy | retired | outOfScope | missingRequiredEvidence
  deriving DecidableEq

structure ContextCandidateRejection where
  itemId : String
  itemKind : ContextItemKind
  (sourceReference sourceVersion : String)
  reason : ContextCandidateRejectionReason
  deriving DecidableEq

def ContextCandidateRejection.validate (rejection : ContextCandidateRejection) : Except ContextPacketError Unit := do
  requireNonEmpty "rejected.item_id" rejection.itemId
  requireNonEmpty "rejected.source_reference" rejection.sourceReference
  requireNonEmpty "rejected.source_version" rejection.sourceVersion

structure ContextPacketScope where
  (tenantId repositoryId taskId goalId agentSessionId : String)
  deriving DecidableEq

def ContextPacketScope.validate (scope : ContextPacketScope) : Except ContextPacketError Unit :=
  [("tenant_id", scope.tenantId), ("repository_id", scope.repositoryId), ("task_id", scope.taskId), ("goal_id", scope.goalId),
    ("agent_session_id", scope.agentSessionId)].forM fun entry => requireNonEmpty entry.1 entry.2

/-- What a packet and the request for it say alike. -/
structure ContextPacketHeader where
  (packetId protocolVersion : String)
  scope : ContextPacketScope
  projectId : Option String
  compilerVersion : String
  (issuedAt expiresAt : Int)
  (ledgerPosition projectionPosition : Nat)
  deriving DecidableEq

def ContextPacketHeader.validate (header : ContextPacketHeader) : Except ContextPacketError Unit := do
  requireNonEmpty "packet_id" header.packetId
  requireNonEmpty "protocol_version" header.protocolVersion
  requireOptionalNonEmpty "project_id" header.projectId
  requireNonEmpty "compiler_version" header.compilerVersion
  header.scope.validate
  if header.expiresAt ≤ header.issuedAt then .error .expiryMustFollowIssuance else .ok ()

structure ContextPacket extends ContextPacketHeader where
  digest : String
  (requested used : Nat)
  selected : List ContextSelection
  budgetExcluded : List ContextBudgetExclusion
  rejected : List ContextCandidateRejection
  deriving DecidableEq

/-- A loop over items that checks each and enters its id in a set, where no id may be yet. -/
def enterEach {α ε : Type} (idOf : α → String) (first : α → Except ε Unit) (duplicate : String → ε) (then_ : α → Except ε Unit)
    (seen : List String) (items : List α) : Except ε (List String) :=
  items.foldlM (fun seen item => do
    first item
    if idOf item ∈ seen then .error (duplicate (idOf item))
    else do
      then_ item
      .ok (seen ++ [idOf item])) seen

def checkedTotal {ε : Type} (overflow : ε) (estimates : List Nat) : Except ε Nat :=
  estimates.foldlM (fun total estimate => if total + estimate ≤ U32_MAX then .ok (total + estimate) else .error overflow) 0

namespace ContextPacket

def checkMandatory (selection : ContextSelection) : Except ContextPacketError Unit :=
  if selection.mandatory then
    match selection.reason.mandatoryRequirement with
    | none => .error (.mandatorySelectionMissingRequirement selection.itemId)
    | some requirement =>
      if requirement.accepts selection.itemKind then .ok ()
      else .error (.mandatorySelectionKindMismatch selection.itemId selection.itemKind requirement)
  else .ok ()

def checkSelection (tenantId : String) (selection : ContextSelection) : Except ContextPacketError Unit := do
  selection.validate
  if selection.sourceScope.tenantId ≠ tenantId then .error (.sourceTenantMismatch selection.itemId) else .ok ()

/-- The requirements are collected in the loop that checks the selections. -/
def satisfied (packet : ContextPacket) : List ContextMandatoryRequirement :=
  packet.selected.filterMap fun selection => if selection.mandatory then selection.reason.mandatoryRequirement else none

def validateContent (packet : ContextPacket) : Except ContextPacketError Unit := do
  packet.toContextPacketHeader.validate
  if packet.requested < packet.used then .error (.tokenBudgetExceeded packet.requested packet.used)
  else do
    let itemIds ← enterEach (·.itemId) (checkSelection packet.scope.tenantId) .duplicateSelectedItem checkMandatory [] packet.selected
    ContextMandatoryRequirement.ALL.forM fun requirement =>
      if requirement ∈ packet.satisfied then .ok () else .error (.missingMandatoryEnvelopeRequirement requirement)
    let itemIds ← enterEach (·.itemId) ContextBudgetExclusion.validate .duplicatePacketItem (fun _ => .ok ()) itemIds
      packet.budgetExcluded
    let _ ← enterEach (·.itemId) ContextCandidateRejection.validate .duplicatePacketItem (fun _ => .ok ()) itemIds packet.rejected
    let selected ← checkedTotal .tokenBudgetArithmeticOverflow (packet.selected.map (·.estimatedTokens))
    if selected ≠ packet.used then .error (.tokenBudgetUsageMismatch packet.used selected) else .ok ()

/-- `encode` writes all the content but the digest as JSON. -/
def computedDigest (encode : ContextPacket → List UInt8) (packet : ContextPacket) : String :=
  String.ofList ((Sha256.digest (encode { packet with digest := "" })).flatMap fun byte => [hexDigit (byte / 16), hexDigit (byte % 16)])

variable (encode : ContextPacket → List UInt8)

def validate (packet : ContextPacket) : Except ContextPacketError Unit := do
  packet.validateContent
  requireNonEmpty "digest" packet.digest
  if packet.digest ≠ packet.computedDigest encode then .error (.digestMismatch (packet.computedDigest encode) packet.digest)
  else .ok ()

def «seal» (packet : ContextPacket) : Except ContextPacketError ContextPacket := do
  packet.validateContent
  let packet := { packet with digest := packet.computedDigest encode }
  packet.validate encode
  .ok packet

end ContextPacket

structure ContextPacketCandidate where
  itemId : String
  itemKind : ContextItemKind
  sourceReference : String
  sourceScope : ContextItemScope
  provenance : ContextProvenance
  freshness : ContextFreshness
  (sourceVersion rendered : String)
  reason : ContextSelectionReason
  (estimatedTokens relevance : Nat)

structure ContextPacketCompilationRequest extends ContextPacketHeader where
  tokenBudget : Nat
  (mandatory optional : List ContextPacketCandidate)
  rejected : List ContextCandidateRejection

inductive ContextPacketCompilerError where
  | zeroTokenEstimate (itemId : String)
  | staleCandidate (itemId : String) (issuedAt expiresAt : Int)
  | duplicateCandidate (itemId : String)
  | mandatoryCandidateMissingRequirement (itemId : String)
  | invalidMandatoryKind (itemId : String) (itemKind : ContextItemKind) (requirement : ContextMandatoryRequirement)
  | missingMandatoryRequirement (requirement : ContextMandatoryRequirement)
  | mandatoryBudgetExceeded (requested required : Nat)
  | tokenBudgetOverflow
  | packet (error : ContextPacketError)
  deriving DecidableEq

def selectionFrom (mandatory : Bool) (candidate : ContextPacketCandidate) : ContextSelection :=
  { itemId := candidate.itemId
    itemKind := candidate.itemKind
    sourceReference := candidate.sourceReference
    sourceScope := candidate.sourceScope
    provenance := candidate.provenance
    freshness := candidate.freshness
    sourceVersion := candidate.sourceVersion
    rendered := candidate.rendered
    reason := candidate.reason
    effectiveRelevance := if mandatory then none else some candidate.relevance
    estimatedTokens := candidate.estimatedTokens
    mandatory }

def validateCandidate (mandatory : Bool) (issuedAt : Int) (candidate : ContextPacketCandidate) :
    Except ContextPacketCompilerError Unit :=
  if candidate.estimatedTokens = 0 then .error (.zeroTokenEstimate candidate.itemId)
  else match candidate.freshness.expiresAt.filter (· ≤ issuedAt) with
    | some expiresAt => .error (.staleCandidate candidate.itemId issuedAt expiresAt)
    | none => (selectionFrom mandatory candidate).validate.mapError .packet

def checkRequirement (candidate : ContextPacketCandidate) : Except ContextPacketCompilerError Unit :=
  match candidate.reason.mandatoryRequirement with
  | none => .error (.mandatoryCandidateMissingRequirement candidate.itemId)
  | some requirement =>
    if requirement.accepts candidate.itemKind then .ok ()
    else .error (.invalidMandatoryKind candidate.itemId candidate.itemKind requirement)

def validateCandidates (mandatory optional : List ContextPacketCandidate) (rejected : List ContextCandidateRejection)
    (issuedAt : Int) : Except ContextPacketCompilerError Unit := do
  let seen ← enterEach (·.itemId) (fun _ => .ok ()) .duplicateCandidate
    (fun candidate => do
      validateCandidate true issuedAt candidate
      checkRequirement candidate) [] mandatory
  ContextMandatoryRequirement.ALL.forM fun requirement =>
    if requirement ∈ mandatory.filterMap (·.reason.mandatoryRequirement) then .ok () else .error (.missingMandatoryRequirement requirement)
  let seen ← enterEach (·.itemId) (fun _ => .ok ()) .duplicateCandidate (validateCandidate false issuedAt) seen optional
  let _ ← enterEach (·.itemId) (fun _ => .ok ()) .duplicateCandidate (fun rejection => rejection.validate.mapError .packet) seen rejected
  .ok ()

def exclusionFrom (candidate : ContextPacketCandidate) : ContextBudgetExclusion :=
  ⟨candidate.itemId, candidate.itemKind, ⟨candidate.relevance, candidate.estimatedTokens, candidate.itemId⟩⟩

/-- One round of the loop over the ranked optional candidates. -/
def considerOptional (tokenBudget : Nat) (packing : Nat × List ContextSelection × List ContextBudgetExclusion)
    (candidate : ContextPacketCandidate) : Except ContextPacketCompilerError (Nat × List ContextSelection × List ContextBudgetExclusion) :=
  let nextTotal := packing.1 + candidate.estimatedTokens
  if U32_MAX < nextTotal then .error .tokenBudgetOverflow
  else if nextTotal ≤ tokenBudget then .ok (nextTotal, packing.2.1 ++ [selectionFrom false candidate], packing.2.2)
  else .ok (packing.1, packing.2.1, packing.2.2 ++ [exclusionFrom candidate])

def sortMandatory (candidates : List ContextPacketCandidate) : List ContextPacketCandidate :=
  candidates.insertionSort fun left right => left.itemId ≤ right.itemId

def sortOptional (candidates : List ContextPacketCandidate) : List ContextPacketCandidate :=
  candidates.insertionSort fun left right =>
    right.relevance < left.relevance ∨ left.relevance = right.relevance ∧ left.itemId ≤ right.itemId

def sortRejected (rejected : List ContextCandidateRejection) : List ContextCandidateRejection :=
  rejected.insertionSort fun left right => left.itemId ≤ right.itemId

def compileContextPacket (encode : ContextPacket → List UInt8) (request : ContextPacketCompilationRequest) :
    Except ContextPacketCompilerError ContextPacket := do
  let mandatory := sortMandatory request.mandatory
  let optional := sortOptional request.optional
  let rejected := sortRejected request.rejected
  validateCandidates mandatory optional rejected request.issuedAt
  let mandatoryTokens ← checkedTotal .tokenBudgetOverflow (mandatory.map (·.estimatedTokens))
  if request.tokenBudget < mandatoryTokens then .error (.mandatoryBudgetExceeded request.tokenBudget mandatoryTokens)
  else do
    let (used, selected, budgetExcluded) ←
      optional.foldlM (considerOptional request.tokenBudget) (mandatoryTokens, mandatory.map (selectionFrom true), [])
    let packet : ContextPacket :=
      { request.toContextPacketHeader with
        digest := "", requested := request.tokenBudget, used, selected, budgetExcluded, rejected }
    (packet.seal encode).mapError .packet

end MindLeak.Ackplane
