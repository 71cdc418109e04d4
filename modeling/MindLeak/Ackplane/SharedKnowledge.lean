import MindLeak.Library.Statements
import MindLeak.Library.Table
import MindLeak.Library.Text

/-! The server's knowledge of a repository: what is learned, what of it is in force, and what took its
place. Every operation is one statement, and where that one finds no row a second tells why. -/

namespace MindLeak.Ackplane

inductive KnowledgeLifecycleState where
  | candidate | active | superseded
  deriving DecidableEq

structure KnowledgeKey where
  (tenantId repositoryId knowledgeId : String)
  deriving DecidableEq

/-- The same scope, another statement. -/
def KnowledgeKey.named (key : KnowledgeKey) (knowledgeId : String) : KnowledgeKey := { key with knowledgeId }

/-- A row. The column's check lets in no other lifecycle state, so none is corrupt. -/
structure KnowledgeRow where
  key : KnowledgeKey
  content : String
  (sourceRef recordedBy : Option String)
  reachNodeIds : List String
  reachGoalId : Option String
  halfLifeHours : UInt64
  confirmedAt : Int
  lifecycleState : KnowledgeLifecycleState
  retiredAt : Option Int := none
  retiredReason : Option String := none
  retiredBy : Option String := none
  supersededBy : Option String := none

instance : Row KnowledgeRow KnowledgeKey := ⟨KnowledgeRow.key⟩

structure KnowledgeEmbeddingRow where
  knowledge : KnowledgeKey
  model : String
  /-- Each component as its bits. -/
  embedding : List UInt32

instance : Row KnowledgeEmbeddingRow (KnowledgeKey × String) := ⟨fun row => (row.knowledge, row.model)⟩

structure KnowledgeActivation where
  (activationId authorizedBy : String)
  reason : Option String
  activatedAt : Int
  deriving DecidableEq

structure KnowledgeActivationRow where
  knowledge : KnowledgeKey
  activation : KnowledgeActivation

instance : Row KnowledgeActivationRow (String × String × String) :=
  ⟨fun row => (row.knowledge.tenantId, row.knowledge.repositoryId, row.activation.activationId)⟩

structure KnowledgeSupersession where
  (supersessionId newKnowledgeId authorizedBy reason : String)
  supersededAt : Int
  deriving DecidableEq

structure KnowledgeSupersessionRow where
  knowledge : KnowledgeKey
  supersession : KnowledgeSupersession

def KnowledgeSupersessionRow.replacement (row : KnowledgeSupersessionRow) : KnowledgeKey :=
  row.knowledge.named row.supersession.newKnowledgeId

instance : Row KnowledgeSupersessionRow (String × String × String) :=
  ⟨fun row => (row.knowledge.tenantId, row.knowledge.repositoryId, row.supersession.supersessionId)⟩

structure KnowledgeReconfirmation where
  (reconfirmationId evidenceRef reconfirmedBy : String)
  reconfirmedAt : Int
  deriving DecidableEq

structure KnowledgeReconfirmationRow where
  knowledge : KnowledgeKey
  reconfirmation : KnowledgeReconfirmation

instance : Row KnowledgeReconfirmationRow (KnowledgeKey × String) :=
  ⟨fun row => (row.knowledge, row.reconfirmation.reconfirmationId)⟩

inductive KnowledgeStoreError where
  /-- A constraint of the database. -/
  | database
  | invalidHalfLife
  | emptyContent
  | emptyReconfirmationEvidence
  | invalidReachNode (nodeId : String)
  | duplicateReachNode (nodeId : String)
  | invalidReachGoal
  | missingAuthorizationBasis
  | unknownKnowledge (knowledgeId : String)
  | alreadyActive (knowledgeId : String)
  | retired (knowledgeId : String)
  | missingSupersessionReason
  | notActive (knowledgeId : String)
  | alreadySuperseded (knowledgeId : String)
  | concurrentlyModified (knowledgeId : String)
  deriving DecidableEq

/-- A statement as `record` and `supersede` give it back. -/
structure Knowledge where
  key : KnowledgeKey
  content : String
  (sourceRef recordedBy : Option String)
  reachNodeIds : List String
  reachGoalId : Option String
  halfLifeHours : UInt64
  confirmedAt : Int
  lifecycleState : KnowledgeLifecycleState
  supersededBy : Option String
  deriving DecidableEq

namespace KnowledgeRow
variable (row : KnowledgeRow)

def isPromotable : Bool := row.lifecycleState = .candidate ∧ row.retiredAt = none

def isReplaceable : Bool := row.lifecycleState = .active ∧ row.retiredAt = none

def isReconfirmable : Bool := row.retiredAt = none ∧ (row.lifecycleState = .candidate ∨ row.lifecycleState = .active)

def isUnretired : Bool := row.retiredAt = none

end KnowledgeRow

def KnowledgeRow.knowledge (row : KnowledgeRow) : Knowledge where
  key := row.key
  content := row.content
  sourceRef := row.sourceRef
  recordedBy := row.recordedBy
  reachNodeIds := row.reachNodeIds
  reachGoalId := row.reachGoalId
  halfLifeHours := row.halfLifeHours
  confirmedAt := row.confirmedAt
  lifecycleState := row.lifecycleState
  supersededBy := row.supersededBy

structure RecordKnowledgeRequest where
  (tenantId repositoryId content : String)
  (sourceRef recordedBy : Option String)
  reachNodeIds : List String
  reachGoalId : Option String
  /-- The bits of a double. -/
  halfLifeHours : UInt64
  embedding : Option (String × List UInt32)

structure SupersedeKnowledgeRequest where
  key : KnowledgeKey
  newContent : String
  (newSourceRef newRecordedBy : Option String)
  newReachNodeIds : List String
  newReachGoalId : Option String
  newHalfLifeHours : UInt64
  (authorizedBy reason : String)

def RecordKnowledgeRequest.row (request : RecordKnowledgeRequest) (knowledgeId : String) (confirmedAt : Int) : KnowledgeRow where
  key := ⟨request.tenantId, request.repositoryId, knowledgeId⟩
  content := request.content
  sourceRef := request.sourceRef
  recordedBy := request.recordedBy
  reachNodeIds := request.reachNodeIds
  reachGoalId := request.reachGoalId
  halfLifeHours := request.halfLifeHours
  confirmedAt := confirmedAt
  lifecycleState := .candidate

def SupersedeKnowledgeRequest.row (request : SupersedeKnowledgeRequest) (newKnowledgeId : String) (now : Int) : KnowledgeRow where
  key := request.key.named newKnowledgeId
  content := request.newContent
  sourceRef := request.newSourceRef
  recordedBy := request.newRecordedBy
  reachNodeIds := request.newReachNodeIds
  reachGoalId := request.newReachGoalId
  halfLifeHours := request.newHalfLifeHours
  confirmedAt := now
  lifecycleState := .active

def SupersedeKnowledgeRequest.receipt (request : SupersedeKnowledgeRequest) (newKnowledgeId supersessionId : String) (now : Int) :
    KnowledgeSupersessionRow where
  knowledge := request.key
  supersession := {
    supersessionId := supersessionId
    newKnowledgeId := newKnowledgeId
    authorizedBy := Text.trim request.authorizedBy
    reason := Text.trim request.reason
    supersededAt := now }

namespace SharedKnowledge

section

/-- `bits <= 0.0`, which is false of what is no number. -/
def isNonPositive (bits : UInt64) : Bool :=
  let magnitude := bits &&& 0x7FFFFFFFFFFFFFFF
  magnitude == 0 || (bits != magnitude && magnitude ≤ 0x7FF0000000000000)

def validRepositoryPath (value : List Char) : Bool :=
  !value.isEmpty && value.head? != some '/' && !value.contains '\\' && !value.contains ':' &&
    !(value.splitOn '/').any fun segment => segment.isEmpty || segment == ['.'] || segment == ['.', '.']

def validRepositoryNode (id : String) : Bool :=
  match Text.stripListPrefix? "artifact:".toList id.toList with
  | some path => validRepositoryPath path
  | none =>
    match Text.stripListPrefix? "symbol:".toList id.toList with
    | none => false
    | some symbol =>
      match Text.splitOnceList ':' symbol with
      | none => false
      | some (path, name) => !name.isEmpty && validRepositoryPath path

def validGoalId (id : String) : Bool :=
  (Text.stripListPrefix? "goal:".toList id.toList).any fun value => !value.isEmpty && !value.any Text.isWhitespace

def validateNodes (seen : List String) : List String → Except KnowledgeStoreError Unit
  | [] => .ok ()
  | nodeId :: rest =>
    if !validRepositoryNode nodeId then .error (.invalidReachNode nodeId)
    else if nodeId ∈ seen then .error (.duplicateReachNode nodeId)
    else validateNodes (nodeId :: seen) rest

def validateReach (reachNodeIds : List String) (reachGoalId : Option String) : Except KnowledgeStoreError Unit := do
  validateNodes [] reachNodeIds
  match reachGoalId with
  | some goalId => if validGoalId goalId then .ok () else .error .invalidReachGoal
  | none => .ok ()

def refuseIf (condition : Prop) [Decidable condition] (error : KnowledgeStoreError) : Except KnowledgeStoreError Unit :=
  if condition then .error error else .ok ()

def validateRecord (request : RecordKnowledgeRequest) : Except KnowledgeStoreError Unit := do
  refuseIf (Text.isBlank request.content) .emptyContent
  refuseIf (isNonPositive request.halfLifeHours) .invalidHalfLife
  validateReach request.reachNodeIds request.reachGoalId

def validateSupersession (request : SupersedeKnowledgeRequest) : Except KnowledgeStoreError Unit := do
  refuseIf (Text.trim request.authorizedBy = "") .missingAuthorizationBasis
  refuseIf (Text.trim request.reason = "") .missingSupersessionReason
  refuseIf (Text.isBlank request.newContent) .emptyContent
  refuseIf (isNonPositive request.newHalfLifeHours) .invalidHalfLife
  validateReach request.newReachNodeIds request.newReachGoalId

end

/-- A vector column of this dimension takes nothing else, and finite components only. -/
def EMBEDDING_DIMENSION : Nat := 768

def fitsColumn (embedding : List UInt32) : Bool :=
  embedding.length == EMBEDDING_DIMENSION && embedding.all fun bits => (bits >>> 23) &&& 0xFF != 0xFF

structure Store where
  knowledge : Table KnowledgeRow
  embeddings : Table KnowledgeEmbeddingRow
  activations : Table KnowledgeActivationRow
  supersessions : Table KnowledgeSupersessionRow
  reconfirmations : Table KnowledgeReconfirmationRow

namespace Store
variable (s : Store)

def empty : Store := ⟨.empty, .empty, .empty, .empty, .empty⟩

def get? (key : KnowledgeKey) : Option KnowledgeRow := s.knowledge.find? key

def finds (key : KnowledgeKey) (guard : KnowledgeRow → Bool) : Bool := (s.get? key).any guard

def set (key : KnowledgeKey) (set : KnowledgeRow → KnowledgeRow) (keeps : ∀ row, (set row).key = row.key := by intro row; rfl) : Store :=
  { s with knowledge := s.knowledge.update (fun row => row.key = key) set keeps }

end Store

section

/-- What a statement that inserts is refused with where its key is taken. -/
def orDatabase {α : Type} : Option α → Except KnowledgeStoreError α
  | some value => .ok value
  | none => .error .database

def insertKnowledge (row : KnowledgeRow) (s : Store) : Except KnowledgeStoreError (Unit × Store) := do
  let knowledge ← orDatabase (s.knowledge.insert? row)
  .ok ((), { s with knowledge })

def insertEmbedding (row : KnowledgeEmbeddingRow) (s : Store) : Except KnowledgeStoreError (Unit × Store) := do
  refuseIf (fitsColumn row.embedding = false) .database
  let embeddings ← orDatabase (s.embeddings.insert? row)
  .ok ((), { s with embeddings })

def promote (key : KnowledgeKey) (activation : KnowledgeActivation) (s : Store) : Except KnowledgeStoreError (Bool × Store) :=
  if s.finds key KnowledgeRow.isPromotable then do
    let activations ← orDatabase (s.activations.insert? ⟨key, activation⟩)
    .ok (true, { s.set key ({ · with lifecycleState := .active }) with activations })
  else .ok (false, s)

def replace (receipt : KnowledgeSupersessionRow) (row : KnowledgeRow) (s : Store) : Except KnowledgeStoreError (Bool × Store) :=
  if s.finds receipt.knowledge KnowledgeRow.isReplaceable then do
    let marked := s.set receipt.knowledge ({ · with
      lifecycleState := .superseded, supersededBy := some receipt.supersession.newKnowledgeId })
    let knowledge ← orDatabase (marked.knowledge.insert? row)
    let supersessions ← orDatabase (s.supersessions.insert? receipt)
    .ok (true, { marked with knowledge, supersessions })
  else .ok (false, s)

def refresh (key : KnowledgeKey) (reconfirmation : KnowledgeReconfirmation) (s : Store) : Except KnowledgeStoreError (Bool × Store) :=
  if s.finds key KnowledgeRow.isReconfirmable then do
    let reconfirmations ← orDatabase (s.reconfirmations.insert? ⟨key, reconfirmation⟩)
    .ok (true, { s.set key ({ · with confirmedAt := reconfirmation.reconfirmedAt }) with reconfirmations })
  else .ok (false, s)

def withdraw (key : KnowledgeKey) (reason retiredBy : String) (now : Int) (s : Store) : Except KnowledgeStoreError (Bool × Store) :=
  if s.finds key KnowledgeRow.isUnretired then
    .ok (true, s.set key ({ · with retiredAt := some now, retiredReason := some reason, retiredBy := some retiredBy }))
  else .ok (false, s)

end

abbrev Program (α : Type) : Type := MindLeak.Statements Store KnowledgeStoreError α

open MindLeak.Statements (query execute ofExcept)

/-- `knowledgeId` is drawn at random. -/
def record (request : RecordKnowledgeRequest) (knowledgeId : String) (confirmedAt : Int) : Program Knowledge := do
  ofExcept (validateRecord request)
  let row := request.row knowledgeId confirmedAt
  execute (insertKnowledge row)
  match request.embedding with
  | some (model, embedding) => execute (insertEmbedding ⟨row.key, model, embedding⟩)
  | none => .pure ()
  .pure row.knowledge

def activationRefusal (key : KnowledgeKey) : Option KnowledgeRow → KnowledgeStoreError
  | none => .unknownKnowledge key.knowledgeId
  | some row => if row.retiredAt.isSome then .retired key.knowledgeId else .alreadyActive key.knowledgeId

def activate (key : KnowledgeKey) (authorizedBy : String) (reason : Option String) (activationId : String) (now : Int) :
    Program KnowledgeActivation := do
  let authorizedBy := Text.trim authorizedBy
  ofExcept (refuseIf (authorizedBy = "") .missingAuthorizationBasis)
  let activation := ⟨activationId, authorizedBy, reason, now⟩
  if ← execute (promote key activation) then .pure activation
  else do
    let current ← query (·.get? key)
    .fail (activationRefusal key current)

def supersessionRefusal (key : KnowledgeKey) : Option KnowledgeRow → KnowledgeStoreError
  | none => .unknownKnowledge key.knowledgeId
  | some row =>
    if row.retiredAt.isSome then .retired key.knowledgeId
    else
      match row.lifecycleState with
      | .superseded => .alreadySuperseded key.knowledgeId
      | .candidate => .notActive key.knowledgeId
      | .active => .concurrentlyModified key.knowledgeId

def supersede (request : SupersedeKnowledgeRequest) (newKnowledgeId supersessionId : String) (now : Int) :
    Program (Knowledge × KnowledgeSupersession) := do
  ofExcept (validateSupersession request)
  let receipt := request.receipt newKnowledgeId supersessionId now
  let row := request.row newKnowledgeId now
  if ← execute (replace receipt row) then .pure (row.knowledge, receipt.supersession)
  else do
    let current ← query (·.get? request.key)
    .fail (supersessionRefusal request.key current)

def reconfirm (key : KnowledgeKey) (evidenceRef reconfirmedBy reconfirmationId : String) (now : Int) :
    Program (Option KnowledgeReconfirmation) := do
  let evidenceRef := Text.trim evidenceRef
  ofExcept (refuseIf (evidenceRef = "") .emptyReconfirmationEvidence)
  let reconfirmation := ⟨reconfirmationId, evidenceRef, reconfirmedBy, now⟩
  if ← execute (refresh key reconfirmation) then .pure (some reconfirmation) else .pure none

/-- `now` is the database's. -/
def retire (key : KnowledgeKey) (reason retiredBy : String) (now : Int) : Program Bool := execute (withdraw key reason retiredBy now)

end SharedKnowledge

inductive KnowledgeCall where
  | record (request : RecordKnowledgeRequest) (knowledgeId : String) (confirmedAt : Int)
  | activate (key : KnowledgeKey) (authorizedBy : String) (reason : Option String) (activationId : String) (now : Int)
  | supersede (request : SupersedeKnowledgeRequest) (newKnowledgeId supersessionId : String) (now : Int)
  | reconfirm (key : KnowledgeKey) (evidenceRef reconfirmedBy reconfirmationId : String) (now : Int)
  | retire (key : KnowledgeKey) (reason retiredBy : String) (now : Int)

inductive KnowledgeAnswer where
  | recorded (knowledge : Knowledge)
  | activated (activation : KnowledgeActivation)
  | superseded (replacement : Knowledge) (supersession : KnowledgeSupersession)
  | reconfirmed (reconfirmation : Option KnowledgeReconfirmation)
  | retired (updated : Bool)
  deriving DecidableEq

namespace KnowledgeCall

def program : KnowledgeCall → SharedKnowledge.Program KnowledgeAnswer
  | .record request knowledgeId confirmedAt => do
    let knowledge ← SharedKnowledge.record request knowledgeId confirmedAt
    .pure (.recorded knowledge)
  | .activate key authorizedBy reason activationId now => do
    let activation ← SharedKnowledge.activate key authorizedBy reason activationId now
    .pure (.activated activation)
  | .supersede request newKnowledgeId supersessionId now => do
    let (replacement, supersession) ← SharedKnowledge.supersede request newKnowledgeId supersessionId now
    .pure (.superseded replacement supersession)
  | .reconfirm key evidenceRef reconfirmedBy reconfirmationId now => do
    let reconfirmation ← SharedKnowledge.reconfirm key evidenceRef reconfirmedBy reconfirmationId now
    .pure (.reconfirmed reconfirmation)
  | .retire key reason retiredBy now => do
    let updated ← SharedKnowledge.retire key reason retiredBy now
    .pure (.retired updated)

end KnowledgeCall

abbrev KnowledgeState (τ : Type) : Type := Calls τ SharedKnowledge.Store KnowledgeStoreError KnowledgeAnswer KnowledgeCall

def sharedKnowledge (τ : Type) [DecidableEq τ] : Machine (KnowledgeState τ) (CallOp τ KnowledgeCall) :=
  calling τ KnowledgeCall.program .empty

end MindLeak.Ackplane
