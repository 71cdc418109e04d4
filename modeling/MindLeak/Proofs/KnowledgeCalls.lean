import MindLeak.Proofs.KnowledgeAccounts

/-! The calls on shared knowledge, statement by statement: how far one is, what each of its statements does
to the accounts, and what it leaves and says where it is refused. -/

namespace MindLeak.Ackplane.SharedKnowledge
open MindLeak.Statements Text List

theorem isBlank_trim {text : String} (given : trim text ≠ "") : isBlank (trim text) = false := by
  unfold trim at given ⊢
  unfold isBlank
  rw [String.toList_ofList, all_reverse, all_eq_false]
  rw [ne_eq, String.ofList_eq_empty_iff, reverse_eq_nil_iff] at given
  have kept := head?_dropWhile_not isWhitespace (text.toList.dropWhile isWhitespace).reverse
  cases rest : (text.toList.dropWhile isWhitespace).reverse.dropWhile isWhitespace with
  | nil => exact absurd rest given
  | cons c rest' =>
    rw [rest] at kept
    exact ⟨c, mem_cons_self, by simpa using kept⟩

variable {run : Store → Except KnowledgeStoreError (Bool × Store)} {found : List Store}

section
variable {α β : Type} {check : Except KnowledgeStoreError Unit} {answer idle : α} {view : Store → β}
  {refusal : β → KnowledgeStoreError} {rest : Program α}

/-- Checks, a guarded statement, and where that one finds no row a second that tells why. -/
def diagnosed (check : Except KnowledgeStoreError Unit) (run : Store → Except KnowledgeStoreError (Bool × Store)) (answer : α)
    (view : Store → β) (refusal : β → KnowledgeStoreError) : Program α :=
  (ofExcept check).bind fun _ => (execute run).bind fun moved =>
    if moved then .pure answer else (query view).bind fun current => .fail (refusal current)

def attempted (check : Except KnowledgeStoreError Unit) (run : Store → Except KnowledgeStoreError (Bool × Store)) (answer idle : α) :
    Program α :=
  (ofExcept check).bind fun _ => (execute run).bind fun moved => if moved then .pure answer else .pure idle

theorem diagnosed_stands (stands : (diagnosed check run answer view refusal).Stands found rest) :
    (∃ error, check = .error error ∧ found = [] ∧ rest = .fail error) ∨
    check = .ok () ∧ ( (found = [] ∧ ∃ onward, rest = .statement (left run) onward) ∨
      (∃ first error, found = [first] ∧ run first = .error error ∧ rest = .fail error) ∨
      (∃ first after, found = [first] ∧ run first = .ok (true, after) ∧ rest = .pure answer) ∨
      (∃ first after onward, found = [first] ∧ run first = .ok (false, after) ∧ rest = .statement id onward) ∨
      ∃ last first after, found = [last, first] ∧ run first = .ok (false, after) ∧ rest = .fail (refusal (view last))) := by
  refine stands.ofExcept.imp id ?_
  rintro ⟨_, passed, stands⟩
  refine ⟨passed, stands.execute.imp id (Or.imp id ?_)⟩
  rintro ⟨later, first, moved, after, rfl, done, stands⟩
  cases moved with
  | true =>
    obtain ⟨rfl, rfl⟩ := stands.answer (.ok answer) rfl
    exact .inl ⟨first, after, rfl, done, rfl⟩
  | false =>
    right
    rcases stands.query with ⟨rfl, onward, rfl⟩ | ⟨later, last, rfl, told⟩
    · exact .inl ⟨first, after, onward, rfl, done, rfl⟩
    · obtain ⟨rfl, rfl⟩ := told.answer (.error (refusal (view last))) rfl
      exact .inr ⟨last, first, after, rfl, done, rfl⟩

theorem attempted_stands (stands : (attempted check run answer idle).Stands found rest) :
    (∃ error, check = .error error ∧ found = [] ∧ rest = .fail error) ∨
    check = .ok () ∧ ( (found = [] ∧ ∃ onward, rest = .statement (left run) onward) ∨
      (∃ first error, found = [first] ∧ run first = .error error ∧ rest = .fail error) ∨
      ∃ first moved after, found = [first] ∧ run first = .ok (moved, after) ∧ rest = .pure (if moved then answer else idle)) := by
  refine stands.ofExcept.imp id ?_
  rintro ⟨_, passed, stands⟩
  refine ⟨passed, stands.execute.imp id (Or.imp id ?_)⟩
  rintro ⟨later, first, moved, after, rfl, done, stands⟩
  cases moved with
  | true =>
    obtain ⟨rfl, rfl⟩ := stands.answer (.ok answer) rfl
    exact ⟨first, true, after, rfl, done, rfl⟩
  | false =>
    obtain ⟨rfl, rfl⟩ := stands.answer (.ok idle) rfl
    exact ⟨first, false, after, rfl, done, rfl⟩

end

section
variable {rest : Program KnowledgeAnswer}

theorem activate_program (key : KnowledgeKey) (authorizedBy : String) (reason : Option String) (activationId : String) (now : Int) :
    (KnowledgeCall.activate key authorizedBy reason activationId now).program =
      diagnosed (refuseIf (trim authorizedBy = "") .missingAuthorizationBasis)
        (promote key ⟨activationId, trim authorizedBy, reason, now⟩)
        (.activated ⟨activationId, trim authorizedBy, reason, now⟩) (·.get? key) (activationRefusal key) := by
  unfold KnowledgeCall.program activate diagnosed
  simp only [Statements.bind_eq, bind_assoc]
  congr 1
  funext _
  congr 1
  funext moved
  cases moved <;> rfl

theorem supersede_program (request : SupersedeKnowledgeRequest) (newKnowledgeId supersessionId : String) (now : Int) :
    (KnowledgeCall.supersede request newKnowledgeId supersessionId now).program =
      diagnosed (validateSupersession request) (replace (request.receipt newKnowledgeId supersessionId now) (request.row newKnowledgeId now))
        (.superseded (request.row newKnowledgeId now).knowledge (request.receipt newKnowledgeId supersessionId now).supersession)
        (·.get? request.key) (supersessionRefusal request.key) := by
  unfold KnowledgeCall.program supersede diagnosed
  simp only [Statements.bind_eq, bind_assoc]
  congr 1
  funext _
  congr 1
  funext moved
  cases moved <;> rfl

theorem reconfirm_program (key : KnowledgeKey) (evidenceRef reconfirmedBy reconfirmationId : String) (now : Int) :
    (KnowledgeCall.reconfirm key evidenceRef reconfirmedBy reconfirmationId now).program =
      attempted (refuseIf (trim evidenceRef = "") .emptyReconfirmationEvidence)
        (refresh key ⟨reconfirmationId, trim evidenceRef, reconfirmedBy, now⟩)
        (.reconfirmed (some ⟨reconfirmationId, trim evidenceRef, reconfirmedBy, now⟩)) (.reconfirmed none) := by
  unfold KnowledgeCall.program reconfirm attempted
  simp only [Statements.bind_eq, bind_assoc]
  congr 1
  funext _
  congr 1
  funext moved
  cases moved <;> rfl

theorem retire_program (key : KnowledgeKey) (reason retiredBy : String) (now : Int) :
    (KnowledgeCall.retire key reason retiredBy now).program =
      attempted (.ok ()) (withdraw key reason retiredBy now) (.retired true) (.retired false) := by
  unfold KnowledgeCall.program retire attempted
  simp only [Statements.bind_eq]
  congr 1
  funext moved
  cases moved <;> rfl

theorem record_program (request : RecordKnowledgeRequest) (knowledgeId : String) (confirmedAt : Int) :
    (KnowledgeCall.record request knowledgeId confirmedAt).program =
      (ofExcept (validateRecord request)).bind fun _ =>
        (execute (insertKnowledge (request.row knowledgeId confirmedAt))).bind fun _ =>
          match request.embedding with
          | some (model, embedding) =>
            (execute (insertEmbedding ⟨(request.row knowledgeId confirmedAt).key, model, embedding⟩)).bind fun _ =>
              .pure (.recorded (request.row knowledgeId confirmedAt).knowledge)
          | none => .pure (.recorded (request.row knowledgeId confirmedAt).knowledge) := by
  unfold KnowledgeCall.program record
  simp only [Statements.bind_eq, bind_assoc]
  congr 1
  funext _
  congr 1
  funext _
  cases request.embedding with
  | none => rfl
  | some pair => exact bind_assoc ..

theorem record_stands {request : RecordKnowledgeRequest} {knowledgeId : String} {confirmedAt : Int}
    (stands : (KnowledgeCall.record request knowledgeId confirmedAt).program.Stands found rest) :
    (∃ error, validateRecord request = .error error ∧ found = [] ∧ rest = .fail error) ∨
    (found = [] ∧ ∃ onward, rest = .statement (left (insertKnowledge (request.row knowledgeId confirmedAt))) onward) ∨
    (∃ first error, found = [first] ∧ insertKnowledge (request.row knowledgeId confirmedAt) first = .error error ∧ rest = .fail error) ∨
    (found ≠ [] ∧ rest = .pure (.recorded (request.row knowledgeId confirmedAt).knowledge)) ∨
    ∃ model embedding, request.embedding = some (model, embedding) ∧ ((found ≠ [] ∧ ∃ onward,
          rest = .statement (left (insertEmbedding ⟨(request.row knowledgeId confirmedAt).key, model, embedding⟩)) onward) ∨
        ∃ last first error, found = [last, first] ∧
          insertEmbedding ⟨(request.row knowledgeId confirmedAt).key, model, embedding⟩ last = .error error ∧ rest = .fail error) := by
  rw [record_program] at stands
  rcases stands.ofExcept with refused | ⟨_, _, stands⟩
  · exact .inl refused
  rcases stands.execute with first | failed | ⟨later, first, _, after, rfl, done, stands⟩
  · exact .inr (.inl first)
  · exact .inr (.inr (.inl failed))
  right; right; right
  cases given : request.embedding with
  | none =>
    rw [given] at stands
    obtain ⟨rfl, rfl⟩ := stands.answer (.ok (.recorded (request.row knowledgeId confirmedAt).knowledge)) rfl
    exact .inl ⟨by simp, rfl⟩
  | some pair =>
    rw [given] at stands
    rcases stands.execute with ⟨rfl, again⟩ | ⟨last, error, rfl, failed, rfl⟩ | ⟨later', last, _, after', rfl, _, stands⟩
    · exact .inr ⟨pair.1, pair.2, rfl, .inl ⟨by simp, again⟩⟩
    · exact .inr ⟨pair.1, pair.2, rfl, .inr ⟨last, first, error, rfl, failed, rfl⟩⟩
    · obtain ⟨rfl, rfl⟩ := stands.answer (.ok (.recorded (request.row knowledgeId confirmedAt).knowledge)) rfl
      exact .inl ⟨by simp, rfl⟩

end

variable {s : Store}

section

variable {error : KnowledgeStoreError}

theorem orDatabase_error {α : Type} {found : Option α} (failed : orDatabase found = .error error) :
    error = .database ∧ found = none := by
  cases found with
  | some => cases failed
  | none => exact ⟨(Except.error.inj failed).symm, rfl⟩

theorem taken_of_insert {ρ κ : Type} [Row ρ κ] [DecidableEq κ] {table : Table ρ} {row : ρ} (refused : table.insert? row = none) :
    (table.find? (Row.key row)).isSome := by
  by_contra free
  obtain ⟨_, inserted⟩ := Table.insert?_of_fresh (Option.not_isSome_iff_eq_none.mp free)
  cases refused.symm.trans inserted

def Collides (s : Store) : KnowledgeCall → Prop
  | .activate key _ _ activationId _ => (s.activations.find? (key.tenantId, key.repositoryId, activationId)).isSome
  | .supersede request newKnowledgeId supersessionId _ => (s.get? (request.key.named newKnowledgeId)).isSome ∨
    (s.supersessions.find? (request.key.tenantId, request.key.repositoryId, supersessionId)).isSome
  | _ => False

theorem promote_error {key : KnowledgeKey} {activation : KnowledgeActivation}
    (failed : promote key activation s = .error error) : error = .database ∧
      (s.activations.find? (key.tenantId, key.repositoryId, activation.activationId)).isSome := by
  obtain ⟨_, failed⟩ := then_of_ne failed nofun
  rcases bind_error failed with refused | ⟨_, _, impossible⟩
  · obtain ⟨same, none⟩ := orDatabase_error refused
    exact ⟨same, taken_of_insert none⟩
  · cases impossible

theorem replace_error {receipt : KnowledgeSupersessionRow} {row : KnowledgeRow}
    (failed : replace receipt row s = .error error) : error = .database ∧ ((s.get? row.key).isSome ∨
      (s.supersessions.find? (receipt.knowledge.tenantId, receipt.knowledge.repositoryId, receipt.supersession.supersessionId)).isSome) := by
  obtain ⟨found, failed⟩ := then_of_ne failed nofun
  obtain ⟨old, there, _⟩ := finds_some found
  rcases bind_error failed with refused | ⟨_, _, failed⟩
  · obtain ⟨same, none⟩ := orDatabase_error refused
    have taken := taken_of_insert none
    change ((s.set _ _ _).get? row.key).isSome at taken
    rw [get?_set] at taken
    split at taken
    next key => exact ⟨same, .inl (by rw [← key, there]; rfl)⟩
    next => exact ⟨same, .inl taken⟩
  · rcases bind_error failed with refused | ⟨_, _, impossible⟩
    · obtain ⟨same, none⟩ := orDatabase_error refused
      exact ⟨same, .inr (taken_of_insert none)⟩
    · cases impossible

end

def Names (key : KnowledgeKey) (current : Option KnowledgeRow) : KnowledgeStoreError → Prop
  | .unknownKnowledge knowledgeId => knowledgeId = key.knowledgeId ∧ current = none
  | .retired knowledgeId => knowledgeId = key.knowledgeId ∧ ∃ row, current = some row ∧ row.retiredAt.isSome
  | .alreadySuperseded knowledgeId => knowledgeId = key.knowledgeId ∧
    ∃ row, current = some row ∧ row.retiredAt = none ∧ row.lifecycleState = .superseded
  | .notActive knowledgeId => knowledgeId = key.knowledgeId ∧
    ∃ row, current = some row ∧ row.retiredAt = none ∧ row.lifecycleState = .candidate
  | .alreadyActive knowledgeId | .concurrentlyModified knowledgeId => knowledgeId = key.knowledgeId ∧
    ∃ row, current = some row ∧ row.retiredAt = none ∧ row.lifecycleState = .active
  | _ => False

theorem supersessionRefusal_names (key : KnowledgeKey) (current : Option KnowledgeRow) :
    Names key current (supersessionRefusal key current) := by
  unfold supersessionRefusal
  cases current with
  | none => exact ⟨rfl, rfl⟩
  | some row =>
    dsimp only
    split
    next retired => exact ⟨rfl, row, rfl, retired⟩
    rename_i live
    have unretired := Option.not_isSome_iff_eq_none.mp live
    cases state : row.lifecycleState <;> exact ⟨rfl, row, rfl, unretired, state⟩

theorem activationRefusal_names {key : KnowledgeKey} {current : Option KnowledgeRow} :
    Names key current (activationRefusal key current) ↔
      ∀ row, current = some row → row.retiredAt = none → row.lifecycleState = .active := by
  unfold activationRefusal
  cases current with
  | none => simp [Names]
  | some row =>
    cases retired : row.retiredAt with
    | none | some => simp [Names, retired]

def CarefulAt (s : Store) (found : List Store) : KnowledgeCall → Prop
  | .record request knowledgeId _ => found ≠ [] → ∀ given ∈ request.embedding,
    fitsColumn given.2 = true ∧ s.embeddings.find? (⟨request.tenantId, request.repositoryId, knowledgeId⟩, given.1) = none
  | .activate key _ _ _ _ => found ≠ [] → ∀ row ∈ s.get? key, row.retiredAt = none → row.lifecycleState = .active
  | .retire key _ _ _ => ∀ row ∈ s.get? key, row.retiredAt = none → row.lifecycleState ≠ .superseded
  | _ => True

instance (s : Store) (found : List Store) : (call : KnowledgeCall) → Decidable (CarefulAt s found call)
  | .record request knowledgeId _ => inferInstanceAs (Decidable (found ≠ [] → ∀ given ∈ request.embedding,
    fitsColumn given.2 = true ∧ s.embeddings.find? (⟨request.tenantId, request.repositoryId, knowledgeId⟩, given.1) = none))
  | .activate key _ _ _ _ =>
    inferInstanceAs (Decidable (found ≠ [] → ∀ row ∈ s.get? key, row.retiredAt = none → row.lifecycleState = .active))
  | .retire key _ _ _ => inferInstanceAs (Decidable (∀ row ∈ s.get? key, row.retiredAt = none → row.lifecycleState ≠ .superseded))
  | .supersede .. | .reconfirm .. => isTrue trivial

def Careful {τ : Type} (s : KnowledgeState τ) (op : CallOp τ KnowledgeCall) : Prop :=
  ∀ call found update, s.Runs KnowledgeCall.program op call found update → CarefulAt s.store found call

def isCareful {τ : Type} (s : KnowledgeState τ) : CallOp τ KnowledgeCall → Bool
  | .step caller =>
    match s.standing caller with
    | .running call found => decide (CarefulAt s.store found call)
    | _ => true
  | _ => true

theorem careful_of {τ : Type} {s : KnowledgeState τ} {op : CallOp τ KnowledgeCall} (meets : isCareful s op = true) : Careful s op := by
  rintro call found update ⟨caller, next, rfl, standing, rest⟩
  unfold isCareful at meets
  dsimp only at meets
  rw [standing] at meets
  exact of_decide_eq_true meets

theorem left_changes {α : Type} {s : Store} {run : Store → Except KnowledgeStoreError (α × Store)}
    (changes : ∀ value after, run s = .ok (value, after) → after.account = s.account ∨ Change s.account after.account) :
    (left run s).account = s.account ∨ Change s.account (left run s).account := by
  cases done : run s with
  | error => exact .inl (by rw [left_error done])
  | ok result =>
    obtain ⟨value, after⟩ := result
    rw [left_ok done]
    exact changes value after done

theorem guarded_changes {s after : Store} {moved : Bool} (done : (moved = false ∧ after = s) ∨ Change s.account after.account) :
    after.account = s.account ∨ Change s.account after.account := by
  rcases done with ⟨_, rfl⟩ | change
  · exact .inl rfl
  · exact .inr change

section
variable {update : Store → Store} {next : Store → Program KnowledgeAnswer}

theorem refuseIf_ok {condition : Prop} [Decidable condition] {error : KnowledgeStoreError} (passed : refuseIf condition error = .ok ()) :
    ¬condition := by
  obtain ⟨no, passed⟩ := ite_else passed
  exact no

theorem diagnosed_statement {α β : Type} {check : Except KnowledgeStoreError Unit}
    {answer : α} {view : Store → β} {refusal : β → KnowledgeStoreError} {next : Store → Program α}
    (rest : (diagnosed check run answer view refusal).resume found = .statement update next) :
    check = .ok () ∧ (update = left run ∨ update = id) := by
  rcases diagnosed_stands ⟨Ran.of_resume rest, rest⟩ with ⟨_, _, _, impossible⟩ | ⟨passed, ⟨_, onward, same⟩ | ⟨_, _, _, _, impossible⟩ |
    ⟨_, _, _, _, impossible⟩ | ⟨_, _, onward, _, _, same⟩ | ⟨_, _, _, _, _, impossible⟩⟩
  · cases impossible
  · cases same
    exact ⟨passed, .inl rfl⟩
  · cases impossible
  · cases impossible
  · cases same
    exact ⟨passed, .inr rfl⟩
  · cases impossible

theorem attempted_statement {α : Type} {check : Except KnowledgeStoreError Unit}
    {answer idle : α} {next : Store → Program α} (rest : (attempted check run answer idle).resume found = .statement update next) :
    update = left run := by
  rcases attempted_stands ⟨Ran.of_resume rest, rest⟩ with ⟨_, _, _, impossible⟩ | ⟨_, ⟨_, onward, same⟩ | ⟨_, _, _, _, impossible⟩ |
    ⟨_, _, _, _, _, impossible⟩⟩
  · cases impossible
  · cases same
    rfl
  · cases impossible
  · cases impossible

theorem statement_changes {call : KnowledgeCall} (rest : call.program.resume found = .statement update next)
    (careful : CarefulAt s found call) : (update s).account = s.account ∨ Change s.account (update s).account := by
  cases call with
  | record request knowledgeId confirmedAt =>
    rcases record_stands ⟨Ran.of_resume rest, rest⟩ with ⟨_, _, _, impossible⟩ | ⟨_, _, same⟩ | ⟨_, _, _, _, impossible⟩ |
      ⟨_, impossible⟩ | ⟨model, embedding, given, ⟨_, _, same⟩ | ⟨_, _, _, _, _, impossible⟩⟩
    · cases impossible
    · cases same
      exact left_changes fun _ after done => .inr (insertKnowledge_changes done rfl rfl rfl)
    · cases impossible
    · cases impossible
    · cases same
      exact left_changes fun _ after done => .inl (insertEmbedding_same done)
    · cases impossible
  | activate key authorizedBy reason activationId now =>
    rw [activate_program] at rest
    obtain ⟨passed, rfl | rfl⟩ := diagnosed_statement rest
    · exact left_changes fun moved after done => guarded_changes (promote_changes done (isBlank_trim (refuseIf_ok passed)))
    · exact .inl rfl
  | supersede request newKnowledgeId supersessionId now =>
    rw [supersede_program] at rest
    obtain ⟨passed, rfl | rfl⟩ := diagnosed_statement rest
    · obtain ⟨_, basis, _⟩ := bind_ok passed
      exact left_changes fun moved after done =>
        guarded_changes (replace_changes done (isBlank_trim (refuseIf_ok basis)) rfl rfl rfl rfl)
    · exact .inl rfl
  | reconfirm key evidenceRef reconfirmedBy reconfirmationId now =>
    rw [reconfirm_program] at rest
    cases attempted_statement rest
    exact left_changes fun moved after done => guarded_changes (refresh_changes done)
  | retire key reason retiredBy now =>
    rw [retire_program] at rest
    cases attempted_statement rest
    exact left_changes fun moved after done => guarded_changes (withdraw_changes done careful)

end

def Refused : Except KnowledgeStoreError KnowledgeAnswer → Prop
  | .error _ | .ok (.reconfirmed none) | .ok (.retired false) => True
  | .ok _ => False

/-- What asks for one state of a row, and says why when the row is in another. -/
def target? : KnowledgeCall → Option KnowledgeKey
  | .activate key _ _ _ _ => some key
  | .supersede request _ _ _ => some request.key
  | _ => none

/-- A refusal comes of the request, of a drawn identity, or of the state in which the last statement found the row. -/
def Tells (call : KnowledgeCall) (key : KnowledgeKey) (found : List Store) (error : KnowledgeStoreError) : Prop :=
  (found = [] ∧ call.program = .fail error) ∨
  (∃ first, found = [first] ∧ error = .database ∧ Collides first call) ∨
  ∃ last first, found = [last, first] ∧ Names key (last.get? key) error

section
variable {answer : Except KnowledgeStoreError KnowledgeAnswer}

theorem diagnosed_refused {check : Except KnowledgeStoreError Unit}
    {given : KnowledgeAnswer} {view : Store → Option KnowledgeRow} {refusal : Option KnowledgeRow → KnowledgeStoreError}
    (idle : ∀ first after, run first = .ok (false, after) → after = first) (accepted : ¬Refused (.ok given))
    (ran : (diagnosed check run given view refusal).Ran found) (answers : ((diagnosed check run given view refusal).resume found).Answers answer)
    (refused : Refused answer) : (diagnosed check run given view refusal).Leaves found ∧ ∃ error, answer = .error error ∧
      ((found = [] ∧ diagnosed check run given view refusal = .fail error) ∨ (∃ first, found = [first] ∧ run first = .error error) ∨
        ∃ last first, found = [last, first] ∧ error = refusal (view last)) := by
  rcases diagnosed_stands ⟨ran, rfl⟩ with ⟨error, _, rfl, rest⟩ | ⟨_, ⟨_, _, rest⟩ | ⟨first, error, rfl, failed, rest⟩ |
    ⟨_, _, _, _, rest⟩ | ⟨_, _, _, _, _, rest⟩ | ⟨last, first, after, rfl, none, rest⟩⟩
  · rw [rest] at answers
    exact ⟨trivial, error, answers.of_fail, .inl ⟨rfl, rest⟩⟩
  · exact (answers.bars rest).elim
  · rw [rest] at answers
    refine ⟨⟨fun update next statement => ?_, trivial⟩, error, answers.of_fail, .inr (.inl ⟨first, rfl, failed⟩)⟩
    rcases (diagnosed_statement statement).2 with rfl | rfl
    · exact left_error failed
    · rfl
  · rw [rest] at answers
    rw [answers.of_pure] at refused
    exact absurd refused accepted
  · exact (answers.bars rest).elim
  · rw [rest] at answers
    refine ⟨⟨fun update next statement => ?_, fun update next statement => ?_, trivial⟩, _, answers.of_fail,
      .inr (.inr ⟨last, first, rfl, rfl⟩)⟩
    · rcases diagnosed_stands ⟨Ran.of_resume statement, statement⟩ with ⟨_, _, impossible, _⟩ | ⟨_, ⟨impossible, _⟩ | ⟨_, _, same, failed, _⟩ |
        ⟨_, _, _, _, impossible⟩ | ⟨_, _, _, _, _, reads⟩ | ⟨_, _, _, impossible, _⟩⟩
      · cases impossible
      · cases impossible
      · cases same
        cases none.symm.trans failed
      · cases impossible
      · cases reads
        rfl
      · cases impossible
    · rcases (diagnosed_statement statement).2 with rfl | rfl
      · rw [left_ok none, idle first after none]
      · rfl

variable {after : Store}

theorem guarded_idle {key : KnowledgeKey} {guard : KnowledgeRow → Bool} {α : Type} {first : Except KnowledgeStoreError α}
    {next : α → Store} (done : (if s.finds key guard then first >>= fun value => .ok (true, next value) else .ok (false, s)) = .ok (false, after)) :
    after = s := by
  split at done
  next =>
    obtain ⟨_, _, impossible⟩ := bind_ok done
    cases impossible
  next =>
    cases done
    rfl

theorem replace_idle {receipt : KnowledgeSupersessionRow} {row : KnowledgeRow}
    (done : replace receipt row s = .ok (false, after)) : after = s := by
  unfold replace at done
  split at done
  next =>
    obtain ⟨_, _, done⟩ := bind_ok done
    obtain ⟨_, _, impossible⟩ := bind_ok done
    cases impossible
  next =>
    cases done
    rfl

theorem withdraw_idle {key : KnowledgeKey} {reason retiredBy : String} {now : Int}
    (done : withdraw key reason retiredBy now s = .ok (false, after)) : after = s := by
  obtain ⟨_, done⟩ := else_of_ne done nofun
  cases done
  rfl

theorem attempted_refused {check : Except KnowledgeStoreError Unit}
    {given none : KnowledgeAnswer} (idle : ∀ first after, run first = .ok (false, after) → after = first) (accepted : ¬Refused (.ok given))
    (ran : (attempted check run given none).Ran found) (answers : ((attempted check run given none).resume found).Answers answer)
    (refused : Refused answer) : (attempted check run given none).Leaves found := by
  rcases attempted_stands ⟨ran, rfl⟩ with ⟨error, _, rfl, rest⟩ | ⟨_, ⟨_, _, rest⟩ | ⟨first, error, rfl, failed, rest⟩ |
    ⟨first, moved, after, rfl, done, rest⟩⟩
  · trivial
  · exact (answers.bars rest).elim
  · refine ⟨fun update next statement => ?_, trivial⟩
    rw [attempted_statement statement, left_error failed]
  · refine ⟨fun update next statement => ?_, trivial⟩
    rw [rest] at answers
    cases moved with
    | true =>
      rw [answers.of_pure] at refused
      exact absurd refused accepted
    | false => rw [attempted_statement statement, left_ok done, idle first after done]

theorem record_refused {request : RecordKnowledgeRequest} {knowledgeId : String} {confirmedAt : Int}
    (careful : ∀ last first, found = [last, first] → CarefulAt last [first] (.record request knowledgeId confirmedAt))
    (ran : (KnowledgeCall.record request knowledgeId confirmedAt).program.Ran found)
    (answers : ((KnowledgeCall.record request knowledgeId confirmedAt).program.resume found).Answers answer)
    (refused : Refused answer) : (KnowledgeCall.record request knowledgeId confirmedAt).program.Leaves found := by
  rcases record_stands ⟨ran, rfl⟩ with ⟨error, _, rfl, rest⟩ | ⟨_, _, rest⟩ | ⟨first, error, rfl, failed, rest⟩ | ⟨_, rest⟩ |
    ⟨model, embedding, given, ⟨_, _, rest⟩ | ⟨last, first, error, rfl, failed, rest⟩⟩
  · trivial
  · exact (answers.bars rest).elim
  · refine ⟨fun update next statement => ?_, trivial⟩
    rcases record_stands ⟨Ran.of_resume statement, statement⟩ with ⟨_, _, _, impossible⟩ | ⟨_, _, same⟩ | ⟨_, _, impossible, _⟩ |
      ⟨impossible, _⟩ | ⟨_, _, _, ⟨impossible, _⟩ | ⟨_, _, _, impossible, _⟩⟩
    · cases impossible
    · cases same
      exact left_error failed
    · cases impossible
    · exact absurd rfl impossible
    · exact absurd rfl impossible
    · cases impossible
  · rw [rest] at answers
    rw [answers.of_pure] at refused
    exact refused.elim
  · exact (answers.bars rest).elim
  · obtain ⟨fits, free⟩ := careful last first rfl (by simp) (model, embedding) given
    have fresh : last.embeddings.find? (Row.key (⟨(request.row knowledgeId confirmedAt).key, model, embedding⟩ : KnowledgeEmbeddingRow)) = none := free
    obtain ⟨embeddings, inserted⟩ := Table.insert?_of_fresh fresh
    simp only [insertEmbedding, refuseIf, fits, inserted, orDatabase] at failed
    cases failed

end

end MindLeak.Ackplane.SharedKnowledge
