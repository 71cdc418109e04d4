import MindLeak.Ackplane.SharedKnowledge
import MindLeak.Library.Succession

/-! What is held of each piece of knowledge: its row, and every receipt that names it. Each statement
makes one of five changes to these accounts, or none. -/

namespace MindLeak.Ackplane.SharedKnowledge

open List Function Table Store

open MindLeak.Statements (left left_ok left_error)

/-- The receipts are in the order in which they were written. -/
@[ext]
structure Account where
  row : Option KnowledgeRow
  activations : List KnowledgeActivation
  introductions : List KnowledgeSupersession
  /-- Those that name it as what was replaced. -/
  supersessions : List KnowledgeSupersession
  reconfirmations : List KnowledgeReconfirmation

abbrev Accounts : Type := KnowledgeKey → Account

def receiptsOf {ρ γ : Type} (rows : List ρ) (subject : ρ → KnowledgeKey) (read : ρ → γ) (key : KnowledgeKey) : List γ :=
  (rows.filter fun row => subject row = key).map read

def Store.account (s : Store) (key : KnowledgeKey) : Account where
  row := s.get? key
  activations := receiptsOf s.activations.rows KnowledgeActivationRow.knowledge KnowledgeActivationRow.activation key
  introductions := receiptsOf s.supersessions.rows KnowledgeSupersessionRow.replacement KnowledgeSupersessionRow.supersession key
  supersessions := receiptsOf s.supersessions.rows KnowledgeSupersessionRow.knowledge KnowledgeSupersessionRow.supersession key
  reconfirmations :=
    receiptsOf s.reconfirmations.rows KnowledgeReconfirmationRow.knowledge KnowledgeReconfirmationRow.reconfirmation key

namespace Account
variable (account : Account)

def recorded (row : KnowledgeRow) : Account := { account with row := some row }

def activated (row : KnowledgeRow) (activation : KnowledgeActivation) : Account :=
  { account with row := some { row with lifecycleState := .active }, activations := account.activations ++ [activation] }

def replaced (row : KnowledgeRow) (receipt : KnowledgeSupersession) : Account :=
  { account with
    row := some { row with lifecycleState := .superseded, supersededBy := some receipt.newKnowledgeId }
    supersessions := account.supersessions ++ [receipt] }

def introduced (row : KnowledgeRow) (receipt : KnowledgeSupersession) : Account :=
  { account with row := some row, introductions := account.introductions ++ [receipt] }

def reconfirmed (row : KnowledgeRow) (reconfirmation : KnowledgeReconfirmation) : Account :=
  { account with
    row := some { row with confirmedAt := reconfirmation.reconfirmedAt }
    reconfirmations := account.reconfirmations ++ [reconfirmation] }

def withdrawn (row : KnowledgeRow) (reason retiredBy : String) (now : Int) : Account :=
  { account with row := some { row with retiredAt := some now, retiredReason := some reason, retiredBy := some retiredBy } }

end Account

inductive Change (accounts : Accounts) : Accounts → Prop
  | recorded (row : KnowledgeRow) (absent : (accounts row.key).row = none) (candidate : row.lifecycleState = .candidate)
      (unretired : row.retiredAt = none) (last : row.supersededBy = none) :
      Change accounts (Function.update accounts row.key ((accounts row.key).recorded row))
  | activated (key : KnowledgeKey) (row : KnowledgeRow) (activation : KnowledgeActivation) (there : (accounts key).row = some row)
      (ready : row.isPromotable = true) (basis : Text.isBlank activation.authorizedBy = false) :
      Change accounts (Function.update accounts key ((accounts key).activated row activation))
  | superseded (receipt : KnowledgeSupersessionRow) (row new : KnowledgeRow) (there : (accounts receipt.knowledge).row = some row)
      (ready : row.isReplaceable = true) (basis : Text.isBlank receipt.supersession.authorizedBy = false)
      (named : new.key = receipt.replacement) (absent : (accounts receipt.replacement).row = none)
      (active : new.lifecycleState = .active) (unretired : new.retiredAt = none) (last : new.supersededBy = none) :
      Change accounts (Function.update (Function.update accounts receipt.knowledge
        ((accounts receipt.knowledge).replaced row receipt.supersession)) receipt.replacement
        ((accounts receipt.replacement).introduced new receipt.supersession))
  | reconfirmed (key : KnowledgeKey) (row : KnowledgeRow) (reconfirmation : KnowledgeReconfirmation)
      (there : (accounts key).row = some row) (ready : row.isReconfirmable = true) :
      Change accounts (Function.update accounts key ((accounts key).reconfirmed row reconfirmation))
  | retired (key : KnowledgeKey) (row : KnowledgeRow) (reason retiredBy : String) (now : Int) (there : (accounts key).row = some row)
      (ready : row.isUnretired = true) (standing : row.lifecycleState ≠ .superseded) :
      Change accounts (Function.update accounts key ((accounts key).withdrawn row reason retiredBy now))

variable {s : Store} {key : KnowledgeKey}

section

theorem finds_some {guard : KnowledgeRow → Bool} (found : s.finds key guard = true) : ∃ row, s.get? key = some row ∧ guard row = true := by
  unfold finds at found
  cases there : s.get? key with
  | none =>
    rw [there] at found
    cases found
  | some row =>
    rw [there] at found
    exact ⟨row, rfl, found⟩

theorem get?_set {set : KnowledgeRow → KnowledgeRow} {keeps : ∀ row, (set row).key = row.key} (other : KnowledgeKey) :
    (s.set key set keeps).get? other = if key = other then (s.get? key).map set else s.get? other :=
  find?_update_one s.knowledge key other set keeps

theorem orDatabase_ok {α : Type} {value : α} {found : Option α} (given : orDatabase found = .ok value) : found = some value := by
  cases found with
  | none => cases given
  | some => exact congrArg some (Except.ok.inj given)

end

section
variable {ρ γ : Type} {rows : List ρ} {row : ρ} {subject : ρ → KnowledgeKey} {read : ρ → γ}

theorem receiptsOf_append_self (mine : subject row = key) :
    receiptsOf (rows ++ [row]) subject read key = receiptsOf rows subject read key ++ [read row] := by
  unfold receiptsOf
  rw [filter_append, map_append, filter_cons, if_pos (decide_eq_true mine)]
  rfl

theorem receiptsOf_append_other (other : key ≠ subject row) :
    receiptsOf (rows ++ [row]) subject read key = receiptsOf rows subject read key := by
  unfold receiptsOf
  rw [filter_append, filter_cons_of_neg (by simpa using other.symm), filter_nil, append_nil]

end

section
variable {after : Store}

variable {row : KnowledgeRow}

theorem account_set {set : KnowledgeRow → KnowledgeRow} {keeps : ∀ row, (set row).key = row.key}
    (there : s.get? key = some row) :
    (s.set key set keeps).account = Function.update s.account key ((s.account key).recorded (set row)) := by
  funext other
  have get : (s.set key set keeps).get? other = if key = other then (s.get? key).map set else s.get? other := get?_set other
  rcases eq_or_ne other key with rfl | apart
  · rw [if_pos rfl, there] at get
    rw [update_self]
    exact Account.ext get rfl rfl rfl rfl
  · rw [if_neg (Ne.symm apart)] at get
    rw [update_of_ne apart]
    exact Account.ext get rfl rfl rfl rfl

theorem account_insert {knowledge : Table KnowledgeRow} (inserted : s.knowledge.insert? row = some knowledge) :
    account { s with knowledge } = Function.update s.account row.key ((s.account row.key).recorded row) := by
  funext other
  have get : knowledge.find? other = if row.key = other then some row else s.knowledge.find? other := find?_insert inserted other
  rcases eq_or_ne other row.key with rfl | apart
  · rw [if_pos rfl] at get
    rw [update_self]
    exact Account.ext get rfl rfl rfl rfl
  · rw [if_neg (Ne.symm apart)] at get
    rw [update_of_ne apart]
    exact Account.ext get rfl rfl rfl rfl

theorem account_activate {activations : Table KnowledgeActivationRow} {row : KnowledgeActivationRow}
    (inserted : s.activations.insert? row = some activations) : account { s with activations } =
      Function.update s.account row.knowledge
        { s.account row.knowledge with activations := (s.account row.knowledge).activations ++ [row.activation] } := by
  obtain ⟨rows, _⟩ := insert?_rows inserted
  funext other
  rcases eq_or_ne other row.knowledge with rfl | apart
  · rw [update_self]
    exact Account.ext rfl (by rw [account, rows, receiptsOf_append_self rfl]; rfl) rfl rfl rfl
  · rw [update_of_ne apart]
    exact Account.ext rfl (by rw [account, rows, receiptsOf_append_other apart]; rfl) rfl rfl rfl

theorem account_reconfirm {reconfirmations : Table KnowledgeReconfirmationRow} {row : KnowledgeReconfirmationRow}
    (inserted : s.reconfirmations.insert? row = some reconfirmations) : account { s with reconfirmations } =
      Function.update s.account row.knowledge
        { s.account row.knowledge with reconfirmations := (s.account row.knowledge).reconfirmations ++ [row.reconfirmation] } := by
  obtain ⟨rows, _⟩ := insert?_rows inserted
  funext other
  rcases eq_or_ne other row.knowledge with rfl | apart
  · rw [update_self]
    exact Account.ext rfl rfl rfl rfl (by rw [account, rows, receiptsOf_append_self rfl]; rfl)
  · rw [update_of_ne apart]
    exact Account.ext rfl rfl rfl rfl (by rw [account, rows, receiptsOf_append_other apart]; rfl)

theorem account_supersede {supersessions : Table KnowledgeSupersessionRow} {row : KnowledgeSupersessionRow}
    (inserted : s.supersessions.insert? row = some supersessions) (apart : row.replacement ≠ row.knowledge) :
    account { s with supersessions } = Function.update (Function.update s.account row.knowledge
        { s.account row.knowledge with supersessions := (s.account row.knowledge).supersessions ++ [row.supersession] })
      row.replacement
        { s.account row.replacement with introductions := (s.account row.replacement).introductions ++ [row.supersession] } := by
  obtain ⟨rows, _⟩ := insert?_rows inserted
  funext other
  rcases eq_or_ne other row.replacement with rfl | new
  · rw [update_self]
    refine Account.ext rfl rfl ?_ ?_ rfl
    · rw [account, rows, receiptsOf_append_self rfl]
      rfl
    · rw [account, rows, receiptsOf_append_other apart]
      rfl
  · rw [update_of_ne new]
    rcases eq_or_ne other row.knowledge with rfl | old
    · rw [update_self]
      refine Account.ext rfl rfl ?_ ?_ rfl
      · rw [account, rows, receiptsOf_append_other new]
        rfl
      · rw [account, rows, receiptsOf_append_self rfl]
        rfl
    · rw [update_of_ne old]
      refine Account.ext rfl rfl ?_ ?_ rfl
      · rw [account, rows, receiptsOf_append_other new]
        rfl
      · rw [account, rows, receiptsOf_append_other old]
        rfl

theorem insertKnowledge_changes (done : insertKnowledge row s = .ok ((), after))
    (candidate : row.lifecycleState = .candidate) (unretired : row.retiredAt = none) (last : row.supersededBy = none) :
    Change s.account after.account := by
  obtain ⟨knowledge, inserted, done⟩ := bind_ok done
  cases done
  have inserted := orDatabase_ok inserted
  rw [account_insert inserted]
  exact .recorded row (insert?_rows inserted).2 candidate unretired last

theorem insertEmbedding_same {row : KnowledgeEmbeddingRow} (done : insertEmbedding row s = .ok ((), after)) :
    after.account = s.account := by
  obtain ⟨_, _, done⟩ := bind_ok done
  obtain ⟨embeddings, _, done⟩ := bind_ok done
  cases done
  rfl

variable {moved : Bool}

theorem guarded_ok {guard : KnowledgeRow → Bool} {update : Except KnowledgeStoreError (Bool × Store)}
    (done : (if s.finds key guard then update else .ok (false, s)) = .ok (moved, after)) :
    (moved = false ∧ after = s) ∨ ∃ row, s.get? key = some row ∧ guard row = true ∧ update = .ok (moved, after) := by
  split at done
  next found =>
    obtain ⟨row, there, ready⟩ := finds_some found
    exact .inr ⟨row, there, ready, done⟩
  next =>
    cases done
    exact .inl ⟨rfl, rfl⟩

theorem promote_changes {activation : KnowledgeActivation} (done : promote key activation s = .ok (moved, after))
    (basis : Text.isBlank activation.authorizedBy = false) : (moved = false ∧ after = s) ∨ Change s.account after.account := by
  refine (guarded_ok done).imp id ?_
  rintro ⟨row, there, ready, done⟩
  obtain ⟨activations, inserted, done⟩ := bind_ok done
  cases done
  have same := account_activate (s := s.set key ({ · with lifecycleState := .active })) (orDatabase_ok inserted)
  rw [account_set there, update_self, update_idem] at same
  rw [same]
  exact .activated key row activation there ready basis

theorem refresh_changes {reconfirmation : KnowledgeReconfirmation} (done : refresh key reconfirmation s = .ok (moved, after)) :
    (moved = false ∧ after = s) ∨ Change s.account after.account := by
  refine (guarded_ok done).imp id ?_
  rintro ⟨row, there, ready, done⟩
  obtain ⟨reconfirmations, inserted, done⟩ := bind_ok done
  cases done
  have same := account_reconfirm (s := s.set key ({ · with confirmedAt := reconfirmation.reconfirmedAt })) (orDatabase_ok inserted)
  rw [account_set there, update_self, update_idem] at same
  rw [same]
  exact .reconfirmed key row reconfirmation there ready

theorem replace_changes {receipt : KnowledgeSupersessionRow} {new : KnowledgeRow}
    (done : replace receipt new s = .ok (moved, after)) (basis : Text.isBlank receipt.supersession.authorizedBy = false)
    (named : new.key = receipt.replacement) (active : new.lifecycleState = .active) (unretired : new.retiredAt = none)
    (last : new.supersededBy = none) : (moved = false ∧ after = s) ∨ Change s.account after.account := by
  refine (guarded_ok done).imp id ?_
  rintro ⟨row, there, ready, done⟩
  obtain ⟨knowledge, inserted, done⟩ := bind_ok done
  obtain ⟨supersessions, written, done⟩ := bind_ok done
  cases done
  have inserted := orDatabase_ok inserted
  have free := (insert?_rows inserted).2
  change (s.set _ _ _).get? new.key = none at free
  rw [get?_set, there, named] at free
  obtain ⟨old, free⟩ := else_of_ne free nofun
  have apart : receipt.replacement ≠ receipt.knowledge := Ne.symm old
  have same := account_supersede (s := { s.set receipt.knowledge ({ · with
    lifecycleState := .superseded, supersededBy := some receipt.supersession.newKnowledgeId }) with knowledge }) (orDatabase_ok written) apart
  rw [account_insert inserted, account_set there, named, update_of_ne apart.symm, update_self, update_self,
    update_comm apart.symm, update_idem, update_comm apart, update_idem,
    update_of_ne apart] at same
  rw [same]
  have present : (s.account receipt.knowledge).row = some row := there
  have absent : (s.account receipt.replacement).row = none := free
  exact .superseded receipt row new present ready basis named absent active unretired last

theorem withdraw_changes {reason retiredBy : String} {now : Int} (done : withdraw key reason retiredBy now s = .ok (moved, after))
    (standing : ∀ row, s.get? key = some row → row.retiredAt = none → row.lifecycleState ≠ .superseded) :
    (moved = false ∧ after = s) ∨ Change s.account after.account := by
  refine (guarded_ok done).imp id ?_
  rintro ⟨row, there, ready, done⟩
  cases done
  rw [account_set there]
  exact .retired key row reason retiredBy now there ready (standing row there (by simpa [KnowledgeRow.isUnretired] using ready))

end
end MindLeak.Ackplane.SharedKnowledge
