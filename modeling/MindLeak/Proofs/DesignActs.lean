import MindLeak.Proofs.Chains

/-! The acts on the Design Board and their record: a batch goes through for every design it names or for none, and what a design's own
columns say of its deferral, retirement and rejection is the sum of its recorded acts. -/

namespace MindLeak.Lodestar

open List Option Table

structure Rejection where
  «by» : Option String
  reason : Option String
  promotion : DesignPromotionStatus
  deriving DecidableEq

structure ActColumns where
  deferred : Option Deferral := none
  retired : Option Retirement := none
  rejected : Option Rejection := none
  deriving DecidableEq

def DesignRow.actColumns (item : DesignRow) : ActColumns where
  deferred := item.deferred
  retired := item.retired
  rejected := if item.status = .rejected then some ⟨item.decidedBy, item.reason, item.promotionStatus⟩ else none

def ActColumns.after (columns : ActColumns) (act : DesignAction) : ActColumns :=
  match act.action with
  | .defer => { columns with deferred := some ⟨act.createdAt, act.human, act.reason⟩ }
  | .resume => { columns with deferred := none }
  | .reject => { columns with rejected := some ⟨some act.human, some act.reason, .notRequired⟩ }
  | .retire => { columns with retired := some ⟨act.createdAt, act.human, act.reason⟩ }

def recordedColumns (acts : List DesignAction) (id : String) : ActColumns :=
  (acts.filter fun act => decide (act.designId = id)).foldl ActColumns.after {}

variable {action : DesignActionKind} {human reason id : String} {now : Int}

section
variable {item : DesignRow} {acts : List DesignAction}

theorem recordedColumns_append (act : DesignAction) : recordedColumns (acts ++ [act]) id =
    if act.designId = id then (recordedColumns acts id).after act else recordedColumns acts id := by
  unfold recordedColumns
  rw [filter_append, foldl_append]
  by_cases same : act.designId = id
  · rw [if_pos same, filter_cons, if_pos (decide_eq_true same)]
    rfl
  · rw [if_neg same, filter_cons, if_neg (by simp [same])]
    rfl

theorem recordedColumns_unnamed (unnamed : ∀ act ∈ acts, act.designId ≠ id) : recordedColumns acts id = {} := by
  unfold recordedColumns
  rw [filter_eq_nil_iff.mpr fun act member => by simp [unnamed act member]]
  rfl

theorem actionWrite_columns (number : Nat) :
    ((actionWrite action human reason now).leaves item).actColumns = item.actColumns.after ⟨number, id, action, human, reason, now⟩ := by
  cases action <;> rfl

theorem actionWrite_once : (actionWrite action human reason now).takes ((actionWrite action human reason now).leaves item) = false := by
  cases action <;> simp [actionWrite, DesignRow.undecided]

theorem recordedColumns_rejected {rejection : Rejection} (rejected : (recordedColumns acts id).rejected = some rejection) :
    rejection.by.isSome = true := by
  induction acts using List.reverseRecOn with
  | nil => cases rejected
  | append_singleton acts act ih =>
    rw [recordedColumns_append] at rejected
    split at rejected
    · unfold ActColumns.after at rejected
      split at rejected
      case h_3 =>
        cases rejected
        rfl
      all_goals exact ih rejected
    · exact ih rejected

end

namespace Designs
variable {d middle after : Designs} {other : String} {ids : List String} {write : DesignWrite}

theorem getDesignItem_updateItem (d : Designs) (id other : String) (write : DesignWrite) :
    (d.updateItem id write).getDesignItem other =
      (d.getDesignItem other).map fun item => if (decide (item.id = id) && write.takes item) = true then write.leaves item else item :=
  find?_update d.items (fun item => decide (item.id = id) && write.takes item) write.leaves write.keeps other

structure ActedOn (d after : Designs) (id : String) (action : DesignActionKind) (human reason : String) (now : Int) : Prop where
  taken : ∃ item, d.getDesignItem id = some item ∧ (actionWrite action human reason now).takes item = true
  rows : ∀ other, after.getDesignItem other =
    if other = id then (d.getDesignItem other).map (actionWrite action human reason now).leaves else d.getDesignItem other
  record : ∃ number, after.actions = d.actions ++ [⟨number, id, action, human, reason, now⟩]

theorem applyDesignAction_ok (done : d.applyDesignAction id action human reason now = some after) :
    d.ActedOn after id action human reason now := by
  obtain ⟨once, done⟩ := then_of_ne done nofun
  cases done
  rw [changed_eq] at once
  have taken : (d.getDesignItem id).any (actionWrite action human reason now).takes = true := by
    cases which : (d.getDesignItem id).any (actionWrite action human reason now).takes with
    | true => rfl
    | false =>
      rw [which] at once
      cases once
  obtain ⟨item, found, takes⟩ := (any_eq_true _ _).mp taken
  refine ⟨⟨item, found, takes⟩, fun other => ?_, ⟨_, rfl⟩⟩
  refine (getDesignItem_updateItem d id other _).trans ?_
  split
  next same =>
    subst same
    have named : item.id = other := (mem_of_find? found).2
    rw [found, map_some, map_some, if_pos (by simp [named, takes])]
  next apart =>
    cases there : d.getDesignItem other with
    | none => rfl
    | some row =>
      have named : row.id = other := (mem_of_find? there).2
      rw [map_some, if_neg (by simp [named, apart])]

theorem actOn_ok (done : actOn action human reason now d id = .ok after) : d.ActedOn after id action human reason now := by
  obtain ⟨_, done⟩ := ite_else done
  split at done
  · cases done
  rename_i acted
  cases done
  exact applyDesignAction_ok acted

/-- A batch that went through: every design it names once, each with its act and its record, and no other. -/
structure Applied (d after : Designs) (ids : List String) (action : DesignActionKind) (human reason : String) (now : Int) : Prop where
  once : ids.Nodup
  taken : ∀ id ∈ ids, ∃ item, d.getDesignItem id = some item ∧ (actionWrite action human reason now).takes item = true
  rows : ∀ id, after.getDesignItem id =
    if id ∈ ids then (d.getDesignItem id).map (actionWrite action human reason now).leaves else d.getDesignItem id
  record : ∃ acts, after.actions = d.actions ++ acts ∧
    acts.map (fun act => (act.designId, act.action, act.human, act.reason, act.createdAt)) = ids.map fun id => (id, action, human, reason, now)

theorem Applied.cons (acted : d.ActedOn middle id action human reason now) (applied : middle.Applied after ids action human reason now) :
    d.Applied after (id :: ids) action human reason now := by
  have fresh : id ∉ ids := by
    intro again
    obtain ⟨row, left, takes⟩ := applied.taken id again
    obtain ⟨item, found, _⟩ := acted.taken
    rw [acted.rows, if_pos rfl, found, map_some] at left
    cases left
    cases actionWrite_once.symm.trans takes
  refine ⟨nodup_cons.mpr ⟨fresh, applied.once⟩, fun other member => ?_, fun other => ?_, ?_⟩
  · rcases mem_cons.mp member with rfl | later
    · exact acted.taken
    · obtain ⟨item, found, takes⟩ := applied.taken other later
      rw [acted.rows, if_neg (fun same : other = id => fresh (same ▸ later))] at found
      exact ⟨item, found, takes⟩
  · rw [applied.rows, acted.rows]
    by_cases here : other = id
    · subst here
      rw [if_neg fresh, if_pos rfl, if_pos mem_cons_self]
    · rw [if_neg here]
      simp only [mem_cons, here, false_or]
  · obtain ⟨number, first⟩ := acted.record
    obtain ⟨acts, rest, same⟩ := applied.record
    refine ⟨⟨number, id, action, human, reason, now⟩ :: acts, ?_, ?_⟩
    · rw [rest, first, append_assoc, singleton_append]
    · rw [map_cons, map_cons, same]

theorem foldlM_applied (done : ids.foldlM (actOn action human reason now) d = .ok after) : d.Applied after ids action human reason now := by
  induction ids generalizing d with
  | nil =>
    cases done
    exact ⟨.nil, by simp, by simp, [], by simp, rfl⟩
  | cons id ids ih =>
    obtain ⟨middle, acted, rest⟩ := bind_ok done
    exact .cons (actOn_ok acted) (ih rest)

theorem applyDesignActions_ok (done : d.applyDesignActions ids action human reason now = .ok after) :
    d.Applied after ids action human reason now := by
  obtain ⟨_, done⟩ := ite_else done
  exact foldlM_applied done

structure Audited (d : Designs) : Prop where
  columns : ∀ id item, d.getDesignItem id = some item → item.actColumns = recordedColumns d.actions id
  named : ∀ act ∈ d.actions, (d.getDesignItem act.designId).isSome = true

theorem Audited.empty (number : Nat) : ({ actionSeq := number } : Designs).Audited where
  columns id item found := by
    cases found
  named act member := by cases member

section
variable (audited : d.Audited)
include audited

theorem Audited.of_same (items : after.items = d.items) (actions : after.actions = d.actions) : after.Audited := by
  refine ⟨fun id item found => ?_, fun act member => ?_⟩
  · rw [actions]
    exact audited.columns id item (by rwa [getDesignItem, items] at found)
  · rw [getDesignItem, items]
    exact audited.named act (actions ▸ member)

theorem Audited.rejected {item : DesignRow} (found : d.getDesignItem id = some item)
    (rejected : item.status = .rejected) : item.decidedBy.isSome = true := by
  have recorded := audited.columns id item found
  have its : item.actColumns.rejected = some ⟨item.decidedBy, item.reason, item.promotionStatus⟩ := if_pos rejected
  rw [recorded] at its
  exact recordedColumns_rejected its

theorem Audited.revised (plain : ∀ item, d.getDesignItem item.id = some item → write.takes item = true →
    (write.leaves item).actColumns = item.actColumns) : (d.updateItem id write).Audited := by
  refine ⟨fun other item found => ?_, fun act member => ?_⟩
  · rw [getDesignItem_updateItem] at found
    obtain ⟨row, there, rfl⟩ := map_eq_some_iff.mp found
    have named : row.id = other := (mem_of_find? there).2
    refine Eq.trans ?_ (audited.columns other row there)
    split
    next takes => exact plain row (named ▸ there) (Bool.and_eq_true_iff.mp takes).2
    next => rfl
  · rw [getDesignItem_updateItem, isSome_map]
    exact audited.named act member

theorem Audited.entered {item : DesignRow} {items : Table DesignRow} (inserted : d.items.insert? item = some items)
    (fresh : item.actColumns = {}) : ({ d with items } : Designs).Audited := by
  have absent : d.getDesignItem item.id = none := (insert?_rows inserted).2
  refine ⟨fun other row found => ?_, fun act member => ?_⟩
  · have found : items.find? other = some row := found
    rw [find?_insert inserted other] at found
    split at found
    next same =>
      cases found
      rw [fresh, recordedColumns_unnamed]
      intro act member named
      have there := audited.named act member
      rw [named, ← same, show d.getDesignItem (Row.key item) = none from absent] at there
      cases there
    next => exact audited.columns other row found
  · have there := audited.named act member
    have kept : items.find? act.designId = d.items.find? act.designId := by
      rw [find?_insert inserted act.designId, if_neg]
      intro same
      rw [← same, show d.getDesignItem (Row.key item) = none from absent] at there
      cases there
    exact (congrArg Option.isSome kept).trans there

theorem Audited.acted (acted : d.ActedOn after id action human reason now) : after.Audited := by
  obtain ⟨number, record⟩ := acted.record
  refine ⟨fun other item found => ?_, fun act member => ?_⟩
  · rw [acted.rows] at found
    rw [record, recordedColumns_append]
    split at found
    next same =>
      subst same
      obtain ⟨row, there, rfl⟩ := map_eq_some_iff.mp found
      rw [if_pos rfl, actionWrite_columns number, audited.columns other row there]
    next apart =>
      rw [if_neg (Ne.symm apart)]
      exact audited.columns other item found
  · rw [record] at member
    rcases mem_append.mp member with old | new
    · have there := audited.named act old
      rw [acted.rows]
      split
      · rwa [isSome_map]
      · exact there
    · cases mem_singleton.mp new
      obtain ⟨item, found, _⟩ := acted.taken
      rw [acted.rows, if_pos rfl, found]
      rfl

theorem Audited.batch (done : d.applyDesignActions ids action human reason now = .ok after) : after.Audited := by
  obtain ⟨_, done⟩ := ite_else done
  exact foldlM_ok Audited done audited fun _ _ _ kept one => kept.acted (actOn_ok one)

theorem Audited.decided {target : DesignStatus} {decidedBy : String} {why : Option String}
    (done : d.decideDesignItem id target decidedBy why now = some after) : after.Audited := by
  unfold decideDesignItem at done
  split at done
  · exact audited.acted (applyDesignAction_ok done)
  rename_i other
  obtain ⟨_, done⟩ := then_of_ne done nofun
  cases done
  refine audited.revised fun item _ takes => ?_
  simp only [acceptWrite, DesignRow.undecided, Bool.and_eq_true, decide_eq_true_eq] at takes
  simp [DesignRow.actColumns, acceptWrite, takes.1.1, other]

theorem Audited.reopened (done : d.reopenUndecidedDesign id now = .ok after) : after.Audited := by
  obtain ⟨_, done⟩ := ite_else done
  cases done
  refine audited.revised fun item found takes => ?_
  simp only [reopenDesignWrite, Bool.and_eq_true, decide_eq_true_eq] at takes
  have standing : item.status ≠ .rejected := by
    intro rejected
    have named := audited.rejected found rejected
    rw [isNone_iff_eq_none.mp takes.1.1.1] at named
    cases named
  simp [DesignRow.actColumns, reopenDesignWrite, standing]

theorem Audited.attributed (done : d.attributeDesignDecision id human now = .ok after) : after.Audited := by
  obtain ⟨_, done⟩ := ite_else done
  cases done
  refine audited.revised fun item found takes => ?_
  simp only [attributeWrite, Bool.and_eq_true, decide_eq_true_eq] at takes
  have standing : item.status ≠ .rejected := by
    intro rejected
    have named := audited.rejected found rejected
    rw [isNone_iff_eq_none.mp takes.1.1] at named
    cases named
  simp [DesignRow.actColumns, attributeWrite, standing]

theorem Audited.registered {adrPath title summary : String} {proposedBy : Option String}
    (done : d.registerDesignItem id adrPath title summary proposedBy now = .ok after) : after.Audited := by
  unfold registerDesignItem at done
  split at done
  · cases done
  rename_i items inserted
  cases done
  exact audited.entered inserted rfl

theorem Audited.reconciled (metadata : DesignMetadata) (now : Int) : (d.reconcileDesignItem metadata now).Audited := by
  simp only [reconcileDesignItem]
  split
  next items inserted => exact audited.entered inserted rfl
  next => exact audited.revised fun _ _ _ => rfl

theorem Audited.superseded {seen : Designs} {supersededBy : String}
    (done : seen.supersedeDesignItem d id supersededBy human now = .ok after) : after.Audited := by
  simp only [supersedeDesignItem] at done
  split at done
  · cases done
  split_ifs at done
  cases done
  exact audited.revised fun _ _ _ => rfl

end

end Designs

namespace Database
variable {env : Env} {decay : Decay} {db : Database}

theorem settleDesigns_audited {result : Result Designs} (audited : db.designs.Audited)
    (each : ∀ after, result = .ok after → after.Audited) : (db.settleDesigns result).designs.Audited := by
  cases returned : result with
  | error failure => exact audited
  | ok after => exact each after returned

/-- Every operation keeps the columns and the record together. -/
theorem perform_audited (op : DatabaseOp) (audited : db.designs.Audited) : (db.perform env decay op).designs.Audited := by
  cases op with
  | «local» op =>
    rcases performLocal_cases env db op with ⟨confirmation, rfl⟩ | ⟨_, ordinary⟩
    · cases returned : db.resetDatabase confirmation with
      | error failure => simpa only [perform, performLocal, returned, settle] using audited
      | ok after =>
        obtain ⟨store, _, cleared⟩ := bind_ok returned
        cases cleared
        simp only [perform, performLocal, returned, settle]
        exact Designs.Audited.empty _
    · simpa only [perform, ordinary] using audited
  | registerDesign id adrPath title summary proposedBy now =>
    exact settleDesigns_audited audited fun _ done => audited.registered done
  | reconcileDesign metadata now =>
    exact audited.reconciled metadata now
  | designActions ids action human why now =>
    exact settleDesigns_audited audited fun _ done => audited.batch done
  | decideDesign id target decidedBy why now =>
    cases decided : db.designs.decideDesignItem id target decidedBy why now with
    | none =>
      simp only [perform, decided, withDesigns, getD_none]
      exact audited
    | some after =>
      simp only [perform, decided, withDesigns, getD_some]
      exact audited.decided decided
  | reopenDesign id now =>
    exact settleDesigns_audited audited fun _ done => audited.reopened done
  | attributeDesign id human now =>
    exact settleDesigns_audited audited fun _ done => audited.attributed done
  | supersedeDesign seen id supersededBy human now =>
    exact settleDesigns_audited audited fun _ done => audited.superseded done
  | materializeDesign seen id plan actor repair now =>
    cases returned : materializeDesignItem env seen db id plan actor repair now with
    | error failure => simpa only [perform, returned, settle] using audited
    | ok after =>
      simp only [perform, returned, settle]
      rcases materializeDesignItem_ok returned with rfl | ⟨_, _, _, _, wrote⟩
      · exact audited
      obtain ⟨items, actions, _⟩ := writePlan_items wrote
      refine Designs.Audited.of_same (Designs.Audited.revised audited fun item _ takes => ?_) items actions
      simp only [materializeWrite, Bool.and_eq_true, decide_eq_true_eq] at takes
      simp [DesignRow.actColumns, materializeWrite, takes.1.1]
  | recordSourced | retireSource | retireKnowledge =>
    simp only [perform]
    split <;> exact audited
  | _ => exact audited

end Database

/-- In every state of a run a batch of acts goes through for all the designs it names or changes nothing, and the columns of every design
are the sum of its record. -/
theorem design_acts_audited {env : Env} {decay : Decay} {history : List (Entry Database DatabaseOp)} {state : Database}
    (run : (anyDatabase env decay).Run history state) :
    (∀ ids action human why now, state.perform env decay (.designActions ids action human why now) = state ∨
        state.designs.Applied (state.perform env decay (.designActions ids action human why now)).designs ids action human why now) ∧
      ∀ id item, state.designs.getDesignItem id = some item → item.actColumns = recordedColumns state.designs.actions id := by
  have audited : state.designs.Audited :=
    run.invariant (fun db => db.designs.Audited) (.empty 0) fun _ op audited => Database.perform_audited op audited
  refine ⟨fun ids action human why now => ?_, audited.columns⟩
  cases done : state.designs.applyDesignActions ids action human why now with
  | error failure =>
    left
    simp only [Database.perform, done]
    rfl
  | ok after =>
    right
    simp only [Database.perform, done]
    exact Designs.applyDesignActions_ok done

/-- Two proposals: both deferred, one of them taken up again and rejected, newest first. -/
def rejectedProposal : List (Database → DatabaseOp) :=
  [fun _ => .decideDesign "design:0001" .rejected "ann" (some "costly") 6,
    fun _ => .designActions ["design:0001"] .resume "bob" "" 5,
    fun _ => .designActions ["design:0002", "design:0001"] .defer "ann" "later" 4,
    fun _ => .registerDesign "design:0002" "docs/adr/0002.md" "Two" "" none 2,
    fun _ => .registerDesign "design:0001" "docs/adr/0001.md" "One" "" none 1]

theorem design_acts_audited_rejected :
    ∃ item ∈ ((anyDatabase Env.plain Decay.plain).replay rejectedProposal).2.designs.getDesignItem "design:0001",
      item.actColumns = ⟨none, none, some ⟨some "ann", some "costly", .notRequired⟩⟩ := by
  obtain ⟨item, found⟩ := Option.isSome_iff_exists.mp (show
    (((anyDatabase Env.plain Decay.plain).replay rejectedProposal).2.designs.getDesignItem "design:0001").isSome from by decide +kernel)
  refine ⟨item, found, ((design_acts_audited (Machine.replay_run ?_)).2 "design:0001" item found).trans ?_⟩
  · simp only [rejectedProposal, List.forall_mem_cons]
    simp [anyDatabase, DatabaseOp.enabled, DatabaseOp.reads]
  · decide +kernel

end MindLeak.Lodestar
