import MindLeak.Library.Succession
import MindLeak.Proofs.Materialization

/-! What superseded what: from a design or a lesson that was replaced, following
the replacements ends, as long as no operation writes a link that leads back or
removes a row that one names. -/

namespace MindLeak.Lodestar

open Succession List Table Function

variable {id human reason : String} {now : Int}

namespace Designs
variable {seen d after : Designs} {supersededBy : String} {write : DesignWrite}

def chain (d : Designs) : Succession String := fun id =>
  (d.getDesignItem id).map fun item => item.superseded.map Supersession.byDesign

theorem chain_updateItem (d : Designs) (id : String) (write : DesignWrite)
    (same : ∀ item, (write.leaves item).superseded = item.superseded) :
    (d.updateItem id write).chain = d.chain := by
  funext other
  simp only [chain, getDesignItem, updateItem, Table.find?_update, Option.map_map]
  refine Option.map_congr fun item _ => ?_
  simp only [comp]
  split
  · rw [same]
  · rfl

theorem changed_eq (d : Designs) (id : String) (write : DesignWrite) :
    d.changed id write = ((d.getDesignItem id).any write.takes).toNat := countP_key d.items id write.takes

theorem chain_insert {item : DesignRow} {items : Table DesignRow} (inserted : d.items.insert? item = some items)
    (fresh : item.superseded = none) (grounded : d.chain.Grounded) : ({ d with items } : Designs).chain.Grounded := by
  have absent : d.chain item.id = none := by
    rw [chain, getDesignItem, show d.items.find? item.id = none from (Table.insert?_rows inserted).2, Option.map_none]
  refine grounded.add absent fun other => ?_
  simp only [chain, getDesignItem, Table.find?_insert inserted other]
  by_cases same : Row.key item = other
  · rw [if_pos same, if_pos (show other = item.id from same.symm), Option.map_some, fresh, Option.map_none]
  · rw [if_neg same, if_neg (show other ≠ item.id from Ne.symm same)]

theorem registerDesignItem_grounded {adrPath title summary : String} {proposedBy : Option String}
    (done : d.registerDesignItem id adrPath title summary proposedBy now = .ok after) (grounded : d.chain.Grounded) :
    after.chain.Grounded := by
  unfold registerDesignItem at done
  split at done
  · cases done
  rename_i items inserted
  cases done
  exact chain_insert inserted rfl grounded

theorem reconcileDesignItem_grounded (d : Designs) (metadata : DesignMetadata) (now : Int)
    (grounded : d.chain.Grounded) : (d.reconcileDesignItem metadata now).chain.Grounded := by
  simp only [reconcileDesignItem]
  split
  next items inserted => exact chain_insert inserted rfl grounded
  rw [chain_updateItem _ _ _ fun _ => rfl]
  exact grounded

theorem applyDesignAction_chain {action : DesignActionKind} (done : d.applyDesignAction id action human reason now = some after) :
    after.chain = d.chain := by
  simp only [applyDesignAction] at done
  obtain ⟨_, done⟩ := then_of_ne done nofun
  cases done
  refine (show _ = (d.updateItem id (actionWrite action human reason now)).chain from rfl).trans
    (chain_updateItem d id _ ?_)
  intro item
  cases action <;> rfl

theorem applyDesignActions_chain {ids : List String} {action : DesignActionKind}
    (done : d.applyDesignActions ids action human reason now = .ok after) : after.chain = d.chain := by
  unfold applyDesignActions at done
  split at done
  · cases done
  refine foldlM_ok (fun middle => middle.chain = d.chain) done rfl fun before id middle same one => ?_
  unfold actOn at one
  obtain ⟨_, one⟩ := ite_else one
  split at one
  · cases one
  rename_i acted
  cases one
  exact (applyDesignAction_chain acted).trans same

theorem decideDesignItem_chain {target : DesignStatus} {decidedBy : String} {why : Option String}
    (done : d.decideDesignItem id target decidedBy why now = some after) : after.chain = d.chain := by
  unfold decideDesignItem at done
  split at done
  · exact applyDesignAction_chain done
  obtain ⟨_, done⟩ := then_of_ne done nofun
  cases done
  exact chain_updateItem d id _ fun _ => rfl

theorem reopenUndecidedDesign_chain (done : d.reopenUndecidedDesign id now = .ok after) : after.chain = d.chain := by
  unfold reopenUndecidedDesign at done
  obtain ⟨_, done⟩ := ite_else done
  cases done
  exact chain_updateItem d id _ fun _ => rfl

theorem attributeDesignDecision_chain (done : d.attributeDesignDecision id human now = .ok after) :
    after.chain = d.chain := by
  unfold attributeDesignDecision at done
  obtain ⟨_, done⟩ := ite_else done
  cases done
  exact chain_updateItem d id _ fun _ => rfl

/-- A supersession goes through: a decided, accepted design that nothing replaced
yet and nobody retired, by another one that is there. -/
def supersedes (seen d : Designs) (id supersededBy : String) : Bool :=
  ((seen.getDesignItem id).any fun item => decide (item.status = .accepted) && item.decidedBy.isSome) &&
    (seen.getDesignItem supersededBy).isSome && decide (supersededBy ≠ id) &&
    ((d.getDesignItem id).any fun item => item.superseded.isNone && item.retired.isNone) &&
    (d.getDesignItem supersededBy).isSome

theorem supersedeDesignItem_ok (through : seen.supersedes d id supersededBy = true) :
    seen.supersedeDesignItem d id supersededBy human now =
      .ok (d.updateItem id (supersedeWrite supersededBy human now)) := by
  simp only [supersedes, Bool.and_eq_true, decide_eq_true_eq] at through
  obtain ⟨⟨⟨⟨decided, known⟩, apart⟩, current⟩, there⟩ := through
  obtain ⟨item, found, accepted⟩ := (Option.any_eq_true _ _).mp decided
  simp only [Bool.and_eq_true, decide_eq_true_eq] at accepted
  unfold supersedeDesignItem
  rw [found]
  simp only [Option.isNone_eq_false_iff.mpr known, apart, accepted.1, Option.isNone_eq_false_iff.mpr accepted.2,
    changed_eq, supersedeWrite, current, Option.isNone_eq_false_iff.mpr there, Bool.false_eq_true, if_false, ne_eq,
    not_true_eq_false, or_self, Bool.toNat_true, Nat.one_ne_zero]

theorem supersedeDesignItem_refused (human : String) (now : Int) (refused : seen.supersedes d id supersededBy = false) :
    ∃ failure, seen.supersedeDesignItem d id supersededBy human now = .error failure := by
  cases returned : seen.supersedeDesignItem d id supersededBy human now with
  | error failure => exact ⟨failure, rfl⟩
  | ok after =>
    unfold supersedeDesignItem at returned
    split at returned
    · cases returned
    rename_i item found
    split_ifs at returned with unknown same undecided unchanged gone
    rw [changed_eq] at unchanged
    simp only [supersedes, found, Option.any_some, Bool.and_eq_false_iff, decide_eq_false_iff_not] at refused
    simp_all [supersedeWrite]

theorem chain_supersede (current : (d.getDesignItem id).any (fun item => item.superseded.isNone && item.retired.isNone) = true)
    (other : String) : (d.updateItem id (supersedeWrite supersededBy human now)).chain other =
      if other = id then some (some supersededBy) else d.chain other := by
  simp only [chain, getDesignItem, updateItem, Table.find?_update, Option.map_map]
  by_cases same : other = id
  · subst same
    obtain ⟨item, found, standing⟩ := (Option.any_eq_true _ _).mp current
    rw [if_pos rfl, show d.items.find? other = some item from found]
    have named : item.id = other := (mem_of_find? found).2
    simp only [supersedeWrite, Option.map_some, comp, named, standing, decide_true, Bool.and_self, if_true]
  · rw [if_neg same]
    refine Option.map_congr fun item found => ?_
    have named : item.id = other := (mem_of_find? found).2
    simp [named, same]

/-- A supersession keeps every chain ending exactly when it does not lead back. -/
theorem supersede_grounded_iff (grounded : d.chain.Grounded) (through : seen.supersedes d id supersededBy = true) :
    (d.updateItem id (supersedeWrite supersededBy human now)).chain.Grounded ↔ ¬ d.chain.Leads supersededBy id := by
  simp only [supersedes, Bool.and_eq_true, decide_eq_true_eq] at through
  obtain ⟨⟨_, current⟩, there⟩ := through
  have last : d.chain id = some none := by
    obtain ⟨item, found, standing⟩ := (Option.any_eq_true _ _).mp current
    rw [Bool.and_eq_true, Option.isNone_iff_eq_none] at standing
    rw [chain, found, Option.map_some, standing.1, Option.map_none]
  rw [grounded.replace_iff last (chain_supersede current)]
  exact and_iff_right (by rw [chain, Option.isSome_map]; exact there)

end Designs

variable {env : Env} {decay : Decay}

namespace KnowledgeBase
variable {seen k after : KnowledgeBase} {statement evidence sourceRef : String} {halfLifeHours : UInt64}
variable {supersededBy : Option String} {previous actor : String}

def chain (k : KnowledgeBase) : Succession String := fun id => (k.getKnowledge id).map KnowledgeRow.supersededBy

def Kept (k : KnowledgeBase) : Prop := ∀ row ∈ k.rows.rows, row.retiredAt = none → row.supersededBy = none

theorem chain_of_rows (same : after.rows = k.rows) : after.chain = k.chain := by
  funext id
  simp only [chain, getKnowledge, same]

theorem Kept.of_rows (kept : k.Kept) (same : after.rows = k.rows) : after.Kept := by
  intro row member
  exact kept row (same ▸ member)

theorem chain_update {selects : KnowledgeRow → Bool} {set : KnowledgeRow → KnowledgeRow}
    {keeps : ∀ row, Row.key (set row) = Row.key row} (k : KnowledgeBase)
    (same : ∀ row, (set row).supersededBy = row.supersededBy) :
    ({ k with rows := k.rows.update selects set keeps } : KnowledgeBase).chain = k.chain := by
  funext other
  simp only [chain, getKnowledge, Table.find?_update, Option.map_map]
  refine Option.map_congr fun row _ => ?_
  simp only [comp]
  split
  · rw [same]
  · rfl

theorem Kept.update {selects : KnowledgeRow → Bool} {set : KnowledgeRow → KnowledgeRow}
    {keeps : ∀ row, Row.key (set row) = Row.key row} (kept : k.Kept)
    (sound : ∀ row, (row.retiredAt = none → row.supersededBy = none) → (set row).retiredAt = none →
      (set row).supersededBy = none) :
    ({ k with rows := k.rows.update selects set keeps } : KnowledgeBase).Kept := by
  intro row member unretired
  obtain ⟨origin, inside, rfl⟩ := mem_map.mp member
  by_cases taken : selects origin = true
  · rw [if_pos taken] at unretired ⊢
    exact sound origin (kept origin inside) unretired
  · rw [if_neg taken] at unretired ⊢
    exact kept origin inside unretired

theorem upsertKnowledge_id : (k.upsertKnowledge env decay statement evidence halfLifeHours now).1 = knowledgeId env statement := by
  simp only [upsertKnowledge]
  split <;> rfl

/-- An upsert adds a lesson that nothing replaced, or leaves every chain as it was. -/
theorem upsertKnowledge_chain (env : Env) (decay : Decay) (k : KnowledgeBase) (statement evidence : String)
    (halfLifeHours : UInt64) (now : Int) :
    (k.getKnowledge (knowledgeId env statement) = none ∧ ∀ other,
      (k.upsertKnowledge env decay statement evidence halfLifeHours now).2.chain other =
        if other = knowledgeId env statement then some none else k.chain other) ∨
      ((k.getKnowledge (knowledgeId env statement)).isSome ∧
        (k.upsertKnowledge env decay statement evidence halfLifeHours now).2.chain = k.chain) := by
  simp only [upsertKnowledge]
  split
  next rows inserted =>
    refine .inl ⟨(Table.insert?_rows inserted).2, fun other => ?_⟩
    simp only [chain, getKnowledge, Table.find?_insert inserted other]
    by_cases same : knowledgeId env statement = other
    · rw [if_pos (show Row.key _ = other from same), if_pos same.symm, Option.map_some]
    · rw [if_neg (show ¬ Row.key _ = other from same), if_neg (Ne.symm same)]
  next taken =>
    refine .inr ⟨?_, chain_update k fun _ => rfl⟩
    by_contra absent
    have free : ∃ rows, k.rows.insert?
        { id := knowledgeId env statement, statement := statement, evidence := evidence, weight := FULL_WEIGHT
          halfLifeHours := halfLifeHours, confirmedAt := now, createdAt := now } = some rows :=
      Table.insert?_of_fresh (Option.not_isSome_iff_eq_none.mp absent)
    obtain ⟨rows, inserted⟩ := free
    cases inserted.symm.trans taken

theorem upsertKnowledge_kept (kept : k.Kept) :
    (k.upsertKnowledge env decay statement evidence halfLifeHours now).2.Kept := by
  simp only [upsertKnowledge]
  split
  next rows inserted =>
    intro row member unretired
    rw [(Table.insert?_rows inserted).1, mem_append, mem_singleton] at member
    rcases member with old | rfl
    · exact kept row old unretired
    · rfl
  next => exact kept.update fun row sound => sound

theorem upsertKnowledge_grounded (grounded : k.chain.Grounded) :
    (k.upsertKnowledge env decay statement evidence halfLifeHours now).2.chain.Grounded := by
  rcases upsertKnowledge_chain env decay k statement evidence halfLifeHours now with ⟨fresh, added⟩ | ⟨_, same⟩
  · exact grounded.add (by rw [chain, fresh, Option.map_none]) added
  · rw [same]
    exact grounded

theorem upsertKnowledge_leads (apart : previous ≠ knowledgeId env statement) :
    (k.upsertKnowledge env decay statement evidence halfLifeHours now).2.chain.Leads (knowledgeId env statement) previous ↔
      k.chain.Leads (knowledgeId env statement) previous := by
  rcases upsertKnowledge_chain env decay k statement evidence halfLifeHours now with ⟨fresh, added⟩ | ⟨_, same⟩
  · constructor <;> intro leads
    · exact absurd (leads_of_last (by rw [added, if_pos rfl]) leads) apart
    · exact absurd (leads_of_absent (by rw [chain, fresh, Option.map_none]) leads) apart
  · rw [same]

theorem chain_retire (current : (k.getKnowledge id).any (fun row => row.retiredAt.isNone) = true) (other : String) :
    (k.retire id human reason supersededBy now).chain other = if other = id then some supersededBy else k.chain other := by
  simp only [chain, getKnowledge, retire, Table.find?_update, Option.map_map]
  by_cases same : other = id
  · subst same
    obtain ⟨row, found, unretired⟩ := (Option.any_eq_true _ _).mp current
    have named : row.id = other := (mem_of_find? found).2
    rw [if_pos rfl, show k.rows.find? other = some row from found]
    simp only [Option.map_some, comp, named, unretired, decide_true, Bool.and_self, if_true]
  · rw [if_neg same]
    refine Option.map_congr fun row found => ?_
    have named : row.id = other := (mem_of_find? found).2
    simp [named, same]

theorem Kept.last (kept : k.Kept) (current : (k.getKnowledge id).any (fun row => row.retiredAt.isNone) = true) :
    k.chain id = some none := by
  obtain ⟨row, found, unretired⟩ := (Option.any_eq_true _ _).mp current
  rw [chain, found, Option.map_some, kept row (mem_of_find? found).1 (Option.isNone_iff_eq_none.mp unretired)]

theorem Kept.retire (kept : k.Kept) : (k.retire id human reason supersededBy now).Kept :=
  kept.update fun _ _ unretired => by cases unretired

theorem retire_grounded_iff {successor : String} (kept : k.Kept) (grounded : k.chain.Grounded)
    (current : (k.getKnowledge id).any (fun row => row.retiredAt.isNone) = true) :
    (k.retire id human reason (some successor) now).chain.Grounded ↔
      (k.getKnowledge successor).isSome ∧ ¬ k.chain.Leads successor id := by
  rw [grounded.replace_iff (kept.last current) (chain_retire current), chain, Option.isSome_map]

def carried (k : KnowledgeBase) (id : String) : Bool := (k.getKnowledge id).any fun row => row.retiredAt.isNone

def replacedBy (k : KnowledgeBase) (id sourceRef : String) : Option String :=
  ((k.sources.find? sourceRef).map KnowledgeSource.knowledgeId).filter fun previous =>
    decide (previous ≠ id) &&
      (k.sources.rows.all fun source => decide (source.knowledgeId = previous → source.sourceRef = sourceRef)) &&
      k.carried previous

/-- Once the source stands for another row, whoever still names the old one is
another source. -/
theorem carriers_moved (now : Int) (apart : id ≠ previous)
    (stood : (k.sources.find? sourceRef).map KnowledgeSource.knowledgeId = some previous) :
    (k.moveSource sourceRef id now).carriers previous = 0 ↔
      ∀ source ∈ k.sources.rows, source.knowledgeId = previous → source.sourceRef = sourceRef := by
  obtain ⟨source, found, _⟩ := Option.map_eq_some_iff.mp stood
  have there : k.sources.insertOrIgnore ⟨sourceRef, id, now⟩ = k.sources := by
    have taken : k.sources.insert? (⟨sourceRef, id, now⟩ : KnowledgeSource) = none := by
      unfold Table.insert?
      obtain ⟨member, named⟩ := mem_of_find? found
      exact dif_neg fun fresh => fresh (mem_map.mpr ⟨source, member, named⟩)
    rw [Table.insertOrIgnore, taken, Option.getD_none]
  simp only [moveSource, there, carriers, Table.update, countP_eq_zero, mem_map, forall_exists_index, and_imp,
    forall_apply_eq_imp_iff₂, decide_eq_true_eq]
  refine forall₂_congr fun source _ => ?_
  by_cases same : source.sourceRef = sourceRef
  · simp [same, apart]
  · simp [same]

theorem upsertKnowledge_sources (k : KnowledgeBase) :
    (k.upsertKnowledge env decay statement evidence halfLifeHours now).2.sources = k.sources := by
  simp only [upsertKnowledge]
  split <;> rfl

theorem upsertKnowledge_carried (env : Env) (decay : Decay) (evidence : String) (halfLifeHours : UInt64) (now : Int)
    (apart : previous ≠ knowledgeId env statement) :
    (k.upsertKnowledge env decay statement evidence halfLifeHours now).2.carried previous = k.carried previous := by
  simp only [upsertKnowledge]
  split
  next rows inserted =>
    simp only [carried, getKnowledge]
    rw [Table.find?_insert inserted previous, if_neg (show ¬ Row.key _ = previous from Ne.symm apart)]
  next =>
    simp only [carried, getKnowledge, Table.find?_update, Option.any_map]
    congr 1
    funext row
    split <;> rfl

theorem upsertKnowledge_replacedBy (k : KnowledgeBase) :
    (k.upsertKnowledge env decay statement evidence halfLifeHours now).2.replacedBy (knowledgeId env statement) sourceRef =
      k.replacedBy (knowledgeId env statement) sourceRef := by
  simp only [replacedBy, upsertKnowledge_sources]
  congr 1
  funext previous
  by_cases same : previous = knowledgeId env statement
  · simp [same]
  · rw [upsertKnowledge_carried env decay evidence halfLifeHours now same]

theorem upsertKnowledge_stored (env : Env) (decay : Decay) (k : KnowledgeBase) (statement evidence : String)
    (halfLifeHours : UInt64) (now : Int) :
    ((k.upsertKnowledge env decay statement evidence halfLifeHours now).2.getKnowledge (knowledgeId env statement)).isSome := by
  rcases upsertKnowledge_chain env decay k statement evidence halfLifeHours now with ⟨_, added⟩ | ⟨there, same⟩
  · have last := added (knowledgeId env statement)
    rw [if_pos rfl, chain] at last
    exact Option.isSome_iff_exists.mpr ((Option.map_eq_some_iff.mp last).imp fun _ both => both.1)
  · have alike := congrFun same (knowledgeId env statement)
    rw [← Option.isSome_map (f := KnowledgeRow.supersededBy)] at there ⊢
    exact (congrArg Option.isSome alike).trans there

theorem retireReplaced_rows (k : KnowledgeBase) (id sourceRef actor : String) (now : Int) :
    (((k.moveSource sourceRef id now).retireReplaced (((k.sources.find? sourceRef).map KnowledgeSource.knowledgeId).filter
      fun previous => decide (previous ≠ id)) id sourceRef actor now).2).rows =
      ((k.replacedBy id sourceRef).elim k fun previous =>
        k.retire previous actor s!"source {sourceRef} was updated" (some id) now).rows := by
  cases stood : (k.sources.find? sourceRef).map KnowledgeSource.knowledgeId with
  | none => simp [replacedBy, stood, retireReplaced, moveSource]
  | some previous =>
    by_cases same : previous = id
    · subst same
      rw [replacedBy, stood, Option.filter_some, Option.filter_some, if_neg (by simp), if_neg (by simp)]
      rfl
    · rw [replacedBy, stood, Option.filter_some, Option.filter_some, if_pos (decide_eq_true same), retireReplaced]
      have alone := carriers_moved now (Ne.symm same) stood
      have guards : ((decide (previous ≠ id) &&
          (k.sources.rows.all fun source => decide (source.knowledgeId = previous → source.sourceRef = sourceRef)) &&
          k.carried previous) = true) ↔ (k.moveSource sourceRef id now).carriers previous = 0 ∧
            ((k.moveSource sourceRef id now).getKnowledge previous).any (fun row => row.retiredAt.isNone) = true := by
        rw [alone, Bool.and_eq_true, Bool.and_eq_true, decide_eq_true same, all_eq_true]
        simp only [decide_eq_true_eq, true_and]
        exact Iff.rfl
      by_cases retires : (k.moveSource sourceRef id now).carriers previous = 0 ∧
          ((k.moveSource sourceRef id now).getKnowledge previous).any (fun row => row.retiredAt.isNone) = true
      · rw [if_pos retires, if_pos (guards.mpr retires)]
        rfl
      · rw [if_neg retires, if_neg fun holds => retires (guards.mp holds)]
        rfl

theorem recordSourcedKnowledge_ok (env : Env) (decay : Decay) (k : KnowledgeBase) (statement evidence : String)
    (halfLifeHours : UInt64) (sourceRef actor : String) (now : Int) :
    ∃ answer after, k.recordSourcedKnowledge env decay statement evidence halfLifeHours sourceRef actor now = .ok (answer, after) ∧
      after.rows = ((k.replacedBy (knowledgeId env statement) sourceRef).elim
        (k.upsertKnowledge env decay statement evidence halfLifeHours now).2 fun previous =>
          (k.upsertKnowledge env decay statement evidence halfLifeHours now).2.retire previous actor
            s!"source {sourceRef} was updated" (some (knowledgeId env statement)) now).rows := by
  have rows := retireReplaced_rows (k.upsertKnowledge env decay statement evidence halfLifeHours now).2
    (knowledgeId env statement) sourceRef actor now
  rw [upsertKnowledge_sources, upsertKnowledge_replacedBy] at rows
  simp only [recordSourcedKnowledge, upsertKnowledge_id]
  split
  next absent =>
    exfalso
    have there := upsertKnowledge_stored env decay k statement evidence halfLifeHours now
    simp only [getKnowledge, rows] at absent there
    cases replaced : k.replacedBy (knowledgeId env statement) sourceRef with
    | none =>
      rw [replaced, Option.elim_none] at absent
      rw [absent] at there
      cases there
    | some previous =>
      rw [replaced, Option.elim_some, retire] at absent
      simp only [Table.find?_update, Option.map_eq_none_iff] at absent
      rw [absent] at there
      cases there
  next row _ => exact ⟨_, _, rfl, rows⟩

theorem recordSourced_kept (kept : k.Kept) (rows : after.rows = ((k.replacedBy (knowledgeId env statement) sourceRef).elim
        (k.upsertKnowledge env decay statement evidence halfLifeHours now).2 fun previous =>
          (k.upsertKnowledge env decay statement evidence halfLifeHours now).2.retire previous actor
            s!"source {sourceRef} was updated" (some (knowledgeId env statement)) now).rows) : after.Kept := by
  refine Kept.of_rows ?_ rows
  cases k.replacedBy (knowledgeId env statement) sourceRef with
  | none => exact upsertKnowledge_kept kept
  | some previous => exact (upsertKnowledge_kept kept).retire

theorem recordSourced_grounded_iff (kept : k.Kept) (grounded : k.chain.Grounded)
    (rows : after.rows = ((k.replacedBy (knowledgeId env statement) sourceRef).elim
        (k.upsertKnowledge env decay statement evidence halfLifeHours now).2 fun previous =>
          (k.upsertKnowledge env decay statement evidence halfLifeHours now).2.retire previous actor
            s!"source {sourceRef} was updated" (some (knowledgeId env statement)) now).rows) :
    after.chain.Grounded ↔ ∀ previous, k.replacedBy (knowledgeId env statement) sourceRef = some previous →
      ¬ k.chain.Leads (knowledgeId env statement) previous := by
  rw [chain_of_rows rows]
  cases replaced : k.replacedBy (knowledgeId env statement) sourceRef with
  | none =>
    simp only [Option.elim_none, reduceCtorEq, false_implies, implies_true, iff_true]
    exact upsertKnowledge_grounded grounded
  | some previous =>
    obtain ⟨_, guards⟩ := Option.filter_eq_some_iff.mp replaced
    simp only [Bool.and_eq_true, decide_eq_true_eq] at guards
    obtain ⟨⟨apart, _⟩, carried⟩ := guards
    rw [← upsertKnowledge_carried env decay evidence halfLifeHours now apart] at carried
    rw [Option.elim_some, retire_grounded_iff (upsertKnowledge_kept kept) (upsertKnowledge_grounded grounded) carried,
      and_iff_right (upsertKnowledge_stored env decay k statement evidence halfLifeHours now), upsertKnowledge_leads apart]
    simp

theorem retireKnowledgeSource_same {answer : KnowledgeRow × Bool}
    (done : k.retireKnowledgeSource sourceRef actor reason now = .ok (answer, after)) :
    after.chain = k.chain ∧ (k.Kept → after.Kept) := by
  unfold retireKnowledgeSource at done
  split at done
  · cases done
  rename_i source _
  have withdrawn (base : KnowledgeBase) (id : String) : (base.withdraw id actor reason now).chain = base.chain :=
    chain_update base fun _ => rfl
  have keeps (base : KnowledgeBase) (id : String) (kept : base.Kept) : (base.withdraw id actor reason now).Kept :=
    kept.update fun _ _ unretired => by cases unretired
  simp only at done
  split at done
  · cases done
  rename_i row _
  simp only [Except.ok.injEq, Prod.mk.injEq] at done
  obtain ⟨_, rfl⟩ := done
  split
  · exact ⟨withdrawn _ _, fun kept => keeps _ _ (kept.of_rows rfl)⟩
  · exact ⟨chain_of_rows rfl, fun kept => kept.of_rows rfl⟩

/-- A retirement goes through: the lesson and what replaces it were read, and the
lesson is still carried. -/
def retires (seen k : KnowledgeBase) (id : String) (supersededBy : Option String) : Bool :=
  (seen.getKnowledge id).isSome &&
    (supersededBy.all fun successor => decide (successor ≠ id) && (seen.getKnowledge successor).isSome) && k.carried id

theorem checkSuccessor_iff : k.checkSuccessor id supersededBy = .ok () ↔
    (supersededBy.all fun successor => decide (successor ≠ id) && (k.getKnowledge successor).isSome) = true := by
  cases supersededBy with
  | none => simp [checkSuccessor]
  | some successor =>
    simp only [checkSuccessor, Option.all_some, Bool.and_eq_true, decide_eq_true_eq]
    split_ifs with same absent
    · simp [same]
    · simp [Option.isNone_iff_eq_none.mp absent]
    · simp [same, Option.isSome_iff_ne_none, mt Option.isNone_iff_eq_none.mpr absent]

theorem retireKnowledge_ok (through : seen.retires k id supersededBy = true) :
    seen.retireKnowledge k id human reason supersededBy now = .ok (k.retire id human reason supersededBy now) := by
  simp only [retires, Bool.and_eq_true] at through
  obtain ⟨⟨known, replaces⟩, current⟩ := through
  unfold retireKnowledge
  rw [if_neg (by rw [Option.isNone_eq_false_iff.mpr known]; exact Bool.false_ne_true), checkSuccessor_iff.mpr replaces]
  exact if_pos current

theorem retireKnowledge_refused (human reason : String) (now : Int) (refused : seen.retires k id supersededBy = false) :
    ∃ failure, seen.retireKnowledge k id human reason supersededBy now = .error failure := by
  cases returned : seen.retireKnowledge k id human reason supersededBy now with
  | error failure => exact ⟨failure, rfl⟩
  | ok after =>
    unfold retireKnowledge at returned
    obtain ⟨known, returned⟩ := ite_else returned
    obtain ⟨_, checked, returned⟩ := bind_ok returned
    obtain ⟨current, returned⟩ := ite_then returned
    rw [Bool.not_eq_true, Option.isNone_eq_false_iff] at known
    have through : seen.retires k id supersededBy = true := by
      rw [retires, known, checkSuccessor_iff.mp checked, carried, current]
      rfl
    cases through.symm.trans refused

theorem pruneKnowledge_grounded_iff (grounded : k.chain.Grounded) :
    (k.pruneKnowledge decay now).chain.Grounded ↔ ∀ first second, k.chain.Follows first second →
      (k.getKnowledge first).any (prunes decay now) = false → (k.getKnowledge second).any (prunes decay now) = false := by
  refine grounded.remove_iff fun id => ?_
  by_cases gone : (k.getKnowledge id).any (prunes decay now) = true
  · rw [if_pos gone]
    obtain ⟨row, found, pruned⟩ := (Option.any_eq_true _ _).mp gone
    rw [chain, getKnowledge, pruneKnowledge, Table.find?_delete, show k.rows.find? id = some row from found,
      Option.filter_some, if_neg (by simp [pruned]), Option.map_none]
  · rw [if_neg gone, chain, chain, getKnowledge, pruneKnowledge, Table.find?_delete]
    cases found : k.getKnowledge id with
    | none => rw [show k.rows.find? id = none from found, Option.filter_none]
    | some row =>
      rw [found, Option.any_some, Bool.not_eq_true] at gone
      rw [show k.rows.find? id = some row from found, Option.filter_some, if_pos (by simp [gone])]

theorem Kept.pruned (kept : k.Kept) : (k.pruneKnowledge decay now).Kept := by
  intro row member
  exact kept row (mem_filter.mp member).1

end KnowledgeBase

namespace Database
variable {db : Database}
variable {after : Database}

/-- From every design and every lesson the chain of replacements ends, and none
runs round. -/
def ChainsEnd (db : Database) : Prop := db.designs.chain.Sound ∧ db.knowledge.chain.Sound

structure Linked (db : Database) : Prop where
  designs : db.designs.chain.Grounded
  knowledge : db.knowledge.chain.Grounded
  kept : db.knowledge.Kept

/-- The link an operation is about to write does not lead back, and no row that a
remaining one names is pruned. -/
def linksOnward (env : Env) (decay : Decay) (db : Database) : DatabaseOp → Prop
  | .supersedeDesign seen id supersededBy _ _ =>
    seen.designs.supersedes db.designs id supersededBy = true → ¬ db.designs.chain.Leads supersededBy id
  | .recordSourced statement _ _ sourceRef _ _ => ∀ previous,
    db.knowledge.replacedBy (KnowledgeBase.knowledgeId env statement) sourceRef = some previous →
      ¬ db.knowledge.chain.Leads (KnowledgeBase.knowledgeId env statement) previous
  | .retireKnowledge seen id _ _ (some successor) _ =>
    seen.knowledge.retires db.knowledge id (some successor) = true →
      (db.knowledge.getKnowledge successor).isSome ∧ ¬ db.knowledge.chain.Leads successor id
  | .pruneKnowledge now => ∀ first second, db.knowledge.chain.Follows first second →
    (db.knowledge.getKnowledge first).any (KnowledgeBase.prunes decay now) = false →
      (db.knowledge.getKnowledge second).any (KnowledgeBase.prunes decay now) = false
  | _ => True

theorem resetDatabase_linked {confirmation : String} (done : db.resetDatabase confirmation = .ok after) : after.Linked := by
  obtain ⟨store, _, done⟩ := bind_ok done
  cases done
  constructor
  · intro id there
    cases there
  · intro id there
    cases there
  · intro row member
    cases member

theorem Linked.withDesigns_iff (linked : db.Linked) (d : Designs) : (db.withDesigns d).Linked ↔ d.chain.Grounded :=
  ⟨Linked.designs, fun grounded => ⟨grounded, linked.knowledge, linked.kept⟩⟩

theorem Linked.withKnowledge_iff {knowledge : KnowledgeBase} (linked : db.Linked) (kept : knowledge.Kept) :
    ({ db with knowledge } : Database).Linked ↔ knowledge.chain.Grounded :=
  ⟨Linked.knowledge, fun grounded => ⟨linked.designs, grounded, kept⟩⟩

theorem Linked.same (linked : db.Linked) (designs : after.designs.chain = db.designs.chain)
    (knowledge : after.knowledge = db.knowledge) : after.Linked :=
  ⟨designs ▸ linked.designs, knowledge ▸ linked.knowledge, knowledge ▸ linked.kept⟩

theorem Linked.settleDesigns {result : Result Designs} (linked : db.Linked)
    (keeps : ∀ after, result = .ok after → after.chain.Grounded) : (db.settleDesigns result).Linked := by
  cases returned : result with
  | error failure => exact linked
  | ok after => exact (linked.withDesigns_iff after).mpr (keeps after returned)

theorem materializeDesignItem_chain {seen : Database} {id actor : String} {plan : DesignMaterializationPlan}
    {repair : Bool} {now : Int} (done : materializeDesignItem env seen db id plan actor repair now = .ok after) :
    after.designs.chain = db.designs.chain ∧ after.knowledge = db.knowledge := by
  rcases materializeDesignItem_ok done with rfl | ⟨item, _, _, _, wrote⟩
  · exact ⟨rfl, rfl⟩
  obtain ⟨items, _, _, knowledge⟩ := writePlan_items wrote
  refine ⟨?_, knowledge⟩
  rw [← Designs.chain_updateItem db.designs id (materializeWrite repair item.materializationRevision now) fun _ => rfl]
  funext other
  simp only [Designs.chain, Designs.getDesignItem, items]

theorem perform_kept (env : Env) (decay : Decay) (op : DatabaseOp) (kept : db.knowledge.Kept) :
    (db.perform env decay op).knowledge.Kept := by
  have untouched (result : Result Designs) : (db.settleDesigns result).knowledge.Kept := by
    cases result <;> exact kept
  cases op with
  | «local» op =>
    rcases performLocal_cases env db op with ⟨confirmation, rfl⟩ | ⟨_, ordinary⟩
    · cases returned : db.resetDatabase confirmation with
      | error failure => simpa only [perform, performLocal, returned, settle] using kept
      | ok after => simpa only [perform, performLocal, returned, settle] using (resetDatabase_linked returned).kept
    · simpa only [perform, ordinary] using kept
  | materializeDesign seen id plan actor repair now =>
    cases returned : materializeDesignItem env seen db id plan actor repair now with
    | error failure => simpa only [perform, returned, settle] using kept
    | ok after => simpa only [perform, returned, settle, (materializeDesignItem_chain returned).2] using kept
  | recordKnowledge statement evidence halfLifeHours now => exact KnowledgeBase.upsertKnowledge_kept kept
  | recordSourced statement evidence halfLifeHours sourceRef actor now =>
    obtain ⟨answer, after, returned, rows⟩ := KnowledgeBase.recordSourcedKnowledge_ok env decay db.knowledge statement
      evidence halfLifeHours sourceRef actor now
    simpa only [perform, returned] using KnowledgeBase.recordSourced_kept kept rows
  | retireSource sourceRef actor why now =>
    cases returned : db.knowledge.retireKnowledgeSource sourceRef actor why now with
    | error failure => simpa only [perform, returned] using kept
    | ok both => simpa only [perform, returned] using (KnowledgeBase.retireKnowledgeSource_same returned).2 kept
  | reconfirmKnowledge id now => exact kept.update fun row sound => sound
  | retireKnowledge seen id human why supersededBy now =>
    cases through : seen.knowledge.retires db.knowledge id supersededBy with
    | false =>
      obtain ⟨failure, refused⟩ := KnowledgeBase.retireKnowledge_refused human why now through
      simpa only [perform, refused] using kept
    | true => simpa only [perform, KnowledgeBase.retireKnowledge_ok through] using kept.retire
  | pruneKnowledge now => exact kept.pruned
  | reconcileDesign _ _ | decideDesign _ _ _ _ _ | federated _ | recordFacts _ _ _ => exact kept
  | _ => exact untouched _

/-- An operation keeps every chain ending exactly when the link it writes does not
lead back and it removes nothing a remaining row names. -/
theorem Linked.step_iff (linked : db.Linked) (op : DatabaseOp) :
    (db.perform env decay op).Linked ↔ db.linksOnward env decay op := by
  have kept := perform_kept env decay op linked.kept
  cases op with
  | «local» op =>
    refine iff_of_true ?_ trivial
    rcases performLocal_cases env db op with ⟨confirmation, rfl⟩ | ⟨_, ordinary⟩
    · cases returned : db.resetDatabase confirmation with
      | error failure => simpa only [perform, performLocal, returned, settle] using linked
      | ok after => simpa only [perform, performLocal, returned, settle] using resetDatabase_linked returned
    · simp only [perform, ordinary]
      exact linked.same rfl rfl
  | federated | recordFacts => exact iff_of_true (linked.same rfl rfl) trivial
  | registerDesign id adrPath title summary proposedBy now =>
    refine iff_of_true (linked.settleDesigns fun after done => ?_) trivial
    exact Designs.registerDesignItem_grounded done linked.designs
  | reconcileDesign metadata now =>
    exact iff_of_true ((linked.withDesigns_iff _).mpr
      (Designs.reconcileDesignItem_grounded db.designs metadata now linked.designs)) trivial
  | designActions ids action human why now =>
    refine iff_of_true (linked.settleDesigns fun after done => ?_) trivial
    exact Designs.applyDesignActions_chain done ▸ linked.designs
  | decideDesign id target decidedBy why now =>
    refine iff_of_true ((linked.withDesigns_iff _).mpr ?_) trivial
    cases decided : db.designs.decideDesignItem id target decidedBy why now with
    | none => exact linked.designs
    | some after => exact Designs.decideDesignItem_chain decided ▸ linked.designs
  | reopenDesign id now =>
    refine iff_of_true (linked.settleDesigns fun after done => ?_) trivial
    exact Designs.reopenUndecidedDesign_chain done ▸ linked.designs
  | attributeDesign id human now =>
    refine iff_of_true (linked.settleDesigns fun after done => ?_) trivial
    exact Designs.attributeDesignDecision_chain done ▸ linked.designs
  | supersedeDesign seen id supersededBy human now =>
    cases through : seen.designs.supersedes db.designs id supersededBy with
    | false =>
      obtain ⟨failure, refused⟩ := Designs.supersedeDesignItem_refused human now through
      refine iff_of_true ?_ fun supersedes => absurd (through.symm.trans supersedes) Bool.false_ne_true
      simp only [perform, refused]
      exact linked
    | true =>
      simp only [perform, Designs.supersedeDesignItem_ok through, linksOnward, through, true_implies]
      exact (linked.withDesigns_iff _).trans (Designs.supersede_grounded_iff linked.designs through)
  | materializeDesign seen id plan actor repair now =>
    refine iff_of_true ?_ trivial
    cases returned : materializeDesignItem env seen db id plan actor repair now with
    | error failure => simpa only [perform, returned, settle] using linked
    | ok after =>
      obtain ⟨designs, knowledge⟩ := materializeDesignItem_chain returned
      simpa only [perform, returned, settle] using linked.same designs knowledge
  | recordKnowledge statement evidence halfLifeHours now =>
    exact iff_of_true ((linked.withKnowledge_iff kept).mpr
      (KnowledgeBase.upsertKnowledge_grounded linked.knowledge)) trivial
  | recordSourced statement evidence halfLifeHours sourceRef actor now =>
    obtain ⟨answer, after, returned, rows⟩ := KnowledgeBase.recordSourcedKnowledge_ok env decay db.knowledge statement
      evidence halfLifeHours sourceRef actor now
    simp only [perform, returned] at kept ⊢
    exact (linked.withKnowledge_iff kept).trans
      (KnowledgeBase.recordSourced_grounded_iff linked.kept linked.knowledge rows)
  | retireSource sourceRef actor why now =>
    refine iff_of_true ?_ trivial
    cases returned : db.knowledge.retireKnowledgeSource sourceRef actor why now with
    | error failure => simpa only [perform, returned] using linked
    | ok both =>
      simp only [perform, returned] at kept ⊢
      exact (linked.withKnowledge_iff kept).mpr ((KnowledgeBase.retireKnowledgeSource_same returned).1 ▸ linked.knowledge)
  | reconfirmKnowledge id now =>
    have same : (db.knowledge.reconfirmKnowledge decay id now).chain = db.knowledge.chain :=
      KnowledgeBase.chain_update db.knowledge fun _ => rfl
    exact iff_of_true ((linked.withKnowledge_iff kept).mpr (same ▸ linked.knowledge)) trivial
  | retireKnowledge seen id human why supersededBy now =>
    cases through : seen.knowledge.retires db.knowledge id supersededBy with
    | false =>
      obtain ⟨failure, refused⟩ := KnowledgeBase.retireKnowledge_refused human why now through
      refine iff_of_true (by simpa only [perform, refused] using linked) ?_
      cases supersededBy with
      | none => trivial
      | some successor => exact fun retires => absurd (through.symm.trans retires) Bool.false_ne_true
    | true =>
      simp only [perform, KnowledgeBase.retireKnowledge_ok through] at kept ⊢
      have current : db.knowledge.carried id = true := (Bool.and_eq_true_iff.mp through).2
      refine (linked.withKnowledge_iff kept).trans ?_
      cases supersededBy with
      | none =>
        refine iff_of_true ?_ trivial
        have same : (db.knowledge.retire id human why none now).chain = db.knowledge.chain := by
          funext other
          rw [KnowledgeBase.chain_retire current]
          split
          next here => rw [here, linked.kept.last current]
          next => rfl
        exact same ▸ linked.knowledge
      | some successor =>
        simp only [linksOnward, through, true_implies]
        exact KnowledgeBase.retire_grounded_iff linked.kept linked.knowledge current
  | pruneKnowledge now =>
    exact (linked.withKnowledge_iff kept).trans (KnowledgeBase.pruneKnowledge_grounded_iff linked.knowledge)

theorem Linked.start : ({} : Database).Linked := by
  constructor
  · intro id there
    cases there
  · intro id there
    cases there
  · intro row member
    cases member

end Database

/-- In every state of a run the replacements end, exactly when every operation of
the run links onward. -/
theorem replacements_end {env : Env} {decay : Decay} {history : List (Entry Database DatabaseOp)} {state : Database}
    (run : (anyDatabase env decay).Run history state) :
    (∀ seen ∈ (anyDatabase env decay).visited history, seen.ChainsEnd) ↔
      ∀ entry ∈ history, entry.before.linksOnward env decay entry.op := by
  rw [← run.visited_good_iff Database.Linked (Database.linksOnward env decay) Database.Linked.start
    fun before op linked => linked.step_iff op]
  have kept := run.visited_good (fun db => db.knowledge.Kept) Database.Linked.start.kept
    fun before op kept => Database.perform_kept env decay op kept
  refine forall₂_congr fun seen visited => ?_
  rw [Database.ChainsEnd, sound_iff, sound_iff]
  exact ⟨fun both => ⟨both.1, both.2, kept seen visited⟩, fun linked => ⟨linked.designs, linked.knowledge⟩⟩

def replacedDesign : List (Database → DatabaseOp) :=
  [fun seen => .supersedeDesign seen "design:first" "design:second" "ann" 5,
    fun _ => .decideDesign "design:second" .accepted "ann" none 4,
    fun _ => .decideDesign "design:first" .accepted "ann" none 3,
    fun _ => .registerDesign "design:second" "docs/adr/second.md" "Second" "" none 2,
    fun _ => .registerDesign "design:first" "docs/adr/first.md" "First" "" none 1]

theorem replacements_end_replaced :
    ((anyDatabase Env.plain Decay.plain).replay replacedDesign).2.designs.chain "design:first" =
        some (some "design:second") ∧
      ∀ seen ∈ (anyDatabase Env.plain Decay.plain).visited ((anyDatabase Env.plain Decay.plain).replay replacedDesign).1,
        seen.ChainsEnd := by
  refine ⟨by decide +kernel, (replacements_end (Machine.replay_run ?_)).mpr ?_⟩
  · simp only [replacedDesign, forall_mem_cons]
    simp [anyDatabase, DatabaseOp.enabled, DatabaseOp.reads]
  refine forall_mem_cons.mpr ⟨?_, ?_⟩
  · intro _ leads
    have last : ((anyDatabase Env.plain Decay.plain).replay replacedDesign.tail).2.designs.chain "design:second" =
      some none := by decide +kernel
    exact absurd (leads_of_last last leads) (by decide)
  · iterate 4 refine forall_mem_cons.mpr ⟨trivial, ?_⟩
    intro _ before
    cases before

def replacedBack : List (Database → DatabaseOp) :=
  (fun seen => .supersedeDesign seen "design:second" "design:first" "ann" 6) :: replacedDesign

/-- A note edited to another text, and back again, newest first. -/
def editedBack : List (Database → DatabaseOp) :=
  [fun _ => .recordSourced "use make" "" FULL_WEIGHT "/memories/repo/build.md" "ann" 3,
    fun _ => .recordSourced "use cargo" "" FULL_WEIGHT "/memories/repo/build.md" "ann" 2,
    fun _ => .recordSourced "use make" "" FULL_WEIGHT "/memories/repo/build.md" "ann" 1]

theorem replacements_go_round :
    (¬ ∀ env decay history state, (anyDatabase env decay).Run history state → state.ChainsEnd) ∧
      (["design:first", "design:second"].map
        ((anyDatabase Env.plain Decay.plain).replay replacedBack).2.designs.chain =
        [some (some "design:second"), some (some "design:first")]) ∧
      (["knowledge:use make", "knowledge:use cargo"].map
        ((anyDatabase Env.plain Decay.plain).replay editedBack).2.knowledge.chain =
        [some (some "knowledge:use cargo"), some (some "knowledge:use make")]) := by
  have designs : ["design:first", "design:second"].map
      ((anyDatabase Env.plain Decay.plain).replay replacedBack).2.designs.chain =
      [some (some "design:second"), some (some "design:first")] := by decide +kernel
  refine ⟨fun always => ?_, designs, by decide +kernel⟩
  have run : (anyDatabase Env.plain Decay.plain).Replays replacedBack :=
    Machine.replay_run (by
      simp only [replacedBack, replacedDesign, forall_mem_cons]
      simp [anyDatabase, DatabaseOp.enabled, DatabaseOp.reads])
  simp only [map_cons, map_nil, List.cons.injEq, and_true] at designs
  exact (always _ _ _ _ run).1.2 "design:first" (.tail (.single designs.1) designs.2)

end MindLeak.Lodestar
