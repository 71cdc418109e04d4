import MindLeak.Proofs.Changes

/-! What an amendment carries along: unfinished work and bound code follow their
clause's `superseded_by` one step, controls follow its slug. Where that step ends
inside the outgoing version, work and bindings stay behind. -/

namespace MindLeak.Lodestar

open List Table Env

variable {s after : Store} {before draftId amendedBy approvedBy rationale : String} {now : Int} {env : Env}
  {amendment : ConstitutionAmendment}

namespace Store

def restating (s : Store) (draftId slug : String) : Option String :=
  (s.goals.rows.find? fun row =>
    decide (row.constitutionVersion = some draftId) && (decide (row.status = .draft) || decide (row.status = .active)) &&
      decide (row.slug = slug)).map fun row => row.id

def heir (s : Store) (before draftId clauseId : String) : Option String :=
  ((s.goals.find? clauseId).filter fun row => decide (row.constitutionVersion = some before)).bind fun row =>
    row.supersededBy.or (s.restating draftId row.slug)

def Restates (s : Store) (draftId clauseId slug : String) : Prop :=
  ∃ row, s.goals.find? clauseId = some row ∧ row.constitutionVersion = some draftId ∧
    (row.status = .draft ∨ row.status = .active) ∧ row.slug = slug

def Governs (s : Store) (versionId clauseId slug : String) : Prop :=
  ∃ row, s.goals.find? clauseId = some row ∧ row.constitutionVersion = some versionId ∧ row.status = .active ∧
    row.slug = slug

structure Outgoing (s : Store) (before draftId clauseId : String) (clause : GoalRow) : Prop where
  found : s.goals.find? clauseId = some clause
  version : clause.constitutionVersion = some before
  continues : (s.restating draftId clause.slug).isSome = true

def carriedTask (s : Store) (before draftId : String) (now : Int) (task : Task) : Task :=
  if !task.status.isFinished && (s.heir before draftId task.goalId).isSome then
    { task with goalId := (s.heir before draftId task.goalId).getD task.goalId, updatedAt := now }
  else task

def carriedBinding (s : Store) (before draftId : String) (binding : GoalArtifact) : GoalArtifact :=
  { binding with goalId := (s.heir before draftId binding.goalId).getD binding.goalId }

/-- The bindings that move, in table order; a displaced one does not. -/
def movedBindings (s : Store) (before draftId : String) : List GoalArtifact :=
  s.goalArtifacts.movers (fun row => (s.heir before draftId row.goalId).isSome) (s.carriedBinding before draftId)

theorem restates_of_read {s : Store} {draftId clauseId slug : String}
    (read : (s.goals.find? clauseId).map (fun row => (row.constitutionVersion, row.status, row.slug)) =
      some (some draftId, .draft, slug)) : s.Restates draftId clauseId slug := by
  obtain ⟨row, found, same⟩ := Option.map_eq_some_iff.mp read
  simp only [Prod.mk.injEq] at same
  exact ⟨row, found, same.1, .inl same.2.1, same.2.2⟩

section

theorem handedOver_rows : ((s.retireVersion before).promote draftId amendedBy now).goals.rows =
    s.goals.rows.map (GoalRow.handedOver before draftId) := by
  have once (s : Store) (versionId : String) (fromStatus toStatus : GoalStatus) :
      (s.setClauses versionId fromStatus toStatus).goals.rows =
        s.goals.rows.map (GoalRow.restated versionId fromStatus toStatus) := by
    refine map_congr_left fun row _ => ?_
    simp only [GoalRow.restated, Bool.and_eq_true, decide_eq_true_eq]
  have retired : (s.retireVersion before).goals.rows = s.goals.rows.map (GoalRow.restated before .active .superseded) :=
    once _ before .active .superseded
  rw [promote, once]
  exact (congrArg (List.map _) retired).trans (map_map ..)

theorem handedOver_governs (apart : before ≠ draftId) {row : GoalRow} (named : row.constitutionVersion = some draftId) :
    (row.handedOver before draftId).status = .active ↔ row.status = .draft ∨ row.status = .active := by
  have outside : row.constitutionVersion ≠ some before := by
    rw [named]
    exact fun same => apart (Option.some.inj same).symm
  have kept : row.restated before .active .superseded = row := if_neg fun both => outside both.1
  rw [GoalRow.handedOver, kept, GoalRow.restated]
  by_cases drafted : row.status = .draft
  · simp [named, drafted]
  · simp [drafted]

theorem successorOf_handedOver (apart : before ≠ draftId) (slug : String) :
    ((s.retireVersion before).promote draftId amendedBy now).successorOf draftId slug = s.restating draftId slug := by
  unfold successorOf restating
  rw [handedOver_rows, List.find?_map, Option.map_map]
  have same : (fun row : GoalRow => decide (row.constitutionVersion = some draftId) && decide (row.status = .active) &&
      decide (row.slug = slug)) ∘ GoalRow.handedOver before draftId = fun row =>
        decide (row.constitutionVersion = some draftId) &&
          (decide (row.status = .draft) || decide (row.status = .active)) && decide (row.slug = slug) := by
    funext row
    by_cases named : row.constitutionVersion = some draftId
    · simp [named, handedOver_governs apart named]
    · simp [named]
  rw [same]
  congr 1
  funext row
  exact row.handedOver_id

theorem restating_restates {slug clauseId : String} (named : s.restating draftId slug = some clauseId) :
    s.Restates draftId clauseId slug := by
  obtain ⟨row, found, rfl⟩ := Option.map_eq_some_iff.mp named
  have matched := List.find?_some found
  simp only [Bool.and_eq_true, Bool.or_eq_true, decide_eq_true_eq] at matched
  exact ⟨row, Table.find?_of_mem (mem_of_find?_eq_some found), matched.1.1, matched.1.2, matched.2⟩

/-- The store an amendment moves rows over: both versions switched, successors named. -/
def handedOn (s : Store) (before draftId amendedBy : String) (now : Int) : Store :=
  (((s.retireVersion before).promote draftId amendedBy now).carryControls draftId).linkSuccessors before draftId

theorem find?_handedOn (apart : before ≠ draftId) (clauseId : String) :
    (s.handedOn before draftId amendedBy now).goals.find? clauseId = (s.goals.find? clauseId).map fun row =>
      if row.constitutionVersion = some before ∧ row.supersededBy = none ∧ (s.restating draftId row.slug).isSome then
        { row.handedOver before draftId with supersededBy := s.restating draftId row.slug }
      else row.handedOver before draftId := by
  have goals : (((s.retireVersion before).promote draftId amendedBy now).carryControls draftId).goals =
      ((s.retireVersion before).promote draftId amendedBy now).goals := rfl
  have successor (slug : String) :
      (((s.retireVersion before).promote draftId amendedBy now).carryControls draftId).successorOf draftId slug =
        s.restating draftId slug :=
    successorOf_handedOver apart slug
  rw [handedOn, find?_linkSuccessors, goals, find?_handedOver, Option.map_map]
  congr 1
  funext row
  simp only [Function.comp, successor, GoalRow.handedOver_version, GoalRow.handedOver_supersededBy,
    GoalRow.handedOver_slug]

theorem movedTo_handedOn (apart : before ≠ draftId) (clauseId : String) :
    (s.handedOn before draftId amendedBy now).movedTo before clauseId = s.heir before draftId clauseId := by
  unfold movedTo heir
  rw [find?_handedOn apart]
  cases found : s.goals.find? clauseId with
  | none => rfl
  | some row =>
    by_cases outgoing : row.constitutionVersion = some before
    · cases superseded : row.supersededBy with
      | none => cases named : s.restating draftId row.slug <;> simp [Option.filter_some, outgoing, superseded, named]
      | some target => simp [Option.filter_some, outgoing, superseded]
    · simp [Option.filter_some, outgoing]

theorem governs_handedOn (apart : before ≠ draftId) {clauseId slug : String} :
    (s.handedOn before draftId amendedBy now).Governs draftId clauseId slug ↔ s.Restates draftId clauseId slug := by
  unfold Governs Restates
  rw [find?_handedOn apart]
  cases found : s.goals.find? clauseId with
  | none => simp
  | some row =>
    by_cases named : row.constitutionVersion = some draftId
    · have outside : ¬ row.constitutionVersion = some before := by
        rw [named]
        exact fun same => apart (Option.some.inj same).symm
      simp [named, Ne.symm apart, handedOver_governs apart named]
    · have elsewhere : ∀ image, (some (if row.constitutionVersion = some before ∧ row.supersededBy = none ∧
          (s.restating draftId row.slug).isSome = true then
            { row.handedOver before draftId with supersededBy := s.restating draftId row.slug }
          else row.handedOver before draftId)) = some image → image.constitutionVersion ≠ some draftId := by
        intro image same
        cases same
        split <;> simpa using named
      constructor
      · intro ⟨image, same, version, _⟩
        exact absurd version (elsewhere image same)
      · intro ⟨image, same, version, _⟩
        cases same
        exact absurd version named

end

/-- What a committed amendment leaves of the rows that named a clause. -/
structure CarriesOver (s after : Store) (before draftId : String) (now : Int) : Prop where
  governs : ∀ clauseId slug, after.Governs draftId clauseId slug ↔ s.Restates draftId clauseId slug
  tasks : ∀ id, after.getTask id = (s.getTask id).map (s.carriedTask before draftId now)
  bindings : after.goalArtifacts = s.goalArtifacts.replace (fun row => (s.heir before draftId row.goalId).isSome)
    (s.carriedBinding before draftId)
  controls : ∀ id control clause, s.controls.find? id = some control → control.status = .active →
    s.Outgoing before draftId control.clauseId clause →
      ∃ target, s.restating draftId clause.slug = some target ∧
        after.controls.find? id = some { control with clauseId := target }

section
variable {reads : AmendmentReads}

theorem carryControls_outgoing {id : String} {control : Control} {clause : GoalRow} (apart : before ≠ draftId)
    (found : s.controls.find? id = some control) (active : control.status = .active)
    (outgoing : s.Outgoing before draftId control.clauseId clause) :
    ∃ target, s.restating draftId clause.slug = some target ∧
      (((s.retireVersion before).promote draftId amendedBy now).carryControls draftId).controls.find? id =
        some { control with clauseId := target } := by
  obtain ⟨target, named⟩ := Option.isSome_iff_exists.mp outgoing.continues
  refine ⟨target, named, ?_⟩
  have stored : ((s.retireVersion before).promote draftId amendedBy now).controls.find? id = some control := found
  have clauseRow : ((s.retireVersion before).promote draftId amendedBy now).goals.find? control.clauseId =
      some (clause.handedOver before draftId) := by
    rw [find?_handedOver, outgoing.found, Option.map_some]
  have successor : ((s.retireVersion before).promote draftId amendedBy now).successorOf draftId clause.slug =
      some target :=
    (successorOf_handedOver apart clause.slug).trans named
  have slug : (clause.handedOver before draftId).slug = clause.slug := clause.handedOver_slug
  have version : (clause.handedOver before draftId).constitutionVersion = some before :=
    clause.handedOver_version.trans outgoing.version
  generalize (s.retireVersion before).promote draftId amendedBy now = promoted at *
  have restated : promoted.goals.rows.any (fun row => decide (row.constitutionVersion = some draftId) &&
      decide (row.status = .active) && decide (row.slug = clause.slug) &&
      decide (row.id ≠ control.clauseId)) = true := by
    obtain ⟨row, member, governs, alive, same⟩ := successorOf_isSome.mp (Option.isSome_iff_exists.mpr ⟨target, successor⟩)
    have other : row.id ≠ control.clauseId := by
      intro equal
      have here := Table.find?_of_mem member
      have key : (Row.key row : String) = control.clauseId := equal
      rw [key, clauseRow] at here
      cases here
      exact apart (Option.some.inj (version.symm.trans governs))
    rw [any_eq_true]
    refine ⟨row, member, ?_⟩
    simp [governs, alive, same, other]
  simp only [carryControls, Table.find?_update, stored, Option.map_some, clauseRow, Option.bind_some, restated, if_true,
    slug, successor, active, decide_true, Option.isSome_some, Bool.and_self, Option.getD_some]

theorem amendConstitution_carries
    (committed : amendConstitution env reads s draftId amendedBy approvedBy rationale now = .ok (amendment, after))
    (read : reads.before = some before) : s.CarriesOver after before draftId now := by
  obtain ⟨outgoing, staged, amendments, named, apart, setup, _, _, _, _, _, rfl⟩ := amendConstitution_ok committed
  cases named.symm.trans read
  have staged_eq : staged = (s.handedOn before draftId (Text.trim amendedBy) now).carryBindings before := setup
  have moves (clauseId : String) : staged.movedTo before clauseId = s.heir before draftId clauseId := by
    rw [staged_eq]
    exact movedTo_handedOn apart clauseId
  constructor
  · intro clauseId slug
    have governed : (s.handedOn before draftId (Text.trim amendedBy) now).Governs draftId clauseId slug ↔
        s.Restates draftId clauseId slug :=
      governs_handedOn apart
    rw [← governed, staged_eq]
    rfl
  · intro id
    have tasks : staged.tasks = s.tasks := by
      rw [staged_eq]
      rfl
    rw [getTask, carryTasks, Table.find?_update, tasks]
    refine Option.map_congr fun task _ => ?_
    simp only [carriedTask, followsClause, moves]
  · change staged.goalArtifacts = _
    rw [staged_eq, carryBindings]
    have same : (s.handedOn before draftId (Text.trim amendedBy) now).goalArtifacts = s.goalArtifacts := rfl
    simp only [movedTo_handedOn apart, same]
    rfl
  · intro id control clause found active leaving
    rw [staged_eq]
    exact carryControls_outgoing apart found active leaving

end

/-- A complete carry-over: unfinished work, bindings and active controls of an
outgoing clause are on the clause that governs its slug, and nothing is bound
where they were. -/
structure Carried (s after : Store) (before draftId : String) : Prop where
  tasks : ∀ id task clause, s.getTask id = some task → task.status.isFinished = false →
    s.Outgoing before draftId task.goalId clause →
      ∃ moved, after.getTask id = some moved ∧ after.Governs draftId moved.goalId clause.slug
  bindings : ∀ binding ∈ s.goalArtifacts.rows, ∀ clause, s.Outgoing before draftId binding.goalId clause →
    ∃ moved ∈ after.goalArtifacts.rows, moved.nodeId = binding.nodeId ∧ after.Governs draftId moved.goalId clause.slug
  left : ∀ binding ∈ s.goalArtifacts.rows, ∀ clause, s.Outgoing before draftId binding.goalId clause →
    ∀ other ∈ after.goalArtifacts.rows, other.nodeId = binding.nodeId →
      other.goalId = binding.goalId ∨ clause.supersededBy = some other.goalId →
        after.Governs draftId other.goalId clause.slug
  controls : ∀ id control clause, s.controls.find? id = some control → control.status = .active →
    s.Outgoing before draftId control.clauseId clause →
      ∃ moved, after.controls.find? id = some moved ∧ moved.status = .active ∧
        after.Governs draftId moved.clauseId clause.slug

def LeadsOn (s : Store) (before draftId clauseId : String) : Prop :=
  ∀ clause, s.Outgoing before draftId clauseId clause → ∀ next, clause.supersededBy = some next →
    s.Restates draftId next clause.slug

/-- Every clause with unfinished work or a binding leads on in one step, and no
binding moves onto the place of another that is leaving. -/
structure Straight (s : Store) (before draftId : String) : Prop where
  tasks : ∀ task ∈ s.tasks.rows, task.status.isFinished = false → s.LeadsOn before draftId task.goalId
  bindings : ∀ binding ∈ s.goalArtifacts.rows, s.LeadsOn before draftId binding.goalId
  apart : ∀ binding ∈ s.goalArtifacts.rows, ∀ clause, s.Outgoing before draftId binding.goalId clause →
    ∀ moved ∈ s.movedBindings before draftId, Row.key (s.carriedBinding before draftId moved) ≠ Row.key binding

variable {clauseId : String}

section
variable {clause : GoalRow}

section
variable (outgoing : s.Outgoing before draftId clauseId clause)
include outgoing

theorem Outgoing.heir :
    s.heir before draftId clauseId = clause.supersededBy.or (s.restating draftId clause.slug) := by
  rw [Store.heir, outgoing.found, Option.filter_some, if_pos (decide_eq_true outgoing.version), Option.bind_some]

theorem Outgoing.restates (leads : s.LeadsOn before draftId clauseId) :
    ∃ target, s.heir before draftId clauseId = some target ∧ s.Restates draftId target clause.slug := by
  cases superseded : clause.supersededBy with
  | none =>
    obtain ⟨target, named⟩ := Option.isSome_iff_exists.mp outgoing.continues
    exact ⟨target, by rw [outgoing.heir, superseded, named]; rfl, restating_restates named⟩
  | some next => exact ⟨next, by rw [outgoing.heir, superseded]; rfl, leads clause outgoing next superseded⟩

theorem Outgoing.not_restates (apart : before ≠ draftId)
    {slug : String} : ¬ s.Restates draftId clauseId slug := by
  intro ⟨row, found, version, _⟩
  cases outgoing.found.symm.trans found
  exact apart (Option.some.inj (outgoing.version.symm.trans version))

theorem Outgoing.selected :
    (s.heir before draftId clauseId).isSome = true := by
  rw [outgoing.heir, Option.isSome_or, outgoing.continues, Bool.or_true]

end

theorem Outgoing.carriedTask {task : Task} {target : String} (unfinished : task.status.isFinished = false)
    (heir : s.heir before draftId task.goalId = some target) :
    s.carriedTask before draftId now task = { task with goalId := target, updatedAt := now } := by
  simp [Store.carriedTask, unfinished, heir]

theorem carriedBinding_key {binding : GoalArtifact} {target : String}
    (heir : s.heir before draftId binding.goalId = some target) :
    Row.key (s.carriedBinding before draftId binding) = (target, binding.nodeId) := by
  simp [carriedBinding, heir, Row.key]

theorem binding_mem {key : String × String} {binding : GoalArtifact} (found : s.goalArtifacts.find? key = some binding) :
    binding ∈ s.goalArtifacts.rows ∧ binding.goalId = key.1 ∧ binding.nodeId = key.2 := by
  obtain ⟨member, same⟩ := mem_of_find? found
  exact ⟨member, congrArg Prod.fst same, congrArg Prod.snd same⟩

theorem CarriesOver.carried (carries : s.CarriesOver after before draftId now) (straight : s.Straight before draftId) :
    s.Carried after before draftId := by
  have moves {binding : GoalArtifact} {clause : GoalRow} (member : binding ∈ s.goalArtifacts.rows)
      (outgoing : s.Outgoing before draftId binding.goalId clause) : binding ∈ s.movedBindings before draftId := by
    by_contra stays
    obtain ⟨mover, moved, same⟩ := Table.displaced member outgoing.selected stays
    exact straight.apart binding member clause outgoing mover moved same
  refine ⟨?_, ?_, ?_, ?_⟩
  · intro id task clause found unfinished outgoing
    obtain ⟨target, heir, restates⟩ := outgoing.restates (straight.tasks task (getTask_mem found) unfinished)
    refine ⟨_, (carries.tasks id).trans (by rw [found]; rfl), ?_⟩
    rw [Outgoing.carriedTask unfinished heir]
    exact (carries.governs _ _).mpr restates
  · intro binding member clause outgoing
    obtain ⟨target, heir, restates⟩ := outgoing.restates (straight.bindings binding member)
    obtain ⟨image, found⟩ := replace_arrives (moves member outgoing)
    rw [← carries.bindings, carriedBinding_key heir] at found
    obtain ⟨inside, named, node⟩ := binding_mem found
    refine ⟨image, inside, node, ?_⟩
    rw [named]
    exact (carries.governs _ _).mpr restates
  · intro binding member clause outgoing other inside node stays
    rcases stays with same | next
    · have here := Table.find?_of_mem inside
      have key : (Row.key other : String × String) = Row.key binding := Prod.ext same node
      have gone : Row.key binding ∈ (s.movedBindings before draftId).map Row.key :=
        mem_map_of_mem (moves member outgoing)
      have reached : (s.movedBindings before draftId).filter (fun row =>
          decide (Row.key (s.carriedBinding before draftId row) = Row.key binding)) = [] := by
        rw [filter_eq_nil_iff]
        intro moved listed
        simpa using straight.apart binding member clause outgoing moved listed
      unfold movedBindings at gone reached
      rw [key, carries.bindings, Table.find?_replace, reached, if_pos gone] at here
      cases here
    · exact (carries.governs _ _).mpr (straight.bindings binding member clause outgoing _ next)
  · intro id control clause found active outgoing
    obtain ⟨target, named, moved⟩ := carries.controls id control clause found active outgoing
    exact ⟨_, moved, active, (carries.governs _ _).mpr (restating_restates named)⟩

theorem CarriesOver.straight (carries : s.CarriesOver after before draftId now) (apart : before ≠ draftId)
    (carried : s.Carried after before draftId) : s.Straight before draftId := by
  -- a binding that lands where an outgoing one stood is left on a retired clause
  have free {binding : GoalArtifact} {clause : GoalRow} (member : binding ∈ s.goalArtifacts.rows)
      (outgoing : s.Outgoing before draftId binding.goalId clause) {mover : GoalArtifact}
      (moved : mover ∈ s.movedBindings before draftId) :
      Row.key (s.carriedBinding before draftId mover) ≠ Row.key binding := by
    intro same
    obtain ⟨image, found⟩ := replace_arrives moved
    rw [← carries.bindings, same] at found
    obtain ⟨inside, named, node⟩ := binding_mem found
    have governs := carried.left binding member clause outgoing image inside node (.inl named)
    rw [named] at governs
    exact outgoing.not_restates apart ((carries.governs _ _).mp governs)
  refine ⟨?_, ?_, fun binding member clause outgoing moved listed => free member outgoing listed⟩
  · intro task member unfinished clause outgoing next superseded
    obtain ⟨moved, found, governs⟩ := carried.tasks task.id task clause (mem_getTask member) unfinished outgoing
    have heir : s.heir before draftId task.goalId = some next := by
      rw [outgoing.heir, superseded]
      rfl
    rw [carries.tasks, mem_getTask member, Option.map_some, Outgoing.carriedTask unfinished heir] at found
    cases found
    exact (carries.governs _ _).mp governs
  · intro binding member clause outgoing next superseded
    have heir : s.heir before draftId binding.goalId = some next := by
      rw [outgoing.heir, superseded]
      rfl
    have moves : binding ∈ s.movedBindings before draftId := by
      by_contra stays
      obtain ⟨mover, moved, same⟩ := Table.displaced member outgoing.selected stays
      exact free member outgoing moved same
    obtain ⟨image, found⟩ := replace_arrives moves
    rw [← carries.bindings, carriedBinding_key heir] at found
    obtain ⟨inside, named, node⟩ := binding_mem found
    have governs := carried.left binding member clause outgoing image inside node (.inr (by rw [named]; exact superseded))
    rw [named] at governs
    exact (carries.governs _ _).mp governs

end

def LockedUnder (s : Store) (before draftId node slug : String) : Prop :=
  ∃ binding ∈ s.goalArtifacts.rows, binding.nodeId = node ∧ binding.mode = .forbidChange ∧
    ((∃ clause, s.Outgoing before draftId binding.goalId clause ∧ clause.slug = slug) ∨
      s.Restates draftId binding.goalId slug)

def LocksNode (s : Store) (versionId node slug : String) : Prop :=
  ∃ binding ∈ s.goalArtifacts.rows, binding.nodeId = node ∧ binding.mode = .forbidChange ∧
    s.Governs versionId binding.goalId slug

/-- Of the bindings that meet on a clause's place the last to move there, else
the clause's own. -/
def lastBinding (s : Store) (before draftId clauseId node : String) : Option GoalArtifact :=
  (((s.movedBindings before draftId).filter fun row =>
    decide (Row.key (s.carriedBinding before draftId row) = (clauseId, node))).getLast?).or
      (s.goalArtifacts.find? (clauseId, node))

def LockComesLast (s : Store) (before draftId node slug : String) : Prop :=
  ∃ clauseId binding, s.Restates draftId clauseId slug ∧ s.lastBinding before draftId clauseId node = some binding ∧
    binding.mode = .forbidChange

section
variable {node slug : String}

theorem Restates.heir (restates : s.Restates draftId clauseId slug) (apart : before ≠ draftId) :
    s.heir before draftId clauseId = none := by
  obtain ⟨row, found, version, _⟩ := restates
  have outside : ¬ row.constitutionVersion = some before := by
    rw [version]
    exact fun same => apart (Option.some.inj same).symm
  rw [Store.heir, found, Option.filter_some, if_neg (by simpa using outside)]
  rfl

theorem CarriesOver.place (carries : s.CarriesOver after before draftId now) (apart : before ≠ draftId)
    (restates : s.Restates draftId clauseId slug) :
    (after.goalArtifacts.find? (clauseId, node)).map GoalArtifact.mode =
      (s.lastBinding before draftId clauseId node).map GoalArtifact.mode := by
  have stays : (clauseId, node) ∉ (s.movedBindings before draftId).map Row.key := by
    intro moves
    obtain ⟨mover, listed, same⟩ := mem_map.mp moves
    have selected := (mem_standing listed).2.1
    have named : mover.goalId = clauseId := congrArg Prod.fst same
    rw [named, restates.heir apart] at selected
    cases selected
  unfold lastBinding
  unfold movedBindings at stays ⊢
  rw [carries.bindings, Table.find?_replace, if_neg stays]
  cases ((s.goalArtifacts.movers (fun row => (s.heir before draftId row.goalId).isSome)
    (s.carriedBinding before draftId)).filter fun row =>
      decide (Row.key (s.carriedBinding before draftId row) = (clauseId, node))).getLast? <;> rfl

theorem CarriesOver.locksNode (carries : s.CarriesOver after before draftId now) (apart : before ≠ draftId) :
    after.LocksNode draftId node slug ↔ s.LockComesLast before draftId node slug := by
  constructor
  · intro ⟨binding, member, here, mode, governs⟩
    have restates := (carries.governs _ _).mp governs
    have found : after.goalArtifacts.find? (binding.goalId, node) = some binding := by
      rw [← here]
      exact Table.find?_of_mem member
    have same : (after.goalArtifacts.find? (binding.goalId, node)).map GoalArtifact.mode =
        (s.lastBinding before draftId binding.goalId node).map GoalArtifact.mode :=
      carries.place apart restates
    rw [found, Option.map_some] at same
    obtain ⟨last, held, equal⟩ := Option.map_eq_some_iff.mp same.symm
    exact ⟨binding.goalId, last, restates, held, equal.trans mode⟩
  · intro ⟨clauseId, last, restates, held, mode⟩
    have same : (after.goalArtifacts.find? (clauseId, node)).map GoalArtifact.mode =
        (s.lastBinding before draftId clauseId node).map GoalArtifact.mode :=
      carries.place apart restates
    rw [held, Option.map_some] at same
    obtain ⟨binding, found, equal⟩ := Option.map_eq_some_iff.mp same
    obtain ⟨member, named, here⟩ := binding_mem found
    refine ⟨binding, member, here, equal.trans mode, ?_⟩
    rw [named]
    exact (carries.governs _ _).mpr restates

end
end Store

section
variable {reads : Store.AmendmentReads}

/-- An amendment carries everything over exactly when every clause in use leads
on in one step. -/
theorem carry_over_complete
    (committed : s.amendConstitution env reads draftId amendedBy approvedBy rationale now = .ok (amendment, after))
    (read : reads.before = some before) : s.Carried after before draftId ↔ s.Straight before draftId := by
  have carries := Store.amendConstitution_carries committed read
  obtain ⟨_, _, _, named, apart, _⟩ := Store.amendConstitution_ok committed
  cases named.symm.trans read
  exact ⟨carries.straight apart, carries.carried⟩

/-- A draft that restates a clause with work and code on it, newest first. -/
def boundAndRedrafted : List (Store → Op) :=
  (fun s => .link s "goal:ship@constitution:v1" ["artifact:keys"] .governed) :: redrafted

def amendsNow (s : Store) (now : Int) : Result (ConstitutionAmendment × Store) :=
  s.amendConstitution Env.plain (Store.amendmentReads s s s "constitution:v2") "constitution:v2" "ann" "bob" "daily" now

theorem carry_over_complete_redrafted : ∃ amendment after,
    amendsNow ((localStore Env.plain).replay boundAndRedrafted).2 6 = .ok (amendment, after) ∧
      ((localStore Env.plain).replay boundAndRedrafted).2.Carried after "constitution:v1" "constitution:v2" := by
  obtain ⟨committed, read, current, free⟩ : let s := ((localStore Env.plain).replay boundAndRedrafted).2
      (amendsNow s 6).toOption.map (fun answer => answer.1.toVersion) = some "constitution:v2" ∧
      (Store.amendmentReads s s s "constitution:v2").before = some "constitution:v1" ∧
      (∀ row ∈ s.goals.rows, row.supersededBy = none) ∧
      ∀ binding ∈ s.goalArtifacts.rows, ∀ moved ∈ s.movedBindings "constitution:v1" "constitution:v2",
        Row.key (s.carriedBinding "constitution:v1" "constitution:v2" moved) ≠ Row.key binding := by
    decide +kernel
  obtain ⟨⟨amendment, after⟩, committed, _⟩ := of_toOption_map committed
  refine ⟨amendment, after, committed, (carry_over_complete committed read).mpr ?_⟩
  have leads (clauseId : String) : ((localStore Env.plain).replay boundAndRedrafted).2.LeadsOn "constitution:v1"
      "constitution:v2" clauseId := by
    intro clause outgoing next superseded
    rw [current clause (mem_of_find? outgoing.found).1] at superseded
    cases superseded
  exact ⟨fun task _ _ => leads task.goalId, fun binding _ => leads binding.goalId,
    fun binding member _ _ moved listed => free binding member moved listed⟩

/-- The clause superseded inside its version, and then restated by a draft. -/
def supersededInVersion : List (Store → Op) :=
  (fun s => .supersede s "goal:ship@constitution:v1" "It ships weekly" "pace" 4) :: redrafted.drop 2

def supersededThenRedrafted : List (Store → Op) :=
  [fun s => Op.draftClause s "constitution:v2" .objective "Ship" "It ships daily" 7,
    fun s => Op.proposeAmendment s none 6] ++
    (fun _ => Op.retire "goal:ship@constitution:v1" "goal:ship-v2" "ann" 5) :: supersededInVersion

theorem supersededThenRedrafted_reads :
    (((localStore plain).replay supersededInVersion).2.goals.find? "goal:ship-v2").isSome ∧
    let s := ((localStore plain).replay supersededThenRedrafted).2
    ((amendsNow s 8).toOption.map fun answer => ((answer.2.getTask "task:goal:ship@constitution:v1|first|3").map Task.goalId,
      (answer.2.goals.find? "goal:ship-v2").map fun row => row.status)) = some (some "goal:ship-v2", some .superseded) ∧
    (Store.amendmentReads s s s "constitution:v2").before = some "constitution:v1" ∧
    ((s.getTask "task:goal:ship@constitution:v1|first|3").map fun task => (task.goalId, task.status)) =
      some ("goal:ship@constitution:v1", .open) ∧
    (s.goals.find? "goal:ship@constitution:v1").map (fun row => (row.constitutionVersion, row.slug)) =
      some (some "constitution:v1", "ship") ∧
    (s.restating "constitution:v2" "ship").isSome := by
  decide +kernel

theorem supersededThenRedrafted_run : (localStore plain).Replays supersededThenRedrafted := by
  have past : (localStore plain).Replays supersededInVersion :=
    Ready.run (by simp +contextual [supersededInVersion, redrafted, Op.enabled, Op.reads])
  have retired := past.step (.retire "goal:ship@constitution:v1" "goal:ship-v2" "ann" 5)
    ⟨by simp [Op.reads], _, past.current_visited, supersededThenRedrafted_reads.1⟩
  exact Machine.Run.replay_append retired (by simp [localStore, Op.enabled, Op.reads])

/-- The task ends on the clause that was retired with its version. -/
theorem carry_over_stops_short : ¬ ∀ env history state reads draftId amendedBy approvedBy rationale now amendment after
    before, (localStore env).Run history state →
      state.amendConstitution env reads draftId amendedBy approvedBy rationale now = .ok (amendment, after) →
        reads.before = some before → state.Carried after before draftId := by
  intro always
  obtain ⟨_, left, read, task, clause, restated⟩ := supersededThenRedrafted_reads
  obtain ⟨⟨amendment, after⟩, committed, left⟩ := of_toOption_map left
  have carried := always Env.plain _ _ _ _ _ _ _ _ amendment after "constitution:v1" supersededThenRedrafted_run
    committed read
  obtain ⟨task, found, task_eq⟩ := Option.map_eq_some_iff.mp task
  obtain ⟨clause, stated, clause_eq⟩ := Option.map_eq_some_iff.mp clause
  have named : task.goalId = "goal:ship@constitution:v1" := congrArg Prod.fst task_eq
  have waiting : task.status = .open := congrArg Prod.snd task_eq
  have slug : clause.slug = "ship" := congrArg Prod.snd clause_eq
  have outgoing : ((localStore Env.plain).replay supersededThenRedrafted).2.Outgoing "constitution:v1" "constitution:v2"
      task.goalId clause := by
    rw [named]
    refine ⟨stated, congrArg Prod.fst clause_eq, ?_⟩
    rw [slug]
    exact restated
  obtain ⟨moved, here, row, governs, _, active, _⟩ := carried.tasks _ task clause found (by rw [waiting]; rfl) outgoing
  rw [Prod.mk.injEq, here] at left
  have there : moved.goalId = "goal:ship-v2" := Option.some.inj left.1
  rw [there] at governs
  rw [governs] at left
  have retired : row.status = .superseded := Option.some.inj left.2
  cases active.symm.trans retired

/-- A lock either side set is kept exactly when it is a lock that comes last. -/
theorem amendment_keeps_locks
    (committed : s.amendConstitution env reads draftId amendedBy approvedBy rationale now = .ok (amendment, after))
    (read : reads.before = some before) : ∀ node slug, s.LockedUnder before draftId node slug →
      (after.LocksNode draftId node slug ↔ s.LockComesLast before draftId node slug) := by
  have carries := Store.amendConstitution_carries committed read
  obtain ⟨_, _, _, named, apart, _⟩ := Store.amendConstitution_ok committed
  cases named.symm.trans read
  intro node slug _
  exact carries.locksNode apart

end

def restatedKeys (outgoing incoming : ArtifactBindingMode) : List (Store → Op) :=
  [fun s => .link s "goal:keys@constitution:v2" ["artifact:keys"] incoming,
    fun s => .draftClause s "constitution:v2" .constraint "Keys" "Keys stay put" 5,
    fun s => .proposeAmendment s none 4,
    fun s => .link s "goal:keys@constitution:v1" ["artifact:keys"] outgoing,
    fun _ => .activate "constitution:v1" "ann" 2,
    fun s => .draftClause s "constitution:v1" .constraint "Keys" "Keys stay" 1,
    fun s => .proposeConstitution s none 0]

theorem restatedKeys_reads :
    (let s := ((localStore Env.plain).replay (restatedKeys .forbidChange .governed)).2
    (amendsNow s 6).toOption.map (fun answer => answer.1.toVersion) = some "constitution:v2" ∧
    (Store.amendmentReads s s s "constitution:v2").before = some "constitution:v1" ∧
    (s.goals.find? "goal:keys@constitution:v1").map (fun row => (row.constitutionVersion, row.slug)) =
      some (some "constitution:v1", "keys") ∧
    (s.goals.find? "goal:keys@constitution:v2").map (fun row => (row.constitutionVersion, row.status, row.slug)) =
      some (some "constitution:v2", .draft, "keys") ∧
    (s.restating "constitution:v2" "keys").isSome ∧
    ⟨"goal:keys@constitution:v1", "artifact:keys", .forbidChange⟩ ∈ s.goalArtifacts.rows ∧
    s.lastBinding "constitution:v1" "constitution:v2" "goal:keys@constitution:v2" "artifact:keys" =
      some ⟨"goal:keys@constitution:v1", "artifact:keys", .forbidChange⟩) ∧
    let s := ((localStore Env.plain).replay (restatedKeys .governed .forbidChange)).2
    (amendsNow s 6).toOption.map (fun answer => answer.2.goalArtifacts.rows.map GoalArtifact.mode) = some [.governed] ∧
    (Store.amendmentReads s s s "constitution:v2").before = some "constitution:v1" ∧
    (s.goals.find? "goal:keys@constitution:v2").map (fun row => (row.constitutionVersion, row.status, row.slug)) =
      some (some "constitution:v2", .draft, "keys") ∧
    ⟨"goal:keys@constitution:v2", "artifact:keys", .forbidChange⟩ ∈ s.goalArtifacts.rows := by
  decide +kernel

/-- The outgoing lock outlives the incoming clause's weaker binding. -/
theorem amendment_keeps_locks_restated : ∃ amendment after,
    amendsNow ((localStore Env.plain).replay (restatedKeys .forbidChange .governed)).2 6 = .ok (amendment, after) ∧
      after.LocksNode "constitution:v2" "artifact:keys" "keys" := by
  obtain ⟨committed, read, clause, redrafted, restated, member, last⟩ := restatedKeys_reads.1
  obtain ⟨⟨amendment, after⟩, committed, _⟩ := of_toOption_map committed
  refine ⟨amendment, after, committed, ?_⟩
  have restates : ((localStore Env.plain).replay (restatedKeys .forbidChange .governed)).2.Restates "constitution:v2"
      "goal:keys@constitution:v2" "keys" := Store.restates_of_read redrafted
  obtain ⟨clause, found, same⟩ := Option.map_eq_some_iff.mp clause
  have slug : clause.slug = "keys" := congrArg Prod.snd same
  refine (amendment_keeps_locks committed read "artifact:keys" "keys" ?_).mpr ?_
  · refine ⟨_, member, rfl, rfl, .inl ⟨clause, ⟨found, congrArg Prod.fst same, ?_⟩, slug⟩⟩
    rw [slug]
    exact restated
  · exact ⟨_, _, restates, last, rfl⟩

/-- The incoming lock gives way to the outgoing clause's weaker binding. -/
theorem outgoing_binding_unlocks : ¬ ∀ env history state reads draftId amendedBy approvedBy rationale now amendment
    after before, (localStore env).Run history state →
      state.amendConstitution env reads draftId amendedBy approvedBy rationale now = .ok (amendment, after) →
        reads.before = some before → ∀ node slug, state.LockedUnder before draftId node slug →
          after.LocksNode draftId node slug := by
  intro always
  have run : (localStore Env.plain).Replays (restatedKeys .governed .forbidChange) :=
    Ready.run (by simp +contextual [restatedKeys, Op.enabled, Op.reads])
  obtain ⟨modes, read, redrafted, member⟩ := restatedKeys_reads.2
  obtain ⟨⟨amendment, after⟩, committed, modes⟩ := of_toOption_map modes
  have locks := always Env.plain _ _ _ _ _ _ _ _ amendment after "constitution:v1" run committed read
    "artifact:keys" "keys" ?_
  · obtain ⟨binding, here, _, locked, _⟩ := locks
    have mode : binding.mode ∈ after.goalArtifacts.rows.map GoalArtifact.mode := mem_map_of_mem here
    rw [modes, locked] at mode
    cases mem_singleton.mp mode
  · exact ⟨_, member, rfl, rfl, .inr (Store.restates_of_read redrafted)⟩

end MindLeak.Lodestar
