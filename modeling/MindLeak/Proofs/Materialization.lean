import MindLeak.Lodestar.Database
import MindLeak.Proofs.Operations

/-! A materialization taken apart: what its one transaction writes to the design
tables, the tasks and the goals. -/

namespace MindLeak.Lodestar
namespace Designs

def KeepsRecord (before d : Designs) : Prop :=
  d.items = before.items ∧ d.actions = before.actions ∧ d.actionSeq = before.actionSeq

end Designs

namespace Database

variable {env : Env} {seen db after : Database} {s s' : Store} {d d' : Designs} {id actor : String}
  {plan : DesignMaterializationPlan} {repair : Bool} {planned now : Int}

theorem linkTask_ok {placed : Task × Nat} (done : linkTask s id d placed = .ok d') :
    s.ensureObjective placed.1.goalId = .ok () ∧ ∃ taskLinks,
      d.taskLinks.insert? ⟨id, placed.1.id, placed.2⟩ = some taskLinks ∧ d' = { d with taskLinks } := by
  obtain ⟨_, objective, done⟩ := bind_ok done
  split at done
  · cases done
  rename_i taskLinks inserted
  cases done
  exact ⟨objective, taskLinks, inserted, rfl⟩

theorem linkGoal_ok {role : GoalKind} {placed : String × Nat} (done : linkGoal id role d placed = .ok d') :
    ∃ goalLinks, d.goalLinks.insert? ⟨id, placed.1, role, placed.2⟩ = some goalLinks ∧ d' = { d with goalLinks } := by
  simp only [linkGoal] at done
  split at done
  · cases done
  rename_i goalLinks inserted
  cases done
  exact ⟨goalLinks, inserted, rfl⟩

theorem addConstraint_ok {placed : DesignConstraintDraft × Nat}
    (done : addConstraint env id now (d, s) placed = .ok (d', s')) :
    ∃ goal, s.defineGoalOn env placed.1.kind placed.1.title placed.1.statement none now = .ok (goal, s') ∧
      linkGoal id placed.1.kind d (goal.id, placed.2) = .ok d' := by
  obtain ⟨⟨goal, middle⟩, defined, done⟩ := bind_ok done
  obtain ⟨linked, links, done⟩ := bind_ok done
  cases done
  exact ⟨goal, defined, links⟩

/-- The design tables before a plan's links are written: the new revision and its
plan, and what is left of the old links. -/
def opened (d : Designs) (id : String) (repair : Bool) (planned now : Int)
    (materializations : Table DesignMaterializationRecord) : Designs :=
  { d.updateItem id (materializeWrite repair planned now) with
    materializations
    taskLinks := d.taskLinks.delete fun link => decide (link.designId = id)
    goalLinks := d.goalLinks.delete fun link => decide (link.designId = id) && decide (link.role = .objective) }

/-- The transaction in its five steps: open the revision, find or create the
tasks, link them, link their objectives, define and link the constraints. -/
theorem writePlan_ok (done : writePlan env db id plan actor repair planned now = .ok after) :
    ∃ materializations tasks middle linked placed d s,
      db.designs.changed id (materializeWrite repair planned now) = 1 ∧
      db.designs.materializations.insert? ⟨id, planned + 1, plan, actor, now⟩ = some materializations ∧
      planTasks env db.store plan now = .ok (tasks, middle) ∧
      tasks.zipIdx.foldlM (linkTask middle id) (opened db.designs id repair planned now materializations) = .ok linked ∧
      (tasks.map Task.goalId).eraseDups.zipIdx.foldlM (linkGoal id .objective) linked = .ok placed ∧
      (plan.constraints.zipIdx (constraintOffset placed id)).foldlM (addConstraint env id now) (placed, middle) = .ok (d, s) ∧
      after = { db with designs := d, store := { s with designItems := d.items.map DesignRow.brief } } := by
  obtain ⟨won, done⟩ := ite_else done
  simp only at done
  split at done
  · cases done
  rename_i materializations inserted
  obtain ⟨⟨tasks, middle⟩, gathered, done⟩ := bind_ok done
  obtain ⟨linked, links, done⟩ := bind_ok done
  obtain ⟨placed, objectives, done⟩ := bind_ok done
  obtain ⟨⟨d, s⟩, constraints, done⟩ := bind_ok done
  cases done
  exact ⟨materializations, tasks, middle, linked, placed, d, s, not_not.mp won, inserted, gathered, links, objectives,
    constraints, rfl⟩

theorem writePlan_items (done : writePlan env db id plan actor repair planned now = .ok after) :
    after.designs.items = (db.designs.updateItem id (materializeWrite repair planned now)).items ∧
      after.designs.actions = db.designs.actions ∧ after.designs.actionSeq = db.designs.actionSeq ∧
      after.knowledge = db.knowledge := by
  obtain ⟨_, _, _, linked, placed, d, _, _, _, _, links, objectives, constraints, rfl⟩ := writePlan_ok done
  have first := foldlM_ok (Designs.KeepsRecord (db.designs.updateItem id (materializeWrite repair planned now))) links ⟨rfl, rfl, rfl⟩
    fun before item after kept one => by
      obtain ⟨_, _, _, rfl⟩ := linkTask_ok one
      exact kept
  have second := foldlM_ok (Designs.KeepsRecord _) objectives first fun before item after kept one => by
      obtain ⟨_, _, rfl⟩ := linkGoal_ok one
      exact kept
  have third := foldlM_ok (fun both => Designs.KeepsRecord _ both.1) constraints second fun before item after kept one => by
      obtain ⟨_, _, linked⟩ := addConstraint_ok one
      obtain ⟨_, _, same⟩ := linkGoal_ok linked
      rw [same]
      exact kept
  exact ⟨third.1, third.2.1, third.2.2, rfl⟩

theorem materializeDesignItem_ok (done : materializeDesignItem env seen db id plan actor repair now = .ok after) :
    after = db ∨ ∃ item, seen.designs.getDesignItem id = some item ∧
      ((seen.designs.materializationHistory id).getLast?.all fun record => decide (record.plan ≠ plan)) = true ∧
      validateMaterializationPlan plan = .ok () ∧
      writePlan env db id plan (Text.trim actor) repair item.materializationRevision now = .ok after := by
  obtain ⟨_, valid, done⟩ := bind_ok done
  simp only [throw_eq, error_bind] at done
  obtain ⟨_, done⟩ := ite_else done
  split at done
  · cases done
  rename_i item found
  obtain ⟨_, done⟩ := ite_else done
  split at done
  next =>
    cases done
    exact .inl rfl
  next other =>
    have fresh : ((seen.designs.materializationHistory id).getLast?.all fun record =>
        decide (record.plan ≠ plan)) = true := by
      cases last : (seen.designs.materializationHistory id).getLast? with
      | none => rfl
      | some record =>
        rw [last, Option.any_some, decide_eq_true_eq] at other
        rw [Option.all_some, decide_eq_true_eq]
        exact other
    refine .inr ⟨item, found, fresh, valid, ?_⟩
    split_ifs at done
    all_goals exact done

theorem performLocal_cases (env : Env) (db : Database) (op : Op) :
    (∃ confirmation, op = .reset confirmation) ∨
      (∀ confirmation, op ≠ .reset confirmation) ∧ db.performLocal env op = { db with store := db.store.perform env op } := by
  cases op with
  | reset confirmation => exact .inl ⟨confirmation, rfl⟩
  | _ =>
    refine .inr ⟨?_, rfl⟩
    intro _ same
    cases same

end Database
end MindLeak.Lodestar
