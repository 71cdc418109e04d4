import MindLeak.Proofs.Handoffs

/-! Done means certified: over any run a task is done through an aligned record
its owner completed with under a live claim, or through a human who accepted it
out of review. -/

namespace MindLeak.Lodestar

open Table List

variable {env : Env} {id : String}

namespace Store

/-- Whatever a later store records under a number an earlier one had given out,
the earlier one already recorded. -/
structure Recorded (s after : Store) : Prop where
  counter : s.conformanceSeq ≤ after.conformanceSeq
  records : ∀ record ∈ after.conformance.rows, record ∈ s.conformance.rows ∨ (s.conformanceSeq : Int) < record.id

theorem Recorded.refl (s : Store) : s.Recorded s := ⟨le_refl _, fun _ => .inl⟩

theorem Recorded.trans {first middle last : Store} (left : first.Recorded middle) (right : middle.Recorded last) :
    first.Recorded last where
  counter := le_trans left.counter right.counter
  records record member := by
    rcases right.records record member with kept | fresh
    · exact left.records record kept
    · have counted := left.counter
      exact .inr (by omega)

section
variable {s after : Store} {op : Op} {task : Task}

theorem Recorded.same (records : after.conformance = s.conformance) (counter : after.conformanceSeq = s.conformanceSeq) :
    s.Recorded after := by
  refine ⟨by omega, fun record member => ?_⟩
  rw [records] at member
  exact .inl member

/-- What a change does to the records: nothing, one more, or all gone. -/
inductive Recording (s : Store) : Store → Prop
  | same {after : Store} (records : after.conformance = s.conformance)
      (counter : after.conformanceSeq = s.conformanceSeq) : Recording s after
  | added {after : Store} (record : ConformanceRecord) (numbered : record.id = s.conformanceSeq + 1)
      (records : after.conformance = s.conformance.insertOrIgnore record)
      (counter : after.conformanceSeq = s.conformanceSeq + 1) : Recording s after
  | cleared {after : Store} (records : after.conformance = .empty)
      (counter : after.conformanceSeq = s.conformanceSeq) (rows : ∀ key, after.getTask key = none) : Recording s after

theorem Change.recording (change : Change env s op after) : s.Recording after := by
  cases change with
  | aside same => exact .same same.conformance same.counter
  | checked record numbered done =>
    subst done
    exact .added record numbered rfl rfl
  | noted middle found claimed same kind done =>
    subst done
    exact .same same.conformance same.counter
  | rewrote rewrite issued found taken admitted kind wrote beside | blocked found unfinished awaits wrote beside =>
    subst wrote
    exact .same beside.sameWork.conformance beside.sameWork.counter
  | completed resolved validated stored named agrees found taken wrote done =>
    subst wrote
    split at done
    · subst done
      exact .same (opened_conformance _ _ _).1 (opened_conformance _ _ _).2
    · subst done
      exact .same rfl rfl
  | abandoned found allowed wrote beside | resolved found review kind wrote beside =>
    subst wrote
    exact .same (beside.sameWork.conformance.trans (opened_conformance _ _ _).1)
      (beside.sameWork.counter.trans (opened_conformance _ _ _).2)
  | created created => exact .same created.conformance created.counter
  | materialized created =>
    have kept : after.conformance = s.conformance ∧ after.conformanceSeq = s.conformanceSeq := by
      induction created with
      | refl => exact ⟨rfl, rfl⟩
      | tail _ last ih =>
        obtain ⟨task, last⟩ := last
        exact ⟨last.conformance.trans ih.1, last.counter.trans ih.2⟩
    exact .same kept.1 kept.2
  | amended committed read apart setup tasks events handoffs conformance counter => exact .same conformance counter
  | reset confirmed => exact .cleared rfl rfl fun _ => rfl

theorem Recording.recorded (recording : s.Recording after) : s.Recorded after := by
  cases recording with
  | same records counter => exact .same records counter
  | added record numbered records counter =>
    refine ⟨by omega, fun other member => ?_⟩
    rw [records] at member
    rcases mem_insertOrIgnore member with old | rfl
    · exact .inl old
    · exact .inr (by omega)
  | cleared records counter rows =>
    refine ⟨by omega, fun other member => ?_⟩
    rw [records] at member
    cases member

def Numbered (s : Store) : Prop := ∀ record ∈ s.conformance.rows, record.id ≤ s.conformanceSeq

theorem Numbered.step (numbered : s.Numbered) (recording : s.Recording after) : after.Numbered := by
  intro other member
  cases recording with
  | same records counter =>
    rw [records] at member
    rw [counter]
    exact numbered other member
  | added record next records counter =>
    rw [records] at member
    rcases mem_insertOrIgnore member with old | rfl
    · have bounded := numbered other old
      omega
    · omega
  | cleared records counter rows =>
    rw [records] at member
    cases member

theorem Recorded.find?_eq {seen : Store} {number : Int} {first second : ConformanceRecord} (numbered : seen.Numbered)
    (recorded : seen.Recorded s) (early : seen.conformance.find? number = some first)
    (late : s.conformance.find? number = some second) : first = second := by
  obtain ⟨member, key⟩ := mem_of_find? early
  obtain ⟨member', key'⟩ := mem_of_find? late
  have bounded := numbered first member
  have same : (first.id : Int) = second.id := key.trans key'.symm
  rcases recorded.records second member' with old | fresh
  · have found := Table.find?_of_mem old
    rw [key', early] at found
    exact Option.some.inj found
  · omega

theorem authorises_evidence {record : ConformanceRecord} {task : Task} {evidence : ConformanceEvidence}
    {check : ConformanceCheck} {now : Int} (authorised : authorises record task evidence check now = true) :
    record.evidence = evidence := by
  simp only [authorises, Bool.and_eq_true, decide_eq_true_eq] at authorised
  exact authorised.1.1.1.1.2

structure Completes (s after : Store) (id owner : String) (verdict : Verdict) (now : Int) : Prop where
  held : ∃ claim, s.getTask id = some claim ∧ claim.status = .claimed ∧ claim.owner = some owner ∧ live now claim = true
  left : ∃ row, after.getTask id = some row ∧ row.status = verdict.targetStatus

end
end Store

section
variable {history : List (Entry Store Op)} {state : Store}

def Certified (history : List (Entry Store Op)) (state : Store) (id : String) : Prop :=
  ∃ entry ∈ history, ∃ seen agent owner evidence check lessons now record,
    entry.op = .complete seen id agent evidence check lessons now ∧ resolveAgent agent = .ok owner ∧
    entry.before.Completes entry.after id owner .aligned now ∧
    record ∈ state.conformance.rows ∧ record.id = check.id ∧ record.taskId = some id ∧ record.verdict = .aligned ∧
    record.evidence = evidence

def Accepted (history : List (Entry Store Op)) (id : String) (task : Task) : Prop :=
  ∃ entry ∈ history, ∃ resolver now waiting, entry.op = .resolve id resolver now ∧
    entry.before.getTask id = some waiting ∧ waiting.status = .inReview ∧ task.resolvedBy = some resolver

section
variable (run : (localStore env).Run history state)
include run

theorem run_numbered :
    state.Numbered ∧ ∀ seen ∈ (localStore env).visited history, seen.Numbered := by
  have initial : (localStore env).start.Numbered := by
    intro record member
    cases member
  have keeps (before : Store) (op : Op) (numbered : before.Numbered) : ((localStore env).apply before op).Numbered :=
    numbered.step (Store.perform_change env before op).recording
  exact ⟨run.invariant Store.Numbered initial keeps, run.visited_good Store.Numbered initial keeps⟩

end

theorem Certified.older {after : Store} {entry : Entry Store Op}
    (certified : Certified history state id) (kept : ∀ record ∈ state.conformance.rows, record ∈ after.conformance.rows) :
    Certified (entry :: history) after id := by
  obtain ⟨found, member, seen, agent, owner, evidence, check, lessons, now, record, issued, resolved, completes, stored,
    rest⟩ := certified
  exact ⟨found, mem_cons_of_mem _ member, seen, agent, owner, evidence, check, lessons, now, record, issued,
    resolved, completes, kept record stored, rest⟩

theorem Accepted.older {task before : Task} {entry : Entry Store Op} (accepted : Accepted history id before)
    (same : task.resolvedBy = before.resolvedBy) : Accepted (entry :: history) id task := by
  obtain ⟨found, member, resolver, now, waiting, issued, stored, review, by_⟩ := accepted
  exact ⟨found, mem_cons_of_mem _ member, resolver, now, waiting, issued, stored, review, same.trans by_⟩

theorem Store.Recording.kept {s after : Store} (recording : s.Recording after) {task : Task}
    (found : after.getTask id = some task) : ∀ record ∈ s.conformance.rows, record ∈ after.conformance.rows := by
  intro record member
  cases recording with
  | same records counter => exact records ▸ member
  | added added numbered records counter => exact records ▸ insertOrIgnore_keeps member
  | cleared records counter rows =>
    rw [rows] at found
    cases found

end

def shipEvidence : ConformanceEvidence where
  schemaVersion := 1
  taskId := some "task:goal:ship|first|1"
  agentId := "dev"
  startedAt := 10
  endedAt := 12
  changedNodeIds := ["artifact:a"]
  failedNodeIds := []
  executionIds := ["execution:1"]
  successfulExecutionIds := []
  commitIds := []
  ledgerActIds := []
  summary := ""
  provenance := [⟨"agent:dev", "execution:1", "observed"⟩, ⟨"execution:1", "artifact:a", "modified"⟩]

def shipped : List (Store → Op) :=
  [fun s => .complete s "task:goal:ship|first|1" "dev" shipEvidence
      ⟨1, "1:aligned:evidence does not touch code bound to the task goal", .aligned,
        ["evidence does not touch code bound to the task goal"]⟩ [] 13,
    fun s => .check s shipEvidence (some "task:goal:ship|first|1") ⟨none, [], 12, 12⟩ 12 12,
    fun _ => .claim "task:goal:ship|first|1" "dev" 100 none none 10,
    fun _ => .createTask "goal:ship" "first" "works" none none [] 1,
    fun _ => .defineGoal .objective "Ship" "It ships" none 0]

end MindLeak.Lodestar
