import MindLeak.Lodestar.Replies
import MindLeak.Proofs.Rows

/-! What a reset leaves behind: every client afterwards is answered as on a new
store exactly when the tables and counters that a reset passes over were empty. -/

namespace MindLeak.Lodestar

open Table List

namespace Database
variable {env : Env} {decay : Decay} {db after : Database} {confirmation : String}

structure LeavesNothing (db : Database) : Prop where
  versions : db.store.constitutionVersions.rows = []
  facts : db.facts.rows = []
  controls : db.store.controls.rows = []
  waivers : db.store.waivers.rows = []
  amendments : db.store.amendments.rows = []
  events : db.store.taskEvents = []
  checks : db.store.conformanceSeq = 0
  acts : db.designs.actionSeq = 0

theorem resetDatabase_ok (done : db.resetDatabase confirmation = .ok after) :
    after = { store := db.store.cleared, designs := { actionSeq := db.designs.actionSeq }, facts := db.facts } := by
  obtain ⟨store, cleared, done⟩ := bind_ok done
  obtain ⟨_, cleared⟩ := ite_else cleared
  cases cleared
  cases done
  rfl

theorem LeavesNothing.fresh (nothing : db.LeavesNothing) (done : db.resetDatabase confirmation = .ok after) :
    after = {} := by
  rw [resetDatabase_ok done, Store.cleared, eq_empty nothing.versions, eq_empty nothing.facts,
    eq_empty nothing.controls, eq_empty nothing.waivers, eq_empty nothing.amendments, nothing.events,
    nothing.checks, nothing.acts]

def deferringClient : Client :=
  [fun _ _ => .write (.registerDesign "design:first" "docs/adr/first.md" "First" "" none 1),
    fun _ _ => .write (.designActions ["design:first"] .defer "ann" "later" 2),
    fun _ _ => .read (.designActionHistory "design:first")]

theorem deferringClient_replies {acts : Nat} (designs : db.designs = { actionSeq := acts }) :
    replies env decay deferringClient [] db =
      [.done, .done, .acts [⟨acts + 1, "design:first", .defer, "ann", "later", 2⟩]] := by
  cases db
  cases designs
  rfl

def idleEvidence : ConformanceEvidence where
  schemaVersion := 1
  taskId := none
  agentId := "ann"
  startedAt := 0
  endedAt := 0
  changedNodeIds := []
  failedNodeIds := []
  executionIds := []
  successfulExecutionIds := []
  commitIds := []
  ledgerActIds := []
  summary := ""
  provenance := []

def checkingClient : Client :=
  [fun db _ => .write (.local (.check db.store idleEvidence none ⟨none, [], 0, 0⟩ 0 0))]

theorem checkingClient_replies (env : Env) (decay : Decay) {checks : Nat} (store : db.store = { conformanceSeq := checks }) :
    ∃ token verdict findings, replies env decay checkingClient [] db =
      [.checked ⟨checks + 1, token, verdict, findings⟩] := by
  cases db
  cases store
  exact ⟨_, _, _, rfl⟩

def AnswersAlike (env : Env) (decay : Decay) (left right : Database) : Prop :=
  ∀ client : Client, client.Fair → replies env decay client [] left = replies env decay client [] right

theorem AnswersAlike.read {left right : Database} (alike : AnswersAlike env decay left right) (reading : Reading) :
    left.read reading = right.read reading := by
  have same := alike [fun _ _ => .read reading] (by simp [Client.Fair, Call.enabled])
  exact (cons.inj same).1

theorem deferringClient_fair : deferringClient.Fair := by
  simp only [deferringClient, Client.Fair, forall_mem_cons]
  simp [Call.enabled, DatabaseOp.enabled, DatabaseOp.reads]

theorem checkingClient_fair : checkingClient.Fair := by
  simp only [checkingClient, Client.Fair, forall_mem_cons]
  simp [Call.enabled, DatabaseOp.enabled, DatabaseOp.reads, Op.enabled, Op.reads]

theorem facts_eq_nil (unread : ∀ constitutionVersion, db.projectFacts constitutionVersion = []) : db.facts.rows = [] := by
  refine eq_nil_iff_forall_not_mem.mpr fun row member => ?_
  have none_read := unread row.constitutionVersion
  rw [projectFacts, map_eq_nil_iff] at none_read
  have listed : row ∈ db.facts.rows.filter fun other => decide (other.constitutionVersion = row.constitutionVersion) :=
    mem_filter.mpr ⟨member, decide_eq_true rfl⟩
  have sorted := (perm_insertionSort (fun left right : ConstitutionFact => left.kind.asStr < right.kind.asStr ∨
    left.kind.asStr = right.kind.asStr ∧ left.sourcePath ≤ right.sourcePath) _).mem_iff.mpr listed
  rw [none_read] at sorted
  cases sorted

theorem AnswersAlike.leavesNothing (done : db.resetDatabase confirmation = .ok after)
    (alike : AnswersAlike env decay after {}) : db.LeavesNothing := by
  obtain rfl := resetDatabase_ok done
  have versions : db.store.constitutionVersions.rows = [] :=
    rows_eq_nil fun id => Reply.version.inj (alike.read (.constitutionVersion id))
  have controls : db.store.controls.rows = [] := rows_eq_nil fun id => Reply.control.inj (alike.read (.control id))
  have waivers : db.store.waivers.rows = [] := rows_eq_nil fun id => Reply.waiver.inj (alike.read (.waiver id))
  have amendments : db.store.amendments.rows = [] :=
    rows_eq_nil fun id => Reply.amendment.inj (alike.read (.amendment id))
  have facts : db.facts.rows = [] := facts_eq_nil fun version => Reply.grounds.inj (alike.read (.projectFacts version))
  have events : db.store.taskEvents = [] := Reply.log.inj (alike.read .taskLog)
  have acts := alike deferringClient deferringClient_fair
  rw [deferringClient_replies rfl, deferringClient_replies rfl] at acts
  simp only [cons.injEq, Reply.acts.injEq, DesignAction.mk.injEq, Nat.add_left_inj, and_true, true_and] at acts
  have cleared : db.store.cleared = { conformanceSeq := db.store.conformanceSeq } := by
    rw [Store.cleared, eq_empty versions, eq_empty controls, eq_empty waivers, eq_empty amendments, events]
  have checks := alike checkingClient checkingClient_fair
  obtain ⟨_, _, _, left⟩ := checkingClient_replies env decay
    (show ({ store := db.store.cleared, designs := { actionSeq := db.designs.actionSeq }, facts := db.facts } : Database).store = _
      from cleared)
  obtain ⟨_, _, _, right⟩ := checkingClient_replies env decay (show ({} : Database).store = { conformanceSeq := 0 } from rfl)
  rw [left, right] at checks
  simp only [cons.injEq, Reply.checked.injEq, ConformanceCheck.mk.injEq] at checks
  have counted : db.store.conformanceSeq = 0 := by
    omega
  exact ⟨versions, facts, controls, waivers, amendments, events, counted, acts⟩

end Database

/-- After a reset every client is answered as on a new store exactly when nothing
is stored where the reset does not reach. -/
theorem reset_is_fresh {env : Env} {decay : Decay} {db after : Database} {confirmation : String}
    (done : db.resetDatabase confirmation = .ok after) :
    Database.AnswersAlike env decay after {} ↔ db.LeavesNothing := by
  constructor
  · exact Database.AnswersAlike.leavesNothing done
  · intro nothing client _
    rw [nothing.fresh done]

def nothingLasting : List (Database → DatabaseOp) :=
  [fun _ => .recordKnowledge "use make" "" FULL_WEIGHT 4,
    fun _ => .decideDesign "design:first" .accepted "ann" none 3,
    fun _ => .registerDesign "design:first" "docs/adr/first.md" "First" "" none 2,
    fun _ => .local (.defineGoal .objective "ship" "ship it" none 1)]

theorem reset_is_fresh_unlogged : let db := ((anyDatabase Env.plain Decay.plain).replay nothingLasting).2
    db.store.goals.rows.length = 1 ∧ db.designs.items.rows.length = 1 ∧
      ∃ after, db.resetDatabase "RESET LODESTAR" = .ok after ∧ Database.AnswersAlike Env.plain Decay.plain after {} := by
  obtain ⟨after, done⟩ : ∃ after,
      ((anyDatabase Env.plain Decay.plain).replay nothingLasting).2.resetDatabase "RESET LODESTAR" = .ok after := ⟨_, rfl⟩
  refine ⟨by decide +kernel, by decide +kernel, after, done, (reset_is_fresh done).mpr ?_⟩
  constructor <;> decide +kernel

def activatedConstitution : List (Database → DatabaseOp) :=
  [fun _ => .local (.activate "constitution:v1" "ann" 3),
    fun db => .local (.draftClause db.store "constitution:v1" .constraint "ascii" "only ASCII" 2),
    fun db => .local (.proposeConstitution db.store (some "ann") 1)]

theorem reset_keeps_constitution :
    ¬ ∀ env decay history db after, (anyDatabase env decay).Run history db → db.resetDatabase "RESET LODESTAR" = .ok after →
      Database.AnswersAlike env decay after {} := by
  intro fresh
  have run : (anyDatabase Env.plain Decay.plain).Replays activatedConstitution := by
    refine Machine.replay_run ?_
    have seen (visited : List Database) (db : Database) (member : db ∈ visited) : ∃ other ∈ visited, other.store = db.store :=
      ⟨db, member, rfl⟩
    simp only [activatedConstitution, forall_mem_cons]
    simpa [anyDatabase, DatabaseOp.enabled, DatabaseOp.reads, Op.enabled, Op.reads] using seen
  have active := (fresh _ _ _ _ _ run rfl).read .activeConstitutionVersion
  exact absurd active (by decide +kernel)

end MindLeak.Lodestar
