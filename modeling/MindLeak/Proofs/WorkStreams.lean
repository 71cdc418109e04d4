import MindLeak.Ackplane.Work
import MindLeak.Proofs.Appends

/-! The positions of a Work stream under any interleaving of creations and commands. Whoever has
the head gives it back with an event at the position it was given, or untouched; one path
does neither. -/

namespace MindLeak.Ackplane

open List Function Option

namespace WorkTables

def positions (tables : WorkTables) (stream : Stream) : List Int :=
  (tables.history.rows.filter fun row => decide (row.stream = stream)).map WorkTaskHistoryRow.streamPosition

def Dense (tables : WorkTables) : Prop :=
  ∀ stream, ∃ n : Nat, tables.headPosition stream = n ∧ tables.positions stream = counted n

variable {tables after : WorkTables} {row : WorkTaskRow} {event : WorkEvent} {position : Int} {stream : Stream}

theorem headPosition_advance (tables : WorkTables) (stream other : Stream) (position : Int) :
    (tables.advance stream position).headPosition other = if other = stream then position else tables.headPosition other := by
  unfold headPosition advance
  rw [Table.find?_put]
  by_cases same : stream = other
  · rw [if_pos (show Row.key (⟨stream, position⟩ : StreamHead) = other from same), if_pos same.symm]
    rfl
  · rw [if_neg (show Row.key (⟨stream, position⟩ : StreamHead) ≠ other from same), if_neg (Ne.symm same)]

theorem append_some (appended : tables.append row event position = some after) :
    after.history.rows = tables.history.rows ++ [⟨event, position⟩] ∧
      ∀ other, after.headPosition other = if other = event.key.stream then position else tables.headPosition other := by
  obtain ⟨_, appended⟩ := else_of_ne appended nofun
  obtain ⟨history, inserted, rfl⟩ := map_eq_some_iff.mp appended
  exact ⟨(Table.insert?_rows inserted).1, fun other => tables.headPosition_advance event.key.stream other position⟩

theorem Dense.append (dense : tables.Dense) (next : position = tables.headPosition event.key.stream + 1)
    (appended : tables.append row event position = some after) : after.Dense := by
  obtain ⟨history, heads⟩ := append_some appended
  intro stream
  obtain ⟨n, head, counted⟩ := dense stream
  rw [heads, positions, history, filter_append, map_append]
  by_cases same : stream = event.key.stream
  · subst same
    have own : [(⟨event, position⟩ : WorkTaskHistoryRow)].filter (fun row => decide (row.stream = event.key.stream)) =
        [⟨event, position⟩] := filter_eq_self.mpr (by simp [WorkTaskHistoryRow.stream])
    refine ⟨n + 1, ?_, ?_⟩
    · rw [if_pos rfl, next, head]
      rfl
    · rw [own, counted_succ, ← counted, ← head, ← next]
      rfl
  · have others : [(⟨event, position⟩ : WorkTaskHistoryRow)].filter (fun row => decide (row.stream = stream)) = [] := by
      simp [WorkTaskHistoryRow.stream, Ne.symm same]
    refine ⟨n, ?_, ?_⟩
    · rw [if_neg same, head]
    · rw [others, ← counted]
      exact append_nil _

theorem Dense.not_advance (dense : tables.Dense) : ¬(tables.advance stream (tables.headPosition stream + 1)).Dense := by
  intro still
  obtain ⟨n, head, positions⟩ := dense stream
  obtain ⟨m, head', positions'⟩ := still stream
  rw [headPosition_advance, if_pos rfl, head] at head'
  have same : counted n = counted m := positions.symm.trans positions'
  have lengths := congrArg List.length same
  simp only [counted, length_map, length_range] at lengths
  omega

end WorkTables

def WorkEnd.Unrecorded : WorkEnd → Prop
  | .answered outcome => outcome.idempotentReplay = true
  | .executed outcome => outcome.toOption ≠ some .applied
  | .refused _ | .violated | .failed => True
  | .unanswered => False

def WorkPhase.ending? : WorkPhase → Option WorkEnd
  | .finished ending => some ending
  | _ => none

/-- A creation that was given a position, and now looks for its own task. -/
def WorkPhase.raced : WorkPhase → Option WorkCreation
  | .seen creation (some _) => some creation
  | _ => none

theorem WorkPhase.seen_of_raced {phase : WorkPhase} {creation : WorkCreation} (raced : phase.raced = some creation) :
    ∃ position, phase = .seen creation (some position) := by
  unfold WorkPhase.raced at raced
  split at raced
  on_goal 2 => cases raced
  rename_i _ position
  cases raced
  exact ⟨position, rfl⟩

/-- A transaction that comes to its event's INSERT has something to record. -/
def WorkPhase.Records : WorkPhase → Prop
  | .appending ending _ _ _ => ¬ending.Unrecorded
  | _ => True

namespace WorkStreams
variable {τ : Type} [DecidableEq τ] {digests : WorkDigests} {s : WorkStreams τ}

/-- Who was given a position has the head, and nobody has moved it since. -/
def Held (s : WorkStreams τ) : Prop := ∀ transaction stream position,
  (s.phase transaction).holding = some (stream, position) →
    s.headLocks stream = some transaction ∧ position = s.tables.headPosition stream + 1

def Replays (digests : WorkDigests) (s : WorkStreams τ) (transaction : τ) (creation : WorkCreation) (position : Int)
    (outcome : WorkTaskCreationOutcome) : Prop :=
  s.phase transaction = .seen creation (some position) ∧ s.taskLocks creation.key = none ∧
    ∃ row ∈ s.tables.tasks.find? creation.key, row.replay digests creation = .ok outcome

inductive Settles (digests : WorkDigests) (s : WorkStreams τ) (transaction : τ) (heard : Bool) : WorkEnd → WorkTables → Prop where
  | unchanged {ending : WorkEnd} : Settles digests s transaction heard ending s.tables
  | appended {ending : WorkEnd} {row : WorkTaskRow} {event : WorkEvent} {position : Int} {tables : WorkTables}
      (last : s.phase transaction = .appending ending row event position)
      (appended : s.tables.append row event position = some tables) :
      Settles digests s transaction heard (ending.told heard) tables
  | replayed {creation : WorkCreation} {position : Int} {outcome : WorkTaskCreationOutcome}
      (replays : s.Replays digests transaction creation position outcome) :
      Settles digests s transaction heard (WorkEnd.told (.answered outcome) heard)
        (s.tables.advance creation.key.stream position)

inductive Turn (digests : WorkDigests) (s : WorkStreams τ) (op : WorkOp τ) : WorkStreams τ → Prop where
  | stays : Turn digests s op s
  | moves {transaction : τ} {phase : WorkPhase} (taskLocks : TaskKey → Option τ)
      (same : phase.holding = (s.phase transaction).holding) (unfinished : phase.ending? = none) (records : phase.Records) :
      Turn digests s op { s.moveTo transaction phase with taskLocks }
  | allocates {transaction : τ} {stream : Stream} {phase : WorkPhase} (free : s.headLocks stream = none)
      (takes : phase.holding = some (stream, s.tables.headPosition stream + 1)) (unfinished : phase.ending? = none)
      (records : phase.Records) :
      Turn digests s op { s.moveTo transaction phase with
        headLocks := Function.update s.headLocks stream (some transaction) }
  | ends {transaction : τ} {heard : Bool} {ending : WorkEnd} {tables : WorkTables}
      (settles : s.Settles digests transaction heard ending tables)
      (its : op = .step transaction heard ∨ op = .fail transaction ∧ tables = s.tables) :
      Turn digests s op ({ s with tables }.finish transaction ending)

variable {transaction : τ} {heard : Bool}

variable {op : WorkOp τ}

theorem turn_allocate {stream : Stream} {phase : Int → WorkPhase}
    (takes : ∀ position, (phase position).holding = some (stream, position))
    (unfinished : ∀ position, (phase position).ending? = none) (records : ∀ position, (phase position).Records) :
    s.Turn digests op (s.allocate transaction stream phase) := by
  unfold allocate
  cases lock : s.headLocks stream with
  | some other => exact .stays
  | none => exact .allocates lock (takes _) (unfinished _) (records _)

theorem turn_finish {ending : WorkEnd} : s.Turn digests (.step transaction heard) (s.finish transaction ending) :=
  .ends .unchanged (.inl rfl)

variable {creation : WorkCreation}

theorem turn_replay {position : Option Int} (seen : s.phase transaction = .seen creation position) :
    s.Turn digests (.step transaction heard) (s.replay digests transaction creation position heard) := by
  unfold replay
  cases found : s.tables.tasks.find? creation.key with
  | none => exact turn_finish
  | some row =>
    cases lock : s.taskLocks creation.key with
    | some other => exact .stays
    | none =>
      cases replayed : row.replay digests creation with
      | error error => simpa only [replayed] using turn_finish
      | ok outcome =>
        simp only [replayed]
        cases position with
        | none => exact turn_finish
        | some position => exact .ends (.replayed ⟨seen, lock, row, found, replayed⟩) (.inl rfl)

theorem turn_begin {call : WorkCall} {now : Int} (begun : s.phase transaction = .begun call now) :
    s.Turn digests (.step transaction heard) (s.begin digests transaction call now heard) := by
  have free : (s.phase transaction).holding = none := by
    rw [begun]
    rfl
  unfold begin
  cases call with
  | createTask creation => exact turn_allocate (fun _ => rfl) (fun _ => rfl) fun _ => trivial
  | recordNodeTask creation =>
    simp only
    split
    next => exact .moves s.taskLocks free.symm rfl trivial
    next => exact turn_finish
    next => exact .moves s.taskLocks free.symm rfl trivial
  | command command effect =>
    simp only
    split
    · exact turn_finish
    split
    · exact .stays
    split
    next => exact turn_finish
    next => exact turn_finish
    next => exact .moves _ free.symm rfl trivial

theorem turn_insert {node : Bool} {position now : Int}
    (allocated : s.phase transaction = .allocated creation node position now) :
    s.Turn digests (.step transaction heard) (s.insert digests transaction creation node position now) := by
  have held : (s.phase transaction).holding = some (creation.key.stream, position) := by
    rw [allocated]
    rfl
  unfold insert
  cases found : s.tables.tasks.find? creation.key with
  | some row =>
    cases node with
    | true => exact .moves s.taskLocks held.symm rfl trivial
    | false => exact turn_finish
  | none =>
    cases lock : s.taskLocks creation.key with
    | some other => exact .stays
    | none => exact .moves _ held.symm rfl Bool.false_ne_true

theorem turn (digests : WorkDigests) (s : WorkStreams τ) (op : WorkOp τ) : s.Turn digests op (s.apply digests op) := by
  cases op with
  | start transaction call now =>
    simp only [apply]
    split
    next idle => exact .moves s.taskLocks (by rw [idle]; rfl) rfl trivial
    next => exact .stays
  | fail transaction =>
    simp only [apply]
    split
    next => exact .stays
    next => exact .stays
    next => exact .ends (.unchanged : s.Settles digests transaction true .failed s.tables) (.inr ⟨rfl, rfl⟩)
  | step transaction heard =>
    simp only [apply, step]
    cases phase : s.phase transaction with
    | idle | finished => exact .stays
    | begun call now => exact turn_begin phase
    | unseen creation now => exact turn_allocate (fun _ => rfl) (fun _ => rfl) fun _ => trivial
    | seen creation position => exact turn_replay phase
    | allocated creation node position now => exact turn_insert phase
    | lost creation position =>
      simp only
      split
      next => exact turn_finish
      next => exact turn_finish
      next => exact .moves s.taskLocks (by rw [phase]; rfl) rfl trivial
    | written row event => exact turn_allocate (fun _ => rfl) (fun _ => rfl) fun _ unrecorded => unrecorded rfl
    | appending ending row event position =>
      cases appended : s.tables.append row event position with
      | none => simpa only [appended] using turn_finish
      | some tables => simpa only [appended] using .ends (.appended phase appended) (.inl rfl)

omit [DecidableEq τ] in
theorem Settles.heads (held : s.Held) {ending : WorkEnd} {tables : WorkTables}
    (settles : s.Settles digests transaction heard ending tables) {stream : Stream}
    (elsewhere : s.headLocks stream ≠ some transaction) : tables.headPosition stream = s.tables.headPosition stream := by
  have apart {mine : Stream} {position : Int} (holds : (s.phase transaction).holding = some (mine, position)) : stream ≠ mine := by
    rintro rfl
    exact elsewhere (held transaction stream position holds).1
  cases settles with
  | unchanged => rfl
  | appended last appended =>
    rw [(WorkTables.append_some appended).2, if_neg]
    exact apart (by rw [last]; rfl)
  | replayed replays =>
    rw [WorkTables.headPosition_advance, if_neg]
    exact apart (by rw [replays.1]; rfl)

theorem holding_moved (s : WorkStreams τ) (transaction other : τ) (phase : WorkPhase) :
    (Function.update s.phase transaction phase other).holding =
      if other = transaction then phase.holding else (s.phase other).holding := by
  by_cases same : other = transaction
  · subst same
    rw [update_self, if_pos rfl]
  · rw [update_of_ne same, if_neg same]

theorem Held.turn (held : s.Held) {after : WorkStreams τ} (turn : s.Turn digests op after) : after.Held := by
  intro other stream position holds
  cases turn with
  | stays => exact held other stream position holds
  | @moves transaction phase taskLocks same =>
    change (Function.update s.phase transaction phase other).holding = _ at holds
    rw [holding_moved] at holds
    split at holds
    next mine =>
      subst mine
      exact held other stream position (same.symm.trans holds)
    next => exact held other stream position holds
  | @allocates transaction allocated phase free takes =>
    change (Function.update s.phase transaction phase other).holding = _ at holds
    rw [holding_moved] at holds
    split at holds
    next mine =>
      subst mine
      cases takes.symm.trans holds
      exact ⟨update_self .., rfl⟩
    next =>
      obtain ⟨locked, next⟩ := held other stream position holds
      have apart : stream ≠ allocated := by
        rintro rfl
        exact nomatch free.symm.trans locked
      exact ⟨(update_of_ne apart ..).trans locked, next⟩
  | @ends transaction heard ending tables settles its =>
    change (Function.update s.phase transaction (.finished ending) other).holding = _ at holds
    rw [holding_moved] at holds
    obtain ⟨apart, holds⟩ := else_of_ne holds nofun
    obtain ⟨locked, next⟩ := held other stream position holds
    have theirs : s.headLocks stream ≠ some transaction := by
      rw [locked]
      exact fun same => apart (some.inj same)
    refine ⟨?_, next.trans (congrArg (· + 1) (settles.heads held theirs).symm)⟩
    change (s.headLocks stream).filter (· ≠ transaction) = some other
    rw [locked]
    simp [apart]

def Unraced (digests : WorkDigests) (s : WorkStreams τ) : WorkOp τ → Prop
  | .step transaction _ => ∀ creation ∈ (s.phase transaction).raced, s.taskLocks creation.key = none →
    ∀ row ∈ s.tables.tasks.find? creation.key, (row.replay digests creation).toOption = none
  | .start _ _ _ | .fail _ => True

instance (digests : WorkDigests) (s : WorkStreams τ) : (op : WorkOp τ) → Decidable (s.Unraced digests op)
  | .step transaction _ => inferInstanceAs (Decidable (∀ creation ∈ (s.phase transaction).raced, _ → ∀ row ∈ _, _))
  | .start _ _ _ | .fail _ => isTrue trivial

omit [DecidableEq τ] in
theorem unraced_iff : s.Unraced digests (.step transaction heard) ↔
    ∀ creation position outcome, ¬s.Replays digests transaction creation position outcome := by
  constructor
  · rintro unraced creation position outcome ⟨seen, free, row, found, replayed⟩
    have refused := unraced creation (by rw [seen]; rfl) free row found
    rw [replayed] at refused
    cases refused
  · intro never creation raced free row found
    obtain ⟨position, seen⟩ := WorkPhase.seen_of_raced raced
    cases replayed : row.replay digests creation with
    | error => rfl
    | ok outcome => exact absurd ⟨seen, free, row, found, replayed⟩ (never creation position outcome)

theorem tables_of_replays {position : Int} {outcome : WorkTaskCreationOutcome}
    (replays : s.Replays digests transaction creation position outcome) :
    (s.apply digests (.step transaction heard)).tables = s.tables.advance creation.key.stream position := by
  obtain ⟨seen, free, row, found, replayed⟩ := replays
  rw [mem_def] at found
  simp only [apply, step, seen, replay, found, free, replayed]
  rfl

theorem Held.dense_iff (held : s.Held) (dense : s.tables.Dense) (op : WorkOp τ) :
    (s.apply digests op).tables.Dense ↔ s.Unraced digests op := by
  constructor
  · intro still
    cases op with
    | start | fail => trivial
    | step transaction heard =>
      refine unraced_iff.mpr fun creation position outcome replays => ?_
      have next := (held transaction creation.key.stream position (by rw [replays.1]; rfl)).2
      rw [tables_of_replays replays, next] at still
      exact dense.not_advance still
  · intro unraced
    have turn := s.turn digests op
    generalize s.apply digests op = after at turn ⊢
    cases turn with
    | stays | moves | allocates => exact dense
    | @ends transaction heard ending tables settles its =>
      cases settles with
      | unchanged => exact dense
      | @appended _ row event position _ last appended =>
        have next := (held transaction event.key.stream position (by rw [last]; rfl)).2
        exact dense.append next appended
      | @replayed creation position outcome replays =>
        rcases its with rfl | ⟨rfl, same⟩
        · exact absurd replays (unraced_iff.mp unraced creation position outcome)
        · rwa [same]

/-- Whatever ends without anything to record leaves the tables as they were. -/
def Unspent (entry : Entry (WorkStreams τ) (WorkOp τ)) : Prop := ∀ transaction ending,
  entry.before.phase transaction ≠ .finished ending → entry.after.phase transaction = .finished ending →
    ending.Unrecorded → entry.after.tables = entry.before.tables

/-- Every transaction that comes to its event's INSERT has something to record. -/
def Recording (s : WorkStreams τ) : Prop := ∀ transaction, (s.phase transaction).Records

theorem Recording.turn (recording : s.Recording) {after : WorkStreams τ} (turn : s.Turn digests op after) :
    after.Recording := by
  have moved {transaction : τ} {phase : WorkPhase} (records : phase.Records) (other : τ) :
      (Function.update s.phase transaction phase other).Records := by
    by_cases mine : other = transaction
    · subst mine
      rwa [update_self]
    · rw [update_of_ne mine]
      exact recording other
  cases turn with
  | stays => exact recording
  | moves _ _ _ records | allocates _ _ _ records => exact moved records
  | ends => exact moved trivial

theorem Recording.unspent (recording : s.Recording) (unraced : s.Unraced digests op) :
    Unspent ⟨s, op, s.apply digests op⟩ := by
  intro other ended ongoing finished unrecorded
  have turn := s.turn digests op
  generalize s.apply digests op = after at turn finished ⊢
  cases turn with
  | stays | moves | allocates => rfl
  | @ends transaction heard ending tables settles its =>
    rcases updated_cases finished with old | ⟨rfl, same⟩
    · exact absurd old ongoing
    cases same
    cases settles with
    | unchanged => rfl
    | @appended ending row event position _ last appended =>
      have records := recording other
      rw [last] at records
      cases heard with
      | true => exact absurd unrecorded records
      | false => exact unrecorded.elim
    | @replayed creation position outcome replays =>
      rcases its with rfl | ⟨_, same⟩
      · exact absurd replays (unraced_iff.mp unraced creation position outcome)
      · exact same

/-- The positions of every stream are those from 1 to its head, and who records nothing consumes
none, exactly as long as no creation that was given a position finds itself recorded. -/
theorem work_stream_is_dense {history : List (Entry (WorkStreams τ) (WorkOp τ))} (run : (workStreams digests τ).Run history s) :
    ((∀ seen ∈ (workStreams digests τ).visited history, seen.tables.Dense) ∧ ∀ entry ∈ history, Unspent entry) ↔
      ∀ entry ∈ history, entry.before.Unraced digests entry.op := by
  have initial : (workStreams digests τ).start.Held ∧ (workStreams digests τ).start.tables.Dense :=
    ⟨nofun, fun _ => ⟨0, rfl, rfl⟩⟩
  have held := run.visited_good Held initial.1 fun before op held => held.turn (before.turn digests op)
  have dense := run.visited_good_iff (fun seen => seen.Held ∧ seen.tables.Dense) (Unraced digests) initial
    fun before op ⟨held, dense⟩ => (and_iff_right (held.turn (before.turn digests op))).trans (held.dense_iff dense op)
  rw [← dense]
  constructor
  · exact fun both seen member => ⟨held seen member, both.1 seen member⟩
  intro all
  refine ⟨fun seen member => (all seen member).2, fun entry member => ?_⟩
  obtain ⟨recording, left⟩ := run.entry_good Recording (fun _ => trivial)
    (fun before op recording => recording.turn (before.turn digests op)) member
  have unspent := recording.unspent (dense.mp all entry member)
  obtain ⟨before, op, after⟩ := entry
  change after = before.apply digests op at left
  rwa [left]

end WorkStreams

def shippedTask : NewWorkTask where
  tenantId := "acme"
  repositoryId := "repo"
  taskId := "task:1"
  title := "Ship it"
  acceptance := "It ships."
  goalId := none
  declaredPaths := []
  declaredSymbols := []
  publishedBy := "node-a"

def shippedDigest : Bytes :=
  [198, 34, 192, 104, 77, 174, 226, 14, 134, 99, 89, 180, 73, 122, 166, 48, 174, 171, 45, 189, 95, 118, 39, 246, 156, 165, 93, 101, 91, 139, 152, 201]

def workDigests : WorkDigests where
  sha256 bytes := if bytes = shippedTask.sourceBytes then shippedDigest else []
  payloadDigest _ := []

def shippedCreation : WorkCreation := ⟨shippedTask, "event:1"⟩

def creating (transaction : Bool) : WorkOp Bool := .start transaction (.recordNodeTask shippedCreation) 0

def working (transaction : Bool) : WorkOp Bool := .step transaction true

theorem workStreams_replay (ops : List (WorkOp Bool)) : (workStreams workDigests Bool).Replays (ops.map fun op _ => op) := by
  refine Machine.replay_run ?_
  exact fun _ _ _ _ _ => trivial

def recreated : List (WorkOp Bool) :=
  List.replicate 2 (working false) ++ [creating false] ++ List.replicate 4 (working true) ++ [creating true]

theorem work_stream_is_dense_behind_a_retry :
    (∀ seen ∈ (workStreams workDigests Bool).visited ((workStreams workDigests Bool).replay (recreated.map fun op _ => op)).1,
      seen.tables.Dense) ∧
    ∀ entry ∈ ((workStreams workDigests Bool).replay (recreated.map fun op _ => op)).1, WorkStreams.Unspent entry :=
  (WorkStreams.work_stream_is_dense (workStreams_replay recreated)).mpr (by decide +kernel)

def recreatedAtOnce : List (WorkOp Bool) :=
  List.replicate 4 (working false) ++ List.replicate 3 (working true) ++ [working false, working true, creating false, creating true]

/-- The loser of a race of identical creations leaves a gap, and consumes a position for its replay. -/
theorem racing_creation_leaves_a_gap :
    ¬∀ history (s : WorkStreams Bool), (workStreams workDigests Bool).Run history s →
      (∀ seen ∈ (workStreams workDigests Bool).visited history, seen.tables.Dense) ∧
        ∀ entry ∈ history, WorkStreams.Unspent entry := by
  intro always
  have run := workStreams_replay recreatedAtOnce
  obtain ⟨n, head, positions⟩ := (always _ _ run).1 _ run.current_visited ⟨"acme", "repo"⟩
  have moved : ((workStreams workDigests Bool).replay (recreatedAtOnce.map fun op _ => op)).2.tables.headPosition
    ⟨"acme", "repo"⟩ = 2 := by decide +kernel
  have recorded : ((workStreams workDigests Bool).replay (recreatedAtOnce.map fun op _ => op)).2.tables.positions
    ⟨"acme", "repo"⟩ = [1] := by decide +kernel
  have two : n = 2 := by omega
  subst two
  exact absurd (recorded.symm.trans positions) (by decide)

end MindLeak.Ackplane
