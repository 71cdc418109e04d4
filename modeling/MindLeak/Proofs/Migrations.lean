import MindLeak.Ackplane.MigrationLock

/-! What a call on the ledger of the migrations does, once it goes through, and what the ledger says of the
scripts from then on. -/

namespace MindLeak.Ackplane
open MigrationDatabase MigrationLock Transaction List Option Table Interleaving

section
variable {held : List Lock} {ε α : Type}

theorem covers_table {update : MigrationDatabase → MigrationDatabase} (mine : .table ∈ held) : Covers look guards held update := by
  intro s view free
  cases view with
  | advisory => rfl
  | tableExists | row => exact absurd mine (free .table mem_cons_self)

theorem applyOnce_within {platform : Platform} {lockKey : MigrationKey} {migrationSql : String} :
    (applyOnce platform lockKey migrationSql).Within look guards held fun _ _ => True := by
  intro _ _ _
  refine ⟨covers_table mem_cons_self, fun s => ?_⟩
  cases s.look (.row lockKey.value) with
  | none => exact ⟨covers_table mem_cons_self, covers_table mem_cons_self, trivial⟩
  | some row =>
    obtain ⟨_, digest⟩ := row
    cases digest with
    | none => exact ⟨covers_table mem_cons_self, trivial⟩
    | some applied =>
      change (if applied = contentDigest platform migrationSql then .pure () else .fail _ : MigrationTransaction Unit).Within _ _ _ _
      split <;> trivial

theorem program_within (platform : Platform) (call : MigrationCall) :
    (call.program platform).Within look guards held fun _ _ => True := by
  cases call with
  | migrateLocked lockKey migrationSql reviewed =>
    have gate (marked : Bool) : (if sharedGateRefuses marked reviewed then .fail (.sharedDatabase lockKey)
        else applyOnce platform lockKey migrationSql : MigrationTransaction Unit).Within look guards held fun _ _ => True := by
      split
      · trivial
      · exact applyOnce_within
    intro s
    cases s.look .tableExists with
    | false => exact gate false
    | true => exact fun s => gate _
  | prepareLedger => exact fun s => ⟨covers_table mem_cons_self, trivial⟩
  | insertMarker =>
    intro s
    cases s.look .tableExists with
    | false => trivial
    | true => exact ⟨covers_table mem_cons_self, trivial⟩

end

variable {s after : MigrationDatabase} {lockKey : MigrationKey} {migrationSql : String}

section
variable {platform : Platform} {written : MigrationDatabase} {grows : MigrationDatabase → MigrationDatabase → Prop}
  {seen : MigrationDatabase → Prop}

inductive Migrates (platform : Platform) (s : MigrationDatabase) (lockKey : MigrationKey) (migrationSql : String) : MigrationDatabase → Prop
  | skipped (row : MigrationRow) (there : s.row? lockKey.value = some row)
      (same : row.contentDigest = some (contentDigest platform migrationSql)) : Migrates platform s lockKey migrationSql s.createLedger
  | adopted (row : MigrationRow) (there : s.row? lockKey.value = some row) (bare : row.contentDigest = none) :
      Migrates platform s lockKey migrationSql (s.createLedger.adoptDigest lockKey.value (contentDigest platform migrationSql))
  | applied (absent : s.row? lockKey.value = none) : Migrates platform s lockKey migrationSql
      ((s.createLedger.batchExecute lockKey.value migrationSql).insertRow ⟨lockKey.value, some (contentDigest platform migrationSql)⟩)

theorem applyOnce_runs (runs : (applyOnce platform lockKey migrationSql).Runs look s grows seen s after ()) :
    Migrates platform s lockKey migrationSql after := by
  have runs := Runs.store (Runs.lock (Runs.lock (Runs.lock runs)))
  have runs := Runs.lock runs
  cases there : s.look (.row lockKey.value) with
  | none =>
    rw [there] at runs
    obtain ⟨rfl, _⟩ := runs
    exact .applied there
  | some row =>
    obtain ⟨key, digest⟩ := row
    rw [there] at runs
    cases digest with
    | none =>
      obtain ⟨rfl, _⟩ := runs
      exact .adopted _ there rfl
    | some applied =>
      dsimp only at runs
      split at runs
      next same =>
        obtain ⟨rfl, _⟩ := runs
        exact .skipped _ there (congrArg some same)
      next => exact runs.elim

theorem migrateLocked_runs {reviewed : Bool} (runs : (migrateLocked platform lockKey migrationSql reviewed).Runs look s grows seen s after ()) :
    Migrates platform s lockKey migrationSql after := by
  obtain ⟨middle, marked, read, runs⟩ := Runs.bind runs
  have same : middle = s := by
    obtain ⟨earlier, _, read⟩ := Runs.read read
    cases exists_ : earlier.look .tableExists with
    | false =>
      rw [exists_] at read
      exact read.1
    | true =>
      rw [exists_] at read
      obtain ⟨_, _, read⟩ := Runs.read read
      exact read.1
  subst same
  obtain ⟨_, runs⟩ := runs.past
  exact applyOnce_runs runs

inductive Does (platform : Platform) (s : MigrationDatabase) : MigrationCall → MigrationDatabase → Prop
  | migrated {lockKey : MigrationKey} {migrationSql : String} {after : MigrationDatabase} (reviewed : Bool)
      (does : Migrates platform s lockKey migrationSql after) : Does platform s (.migrateLocked lockKey migrationSql reviewed) after
  | prepared : Does platform s .prepareLedger s.createLedger
  | marked (there : s.ledger.isSome) : Does platform s .insertMarker (s.insertRow ⟨SHARED_DATABASE_MARKER, none⟩)

theorem call_runs {call : MigrationCall} (runs : (call.program platform).Runs look s grows seen s after ()) : Does platform s call after := by
  cases call with
  | migrateLocked lockKey migrationSql reviewed => exact .migrated reviewed (migrateLocked_runs runs)
  | prepareLedger =>
    obtain ⟨rfl, _⟩ := Runs.store (Runs.lock runs)
    exact .prepared
  | insertMarker =>
    have runs := Runs.lock runs
    cases there : s.look .tableExists with
    | false =>
      rw [there] at runs
      exact runs.elim
    | true =>
      rw [there] at runs
      obtain ⟨rfl, _⟩ := runs
      exact .marked there

end

variable {legacy : List Int}

section
variable {platform : Platform}
variable {call : MigrationCall}

theorem row?_createLedger (key : Int) : s.createLedger.row? key = s.row? key := by
  unfold createLedger row?
  cases s.ledger <;> rfl

theorem row?_insertRow (there : s.ledger.isSome) (row : MigrationRow) (key : Int) :
    (s.insertRow row).row? key = if row.migrationKey = key then some ((s.row? key).getD row) else s.row? key := by
  obtain ⟨ledger, same⟩ := isSome_iff_exists.mp there
  unfold insertRow row?
  rw [same]
  exact find?_insertOrIgnore ledger row key

theorem row?_adoptDigest {row : MigrationRow} {digest : String} (found : s.row? lockKey.value = some row) (bare : row.contentDigest = none)
    (key : Int) : (s.adoptDigest lockKey.value digest).row? key =
      if lockKey.value = key then some { row with contentDigest := some digest } else s.row? key := by
  unfold row? adoptDigest at *
  cases same : s.ledger with
  | none =>
    rw [same] at found
    cases found
  | some ledger =>
    rw [same, bind_some] at found
    rw [map_some, bind_some, bind_some, find?_update]
    split
    next here =>
      rw [← here, found, map_some, if_pos (by simp [(mem_of_find? found).2.symm, Row.key, bare])]
    next apart =>
      cases there : ledger.find? key with
      | none => rfl
      | some other =>
        have its : other.migrationKey = key := (mem_of_find? there).2
        rw [map_some, if_neg (by simp [its, Ne.symm apart])]

theorem Migrates.row? (migrates : Migrates platform s lockKey migrationSql after) :
    ∃ row, row.contentDigest = some (contentDigest platform migrationSql) ∧
      (∀ old, s.row? lockKey.value = some old → old.contentDigest = none ∨ row = old) ∧
      ∀ key, after.row? key = if lockKey.value = key then some row else s.row? key := by
  cases migrates with
  | skipped row there same =>
    refine ⟨row, same, fun old found => .inr (Option.some.inj (there.symm.trans found)), fun key => ?_⟩
    rw [row?_createLedger]
    split
    next here => rw [← here, there]
    next => rfl
  | adopted row there bare =>
    have found : s.createLedger.row? lockKey.value = some row := (row?_createLedger _).trans there
    refine ⟨{ row with contentDigest := some (contentDigest platform migrationSql) }, rfl, fun old same => ?_, fun key => ?_⟩
    · cases there.symm.trans same
      exact .inl bare
    · rw [row?_adoptDigest found bare, row?_createLedger]
  | applied absent =>
    refine ⟨⟨lockKey.value, some (contentDigest platform migrationSql)⟩, rfl, fun old found => ?_, fun key => ?_⟩
    · cases absent.symm.trans found
    rw [row?_insertRow rfl]
    change (if lockKey.value = key then some ((s.createLedger.row? key).getD _) else s.createLedger.row? key) = _
    rw [row?_createLedger]
    split
    next here => rw [← here, absent, getD_none]
    next => rfl

structure Grows (s after : MigrationDatabase) : Prop where
  applied : s.applied <+: after.applied
  digests : ∀ key row digest, s.row? key = some row → row.contentDigest = some digest → after.row? key = some row
  marked : s.isMarked = true → after.isMarked = true

theorem Grows.refl (s : MigrationDatabase) : Grows s s := ⟨prefix_refl _, fun _ _ _ found _ => found, id⟩

theorem Grows.trans {first middle last : MigrationDatabase} (one : Grows first middle) (other : Grows middle last) : Grows first last where
  applied := one.applied.trans other.applied
  digests key row digest found labelled := other.digests key row digest (one.digests key row digest found labelled) labelled
  marked := other.marked ∘ one.marked

theorem Migrates.isMarked (migrates : Migrates platform s lockKey migrationSql after) : after.isMarked = s.isMarked := by
  obtain ⟨row, _, _, rows⟩ := migrates.row?
  unfold MigrationDatabase.isMarked
  rw [rows, if_neg lockKey.apart]

theorem Migrates.applied_prefix (migrates : Migrates platform s lockKey migrationSql after) : s.applied <+: after.applied := by
  cases migrates with
  | skipped | adopted => exact prefix_refl _
  | applied => exact prefix_append ..

theorem row?_insertMarker (there : s.ledger.isSome) (key : Int) :
    (s.insertRow ⟨SHARED_DATABASE_MARKER, none⟩).row? key =
      if SHARED_DATABASE_MARKER = key then some ((s.row? key).getD ⟨SHARED_DATABASE_MARKER, none⟩) else s.row? key :=
  row?_insertRow there _ key

theorem Does.marks (does : Does platform s .insertMarker after) : after.isMarked = true := by
  cases does with
  | marked there =>
    unfold MigrationDatabase.isMarked
    rw [row?_insertMarker there, if_pos rfl]
    rfl

theorem Does.grows (does : Does platform s call after) : Grows s after := by
  cases does with
  | @migrated lockKey _ _ _ does =>
    refine ⟨does.applied_prefix, fun key row digest found labelled => ?_, fun marked => does.isMarked.trans marked⟩
    obtain ⟨now, _, kept, rows⟩ := does.row?
    rw [rows]
    split
    next here =>
      rcases kept row (here ▸ found) with bare | same
      · cases bare.symm.trans labelled
      · rw [same]
    next => exact found
  | prepared =>
    refine ⟨prefix_refl _, fun key row _ found _ => (row?_createLedger key).trans found, fun marked => ?_⟩
    unfold MigrationDatabase.isMarked
    rw [row?_createLedger]
    exact marked
  | marked there =>
    refine ⟨prefix_refl _, fun key row _ found _ => ?_, fun _ => ?_⟩
    · rw [row?_insertMarker there]
      split
      next => rw [found, getD_some]
      next => exact found
    · exact (Does.marked there : Does platform s _ _).marks

/-- What the ledger says of the scripts. A key of `legacy` was recorded before digests were kept. -/
structure Kept (platform : Platform) (legacy : List Int) (s : MigrationDatabase) : Prop where
  once : (s.applied.map Prod.fst).Nodup
  recorded : ∀ done ∈ s.applied, (s.row? done.1).isSome
  digests : ∀ key row, s.row? key = some row → key ∉ legacy → key ≠ SHARED_DATABASE_MARKER →
    ∃ migrationSql, (key, migrationSql) ∈ s.applied ∧ row.contentDigest = some (contentDigest platform migrationSql)

theorem kept_empty : Kept platform [] .empty := ⟨.nil, fun _ member => (by cases member), fun _ _ found => by cases found⟩

theorem Migrates.applied_mem (migrates : Migrates platform s lockKey migrationSql after) {done : Int × String} (member : done ∈ after.applied) :
    done ∈ s.applied ∨ done = (lockKey.value, migrationSql) := by
  cases migrates with
  | skipped | adopted => exact .inl member
  | applied => exact (mem_append.mp member).imp_right mem_singleton.mp

theorem Does.applied_mem (does : Does platform s call after) {done : Int × String} (member : done ∈ after.applied) :
    done ∈ s.applied ∨ ∃ lockKey reviewed, call = .migrateLocked lockKey done.2 reviewed := by
  cases does with
  | prepared | marked => exact .inl member
  | @migrated lockKey _ _ reviewed migrates =>
    refine (migrates.applied_mem member).imp_right fun its => ?_
    subst its
    exact ⟨lockKey, reviewed, rfl⟩

section
variable (migrates : Migrates platform s lockKey migrationSql after)
include migrates

theorem Migrates.once (kept : Kept platform legacy s) :
    (after.applied.map Prod.fst).Nodup := by
  cases migrates with
  | skipped | adopted => exact kept.once
  | applied absent =>
    change ((s.applied ++ [(lockKey.value, migrationSql)]).map Prod.fst).Nodup
    rw [map_append, map_singleton, nodup_append]
    refine ⟨kept.once, nodup_singleton _, fun key earlier last member same => ?_⟩
    obtain ⟨done, there, rfl⟩ := mem_map.mp earlier
    have recorded := kept.recorded done there
    rw [same, mem_singleton.mp member, absent] at recorded
    cases recorded

theorem Migrates.digested (kept : Kept platform legacy s)
    (new : lockKey.value ∉ legacy) :
    ∃ earlier, (lockKey.value, earlier) ∈ after.applied ∧ contentDigest platform migrationSql = contentDigest platform earlier := by
  cases migrates with
  | skipped row there same =>
    obtain ⟨earlier, member, digest⟩ := kept.digests _ row there new lockKey.apart
    exact ⟨earlier, member, Option.some.inj (same.symm.trans digest)⟩
  | adopted row there bare =>
    obtain ⟨earlier, _, digest⟩ := kept.digests _ row there new lockKey.apart
    cases bare.symm.trans digest
  | applied absent => exact ⟨migrationSql, mem_append_right _ (mem_singleton_self _), rfl⟩

theorem Migrates.kept (kept : Kept platform legacy s) :
    Kept platform legacy after := by
  obtain ⟨now, labelled, _, rows⟩ := migrates.row?
  refine ⟨migrates.once kept, fun script member => ?_, fun key row found new apart => ?_⟩
  · rw [rows]
    split
    · rfl
    rename_i other
    rcases migrates.applied_mem member with earlier | rfl
    · exact kept.recorded script earlier
    · exact absurd rfl other
  · rw [rows] at found
    split at found
    next here =>
      cases found
      subst here
      obtain ⟨earlier, member, digest⟩ := migrates.digested kept new
      exact ⟨earlier, member, labelled.trans (congrArg some digest)⟩
    next =>
      obtain ⟨earlier, member, digest⟩ := kept.digests key row found new apart
      exact ⟨earlier, migrates.applied_prefix.subset member, digest⟩

end

theorem Does.kept (does : Does platform s call after) (kept : Kept platform legacy s) :
    Kept platform legacy after := by
  cases does with
  | migrated _ migrates => exact migrates.kept kept
  | prepared =>
    exact ⟨kept.once, fun done member => by rw [row?_createLedger]; exact kept.recorded done member,
      fun key row found => kept.digests key row ((row?_createLedger key).symm.trans found)⟩
  | marked there =>
    refine ⟨kept.once, fun done member => ?_, fun key row found old apart => ?_⟩
    · rw [row?_insertMarker there]
      split
      next => rfl
      next => exact kept.recorded done member
    · rw [row?_insertMarker there, if_neg (Ne.symm apart)] at found
      exact kept.digests key row found old apart

end

/-! Migrations of one database, in any order of the statements of all calls: each takes effect once, under
the content that its key is recorded with, and none unreviewed once the database is marked, where no
designation comes between the check of an unreviewed one and its end. -/

abbrev MigrationStep (τ : Type) : Type := Entry (MigrationState τ) (TransactionOp τ MigrationCall)

section
variable {platform : Platform} {τ : Type} [DecidableEq τ] {start : MigrationDatabase}
  {history : List (MigrationStep τ)} {state : MigrationState τ}

inductive Checking (platform : Platform) (lockKey : MigrationKey) (migrationSql : String) : MigrationTransaction Unit → Prop
  | started : Checking platform lockKey migrationSql (migrateLocked platform lockKey migrationSql false)
  | marker : Checking platform lockKey migrationSql
      ((select (.row SHARED_DATABASE_MARKER)).bind fun marked =>
        if sharedGateRefuses marked.isSome false then .fail (.sharedDatabase lockKey) else applyOnce platform lockKey migrationSql)
  | refused (error : MigrationError) : Checking platform lockKey migrationSql (.fail error)

/-- The designation is not committed while an unreviewed migration is behind its shared check. -/
def Undisturbed (platform : Platform) (s : MigrationState τ) (op : TransactionOp τ MigrationCall) : Prop :=
  s.Committing op .insertMarker () → ∀ transaction lockKey migrationSql pending rest,
    s.standing transaction = .running (.migrateLocked lockKey migrationSql false) pending rest → Checking platform lockKey migrationSql rest

/-- An unreviewed migration is behind the check on an unmarked database only. -/
def Gated (platform : Platform) (s : MigrationState τ) : Prop :=
  ∀ transaction lockKey migrationSql pending rest,
    s.standing transaction = .running (.migrateLocked lockKey migrationSql false) pending rest →
      Checking platform lockKey migrationSql rest ∨ s.store.isMarked = false

theorem checking_answered : ¬Checking platform lockKey migrationSql (.pure ()) := by
  intro checking
  cases checking

theorem checking_write {update : MigrationDatabase → MigrationDatabase} {rest : MigrationTransaction Unit} :
    ¬Checking platform lockKey migrationSql (.write update rest) := by
  intro checking
  cases checking

theorem Checking.read {s : MigrationDatabase} {key : View} {takes : key.Value → Bool}
    {next : key.Value → MigrationTransaction Unit}
    (checking : Checking platform lockKey migrationSql (.ask key takes next)) :
    Checking platform lockKey migrationSql (next (s.look key)) ∨ s.isMarked = false := by
  generalize asked : Transaction.ask key takes next = whole at checking
  cases checking with
  | refused => cases asked
  | started =>
    cases asked
    cases exists_ : s.look .tableExists with
    | false =>
      right
      have bare : s.ledger = none := not_isSome_iff_eq_none.mp (Bool.eq_false_iff.mp exists_)
      unfold isMarked row?
      rw [bare]
      rfl
    | true => exact .inl .marker
  | marker =>
    cases asked
    cases marked : s.row? SHARED_DATABASE_MARKER with
    | none =>
      right
      unfold isMarked
      rw [marked]
      rfl
    | some row =>
      left
      change Checking _ _ _ (if sharedGateRefuses (s.row? SHARED_DATABASE_MARKER).isSome false then _ else _)
      rw [marked]
      exact .refused _

theorem Does.unmarked {s after : MigrationDatabase} {call : MigrationCall} (does : Does platform s call after) (other : call ≠ .insertMarker) :
    after.isMarked = s.isMarked := by
  cases does with
  | migrated _ migrates => exact migrates.isMarked
  | prepared =>
    unfold isMarked
    rw [row?_createLedger]
  | marked => exact absurd rfl other

theorem commit_does {before after : MigrationDatabase} {call : MigrationCall} {grows : MigrationDatabase → MigrationDatabase → Prop}
    {seen : MigrationDatabase → Prop}
    (commits : Interleaving.Commits look grows (MigrationCall.program platform) seen before after call ()) : Does platform before call after :=
  call_runs commits

section
variable (run : (migrations platform τ start).Run history state)
include run

theorem Gated.apply (gated : Gated platform state)
    (op : TransactionOp τ MigrationCall) (undisturbed : Undisturbed platform state op) :
    Gated platform ((migrations platform τ start).apply state op) := by
  intro transaction lockKey migrationSql pending rest now
  rcases apply_running state op now with stays | ⟨same, moved⟩
  · obtain ⟨silent, commits⟩ := run_entry (run.step op trivial) (program_within platform) mem_cons_self
    rcases gated transaction lockKey migrationSql pending rest stays with checking | unmarked
    · exact .inl checking
    by_cases committing : ∃ call, state.Committing op call ()
    · obtain ⟨call, committing⟩ := committing
      by_cases marks : call = .insertMarker
      · subst marks
        exact .inl (undisturbed committing transaction lockKey migrationSql pending rest stays)
      · exact .inr (((commit_does (commits call () committing)).unmarked marks).trans unmarked)
    · have same := silent fun call _ its => committing ⟨call, its⟩
      exact .inr ((congrArg isMarked same).trans unmarked)
  · have unmarked (before : state.store.isMarked = false) : ((migrations platform τ start).apply state op).store.isMarked = false :=
      (congrArg isMarked same).trans before
    rcases moved with rfl | ⟨key, takes, next, asking, rfl⟩ | ⟨update, earlier, writing⟩
    · exact .inl .started
    · rcases gated transaction lockKey migrationSql pending _ asking with checking | before
      · exact checking.read.imp_right unmarked
      · exact .inr (unmarked before)
    · rcases gated transaction lockKey migrationSql earlier _ writing with checking | before
      · exact absurd checking checking_write
      · exact .inr (unmarked before)

theorem run_gated
    (undisturbed : ∀ entry ∈ history, Undisturbed platform entry.before entry.op) :
    Gated platform state ∧ ∀ entry ∈ history, Gated platform entry.before := by
  induction run with
  | start =>
    refine ⟨fun _ _ _ _ _ running => ?_, fun _ member => by cases member⟩
    cases running
  | step past op ready ih =>
    rw [forall_mem_cons] at undisturbed
    obtain ⟨gated, earlier⟩ := ih undisturbed.2
    exact ⟨gated.apply past op undisturbed.1, forall_mem_cons.mpr ⟨gated, earlier⟩⟩

theorem commit_reviewed
    (undisturbed : ∀ entry ∈ history, Undisturbed platform entry.before entry.op) {entry : MigrationStep τ} (member : entry ∈ history)
    (marked : entry.before.store.isMarked = true) (lockKey : MigrationKey) (migrationSql : String) :
    ¬entry.before.Committing entry.op (.migrateLocked lockKey migrationSql false) () := by
  rintro ⟨transaction, heard, pending, _, last⟩
  rcases (run_gated run undisturbed).2 entry member transaction lockKey migrationSql pending _ last with checking | unmarked
  · exact checking_answered checking
  · cases marked.symm.trans unmarked

end

end

section
variable {platform : Platform} {τ : Type} [DecidableEq τ] {start : MigrationDatabase}
  {history : List (MigrationStep τ)} {state : MigrationState τ}
variable {entry : MigrationStep τ} {reviewed : Bool}

/-- A script of the database at the start, or of a call of the run that went through. -/
def Presented (start : MigrationDatabase) (history : List (MigrationStep τ)) (migrationSql : String) : Prop :=
  migrationSql ∈ start.applied.map Prod.snd ∨
    ∃ entry ∈ history, ∃ lockKey reviewed, entry.before.Committing entry.op (.migrateLocked lockKey migrationSql reviewed) ()

def ScriptsApart (platform : Platform) (start : MigrationDatabase) (history : List (MigrationStep τ)) : Prop :=
  ∀ one other, Presented start history one → Presented start history other →
    contentDigest platform one = contentDigest platform other → one = other

omit [DecidableEq τ] in
theorem Presented.later {latest : MigrationStep τ} (presented : Presented start history migrationSql) :
    Presented start (latest :: history) migrationSql := by
  refine presented.imp_right ?_
  rintro ⟨entry, member, committing⟩
  exact ⟨entry, mem_cons_of_mem _ member, committing⟩

section
variable (run : (migrations platform τ start).Run history state)
include run

theorem applied_presented :
    ∀ done ∈ state.store.applied, Presented start history done.2 := by
  refine run_commits run (program_within platform)
    (fun history store => ∀ done ∈ store.applied, Presented start history done.2) ?_ ?_ ?_
  · exact fun done member => .inl (mem_map_of_mem member)
  · intro history entry holds same done member
    rw [same] at member
    exact (holds done member).later
  · intro history entry call answer holds committing commits done member
    rcases (commit_does commits).applied_mem member with earlier | ⟨lockKey, reviewed, rfl⟩
    · exact (holds done earlier).later
    · exact .inr ⟨entry, mem_cons_self, lockKey, reviewed, committing⟩

theorem run_kept (kept : Kept platform legacy start) :
    (Kept platform legacy state.store ∧ ∀ seen ∈ (migrations platform τ start).visited history,
        Kept platform legacy seen.store ∧ Grows seen.store state.store) ∧
      ∀ entry ∈ history, Kept platform legacy entry.before.store ∧ Grows entry.before.store state.store := by
  obtain ⟨visited, entries⟩ := run_steps run (program_within platform) (Kept platform legacy) Grows
    Grows.refl Grows.trans kept fun entry _ call answer before _ commits =>
      ⟨(commit_does commits).kept before, (commit_does commits).grows⟩
  refine ⟨visited, fun entry member => ⟨(entries entry member).1, ?_⟩⟩
  exact (entries entry member).2.1.trans (visited.2 entry.after (mem_append_left _ (mem_map_of_mem member))).2

theorem run_grows :
    history.Pairwise fun later earlier => Grows earlier.after.store later.before.store :=
  run_pairwise run (program_within platform) (fun _ => True) Grows Grows.refl Grows.trans trivial
    fun _ _ _ _ _ _ commits => ⟨trivial, (commit_does commits).grows⟩

theorem commit_applied (kept : Kept platform legacy start)
    (apart : ScriptsApart platform start history) (member : entry ∈ history)
    (committing : entry.before.Committing entry.op (.migrateLocked lockKey migrationSql reviewed) ())
    (new : lockKey.value ∉ legacy) : (lockKey.value, migrationSql) ∈ state.store.applied := by
  obtain ⟨⟨_, visited⟩, before⟩ := run_kept run kept
  cases commit_does ((run_entry run (program_within platform) member).2 _ _ committing) with
  | migrated _ migrates =>
    obtain ⟨earlier, effected, digest⟩ := migrates.digested (before entry member).1 new
    have there := (visited entry.after (mem_append_left _ (mem_map_of_mem member))).2.applied.subset effected
    have same := apart migrationSql earlier (.inr ⟨entry, member, lockKey, reviewed, committing⟩) (applied_presented run _ there) digest
    rwa [same]

theorem commit_digest (member : entry ∈ history)
    (committing : entry.before.Committing entry.op (.migrateLocked lockKey migrationSql reviewed) ()) {row : MigrationRow}
    {digest : String} (found : entry.before.store.row? lockKey.value = some row)
    (recorded : row.contentDigest = some digest) :
    digest = contentDigest platform migrationSql := by
  cases commit_does ((run_entry run (program_within platform) member).2 _ _ committing) with
  | migrated _ migrates =>
    obtain ⟨now, labelled, earlier, _⟩ := migrates.row?
    rcases earlier row found with bare | rfl
    · cases bare.symm.trans recorded
    · exact Option.some.inj (recorded.symm.trans labelled)

theorem commit_script (kept : Kept platform legacy start)
    (apart : ScriptsApart platform start history) (member : entry ∈ history) {earlier : String}
    (committing : entry.before.Committing entry.op (.migrateLocked lockKey migrationSql reviewed) ())
    (new : lockKey.value ∉ legacy) (there : (lockKey.value, earlier) ∈ entry.before.store.applied) : earlier = migrationSql := by
  obtain ⟨⟨final, _⟩, before⟩ := run_kept run kept
  have now := commit_applied run kept apart member committing new
  have same := inj_on_of_nodup_map final.once ((before entry member).2.applied.subset there) now rfl
  cases same
  rfl

end

def committed? (entry : MigrationStep τ) : Option MigrationCall :=
  match entry.op with
  | .step transaction _ =>
    match entry.before.standing transaction with
    | .running call _ (.pure _) => some call
    | _ => none
  | _ => none

omit [DecidableEq τ] in
theorem committed?_eq_some_iff {call : MigrationCall} :
    committed? entry = some call ↔ entry.before.Committing entry.op call () := by
  constructor
  · intro committed
    unfold committed? at committed
    split at committed
    on_goal 2 => cases committed
    rename_i transaction heard its
    split at committed
    on_goal 2 => cases committed
    rename_i called pending answer standing
    cases committed
    exact ⟨transaction, heard, pending, its, standing⟩
  · rintro ⟨transaction, heard, pending, its, standing⟩
    unfold committed?
    rw [its]
    dsimp only
    rw [standing]

structure OnceReviewed (platform : Platform) (legacy : List Int) (start : MigrationDatabase) (history : List (MigrationStep τ))
    (state : MigrationState τ) : Prop where
  once : ∀ seen ∈ (migrations platform τ start).visited history, (seen.store.applied.map Prod.fst).Nodup ∧ Grows seen.store state.store
  succeeded : ∀ transaction lockKey migrationSql reviewed,
    state.standing transaction = .finished (.migrateLocked lockKey migrationSql reviewed) (.answered (.ok ())) →
      lockKey.value ∉ legacy → (lockKey.value, migrationSql) ∈ state.store.applied
  refused : ∀ entry ∈ history, (∀ call, ¬entry.before.Committing entry.op call ()) → entry.after.store = entry.before.store
  recorded : ∀ entry ∈ history, ∀ lockKey migrationSql reviewed,
    entry.before.Committing entry.op (.migrateLocked lockKey migrationSql reviewed) () →
      (∀ row digest, entry.before.store.row? lockKey.value = some row → row.contentDigest = some digest →
        digest = contentDigest platform migrationSql) ∧
      ∀ earlier, lockKey.value ∉ legacy → (lockKey.value, earlier) ∈ entry.before.store.applied → earlier = migrationSql
  reviewed : ∀ entry ∈ history, entry.before.store.isMarked = true → ∀ lockKey migrationSql,
    ¬entry.before.Committing entry.op (.migrateLocked lockKey migrationSql false) ()
  designated : history.Pairwise fun later earlier =>
    earlier.before.Committing earlier.op .insertMarker () → later.before.store.isMarked = true

end

section

/-- No unreviewed migration is under way when the step designates the database. -/
def isUndisturbed (entry : MigrationStep (Fin 4)) : Bool :=
  committed? entry ≠ some .insertMarker || (List.finRange 4).all fun transaction =>
    match entry.before.standing transaction with
    | .running (.migrateLocked _ _ false) _ _ => false
    | _ => true

theorem undisturbed_of {platform : Platform} {entry : MigrationStep (Fin 4)} (quiet : isUndisturbed entry = true) :
    Undisturbed platform entry.before entry.op := by
  intro committing transaction lockKey migrationSql pending rest running
  unfold isUndisturbed at quiet
  rw [committed?_eq_some_iff.mpr committing] at quiet
  have none := all_eq_true.mp quiet transaction (mem_finRange transaction)
  rw [running] at none
  cases none

def callOps (transaction : Fin 4) (call : MigrationCall) (statements : Nat) :
    List (MigrationState (Fin 4) → TransactionOp (Fin 4) MigrationCall) :=
  List.replicate (statements + 1) (fun _ => TransactionOp.step transaction true) ++ [fun _ => TransactionOp.start transaction call]

def ledgerKey : MigrationKey := ⟨1, by decide⟩
def enrollmentKey : MigrationKey := ⟨3, by decide⟩

def ledgerMigration : MigrationCall := .migrateLocked ledgerKey "CREATE TABLE ledger ()" false
def enrollmentMigration : MigrationCall := .migrateLocked enrollmentKey "CREATE TABLE enrollment ()" true

theorem migrations_once_reviewed {platform : Platform} {τ : Type} [DecidableEq τ] {start : MigrationDatabase} {legacy : List Int}
    {history : List (MigrationStep τ)} {state : MigrationState τ} (run : (migrations platform τ start).Run history state)
    (kept : Kept platform legacy start) (apart : ScriptsApart platform start history)
    (undisturbed : ∀ entry ∈ history, Undisturbed platform entry.before entry.op) :
    OnceReviewed platform legacy start history state where
  once seen member :=
    have visited := (run_kept run kept).1.2 seen member
    ⟨visited.1.once, visited.2⟩
  succeeded transaction lockKey migrationSql reviewed answered new := by
    obtain ⟨entry, member, committing⟩ := Interleaving.run_answered run (program_within platform) answered
    exact commit_applied run kept apart member committing new
  refused entry member silent := (Interleaving.run_entry run (program_within platform) member).1 fun call _ => silent call
  recorded entry member lockKey migrationSql reviewed committing :=
    ⟨fun row digest => commit_digest run member committing, fun earlier => commit_script run kept apart member committing⟩
  reviewed entry member marked := commit_reviewed run undisturbed member marked
  designated := by
    refine (run_grows run).imp_of_mem fun {later earlier} _ before grown committing => grown.marked ?_
    exact (commit_does ((Interleaving.run_entry run (program_within platform) before).2 _ _ committing)).marks

def designated : List (MigrationState (Fin 4) → TransactionOp (Fin 4) MigrationCall) :=
  callOps 3 enrollmentMigration 9 ++ callOps 2 .insertMarker 2 ++ callOps 1 .prepareLedger 2 ++ callOps 0 ledgerMigration 8

theorem designated_reads : (∀ entry ∈ ((migrations wire.toPlatform (Fin 4) .empty).replay designated).1, isUndisturbed entry ∧
      committed? entry ∈ [none, some ledgerMigration, some .prepareLedger, some .insertMarker, some enrollmentMigration]) ∧
    ∀ one ∈ ["CREATE TABLE ledger ()", "CREATE TABLE enrollment ()"],
      ∀ other ∈ ["CREATE TABLE ledger ()", "CREATE TABLE enrollment ()"],
        contentDigest wire.toPlatform one = contentDigest wire.toPlatform other → one = other := by
  decide +kernel

theorem designated_apart : ScriptsApart wire.toPlatform .empty ((migrations wire.toPlatform (Fin 4) .empty).replay designated).1 := by
  have scripts (migrationSql : String)
      (presented : Presented .empty ((migrations wire.toPlatform (Fin 4) .empty).replay designated).1 migrationSql) :
      migrationSql ∈ ["CREATE TABLE ledger ()", "CREATE TABLE enrollment ()"] := by
    rcases presented with before | ⟨entry, member, lockKey, reviewed, committing⟩
    · cases before
    have its := (designated_reads.1 entry member).2
    rw [committed?_eq_some_iff.mpr committing] at its
    simp only [ledgerMigration, enrollmentMigration, mem_cons, Option.some.injEq, MigrationCall.migrateLocked.injEq, reduceCtorEq,
      not_mem_nil, or_false, false_or] at its
    rcases its with ⟨_, rfl, _⟩ | ⟨_, rfl, _⟩ <;> simp
  exact fun one other first second => designated_reads.2 one (scripts one first) other (scripts other second)

theorem designated_once_reviewed : OnceReviewed wire.toPlatform [] .empty
    ((migrations wire.toPlatform (Fin 4) .empty).replay designated).1 ((migrations wire.toPlatform (Fin 4) .empty).replay designated).2 := by
  refine migrations_once_reviewed (Machine.replay_run fun _ _ _ _ _ => trivial) kept_empty designated_apart fun entry member =>
    undisturbed_of (designated_reads.1 entry member).1

/-- The database is designated between the check of an unreviewed migration and its transaction. -/
def overtaken : List (MigrationState (Fin 4) → TransactionOp (Fin 4) MigrationCall) :=
  List.replicate 7 (fun _ => TransactionOp.step 0 true) ++ callOps 2 .insertMarker 2 ++ callOps 1 .prepareLedger 2 ++
    [fun _ => TransactionOp.step 0 true, fun _ => TransactionOp.start 0 ledgerMigration]

/-- The migration is committed all the same. -/
theorem unreviewed_counterexample : ∃ history state, (migrations wire.toPlatform (Fin 4) .empty).Run history state ∧
    (∃ entry ∈ history, entry.before.store.isMarked = true ∧ entry.before.Committing entry.op ledgerMigration ()) ∧
    ¬OnceReviewed wire.toPlatform [] .empty history state := by
  obtain ⟨marked, commits⟩ : let state := ((migrations wire.toPlatform (Fin 4) .empty).replay overtaken).2
      state.store.isMarked = true ∧ committed? ⟨state, .step 0 true, state⟩ = some ledgerMigration := by decide +kernel
  obtain ⟨entry, member, before, op⟩ :=
    (migrations wire.toPlatform (Fin 4) .empty).replay_at (fun _ => .step 0 true) [] overtaken
  have committing : entry.before.Committing entry.op ledgerMigration () := by
    rw [before, op]
    exact committed?_eq_some_iff.mp commits
  rw [← before] at marked
  refine ⟨_, _, Machine.replay_run fun _ _ _ _ _ => trivial, ⟨entry, member, marked, committing⟩, fun wanted => ?_⟩
  exact wanted.reviewed entry member marked ledgerKey _ committing

end

end MindLeak.Ackplane
