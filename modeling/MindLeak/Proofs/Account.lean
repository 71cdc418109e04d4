import MindLeak.Library.Clock
import MindLeak.Lodestar.Local

/-! One task's unleased time: how long it was claimed on a lease that had run
out, as time passed, and what its log adds up to. Each recorded write of the row
keeps the two in balance. -/

namespace MindLeak.Lodestar

open Option Prod

/-- How much of an interval the row, standing still, was claimed past its lease. -/
def Task.lapsedBetween (task : Task) (since moment : Int) : Int :=
  match task.status, task.leaseExpiresAt with
  | .claimed, some lease => beyond lease since moment
  | _, _ => 0

def TaskEventKind.grantsLease : TaskEventKind → Bool
  | .claimed | .leaseRenewed | .answered | .resumed | .claimRecovered => true
  | _ => false

def lastGrant (events : List TaskEvent) : Option Int :=
  ((events.filter fun event => event.kind.grantsLease).getLast?).map TaskEvent.recordedAt

theorem lastGrant_append (events : List TaskEvent) (event : TaskEvent) :
    lastGrant (events ++ [event]) = if event.kind.grantsLease then some event.recordedAt else lastGrant events := by
  unfold lastGrant
  cases grants : event.kind.grantsLease <;> simp [grants]

namespace Task
variable {task : Task} {since middle moment : Int}

theorem lapsedBetween_add (first : since ≤ middle) (last : middle ≤ moment) :
    task.lapsedBetween since middle + task.lapsedBetween middle moment = task.lapsedBetween since moment := by
  unfold lapsedBetween
  split
  · exact beyond_add first last
  · rfl

@[simp] theorem lapsedBetween_self : task.lapsedBetween since since = 0 := by
  unfold lapsedBetween
  split
  · exact beyond_self
  · rfl

theorem lapsedBetween_unclaimed (idle : task.status ≠ .claimed) : task.lapsedBetween since moment = 0 := by
  unfold lapsedBetween
  split
  next claimed _ => exact absurd claimed idle
  next => rfl

theorem lapsedBetween_claimed {lease : Int} (claimed : task.status = .claimed) (until_ : task.leaseExpiresAt = some lease) :
    task.lapsedBetween since moment = beyond lease since moment := by
  simp [lapsedBetween, claimed, until_]

theorem lapsedBetween_live (running : live moment task = true) : task.lapsedBetween since moment = 0 := by
  unfold lapsedBetween
  split
  next lease _ until_ =>
    simp only [live, until_, any_some, decide_eq_true_eq] at running
    exact beyond_eq_zero (.inl running)
  next => rfl

end Task

namespace WindowScan
variable {scan : WindowScan} {event : TaskEvent}

@[simp] theorem step_window : (scan.step event).window = some event.after.windowKey := rfl

@[simp] theorem step_previousLease : (scan.step event).previousLease = event.after.leaseExpiresAt := rfl

theorem step_fresh (native : event.kind ≠ .imported) (other : scan.window ≠ some event.after.windowKey) :
    (scan.step event).lapses = 0 ∧ (scan.step event).unleased = 0 := by
  simp [step, native, other]

theorem step_same (native : event.kind ≠ .imported) (same : scan.window = some event.after.windowKey)
    (silent : event.kind ≠ .claimed) :
    (scan.step event).lapses = scan.lapses ∧ (scan.step event).unleased = scan.unleased := by
  simp [step, native, same, silent]

theorem step_reclaimed (claimed : event.kind = .claimed) (same : scan.window = some event.after.windowKey) :
    (scan.step event).lapses = (scan.countLapse event.recordedAt).lapses ∧
      (scan.step event).unleased = (scan.countLapse event.recordedAt).unleased := by
  simp [step, claimed, same]

theorem countLapse_none (unleased : scan.previousLease = none) (now : Int) : scan.countLapse now = scan := by
  simp [countLapse, unleased]

theorem countLapse_running {lease now : Int} (until_ : scan.previousLease = some lease) (running : now ≤ lease) :
    scan.countLapse now = scan := by
  have current : ¬ lease < now := by omega
  simp [countLapse, until_, current]

theorem countLapse_lapsed {lease now : Int} (until_ : scan.previousLease = some lease) (ran_out : lease < now) :
    (scan.countLapse now).lapses = scan.lapses + 1 ∧ (scan.countLapse now).unleased = scan.unleased + (now - lease) := by
  simp [countLapse, until_, ran_out]

structure Sound (scan : WindowScan) : Prop where
  lapses : 0 ≤ scan.lapses
  counted : scan.unleased ≠ 0 → 1 ≤ scan.lapses
  unowned : scan.window = some (none, none) → scan.unleased = 0

theorem Sound.step (sound : scan.Sound) (native : event.kind ≠ .imported)
    (owned : event.kind = .claimed → event.after.owner ≠ none) : (scan.step event).Sound := by
  by_cases same : scan.window = some event.after.windowKey
  · by_cases claimed : event.kind = .claimed
    · obtain ⟨lapses, unleased⟩ := step_reclaimed claimed same
      have away : (scan.step event).window ≠ some (none, none) := by
        intro unowned
        exact owned claimed (congrArg fst (Option.some.inj unowned))
      cases lease : scan.previousLease with
      | none =>
        rw [countLapse_none lease] at lapses unleased
        exact ⟨lapses ▸ sound.lapses, lapses ▸ unleased ▸ sound.counted, fun unowned => absurd unowned away⟩
      | some lease' =>
        by_cases ran_out : lease' < event.recordedAt
        · obtain ⟨more, _⟩ := countLapse_lapsed lease ran_out
          have before := sound.lapses
          exact ⟨by omega, fun _ => by omega, fun unowned => absurd unowned away⟩
        · rw [countLapse_running lease (by omega)] at lapses unleased
          exact ⟨lapses ▸ sound.lapses, lapses ▸ unleased ▸ sound.counted, fun unowned => absurd unowned away⟩
    · obtain ⟨lapses, unleased⟩ := step_same native same claimed
      refine ⟨lapses ▸ sound.lapses, lapses ▸ unleased ▸ sound.counted, fun unowned => ?_⟩
      rw [unleased]
      exact sound.unowned (same.trans unowned)
  · obtain ⟨lapses, unleased⟩ := step_fresh native same
    exact ⟨by omega, fun some => absurd unleased some, fun _ => unleased⟩

end WindowScan

def TaskStatus.isHeld : TaskStatus → Bool
  | .claimed | .needsInput | .paused => true
  | _ => false

def scanned (events : List TaskEvent) : WindowScan := events.foldl WindowScan.step {}

theorem scanned_append (events : List TaskEvent) (event : TaskEvent) :
    scanned (events ++ [event]) = (scanned events).step event := by
  simp [scanned, List.foldl_append]

/-- What a recorded write does to a row's claim, given when its lease was last
written. The writes that end or renew a lease say what became of the time past it. -/
inductive ClaimWrite (granted : Option Int) (now : Int) (row row' : Task) (kind : TaskEventKind) : Prop
  | noted (status : row'.status = row.status) (key : row'.windowKey = row.windowKey)
      (lease : row'.leaseExpiresAt = row.leaseExpiresAt) (silent : kind ≠ .claimed) (grantless : kind.grantsLease = false)
  | freed (status : row'.status.isHeld = false) (key : row'.windowKey = (none, none))
      (lease : row'.leaseExpiresAt = none) (silent : kind ≠ .claimed)
  | parked (held : row.status = .claimed) (status : row'.status ≠ .claimed) (key : row'.windowKey = row.windowKey)
      (lease : row'.leaseExpiresAt = none) (silent : kind ≠ .claimed)
      (paid : row.lapsedBetween (granted.getD now) now = 0)
  | leased (held : row.status.isHeld = true) (status : row'.status = .claimed) (key : row'.windowKey = row.windowKey)
      (silent : kind ≠ .claimed) (grants : kind.grantsLease = true) (paid : row.lapsedBetween (granted.getD now) now = 0)
  | reclaimed (held : row.status = .claimed) (status : row'.status = .claimed) (key : row'.windowKey = row.windowKey)
      (claimed : kind = .claimed)
      (exact_ : ∀ lease, row.leaseExpiresAt = some lease → lease < now → ∀ grant ∈ granted, grant ≤ lease)
  | taken (status : row'.status = .claimed) (owned : row'.owner ≠ none) (started : row'.claimStartedAt = some now)
      (grants : kind.grantsLease = true) (fresh : kind = .claimed → row'.windowKey = row.windowKey → row.status ≠ .claimed)

/-- The account of one row at a moment: what its log adds up to, and how that
meets the time the run spent past its lease. -/
structure Metered (events : List TaskEvent) (row : Task) (spent : WindowKey → Int) (moment : Int) : Prop where
  sound : (scanned events).Sound
  window : (scanned events).window = some row.windowKey
  lease : (scanned events).previousLease = row.leaseExpiresAt
  idle : row.status ≠ .claimed → row.leaseExpiresAt = none
  owned : row.status.isHeld = true → row.owner ≠ none
  granted : row.status = .claimed → ∃ grant, lastGrant events = some grant ∧ grant ≤ moment ∧
    ∀ start ∈ row.claimStartedAt, start ≤ grant
  started : ∀ start ∈ row.claimStartedAt, start ≤ moment
  meter : ∀ key, spent key = if row.windowKey = key then
    (scanned events).unleased + row.lapsedBetween ((lastGrant events).getD moment) moment else 0

/-- A state that lasted from one operation to a later moment adds its own
lapsed time to what its window had before. -/
def lasting (row : Task) (now moment : Int) (spent : WindowKey → Int) (key : WindowKey) : Int :=
  if row.windowKey = key then row.lapsedBetween now moment + spent key else 0

structure Account (events : List TaskEvent) (row : Option Task) (spent : WindowKey → Int) (moment : Int) : Prop where
  sound : (scanned events).Sound
  metered : ∀ task, row = some task → Metered events task spent moment
  absent : row = none → ∀ key, spent key = 0

namespace Metered
variable {events : List TaskEvent} {row row' : Task} {spent : WindowKey → Int} {now moment : Int} {event : TaskEvent}

section
variable (metered : Metered events row spent now)
include metered

theorem still (later : now ≤ moment) (status : row'.status = row.status)
    (key : row'.windowKey = row.windowKey) (lease : row'.leaseExpiresAt = row.leaseExpiresAt) :
    Metered events row' (lasting row' now moment spent) moment where
  sound := metered.sound
  window := by rw [metered.window, key]
  lease := by rw [metered.lease, lease]
  idle := by
    rw [status, lease]
    exact metered.idle
  owned := by
    have owner : row'.owner = row.owner := congrArg fst key
    rw [status, owner]
    exact metered.owned
  granted := by
    have started : row'.claimStartedAt = row.claimStartedAt := congrArg snd key
    rw [status, started]
    intro claimed
    obtain ⟨grant, known, before, after⟩ := metered.granted claimed
    exact ⟨grant, known, by omega, after⟩
  started := by
    have started : row'.claimStartedAt = row.claimStartedAt := congrArg snd key
    rw [started]
    intro start member
    have before := metered.started start member
    omega
  meter other := by
    have same (since moment : Int) : row'.lapsedBetween since moment = row.lapsedBetween since moment := by
      unfold Task.lapsedBetween
      rw [status, lease]
    unfold lasting
    rw [key, metered.meter]
    by_cases here : row.windowKey = other
    · simp only [here, if_true, same]
      by_cases claimed : row.status = .claimed
      · obtain ⟨grant, known, before, _⟩ := metered.granted claimed
        have whole := row.lapsedBetween_add before later
        simp only [known, getD_some]
        omega
      · simp only [Task.lapsedBetween_unclaimed claimed]
        omega
    · simp only [here, if_false]

/-- The account balances when the write credited the time past the old lease to
its own window, and any other window starts from nothing. -/
theorem balance {unleased : Int}
    (credited : row.windowKey = row'.windowKey →
      unleased = (scanned events).unleased + row.lapsedBetween ((lastGrant events).getD now) now)
    (fresh : row.windowKey ≠ row'.windowKey → unleased = 0) (key : WindowKey) :
    lasting row' now moment spent key =
      if row'.windowKey = key then unleased + row'.lapsedBetween now moment else 0 := by
  unfold lasting
  by_cases here : row'.windowKey = key
  · rw [if_pos here, if_pos here, metered.meter]
    by_cases same : row.windowKey = key
    · rw [if_pos same, credited (same.trans here.symm)]
      omega
    · have other : row.windowKey ≠ row'.windowKey := fun also => same (also.trans here)
      rw [if_neg same, fresh other]
      omega
  · rw [if_neg here, if_neg here]

theorem silent (native : event.kind ≠ .imported) (uncounted : event.kind ≠ .claimed)
    (image : event.after = row')
    (paid : row.windowKey = row'.windowKey → row.lapsedBetween ((lastGrant events).getD now) now = 0) (key : WindowKey) :
    lasting row' now moment spent key =
      if row'.windowKey = key then (scanned (events ++ [event])).unleased + row'.lapsedBetween now moment else 0 := by
  rw [scanned_append]
  apply metered.balance
  · intro same
    have kept : (scanned events).window = some event.after.windowKey := by rw [metered.window, same, image]
    rw [(WindowScan.step_same native kept uncounted).2, paid same]
    omega
  · intro other
    have away : (scanned events).window ≠ some event.after.windowKey := by
      rw [metered.window, image]
      exact fun also => other (Option.some.inj also)
    exact (WindowScan.step_fresh native away).2

theorem reclaimed (claimed : event.kind = .claimed) (image : event.after = row')
    (acted : event.recordedAt = now) (held : row.status = .claimed) (same : row'.windowKey = row.windowKey)
    (exact_ : ∀ lease, row.leaseExpiresAt = some lease → lease < now → ∀ grant ∈ lastGrant events, grant ≤ lease)
    (key : WindowKey) :
    lasting row' now moment spent key =
      if row'.windowKey = key then (scanned (events ++ [event])).unleased + row'.lapsedBetween now moment else 0 := by
  have kept : (scanned events).window = some event.after.windowKey := by rw [metered.window, ← same, image]
  rw [scanned_append]
  apply metered.balance
  · intro _
    rw [(WindowScan.step_reclaimed claimed kept).2, acted]
    obtain ⟨grant, known, before, _⟩ := metered.granted held
    cases lease : row.leaseExpiresAt with
    | none =>
      have unleased : (scanned events).previousLease = none := metered.lease.trans lease
      rw [WindowScan.countLapse_none unleased]
      simp [Task.lapsedBetween, held, lease]
    | some until_ =>
      have known_lease : (scanned events).previousLease = some until_ := metered.lease.trans lease
      rw [Task.lapsedBetween_claimed held lease, known, getD_some]
      by_cases ran_out : until_ < now
      · rw [(WindowScan.countLapse_lapsed known_lease ran_out).2]
        rw [beyond_eq_sub (exact_ until_ lease ran_out grant (mem_def.mpr known)) (by omega)]
      · rw [WindowScan.countLapse_running known_lease (by omega), beyond_eq_zero (.inl (by omega))]
        omega
  · intro other
    exact absurd same.symm other

theorem after_write (write : ClaimWrite (lastGrant events) now row row' event.kind)
    (acted : event.recordedAt = now) :
    (row'.status ≠ .claimed → row'.leaseExpiresAt = none) ∧ (row'.status.isHeld = true → row'.owner ≠ none) ∧
      (row'.status = .claimed → ∃ grant, lastGrant (events ++ [event]) = some grant ∧ grant ≤ now ∧
        ∀ start ∈ row'.claimStartedAt, start ≤ grant) ∧ ∀ start ∈ row'.claimStartedAt, start ≤ now := by
  have holder (key : row'.windowKey = row.windowKey) : row'.owner = row.owner := congrArg fst key
  have opening (key : row'.windowKey = row.windowKey) : row'.claimStartedAt = row.claimStartedAt := congrArg snd key
  have granting (grants : event.kind.grantsLease = true) : lastGrant (events ++ [event]) = some now := by
    rw [lastGrant_append, if_pos grants, acted]
  cases write with
  | noted status key lease silent grantless =>
    rw [status, lease, holder key, opening key, lastGrant_append, if_neg (by simp [grantless])]
    exact ⟨metered.idle, metered.owned, metered.granted, metered.started⟩
  | freed status key lease silent =>
    have unclaimed : row'.status ≠ .claimed := by
      intro claimed
      rw [claimed] at status
      cases status
    have unopened : row'.claimStartedAt = none := congrArg snd key
    refine ⟨fun _ => lease, fun held => ?_, fun claimed => absurd claimed unclaimed, ?_⟩
    · cases status.symm.trans held
    · simp [unopened]
  | parked held status key lease silent paid =>
    refine ⟨fun _ => lease, fun _ => ?_, fun claimed => absurd claimed status, ?_⟩
    · rw [holder key]
      apply metered.owned
      rw [held]
      rfl
    · rw [opening key]
      exact metered.started
  | leased held status key silent grants paid =>
    rw [holder key, opening key, granting grants]
    exact ⟨fun idle => absurd status idle, fun _ => metered.owned held,
      fun _ => ⟨now, rfl, Int.le_refl now, metered.started⟩, metered.started⟩
  | reclaimed held status key claimed exact_ =>
    rw [holder key, opening key, granting (by rw [claimed]; rfl)]
    refine ⟨fun idle => absurd status idle, fun _ => metered.owned ?_,
      fun _ => ⟨now, rfl, Int.le_refl now, metered.started⟩, metered.started⟩
    rw [held]
    rfl
  | taken status owned started grants fresh =>
    rw [started, granting grants]
    refine ⟨fun idle => absurd status idle, fun _ => owned, fun _ => ⟨now, rfl, Int.le_refl now, ?_⟩, ?_⟩
    · simp
    · simp

/-- A claim or recovery that opens its own window credits nothing to another:
where the keys agree by accident, no time had passed. -/
theorem taken (native : event.kind ≠ .imported) (image : event.after = row')
    (started : row'.claimStartedAt = some now)
    (fresh : event.kind = .claimed → row'.windowKey = row.windowKey → row.status ≠ .claimed) (key : WindowKey) :
    lasting row' now moment spent key =
      if row'.windowKey = key then (scanned (events ++ [event])).unleased + row'.lapsedBetween now moment else 0 := by
  by_cases claimed : event.kind = .claimed
  · rw [scanned_append]
    apply metered.balance
    · intro same
      have unclaimed := fresh claimed same.symm
      have unleased : (scanned events).previousLease = none := metered.lease.trans (metered.idle unclaimed)
      have kept : (scanned events).window = some event.after.windowKey := by rw [metered.window, same, image]
      rw [(WindowScan.step_reclaimed claimed kept).2, WindowScan.countLapse_none unleased,
        Task.lapsedBetween_unclaimed unclaimed]
      omega
    · intro other
      have away : (scanned events).window ≠ some event.after.windowKey := by
        rw [metered.window, image]
        exact fun also => other (Option.some.inj also)
      exact (WindowScan.step_fresh native away).2
  · apply metered.silent native claimed image
    intro same
    by_cases held : row.status = .claimed
    · obtain ⟨grant, known, before, after⟩ := metered.granted held
      have opened : row.claimStartedAt = some now := (congrArg snd same).trans started
      have since := after now (mem_def.mpr opened)
      have now_granted : grant = now := by omega
      rw [known, getD_some, now_granted, Task.lapsedBetween_self]
    · exact Task.lapsedBetween_unclaimed held

theorem wrote (write : ClaimWrite (lastGrant events) now row row' event.kind)
    (native : event.kind ≠ .imported) (image : event.after = row') (acted : event.recordedAt = now) (later : now ≤ moment) :
    Metered (events ++ [event]) row' (lasting row' now moment spent) moment := by
  obtain ⟨idle, owned, granted, started⟩ := metered.after_write write acted
  have claims_owned : event.kind = .claimed → event.after.owner ≠ none := by
    intro claimed
    rw [image]
    apply owned
    cases write with
    | noted _ _ _ silent | freed _ _ _ silent | parked _ _ _ _ silent | leased _ _ _ silent => exact absurd claimed silent
    | reclaimed _ status | taken status =>
      rw [status]
      rfl
  refine ⟨?_, ?_, ?_, idle, owned, ?_, ?_, ?_⟩
  · rw [scanned_append]
    exact metered.sound.step native claims_owned
  · rw [scanned_append, WindowScan.step_window, image]
  · rw [scanned_append, WindowScan.step_previousLease, image]
  · intro claimed
    obtain ⟨grant, known, before, after⟩ := granted claimed
    exact ⟨grant, known, by omega, after⟩
  · intro start member
    have before := started start member
    omega
  · intro key
    have granting (grants : event.kind.grantsLease = true) : (lastGrant (events ++ [event])).getD moment = now := by
      rw [lastGrant_append, if_pos grants, acted, getD_some]
    cases write with
    | noted status same lease silent grantless =>
      have kept : (scanned events).window = some event.after.windowKey := by rw [metered.window, ← same, image]
      have unchanged : lastGrant (events ++ [event]) = lastGrant events := by simp [lastGrant_append, grantless]
      rw [(metered.still later status same lease).meter, scanned_append, (WindowScan.step_same native kept silent).2,
        unchanged]
    | freed status unowned lease silent =>
      have unclaimed : row'.status ≠ .claimed := by
        intro claimed
        rw [claimed] at status
        cases status
      rw [metered.silent native silent image ?_, Task.lapsedBetween_unclaimed unclaimed,
        Task.lapsedBetween_unclaimed unclaimed]
      intro same
      apply Task.lapsedBetween_unclaimed
      intro claimed
      have holder : row.owner = none := congrArg fst (same.trans unowned)
      exact metered.owned (by rw [claimed]; rfl) holder
    | parked held status same lease silent paid =>
      rw [metered.silent native silent image (fun _ => paid), Task.lapsedBetween_unclaimed status,
        Task.lapsedBetween_unclaimed status]
    | leased held status same silent grants paid =>
      rw [granting grants]
      exact metered.silent native silent image (fun _ => paid) key
    | reclaimed held status same claimed exact_ =>
      rw [granting (by rw [claimed]; rfl)]
      exact metered.reclaimed claimed image acted held same exact_ key
    | taken status owned started grants fresh =>
      rw [granting grants]
      exact metered.taken native image started fresh key

end

theorem born (sound : (scanned events).Sound) (native : event.kind ≠ .imported) (silent : event.kind ≠ .claimed)
    (image : event.after = row) (status : row.status.isHeld = false) (key : row.windowKey = (none, none))
    (lease : row.leaseExpiresAt = none) :
    Metered (events ++ [event]) row (lasting row now moment fun _ => 0) moment := by
  have unclaimed : row.status ≠ .claimed := by
    intro claimed
    rw [claimed] at status
    cases status
  have unopened : row.claimStartedAt = none := congrArg snd key
  have nothing : (scanned (events ++ [event])).unleased = 0 := by
    rw [scanned_append]
    by_cases same : (scanned events).window = some event.after.windowKey
    · rw [(WindowScan.step_same native same silent).2]
      apply sound.unowned
      rw [same, image, key]
    · exact (WindowScan.step_fresh native same).2
  refine ⟨?_, ?_, ?_, fun _ => lease, ?_, fun claimed => absurd claimed unclaimed, ?_, ?_⟩
  · rw [scanned_append]
    exact sound.step native fun claimed => absurd claimed silent
  · rw [scanned_append, WindowScan.step_window, image]
  · rw [scanned_append, WindowScan.step_previousLease, image]
  · intro held
    cases status.symm.trans held
  · simp [unopened]
  · intro other
    rw [nothing]
    simp [lasting, Task.lapsedBetween_unclaimed unclaimed]

end Metered

theorem Account.empty (moment : Int) : Account [] none (fun _ => 0) moment where
  sound := ⟨Int.le_refl 0, fun some => absurd rfl some, fun window => by cases window⟩
  metered _ found := by cases found
  absent _ _ := rfl

inductive Effect (now : Int) (events : List TaskEvent) : Option Task → Option Task → List TaskEvent → Prop
  | still {before after} (claims : ∀ row', after = some row' → ∃ row, before = some row ∧ row'.status = row.status ∧
      row'.windowKey = row.windowKey ∧ row'.leaseExpiresAt = row.leaseExpiresAt) : Effect now events before after events
  | wrote {row row' event} (native : event.kind ≠ .imported) (image : event.after = row') (acted : event.recordedAt = now)
      (write : ClaimWrite (lastGrant events) now row row' event.kind) :
      Effect now events (some row) (some row') (events ++ [event])
  | born {row event} (native : event.kind ≠ .imported) (silent : event.kind ≠ .claimed) (image : event.after = row)
      (status : row.status.isHeld = false) (key : row.windowKey = (none, none)) (lease : row.leaseExpiresAt = none) :
      Effect now events none (some row) (events ++ [event])

theorem Account.step {events events' : List TaskEvent} {before after : Option Task} {spent : WindowKey → Int}
    {now moment : Int} (account : Account events before spent now) (effect : Effect now events before after events')
    (later : now ≤ moment) :
    Account events' after (fun key => (after.map fun row => lasting row now moment spent key).getD 0) moment := by
  cases effect with
  | still claims =>
    refine ⟨account.sound, ?_, ?_⟩
    · intro row' left
      obtain ⟨row, found, status, key, lease⟩ := claims row' left
      subst left
      exact (account.metered row found).still later status key lease
    · intro gone key
      rw [gone]
      rfl
  | @wrote row row' event native image acted write =>
    have metered := (account.metered row rfl).wrote write native image acted later
    refine ⟨metered.sound, ?_, ?_⟩
    · intro _ left
      cases left
      exact metered
    · intro gone
      cases gone
  | @born row event native silent image status key lease =>
    have nothing : spent = fun _ => 0 := funext (account.absent rfl)
    have metered : Metered (events ++ [event]) row (lasting row now moment spent) moment := by
      rw [nothing]
      exact .born account.sound native silent image status key lease
    refine ⟨metered.sound, ?_, ?_⟩
    · intro _ left
      cases left
      exact metered
    · intro gone
      cases gone

end MindLeak.Lodestar
