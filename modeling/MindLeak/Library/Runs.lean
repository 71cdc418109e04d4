import Mathlib.Tactic.Common
import Mathlib.Logic.Function.Basic

/-! Serial runs of operations over one state, with the history kept. Readers
outside a transaction see any earlier committed state, so what an operation may
be given depends on every state visited so far. -/

namespace MindLeak

open List

variable {ε : Type u} {α β : Type v}

universe u v w

theorem else_of_ne {α : Sort v} {c : Prop} [Decidable c] {first second value : α} (done : (if c then first else second) = value)
    (apart : first ≠ value) : ¬c ∧ second = value := by
  by_cases h : c
  · exact absurd ((if_pos h).symm.trans done) apart
  · exact ⟨h, (if_neg h).symm.trans done⟩

theorem then_of_ne {α : Sort v} {c : Prop} [Decidable c] {first second value : α} (done : (if c then first else second) = value)
    (apart : second ≠ value) : c ∧ first = value := by
  by_cases h : c
  · exact ⟨h, (if_pos h).symm.trans done⟩
  · exact absurd ((if_neg h).symm.trans done) apart

section
variable {c : Prop} [Decidable c] {failure : ε} {first second : Except ε α} {value : α}

theorem ite_else (done : (if c then .error failure else second) = .ok value) : ¬c ∧ second = .ok value := else_of_ne done nofun

theorem ite_then (done : (if c then first else .error failure) = .ok value) : c ∧ first = .ok value := then_of_ne done nofun

end

variable {next : α → Except ε β}

theorem bind_ok {first : Except ε α} {value : β} (returned : first >>= next = .ok value) :
    ∃ middle, first = .ok middle ∧ next middle = .ok value := by
  cases first with
  | error failure => cases returned
  | ok middle => exact ⟨middle, rfl, returned⟩

theorem bind_error {first : Except ε α} {failure : ε} (failed : first >>= next = .error failure) :
    first = .error failure ∨ ∃ middle, first = .ok middle ∧ next middle = .error failure := by
  cases first with
  | error =>
    cases failed
    exact .inl rfl
  | ok middle => exact .inr ⟨middle, rfl, failed⟩

variable {items : List α}

theorem foldlM_ok {β : Type w} {step : β → α → Except ε β} {first last : β} (good : β → Prop)
    (done : items.foldlM step first = .ok last) (initial : good first)
    (keeps : ∀ before item after, good before → step before item = .ok after → good after) : good last := by
  induction items generalizing first with
  | nil =>
    cases done
    exact initial
  | cons item rest ih =>
    obtain ⟨middle, one, done⟩ := bind_ok done
    exact ih done (keeps first item middle initial one)

theorem forM_ok {check : α → Except ε PUnit} (done : items.forM check = .ok PUnit.unit) :
    ∀ item ∈ items, check item = .ok PUnit.unit := by
  induction items with
  | nil =>
    intro item member
    cases member
  | cons first rest ih =>
    obtain ⟨_, passed, done⟩ := bind_ok done
    exact forall_mem_cons.mpr ⟨passed, ih done⟩

theorem ok_bind {first : Except ε α} {middle : α} (returned : first = .ok middle) :
    first >>= next = next middle := by
  rw [returned]
  rfl

theorem forM_of_ok {check : α → Except ε PUnit} (each : ∀ item ∈ items, check item = .ok PUnit.unit) :
    items.forM check = .ok PUnit.unit := by
  induction items with
  | nil => rfl
  | cons first rest ih =>
    obtain ⟨passed, others⟩ := forall_mem_cons.mp each
    exact (ok_bind passed).trans (ih others)

theorem of_toOption_map {β : Type w} {result : Except ε α} {read : α → β} {value : β}
    (answered : result.toOption.map read = some value) : ∃ given, result = .ok given ∧ read given = value := by
  cases result with
  | error failure => cases answered
  | ok given => exact ⟨given, rfl, Option.some.inj answered⟩

theorem updated_cases {α : Type u} [DecidableEq α] {f : α → β} {mover other : α} {moved seen : β}
    (there : Function.update f mover moved other = seen) : f other = seen ∨ other = mover ∧ moved = seen := by
  by_cases same : other = mover
  · subst same
    rw [Function.update_self] at there
    exact .inr ⟨rfl, there⟩
  · rw [Function.update_of_ne same] at there
    exact .inl there

theorem updated_of_ne {α : Type u} [DecidableEq α] {f : α → β} {mover other : α} {moved seen : β}
    (there : Function.update f mover moved other = seen) (apart : moved ≠ seen) : f other = seen :=
  (updated_cases there).resolve_right fun moves => apart moves.2

structure Entry (σ : Type u) (ω : Type v) where
  before : σ
  op : ω
  after : σ

/-- What an operation may be presented with, given the states seen so far, and
what it leaves behind. -/
structure Machine (σ : Type u) (ω : Type v) where
  start : σ
  enabled : List σ → ω → Prop
  apply : σ → ω → σ

namespace Machine
variable {σ : Type u} {ω : Type v}
variable {later : List (Entry σ ω)} {entry : Entry σ ω}

def visited (machine : Machine σ ω) (history : List (Entry σ ω)) : List σ :=
  history.map Entry.after ++ [machine.start]

inductive Run (machine : Machine σ ω) : List (Entry σ ω) → σ → Prop
  | start : Run machine [] machine.start
  | step {history : List (Entry σ ω)} {state : σ} (past : Run machine history state) (op : ω)
      (ready : machine.enabled (machine.visited history) op) :
      Run machine (⟨state, op, machine.apply state op⟩ :: history) (machine.apply state op)

variable {machine : Machine σ ω} {history : List (Entry σ ω)} {state : σ}

section
variable (run : machine.Run history state)
include run

theorem Run.current_visited : state ∈ machine.visited history := by
  cases run <;> simp [visited]

theorem Run.invariant (good : σ → Prop) (initial : good machine.start)
    (keeps : ∀ before op, good before → good (machine.apply before op)) : good state := by
  induction run with
  | start => exact initial
  | step _ op _ ih => exact keeps _ op ih

/-- The same law where an operation keeps the property only under a condition:
the run's own entries supply it. -/
theorem Run.invariant_of_steps (good : σ → Prop) (initial : good machine.start)
    (met : σ → ω → Prop) (steps : ∀ entry ∈ history, met entry.before entry.op)
    (keeps : ∀ before op, met before op → good before → good (machine.apply before op)) : good state := by
  induction run with
  | start => exact initial
  | step _ op _ ih =>
    exact keeps _ op (steps _ mem_cons_self) (ih fun entry member => steps entry (mem_cons_of_mem _ member))

theorem Run.visited_good (good : σ → Prop) (initial : good machine.start)
    (keeps : ∀ before op, good before → good (machine.apply before op)) :
    ∀ seen ∈ machine.visited history, good seen := by
  induction run with
  | start => simpa [visited] using initial
  | step past op _ ih =>
    intro seen member
    rcases mem_cons.mp member with rfl | earlier
    · exact keeps _ op (past.invariant good initial keeps)
    · exact ih seen earlier

theorem Run.visited_good_iff (good : σ → Prop) (met : σ → ω → Prop)
    (initial : good machine.start)
    (keeps : ∀ before op, good before → (good (machine.apply before op) ↔ met before op)) :
    (∀ seen ∈ machine.visited history, good seen) ↔ ∀ entry ∈ history, met entry.before entry.op := by
  induction run with
  | start => simpa [visited] using initial
  | @step history state past op _ ih =>
    constructor
    · intro always entry member
      have earlier : ∀ seen ∈ machine.visited history, good seen :=
        fun seen inside => always seen (mem_cons_of_mem _ inside)
      rcases mem_cons.mp member with rfl | old
      · exact (keeps state op (earlier state past.current_visited)).mp (always _ mem_cons_self)
      · exact ih.mp earlier entry old
    · intro each seen member
      have earlier := ih.mpr fun entry inside => each entry (mem_cons_of_mem _ inside)
      rcases mem_cons.mp member with rfl | old
      · exact (keeps state op (earlier state past.current_visited)).mpr (each _ mem_cons_self)
      · exact earlier seen old

end

theorem Run.past {past : List (Entry σ ω)} (run : machine.Run (later ++ past) state) :
    ∃ middle, machine.Run past middle := by
  induction later generalizing state with
  | nil => exact ⟨state, run⟩
  | cons last rest ih =>
    cases run with
    | step before op ready => exact ih before

theorem Run.turned {middle past : List (Entry σ ω)} {first second : Entry σ ω}
    (run : machine.Run (later ++ second :: (middle ++ first :: past)) state) (good : σ → Prop) (off : ¬good first.after)
    (on : good second.before) : ∃ entry ∈ middle, ¬good entry.before ∧ good entry.after := by
  have between : ∀ reached, machine.Run (middle ++ first :: past) reached → good reached →
      ∃ entry ∈ middle, ¬good entry.before ∧ good entry.after := by
    clear run
    induction middle with
    | nil =>
      intro reached run on
      cases run with
      | step => exact absurd on off
    | cons last rest ih =>
      intro reached run on
      cases run with
      | @step _ earlier before op ready =>
        by_cases already : good earlier
        · obtain ⟨entry, member, turns⟩ := ih earlier before already
          exact ⟨entry, mem_cons_of_mem _ member, turns⟩
        · exact ⟨_, mem_cons_self, already, on⟩
  obtain ⟨reached, upTo⟩ := run.past
  cases upTo with
  | step before op ready => exact between _ before on

theorem Run.since_good_iff {past : List (Entry σ ω)} (run : machine.Run (later ++ past) state) (good : σ → Prop)
    (met : σ → ω → Prop) (initial : ∀ middle, machine.Run past middle → good middle)
    (keeps : ∀ before op, good before → (good (machine.apply before op) ↔ met before op)) :
    (∀ entry ∈ later, good entry.after) ↔ ∀ entry ∈ later, met entry.before entry.op := by
  suffices both : ((∀ entry ∈ later, good entry.after) ↔ ∀ entry ∈ later, met entry.before entry.op) ∧
      ((∀ entry ∈ later, good entry.after) → good state) from both.1
  induction later generalizing state with
  | nil => exact ⟨by simp, fun _ => initial state run⟩
  | cons last rest ih =>
    cases run with
    | step before op ready =>
      obtain ⟨same, reached⟩ := ih before
      rw [forall_mem_cons, forall_mem_cons]
      refine ⟨?_, fun always => always.1⟩
      constructor
      · rintro ⟨here, earlier⟩
        exact ⟨(keeps _ op (reached earlier)).mp here, same.mp earlier⟩
      · rintro ⟨here, earlier⟩
        exact ⟨(keeps _ op (reached (same.mpr earlier))).mpr here, same.mpr earlier⟩

theorem Run.since_before {past : List (Entry σ ω)} (run : machine.Run (later ++ past) state) (good : σ → Prop)
    (initial : ∀ middle, machine.Run past middle → good middle) (always : ∀ entry ∈ later, good entry.after) :
    ∀ entry ∈ later, good entry.before := by
  suffices both : (∀ entry ∈ later, good entry.before) ∧ good state from both.1
  induction later generalizing state with
  | nil => exact ⟨by simp, initial state run⟩
  | cons last rest ih =>
    cases run with
    | step before op ready =>
      obtain ⟨here, reached⟩ := ih before fun entry member => always entry (mem_cons_of_mem _ member)
      exact ⟨forall_mem_cons.mpr ⟨reached, here⟩, always _ mem_cons_self⟩

theorem Run.since {past : List (Entry σ ω)} (run : machine.Run (later ++ past) state) (good : σ → Prop)
    (met : σ → ω → Prop) (initial : ∀ middle, machine.Run past middle → good middle)
    (steps : ∀ entry ∈ later, met entry.before entry.op)
    (keeps : ∀ before op, met before op → good before → good (machine.apply before op)) : good state := by
  induction later generalizing state with
  | nil => exact initial state run
  | cons last rest ih =>
    cases run with
    | step before op ready =>
      obtain ⟨here, earlier⟩ := forall_mem_cons.mp steps
      exact keeps _ op here (ih before earlier)

section
variable (run : machine.Run history state)
include run

theorem Run.entry_good (good : σ → Prop) (initial : good machine.start)
    (keeps : ∀ before op, good before → good (machine.apply before op)) (member : entry ∈ history) :
    good entry.before ∧ entry.after = machine.apply entry.before entry.op := by
  induction run with
  | start => cases member
  | step past op _ ih =>
    rcases mem_cons.mp member with rfl | earlier
    · exact ⟨past.invariant good initial keeps, rfl⟩
    · exact ih earlier

theorem Run.entry_past (member : entry ∈ history) :
    ∃ past, machine.Run past entry.before ∧ entry.after = machine.apply entry.before entry.op := by
  obtain ⟨later, past, rfl⟩ := append_of_mem member
  obtain ⟨reached, upTo⟩ := run.past
  cases upTo with
  | step before op ready => exact ⟨past, before, rfl⟩

theorem Run.once (marks : Entry σ ω → Prop) (held : σ → Prop)
    (sets : ∀ entry ∈ history, marks entry → held entry.after)
    (keeps : ∀ entry ∈ history, held entry.before → held entry.after)
    (bars : ∀ entry ∈ history, marks entry → ¬held entry.before) {first second : Entry σ ω}
    (order : [second, first].Sublist history) (marked : marks first) : ¬marks second := by
  suffices both : ((∃ entry ∈ history, marks entry) → held state) ∧
      ([second, first].Sublist history → ¬marks second) from both.2 order
  clear order
  induction run with
  | start => exact ⟨by simp, fun impossible => by cases impossible⟩
  | step past op ready ih =>
    obtain ⟨since, earlier⟩ := ih (fun entry member => sets entry (mem_cons_of_mem _ member))
      (fun entry member => keeps entry (mem_cons_of_mem _ member))
      (fun entry member => bars entry (mem_cons_of_mem _ member))
    refine ⟨?_, ?_⟩
    · rintro ⟨entry, member, here⟩
      rcases mem_cons.mp member with rfl | old
      · exact sets _ mem_cons_self here
      · exact keeps _ mem_cons_self (since ⟨entry, old, here⟩)
    · intro order
      cases order with
      | cons _ inside => exact earlier inside
      | cons_cons _ inside =>
        exact fun again => bars _ mem_cons_self again (since ⟨first, singleton_sublist.mp inside, marked⟩)

theorem Run.pairwise_held {ι : Type w} (marks : ι → Entry σ ω → Prop) (held : ι → σ → Prop)
    (sets : ∀ i, ∀ entry ∈ history, marks i entry → held i entry.after)
    (keeps : ∀ i, ∀ entry ∈ history, held i entry.before → held i entry.after) :
    (history.Pairwise fun later earlier => ∀ i, marks i earlier → held i later.before) ∧
      ∀ i, ∀ entry ∈ history, marks i entry → held i state := by
  induction run with
  | start => exact ⟨.nil, fun _ _ member => by cases member⟩
  | step past op ready ih =>
    obtain ⟨pairs, since⟩ := ih (fun i entry member => sets i entry (mem_cons_of_mem _ member))
      (fun i entry member => keeps i entry (mem_cons_of_mem _ member))
    refine ⟨pairwise_cons.mpr ⟨fun earlier member i marked => since i earlier member marked, pairs⟩, fun i entry member marked => ?_⟩
    rcases mem_cons.mp member with rfl | old
    · exact sets i _ mem_cons_self marked
    · exact keeps i _ mem_cons_self (since i entry old marked)

theorem Run.grown (grows : σ → σ → Prop) (refl : ∀ s, grows s s)
    (trans : ∀ {first middle last}, grows first middle → grows middle last → grows first last)
    (keeps : ∀ before op, grows before (machine.apply before op)) :
    ∀ seen ∈ machine.visited history, grows seen state := by
  induction run with
  | start =>
    intro seen member
    cases mem_singleton.mp member
    exact refl _
  | step _ op _ ih =>
    intro seen member
    rcases mem_cons.mp member with rfl | earlier
    · exact refl _
    · exact trans (ih seen earlier) (keeps _ op)

theorem Run.ordered (grows : σ → σ → Prop) (refl : ∀ s, grows s s)
    (trans : ∀ {first middle last}, grows first middle → grows middle last → grows first last)
    (keeps : ∀ before op, grows before (machine.apply before op)) :
    ∀ first ∈ machine.visited history, ∀ second ∈ machine.visited history, grows first second ∨ grows second first := by
  induction run with
  | start =>
    intro first inFirst second inSecond
    cases mem_singleton.mp inFirst
    cases mem_singleton.mp inSecond
    exact .inl (refl _)
  | step past op ready ih =>
    have latest := (past.step op ready).grown grows refl trans keeps
    intro first inFirst second inSecond
    rcases mem_cons.mp inFirst with rfl | earlier
    · exact .inr (latest second inSecond)
    · rcases mem_cons.mp inSecond with rfl | old
      · exact .inl (latest first inFirst)
      · exact ih first earlier second old

theorem Run.entry_ready (member : entry ∈ history) :
    ∃ past, machine.enabled (machine.visited past) entry.op ∧ machine.visited past ⊆ machine.visited history := by
  induction run with
  | start => cases member
  | @step earlier _ _ op ready ih =>
    rcases mem_cons.mp member with rfl | old
    · exact ⟨earlier, ready, subset_cons_self _ _⟩
    · obtain ⟨past, given, known⟩ := ih old
      exact ⟨past, given, List.Subset.trans known (subset_cons_self _ _)⟩

end

/-- Operations one after another, newest first, each reading only the state it
finds. -/
def replay (machine : Machine σ ω) : List (σ → ω) → List (Entry σ ω) × σ
  | [] => ([], machine.start)
  | op :: earlier =>
    let (history, state) := machine.replay earlier
    (⟨state, op state, machine.apply state (op state)⟩ :: history, machine.apply state (op state))

/-- The replayed operations are a run: each was enabled where it came. -/
abbrev Replays (machine : Machine σ ω) (ops : List (σ → ω)) : Prop :=
  machine.Run (machine.replay ops).1 (machine.replay ops).2

theorem replay_cons (op : σ → ω) (earlier : List (σ → ω)) :
    (machine.replay (op :: earlier)).2 = machine.apply (machine.replay earlier).2 (op (machine.replay earlier).2) := rfl

/-- A run goes on through operations that any state's readers may be given. -/
theorem Run.replay_append {later earlier : List (σ → ω)}
    (past : machine.Replays earlier)
    (always : ∀ op ∈ later, ∀ visited s, s ∈ visited → machine.enabled visited (op s)) :
    machine.Replays (later ++ earlier) := by
  induction later with
  | nil => exact past
  | cons op rest ih =>
    have before := ih fun other member => always other (mem_cons_of_mem _ member)
    exact .step before (op _) (always op mem_cons_self _ _ before.current_visited)

theorem replay_run {ops : List (σ → ω)}
    (always : ∀ op ∈ ops, ∀ visited s, s ∈ visited → machine.enabled visited (op s)) :
    machine.Replays ops := by
  have past : machine.Replays [] := .start
  have run := past.replay_append always
  rwa [append_nil] at run

theorem replay_entry (op : σ → ω) (later earlier : List (σ → ω)) :
    ⟨(machine.replay earlier).2, op (machine.replay earlier).2, (machine.replay (op :: earlier)).2⟩ ∈
      (machine.replay (later ++ op :: earlier)).1 := by
  induction later with
  | nil => exact mem_cons_self
  | cons last rest ih => exact mem_cons_of_mem _ ih

theorem replay_at (op : σ → ω) (later earlier : List (σ → ω)) : ∃ entry ∈ (machine.replay (later ++ op :: earlier)).1,
    entry.before = (machine.replay earlier).2 ∧ entry.op = op (machine.replay earlier).2 :=
  ⟨_, replay_entry op later earlier, rfl, rfl⟩

theorem replay_split (op : σ → ω) (later earlier : List (σ → ω)) : (machine.replay (later ++ op :: earlier)).1 =
    (machine.replay (later ++ op :: earlier)).1.take later.length ++
      ⟨(machine.replay earlier).2, op (machine.replay earlier).2, (machine.replay (op :: earlier)).2⟩ ::
        (machine.replay earlier).1 := by
  induction later with
  | nil => rfl
  | cons last rest ih => exact congrArg (List.cons _) ih

theorem replay_around (first second : σ → ω) (middle earlier : List (σ → ω)) :
    ∃ latest between one, (machine.replay (second :: (middle ++ first :: earlier))).1 =
        [] ++ latest :: (between ++ one :: (machine.replay earlier).1) ∧
      one.before = (machine.replay earlier).2 ∧ one.op = first (machine.replay earlier).2 ∧
      latest.before = (machine.replay (middle ++ first :: earlier)).2 ∧
      latest.op = second (machine.replay (middle ++ first :: earlier)).2 :=
  ⟨_, _, _, congrArg (List.cons _) (replay_split first middle earlier), rfl, rfl, rfl, rfl⟩

theorem replay_visited (later earlier : List (σ → ω)) :
    (machine.replay earlier).2 ∈ machine.visited (machine.replay (later ++ earlier)).1 := by
  induction later with
  | nil => cases earlier <;> simp [replay, visited]
  | cons op rest ih => exact mem_cons_of_mem _ ih

end Machine
end MindLeak
