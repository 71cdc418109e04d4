import MindLeak.Library.Transactions
import Mathlib.Data.List.Induction

/-! Calls one after another: with nobody else at work a call does what its program does by itself,
and any list of calls is a run. -/

namespace MindLeak

open List Function Transaction

namespace Interleaving
variable {σ κ ι : Type} [DecidableEq ι] {ρ : κ → Type} {ε α ω : Type} {look : σ → (key : κ) → ρ key}
  {guards : (key : κ) → ρ key → List ι} {program : ω → Transaction σ κ ρ ε α} {start store : σ}

section
variable {τ : Type} [DecidableEq τ] {transaction : τ} {call : ω} {standing : τ → Standing σ κ ρ ε α ω}
  {history : List (Entry (Interleaving τ σ κ ι ρ ε α ω) (TransactionOp τ ω))}

/-- How a call ends that began at `s`. -/
def closed (s : Interleaving τ σ κ ι ρ ε α ω) (transaction : τ) (call : ω) (done : Except ε (α × σ)) :
    Interleaving τ σ κ ι ρ ε α ω where
  store := match done with
    | .ok (_, store) => store
    | .error _ => s.store
  locks _ := none
  standing := Function.update s.standing transaction (.finished call (.answered (done.map Prod.fst)))

def Free (s : Interleaving τ σ κ ι ρ ε α ω) (transaction : τ) : Prop :=
  ∀ guard holder, s.locks guard = some holder → holder = transaction

omit [DecidableEq ι] in
theorem finish_closed {s : Interleaving τ σ κ ι ρ ε α ω} (free : s.Free transaction) (ending : Ending ε α) :
    s.finish transaction call ending =
      ⟨s.store, fun _ => none, Function.update s.standing transaction (.finished call ending)⟩ := by
  have unlocked (guard : ι) : (s.locks guard).filter (· ≠ transaction) = none := by
    cases held : s.locks guard with
    | none => rfl
    | some holder => simp [free guard holder held]
  simp only [finish, moveTo, unlocked]

omit [DecidableEq ι] in
theorem closed_moveTo {s : Interleaving τ σ κ ι ρ ε α ω} {locks : ι → Option τ} {moved : Standing σ κ ρ ε α ω}
    {done : Except ε (α × σ)} :
    ({ s.moveTo transaction moved with locks } : Interleaving τ σ κ ι ρ ε α ω).closed transaction call done =
      s.closed transaction call done := by
  simp only [closed, moveTo, update_idem]

omit [DecidableEq ι] [DecidableEq τ] in
theorem committing_iff {s : Interleaving τ σ κ ι ρ ε α ω} {pending : σ → σ} {rest : Transaction σ κ ρ ε α}
    (here : s.standing transaction = .running call pending rest) (other : ω) (answer : α) :
    s.Committing (.step transaction true) other answer ↔ other = call ∧ rest = .pure answer := by
  constructor
  · rintro ⟨_, _, _, same, standing⟩
    cases same
    rw [here] at standing
    cases standing
    exact ⟨rfl, rfl⟩
  · rintro ⟨rfl, rfl⟩
    exact ⟨transaction, true, pending, rfl, here⟩

theorem run_on {s : Interleaving τ σ κ ι ρ ε α ω} {pending : σ → σ} {rest : Transaction σ κ ρ ε α}
    (run : (interleaved τ look guards program start).Run history s)
    (here : s.standing transaction = .running call pending rest) (free : s.Free transaction) :
    ∃ later before, (interleaved τ look guards program start).Run
        (⟨before, .step transaction true, s.closed transaction call (rest.exec look s.store (pending s.store))⟩ :: (later ++ history))
        (s.closed transaction call (rest.exec look s.store (pending s.store))) ∧
      (∀ entry ∈ later, ∀ other answer, ¬entry.before.Committing entry.op other answer) ∧ before.store = s.store ∧
      ∀ other answer, before.Committing (.step transaction true) other answer ↔
        other = call ∧ ∃ after, rest.exec look s.store (pending s.store) = .ok (answer, after) := by
  induction rest generalizing s history pending with
  | pure value =>
    refine ⟨[], s, ?_, by simp, rfl, fun other answer => (committing_iff here other answer).trans (and_congr_right fun _ => ?_)⟩
    · have next := run.step (.step transaction true) trivial
      rwa [show (interleaved τ look guards program start).apply s (.step transaction true) =
        s.closed transaction call (.ok (value, pending s.store)) by
          simp only [interleaved, apply, step, here]
          exact finish_closed (s := { s with store := pending s.store }) free _] at next
    · simp [exec]
  | fail error =>
    refine ⟨[], s, ?_, by simp, rfl, fun other answer => (committing_iff here other answer).trans (and_congr_right fun _ => ?_)⟩
    · have next := run.step (.step transaction true) trivial
      rwa [show (interleaved τ look guards program start).apply s (.step transaction true) =
        s.closed transaction call (.error error) by
          simp only [interleaved, apply, step, here]
          exact finish_closed free _] at next
    · simp [exec]
  | write update next ih =>
    have moved := run.step (.step transaction true) trivial
    rw [show (interleaved τ look guards program start).apply s (.step transaction true) =
      s.moveTo transaction (.running call (update ∘ pending) next) by simp only [interleaved, apply, step, here]] at moved
    obtain ⟨later, before, rest, silent, same, commits⟩ := ih moved (update_self _ _ _) free
    rw [show (s.moveTo transaction (.running call (update ∘ pending) next)).closed transaction call _ = _ from
      closed_moveTo] at rest
    refine ⟨later ++ [_], before, by rw [append_assoc]; exact rest, ?_, same, commits⟩
    refine forall_mem_append.mpr ⟨silent, forall_mem_singleton.mpr fun other answer committing => ?_⟩
    cases ((committing_iff here other answer).mp committing).2
  | ask key takes next ih =>
    obtain ⟨locks, stepped, free'⟩ : ∃ locks, (interleaved τ look guards program start).apply s (.step transaction true) =
        { s.moveTo transaction (.running call pending (next (look s.store key))) with locks } ∧
          ∀ guard holder, locks guard = some holder → holder = transaction := by
      have unlocked : ((guards key (look s.store key)).all fun guard => (s.locks guard).all (· = transaction)) = true := by
        refine all_eq_true.mpr fun guard _ => ?_
        cases held : s.locks guard with
        | none => rfl
        | some holder => exact decide_eq_true (free guard holder held)
      simp only [interleaved, apply, step, here, unlocked, if_true]
      split
      next =>
        refine ⟨_, rfl, fun guard holder held => ?_⟩
        split at held
        · exact (Option.some.inj held).symm
        · exact free guard holder held
      next => exact ⟨s.locks, rfl, free⟩
    have moved := run.step (.step transaction true) trivial
    rw [stepped] at moved
    obtain ⟨later, before, rest, silent, same, commits⟩ := ih _ moved (update_self _ _ _) free'
    rw [closed_moveTo] at rest
    refine ⟨later ++ [_], before, by rw [append_assoc]; exact rest, ?_, same, commits⟩
    refine forall_mem_append.mpr ⟨silent, forall_mem_singleton.mpr fun other answer committing => ?_⟩
    cases ((committing_iff here other answer).mp committing).2

theorem run_alone (call : ω) (run : (interleaved τ look guards program start).Run history ⟨store, fun _ => none, standing⟩)
    (idle : standing transaction = .idle) :
    ∃ later before after, (interleaved τ look guards program start).Run
        (⟨before, .step transaction true, after⟩ :: (later ++ history)) after ∧
      after = ⟨((program call).attempt look store).2, fun _ => none,
        Function.update standing transaction (.finished call (.answered ((program call).attempt look store).1))⟩ ∧
      (∀ entry ∈ later, ∀ other answer, ¬entry.before.Committing entry.op other answer) ∧ before.store = store ∧
      ∀ other answer, before.Committing (.step transaction true) other answer ↔
        other = call ∧ ((program call).attempt look store).1 = .ok answer := by
  have started := run.step (.start transaction call) trivial
  rw [show (interleaved τ look guards program start).apply ⟨store, fun _ => none, standing⟩ (.start transaction call) =
    ⟨store, fun _ => none, Function.update standing transaction (.running call id (program call))⟩ by
      simp only [interleaved, apply, idle]; rfl] at started
  obtain ⟨later, before, rest, silent, same, commits⟩ := run_on started (update_self _ _ _) fun _ _ held => by cases held
  refine ⟨later ++ [_], before, _, by rw [append_assoc]; exact rest, ?_, ?_, same, fun other answer =>
    (commits other answer).trans (and_congr_right fun _ => ?_)⟩
  · simp only [closed, update_idem, attempt, id]
    cases (program call).exec look store store <;> rfl
  · refine forall_mem_append.mpr ⟨silent, forall_mem_singleton.mpr fun _ _ committing => ?_⟩
    obtain ⟨_, _, _, stepped, _⟩ := committing
    cases stepped
  · change (∃ after, (program call).exec look store store = .ok (answer, after)) ↔ _
    unfold attempt
    cases (program call).exec look store store with
    | error => simp
    | ok done => simp [Prod.ext_iff]

end

def serial (look : σ → (key : κ) → ρ key) (program : ω → Transaction σ κ ρ ε α) (store : σ) (calls : List ω) : σ :=
  calls.foldl (fun s call => ((program call).attempt look s).2) store

theorem serial_append_singleton (calls : List ω) (call : ω) :
    serial look program store (calls ++ [call]) = ((program call).attempt look (serial look program store calls)).2 := by
  rw [serial, foldl_append]
  rfl

structure Serves (look : σ → (key : κ) → ρ key) (program : ω → Transaction σ κ ρ ε α) (start : σ) {τ : Type}
    (entry : Entry (Interleaving τ σ κ ι ρ ε α ω) (TransactionOp τ ω)) (earlier : List ω) (call : ω) : Prop where
  before : entry.before.store = serial look program start earlier
  after : entry.after.store = serial look program start (earlier ++ [call])
  commits : ∀ other answer, entry.before.Committing entry.op other answer ↔
    other = call ∧ ((program call).attempt look (serial look program start earlier)).1 = .ok answer

omit [DecidableEq ι] in
theorem forall_split_cons {first : ω} {calls : List ω} {holds : List ω → ω → Prop} :
    (∀ earlier call later, first :: calls = earlier ++ call :: later → holds earlier call) ↔
      holds [] first ∧ ∀ earlier call later, calls = earlier ++ call :: later → holds (first :: earlier) call := by
  constructor
  · exact fun each => ⟨each [] first calls rfl, fun earlier call later same => each (first :: earlier) call later (by rw [same]; rfl)⟩
  rintro ⟨here, there⟩ earlier call later same
  cases earlier with
  | nil =>
    cases same
    exact here
  | cons other rest =>
    obtain ⟨rfl, behind⟩ := List.cons.inj same
    exact there rest call later behind

omit [DecidableEq ι] in
theorem forall_split_nil {holds : List ω → ω → Prop} :
    ∀ earlier call later, ([] : List ω) = earlier ++ call :: later → holds earlier call :=
  fun earlier call later same => absurd same.symm (by simp)

theorem serial_run (look : σ → (key : κ) → ρ key) (guards : (key : κ) → ρ key → List ι) (program : ω → Transaction σ κ ρ ε α)
    (start : σ) (calls : List ω) :
    ∃ history standing, (interleaved Nat look guards program start).Run history
        ⟨serial look program start calls, fun _ => none, standing⟩ ∧
      (∀ transaction, calls.length ≤ transaction → standing transaction = .idle) ∧
      (∀ earlier call later, calls = earlier ++ call :: later → ∃ entry ∈ history, Serves look program start entry earlier call) ∧
      ∀ entry ∈ history, (∀ call answer, ¬entry.before.Committing entry.op call answer) ∨
        ∃ earlier call later, calls = earlier ++ call :: later ∧ Serves look program start entry earlier call := by
  induction calls using List.reverseRecOn with
  | nil => exact ⟨[], _, .start, fun _ _ => rfl, forall_split_nil, nofun⟩
  | append_singleton calls call ih =>
    obtain ⟨history, standing, run, idle, entries, all⟩ := ih
    obtain ⟨later, before, after, next, its, silent, same, commits⟩ := run_alone call run (idle calls.length (Nat.le_refl _))
    have serves : Serves look program start ⟨before, .step calls.length true, after⟩ calls call :=
      ⟨same, by rw [its, serial_append_singleton], commits⟩
    subst its
    rw [serial_append_singleton]
    refine ⟨_, _, next, fun transaction above => ?_, fun earlier other others split => ?_, ?_⟩
    · rw [length_append, length_singleton] at above
      rw [update_of_ne (Nat.ne_of_gt above)]
      exact idle transaction (Nat.le_of_succ_le above)
    · rcases eq_nil_or_concat others with rfl | ⟨rest, last, rfl⟩
      · obtain ⟨rfl, its⟩ := append_inj' split rfl
        cases its
        exact ⟨_, mem_cons_self, serves⟩
      · rw [concat_eq_append, ← cons_append, ← append_assoc] at split
        obtain ⟨rfl, _⟩ := append_inj' split rfl
        obtain ⟨entry, member, found⟩ := entries earlier other rest rfl
        exact ⟨entry, mem_cons_of_mem _ (mem_append_right _ member), found⟩
    · refine forall_mem_cons.mpr ⟨.inr ⟨calls, call, [], rfl, serves⟩, forall_mem_append.mpr ⟨?_, fun entry member => ?_⟩⟩
      · exact fun entry member => .inl (silent entry member)
      · refine (all entry member).imp_right ?_
        rintro ⟨earlier, other, others, rfl, found⟩
        exact ⟨earlier, other, others ++ [call], by rw [append_assoc, cons_append], found⟩

omit [DecidableEq ι] in
theorem served {τ : Type} {history : List (Entry (Interleaving τ σ κ ι ρ ε α ω) (TransactionOp τ ω))} {calls : List ω}
    (all : ∀ entry ∈ history, (∀ call answer, ¬entry.before.Committing entry.op call answer) ∨
      ∃ earlier call later, calls = earlier ++ call :: later ∧ Serves look program start entry earlier call)
    {entry : Entry (Interleaving τ σ κ ι ρ ε α ω) (TransactionOp τ ω)} (member : entry ∈ history) {call : ω} {answer : α}
    (committing : entry.before.Committing entry.op call answer) :
    ∃ earlier later, calls = earlier ++ call :: later ∧ Serves look program start entry earlier call := by
  rcases all entry member with silent | ⟨earlier, other, later, split, serves⟩
  · exact absurd committing (silent call answer)
  · obtain ⟨rfl, _⟩ := (serves.commits call answer).mp committing
    exact ⟨earlier, later, split, serves⟩

end Interleaving

end MindLeak
