import MindLeak.Library.Runs
import Mathlib.Order.Defs.LinearOrder

/-! Runs under a clock that never goes back: the times operations acted at, how
long each state between them lasted, and the time a run spent past a limit. -/

namespace MindLeak

open List

def beyond (limit since moment : Int) : Int := max 0 (moment - max since limit)

section
variable {limit since middle moment : Int}

@[simp] theorem beyond_self : beyond limit since since = 0 := by
  unfold beyond
  omega

theorem beyond_add (first : since ≤ middle) (last : middle ≤ moment) :
    beyond limit since middle + beyond limit middle moment = beyond limit since moment := by
  unfold beyond
  omega

theorem beyond_eq_zero (reached : moment ≤ limit ∨ moment ≤ since) : beyond limit since moment = 0 := by
  unfold beyond
  omega

theorem beyond_eq_sub (started : since ≤ limit) (passed : limit ≤ moment) : beyond limit since moment = moment - limit := by
  unfold beyond
  omega

end

namespace Machine
universe u v
variable {σ : Type u} {ω : Type v} (time : ω → Option Int)

def times (history : List (Entry σ ω)) : List Int := history.filterMap fun entry => time entry.op

def Clocked (history : List (Entry σ ω)) (moment : Int) : Prop := (moment :: times time history).Pairwise (· ≥ ·)

instance (history : List (Entry σ ω)) (moment : Int) : Decidable (Clocked time history moment) :=
  inferInstanceAs (Decidable (List.Pairwise _ _))

/-- The time spent in the run's latest stretch of states inside a set, each
state measured from the operation that made it to the next. An operation
without a time takes none. -/
def spent (inside : σ → Bool) (measure : σ → Int → Int → Int) : List (Entry σ ω) → Int → Int
  | [], _ => 0
  | entry :: earlier, moment =>
    if inside entry.after then
      let since := (time entry.op).getD moment
      measure entry.after since moment + spent inside measure earlier since
    else 0

variable {time} {machine : Machine σ ω} {history : List (Entry σ ω)} {state : σ} {entry : Entry σ ω} {moment : Int}

theorem Clocked.last (clocked : Clocked time (entry :: history) moment) : (time entry.op).getD moment ≤ moment := by
  cases acted : time entry.op with
  | none => exact Int.le_refl _
  | some now =>
    have listed : now ∈ times time (entry :: history) := by simp [times, acted]
    exact rel_of_pairwise_cons clocked listed

theorem Clocked.earlier (clocked : Clocked time (entry :: history) moment) :
    Clocked time history ((time entry.op).getD moment) := by
  unfold Clocked times at *
  rw [filterMap_cons] at clocked
  cases acted : time entry.op with
  | none =>
    rw [acted] at clocked
    exact clocked
  | some now =>
    rw [acted] at clocked
    exact clocked.tail

/-- What holds at every moment up to the next operation, and comes out of each
operation at its own time, holds after every clocked run. -/
theorem Run.timed (run : machine.Run history state) (met : σ → ω → Prop)
    (good : List (Entry σ ω) → σ → Int → Prop) (initial : ∀ moment, good [] machine.start moment)
    (keeps : ∀ history before op moment, met before op → (time op).getD moment ≤ moment →
      good history before ((time op).getD moment) →
        good (⟨before, op, machine.apply before op⟩ :: history) (machine.apply before op) moment)
    (steps : ∀ entry ∈ history, met entry.before entry.op) (clocked : Clocked time history moment) :
    good history state moment := by
  induction run generalizing moment with
  | start => exact initial moment
  | step _ op _ ih =>
    apply keeps _ _ op moment (steps _ mem_cons_self) clocked.last
    exact ih (fun entry member => steps entry (mem_cons_of_mem _ member)) clocked.earlier

end Machine
end MindLeak
