import Mathlib.Data.List.Chain

/-! A log that is only appended to, and the rows that are its projection: each subject's row says what
the last of its events says. -/

namespace MindLeak.EventLog

open List

universe u v w

variable {ε : Type u} {κ : Type v} {σ : Type w} {source : ε → Option σ} {target : ε → σ} {position : ε → Int}

def Unbroken (source : ε → Option σ) (target : ε → σ) (events : List ε) : Prop :=
  events.IsChain fun first second => source second = some (target first)

theorem Unbroken.append {events : List ε} {event : ε} (unbroken : Unbroken source target events)
    (follows : ∀ last ∈ events.getLast?, source event = some (target last)) : Unbroken source target (events ++ [event]) :=
  isChain_append.mpr ⟨unbroken, isChain_singleton event, fun last final other only => by
    cases Option.mem_some_iff.mp only
    exact follows last final⟩

theorem mergeSort_eq {events : List ε} (ordered : events.Pairwise fun first second => position first < position second) :
    events.mergeSort (fun first second => position first ≤ position second) = events :=
  mergeSort_of_pairwise (ordered.imp fun before => decide_eq_true (Int.le_of_lt before))

section
variable [DecidableEq κ] {subject : ε → κ}

def trail (subject : ε → κ) (log : List ε) (key : κ) : List ε := log.filter fun event => subject event = key

theorem trail_append {log : List ε} {event : ε} {key : κ} : trail subject (log ++ [event]) key =
    if subject event = key then trail subject log key ++ [event] else trail subject log key := by
  unfold trail
  rw [filter_append]
  split
  next its => rw [filter_singleton, decide_eq_true its, cond_true]
  next other => rw [filter_singleton, decide_eq_false other, cond_false, append_nil]

/-- Every subject's row says what its last event says, where `view` reads the rows. -/
def Projects {ρ : Type*} (subject : ε → κ) (reading : ε → ρ) (log : List ε) (view : κ → Option ρ) : Prop :=
  ∀ key, view key = (trail subject log key).getLast?.map reading

theorem Projects.append {ρ : Type*} {reading : ε → ρ} {log : List ε} {event : ε} {view after : κ → Option ρ}
    (projects : Projects subject reading log view)
    (written : ∀ key, after key = if subject event = key then some (reading event) else view key) :
    Projects subject reading (log ++ [event]) after := by
  intro key
  rw [written, trail_append]
  split
  next => rw [List.getLast?_concat, Option.map_some]
  next => exact projects key

end

end MindLeak.EventLog
