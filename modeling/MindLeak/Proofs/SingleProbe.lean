import MindLeak.Core.Net

/-! Who passes the breaker once its circuit has opened. -/

namespace MindLeak.Core

open Function List

namespace Net
variable {τ : Type} {s after : Net τ} {op : NetOp τ} {call other : τ} {cfg : HttpConfig}

/-- The call passed an open circuit, and it is not over. -/
def probing (s : Net τ) (call : τ) : Bool := (s.calls call).any HttpCall.probes

/-- No call passes a half-open circuit; none but its probe fails there or succeeds before it is closed;
and the probe is not cancelled. -/
def meets (s : Net τ) (op : NetOp τ) : Bool :=
  match s.act op with
  | .passes _ _ => decide (s.circuit ≠ .halfOpen)
  | .succeeds call => decide (s.circuit = .closed) || s.probing call
  | .fails call _ => decide (s.circuit ≠ .halfOpen) || s.probing call
  | .cancels call => !s.probing call
  | _ => true

structure OneProbe (s : Net τ) : Prop where
  probe : s.circuit = .halfOpen ↔ ∃ call, s.probing call = true
  alone : ∀ first second, s.probing first = true → s.probing second = true → first = second

theorem act_proceeds {running : HttpCall} (acts : s.act op = .proceeds call running) : s.probing call = running.probes := by
  unfold act at acts
  grind [probing]

theorem act_passes (acts : s.act op = .passes call cfg) : ((s.entry cfg).allow s.clock).1 = true := by
  unfold act at acts
  grind

theorem entry_state (cfg : HttpConfig) : (s.entry cfg).state = s.circuit := by
  unfold entry circuit
  cases s.breaker <;> rfl

theorem entry_eq {breaker : CircuitBreaker} (there : s.breaker = some breaker) (cfg : HttpConfig) : s.entry cfg = breaker := by
  rw [entry, there]
  rfl

theorem allow_cases {breaker : CircuitBreaker} {now : Nat} (allowed : (breaker.allow now).1 = true) :
    (breaker.allow now).2 = breaker ∧ breaker.state ≠ .opened ∨ breaker.state = .opened ∧
      (breaker.allow now).2 = { breaker with state := .halfOpen } ∧ ∀ since, breaker.openedAt = some since → breaker.cooldown ≤ now - since := by
  unfold CircuitBreaker.allow at *
  grind

theorem OneProbe.kept (one : s.OneProbe) (circuit : after.circuit = s.circuit) (same : ∀ call, after.probing call = s.probing call) :
    after.OneProbe :=
  ⟨by simp only [circuit, same, one.probe], by simp only [same]; exact one.alone⟩

theorem OneProbe.free (one : s.OneProbe) (whole : s.circuit ≠ .halfOpen) (call : τ) : s.probing call = false :=
  Bool.eq_false_iff.mpr fun probes => whole (one.probe.mpr ⟨call, probes⟩)

/-- Since the circuit opened at `t` no call can have passed before its cooldown was over. -/
def Held (t : Nat) (s : Net τ) : Prop :=
  t ≤ s.clock ∧ ∃ breaker, s.breaker = some breaker ∧ (t + breaker.cooldown ≤ s.clock ∨
    breaker.state = .opened ∧ ∃ since, breaker.openedAt = some since ∧ t ≤ since ∧ since ≤ s.clock)

theorem Held.passes {t : Nat} (held : s.Held t) (acts : s.act op = .passes call cfg) : t + (s.entry cfg).cooldown ≤ s.clock := by
  obtain ⟨_, breaker, there, ended | ⟨opened, since, its, first, last⟩⟩ := held
  · rwa [entry_eq there]
  · rcases allow_cases (act_passes acts) with ⟨_, closed⟩ | ⟨_, _, ready⟩
    · rw [entry_eq there] at closed
      exact absurd opened closed
    · rw [entry_eq there] at ready ⊢
      have waited := ready since its
      omega

variable [DecidableEq τ]

theorem probing_set {running : Option HttpCall} :
    (s.set call running).probing other = if other = call then running.any HttpCall.probes else s.probing other :=
  (congrArg (Option.any _) (update_apply s.calls call running other)).trans (apply_ite _ _ _ _)

theorem OneProbe.ended (one : s.OneProbe) (sole : s.circuit = .halfOpen → s.probing call = true) (circuit : after.circuit ≠ .halfOpen)
    (left : after.calls = (s.set call none).calls) : after.OneProbe := by
  have free (other : τ) : after.probing other ≠ true := by
    have same : after.probing other = (s.set call none).probing other := by rw [probing, left]; rfl
    rw [same, probing_set]
    split
    · exact Bool.false_ne_true
    next apart => exact fun probes => apart (one.alone other call probes (sole (one.probe.mpr ⟨other, probes⟩)))
  exact ⟨⟨fun halfOpen => absurd halfOpen circuit, fun ⟨other, probes⟩ => absurd probes (free other)⟩, fun first _ probes => absurd probes (free first)⟩

theorem OneProbe.step (one : s.OneProbe) (met : s.meets op = true) : (s.perform (s.act op)).OneProbe := by
  unfold meets at met
  cases acts : s.act op with
  | nothing => exact one
  | waits => exact one.kept rfl fun _ => rfl
  | proceeds call running =>
    refine one.kept rfl fun other => probing_set.trans ?_
    split
    next same => rw [same, act_proceeds acts]; rfl
    next => rfl
  | passes call cfg =>
    rw [acts] at met
    have free := one.free (of_decide_eq_true met)
    have passes (other : τ) : (s.perform (.passes call cfg)).probing other = if other = call then decide (s.circuit = .opened) else false := by
      rw [← free other]
      exact probing_set
    have allowed : (s.perform (.passes call cfg)).circuit = ((s.entry cfg).allow s.clock).2.state := rfl
    rcases allow_cases (act_passes acts) with ⟨same, closed⟩ | ⟨opened, half, _⟩
    · rw [entry_state] at closed
      rw [same, entry_state] at allowed
      simp only [closed, decide_false, ite_self] at passes
      exact ⟨by simp [allowed, of_decide_eq_true met, passes], by simp [passes]⟩
    · rw [entry_state] at opened
      rw [half] at allowed
      simp only [opened, decide_true, Bool.if_false_right, Bool.and_true] at passes
      refine ⟨iff_of_true allowed ⟨call, by simp [passes]⟩, fun first second one other => ?_⟩
      rw [passes, decide_eq_true_eq] at one other
      exact one.trans other.symm
  | succeeds call =>
    rw [acts] at met
    refine one.ended (fun halfOpen => by simpa [halfOpen] using met) ?_ rfl
    unfold circuit perform recordSuccess set
    cases s.breaker <;> nofun
  | fails call cfg =>
    rw [acts] at met
    refine one.ended (fun halfOpen => by simpa [halfOpen] using met) ?_ rfl
    change ((s.entry cfg).onFailure s.clock).state ≠ .halfOpen
    unfold CircuitBreaker.onFailure
    dsimp only
    split
    · nofun
    next stays => exact fun halfOpen => stays (.inl halfOpen)
  | cancels call =>
    rw [acts] at met
    refine one.kept rfl fun other => probing_set.trans ?_
    split
    next same => simpa [same] using met.symm
    next => rfl

theorem Held.step {t : Nat} (held : s.Held t) (one : s.OneProbe) (met : s.meets op = true) : (s.perform (s.act op)).Held t := by
  obtain ⟨past, breaker, there, still⟩ := id held
  cases acts : s.act op with
  | nothing | proceeds | cancels => exact held
  | waits elapsed =>
    exact ⟨Nat.le_add_right_of_le past, breaker, there, still.imp Nat.le_add_right_of_le
      fun ⟨opened, since, its, first, last⟩ => ⟨opened, since, its, first, Nat.le_add_right_of_le last⟩⟩
  | passes call cfg =>
    rcases allow_cases (act_passes acts) with ⟨same, _⟩ | ⟨_, half, _⟩
    · exact ⟨past, breaker, congrArg some (same.trans (entry_eq there cfg)), still⟩
    · refine ⟨past, _, congrArg some half, .inl (held.passes acts)⟩
  | succeeds call =>
    refine ⟨past, breaker.onSuccess, congrArg (Option.map _) there, .inl ?_⟩
    rcases still with ended | ⟨opened, _⟩
    · exact ended
    · have circuit : s.circuit = .opened := by rw [circuit, there]; exact opened
      have free := one.free (by rw [circuit]; nofun) call
      simp [meets, acts, circuit, free] at met
  | fails call cfg =>
    refine ⟨past, _, congrArg (fun breaker => some (CircuitBreaker.onFailure breaker s.clock)) (entry_eq there cfg), ?_⟩
    unfold CircuitBreaker.onFailure
    dsimp only
    split
    · exact .inr ⟨rfl, _, rfl, past, Nat.le_refl _⟩
    · exact still

end Net

abbrev NetStep (τ : Type) : Type := Entry (Net τ) (NetOp τ)

section
open Net
variable {τ : Type} [DecidableEq τ] {history : List (NetStep τ)} {state : Net τ} {entry : NetStep τ}

/-- The failures that were recorded one after another, up to the last. -/
def failures : List (NetStep τ) → Nat
  | [] => 0
  | entry :: past =>
    match entry.before.act entry.op with
    | .succeeds _ => 0
    | .fails _ _ => failures past + 1
    | _ => failures past

end
end MindLeak.Core
