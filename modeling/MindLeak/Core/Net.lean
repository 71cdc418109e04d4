import MindLeak.Library.Runs

/-! The breaker in front of an optional endpoint, and the calls that pass it one beside another. -/

namespace MindLeak.Core

inductive CircuitState where
  | closed | opened | halfOpen
  deriving DecidableEq

/-- Times and durations are in nanoseconds. -/
structure CircuitBreaker where
  (threshold cooldown failures : Nat)
  state : CircuitState
  openedAt : Option Nat

structure HttpConfig where
  (retries breakerThreshold : UInt32)
  breakerCooldown : Nat

def U32_MAX : Nat := 4294967295

namespace CircuitBreaker

def new (threshold : UInt32) (cooldown : Nat) : CircuitBreaker := ⟨max threshold.toNat 1, cooldown, 0, .closed, none⟩

def allow (breaker : CircuitBreaker) (now : Nat) : Bool × CircuitBreaker :=
  match breaker.state with
  | .closed | .halfOpen => (true, breaker)
  | .opened =>
    let elapsed := (breaker.openedAt.map (now - ·)).getD breaker.cooldown
    if breaker.cooldown ≤ elapsed then (true, { breaker with state := .halfOpen }) else (false, breaker)

def onSuccess (breaker : CircuitBreaker) : CircuitBreaker := { breaker with failures := 0, state := .closed, openedAt := none }

def onFailure (breaker : CircuitBreaker) (now : Nat) : CircuitBreaker :=
  let failures := min (breaker.failures + 1) U32_MAX
  if breaker.state = .halfOpen ∨ breaker.threshold ≤ failures then
    { breaker with failures, state := .opened, openedAt := some now }
  else { breaker with failures }

end CircuitBreaker

inductive Stage where
  | resolving
  /-- Before the request with this many behind it. -/
  | attempting (attempt : Nat)
  /-- Before the pause that the next request comes after. -/
  | retrying (attempt : Nat)

structure HttpCall where
  cfg : HttpConfig
  stage : Stage
  /-- Whether it passed as the circuit was open; nothing in the code reads this. -/
  probes : Bool

/-- One endpoint: its entry of `breakers`, and the calls that are under way. -/
structure Net (τ : Type) where
  clock : Nat
  breaker : Option CircuitBreaker
  calls : τ → Option HttpCall

inductive Attempt where
  | succeeds
  | fails (retryable : Bool)

/-- `cancelled` is what `should_cancel` answers there. -/
inductive NetOp (τ : Type) where
  | tick (elapsed : Nat)
  | start (call : τ) (cfg : HttpConfig) (cancelled : Bool)
  | resolve (call : τ) (resolved : Bool)
  | attempt (call : τ) (cancelled : Bool) (answer : Attempt)
  | retry (call : τ) (cancelled : Bool)

inductive Act (τ : Type) where
  | nothing
  | waits (elapsed : Nat)
  | passes (call : τ) (cfg : HttpConfig)
  | proceeds (call : τ) (running : HttpCall)
  | succeeds (call : τ)
  | fails (call : τ) (cfg : HttpConfig)
  | cancels (call : τ)

namespace Net
variable {τ : Type} [DecidableEq τ]

def entry (s : Net τ) (cfg : HttpConfig) : CircuitBreaker :=
  s.breaker.getD (.new cfg.breakerThreshold cfg.breakerCooldown)

def circuit (s : Net τ) : CircuitState := (s.breaker.map CircuitBreaker.state).getD .closed

/-- `post_json_with_cancel`, a step at a time. -/
def act (s : Net τ) : NetOp τ → Act τ
  | .tick elapsed => .waits elapsed
  | .start call cfg cancelled =>
    if cancelled ∨ (s.calls call).isSome then .nothing
    else if ((s.entry cfg).allow s.clock).1 then .passes call cfg
    else .nothing
  | .resolve call resolved =>
    match s.calls call with
    | some ⟨cfg, .resolving, probes⟩ => if resolved then .proceeds call ⟨cfg, .attempting 0, probes⟩ else .fails call cfg
    | _ => .nothing
  | .attempt call cancelled answer =>
    match s.calls call with
    | some ⟨cfg, .attempting attempt, probes⟩ =>
      if cancelled then .cancels call
      else match answer with
        | .succeeds => .succeeds call
        | .fails retryable =>
          if retryable ∧ attempt + 1 ≤ cfg.retries.toNat then .proceeds call ⟨cfg, .retrying (attempt + 1), probes⟩
          else .fails call cfg
    | _ => .nothing
  | .retry call cancelled =>
    match s.calls call with
    | some ⟨cfg, .retrying attempt, probes⟩ =>
      if cancelled then .cancels call else .proceeds call ⟨cfg, .attempting attempt, probes⟩
    | _ => .nothing

def set (s : Net τ) (call : τ) (running : Option HttpCall) : Net τ :=
  { s with calls := Function.update s.calls call running }

def recordSuccess (s : Net τ) : Net τ := { s with breaker := s.breaker.map CircuitBreaker.onSuccess }

def recordFailure (s : Net τ) (cfg : HttpConfig) : Net τ :=
  { s with breaker := some ((s.entry cfg).onFailure s.clock) }

def perform (s : Net τ) : Act τ → Net τ
  | .nothing => s
  | .waits elapsed => { s with clock := s.clock + elapsed }
  | .passes call cfg =>
    { s with breaker := some ((s.entry cfg).allow s.clock).2 }.set call (some ⟨cfg, .resolving, decide (s.circuit = CircuitState.opened)⟩)
  | .proceeds call running => s.set call (some running)
  | .succeeds call => s.recordSuccess.set call none
  | .fails call cfg => (s.recordFailure cfg).set call none
  | .cancels call => s.set call none

end Net

end MindLeak.Core
