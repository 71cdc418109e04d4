import MindLeak.Library.Transactions

/-! Transactions that end with an error. What such a one read under locks is what the store holds
then; only a read without a lock may be older. -/

namespace MindLeak

open List

namespace Transaction
variable {σ κ : Type} {ρ : κ → Type} {ε α β : Type} {look : σ → (key : κ) → ρ key} {grows : σ → σ → Prop}
  {seen more known : σ → Prop} {s written after : σ} {error : ε}

def ofExcept : Except ε α → Transaction σ κ ρ ε α
  | .ok value => .pure value
  | .error error => .fail error

variable {next : α → Transaction σ κ ρ ε β} {result : Except ε α}

theorem Runs.ofExcept {answer : β}
    (runs : ((ofExcept result).bind next).Runs look s grows seen written after answer) :
    ∃ value, result = .ok value ∧ (next value).Runs look s grows seen written after answer := by
  cases result with
  | error => exact runs.elim
  | ok value => exact ⟨value, rfl, runs⟩

theorem Runs.ofExcept_only {answer : α}
    (runs : (Transaction.ofExcept result : Transaction σ κ ρ ε α).Runs look s grows seen written after answer) :
    result = .ok answer ∧ after = written := by
  cases result with
  | error => exact runs.elim
  | ok value =>
    obtain ⟨same, rfl⟩ := runs
    exact ⟨rfl, same⟩

@[simp] theorem within_ofExcept {ι : Type} {guards : (key : κ) → ρ key → List ι} {held : List ι}
    {post : α → List ι → Prop} : (ofExcept result : Transaction σ κ ρ ε α).Within look guards held post ↔
      ∀ value, result = .ok value → post value held := by
  cases result with
  | error | ok => simp [ofExcept, Within]

theorem within_checked {ι : Type} {guards : (key : κ) → ρ key → List ι} {held : List ι}
    {post : β → List ι → Prop} (rest : ∀ value, (next value).Within look guards held post) :
    ((ofExcept result).bind next).Within look guards held post := by
  cases result with
  | error => trivial
  | ok value => exact rest value

theorem exec_ofExcept :
    (ofExcept result : Transaction σ κ ρ ε α).exec look s written = result.map fun value => (value, written) := by
  cases result <;> rfl

/-- The program gives up at `s` with the error. -/
def Fails (look : σ → (key : κ) → ρ key) (s : σ) (grows : σ → σ → Prop) : Transaction σ κ ρ ε α → (σ → Prop) → ε → Prop
  | .pure _, _, _ => False
  | .fail error, _, raised => raised = error
  | .ask key takes next, seen, raised =>
    takes (look s key) = true ∧ Fails look s grows (next (look s key)) seen raised ∨
      ∃ earlier, seen earlier ∧ takes (look earlier key) = false ∧
        Fails look s grows (next (look earlier key)) (fun later => seen later ∧ grows earlier later) raised
  | .write _ next, seen, raised => Fails look s grows next seen raised

theorem Fails.mono {program : Transaction σ κ ρ ε α} (fails : program.Fails look s grows seen error)
    (wider : ∀ s, seen s → more s) : program.Fails look s grows more error := by
  induction program generalizing seen more with
  | pure | fail => exact fails
  | write update rest ih => exact ih fails wider
  | ask key takes rest ih =>
    rcases fails with ⟨taken, done⟩ | ⟨earlier, there, free, done⟩
    · exact .inl ⟨taken, ih _ done wider⟩
    · exact .inr ⟨earlier, wider earlier there, free, ih _ done fun later it => ⟨wider later it.1, it.2⟩⟩

theorem Fails.bind {program : Transaction σ κ ρ ε α}
    (fails : (program.bind next).Fails look s grows seen error) :
    program.Fails look s grows seen error ∨ ∃ middle value, program.Runs look s grows seen s middle value ∧
      (next value).Fails look s grows seen error := by
  suffices whole : ∀ written, program.Fails look s grows seen error ∨ ∃ middle value,
      program.Runs look s grows seen written middle value ∧ (next value).Fails look s grows seen error from whole s
  intro written
  induction program generalizing seen written with
  | pure value => exact .inr ⟨written, value, ⟨rfl, rfl⟩, fails⟩
  | fail raised => exact .inl fails
  | write update rest ih => exact ih fails _
  | ask key takes rest ih =>
    rcases fails with ⟨taken, done⟩ | ⟨earlier, there, free, done⟩
    · refine (ih _ done written).imp (fun first => .inl ⟨taken, first⟩) ?_
      rintro ⟨middle, value, runs, last⟩
      exact ⟨middle, value, .inl ⟨taken, runs⟩, last⟩
    · refine (ih _ done written).imp (fun first => .inr ⟨earlier, there, free, first⟩) ?_
      rintro ⟨middle, value, runs, last⟩
      exact ⟨middle, value, .inr ⟨earlier, there, free, runs⟩, last.mono fun _ it => it.1⟩

section
variable {key : κ} {takes : ρ key → Bool} {next : ρ key → Transaction σ κ ρ ε α}

theorem Fails.lock (fails : ((lock key).bind next).Fails look s grows seen error) :
    (next (look s key)).Fails look s grows seen error := by
  rcases fails with ⟨_, done⟩ | ⟨_, _, free, _⟩
  · exact done
  · cases free

theorem Fails.lockIf (fails : ((lockIf key takes).bind next).Fails look s grows seen error) :
    takes (look s key) = true ∧ (next (look s key)).Fails look s grows seen error ∨
      ∃ earlier, seen earlier ∧ takes (look earlier key) = false ∧ (next (look earlier key)).Fails look s grows seen error := by
  rcases fails with taken | ⟨earlier, there, free, done⟩
  · exact .inl taken
  · exact .inr ⟨earlier, there, free, done.mono fun _ it => it.1⟩

theorem Fails.ofExcept {result : Except ε β} {next : β → Transaction σ κ ρ ε α}
    (fails : ((ofExcept result).bind next).Fails look s grows seen error) :
    result = .error error ∨ ∃ value, result = .ok value ∧ (next value).Fails look s grows seen error := by
  cases result with
  | error raised => exact .inl (congrArg Except.error (Eq.symm fails))
  | ok value => exact .inr ⟨value, rfl, fails⟩

theorem Fails.mapError {ε' : Type} {program : Transaction σ κ ρ ε α} {wrap : ε → ε'} {raised : ε'}
    (fails : (program.mapError wrap).Fails look s grows seen raised) :
    ∃ error, raised = wrap error ∧ program.Fails look s grows seen error := by
  induction program generalizing seen with
  | pure => exact fails.elim
  | fail error => exact ⟨error, fails, rfl⟩
  | write update rest ih => exact ih fails
  | ask key takes rest ih =>
    rcases fails with ⟨taken, done⟩ | ⟨earlier, there, free, done⟩
    · obtain ⟨error, same, fails⟩ := ih _ done
      exact ⟨error, same, .inl ⟨taken, fails⟩⟩
    · obtain ⟨error, same, fails⟩ := ih _ done
      exact ⟨error, same, .inr ⟨earlier, there, free, fails⟩⟩

end

theorem Stands.fails {whole rest : Transaction σ κ ρ ε α} {pending : σ → σ} {held : List κ}
    (stands : Stands look grows seen s whole known pending rest held) (fails : rest.Fails look s grows known error) :
    whole.Fails look s grows seen error := by
  induction stands with
  | start => exact fails
  | write _ ih => exact ih fails
  | locked _ taken ih => exact ih (.inl ⟨taken, fails⟩)
  | read _ there free ih => exact ih (.inr ⟨_, there, free, fails⟩)

end Transaction

namespace Interleaving
variable {τ σ κ ι : Type} [DecidableEq τ] [DecidableEq ι] {ρ : κ → Type} {ε α ω : Type}
  {look : σ → (key : κ) → ρ key} {guards : (key : κ) → ρ key → List ι} {program : ω → Transaction σ κ ρ ε α} {start : σ}
  {history : List (Entry (Interleaving τ σ κ ι ρ ε α ω) (TransactionOp τ ω))} {state : Interleaving τ σ κ ι ρ ε α ω}

def Refusing (s : Interleaving τ σ κ ι ρ ε α ω) (op : TransactionOp τ ω) (call : ω) (error : ε) : Prop :=
  ∃ transaction heard pending, op = .step transaction heard ∧ s.standing transaction = .running call pending (.fail error)

def Stored (look : σ → (key : κ) → ρ key) (guards : (key : κ) → ρ key → List ι) (program : ω → Transaction σ κ ρ ε α) (start : σ)
    (history : List (Entry (Interleaving τ σ κ ι ρ ε α ω) (TransactionOp τ ω))) (store : σ) : Prop :=
  ∃ seen ∈ (interleaved τ look guards program start).visited history, seen.store = store

theorem run_sound (run : (interleaved τ look guards program start).Run history state)
    (within : ∀ call, (program call).Within look guards [] fun _ _ => True) :
    state.Sound look (fun _ _ => True) guards program (Stored look guards program start history) ∧
      Stored look guards program start history state.store := by
  induction run with
  | start => exact ⟨fun _ _ _ _ running => (by cases running), _, mem_singleton_self _, rfl⟩
  | @step history before past op ready ih =>
    obtain ⟨sound, known⟩ := ih
    have fresh : Stored look guards program start (⟨before, op, before.apply look guards program op⟩ :: history)
        (before.apply look guards program op).store := ⟨_, mem_cons_self, rfl⟩
    refine ⟨(sound.apply (fun _ => trivial) within known op).2 _ ?_ fresh fun _ _ => trivial, fresh⟩
    rintro earlier ⟨seen, member, rfl⟩
    exact ⟨seen, mem_cons_of_mem _ member, rfl⟩

theorem run_fails (run : (interleaved τ look guards program start).Run history state)
    (within : ∀ call, (program call).Within look guards [] fun _ _ => True)
    {entry : Entry (Interleaving τ σ κ ι ρ ε α ω) (TransactionOp τ ω)} (member : entry ∈ history) {call : ω} {error : ε}
    (refusing : entry.before.Refusing entry.op call error) :
    (program call).Fails look entry.before.store (fun _ _ => True) (Stored look guards program start history) error ∧
      entry.after.store = entry.before.store := by
  induction run with
  | start => cases member
  | @step history before past op ready ih =>
    have wider (earlier : σ) (there : Stored look guards program start history earlier) :
        Stored look guards program start (⟨before, op, before.apply look guards program op⟩ :: history) earlier := by
      obtain ⟨seen, member, rfl⟩ := there
      exact ⟨seen, mem_cons_of_mem _ member, rfl⟩
    rcases mem_cons.mp member with rfl | older
    · obtain ⟨transaction, heard, pending, its, standing⟩ := refusing
      obtain ⟨known, held, stands, _⟩ := (run_sound past within).1 transaction call pending _ standing
      refine ⟨(stands.fails rfl).mono wider, ?_⟩
      change op = _ at its
      change before.standing transaction = _ at standing
      change (before.apply look guards program op).store = before.store
      rw [its]
      simp only [apply, step, standing]
      rfl
    · exact ⟨(ih older).1.mono wider, (ih older).2⟩

theorem apply_running (s : Interleaving τ σ κ ι ρ ε α ω) (op : TransactionOp τ ω) {transaction : τ} {call : ω} {pending : σ → σ}
    {rest : Transaction σ κ ρ ε α} (now : (s.apply look guards program op).standing transaction = .running call pending rest) :
    s.standing transaction = .running call pending rest ∨ (s.apply look guards program op).store = s.store ∧
      (rest = program call ∨
        (∃ key takes next, s.standing transaction = .running call pending (.ask key takes next) ∧ rest = next (look s.store key)) ∨
        ∃ update earlier, s.standing transaction = .running call earlier (.write update rest)) := by
  cases op with
  | start mover started =>
    simp only [apply] at now ⊢
    split at now
    next idle =>
      rcases updated_cases now with same | ⟨rfl, moved⟩
      · exact .inl same
      · cases moved
        exact .inr ⟨rfl, .inl rfl⟩
    next => exact .inl now
  | fail mover =>
    simp only [apply] at now
    split at now
    next =>
      rcases updated_cases now with same | ⟨_, moved⟩
      · exact .inl same
      · cases moved
    next => exact .inl now
  | step mover heard =>
    change (s.step look guards mover heard).standing transaction = _ at now
    change _ ∨ (s.step look guards mover heard).store = _ ∧ _
    cases standing : s.standing mover with
    | idle | finished =>
      rw [step, standing] at now
      exact .inl now
    | running called written left =>
      cases left with
      | pure | fail =>
        rw [step, standing] at now
        rcases updated_cases now with same | ⟨_, moved⟩
        · exact .inl same
        · cases moved
      | write update next =>
        simp only [step, standing] at now ⊢
        rcases updated_cases now with same | ⟨rfl, moved⟩
        · exact .inl same
        · cases moved
          exact .inr ⟨rfl, .inr (.inr ⟨update, written, standing⟩)⟩
      | ask key takes next =>
        have asked {locks : ι → Option τ} (moved : ({ s.moveTo mover (.running called written (next (look s.store key))) with locks } :
            Interleaving τ σ κ ι ρ ε α ω).standing transaction = .running call pending rest) :
            s.standing transaction = .running call pending rest ∨ ∃ key takes next,
              s.standing transaction = .running call pending (.ask key takes next) ∧ rest = next (look s.store key) := by
          rcases updated_cases moved with same | ⟨rfl, its⟩
          · exact .inl same
          · cases its
            exact .inr ⟨key, takes, next, standing, rfl⟩
        simp only [step, standing] at now ⊢
        split at now
        next taken =>
          rw [if_pos taken]
          split at now
          next free =>
            rw [if_pos free]
            exact (asked now).imp id fun its => ⟨rfl, .inr (.inl its)⟩
          next => exact .inl now
        next untaken =>
          rw [if_neg untaken]
          exact (asked now).imp id fun its => ⟨rfl, .inr (.inl its)⟩

theorem run_answered (run : (interleaved τ look guards program start).Run history state)
    (within : ∀ call, (program call).Within look guards [] fun _ _ => True) {transaction : τ} {call : ω} {answer : α}
    (answered : state.standing transaction = .finished call (.answered (.ok answer))) :
    ∃ entry ∈ history, entry.before.Committing entry.op call answer := by
  induction run with
  | start => cases answered
  | @step history before past op ready ih =>
    have older (same : before.standing transaction = .finished call (.answered (.ok answer))) :
        ∃ entry ∈ (⟨before, op, before.apply look guards program op⟩ ::
          history : List (Entry (Interleaving τ σ κ ι ρ ε α ω) (TransactionOp τ ω))), entry.before.Committing entry.op call answer := by
      obtain ⟨entry, member, committing⟩ := ih same
      exact ⟨entry, mem_cons_of_mem _ member, committing⟩
    obtain ⟨_, _, moved⟩ := (run_steps (past.step op ready) within (fun _ => True) (fun _ _ => True) (fun _ => trivial)
      (fun _ _ => trivial) trivial fun _ _ _ _ _ _ _ => ⟨trivial, trivial⟩).2 _ mem_cons_self
    cases moved with
    | stays idle same silent => exact older (silent transaction call answer answered)
    | @commits mover heard called pending given its last ended commits =>
      change (before.apply look guards program op).standing = _ at ended
      change (before.apply look guards program op).standing transaction = _ at answered
      rw [ended] at answered
      rcases updated_cases answered with same | ⟨rfl, now⟩
      · exact older same
      refine ⟨_, mem_cons_self, transaction, heard, pending, its, ?_⟩
      cases heard with
      | false => cases now
      | true =>
        cases now
        exact last

end Interleaving

end MindLeak
