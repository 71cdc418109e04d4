import MindLeak.Library.Runs

/-! Transactions under row locks, at read committed. A statement reads one view of the committed
store. It may take the locks that guard the view with what it reads, and they are kept to the end;
what is written shows at the commit, all at once. Whoever writes only under locks does at its commit
what the whole program does there with nothing between its statements, plain reads apart. -/

namespace MindLeak

open List Function

inductive Transaction (σ κ : Type) (ρ : κ → Type) (ε α : Type) where
  | pure (value : α)
  /-- Everything is rolled back. -/
  | fail (error : ε)
  /-- `takes` is whether the view's locks are taken with what is read. Only then does the statement wait. -/
  | ask (key : κ) (takes : ρ key → Bool) (next : ρ key → Transaction σ κ ρ ε α)
  | write (update : σ → σ) (next : Transaction σ κ ρ ε α)

namespace Transaction
variable {σ κ : Type} {ρ : κ → Type} {ε α β : Type}

def bind (program : Transaction σ κ ρ ε α) (next : α → Transaction σ κ ρ ε β) : Transaction σ κ ρ ε β :=
  match program with
  | .pure value => next value
  | .fail error => .fail error
  | .ask key takes rest => .ask key takes fun value => (rest value).bind next
  | .write update rest => .write update (rest.bind next)

instance : Monad (Transaction σ κ ρ ε) where
  pure := .pure
  bind := .bind

@[simp] theorem pure_eq (value : α) : (Pure.pure value : Transaction σ κ ρ ε α) = .pure value := rfl
@[simp] theorem bind_eq (program : Transaction σ κ ρ ε α) (next : α → Transaction σ κ ρ ε β) :
    (program >>= next) = program.bind next := rfl

def read (key : κ) : Transaction σ κ ρ ε (ρ key) := .ask key (fun _ => false) .pure

/-- A statement that has the view from here on, whatever it reads there. -/
def lock (key : κ) : Transaction σ κ ρ ε (ρ key) := .ask key (fun _ => true) .pure

def lockIf (key : κ) (takes : ρ key → Bool) : Transaction σ κ ρ ε (ρ key) := .ask key takes .pure

def store (update : σ → σ) : Transaction σ κ ρ ε Unit := .write update (.pure ())

def result {ε' : Type} : Transaction σ κ ρ ε α → Transaction σ κ ρ ε' (Except ε α)
  | .pure value => .pure (.ok value)
  | .fail error => .pure (.error error)
  | .ask key takes rest => .ask key takes fun value => (rest value).result
  | .write update rest => .write update rest.result

def mapError {ε' : Type} (wrap : ε → ε') : Transaction σ κ ρ ε α → Transaction σ κ ρ ε' α
  | .pure value => .pure value
  | .fail error => .fail (wrap error)
  | .ask key takes rest => .ask key takes fun value => (rest value).mapError wrap
  | .write update rest => .write update (rest.mapError wrap)

section
variable (look : σ → (key : κ) → ρ key) (s : σ)

/-- One after another: `written` is what the program has made of the store so far. -/
def exec : Transaction σ κ ρ ε α → σ → Except ε (α × σ)
  | .pure value, written => .ok (value, written)
  | .fail error, _ => .error error
  | .ask key _ next, written => exec (next (look s key)) written
  | .write update next, written => exec next (update written)

def attempt (program : Transaction σ κ ρ ε α) : Except ε α × σ :=
  match program.exec look s s with
  | .ok (value, after) => (.ok value, after)
  | .error error => (.error error, s)

/-- The program goes through at `s`. What it reads without a lock it may have read earlier, in some
state that was seen, and each such read comes behind the one before. -/
def Runs (grows : σ → σ → Prop) : Transaction σ κ ρ ε α → (σ → Prop) → σ → σ → α → Prop
  | .pure value, _, written, after, answer => after = written ∧ answer = value
  | .fail _, _, _, _, _ => False
  | .ask key takes next, seen, written, after, answer =>
    takes (look s key) = true ∧ Runs grows (next (look s key)) seen written after answer ∨
      ∃ earlier, seen earlier ∧ takes (look earlier key) = false ∧
        Runs grows (next (look earlier key)) (fun later => seen later ∧ grows earlier later) written after answer
  | .write update next, seen, written, after, answer => Runs grows next seen (update written) after answer

def Raises : Transaction σ κ ρ ε α → ε → Prop
  | .pure _, _ => False
  | .fail error, raised => raised = error
  | .ask key _ next, raised => ∃ s, Raises (next (look s key)) raised
  | .write _ next, raised => Raises next raised

variable {ι : Type} (guards : (key : κ) → ρ key → List ι)

/-- The update changes no view whose own locks are none of those in `held`. -/
def Covers (held : List ι) (update : σ → σ) : Prop :=
  ∀ s key, (∀ guard ∈ guards key (look s key), guard ∉ held) → look (update s) key = look s key

/-- Everything is written under locks; `post` holds of the answer and of the locks at the end. -/
def Within : Transaction σ κ ρ ε α → List ι → (α → List ι → Prop) → Prop
  | .pure value, held, post => post value held
  | .fail _, _, _ => True
  | .ask key takes next, held, post =>
    ∀ s, Within (next (look s key)) (if takes (look s key) then guards key (look s key) ++ held else held) post
  | .write update next, held, post =>
    Covers look guards held update ∧ Within next held post

abbrev Guarded (program : Transaction σ κ ρ ε α) (held : List ι) : Prop := program.Within look guards held fun _ _ => True

end

variable {look : σ → (key : κ) → ρ key} {ι : Type} {guards : (key : κ) → ρ key → List ι} {grows : σ → σ → Prop}
  {seen : σ → Prop} {s written after : σ} {held : List ι}
variable {program : Transaction σ κ ρ ε α} {next : α → Transaction σ κ ρ ε β}

theorem Runs.mono {more : σ → Prop} {answer : α}
    (runs : program.Runs look s grows seen written after answer) (wider : ∀ s, seen s → more s) :
    program.Runs look s grows more written after answer := by
  induction program generalizing written seen more with
  | pure | fail => exact runs
  | write update rest ih => exact ih runs wider
  | ask key takes rest ih =>
    rcases runs with ⟨taken, done⟩ | ⟨earlier, known, free, done⟩
    · exact .inl ⟨taken, ih _ done wider⟩
    · exact .inr ⟨earlier, wider earlier known, free, ih _ done fun later there => ⟨wider later there.1, there.2⟩⟩

theorem Runs.bind {answer : β}
    (runs : (program.bind next).Runs look s grows seen written after answer) :
    ∃ middle value, program.Runs look s grows seen written middle value ∧
      (next value).Runs look s grows seen middle after answer := by
  induction program generalizing written seen with
  | pure value => exact ⟨written, value, ⟨rfl, rfl⟩, runs⟩
  | fail error => exact runs.elim
  | write update rest ih => exact ih runs
  | ask key takes rest ih =>
    rcases runs with ⟨taken, done⟩ | ⟨earlier, known, free, done⟩
    · obtain ⟨middle, value, first, last⟩ := ih _ done
      exact ⟨middle, value, .inl ⟨taken, first⟩, last⟩
    · obtain ⟨middle, value, first, last⟩ := ih _ done
      exact ⟨middle, value, .inr ⟨earlier, known, free, first⟩, last.mono fun _ there => there.1⟩

section
variable {key : κ} {takes : ρ key → Bool} {next : ρ key → Transaction σ κ ρ ε α} {answer : α}

section
variable (runs : ((read key).bind next).Runs look s grows seen written after answer)
include runs

theorem Runs.readOn :
    ∃ earlier, seen earlier ∧
      (next (look earlier key)).Runs look s grows (fun later => seen later ∧ grows earlier later) written after answer := by
  rcases runs with ⟨taken, _⟩ | ⟨earlier, known, _, done⟩
  · cases taken
  · exact ⟨earlier, known, done⟩

theorem Runs.readAs :
    ∃ value earlier, seen earlier ∧ look earlier key = value ∧ (next value).Runs look s grows seen written after answer := by
  obtain ⟨earlier, known, done⟩ := runs.readOn
  exact ⟨_, earlier, known, rfl, done.mono fun _ there => there.1⟩

theorem Runs.read :
    ∃ earlier, seen earlier ∧ (next (look earlier key)).Runs look s grows seen written after answer := by
  obtain ⟨_, earlier, known, rfl, done⟩ := runs.readAs
  exact ⟨earlier, known, done⟩

end

theorem Runs.read_only {answer : ρ key} (runs : (Transaction.read key : Transaction σ κ ρ ε (ρ key)).Runs look s grows seen written after answer) :
    ∃ earlier, seen earlier ∧ after = written ∧ answer = look earlier key := by
  rcases runs with ⟨taken, _⟩ | ⟨earlier, known, _, done⟩
  · cases taken
  · exact ⟨earlier, known, done⟩

theorem Runs.lockAs (runs : ((lock key).bind next).Runs look s grows seen written after answer) :
    ∃ value, look s key = value ∧ (next value).Runs look s grows seen written after answer := by
  rcases runs with ⟨_, done⟩ | ⟨_, _, free, _⟩
  · exact ⟨_, rfl, done⟩
  · cases free

theorem Runs.lock (runs : ((lock key).bind next).Runs look s grows seen written after answer) :
    (next (look s key)).Runs look s grows seen written after answer := by
  obtain ⟨_, rfl, done⟩ := runs.lockAs
  exact done

theorem Runs.lockOn (runs : ((lockIf key takes).bind next).Runs look s grows seen written after answer) :
    (∃ value, look s key = value ∧ takes value = true ∧ (next value).Runs look s grows seen written after answer) ∨
      ∃ value earlier, seen earlier ∧ look earlier key = value ∧ takes value = false ∧
        (next value).Runs look s grows seen written after answer := by
  rcases runs with ⟨taken, done⟩ | ⟨earlier, known, free, done⟩
  · exact .inl ⟨_, rfl, taken, done⟩
  · exact .inr ⟨_, earlier, known, rfl, free, done.mono fun _ there => there.1⟩

theorem Runs.lockIf (runs : ((lockIf key takes).bind next).Runs look s grows seen written after answer) :
    takes (look s key) = true ∧ (next (look s key)).Runs look s grows seen written after answer ∨
      ∃ earlier, seen earlier ∧ takes (look earlier key) = false ∧
        (next (look earlier key)).Runs look s grows seen written after answer := by
  rcases runs with taken | ⟨earlier, known, free, done⟩
  · exact .inl taken
  · exact .inr ⟨earlier, known, free, done.mono fun _ there => there.1⟩

theorem Runs.past {c : Prop} [Decidable c] {error : ε} {rest : Transaction σ κ ρ ε α}
    (runs : (if c then .fail error else rest : Transaction σ κ ρ ε α).Runs look s grows seen written after answer) :
    ¬c ∧ rest.Runs look s grows seen written after answer := by
  split at runs
  next => exact runs.elim
  next passed => exact ⟨passed, runs⟩

theorem Runs.store {update : σ → σ} {next : Unit → Transaction σ κ ρ ε α}
    (runs : ((store update).bind next).Runs look s grows seen written after answer) :
    (next ()).Runs look s grows seen (update written) after answer := runs

end

variable {ε' : Type}

theorem Runs.result_bind {outcome : Except ε β}
    (runs : ((program.bind next).result : Transaction σ κ ρ ε' (Except ε β)).Runs look s grows seen written after outcome) :
    (∃ error, outcome = .error error ∧
        (program.result : Transaction σ κ ρ ε' (Except ε α)).Runs look s grows seen written after (.error error)) ∨
      ∃ middle value, program.Runs look s grows seen written middle value ∧
        ((next value).result : Transaction σ κ ρ ε' (Except ε β)).Runs look s grows seen middle after outcome := by
  induction program generalizing written seen with
  | pure value => exact .inr ⟨written, value, ⟨rfl, rfl⟩, runs⟩
  | fail error => exact .inl ⟨error, runs.2, runs.1, rfl⟩
  | write update rest ih => exact ih runs
  | ask key takes rest ih =>
    rcases runs with ⟨taken, done⟩ | ⟨earlier, known, free, done⟩
    · rcases ih _ done with ⟨error, same, failed⟩ | ⟨middle, value, first, last⟩
      · exact .inl ⟨error, same, .inl ⟨taken, failed⟩⟩
      · exact .inr ⟨middle, value, .inl ⟨taken, first⟩, last⟩
    · rcases ih _ done with ⟨error, same, failed⟩ | ⟨middle, value, first, last⟩
      · exact .inl ⟨error, same, .inr ⟨earlier, known, free, failed⟩⟩
      · exact .inr ⟨middle, value, .inr ⟨earlier, known, free, first⟩, last.mono fun _ there => there.1⟩

theorem Raises.bind {error : ε}
    (raises : (program.bind next).Raises look error) : program.Raises look error ∨ ∃ value, (next value).Raises look error := by
  induction program with
  | pure value => exact .inr ⟨value, raises⟩
  | fail => exact .inl raises
  | write update rest ih => exact ih raises
  | ask key takes rest ih =>
    obtain ⟨s, there⟩ := raises
    exact (ih _ there).imp (fun first => ⟨s, first⟩) id

theorem Raises.ask {key : κ} {takes : ρ key → Bool} {next : ρ key → Transaction σ κ ρ ε α} {error : ε}
    (raises : ((lockIf key takes).bind next).Raises look error) : ∃ s, (next (look s key)).Raises look error := raises

theorem Runs.raises {error : ε}
    (runs : (program.result : Transaction σ κ ρ ε' (Except ε α)).Runs look s grows seen written after (.error error)) :
    program.Raises look error := by
  induction program generalizing written seen with
  | pure => cases runs.2
  | fail => exact Except.error.inj runs.2
  | write update rest ih => exact ih runs
  | ask key takes rest ih =>
    rcases runs with ⟨_, done⟩ | ⟨earlier, _, _, done⟩
    · exact ⟨s, ih _ done⟩
    · exact ⟨earlier, ih _ done⟩

theorem Runs.result_ok {value : α}
    (runs : (program.result : Transaction σ κ ρ ε' (Except ε α)).Runs look s grows seen written after (.ok value)) :
    program.Runs look s grows seen written after value := by
  induction program generalizing written seen with
  | pure =>
    obtain ⟨rfl, same⟩ := runs
    exact ⟨rfl, Except.ok.inj same⟩
  | fail => cases runs.2
  | write update rest ih => exact ih runs
  | ask key takes rest ih =>
    rcases runs with ⟨taken, done⟩ | ⟨earlier, known, free, done⟩
    · exact .inl ⟨taken, ih _ done⟩
    · exact .inr ⟨earlier, known, free, ih _ done⟩

theorem Runs.mapError {wrap : ε → ε'} {answer : α}
    (runs : (program.mapError wrap).Runs look s grows seen written after answer) :
    program.Runs look s grows seen written after answer := by
  induction program generalizing written seen with
  | pure => exact runs
  | fail => exact runs.elim
  | write update rest ih => exact ih runs
  | ask key takes rest ih =>
    rcases runs with ⟨taken, done⟩ | ⟨earlier, known, free, done⟩
    · exact .inl ⟨taken, ih _ done⟩
    · exact .inr ⟨earlier, known, free, ih _ done⟩

variable {post : β → List ι → Prop}

theorem within_bind :
    (program.bind next).Within look guards held post ↔
      program.Within look guards held fun value held => (next value).Within look guards held post := by
  induction program generalizing held with
  | pure | fail => exact Iff.rfl
  | write update rest ih => exact and_congr_right fun _ => ih
  | ask key takes rest ih => exact forall_congr' fun s => ih (look s key)

theorem Within.mono {post weaker : α → List ι → Prop} (within : program.Within look guards held post)
    (implies : ∀ value held, post value held → weaker value held) : program.Within look guards held weaker := by
  induction program generalizing held with
  | pure value => exact implies value held within
  | fail error => trivial
  | write update rest ih => exact ⟨within.1, ih within.2⟩
  | ask key takes rest ih => exact fun s => ih (look s key) (within s)

theorem Within.bind {middle : α → List ι → Prop}
    (first : program.Within look guards held middle)
    (rest : ∀ value held, middle value held → (next value).Within look guards held post) :
    (program.bind next).Within look guards held post := within_bind.mpr (first.mono rest)

theorem Within.grown {post : α → List ι → Prop} {base : List ι}
    (within : program.Within look guards held post) (kept : base ⊆ held) :
    program.Within look guards held fun value held => post value held ∧ base ⊆ held := by
  induction program generalizing held with
  | pure => exact ⟨within, kept⟩
  | fail => trivial
  | write update rest ih => exact ⟨within.1, ih within.2 kept⟩
  | ask key takes rest ih =>
    intro s
    refine ih (look s key) (within s) ?_
    split
    · exact subset_append_of_subset_right _ kept
    · exact kept

theorem Within.follow {middle : α → List ι → Prop}
    (first : program.Within look guards held middle)
    (rest : ∀ value more, middle value more → held ⊆ more → (next value).Within look guards more post) :
    (program.bind next).Within look guards held post :=
  (first.grown (List.Subset.refl held)).bind fun value more kept => rest value more kept.1 kept.2

theorem within_mapError {wrap : ε → ε'} {post : α → List ι → Prop} :
    (program.mapError wrap).Within look guards held post ↔ program.Within look guards held post := by
  induction program generalizing held with
  | pure | fail => exact Iff.rfl
  | write update rest ih => exact and_congr_right fun _ => ih
  | ask key takes rest ih => exact forall_congr' fun s => ih (look s key)

theorem Guarded.result (guarded : program.Guarded look guards held) :
    (program.result : Transaction σ κ ρ ε' (Except ε α)).Guarded look guards held := by
  induction program generalizing held with
  | pure | fail => trivial
  | write update rest ih => exact ⟨guarded.1, ih guarded.2⟩
  | ask key takes rest ih => exact fun s => ih (look s key) (guarded s)

theorem within_select {key : κ} {next : ρ key → Transaction σ κ ρ ε β}
    (rest : ∀ s, (next (look s key)).Within look guards held post) : ((read key).bind next).Within look guards held post := rest

theorem within_selectLocked {key : κ} {next : ρ key → Transaction σ κ ρ ε β}
    (rest : ∀ s, (next (look s key)).Within look guards (guards key (look s key) ++ held) post) :
    ((lock key).bind next).Within look guards held post := rest

theorem within_selectIf {key : κ} {takes : ρ key → Bool} {next : ρ key → Transaction σ κ ρ ε β}
    (rest : ∀ s, (next (look s key)).Within look guards (if takes (look s key) then guards key (look s key) ++ held else held) post) :
    ((lockIf key takes).bind next).Within look guards held post := rest

theorem within_execute {update : σ → σ} {next : Unit → Transaction σ κ ρ ε β} (covers : Covers look guards held update)
    (rest : (next ()).Within look guards held post) : ((store update).bind next).Within look guards held post := ⟨covers, rest⟩

theorem exec_bind :
    (program.bind next).exec look s written =
      (program.exec look s written).bind fun done => (next done.1).exec look s done.2 := by
  induction program generalizing written with
  | pure | fail => rfl
  | write update rest ih => exact ih
  | ask key takes rest ih => exact ih (look s key)

section
variable {key : κ} {takes : ρ key → Bool} {update : σ → σ}

theorem exec_pure {value : α} : (.pure value : Transaction σ κ ρ ε α).exec look s written = .ok (value, written) := rfl

theorem exec_fail {error : ε} : (.fail error : Transaction σ κ ρ ε α).exec look s written = .error error := rfl

theorem exec_read : (read key : Transaction σ κ ρ ε (ρ key)).exec look s written = .ok (look s key, written) := rfl

theorem exec_lock : (lock key : Transaction σ κ ρ ε (ρ key)).exec look s written = .ok (look s key, written) := rfl

theorem exec_lockIf : (lockIf key takes : Transaction σ κ ρ ε (ρ key)).exec look s written = .ok (look s key, written) := rfl

theorem exec_mapError {ε' : Type} {wrap : ε → ε'} :
    (program.mapError wrap).exec look s written = (program.exec look s written).mapError wrap := by
  induction program generalizing written with
  | pure | fail => rfl
  | write update rest ih => exact ih
  | ask key takes rest ih => exact ih (look s key)

theorem attempt_ok {answer : α} (done : program.exec look s s = .ok (answer, after)) :
    program.attempt look s = (.ok answer, after) := by rw [attempt, done]

theorem attempt_failed {error : ε} (failed : program.exec look s s = .error error) :
    program.attempt look s = (.error error, s) := by rw [attempt, failed]

end

theorem exec_runs {answer : α} (refl : ∀ s, grows s s) (known : seen s)
    (done : program.exec look s written = .ok (answer, after)) : program.Runs look s grows seen written after answer := by
  induction program generalizing written seen with
  | pure value =>
    cases done
    exact ⟨rfl, rfl⟩
  | fail error => cases done
  | write update rest ih => exact ih known done
  | ask key takes rest ih =>
    cases taken : takes (look s key) with
    | true => exact .inl ⟨taken, ih _ known done⟩
    | false => exact .inr ⟨s, known, taken, ih _ ⟨known, refl s⟩ done⟩

theorem attempt_runs {answer : α} (refl : ∀ s, grows s s) (known : seen s)
    (done : program.attempt look s = (.ok answer, after)) : program.Runs look s grows seen s after answer := by
  refine exec_runs refl known ?_
  unfold attempt at done
  split at done
  on_goal 2 => cases done
  rename_i value last through
  cases done
  exact through

theorem attempt_error {error : ε} (failed : (program.attempt look s).1 = .error error) :
    (program.attempt look s).2 = s := by
  unfold attempt at failed ⊢
  cases done : program.exec look s s with
  | error => rfl
  | ok => rw [done] at failed; cases failed

end Transaction

inductive Ending (ε α : Type) where
  /-- By itself, with a commit or rolled back. -/
  | answered (answer : Except ε α)
  /-- It was committed, but the answer was lost. -/
  | unheard
  /-- A statement or the connection failed, and everything was rolled back. -/
  | failed

inductive Standing (σ κ : Type) (ρ : κ → Type) (ε α ω : Type) where
  | idle
  /-- What the call has written so far, and what is left of its program. -/
  | running (call : ω) (pending : σ → σ) (rest : Transaction σ κ ρ ε α)
  | finished (call : ω) (ending : Ending ε α)

structure Interleaving (τ σ κ ι : Type) (ρ : κ → Type) (ε α ω : Type) where
  store : σ
  locks : ι → Option τ
  standing : τ → Standing σ κ ρ ε α ω

inductive TransactionOp (τ ω : Type) where
  | start (transaction : τ) (call : ω)
  /-- The next statement, or the commit; `heard` is whether the answer to that one arrives. -/
  | step (transaction : τ) (heard : Bool)
  | fail (transaction : τ)

namespace Interleaving
variable {τ σ κ ι : Type} [DecidableEq τ] [DecidableEq ι] {ρ : κ → Type} {ε α ω : Type}

def moveTo (s : Interleaving τ σ κ ι ρ ε α ω) (transaction : τ) (standing : Standing σ κ ρ ε α ω) :
    Interleaving τ σ κ ι ρ ε α ω :=
  { s with standing := Function.update s.standing transaction standing }

def finish (s : Interleaving τ σ κ ι ρ ε α ω) (transaction : τ) (call : ω) (ending : Ending ε α) :
    Interleaving τ σ κ ι ρ ε α ω :=
  { s.moveTo transaction (.finished call ending) with
    locks := fun guard => (s.locks guard).filter (· ≠ transaction) }

def step (look : σ → (key : κ) → ρ key) (guards : (key : κ) → ρ key → List ι) (s : Interleaving τ σ κ ι ρ ε α ω) (transaction : τ)
    (heard : Bool) : Interleaving τ σ κ ι ρ ε α ω :=
  match s.standing transaction with
  | .idle | .finished _ _ => s
  | .running call pending (.pure value) =>
    { s with store := pending s.store }.finish transaction call (if heard then .answered (.ok value) else .unheard)
  | .running call _ (.fail error) => s.finish transaction call (.answered (.error error))
  | .running call pending (.write update next) => s.moveTo transaction (.running call (update ∘ pending) next)
  | .running call pending (.ask key takes next) =>
    let value := look s.store key
    let moved := s.moveTo transaction (.running call pending (next value))
    if takes value then
      if (guards key value).all fun guard => (s.locks guard).all (· = transaction) then
        { moved with locks := fun guard => if guard ∈ guards key value then some transaction else s.locks guard }
      else s
    else moved

def apply (look : σ → (key : κ) → ρ key) (guards : (key : κ) → ρ key → List ι) (program : ω → Transaction σ κ ρ ε α)
    (s : Interleaving τ σ κ ι ρ ε α ω) : TransactionOp τ ω → Interleaving τ σ κ ι ρ ε α ω
  | .start transaction call =>
    match s.standing transaction with
    | .idle => s.moveTo transaction (.running call id (program call))
    | _ => s
  | .step transaction heard => s.step look guards transaction heard
  | .fail transaction =>
    match s.standing transaction with
    | .running call _ _ => s.finish transaction call .failed
    | _ => s

end Interleaving

def interleaved {σ κ ι : Type} {ρ : κ → Type} {ε α ω : Type} (τ : Type) [DecidableEq τ] [DecidableEq ι]
    (look : σ → (key : κ) → ρ key) (guards : (key : κ) → ρ key → List ι) (program : ω → Transaction σ κ ρ ε α) (store : σ) :
    Machine (Interleaving τ σ κ ι ρ ε α ω) (TransactionOp τ ω) where
  start := ⟨store, fun _ => none, fun _ => .idle⟩
  enabled _ _ := True
  apply := Interleaving.apply look guards program

namespace Transaction
variable {σ κ : Type} {ρ : κ → Type} {ε α : Type}

/-- Where a program stands: `pending` is what it has written, `rest` what is left of it, and `known`
where it can have read last. What it read under the locks of `held` is there still. -/
inductive Stands (look : σ → (key : κ) → ρ key) (grows : σ → σ → Prop) (seen : σ → Prop) (s : σ) (whole : Transaction σ κ ρ ε α) :
    (σ → Prop) → (σ → σ) → Transaction σ κ ρ ε α → List κ → Prop
  | start : Stands look grows seen s whole seen id whole []
  | write {known : σ → Prop} {pending update : σ → σ} {next : Transaction σ κ ρ ε α} {held : List κ}
      (before : Stands look grows seen s whole known pending (.write update next) held) :
      Stands look grows seen s whole known (update ∘ pending) next held
  | locked {known : σ → Prop} {pending : σ → σ} {key : κ} {takes : ρ key → Bool} {next : ρ key → Transaction σ κ ρ ε α}
      {held : List κ} (before : Stands look grows seen s whole known pending (.ask key takes next) held)
      (taken : takes (look s key) = true) : Stands look grows seen s whole known pending (next (look s key)) (key :: held)
  | read {known : σ → Prop} {pending : σ → σ} {key : κ} {takes : ρ key → Bool} {next : ρ key → Transaction σ κ ρ ε α}
      {held : List κ} (before : Stands look grows seen s whole known pending (.ask key takes next) held) {earlier : σ}
      (there : known earlier) (free : takes (look earlier key) = false) :
      Stands look grows seen s whole (fun later => known later ∧ grows earlier later) pending (next (look earlier key)) held

variable {look : σ → (key : κ) → ρ key} {grows : σ → σ → Prop} {seen more known : σ → Prop} {s after : σ}
  {whole rest : Transaction σ κ ρ ε α} {pending : σ → σ} {held : List κ} {answer : α}

theorem Stands.runs (stands : Stands look grows seen s whole known pending rest held)
    (runs : rest.Runs look s grows known (pending s) after answer) : whole.Runs look s grows seen s after answer := by
  induction stands with
  | start => exact runs
  | write _ ih => exact ih runs
  | locked _ taken ih => exact ih (.inl ⟨taken, runs⟩)
  | read _ there free ih => exact ih (.inr ⟨_, there, free, runs⟩)

theorem Stands.stays (stands : Stands look grows seen s whole known pending rest held) (wider : ∀ s, seen s → more s)
    (same : ∀ key ∈ held, look after key = look s key) (fresh : more after) (grown : ∀ earlier, grows earlier s → grows earlier after) :
    ∃ known', Stands look grows more after whole known' pending rest held ∧ (∀ earlier, known earlier → known' earlier) ∧
      (known s → known' after) := by
  induction stands with
  | start => exact ⟨more, .start, wider, fun _ => fresh⟩
  | write _ ih =>
    obtain ⟨known', stands, wide, now⟩ := ih same
    exact ⟨known', stands.write, wide, now⟩
  | locked _ taken ih =>
    rw [forall_mem_cons] at same
    obtain ⟨known', stands, wide, now⟩ := ih same.2
    rw [← same.1] at taken ⊢
    exact ⟨known', stands.locked taken, wide, now⟩
  | read _ there free ih =>
    obtain ⟨known', stands, wide, now⟩ := ih same
    exact ⟨_, stands.read (wide _ there) free, fun earlier it => ⟨wide earlier it.1, it.2⟩, fun it => ⟨now it.1, grown _ it.2⟩⟩

variable {ι : Type} {guards : (key : κ) → ρ key → List ι}

theorem Stands.within (stands : Stands look grows seen s whole known pending rest held)
    (within : whole.Within look guards [] fun _ _ => True) :
    (∀ s' key, (∀ guard ∈ guards key (look s' key), guard ∉ held.flatMap fun mine => guards mine (look s mine)) →
        look (pending s') key = look s' key) ∧
      rest.Within look guards (held.flatMap fun mine => guards mine (look s mine)) fun _ _ => True := by
  induction stands with
  | start => exact ⟨fun _ _ _ => rfl, within⟩
  | write _ ih =>
    obtain ⟨past, apart, rest⟩ := ih
    refine ⟨fun s' key free => ?_, rest⟩
    have still := past s' key free
    exact (apart _ key (by rwa [still])).trans still
  | locked _ taken ih =>
    obtain ⟨past, rest⟩ := ih
    have next := rest s
    rw [if_pos taken] at next
    exact ⟨fun s' key free => past s' key fun guard its inside => free guard its (mem_append_right _ inside), next⟩
  | @read _ _ key _ _ _ _ earlier _ free ih =>
    obtain ⟨past, rest⟩ := ih
    have next := rest earlier
    rw [free] at next
    exact ⟨past, next⟩

end Transaction

namespace Interleaving
variable {τ σ κ ι : Type} [DecidableEq τ] [DecidableEq ι] {ρ : κ → Type} {ε α ω : Type}
  {look : σ → (key : κ) → ρ key} {guards : (key : κ) → ρ key → List ι} {program : ω → Transaction σ κ ρ ε α} {start : σ}

def Sound (look : σ → (key : κ) → ρ key) (grows : σ → σ → Prop) (guards : (key : κ) → ρ key → List ι)
    (program : ω → Transaction σ κ ρ ε α) (seen : σ → Prop) (s : Interleaving τ σ κ ι ρ ε α ω) : Prop :=
  ∀ transaction call pending rest, s.standing transaction = .running call pending rest →
    ∃ known held, Transaction.Stands look grows seen s.store (program call) known pending rest held ∧ known s.store ∧
      ∀ key ∈ held, ∀ guard ∈ guards key (look s.store key), s.locks guard = some transaction

def Commits (look : σ → (key : κ) → ρ key) (grows : σ → σ → Prop) (program : ω → Transaction σ κ ρ ε α) (seen : σ → Prop)
    (before after : σ) (call : ω) (answer : α) : Prop := (program call).Runs look before grows seen before after answer

def Committing (s : Interleaving τ σ κ ι ρ ε α ω) (op : TransactionOp τ ω) (call : ω) (answer : α) : Prop :=
  ∃ transaction heard pending, op = .step transaction heard ∧ s.standing transaction = .running call pending (.pure answer)

inductive Moved (look : σ → (key : κ) → ρ key) (grows : σ → σ → Prop) (program : ω → Transaction σ κ ρ ε α) (seen : σ → Prop)
    (s : Interleaving τ σ κ ι ρ ε α ω) (op : TransactionOp τ ω) (after : Interleaving τ σ κ ι ρ ε α ω) : Prop where
  | stays (idle : ∀ call answer, ¬s.Committing op call answer) (same : after.store = s.store)
      (silent : ∀ transaction call answer, after.standing transaction = .finished call (.answered (.ok answer)) →
        s.standing transaction = .finished call (.answered (.ok answer)))
  | commits {transaction : τ} {heard : Bool} {call : ω} {pending : σ → σ} {answer : α} (its : op = .step transaction heard)
      (last : s.standing transaction = .running call pending (.pure answer))
      (ended : after.standing = Function.update s.standing transaction
        (.finished call (if heard then .answered (.ok answer) else .unheard)))
      (commits : Commits look grows program seen s.store after.store call answer)

variable {grows : σ → σ → Prop} {seen more : σ → Prop} {s : Interleaving τ σ κ ι ρ ε α ω} {transaction : τ} {call : ω}

omit [DecidableEq ι] in
theorem Sound.moveTo (sound : s.Sound look grows guards program seen) {standing : Standing σ κ ρ ε α ω} {locks : ι → Option τ}
    (keeps : ∀ guard holder, s.locks guard = some holder → locks guard = some holder)
    (own : ∀ call pending rest, standing = .running call pending rest →
      ∃ known held, Transaction.Stands look grows seen s.store (program call) known pending rest held ∧ known s.store ∧
        ∀ key ∈ held, ∀ guard ∈ guards key (look s.store key), locks guard = some transaction) :
    ({ s.moveTo transaction standing with locks } : Interleaving τ σ κ ι ρ ε α ω).Sound look grows guards program seen := by
  intro other call pending rest running
  change update s.standing transaction standing other = _ at running
  rw [update_apply] at running
  split at running
  next same =>
    subst same
    exact own call pending rest running
  next =>
    obtain ⟨known, held, stands, now, locked⟩ := sound other call pending rest running
    exact ⟨known, held, stands, now, fun key inside guard its => keeps guard other (locked key inside guard its)⟩

omit [DecidableEq ι] in
theorem Sound.finish (sound : s.Sound look grows guards program seen) {store : σ} {ending : Ending ε α}
    (wider : ∀ s, seen s → more s) (fresh : more store) (grown : ∀ earlier, grows earlier s.store → grows earlier store)
    (keeps : ∀ key other, other ≠ transaction → (∀ guard ∈ guards key (look s.store key), s.locks guard = some other) →
      look store key = look s.store key) :
    (({ s with store } : Interleaving τ σ κ ι ρ ε α ω).finish transaction call ending).Sound look grows guards program more := by
  intro other called pending rest running
  change update s.standing transaction _ other = _ at running
  rw [update_apply] at running
  obtain ⟨apart, running⟩ := else_of_ne running nofun
  obtain ⟨known, held, stands, now, locked⟩ := sound other called pending rest running
  have same := fun key inside => keeps key other apart (locked key inside)
  obtain ⟨known', stands', _, later⟩ := stands.stays wider same fresh grown
  refine ⟨known', held, stands', later now, ?_⟩
  intro key inside guard its
  change guard ∈ guards key (look store key) at its
  rw [same key inside] at its
  change (s.locks guard).filter (· ≠ transaction) = some other
  rw [locked key inside guard its]
  simp [apart]

omit [DecidableEq ι] in
theorem Moved.silently {op : TransactionOp τ ω} {after : Interleaving τ σ κ ι ρ ε α ω} {standing : Standing σ κ ρ ε α ω}
    (idle : ∀ call answer, ¬s.Committing op call answer) (same : after.store = s.store) (moves : after.standing = update s.standing transaction standing)
    (unanswered : ∀ call answer, standing ≠ .finished call (.answered (.ok answer))) :
    Moved look grows program seen s op after := by
  refine .stays idle same fun other call answer finished => ?_
  rw [moves] at finished
  exact updated_of_ne finished (unanswered call answer)

omit [DecidableEq ι] in
theorem Moved.committed {op : TransactionOp τ ω} {after : Interleaving τ σ κ ι ρ ε α ω} {answer : α}
    (moved : Moved look grows program seen s op after) (committing : s.Committing op call answer) :
    Commits look grows program seen s.store after.store call answer := by
  cases moved with
  | stays idle => exact absurd committing (idle call answer)
  | commits its last ended commits =>
    obtain ⟨transaction, heard, pending, same, standing⟩ := committing
    cases its.symm.trans same
    cases last.symm.trans standing
    exact commits

omit [DecidableEq ι] in
theorem Moved.cases {op : TransactionOp τ ω} {after : Interleaving τ σ κ ι ρ ε α ω} (moved : Moved look grows program seen s op after) :
    ((∀ call answer, ¬s.Committing op call answer) ∧ after.store = s.store) ∨ ∃ call answer, s.Committing op call answer ∧
      Commits look grows program seen s.store after.store call answer := by
  cases moved with
  | stays idle same => exact .inl ⟨idle, same⟩
  | commits its last ended commits => exact .inr ⟨_, _, ⟨_, _, _, its, last⟩, commits⟩

/-- What a step does, and that the rest stands as it stood once its store is one that can be read. -/
def Steps (look : σ → (key : κ) → ρ key) (grows : σ → σ → Prop) (guards : (key : κ) → ρ key → List ι)
    (program : ω → Transaction σ κ ρ ε α) (seen : σ → Prop) (s : Interleaving τ σ κ ι ρ ε α ω) (op : TransactionOp τ ω)
    (after : Interleaving τ σ κ ι ρ ε α ω) : Prop :=
  Moved look grows program seen s op after ∧
    ∀ more : σ → Prop, (∀ s, seen s → more s) → more after.store → (∀ earlier, grows earlier s.store → grows earlier after.store) →
      after.Sound look grows guards program more

omit [DecidableEq τ] [DecidableEq ι] in
theorem Sound.mono (sound : s.Sound look grows guards program seen) (wider : ∀ s, seen s → more s) (fresh : more s.store) :
    s.Sound look grows guards program more := by
  intro transaction call pending rest running
  obtain ⟨known, held, stands, now, locked⟩ := sound transaction call pending rest running
  obtain ⟨known', stands', _, later⟩ := stands.stays wider (fun _ _ => rfl) fresh fun _ grown => grown
  exact ⟨known', held, stands', later now, locked⟩

omit [DecidableEq ι] in
theorem Steps.silently {op : TransactionOp τ ω} {after : Interleaving τ σ κ ι ρ ε α ω} {standing : Standing σ κ ρ ε α ω}
    (sound : after.Sound look grows guards program seen) (idle : ∀ call answer, ¬s.Committing op call answer) (same : after.store = s.store)
    (moves : after.standing = update s.standing transaction standing)
    (unanswered : ∀ call answer, standing ≠ .finished call (.answered (.ok answer))) :
    Steps look grows guards program seen s op after :=
  ⟨.silently idle same moves unanswered, fun _ wider fresh _ => sound.mono wider fresh⟩

omit [DecidableEq ι] in
theorem Sound.stays (sound : s.Sound look grows guards program seen) {op : TransactionOp τ ω}
    (idle : ∀ call answer, ¬s.Committing op call answer) : Steps look grows guards program seen s op s :=
  ⟨.stays idle rfl fun _ _ _ finished => finished, fun _ wider fresh _ => sound.mono wider fresh⟩

omit [DecidableEq τ] [DecidableEq ι] in
theorem uncommitted {heard : Bool} (unfinished : ∀ call pending answer, s.standing transaction ≠ .running call pending (.pure answer))
    (call : ω) (answer : α) : ¬s.Committing (.step transaction heard) call answer := by
  rintro ⟨_, _, pending, same, standing⟩
  cases same
  exact unfinished call pending answer standing

theorem Sound.step (sound : s.Sound look grows guards program seen) (refl : ∀ s, grows s s)
    (within : ∀ call, (program call).Within look guards [] fun _ _ => True) (known : seen s.store) (transaction : τ)
    (heard : Bool) : Steps look grows guards program seen s (.step transaction heard) (s.step look guards transaction heard) := by
  unfold Interleaving.step
  cases here : s.standing transaction with
  | idle | finished => exact sound.stays (uncommitted fun _ _ _ => by rw [here]; exact nofun)
  | running call pending rest =>
    obtain ⟨floor, held, stands, now, locked⟩ := sound transaction call pending rest here
    cases rest with
    | fail error =>
      refine .silently (sound.finish (fun _ it => it) known (fun _ it => it) fun _ _ _ _ => rfl)
        (uncommitted fun _ _ _ => by rw [here]; exact nofun) rfl rfl fun _ _ same => ?_
      cases same
    | write update next =>
      refine .silently (sound.moveTo (fun _ _ there => there) ?_) (uncommitted fun _ _ _ => by rw [here]; exact nofun) rfl rfl
        fun _ _ same => by cases same
      rintro _ _ _ ⟨⟩
      exact ⟨floor, held, stands.write, now, locked⟩
    | pure value =>
      have outside := (stands.within (within call)).1
      refine ⟨.commits rfl here rfl (stands.runs ⟨rfl, rfl⟩), fun more wider fresh grown => sound.finish wider fresh grown ?_⟩
      intro key other distinct its
      refine outside s.store key fun guard one inside => distinct ?_
      obtain ⟨mine, member, both⟩ := mem_flatMap.mp inside
      exact Option.some.inj ((its guard one).symm.trans (locked mine member guard both))
    | ask key takes next =>
      have unfinished : ∀ call pending answer, s.standing transaction ≠ .running call pending (.pure answer) :=
        fun _ _ _ => by rw [here]; exact nofun
      dsimp only
      split
      next taken =>
        split
        next free =>
          refine .silently (sound.moveTo ?_ ?_) (uncommitted unfinished) rfl rfl fun _ _ same => by cases same
          · intro guard holder there
            split
            next its =>
              have own := all_eq_true.mp free guard its
              rw [there, Option.all_some, decide_eq_true_eq] at own
              rw [own]
            next => exact there
          · rintro _ _ _ ⟨⟩
            refine ⟨floor, key :: held, stands.locked taken, now, forall_mem_cons.mpr ⟨fun guard its => if_pos its, ?_⟩⟩
            intro mine inside guard its
            split
            · rfl
            · exact locked mine inside guard its
        next => exact sound.stays (uncommitted unfinished)
      next free =>
        refine .silently (sound.moveTo (fun _ _ there => there) ?_) (uncommitted unfinished) rfl rfl fun _ _ same => by cases same
        rintro _ _ _ ⟨⟩
        exact ⟨_, held, stands.read now (by simpa using free), ⟨now, refl s.store⟩, locked⟩

theorem Sound.apply (sound : s.Sound look grows guards program seen) (refl : ∀ s, grows s s)
    (within : ∀ call, (program call).Within look guards [] fun _ _ => True) (known : seen s.store) (op : TransactionOp τ ω) :
    Steps look grows guards program seen s op (s.apply look guards program op) := by
  cases op with
  | step transaction heard => exact sound.step refl within known transaction heard
  | start transaction call =>
    simp only [Interleaving.apply]
    cases s.standing transaction with
    | running | finished => exact sound.stays fun _ _ committing => nomatch committing
    | idle =>
      refine .silently (sound.moveTo (fun _ _ there => there) ?_) (fun _ _ committing => nomatch committing) rfl rfl
        fun _ _ same => by cases same
      rintro _ _ _ ⟨⟩
      exact ⟨seen, [], .start, known, fun _ inside => by cases inside⟩
  | fail transaction =>
    simp only [Interleaving.apply]
    cases s.standing transaction with
    | idle | finished => exact sound.stays fun _ _ committing => nomatch committing
    | running call pending rest =>
      refine .silently (sound.finish (fun _ it => it) known (fun _ it => it) fun _ _ _ _ => rfl)
        (fun _ _ committing => nomatch committing) rfl rfl fun _ _ same => ?_
      cases same

section
variable {history : List (Entry (Interleaving τ σ κ ι ρ ε α ω) (TransactionOp τ ω))} {state : Interleaving τ σ κ ι ρ ε α ω}

/-- The stores that a transaction can have read in which commits at `before`. -/
def Past (good : σ → Prop) (grows : σ → σ → Prop) (before : σ) : σ → Prop := fun earlier => good earlier ∧ grows earlier before

section
variable (run : (interleaved τ look guards program start).Run history state)
include run

section
variable (within : ∀ call, (program call).Within look guards [] fun _ _ => True)
include within

theorem run_steps
    (good : σ → Prop) (grows : σ → σ → Prop)
    (refl : ∀ s, grows s s) (trans : ∀ {first middle last}, grows first middle → grows middle last → grows first last)
    (initial : good start)
    (keeps : ∀ entry ∈ history, ∀ call answer, good entry.before.store → entry.before.Committing entry.op call answer →
      Commits look grows program (Past good grows entry.before.store) entry.before.store entry.after.store call answer →
        good entry.after.store ∧ grows entry.before.store entry.after.store) :
    (good state.store ∧ ∀ seen ∈ (interleaved τ look guards program start).visited history, good seen.store ∧
        grows seen.store state.store) ∧
      ∀ entry ∈ history, good entry.before.store ∧ grows entry.before.store entry.after.store ∧
        Moved look grows program (Past good grows entry.before.store) entry.before entry.op entry.after := by
  suffices whole : (good state.store ∧ state.Sound look grows guards program (Past good grows state.store) ∧
      ∀ seen ∈ (interleaved τ look guards program start).visited history, good seen.store ∧ grows seen.store state.store) ∧
      ∀ entry ∈ history, good entry.before.store ∧ grows entry.before.store entry.after.store ∧
        Moved look grows program (Past good grows entry.before.store) entry.before entry.op entry.after from
    ⟨⟨whole.1.1, whole.1.2.2⟩, whole.2⟩
  induction run with
  | start =>
    refine ⟨⟨initial, (fun _ _ _ _ running => by cases running), ?_⟩, fun _ member => by cases member⟩
    intro seen member
    cases mem_singleton.mp member
    exact ⟨initial, refl _⟩
  | @step history before past op ready ih =>
    rw [forall_mem_cons] at keeps
    obtain ⟨⟨fine, sound, known⟩, entries⟩ := ih keeps.2
    obtain ⟨moved, sound'⟩ := sound.apply refl within ⟨fine, refl _⟩ op
    have next : good (before.apply look guards program op).store ∧
        grows before.store (before.apply look guards program op).store := by
      cases moved with
      | stays _ same =>
        rw [same]
        exact ⟨fine, refl _⟩
      | commits its last _ commits => exact keeps.1 _ _ fine ⟨_, _, _, its, last⟩ commits
    refine ⟨⟨next.1, ?_, ?_⟩, ?_⟩
    · exact sound' _ (fun earlier seen => ⟨seen.1, trans seen.2 next.2⟩) ⟨next.1, refl _⟩ fun _ grown => trans grown next.2
    · refine forall_mem_cons.mpr ⟨⟨next.1, refl _⟩, fun seen member => ?_⟩
      exact ⟨(known seen member).1, trans (known seen member).2 next.2⟩
    · exact forall_mem_cons.mpr ⟨⟨fine, next.2, moved⟩, entries⟩

theorem run_entry
    {entry : Entry (Interleaving τ σ κ ι ρ ε α ω) (TransactionOp τ ω)} (member : entry ∈ history) :
    ((∀ call answer, ¬entry.before.Committing entry.op call answer) → entry.after.store = entry.before.store) ∧
      ∀ call answer, entry.before.Committing entry.op call answer →
        Commits look (fun _ _ => True) program (fun _ => True) entry.before.store entry.after.store call answer := by
  obtain ⟨_, _, moved⟩ := (run_steps run within (fun _ => True) (fun _ _ => True) (fun _ => trivial)
    (fun _ _ => trivial) trivial fun _ _ _ _ _ _ _ => ⟨trivial, trivial⟩).2 entry member
  refine ⟨fun silent => ?_, fun call answer committing => (moved.committed committing).mono fun _ _ => trivial⟩
  rcases moved.cases with ⟨_, same⟩ | ⟨call, answer, committing, _⟩
  · exact same
  · exact absurd committing (silent call answer)

theorem run_commits
    (holds : List (Entry (Interleaving τ σ κ ι ρ ε α ω) (TransactionOp τ ω)) → σ → Prop) (initial : holds [] start)
    (stays : ∀ history entry, holds history entry.before.store → entry.after.store = entry.before.store →
      holds (entry :: history) entry.after.store)
    (commits : ∀ history entry call answer, holds history entry.before.store → entry.before.Committing entry.op call answer →
      Commits look (fun _ _ => True) program (fun _ => True) entry.before.store entry.after.store call answer →
        holds (entry :: history) entry.after.store) : holds history state.store := by
  induction run with
  | start => exact initial
  | @step history before past op ready ih =>
    obtain ⟨silent, done⟩ := run_entry (past.step op ready) within mem_cons_self
    by_cases committing : ∃ call answer, before.Committing op call answer
    · obtain ⟨call, answer, committing⟩ := committing
      exact commits history ⟨before, op, _⟩ call answer ih committing (done call answer committing)
    · exact stays history ⟨before, op, _⟩ ih (silent fun call answer its => committing ⟨call, answer, its⟩)

theorem run_pairwise
    (good : σ → Prop) (grows : σ → σ → Prop)
    (refl : ∀ s, grows s s) (trans : ∀ {first middle last}, grows first middle → grows middle last → grows first last)
    (initial : good start)
    (keeps : ∀ entry ∈ history, ∀ call answer, good entry.before.store → entry.before.Committing entry.op call answer →
      Commits look grows program (Past good grows entry.before.store) entry.before.store entry.after.store call answer →
        good entry.after.store ∧ grows entry.before.store entry.after.store) :
    history.Pairwise fun later earlier => grows earlier.after.store later.before.store := by
  induction run with
  | start => exact .nil
  | step before op ready ih =>
    rw [forall_mem_cons] at keeps
    refine pairwise_cons.mpr ⟨fun earlier member => ?_, ih keeps.2⟩
    have visited := (run_steps before within good grows refl trans initial keeps.2).1.2
    exact (visited earlier.after (mem_append_left _ (mem_map_of_mem member))).2

end

end

end
end Interleaving

end MindLeak
