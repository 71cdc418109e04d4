import MindLeak.Library.Runs

/-! Calls whose statements commit one by one. Between two statements of a call those of any other may
run; what a call has done stays when a later statement of it fails, or when its process ends. -/

namespace MindLeak

open List Function

inductive Statements (σ ε α : Type) where
  | pure (value : α)
  | fail (error : ε)
  /-- What becomes of the store that the statement finds, and how the call goes on after it. -/
  | statement (update : σ → σ) (next : σ → Statements σ ε α)

namespace Statements
variable {σ ε α β : Type}
variable {program : Statements σ ε α} {update : σ → σ} {next : σ → Statements σ ε α} {s : σ} {found : List σ}

def bind (program : Statements σ ε α) (next : α → Statements σ ε β) : Statements σ ε β :=
  match program with
  | .pure value => next value
  | .fail error => .fail error
  | .statement update rest => .statement update fun s => (rest s).bind next

instance : Monad (Statements σ ε) where
  pure := .pure
  bind := .bind

@[simp] theorem pure_eq (value : α) : (Pure.pure value : Statements σ ε α) = .pure value := rfl
@[simp] theorem bind_eq (program : Statements σ ε α) (next : α → Statements σ ε β) : (program >>= next) = program.bind next := rfl

def query (view : σ → β) : Statements σ ε β := .statement id fun s => .pure (view s)

def ofExcept : Except ε α → Statements σ ε α
  | .ok value => .pure value
  | .error error => .fail error

/-- What a statement leaves behind. One that fails leaves the store. -/
def left (run : σ → Except ε (β × σ)) (s : σ) : σ :=
  match run s with
  | .ok (_, after) => after
  | .error _ => s

def execute (run : σ → Except ε (β × σ)) : Statements σ ε β := .statement (left run) fun s => ofExcept ((run s).map Prod.fst)

/-- The program behind its first statement, where that one found `s`. -/
def onward (s : σ) : Statements σ ε α → Statements σ ε α
  | .pure value => .pure value
  | .fail error => .fail error
  | .statement _ next => next s

def resume (program : Statements σ ε α) : List σ → Statements σ ε α
  | [] => program
  | s :: earlier => (program.resume earlier).onward s

def Ran (program : Statements σ ε α) : List σ → Prop
  | [] => True
  | _ :: earlier => (∃ update next, program.resume earlier = .statement update next) ∧ program.Ran earlier

def Leaves (program : Statements σ ε α) : List σ → Prop
  | [] => True
  | s :: earlier => (∀ update next, program.resume earlier = .statement update next → update s = s) ∧ program.Leaves earlier

def Answers (program : Statements σ ε α) : Except ε α → Prop
  | .ok value => program = .pure value
  | .error error => program = .fail error

theorem bind_assoc {γ : Type} (program : Statements σ ε α) (next : α → Statements σ ε β) (last : β → Statements σ ε γ) :
    (program.bind next).bind last = program.bind fun value => (next value).bind last := by
  induction program with
  | pure | fail => rfl
  | statement update rest ih => exact congrArg _ (funext ih)

theorem left_ok {run : σ → Except ε (β × σ)} {after : σ} {value : β} (returned : run s = .ok (value, after)) :
    left run s = after := by
  rw [left, returned]

theorem left_error {run : σ → Except ε (β × σ)} {error : ε} (failed : run s = .error error) : left run s = s := by
  rw [left, failed]

theorem answers_or_statement (program : Statements σ ε α) :
    (∃ answer, program.Answers answer) ∨ ∃ update next, program = .statement update next := by
  cases program with
  | pure value => exact .inl ⟨.ok value, rfl⟩
  | fail error => exact .inl ⟨.error error, rfl⟩
  | statement update next => exact .inr ⟨update, next, rfl⟩

theorem Answers.bars {answer : Except ε α} (answers : program.Answers answer)
    (statement : program = .statement update next) : False := by
  cases answer <;> cases answers.symm.trans statement

theorem Answers.of_fail {error : ε} {answer : Except ε α} (answers : (.fail error : Statements σ ε α).Answers answer) :
    answer = .error error := by
  cases answer <;> cases answers
  rfl

theorem Answers.of_pure {value : α} {answer : Except ε α} (answers : (.pure value : Statements σ ε α).Answers answer) :
    answer = .ok value := by
  cases answer <;> cases answers
  rfl

theorem Answers.resume {answer : Except ε α} (answers : program.Answers answer) (found : List σ) :
    program.resume found = program := by
  induction found with
  | nil => rfl
  | cons s earlier ih =>
    rw [Statements.resume, ih]
    cases answer <;> (unfold Answers at answers; rw [answers]; rfl)

theorem Ran.of_answer {answer : Except ε α} (ran : program.Ran found) (answers : program.Answers answer) : found = [] := by
  cases found with
  | nil => rfl
  | cons s earlier =>
    obtain ⟨⟨update, next, statement⟩, _⟩ := ran
    rw [answers.resume] at statement
    exact (answers.bars statement).elim

theorem Ran.of_resume (rest : program.resume found = .statement update next) : program.Ran found := by
  induction found generalizing update next with
  | nil => trivial
  | cons s earlier ih =>
    rcases (program.resume earlier).answers_or_statement with ⟨answer, answers⟩ | ⟨update', next', before⟩
    · have same : (program.resume earlier).onward s = program.resume earlier := answers.resume [s]
      rw [resume, same] at rest
      exact (answers.bars rest).elim
    · exact ⟨⟨update', next', before⟩, ih before⟩

theorem resume_concat (update : σ → σ) (next : σ → Statements σ ε α) (later : List σ) (first : σ) :
    (Statements.statement update next).resume (later ++ [first]) = (next first).resume later := by
  induction later with
  | nil => rfl
  | cons s later ih => rw [cons_append, resume, ih, resume]

theorem Ran.cases (ran : (Statements.statement update next).Ran found) :
    found = [] ∨ ∃ later first, found = later ++ [first] ∧ (next first).Ran later ∧
      (Statements.statement update next).resume found = (next first).resume later := by
  rcases eq_nil_or_concat found with none | ⟨later, first, rfl⟩
  · exact .inl none
  refine .inr ⟨later, first, concat_eq_append .., ?_, by rw [concat_eq_append, resume_concat]⟩
  rw [concat_eq_append] at ran
  induction later with
  | nil => trivial
  | cons s later ih =>
    obtain ⟨⟨update', next', statement⟩, ran⟩ := ran
    change (Statements.statement update next).resume (later ++ [first]) = _ at statement
    rw [resume_concat] at statement
    exact ⟨⟨update', next', statement⟩, ih ran⟩

/-- `rest` is what is left of the program behind the statements that found these stores. -/
def Stands (program : Statements σ ε α) (found : List σ) (rest : Statements σ ε α) : Prop :=
  program.Ran found ∧ program.resume found = rest

section
variable {found : List σ} {rest : Statements σ ε α}
variable {next : β → Statements σ ε α}

theorem Stands.answer {program : Statements σ ε α} (stands : program.Stands found rest) (answer : Except ε α)
    (answers : program.Answers answer) : found = [] ∧ rest = program := by
  obtain ⟨ran, rfl⟩ := stands
  exact ⟨ran.of_answer answers, answers.resume found⟩

theorem Stands.ofExcept {result : Except ε β} (stands : ((ofExcept result).bind next).Stands found rest) :
    (∃ error, result = .error error ∧ found = [] ∧ rest = .fail error) ∨ ∃ value, result = .ok value ∧ (next value).Stands found rest := by
  cases result with
  | error error =>
    obtain ⟨none, same⟩ := stands.answer (.error error) rfl
    exact .inl ⟨error, rfl, none, same⟩
  | ok value => exact .inr ⟨value, rfl, stands⟩

theorem Stands.statement {update : σ → σ} {next : σ → Statements σ ε α} (stands : (Statements.statement update next).Stands found rest) :
    (found = [] ∧ rest = .statement update next) ∨ ∃ later first, found = later ++ [first] ∧ (next first).Stands later rest := by
  obtain ⟨ran, rfl⟩ := stands
  rcases ran.cases with rfl | ⟨later, first, rfl, ran, same⟩
  · exact .inl ⟨rfl, rfl⟩
  · exact .inr ⟨later, first, rfl, ran, same.symm⟩

theorem Stands.query {view : σ → β} (stands : ((query view).bind next).Stands found rest) :
    (found = [] ∧ ∃ onward, rest = .statement id onward) ∨
      ∃ later first, found = later ++ [first] ∧ (next (view first)).Stands later rest := by
  rcases stands.statement with ⟨none, same⟩ | behind
  · exact .inl ⟨none, _, same⟩
  · exact .inr behind

theorem Stands.execute {run : σ → Except ε (β × σ)} (stands : ((execute run).bind next).Stands found rest) :
    (found = [] ∧ ∃ onward, rest = .statement (left run) onward) ∨
      (∃ first error, found = [first] ∧ run first = .error error ∧ rest = .fail error) ∨
      ∃ later first value after, found = later ++ [first] ∧ run first = .ok (value, after) ∧ (next value).Stands later rest := by
  rcases stands.statement with ⟨none, same⟩ | ⟨later, first, rfl, behind⟩
  · exact .inl ⟨none, _, same⟩
  right
  rcases behind.ofExcept with ⟨error, failed, rfl, same⟩ | ⟨value, passed, behind⟩
  · refine .inl ⟨first, error, rfl, ?_, same⟩
    cases done : run first with
    | ok => rw [done] at failed; cases failed
    | error => rw [done] at failed; cases failed; rfl
  · right
    cases done : run first with
    | error => rw [done] at passed; cases passed
    | ok result =>
      rw [done] at passed
      cases passed
      exact ⟨later, first, result.1, result.2, rfl, done, behind⟩

end

variable {value : α}

section
variable {stopped : σ} {error : ε}
variable {after : σ}

/-- The program with no other call between its statements: its answer, and what it leaves. -/
def exec : Statements σ ε α → σ → Except ε α × σ
  | .pure value, s => (.ok value, s)
  | .fail error, s => (.error error, s)
  | .statement update next, s => (next s).exec (update s)

inductive Stops : Statements σ ε α → σ → σ → Prop
  | here {program : Statements σ ε α} {s : σ} : Stops program s s
  | behind {update : σ → σ} {next : σ → Statements σ ε α} {s stopped : σ} (later : Stops (next s) (update s) stopped) :
    Stops (.statement update next) s stopped

@[simp] theorem exec_pure : (.pure value : Statements σ ε α).exec s = (.ok value, s) := rfl

theorem exec_bind {program : Statements σ ε α} {next : α → Statements σ ε β} (done : program.exec s = (.ok value, after)) :
    (program.bind next).exec s = (next value).exec after := by
  induction program generalizing s with
  | pure =>
    cases done
    rfl
  | fail => cases done
  | statement update rest ih => exact ih s done

theorem exec_query {view : σ → β} : (query view : Statements σ ε β).exec s = (.ok (view s), s) := rfl

theorem exec_execute {run : σ → Except ε (β × σ)} {value : β} (returned : run s = .ok (value, after)) :
    (execute run).exec s = (.ok value, after) := by
  change (ofExcept ((run s).map Prod.fst)).exec (left run s) = _
  rw [returned, left_ok returned]
  rfl

theorem Stops.of_pure (stops : (.pure value : Statements σ ε α).Stops s stopped) : stopped = s := by
  cases stops
  rfl

theorem Stops.last (program : Statements σ ε α) (s : σ) : program.Stops s (program.exec s).2 := by
  induction program generalizing s with
  | pure | fail => exact .here
  | statement update rest ih => exact .behind (ih s (update s))

def behind : Nat → Statements σ ε α → σ → σ
  | count + 1, .statement update next, s => (next s).behind count (update s)
  | _, _, s => s

theorem Stops.behind_count (count : Nat) (program : Statements σ ε α) (s : σ) : program.Stops s (program.behind count s) := by
  induction count generalizing program s with
  | zero => exact .here
  | succ count ih =>
    cases program with
    | pure | fail => exact .here
    | statement update next => exact .behind (ih (next s) (update s))

theorem Stops.bind {program : Statements σ ε α} {next : α → Statements σ ε β} (done : program.exec s = (.ok value, after))
    (stops : (program.bind next).Stops s stopped) : program.Stops s stopped ∨ (next value).Stops after stopped := by
  induction program generalizing s with
  | pure =>
    cases done
    exact .inr stops
  | fail => cases done
  | statement update rest ih =>
    cases stops with
    | here => exact .inl .here
    | behind later => exact (ih s done later).imp_left .behind

theorem Stops.query {view : σ → β} {next : β → Statements σ ε α} (stops : ((query view).bind next).Stops s stopped) :
    stopped = s ∨ (next (view s)).Stops s stopped := by
  cases stops with
  | here => exact .inl rfl
  | behind later => exact .inr later

theorem Stops.execute {run : σ → Except ε (β × σ)} {next : β → Statements σ ε α} {value : β}
    (returned : run s = .ok (value, after)) (stops : ((execute run).bind next).Stops s stopped) :
    stopped = s ∨ (next value).Stops after stopped := by
  cases stops with
  | here => exact .inl rfl
  | behind later =>
    change ((ofExcept ((run s).map Prod.fst)).bind next).Stops (left run s) stopped at later
    rw [left_ok returned, returned] at later
    exact .inr later

end

section
variable {good : σ → Prop} {found : List σ} {rest : Statements σ ε β}
variable {program : Statements σ ε α}

/-- The program only reads, and gives this value where every read finds one of these stores. -/
inductive Reads (good : σ → Prop) (value : α) : Statements σ ε α → Prop
  | pure : Reads good value (.pure value)
  | read {next : σ → Statements σ ε α} (onward : ∀ s, good s → Reads good value (next s)) : Reads good value (.statement id next)

theorem Reads.query {view : σ → β} {seen : β} (same : ∀ s, good s → view s = seen) : Reads good seen (query view : Statements σ ε β) := by
  refine .read fun s held => ?_
  rw [same s held]
  exact .pure

theorem Reads.mono {fewer : σ → Prop} (reads : Reads good value program) (covered : ∀ s, fewer s → good s) :
    Reads fewer value program := by
  induction reads with
  | pure => exact .pure
  | read _ ih => exact .read fun s held => ih s (covered s held)

theorem Reads.bind {next : α → Statements σ ε β} {last : β} (first : Reads good value program)
    (second : Reads good last (next value)) : Reads good last (program.bind next) := by
  induction first with
  | pure => exact second
  | read _ ih => exact .read ih

theorem Reads.exec (reads : Reads good value program) {s : σ} (held : good s) :
    program.exec s = (.ok value, s) := by
  induction reads with
  | pure => rfl
  | read _ ih => exact ih s held

theorem Reads.stands {next : α → Statements σ ε β} (reads : Reads good value program)
    (stands : (program.bind next).Stands found rest) (held : ∀ s ∈ found, good s) :
    (∃ onward, rest = .statement id onward) ∨ ∃ later earlier, found = later ++ earlier ∧ (next value).Stands later rest := by
  induction reads generalizing found with
  | pure => exact .inr ⟨found, [], (append_nil found).symm, stands⟩
  | read _ ih =>
    rcases stands.statement with ⟨_, same⟩ | ⟨later, first, rfl, behind⟩
    · exact .inl ⟨_, same⟩
    · rcases ih first (held first (by simp)) behind fun s member => held s (by simp [member]) with reading | ⟨last, earlier, rfl, onward⟩
      · exact .inl reading
      · exact .inr ⟨last, earlier ++ [first], append_assoc .., onward⟩

end

theorem Leaves.unchanged {later earlier : List σ} (leaves : program.Leaves (later ++ s :: earlier))
    (rest : program.resume earlier = .statement update next) : update s = s := by
  induction later with
  | nil => exact leaves.1 update next rest
  | cons _ _ ih => exact ih leaves.2

end Statements

/-- Where a call stands. `found` are the stores that its statements found, the latest first. -/
inductive CallStanding (σ ε α ω : Type) where
  | idle
  | running (call : ω) (found : List σ)
  | answered (call : ω) (found : List σ) (answer : Except ε α)
  /-- Its process ended. -/
  | stopped (call : ω) (found : List σ)

def CallStanding.answer? {σ ε α ω : Type} : CallStanding σ ε α ω → Option (Except ε α)
  | .answered _ _ answer => some answer
  | _ => none

structure Calls (τ σ ε α ω : Type) where
  store : σ
  standing : τ → CallStanding σ ε α ω

inductive CallOp (τ ω : Type) where
  | start (caller : τ) (call : ω)
  /-- The next statement, or the answer. -/
  | step (caller : τ)
  | stop (caller : τ)
  deriving DecidableEq

namespace Calls
variable {τ σ ε α ω : Type} [DecidableEq τ]

def moveTo (s : Calls τ σ ε α ω) (caller : τ) (standing : CallStanding σ ε α ω) : Calls τ σ ε α ω :=
  { s with standing := Function.update s.standing caller standing }

def step (program : ω → Statements σ ε α) (s : Calls τ σ ε α ω) (caller : τ) : Calls τ σ ε α ω :=
  match s.standing caller with
  | .running call found =>
    match (program call).resume found with
    | .pure value => s.moveTo caller (.answered call found (.ok value))
    | .fail error => s.moveTo caller (.answered call found (.error error))
    | .statement update _ => { s.moveTo caller (.running call (s.store :: found)) with store := update s.store }
  | _ => s

def apply (program : ω → Statements σ ε α) (s : Calls τ σ ε α ω) : CallOp τ ω → Calls τ σ ε α ω
  | .start caller call =>
    match s.standing caller with
    | .idle => s.moveTo caller (.running call [])
    | _ => s
  | .step caller => s.step program caller
  | .stop caller =>
    match s.standing caller with
    | .running call found => s.moveTo caller (.stopped call found)
    | _ => s

/-- The operation runs the statement of a call that comes behind those that found `found`. -/
def Runs (program : ω → Statements σ ε α) (s : Calls τ σ ε α ω) (op : CallOp τ ω) (call : ω) (found : List σ) (update : σ → σ) : Prop :=
  ∃ caller next, op = .step caller ∧ s.standing caller = .running call found ∧ (program call).resume found = .statement update next

end Calls

def calling (τ : Type) [DecidableEq τ] {σ ε α ω : Type} (program : ω → Statements σ ε α) (start : σ) :
    Machine (Calls τ σ ε α ω) (CallOp τ ω) where
  start := ⟨start, fun _ => .idle⟩
  enabled _ _ := True
  apply := Calls.apply program

namespace Calls
variable {τ σ ε α ω : Type} [DecidableEq τ] {program : ω → Statements σ ε α} {start : σ}
  {history : List (Entry (Calls τ σ ε α ω) (CallOp τ ω))} {state : Calls τ σ ε α ω}
variable {call : ω} {found : List σ}

section
variable {s : Calls τ σ ε α ω} {caller : τ} {found : List σ}

theorem step_answer {answer : Except ε α} (was : s.standing caller = .running call found)
    (gives : ((program call).resume found).Answers answer) : s.step program caller = s.moveTo caller (.answered call found answer) := by
  cases answer <;> (unfold Statements.Answers at gives; simp only [step, was, gives])

theorem step_statement {update : σ → σ} {next : σ → Statements σ ε α} (was : s.standing caller = .running call found)
    (rest : (program call).resume found = .statement update next) :
    s.step program caller = { s.moveTo caller (.running call (s.store :: found)) with store := update s.store } := by
  simp only [step, was, rest]

end

theorem apply_cases (program : ω → Statements σ ε α) (s : Calls τ σ ε α ω) (op : CallOp τ ω) : (s.apply program op).store = s.store ∨
    ∃ call found update, s.Runs program op call found update ∧ (s.apply program op).store = update s.store := by
  cases op with
  | start caller call | stop caller =>
    left
    simp only [apply]
    split <;> rfl
  | step caller =>
    cases its : s.standing caller with
    | idle | answered | stopped =>
      left
      simp only [apply, step, its]
    | running call found =>
      rcases Statements.answers_or_statement ((program call).resume found) with ⟨answer, gives⟩ | ⟨update, next, rest⟩
      · left
        rw [apply, step_answer its gives]
        rfl
      · exact .inr ⟨call, found, update, ⟨caller, next, rfl, its, rest⟩, congrArg store (step_statement its rest)⟩

theorem run_keeps (run : (calling τ program start).Run history state) (good : σ → Prop) (initial : good start)
    (keeps : ∀ entry ∈ history, ∀ call found update, entry.before.Runs program entry.op call found update →
      good entry.before.store → good (update entry.before.store)) : good state.store := by
  induction run with
  | start => exact initial
  | @step history before past op ready ih =>
    obtain ⟨here, earlier⟩ := forall_mem_cons.mp keeps
    have held := ih earlier
    change good (before.apply program op).store
    rcases apply_cases program before op with same | ⟨call, found, update, runs, same⟩
    · rw [same]
      exact held
    · rw [same]
      exact here call found update runs held

theorem run_since (run : (calling τ program start).Run history state) (good : σ → Prop)
    (keeps : ∀ entry ∈ history, ∀ call found update, entry.before.Runs program entry.op call found update →
      good entry.before.store → good (update entry.before.store)) :
    ∀ entry ∈ history, good entry.before.store → good entry.after.store ∧ good state.store := by
  induction run with
  | start => exact fun _ member => by cases member
  | @step history before past op ready ih =>
    obtain ⟨here, earlier⟩ := forall_mem_cons.mp keeps
    have onward (held : good before.store) : good (before.apply program op).store := by
      rcases apply_cases program before op with same | ⟨call, found, update, runs, same⟩
      · rw [same]
        exact held
      · rw [same]
        exact here call found update runs held
    refine forall_mem_cons.mpr ⟨fun held => ⟨onward held, onward held⟩, fun entry member held => ?_⟩
    obtain ⟨after, last⟩ := ih earlier entry member held
    exact ⟨after, onward last⟩

theorem apply_standing (program : ω → Statements σ ε α) (s : Calls τ σ ε α ω) (op : CallOp τ ω) (caller : τ) :
    ((s.apply program op).standing caller = s.standing caller ∧ (op = .step caller → (s.apply program op).store = s.store)) ∨
      (∃ call, op = .start caller call ∧ s.standing caller = .idle ∧ (s.apply program op).standing caller = .running call []) ∨
      (∃ call found, op = .stop caller ∧ s.standing caller = .running call found ∧
        (s.apply program op).standing caller = .stopped call found) ∨
      (∃ call found answer, s.standing caller = .running call found ∧ ((program call).resume found).Answers answer ∧
        (s.apply program op).standing caller = .answered call found answer ∧ (s.apply program op).store = s.store) ∨
      ∃ call found update next, op = .step caller ∧ s.standing caller = .running call found ∧
        (program call).resume found = .statement update next ∧ (s.apply program op).standing caller = .running call (s.store :: found) ∧
        (s.apply program op).store = update s.store := by
  cases op with
  | start other call =>
    simp only [apply]
    cases idle : s.standing other with
    | running | answered | stopped => exact .inl ⟨rfl, nofun⟩
    | idle =>
      rcases eq_or_ne caller other with rfl | apart
      · exact .inr (.inl ⟨call, rfl, idle, update_self ..⟩)
      · exact .inl ⟨update_of_ne apart .., nofun⟩
  | stop other =>
    simp only [apply]
    cases its : s.standing other with
    | idle | answered | stopped => exact .inl ⟨rfl, nofun⟩
    | running call found =>
      rcases eq_or_ne caller other with rfl | apart
      · exact .inr (.inr (.inl ⟨call, found, rfl, its, update_self ..⟩))
      · exact .inl ⟨update_of_ne apart .., nofun⟩
  | step other =>
    change ((s.step program other).standing caller = _ ∧ (_ → (s.step program other).store = _)) ∨ _
    cases its : s.standing other with
    | idle | answered | stopped =>
      left
      simp only [step, its]
      exact ⟨trivial, fun _ => trivial⟩
    | running call found =>
      rcases Statements.answers_or_statement ((program call).resume found) with ⟨answer, gives⟩ | ⟨update, next, rest⟩
      · have moved := step_answer its gives
        rcases eq_or_ne caller other with rfl | apart
        · refine .inr (.inr (.inr (.inl ⟨call, found, answer, its, gives, ?_, ?_⟩)))
          · exact (congrArg (standing · caller) moved).trans (update_self ..)
          · rw [apply, moved]
            rfl
        · refine .inl ⟨?_, fun mine => absurd (CallOp.step.inj mine).symm apart⟩
          exact (congrArg (standing · caller) moved).trans (update_of_ne apart ..)
      · have moved := step_statement its rest
        rcases eq_or_ne caller other with rfl | apart
        · refine .inr (.inr (.inr (.inr ⟨call, found, update, next, rfl, its, rest, ?_, ?_⟩)))
          · exact (congrArg (standing · caller) moved).trans (update_self ..)
          · exact congrArg store moved
        · refine .inl ⟨?_, fun mine => absurd (CallOp.step.inj mine).symm apart⟩
          exact (congrArg (standing · caller) moved).trans (update_of_ne apart ..)

theorem run_answers (run : (calling τ program start).Run history state) {caller : τ} {answer : Except ε α}
    (answered : state.standing caller = .answered call found answer) : ((program call).resume found).Answers answer := by
  induction run with
  | start => cases answered
  | @step history before past op ready ih =>
    change (before.apply program op).standing caller = _ at answered
    rcases apply_standing program before op caller with same | ⟨_, _, _, its⟩ | ⟨_, _, _, _, its⟩ |
      ⟨_, _, _, _, gives, its, _⟩ | ⟨_, _, _, _, _, _, _, its, _⟩
    · exact ih (same.1.symm.trans answered)
    · cases its.symm.trans answered
    · cases its.symm.trans answered
    · cases its.symm.trans answered
      exact gives
    · cases its.symm.trans answered

def trace : CallStanding σ ε α ω → Option (ω × List σ)
  | .idle => none
  | .running call found | .answered call found _ | .stopped call found => some (call, found)

def Own (program : ω → Statements σ ε α) (standing : CallStanding σ ε α ω) (entry : Entry (Calls τ σ ε α ω) (CallOp τ ω)) : Prop :=
  entry.after.store = entry.before.store ∨ ∃ call later earlier update next,
    trace standing = some (call, later ++ entry.before.store :: earlier) ∧
      (program call).resume earlier = .statement update next ∧ entry.after.store = update entry.before.store

omit [DecidableEq τ] in
theorem Own.carry {standing after : CallStanding σ ε α ω} {entry : Entry (Calls τ σ ε α ω) (CallOp τ ω)} (own : Own program standing entry)
    (more : List σ) (grows : trace after = (trace standing).map fun (call, found) => (call, more ++ found)) : Own program after entry := by
  refine own.imp id ?_
  rintro ⟨call, later, earlier, update, next, its, rest, done⟩
  refine ⟨call, more ++ later, earlier, update, next, ?_, rest, done⟩
  rw [grows, its, append_assoc]
  rfl

section
variable (run : (calling τ program start).Run history state)
include run

theorem run_own (caller : τ) :
    ∀ entry ∈ history, entry.op = .step caller → Own program (state.standing caller) entry := by
  induction run with
  | start => exact fun _ member => by cases member
  | @step history before past op ready ih =>
    have kept (more : List σ) (grows : trace ((before.apply program op).standing caller) =
        (trace (before.standing caller)).map fun (call, found) => (call, more ++ found)) :
        ∀ entry ∈ history, entry.op = .step caller → Own program ((before.apply program op).standing caller) entry :=
      fun entry member its => (ih entry member its).carry more grows
    change ∀ entry ∈ _ :: history, entry.op = .step caller → Own program ((before.apply program op).standing caller) entry
    rw [forall_mem_cons]
    rcases apply_standing program before op caller with ⟨same, silent⟩ | ⟨call, rfl, idle, _⟩ |
      ⟨call, found, rfl, was, now⟩ | ⟨call, found, answer, was, _, now, silent⟩ | ⟨call, found, update, next, _, was, rest, now, done⟩
    · refine ⟨fun mine => .inl (silent mine), kept [] ?_⟩
      rw [same]
      cases trace (before.standing caller) <;> rfl
    · refine ⟨nofun, fun entry member its => (ih entry member its).imp id ?_⟩
      rintro ⟨_, _, _, _, _, running, _⟩
      rw [idle] at running
      cases running
    · exact ⟨nofun, kept [] (by rw [was, now]; rfl)⟩
    · exact ⟨fun _ => .inl silent, kept [] (by rw [was, now]; rfl)⟩
    · exact ⟨fun _ => .inr ⟨call, [], found, update, next, by rw [now]; rfl, rest, done⟩, kept [before.store] (by rw [was, now]; rfl)⟩

theorem run_unchanged {caller : τ}
    (its : trace (state.standing caller) = some (call, found)) (leaves : (program call).Leaves found) :
    ∀ entry ∈ history, entry.op = .step caller → entry.after.store = entry.before.store := by
  intro entry member mine
  rcases run_own run caller entry member mine with same | ⟨call', later, earlier, update, next, found', rest, done⟩
  · exact same
  · cases its.symm.trans found'
    rw [done, leaves.unchanged rest]

theorem run_ran (caller : τ)
    (its : trace (state.standing caller) = some (call, found)) : (program call).Ran found := by
  induction run generalizing call found with
  | start => cases its
  | @step history before past op ready ih =>
    change trace ((before.apply program op).standing caller) = _ at its
    rcases apply_standing program before op caller with ⟨same, _⟩ | ⟨_, _, _, now⟩ | ⟨call', found', _, was, now⟩ |
      ⟨call', found', answer, was, _, now, _⟩ | ⟨call', found', update, next, mine, was, rest, now, _⟩
    · exact ih (same ▸ its)
    · rw [now] at its
      cases its
      trivial
    · rw [now] at its
      exact ih (by rw [was]; exact its)
    · rw [now] at its
      exact ih (by rw [was]; exact its)
    · rw [now] at its
      cases its
      exact ⟨⟨update, next, rest⟩, ih (by rw [was]; rfl)⟩

theorem run_found (caller : τ) {later earlier : List σ} {s : σ}
    (its : trace (state.standing caller) = some (call, later ++ s :: earlier)) : ∃ entry ∈ history, entry.op = .step caller ∧
      entry.before.standing caller = .running call earlier ∧ entry.before.store = s := by
  induction run generalizing call later with
  | start => cases its
  | @step history before past op ready ih =>
    have older {more : List σ} (same : trace (before.standing caller) = some (call, more ++ s :: earlier)) :
        ∃ entry ∈ (⟨before, op, before.apply program op⟩ :: history : List (Entry (Calls τ σ ε α ω) (CallOp τ ω))),
          entry.op = .step caller ∧ entry.before.standing caller = .running call earlier ∧ entry.before.store = s := by
      obtain ⟨entry, member, rest⟩ := ih same
      exact ⟨entry, mem_cons_of_mem _ member, rest⟩
    change trace ((before.apply program op).standing caller) = _ at its
    rcases apply_standing program before op caller with ⟨same, _⟩ | ⟨_, _, _, now⟩ | ⟨call', found', _, was, now⟩ |
      ⟨call', found', answer, was, _, now, _⟩ | ⟨call', found', update, next, mine, was, rest, now, _⟩
    · exact older (same ▸ its)
    · rw [now] at its
      exact absurd (congrArg Prod.snd (Option.some.inj its)) (by simp)
    · rw [now] at its
      exact older (by rw [was]; exact its)
    · rw [now] at its
      exact older (by rw [was]; exact its)
    · rw [now] at its
      cases later with
      | nil =>
        cases its
        exact ⟨_, mem_cons_self, mine, was, rfl⟩
      | cons last later =>
        cases its
        exact older (by rw [was]; rfl)

theorem run_grows (caller : τ) :
    ∀ entry ∈ history, trace (entry.before.standing caller) = some (call, found) →
      ∃ more, trace (state.standing caller) = some (call, more ++ found) := by
  induction run with
  | start => exact fun _ member => by cases member
  | @step history before past op ready ih =>
    have onward {had : List σ} (its : trace (before.standing caller) = some (call, had)) :
        ∃ more, trace ((before.apply program op).standing caller) = some (call, more ++ had) := by
      rcases apply_standing program before op caller with ⟨same, _⟩ | ⟨_, _, idle, _⟩ | ⟨_, _, _, was, now⟩ |
        ⟨_, _, _, was, _, now, _⟩ | ⟨_, _, _, _, _, was, _, now, _⟩
      · exact ⟨[], by rw [same]; exact its⟩
      · rw [idle] at its
        cases its
      · rw [was] at its
        exact ⟨[], by rw [now]; exact its⟩
      · rw [was] at its
        exact ⟨[], by rw [now]; exact its⟩
      · rw [was] at its
        cases its
        exact ⟨[before.store], by rw [now]; rfl⟩
    refine forall_mem_cons.mpr ⟨onward, fun entry member its => ?_⟩
    obtain ⟨more, older⟩ := ih entry member its
    obtain ⟨last, newer⟩ := onward older
    exact ⟨last ++ more, by rw [append_assoc]; exact newer⟩

end

end Calls
end MindLeak
